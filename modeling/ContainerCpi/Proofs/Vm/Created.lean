import ContainerCpi.Proofs.Vm.Assembly
import ContainerCpi.Proofs.Vm.Creation
import ContainerCpi.Proofs.Vm.Launch
import ContainerCpi.Proofs.Cloud.NetworkSetup

/-!
# What a successful VM creation leaves

A creation that succeeds has made one container, under the name of the identity it drew:
no container had that name, no other container changed, and the probe that may have chosen
the init system is gone.  The container runs, and is assembled (`VmCreation.Assembled`) from
the cloud properties the caller gave, the init system the creation chose, the setup that
enabling the networks gave and the node the first disk lives on in the engine as it was.

Two frame conditions carry this.  Until the VM's container is made, the calls of a creation
change no volume (`Call.keepsVolumes`): settling the properties only reads, the probe binds
nothing, enabling networks only adds networks, and locating the first disk reads the volumes.
So the disk is located among the volumes of before.  Once the container has started, writing
its agent environment changes its files alone (`Call.keepsRuns`).  Between the two, the
creation, the connections and the start build the container: stored stopped with the
designed specification, it gets one endpoint per further network and then runs.  The
endpoints are divided so that joining them all gives back the setup's map.
-/

namespace ContainerCpi

open MemoryHost

/-! ## Calls that keep the volumes, and calls that keep what containers run -/

namespace Call

/-- Calls that change no volume: all but creating and removing volumes and creating a
container that binds something. -/
def keepsVolumes : Call → Bool
  | .createVolume .. | .removeVolume .. => false
  | .create _ spec => spec.binds.isEmpty
  | _ => true

/-- Calls that keep every container's specification and run state: those that change no
object, and copies into a container, which change its files alone. -/
def keepsRuns (c : Call) : Bool :=
  c.changesNoObject || c matches .copyTo ..

theorem keepsVolumes_of_addsNetworksOnly {c : Call} (hc : c.addsNetworksOnly) : c.keepsVolumes := by
  cases c <;> simp_all [addsNetworksOnly, changesNoObject, keepsVolumes]

end Call

/-- What a container runs: its specification, and whether it runs. -/
def StoredContainer.run (c : StoredContainer) : ContainerSpec × Bool := (c.spec, c.running)

/-- Every container keeps its specification and run state from `o` to `o'`. -/
def EngineObjects.RunsKept (o o' : EngineObjects) : Prop :=
  ∀ name, (SortedMap.get? o'.containers name).map StoredContainer.run =
    (SortedMap.get? o.containers name).map StoredContainer.run

namespace MemoryEngine

theorem answer_volumes_of_keepsVolumes (s : MemoryEngine) {c : Call} (hc : c.keepsVolumes) :
    (s.answer c).2.volumes = s.volumes := by
  cases c with
  | create name spec =>
    have hbinds : spec.binds = [] := by simpa [Call.keepsVolumes] using hc
    simp only [answer]
    unfold create
    dsimp only
    repeat' split
    all_goals simp [hbinds]
  | createNetwork r => exact (createNetwork_containers_volumes s r).2
  | createVolume | removeVolume => simp [Call.keepsVolumes] at hc
  | _ => simp only [answer] <;> (repeat' split) <;> rfl

theorem serve_volumes_of_keepsVolumes (s : MemoryEngine) {c : Call} (hc : c.keepsVolumes) :
    (s.serve c).2.volumes = s.volumes :=
  serve_objects_of_answer (R := fun o o' => o'.volumes = o.volumes) (fun _ => rfl)
    (fun t => t.answer_volumes_of_keepsVolumes hc) s

theorem answer_runsKept (s : MemoryEngine) {c : Call} (hc : c.keepsRuns) :
    EngineObjects.RunsKept s.objects (s.answer c).2.objects := by
  cases c with
  | copyTo name dir archive =>
    intro n
    simp only [answer]
    split
    · rfl
    · split
      · simp only [objects, updateContainer, SortedMap.get?_modify]
        split
        · simp only [Option.map_map, Function.comp_def]
          rfl
        · rfl
      · rfl
  | _ =>
    simp only [Call.keepsRuns, Bool.or_eq_true] at hc
    rcases hc with hc | hc
    · rw [answer_objects_of_changesNoObject s hc]
      exact fun _ => rfl
    · simp at hc

theorem serve_runsKept (s : MemoryEngine) {c : Call} (hc : c.keepsRuns) :
    EngineObjects.RunsKept s.objects (s.serve c).2.objects :=
  serve_objects_of_answer (fun _ _ => rfl) (fun t => answer_runsKept t hc) s

theorem get?_serve_connect_of_ok {s : MemoryEngine} {network name : String}
    {endpoint : EndpointSettings} (h : (s.serve (.connectNetwork network name endpoint)).1 = .ok ()) :
    SortedMap.get? (s.serve (.connectNetwork network name endpoint)).2.containers name =
      (SortedMap.get? s.containers name).map fun c =>
        { c with spec := { c.spec with endpoints := SortedMap.insert network endpoint c.spec.endpoints } } := by
  have hserve := serve_eq_answer_of_ok h
  rw [hserve] at h ⊢
  revert h
  simp only [answer]
  split
  · intro h
    cases h
  · split
    · intro _
      simp [updateContainer]
    · intro h
      cases h

end MemoryEngine

namespace MemoryHost.OnlyCalls

variable {α : Type} {p : CloudM (StateM MemoryHost) α}

theorem volumes_eq (hp : OnlyCalls Call.keepsVolumes p) (h : MemoryHost) :
    (runOp p h).2.engine.volumes = h.engine.volumes :=
  hp.engine_keeps (R := fun s s' => s'.volumes = s.volumes) (fun _ => rfl)
    (fun h₁ h₂ => h₂.trans h₁) (fun _ hc s => s.serve_volumes_of_keepsVolumes hc) h

theorem runsKept (hp : OnlyCalls Call.keepsRuns p) (h : MemoryHost) :
    EngineObjects.RunsKept h.engine.objects (runOp p h).2.engine.objects :=
  hp.engine_keeps (R := fun s s' => EngineObjects.RunsKept s.objects s'.objects) (fun _ _ => rfl)
    (fun h₁ h₂ n => (h₂ n).trans (h₁ n)) (fun _ hc s => s.serve_runsKept hc) h

theorem runsKept_of_run (hp : OnlyCalls Call.keepsRuns p) {h h' : MemoryHost}
    {r : CpiResult α} (hrun : runOp p h = (r, h')) :
    EngineObjects.RunsKept h.engine.objects h'.engine.objects := by
  have hkept := hp.runsKept h
  rwa [hrun] at hkept

end MemoryHost.OnlyCalls

/-! ## The probe -/

namespace InitSystem

variable {P : Call → Bool}

theorem probeOutput_keeps (hP : ∀ id, P (.start id) ∧ P (.wait id) ∧ P (.logs id))
    {R : MemoryHost → MemoryHost → Prop} (trans : ∀ {h₁ h₂ h₃}, R h₁ h₂ → R h₂ h₃ → R h₁ h₃)
    (hc : ∀ c, P c → ∀ h : MemoryHost, R h { h with engine := (h.engine.serve c).2 })
    (id : String) (h : MemoryHost) : R h ((probeOutput backend id).run h).2 := by
  unfold probeOutput
  rw [run_call_bind]
  split
  · exact hc _ (hP id).1 h
  · rw [run_call_bind]
    split
    · exact trans (hc _ (hP id).1 h) (hc _ (hP id).2.1 _)
    · exact trans (trans (hc _ (hP id).1 h) (hc _ (hP id).2.1 _)) (hc _ (hP id).2.2 _)

theorem detect_onlyCalls {image : String} {platform : Platform}
    (hcreate : P (.create none (probeSpec image platform)))
    (hP : ∀ id, P (.start id) ∧ P (.wait id) ∧ P (.logs id) ∧ P (.remove id true)) :
    OnlyCalls P (detect backend image platform) := by
  intro R refl trans hc hd h
  unfold detect
  rw [runOp_lift, run_call_bind]
  split
  · exact hc _ hcreate h
  · rename_i id _
    rw [run_bind, run_call_bind]
    have hout := probeOutput_keeps (R := R) (fun id => ⟨(hP id).1, (hP id).2.1, (hP id).2.2.1⟩)
      trans hc id
      { h with engine := (h.engine.serve (.create none (probeSpec image platform))).2 }
    split <;> exact trans (trans (hc _ hcreate h) hout) (hc _ (hP id).2.2.2 _)

end InitSystem

/-! ## The plan -/

namespace DiskLocation

theorem locate_of_ok {d : DiskId} {l : DiskLocation} {h h' : MemoryHost}
    (hrun : runOp (locate backend d) h = (.ok l, h')) : l = ofVolumes h.engine.volumes d := by
  unfold locate at hrun
  obtain ⟨volumes, h₁, hlist, hpure⟩ := runOp_bind_eq_ok hrun
  rw [runOp_pure] at hpure
  cases hpure
  obtain ⟨hok, -⟩ := runOp_run_eq_ok hlist
  rw [MemoryEngine.serve_eq_answer_of_ok hok] at hok
  simp only [MemoryEngine.answer, MemoryEngine.enter_volumes, Except.ok.injEq] at hok
  rw [hok]

end DiskLocation

namespace VmCreation

variable {config : CpiConfig} {agent : AgentId} {stemcell : StemcellId} {cloudProps : Json}
  {networks : Networks} {disks : List DiskId} {env : List (String × Json)} {h h' : MemoryHost}

theorem settle_of_ok {props : VmProps}
    (hrun : runOp (settle backend cloudProps) h = (.ok props, h')) :
    ∃ props₀, VmProps.decode cloudProps = .ok props₀ ∧ props₀.Settled props := by
  unfold settle at hrun
  obtain ⟨props₀, h₁, hdecode, hrun⟩ := runOp_bind_eq_ok hrun
  obtain ⟨props₁, h₂, hclean, hrun⟩ := runOp_bind_eq_ok hrun
  obtain ⟨_, h₃, -, hrun⟩ := runOp_bind_eq_ok hrun
  rw [runOp_liftCpi, Prod.mk.injEq] at hdecode hclean
  -- whether or not the host reports its capacity, the properties are validated against it
  have hvalid : ∃ host, props₁.validate host = .ok props := by
    dsimp only at hrun
    split at hrun
    all_goals
      obtain ⟨host, _, -, hvalidate⟩ := runOp_bind_eq_ok hrun
      rw [runOp_liftCpi, Prod.mk.injEq] at hvalidate
      exact ⟨host, hvalidate.1⟩
  obtain ⟨host, hvalidate⟩ := hvalid
  exact ⟨props₀, hdecode.1,
    (VmProps.cleanMounts_settled props₀ props₁ hclean.1).validate host props hvalidate⟩

theorem chooseInit_settled {props₀ props : VmProps} (hs : props₀.Settled props) :
    chooseInit backend config stemcell props = chooseInit backend config stemcell props₀ := by
  unfold chooseInit
  rw [hs.initSystem, hs.platform]

theorem chooseInit_keepsVolumes (config : CpiConfig) (stemcell : StemcellId) (props : VmProps) :
    OnlyCalls Call.keepsVolumes (chooseInit backend config stemcell props) := by
  unfold chooseInit
  split
  · exact .pure _
  · split
    · exact .pure _
    · exact InitSystem.detect_onlyCalls rfl fun _ => ⟨rfl, rfl, rfl, rfl⟩

/-- A design that succeeds enabled the networks, drew the VM's identity next, located the
first disk among the volumes as they were then, and planned the VM's container from the
properties, the init system and the setup. -/
theorem design_of_ok {props : VmProps} {init : InitSystem} {p : Plan}
    (hrun : runOp (design backend config agent stemcell networks disks env props init) h =
      (.ok p, h')) :
    ∃ setup enabled h₁, runOp (Networking.enable backend networks) h = (.ok (setup, enabled), h₁) ∧
      p.vm = VmId.ofUuid (countedUuid (h₁.drawn + 1)) ∧ p.init = init ∧
      p.additional = (EndpointSplit.of setup.endpoints).additional ∧
      p.spec = ContainerSpec.recordPlatform
        { config := configFor stemcell (rescheduleMarker ::
              (disks.head?.bind fun d => (DiskLocation.ofVolumes h₁.engine.volumes d).node?).toList.map
                (Vm.nodeConstraintPrefix ++ ·)) props.exposedPorts init setup.initScript
          hostConfig := some (hostConfigFor props p.vm)
          endpoints := (EndpointSplit.of setup.endpoints).primary
          platform := props.platform
          node := none } := by
  unfold design at hrun
  obtain ⟨⟨setup, enabled⟩, h₁, henable, hrest⟩ := runOp_bind_eq_ok hrun
  obtain ⟨u, h₂, huuid, hrest⟩ := runOp_bind_eq_ok hrest
  rw [runOp_uuid] at huuid
  cases huuid
  refine ⟨setup, enabled, h₁, henable, ?_⟩
  dsimp only at hrest
  -- the first disk, if any, pins the container to the node its volume names
  split at hrest
  · rename_i d hd
    obtain ⟨l, _, hlocate, hrest⟩ := runOp_bind_eq_ok hrest
    have hl := DiskLocation.locate_of_ok hlocate
    rw [runOp_bind_of_ok (runOp_pure _ _), runOp_pure] at hrest
    cases hrest
    rw [hd, hl]
    exact ⟨rfl, rfl, rfl, rfl⟩
  · rename_i hd
    rw [runOp_bind_of_ok (runOp_pure _ _), runOp_pure] at hrest
    cases hrest
    rw [hd]
    exact ⟨rfl, rfl, rfl, rfl⟩

theorem probeRemovable_settle {props₀ props : VmProps} (hs : props₀.Settled props)
    (hq : ProbeRemovable config props₀ h) :
    ProbeRemovable config props (runOp (settle backend cloudProps) h).2 := by
  rcases hq with hyes | hnamed | hremove | hcreate
  · exact .inl hyes
  · refine .inr (.inl ?_)
    rw [hs.initSystem]
    exact hnamed
  · exact .inr (.inr (.inl ((settle_frame cloudProps h).queued _ hremove)))
  · refine .inr (.inr (.inr ?_))
    rw [(settle_onlyCalls cloudProps).queued_eq (fun c hc => ?_) h]
    · exact hcreate
    · cases c <;> simp_all [Call.changesNoObject, Call.op]

/-- A plan that succeeds, when the probe can remove its container, decoded and settled the
cloud properties, chose the init system and enabled the networks in turn, drew the VM's
identity next and designed its container, with the first disk located among the volumes of
before.  The containers are as they were. -/
theorem plan_designed
    (hq : ∀ props, VmProps.decode cloudProps = .ok props → ProbeRemovable config props h)
    {p : Plan}
    (hrun : runOp (plan backend config agent stemcell cloudProps networks disks env) h =
      (.ok p, h')) :
    ∃ props₀ props init setup enabled h₂ h₃,
      VmProps.decode cloudProps = .ok props₀ ∧ props₀.Settled props ∧
      runOp (chooseInit backend config stemcell props₀) (runOp (settle backend cloudProps) h).2 =
        (.ok init, h₂) ∧
      runOp (Networking.enable backend networks) h₂ = (.ok (setup, enabled), h₃) ∧
      p.vm = VmId.ofUuid (countedUuid (h₃.drawn + 1)) ∧ p.init = init ∧
      p.additional = (EndpointSplit.of setup.endpoints).additional ∧
      p.spec = ContainerSpec.recordPlatform
        { config := configFor stemcell (rescheduleMarker ::
              (disks.head?.bind fun d => (DiskLocation.ofVolumes h.engine.volumes d).node?).toList.map
                (Vm.nodeConstraintPrefix ++ ·)) props.exposedPorts init setup.initScript
          hostConfig := some (hostConfigFor props p.vm)
          endpoints := (EndpointSplit.of setup.endpoints).primary
          platform := props.platform
          node := none } ∧
      h'.engine.containers = h.engine.containers := by
  unfold plan at hrun
  obtain ⟨props, h₁, hsettle, hrun⟩ := runOp_bind_eq_ok hrun
  obtain ⟨props₀, hdecode, hs⟩ := settle_of_ok hsettle
  obtain ⟨init, h₂, hinit, hrun⟩ := runOp_bind_eq_ok hrun
  obtain ⟨p', h₃, hdesign, hrun⟩ := runOp_bind_eq_ok hrun
  obtain ⟨_, h₄, hvolume, hrun⟩ := runOp_bind_eq_ok hrun
  rw [runOp_pure] at hrun
  cases hrun
  obtain ⟨setup, enabled, h₃', henable, hvm, hinit', hadditional, hspec⟩ := design_of_ok hdesign
  -- no volume changed before the first disk was located
  have hv01 := ((settle_onlyCalls cloudProps).mono fun _ hc =>
    Call.keepsVolumes_of_addsNetworksOnly (by simp [Call.addsNetworksOnly, hc])).volumes_eq h
  have hv12 := (chooseInit_keepsVolumes config stemcell props).volumes_eq h₁
  have hv23 := ((Networking.enable_onlyCalls networks).mono fun _ hc =>
    Call.keepsVolumes_of_addsNetworksOnly hc).volumes_eq h₂
  rw [hsettle] at hv01
  rw [hinit] at hv12
  rw [henable] at hv23
  -- the containers are kept by every step, the ephemeral volume's creation included
  have htrans := @EngineObjects.NetworksAdded.trans
  have h01 := settle_frame cloudProps h
  rw [hsettle] at h01
  have hprobe : ProbeRemovable config props (runOp (settle backend cloudProps) h).2 :=
    probeRemovable_settle hs (hq props₀ hdecode)
  rw [hsettle] at hprobe
  obtain ⟨_, -, h12⟩ := chooseInit_frame config stemcell props hprobe
  rw [hinit] at h12
  have h23 :=
    (design_onlyCalls config agent stemcell networks disks env props init).frame_networksAdded h₂
  rw [hdesign] at h23
  obtain ⟨hok, rfl⟩ := runOp_run_eq_ok hvolume
  have hcreate : (h₃.engine.serve (.createVolume p.vm.ephemeralDisk.value volumeDriver)).2.containers =
      h₃.engine.containers := by
    rw [MemoryEngine.serve_eq_answer_of_ok hok]
    simp [MemoryEngine.answer, MemoryEngine.addVolume]
  refine ⟨props₀, props, init, setup, enabled, h₂, h₃', hdecode, hs, ?_, henable, hvm, hinit',
    hadditional, ?_, ?_⟩
  · rw [hsettle, ← chooseInit_settled hs]
    exact hinit
  · rw [hspec, hv23, hv12, hv01]
  · rw [hcreate]
    exact ((h01.trans h12 htrans).trans h23 htrans).objects.containers

end VmCreation

/-! ## The launch -/

namespace VmCreation

/-- The endpoints a container has after joining networks in order. -/
def joined (endpoints additional : List (String × EndpointSettings)) : List (String × EndpointSettings) :=
  additional.foldl (fun m q => SortedMap.insert q.1 q.2 m) endpoints

theorem forM_connect_of_ok (vm : VmId)
    {f : String × EndpointSettings → CloudM (StateM MemoryHost) PUnit}
    (hf : ∀ q, f q = backend.run .connectNetwork (.connectNetwork q.1 vm.value q.2)) :
    ∀ (xs : List (String × EndpointSettings)) {h h' : MemoryHost},
      runOp (xs.forM f) h = (.ok (), h') →
      SortedMap.get? h'.engine.containers vm.value =
        (SortedMap.get? h.engine.containers vm.value).map fun c =>
          { c with spec := { c.spec with endpoints := joined c.spec.endpoints xs } }
  | [], h, h', hrun => by
    cases hrun
    simp [joined]
  | q :: rest, h, h', hrun => by
    obtain ⟨_, h₁, hq, hrest⟩ := runOp_bind_eq_ok (show runOp (f q >>= fun _ => rest.forM f) h = _ from hrun)
    rw [hf] at hq
    obtain ⟨hok, rfl⟩ := runOp_run_eq_ok hq
    rw [forM_connect_of_ok vm hf rest hrest, MemoryEngine.get?_serve_connect_of_ok hok, Option.map_map]
    rfl

/-- A launch that succeeds made the VM's container, which no container's name was: it runs
the specification it was created with, joined to the further networks. -/
theorem launch_of_ok {vm : VmId} {spec : ContainerSpec} {additional : List (String × EndpointSettings)}
    {init : InitSystem} {env : AgentEnv} {h h' : MemoryHost}
    (hrun : runOp (launch backend vm spec additional init env) h = (.ok (), h')) :
    SortedMap.get? h.engine.containers vm.value = none ∧
    ∃ c, SortedMap.get? h'.engine.containers vm.value = some c ∧ c.running = true ∧
      c.spec = { spec with endpoints := joined spec.endpoints additional } := by
  unfold launch at hrun
  obtain ⟨id, h₁, hcreate, hrun⟩ := runOp_bind_eq_ok hrun
  obtain ⟨hok₁, rfl⟩ := runOp_run_eq_ok hcreate
  obtain ⟨hfree, -⟩ := MemoryEngine.serve_create_of_ok hok₁
  obtain ⟨_, h₂, hconnect, hrun⟩ := runOp_bind_eq_ok hrun
  obtain ⟨_, h₃, hstart, hrun⟩ := runOp_bind_eq_ok hrun
  obtain ⟨hok₃, rfl⟩ := runOp_run_eq_ok hstart
  -- the post-start command and the agent environment's write keep what the container runs
  have hwrite := FileTransfer.writeAgentEnv_onlyCalls_of (FileTransfer.forVm vm)
    (P := Call.keepsRuns) (fun c hc => by simp [Call.keepsRuns, hc]) (fun _ _ => rfl) env
  have hkept : EngineObjects.RunsKept
      (h₂.engine.serve (.start vm.value)).2.objects h'.engine.objects := by
    dsimp only at hrun
    refine OnlyCalls.runsKept_of_run ?_ hrun
    split
    · exact .bind (.tryCatch ((FileTransfer.exec_onlyCalls _ _).mono fun c hc => by
        simp [Call.keepsRuns, hc]) fun _ => .pure _) fun _ => hwrite
    · exact hwrite
  have hvm := hkept vm.value
  simp only [MemoryEngine.objects] at hvm
  rw [MemoryEngine.get?_serve_start_of_ok hok₃,
    forM_connect_of_ok vm (fun _ => rfl) additional hconnect,
    MemoryEngine.get?_serve_create_of_ok hok₁] at hvm
  refine ⟨hfree, ?_⟩
  rcases hc : SortedMap.get? h'.engine.containers vm.value with _ | c
  · rw [hc] at hvm
    cases hvm
  · rw [hc] at hvm
    simp only [Option.map_some, Option.some.injEq, StoredContainer.run, Prod.mk.injEq] at hvm
    exact ⟨c, rfl, hvm.2, hvm.1⟩

theorem joined_split {M : List (String × EndpointSettings)} (hM : SortedMap.Ascending M) :
    joined (EndpointSplit.of M).primary (EndpointSplit.of M).additional = M := by
  obtain ⟨-, hparts⟩ := EndpointSplit.of_parts M
  have hasc : SortedMap.Ascending
      ((EndpointSplit.of M).primary ++ (EndpointSplit.of M).additional) := by
    rw [hparts]
    exact SortedMap.ascending_ofList M
  unfold joined
  rw [SortedMap.foldl_insert_of_ascending hasc, hparts, SortedMap.ofList_of_ascending hM]

theorem complete_of_ok {p : Plan} {h h' : MemoryHost} {vm : VmId}
    (hrun : runOp (complete backend p) h = (.ok vm, h')) :
    vm = p.vm ∧ runOp (launch backend p.vm p.spec p.additional p.init p.agentEnv) h = (.ok (), h') := by
  unfold complete at hrun
  obtain ⟨_, h₁, htry, hpure⟩ := runOp_bind_eq_ok hrun
  rw [runOp_pure] at hpure
  cases hpure
  rcases runOp_tryCatch_eq_ok htry with hlaunch | ⟨e, h₂, -, hcleanup⟩
  · exact ⟨rfl, hlaunch⟩
  · -- a failed launch is cleaned up and its failure passed on
    obtain ⟨_, _, -, hthrow⟩ := runOp_bind_eq_ok hcleanup
    rw [runOp_throw] at hthrow
    cases hthrow


/-! ## The creation -/

section Created

variable {config : CpiConfig} {agent : AgentId} {stemcell : StemcellId} {cloudProps : Json}
  {networks : Networks} {disks : List DiskId} {env : List (String × Json)} {h h' : MemoryHost}

/-- A creation that succeeds, when the probe can remove its container, made one container: under
a freshly drawn identity `c-` and a UUID, which no container had, running, and assembled from
the cloud properties as decoded, the init system chosen for them, the setup that enabling the
networks gave and the node the first disk lived on.  Every other container is as it was, so
the probe, if one ran, is gone. -/
theorem create_postcondition
    (hq : ∀ props, VmProps.decode cloudProps = .ok props → ProbeRemovable config props h)
    {vm : VmId}
    (hrun : runOp (create backend config agent stemcell cloudProps networks disks env) h =
      (.ok vm, h')) :
    ∃ props init setup enabled h₂ h₃,
      VmProps.decode cloudProps = .ok props ∧
      runOp (chooseInit backend config stemcell props) (runOp (settle backend cloudProps) h).2 =
        (.ok init, h₂) ∧
      runOp (Networking.enable backend networks) h₂ = (.ok (setup, enabled), h₃) ∧
      vm = VmId.ofUuid (countedUuid (h₃.drawn + 1)) ∧
      SortedMap.get? h.engine.containers vm.value = none ∧
      SortedMap.erase vm.value h'.engine.containers = h.engine.containers ∧
      ∃ c, SortedMap.get? h'.engine.containers vm.value = some c ∧ c.running = true ∧
        Assembled stemcell props init setup
          (disks.head?.bind fun d => (DiskLocation.ofVolumes h.engine.volumes d).node?) vm
          c.spec := by
  unfold create at hrun
  obtain ⟨p, h₁, hplan, hcomplete⟩ := runOp_bind_eq_ok hrun
  obtain ⟨props₀, props, init, setup, enabled, h₂, h₃, hdecode, hs, hinit, henable, hvm, hinit',
    hadditional, hspec, hcontainers⟩ := plan_designed hq hplan
  obtain ⟨rfl, hlaunch⟩ := complete_of_ok hcomplete
  obtain ⟨hfree, c, hc, hrunning, hcspec⟩ := launch_of_ok hlaunch
  -- the launch changes no container but the VM's
  have hbinds : p.spec.binds.all ((fun _ => true) ∘ MemoryEngine.bindSource) = true :=
    List.all_eq_true.2 fun _ _ => rfl
  have hgrown := (launch_onlyCalls p.vm hbinds p.additional p.init p.agentEnv).grown h₁
  rw [hlaunch] at hgrown
  have hbefore : SortedMap.get? h.engine.containers p.vm.value = none := hcontainers ▸ hfree
  -- joining the further endpoints to the primary one gives back the setup's
  have hjoined : joined p.spec.endpoints p.additional = setup.endpoints := by
    rw [hspec, hadditional]
    exact joined_split (Networking.enable_endpoints_ascending henable)
  refine ⟨props₀, init, setup, enabled, h₂, h₃, hdecode, hinit, henable, hvm, hbefore, ?_,
    c, hc, hrunning, ?_⟩
  · calc SortedMap.erase p.vm.value h'.engine.containers
        = SortedMap.erase p.vm.value h₁.engine.containers := hgrown.containers
      _ = h₁.engine.containers := SortedMap.erase_of_get?_eq_none hfree
      _ = h.engine.containers := hcontainers
  · rw [hcspec, hjoined, hspec, ← hinit']
    exact assembled hs stemcell p.init setup _ p.vm _

/-- Creating a runit VM on one manual network, on an engine holding nothing. -/
theorem runit_vm_created :
    let h := Networking.emptyHost
    let stemcell : StemcellId := ⟨"bosh-stemcell:1.0"⟩
    let created :=
      runOp (create backend default ⟨"agent-1"⟩ stemcell runitProps manualNetwork [] []) h
    let vm := VmId.ofUuid (countedUuid 1)
    ((∀ props, VmProps.decode runitProps = .ok props → ProbeRemovable default props h) ∧
      created = (.ok vm, created.2)) ∧
    ∃ props init setup enabled h₂ h₃,
      VmProps.decode runitProps = .ok props ∧
      runOp (chooseInit backend default stemcell props) (runOp (settle backend runitProps) h).2 =
        (.ok init, h₂) ∧
      runOp (Networking.enable backend manualNetwork) h₂ = (.ok (setup, enabled), h₃) ∧
      vm = VmId.ofUuid (countedUuid (h₃.drawn + 1)) ∧
      SortedMap.get? h.engine.containers vm.value = none ∧
      SortedMap.erase vm.value created.2.engine.containers = h.engine.containers ∧
      ∃ c, SortedMap.get? created.2.engine.containers vm.value = some c ∧ c.running = true ∧
        Assembled stemcell props init setup
          (([] : List DiskId).head?.bind fun d => (DiskLocation.ofVolumes h.engine.volumes d).node?)
          vm c.spec := by
  intro h stemcell created vm
  have hfound : created.1.toOption = some vm := by decide +kernel
  have hok : created.1 = .ok vm := by
    generalize created.1 = r at hfound
    cases r with
    | error e => cases hfound
    | ok v => cases hfound; rfl
  have hrun : created = (.ok vm, created.2) := by rw [← hok]
  -- no removal failure is queued on an engine holding nothing
  have hprobe : ∀ props, VmProps.decode runitProps = .ok props → ProbeRemovable default props h :=
    fun _ _ => .inr (.inr (.inl rfl))
  exact ⟨⟨hprobe, hrun⟩, create_postcondition hprobe hrun⟩

end Created

end VmCreation

end ContainerCpi
