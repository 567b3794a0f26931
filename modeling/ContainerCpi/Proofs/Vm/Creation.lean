import ContainerCpi.Proofs.Cloud.Files
import ContainerCpi.Cloud.Create
import Mathlib.Tactic.Set

/-!
# What a failed VM creation leaves behind

A creation plans its VM (`VmCreation.plan`: settle the properties and the init system,
enable the networks, draw the VM's identity, design the container, create its ephemeral
volume) and then completes it (`VmCreation.complete`: launch, and clean up after a failed
launch).  The probe that may choose the init system removes its container whatever
happened to it, so planning only adds networks and, last, the ephemeral volume.  A launch
changes nothing but the VM's container and the volumes the engine creates for the sources
of its binds, and its cleanup removes that container and tries to remove the ephemeral
volume, without ever failing.

So when the engine's removals meet no queued failure and no object is named after an
identity still to be drawn, a failed creation fails with the error of the step that failed
first, leaves every container as it was and removes no network and no volume that existed;
what it may leave are networks, and volumes that are the ephemeral volume or sources of the
VM's binds.
-/

namespace ContainerCpi

open MemoryHost

/-! ## The init system probe -/

namespace InitSystem

theorem probeOutput_frame (id : String) (h : MemoryHost) :
    Frame (EngineObjects.Grown id fun _ => false) h ((probeOutput backend id).run h).2 := by
  have hgrows : ∀ c : Call, c.touchesOnly id → c.addsOnly (fun _ => false) →
      c.grows id (fun _ => false) := fun c ht ha => by simp [Call.grows, ht, ha]
  have hstep : ∀ c : Call, c.touchesOnly id → c.addsOnly (fun _ => false) → ∀ h : MemoryHost,
      Frame (EngineObjects.Grown id fun _ => false) h { h with engine := (h.engine.serve c).2 } :=
    fun c ht ha h => Frame.serve (fun s => s.serve_grown (hgrows c ht ha)) h
  have htrans := @EngineObjects.Grown.trans id fun _ => false
  unfold probeOutput
  rw [run_call_bind]
  have hstart := hstep (.start id) (by simp [Call.touchesOnly]) rfl h
  split
  · exact hstart
  · rw [run_call_bind]
    have hwait := hstep (.wait id) (by simp [Call.touchesOnly]) rfl
      { h with engine := (h.engine.serve (.start id)).2 }
    split
    · exact hstart.trans hwait htrans
    · exact (hstart.trans hwait htrans).trans
        (hstep (.logs id) (by simp [Call.touchesOnly]) rfl _) htrans

/-- The probe container is removed whatever happened to it: when removals meet no queued
failure, or a creation failure is queued so that no probe container is made, probing adds
nothing, and it never fails. -/
theorem detect_frame (image : String) (platform : Platform) {h : MemoryHost}
    (hq : h.engine.queued .remove = [] ∨ h.engine.queued .create ≠ []) :
    ∃ init, (runOp (detect backend image platform) h).1 = .ok init ∧
      Frame EngineObjects.NetworksAdded h (runOp (detect backend image platform) h).2 := by
  unfold detect
  rw [runOp_lift, run_call_bind]
  rcases hc : (h.engine.serve (.create none (probeSpec image platform))).1 with e | id
  · -- no probe container was made: nothing changed
    have hsame := h.engine.serve_objects_of_error hc
    refine ⟨.runit, rfl, ⟨?_, Nat.le_refl _, fun _ hq' => h.engine.queued_serve_of_nil _ hq'⟩⟩
    show EngineObjects.NetworksAdded h.engine.objects (h.engine.serve _).2.objects
    rw [hsame]
    exact .refl _
  · obtain ⟨hfree, hcont, hnet, hsub, hnew⟩ := h.engine.serve_create_of_ok hc
    rw [Option.getD_none] at hfree hcont
    -- the probe container was made, so no creation failure was queued and none for removals
    have hcreate : h.engine.queued .create = [] := by
      rcases hqc : h.engine.queued .create with _ | ⟨e, rest⟩
      · rfl
      · rw [@MemoryEngine.serve_of_queued _ (.create none (probeSpec image platform)) _ _ hqc] at hc
        cases hc
    have hremove := hq.resolve_right (not_not_intro hcreate)
    dsimp only
    rw [run_bind, run_call_bind]
    set h₁ : MemoryHost :=
      { engine := (h.engine.serve (.create none (probeSpec image platform))).2, drawn := h.drawn }
    set h₂ := ((probeOutput backend id).run h₁).2
    set h₃ : MemoryHost := { h₂ with engine := (h₂.engine.serve (.remove id true)).2 }
    -- after its creation the probe grows nothing but around its container, then removes it
    have hrun : Frame (EngineObjects.Grown id fun _ => false) h₁ h₃ :=
      (probeOutput_frame id h₁).trans (Frame.serve (fun s => s.serve_grown
        (by simp [Call.grows, Call.touchesOnly, Call.addsOnly])) h₂) EngineObjects.Grown.trans
    have hgone : SortedMap.get? h₃.engine.containers id = none :=
      h₂.engine.get?_serve_remove_forced id
        ((probeOutput_frame id h₁).queued _ (h.engine.queued_serve_of_nil _ hremove))
    have hsame : h₃.engine.containers = h.engine.containers := by
      calc h₃.engine.containers = SortedMap.erase id h₃.engine.containers :=
            (SortedMap.erase_of_get?_eq_none hgone).symm
        _ = SortedMap.erase id h₁.engine.containers := hrun.objects.containers
        _ = h.engine.containers := by
          rw [show h₁.engine.containers = _ from hcont, SortedMap.erase_insert_self]
          exact SortedMap.erase_of_get?_eq_none hfree
    have hvolumes : ∀ w, w ∈ h₃.engine.volumes ↔ w ∈ h.engine.volumes := fun w =>
      ⟨fun hw => by
        rcases hrun.objects.added w hw with h₁w | hfalse
        · rcases hnew w h₁w with hold | ⟨b, hb, -⟩
          · exact hold
          · exact absurd hb List.not_mem_nil
        · exact absurd hfalse Bool.false_ne_true,
      fun hw => hrun.objects.volumes (hsub hw)⟩
    have hnetworks : ∀ n x, SortedMap.get? h.engine.networks n = some x →
        SortedMap.get? h₃.engine.networks n = some x := fun n x hx =>
      hrun.objects.networks n x (by rw [show h₁.engine.objects.networks = _ from hnet]; exact hx)
    have hframe : Frame EngineObjects.NetworksAdded h h₃ :=
      ⟨⟨hsame, hnetworks, hvolumes⟩, hrun.drawn,
        fun op hq' => hrun.queued op (h.engine.queued_serve_of_nil _ hq')⟩
    rcases ((probeOutput backend id).run h₁).1 with e' | text
    · exact ⟨.runit, rfl, hframe⟩
    · exact ⟨classify text, rfl, hframe⟩

end InitSystem

/-! ## Enabling networks -/

namespace Networking

theorem enableDynamic_onlyCalls (name : String) (n : DirectorNetwork) :
    OnlyCalls Call.addsNetworksOnly (enableDynamic backend name n) := by
  unfold enableDynamic
  refine .bind (.liftSpec _) fun props => ?_
  dsimp only
  split
  · exact .throw_bind _ _
  · refine .bind (.ask rfl) fun r => ?_
    split
    · exact .pure _
    · split
      · exact .pure _
      · exact .throw_bind _ _

theorem enableManual_onlyCalls (name : String) (n : DirectorNetwork) :
    OnlyCalls Call.addsNetworksOnly (enableManual backend name n) := by
  unfold enableManual
  refine .bind (.liftSpec _) fun props => .bind (.liftSpec _) fun subnet => ?_
  dsimp only
  refine .bind (.ask rfl) fun r => ?_
  split
  · exact .pure _
  · split
    · exact .pure _
    · split
      · exact .throw _
      · split
        · exact .throw _
        · exact .pure _

theorem enableNetwork_onlyCalls (name : String) (n : DirectorNetwork) :
    OnlyCalls Call.addsNetworksOnly (enableNetwork backend name n) := by
  unfold enableNetwork
  split
  · exact enableDynamic_onlyCalls name n
  · exact enableManual_onlyCalls name n

theorem enableAll_onlyCalls : ∀ (networks : Networks) (setup : NetworkSetup) (ipv6Only : Bool),
    OnlyCalls Call.addsNetworksOnly (enableAll backend networks setup ipv6Only)
  | [], _, _ => .pure _
  | (name, n) :: rest, setup, ipv6Only => by
    unfold enableAll
    exact .bind (enableNetwork_onlyCalls name _) fun r => .bind (.liftSpec _) fun _ =>
      .bind (enableAll_onlyCalls rest _ _) fun _ => .pure _

theorem enable_onlyCalls (networks : Networks) :
    OnlyCalls Call.addsNetworksOnly (enable backend networks) := by
  unfold enable
  split
  · exact .throw_bind _ _
  · exact .pure_bind (.bind (enableAll_onlyCalls _ _ _) fun _ => .pure _)

end Networking

/-! ## Planning -/

namespace VmCreation

theorem settle_onlyCalls (cloudProps : Json) :
    OnlyCalls Call.changesNoObject (settle backend cloudProps) := by
  unfold settle
  refine .bind (.liftCpi _) fun props => .bind (.liftCpi _) fun props => ?_
  dsimp only
  refine .bind (.ask rfl) fun r => ?_
  split
  · exact .pure_bind (.liftCpi _)
  · exact .pure_bind (.liftCpi _)

/-- The probe that choosing the init system for `props` may run can remove its container: no
probe runs, because systemd is configured or the properties name the init system, or no
removal failure is queued, or a creation failure is, so that no probe container is made. -/
def ProbeRemovable (config : CpiConfig) (props : VmProps) (h : MemoryHost) : Prop :=
  config.startWithSystemd = true ∨ props.initSystem ≠ none ∨ h.engine.queued .remove = [] ∨
    h.engine.queued .create ≠ []

theorem chooseInit_frame (config : CpiConfig) (stemcell : StemcellId) (props : VmProps)
    {h : MemoryHost} (hq : ProbeRemovable config props h) :
    ∃ init, (runOp (chooseInit backend config stemcell props) h).1 = .ok init ∧
      Frame EngineObjects.NetworksAdded h (runOp (chooseInit backend config stemcell props) h).2 := by
  unfold chooseInit
  split
  · exact ⟨_, rfl, .refl .refl h⟩
  · rename_i hnone
    split
    · exact ⟨_, rfl, .refl .refl h⟩
    · rename_i hsystemd
      -- a probe runs
      refine InitSystem.detect_frame _ _ ?_
      rcases hq with hyes | hnamed | hremove | hcreate
      · exact absurd hyes hsystemd
      · exact absurd hnone hnamed
      · exact .inl hremove
      · exact .inr hcreate

theorem design_onlyCalls (config : CpiConfig) (agent : AgentId) (stemcell : StemcellId)
    (networks : Networks) (disks : List DiskId) (env : List (String × Json)) (props : VmProps)
    (init : InitSystem) :
    OnlyCalls Call.addsNetworksOnly
      (design backend config agent stemcell networks disks env props init) := by
  unfold design
  refine .bind (Networking.enable_onlyCalls _) fun ⟨setup, networks⟩ => .bind .uuid fun u => ?_
  dsimp only
  split
  · exact .bind ((DiskLocation.locate_onlyCalls _).mono fun c hc => by
      simp [Call.addsNetworksOnly, hc]) fun _ => .pure_bind (.pure _)
  · exact .pure_bind (.pure _)

/-- The VM a design names is named after an identity drawn during it. -/
theorem design_vm {config : CpiConfig} {agent : AgentId} {stemcell : StemcellId}
    {networks : Networks} {disks : List DiskId} {env : List (String × Json)} {props : VmProps}
    {init : InitSystem} {h h' : MemoryHost} {p : Plan}
    (hrun : runOp (design backend config agent stemcell networks disks env props init) h =
      (.ok p, h')) :
    ∃ k, h.drawn < k ∧ p.vm = VmId.ofUuid (countedUuid k) := by
  unfold design at hrun
  obtain ⟨⟨setup, enabled⟩, h₁, henable, hrest⟩ := runOp_bind_eq_ok hrun
  obtain ⟨u, h₂, huuid, hrest⟩ := runOp_bind_eq_ok hrest
  rw [runOp_uuid] at huuid
  cases huuid
  have hdrawn := (Networking.enable_onlyCalls networks).drawn_le h
  rw [henable] at hdrawn
  refine ⟨h₁.drawn + 1, Nat.lt_succ_of_le hdrawn, ?_⟩
  dsimp only at hrest
  -- whether or not the first disk pins the VM to a node, the plan names the drawn VM
  split at hrest
  · obtain ⟨_, _, -, hrest⟩ := runOp_bind_eq_ok hrest
    rw [runOp_bind_of_ok (runOp_pure _ _), runOp_pure] at hrest
    cases hrest
    rfl
  · rw [runOp_bind_of_ok (runOp_pure _ _), runOp_pure] at hrest
    cases hrest
    rfl

section Plan

variable {config : CpiConfig} {agent : AgentId} {stemcell : StemcellId} {cloudProps : Json}
  {networks : Networks} {disks : List DiskId} {env : List (String × Json)} {h h' : MemoryHost}

theorem settle_frame (cloudProps : Json) (h : MemoryHost) :
    Frame EngineObjects.NetworksAdded h (runOp (settle backend cloudProps) h).2 :=
  ((settle_onlyCalls cloudProps).mono fun _ hc => by
    simp [Call.addsNetworksOnly, hc]).frame_networksAdded h

/-- A plan that fails has only added networks. -/
theorem plan_of_error (hq : h.engine.queued .remove = []) {e : CpiError}
    (hrun : runOp (plan backend config agent stemcell cloudProps networks disks env) h =
      (.error e, h')) :
    Frame EngineObjects.NetworksAdded h h' := by
  have htrans := @EngineObjects.NetworksAdded.trans
  unfold plan at hrun
  have h01 := settle_frame cloudProps h
  rcases runOp_bind_eq_error hrun with hs | ⟨props, h₁, hs, hrest⟩
  · rwa [hs] at h01
  rw [hs] at h01
  obtain ⟨init, hinit, h12⟩ :=
    chooseInit_frame config stemcell props (.inr (.inr (.inl (h01.queued _ hq))))
  rcases runOp_bind_eq_error hrest with hi | ⟨init', h₂, hi, hrest⟩
  · -- choosing the init system never fails
    rw [hi] at hinit
    cases hinit
  rw [hi] at h12
  have h23 :=
    (design_onlyCalls config agent stemcell networks disks env props init').frame_networksAdded h₂
  rcases runOp_bind_eq_error hrest with hd | ⟨p, h₃, hd, hrest⟩
  · rw [hd] at h23
    exact (h01.trans h12 htrans).trans h23 htrans
  rw [hd] at h23
  rcases runOp_bind_eq_error hrest with hv | ⟨_, h₄, -, hrest⟩
  · -- the ephemeral volume was refused
    obtain ⟨_, hserve, rfl⟩ := runOp_run_eq_error hv
    exact ((h01.trans h12 htrans).trans h23 htrans).trans
      (Frame.serve_of_error EngineObjects.NetworksAdded.refl hserve) htrans
  · rw [runOp_pure] at hrest
    cases hrest

/-- A plan that succeeds names its VM after an identity it drew, and has grown the objects
around that VM: networks, and its ephemeral volume. -/
theorem plan_of_ok (hq : h.engine.queued .remove = []) {p : Plan}
    (hrun : runOp (plan backend config agent stemcell cloudProps networks disks env) h =
      (.ok p, h')) :
    (∃ k, h.drawn < k ∧ p.vm = VmId.ofUuid (countedUuid k)) ∧
      Frame (EngineObjects.Grown p.vm.value (· == p.vm.ephemeralDisk.value)) h h' ∧
      p.vm.ephemeralDisk.value ∈ h'.engine.volumes := by
  have htrans := @EngineObjects.NetworksAdded.trans
  unfold plan at hrun
  obtain ⟨props, h₁, hs, hrest⟩ := runOp_bind_eq_ok hrun
  have h01 := settle_frame cloudProps h
  rw [hs] at h01
  obtain ⟨init, h₂, hi, hrest⟩ := runOp_bind_eq_ok hrest
  obtain ⟨init', hinit, h12⟩ :=
    chooseInit_frame config stemcell props (.inr (.inr (.inl (h01.queued _ hq))))
  rw [hi] at h12
  obtain ⟨p', h₃, hd, hrest⟩ := runOp_bind_eq_ok hrest
  have h23 :=
    (design_onlyCalls config agent stemcell networks disks env props init).frame_networksAdded h₂
  rw [hd] at h23
  obtain ⟨_, h₄, hv, hrest⟩ := runOp_bind_eq_ok hrest
  rw [runOp_pure] at hrest
  cases hrest
  obtain ⟨k, hk, hvm⟩ := design_vm hd
  have h02 := h01.trans h12 htrans
  have h03 := h02.trans h23 htrans
  obtain ⟨hok, rfl⟩ := runOp_run_eq_ok hv
  refine ⟨⟨k, Nat.lt_of_le_of_lt h02.drawn hk, hvm⟩, ?_, ?_⟩
  · -- creating the ephemeral volume grows the objects around the VM by that volume
    have hcreate : (Call.createVolume p.vm.ephemeralDisk.value volumeDriver).grows p.vm.value
        (· == p.vm.ephemeralDisk.value) := by
      simp [Call.grows, Call.touchesOnly, Call.addsOnly]
    exact (h03.mono fun hna => hna.grown _ _).trans
      (Frame.serve (fun s => s.serve_grown hcreate) h₃) EngineObjects.Grown.trans
  · rw [MemoryEngine.serve_eq_answer_of_ok hok]
    exact SortedSet.mem_insert_self _ _

end Plan

/-! ## The launch and its cleanup -/

section Complete

variable {added : String → Bool}

theorem launch_onlyCalls (vm : VmId) {spec : ContainerSpec}
    (hbinds : spec.binds.all (added ∘ MemoryEngine.bindSource))
    (additional : List (String × EndpointSettings)) (init : InitSystem) (env : AgentEnv) :
    OnlyCalls (Call.grows vm.value added) (launch backend vm spec additional init env) := by
  have hread : ∀ c : Call, c.changesNoObject → c.grows vm.value added :=
    fun _ hc => Call.grows_of_changesNoObject _ _ hc
  have hwrite := FileTransfer.writeAgentEnv_onlyCalls_of (FileTransfer.forVm vm) hread
    (fun _ _ => by simp [Call.grows, Call.touchesOnly, Call.addsOnly, FileTransfer.forVm]) env
  unfold launch
  refine .bind (.run _ (by simp [Call.grows, Call.touchesOnly, Call.addsOnly, hbinds])) fun _ => ?_
  refine .bind (.forM fun _ _ => .run _ (by simp [Call.grows, Call.touchesOnly, Call.addsOnly]))
    fun _ => ?_
  refine .bind (.run _ (by simp [Call.grows, Call.touchesOnly, Call.addsOnly])) fun _ => ?_
  dsimp only
  split
  · exact .bind (.tryCatch ((FileTransfer.exec_onlyCalls _ _).mono hread) fun _ => .pure _)
      fun _ => hwrite
  · exact hwrite

theorem removeWithin_onlyCalls (vm : VmId) (added : String → Bool) :
    ∀ attempts, OnlyCalls (Call.grows vm.value added) (removeWithin backend vm attempts)
  | 0 => .pure _
  | attempts + 1 => by
    unfold removeWithin
    refine .bind (.ask (by simp [Call.grows, Call.touchesOnly, Call.addsOnly])) fun r => ?_
    split
    · exact .pure _
    · split
      · exact .pure _
      · exact .bind (.pause _) fun _ => removeWithin_onlyCalls vm added attempts

theorem removeWithin_gone (vm : VmId) :
    ∀ (attempts : Nat) (h : MemoryHost), h.engine.queued .remove = [] →
      (runOp (removeWithin backend vm (attempts + 1)) h).1 = .ok () ∧
      SortedMap.get? (runOp (removeWithin backend vm (attempts + 1)) h).2.engine.containers
        vm.value = none
  | attempts, h, hq => by
    have hgone := h.engine.get?_serve_remove_forced vm.value hq
    unfold removeWithin
    rw [runOp_bind, runOp_ask]
    dsimp only
    split
    · exact ⟨rfl, hgone⟩
    · split
      · exact ⟨rfl, hgone⟩
      · rename_i hretry
        -- a further try is made only while tries are left
        cases attempts with
        | zero => simp at hretry
        | succ attempts =>
          rw [runOp_bind_of_ok (runOp_pause _ _)]
          exact removeWithin_gone vm attempts _ (h.engine.queued_serve_of_nil _ hq)

theorem cleanUp_run (vm : VmId) (added : String → Bool) {h : MemoryHost}
    (hq : h.engine.queued .remove = []) :
    ∃ h₁, Frame (EngineObjects.Grown vm.value added) h h₁ ∧
      SortedMap.get? h₁.engine.containers vm.value = none ∧
      runOp (cleanUp backend vm) h = (.ok (),
        { h₁ with engine := (h₁.engine.serve (.removeVolume vm.ephemeralDisk.value true)).2 }) := by
  unfold cleanUp
  rw [runOp_bind_of_ok (runOp_attempt _ _)]
  set hs : MemoryHost := { h with engine := (h.engine.serve (.stop vm.value cleanupGrace)).2 }
  have hstop : Frame (EngineObjects.Grown vm.value added) h hs :=
    Frame.serve (fun s => s.serve_grown (by simp [Call.grows, Call.touchesOnly, Call.addsOnly])) h
  obtain ⟨hok, hgone⟩ := removeWithin_gone vm 2 hs (hstop.queued _ hq)
  have hremove := (removeWithin_onlyCalls vm added cleanupAttempts).frame_grown hs
  refine ⟨_, hstop.trans hremove EngineObjects.Grown.trans, hgone, ?_⟩
  rw [runOp_bind_of_ok (show runOp (removeWithin backend vm cleanupAttempts) hs = (.ok (), _) from
    Prod.ext hok rfl), runOp_attempt]

/-- A completion that fails failed in its launch, with the launch's own error: the cleanup
that follows removes the VM's container, grows nothing, and ends trying to remove the
ephemeral volume. -/
theorem complete_of_error {p : Plan} {h₁ h' : MemoryHost} {e : CpiError}
    (hq : h₁.engine.queued .remove = [])
    (hbinds : p.spec.binds.all (added ∘ MemoryEngine.bindSource))
    (hrun : runOp (complete backend p) h₁ = (.error e, h')) :
    ∃ h₂ h₃,
      runOp (launch backend p.vm p.spec p.additional p.init p.agentEnv) h₁ = (.error e, h₂) ∧
      Frame (EngineObjects.Grown p.vm.value added) h₁ h₃ ∧
      SortedMap.get? h₃.engine.containers p.vm.value = none ∧
      h' = { h₃ with
        engine := (h₃.engine.serve (.removeVolume p.vm.ephemeralDisk.value true)).2 } := by
  unfold complete at hrun
  rcases runOp_bind_eq_error hrun with htry | ⟨_, _, -, hpure⟩
  · rw [runOp_tryCatch] at htry
    have h12 := (launch_onlyCalls p.vm hbinds p.additional p.init p.agentEnv).frame_grown h₁
    rcases hl : runOp (launch backend p.vm p.spec p.additional p.init p.agentEnv) h₁ with
      ⟨e' | _, h₂⟩
    · rw [hl] at htry h12
      dsimp only at htry
      obtain ⟨h₃, h23, hgone, hclean⟩ := cleanUp_run p.vm added (h12.queued _ hq)
      rw [runOp_bind_of_ok hclean, runOp_throw] at htry
      cases htry
      exact ⟨h₂, h₃, rfl, h12.trans h23 EngineObjects.Grown.trans, hgone, rfl⟩
    · rw [hl] at htry
      cases htry
  · rw [runOp_pure] at hpure
    cases hpure

end Complete

/-! ## Failed creations -/

/-- Nothing of the engine is named after the VM: no container has its name, no volume is its
ephemeral disk, also under a node prefix, and no container binds that disk. -/
def Unused (vm : VmId) (s : MemoryEngine) : Prop :=
  SortedMap.get? s.containers vm.value = none ∧ s.resolveVolume vm.ephemeralDisk.value = none ∧
    s.volumeInUse vm.ephemeralDisk.value = false

/-- What a failed launch of a plan may leave among the volumes: the VM's ephemeral volume and
the sources of its container's binds. -/
def Plan.leftover (p : Plan) (w : String) : Bool :=
  w == p.vm.ephemeralDisk.value || p.spec.binds.any (MemoryEngine.bindSource · == w)

theorem Plan.leftover_iff {p : Plan} {w : String} :
    p.leftover w = true ↔
      w = p.vm.ephemeralDisk.value ∨ ∃ b ∈ p.spec.binds, MemoryEngine.bindSource b = w := by
  simp [Plan.leftover]

theorem resolveVolume_ephemeral {p : Plan} {s₀ s : MemoryEngine}
    (hunresolved : s₀.resolveVolume p.vm.ephemeralDisk.value = none)
    (hgrown : EngineObjects.Grown p.vm.value p.leftover s₀.objects s.objects)
    (hmem : p.vm.ephemeralDisk.value ∈ s.volumes)
    (hnode : ∀ b ∈ p.spec.binds, (Text.splitOnce (MemoryEngine.bindSource b) '/').map (·.2) ≠
      some p.vm.ephemeralDisk.value) :
    s.resolveVolume p.vm.ephemeralDisk.value = some p.vm.ephemeralDisk.value := by
  refine MemoryEngine.resolveVolume_self hmem fun w hw hanswers => ?_
  rcases hgrown.added w hw with hold | hnew
  · rw [MemoryEngine.volumeAnswers_of_resolveVolume_eq_none hunresolved hold] at hanswers
    cases hanswers
  · rcases Plan.leftover_iff.1 hnew with rfl | ⟨b, hb, rfl⟩
    · rfl
    · -- a bind's source answers to the name only by being it
      simp only [MemoryEngine.volumeAnswers, Bool.or_eq_true, beq_iff_eq] at hanswers
      rcases hanswers with hsame | hprefixed
      · exact hsame
      · refine absurd ?_ (hnode b hb)
        revert hprefixed
        cases Text.splitOnce (MemoryEngine.bindSource b) '/' <;> simp

/-- **A failed creation.**  When removals meet no queued failure and nothing of the engine is
named after an identity still to be drawn, a creation that fails does so with the error of
the step that failed first: of its plan, or of its launch, which the cleanup never replaces.
It leaves the containers as they were and removes no network and no volume that existed.  A
failed plan adds no volume.  After a failed launch the volumes added are sources of the VM's
binds, and its ephemeral volume, which is removed unless a bind names it under a node
prefix. -/
theorem create_failure_effects {config : CpiConfig} {agent : AgentId} {stemcell : StemcellId}
    {cloudProps : Json} {networks : Networks} {disks : List DiskId} {env : List (String × Json)}
    {h h' : MemoryHost} {e : CpiError} (hremove : h.engine.queued .remove = [])
    (hremoveVolume : h.engine.queued .removeVolume = [])
    (hfresh : ∀ k, h.drawn < k → Unused (VmId.ofUuid (countedUuid k)) h.engine)
    (hrun : runOp (create backend config agent stemcell cloudProps networks disks env) h =
      (.error e, h')) :
    h'.engine.containers = h.engine.containers ∧
    (∀ n x, SortedMap.get? h.engine.networks n = some x →
      SortedMap.get? h'.engine.networks n = some x) ∧
    h.engine.volumes ⊆ h'.engine.volumes ∧
    ((runOp (plan backend config agent stemcell cloudProps networks disks env) h = (.error e, h') ∧
        ∀ w ∈ h'.engine.volumes, w ∈ h.engine.volumes) ∨
      ∃ p h₁ h₂,
        runOp (plan backend config agent stemcell cloudProps networks disks env) h = (.ok p, h₁) ∧
        runOp (launch backend p.vm p.spec p.additional p.init p.agentEnv) h₁ = (.error e, h₂) ∧
        (∀ w ∈ h'.engine.volumes, w ∈ h.engine.volumes ∨ w = p.vm.ephemeralDisk.value ∨
          ∃ b ∈ p.spec.binds, MemoryEngine.bindSource b = w) ∧
        ((∀ b ∈ p.spec.binds, (Text.splitOnce (MemoryEngine.bindSource b) '/').map (·.2) ≠
            some p.vm.ephemeralDisk.value) →
          p.vm.ephemeralDisk.value ∉ h'.engine.volumes)) := by
  rcases runOp_bind_eq_error hrun with hplan | ⟨p, h₁, hplan, hcomplete⟩
  · -- the plan failed, having only added networks
    have hf := plan_of_error hremove hplan
    exact ⟨hf.objects.containers, hf.objects.networks, fun w hw => (hf.objects.volumes w).2 hw,
      .inl ⟨hplan, fun w hw => (hf.objects.volumes w).1 hw⟩⟩
  -- the plan succeeded and the launch failed
  obtain ⟨⟨k, hk, hvm⟩, h01, hephemeral⟩ := plan_of_ok hremove hplan
  obtain ⟨hfree, hunresolved, hunbound⟩ : Unused p.vm h.engine := by
    rw [hvm]
    exact hfresh k hk
  have hbinds : p.spec.binds.all (p.leftover ∘ MemoryEngine.bindSource) := by
    simp only [List.all_eq_true, Function.comp_apply, Plan.leftover_iff]
    exact fun b hb => .inr ⟨b, hb, rfl⟩
  obtain ⟨h₂, h₃, hlaunch, h13, hgone, rfl⟩ :=
    complete_of_error (h01.queued _ hremove) hbinds hcomplete
  have h03 := (h01.mono fun g => g.mono fun w hw =>
    Plan.leftover_iff.2 (.inl (by simpa using hw))).trans h13 EngineObjects.Grown.trans
  -- the cleanup removed the VM's container, whose name no container of before had
  have hcontainers : h₃.engine.containers = h.engine.containers := by
    calc h₃.engine.containers = SortedMap.erase p.vm.value h₃.engine.containers :=
          (SortedMap.erase_of_get?_eq_none hgone).symm
      _ = SortedMap.erase p.vm.value h.engine.containers := h03.objects.containers
      _ = h.engine.containers := SortedMap.erase_of_get?_eq_none hfree
  obtain ⟨hcs, hns, hvs, -⟩ := h₃.engine.serve_removeVolume p.vm.ephemeralDisk.value true
  refine ⟨hcs.trans hcontainers, fun n x hx => ?_,
    MemoryEngine.volumes_subset_serve_removeVolume true hunresolved h03.objects.volumes,
    .inr ⟨p, h₁, h₂, hplan, hlaunch, fun w hw => ?_, fun hnode => ?_⟩⟩
  · show SortedMap.get? (h₃.engine.serve _).2.networks n = some x
    rw [hns]
    exact h03.objects.networks n x hx
  · exact (h03.objects.added w (hvs w hw)).imp_right Plan.leftover_iff.1
  · -- the ephemeral volume answers only to itself and nothing binds it, so its removal succeeds
    have hresolve :=
      resolveVolume_ephemeral hunresolved h03.objects (h13.objects.volumes hephemeral) hnode
    have hnotInUse : h₃.engine.volumeInUse p.vm.ephemeralDisk.value = false := by
      simpa only [MemoryEngine.volumeInUse, hcontainers] using hunbound
    show p.vm.ephemeralDisk.value ∉ (h₃.engine.serve _).2.volumes
    rw [MemoryEngine.serve_removeVolume_of_unused true (h03.queued _ hremoveVolume) hresolve
      hnotInUse, SortedSet.mem_erase]
    exact fun hmem => hmem.2 rfl

/-- An engine holding nothing, which refuses the next start. -/
def startRefused : MemoryHost :=
  ⟨(MemoryEngine.empty ⟨8589934592, 4⟩).fail .start (.api 500 "OCI runtime create failed") 1, 0⟩

/-- Properties choosing runit, so that no probe runs. -/
def runitProps : Json := .object [("init_system", .string "runit")]

/-- One manual network in 10.0.0.0/24. -/
def manualNetwork : Networks :=
  let network : DirectorNetwork :=
    { kind := none, ip := "10.0.0.5", netmask := "255.255.255.0", gateway := "10.0.0.1",
      dns := [], default := [], mac := none, preconfigured := false, cloudProperties := [] }
  [("default", network)]

/-- Creating a VM on a manual network when the engine refuses to start it. -/
theorem create_failure_effects_of_refused_start :
    let h := startRefused
    let agent : AgentId := ⟨"agent-1"⟩
    let stemcell : StemcellId := ⟨"bosh-stemcell:1.0"⟩
    let failed := runOp (create backend default agent stemcell runitProps manualNetwork [] []) h
    let source := CpiError.engine .startContainer (.api 500 "OCI runtime create failed")
    (h.engine.queued .remove = [] ∧ h.engine.queued .removeVolume = [] ∧
      (∀ k, h.drawn < k → Unused (VmId.ofUuid (countedUuid k)) h.engine) ∧
      failed = (.error source, failed.2)) ∧
    failed.2.engine.containers = h.engine.containers ∧
    (∀ n x, SortedMap.get? h.engine.networks n = some x →
      SortedMap.get? failed.2.engine.networks n = some x) ∧
    h.engine.volumes ⊆ failed.2.engine.volumes ∧
    ((runOp (plan backend default agent stemcell runitProps manualNetwork [] []) h =
          (.error source, failed.2) ∧
        ∀ w ∈ failed.2.engine.volumes, w ∈ h.engine.volumes) ∨
      ∃ p h₁ h₂,
        runOp (plan backend default agent stemcell runitProps manualNetwork [] []) h = (.ok p, h₁) ∧
        runOp (launch backend p.vm p.spec p.additional p.init p.agentEnv) h₁ = (.error source, h₂) ∧
        (∀ w ∈ failed.2.engine.volumes, w ∈ h.engine.volumes ∨ w = p.vm.ephemeralDisk.value ∨
          ∃ b ∈ p.spec.binds, MemoryEngine.bindSource b = w) ∧
        ((∀ b ∈ p.spec.binds, (Text.splitOnce (MemoryEngine.bindSource b) '/').map (·.2) ≠
            some p.vm.ephemeralDisk.value) →
          p.vm.ephemeralDisk.value ∉ failed.2.engine.volumes)) := by
  intro h agent stemcell failed source
  have hfailed : failed.1 = .error source := by decide +kernel
  have hrun : failed = (.error source, failed.2) := by rw [← hfailed]
  -- the engine holds nothing, so no identity can meet one of its objects
  have hfresh : ∀ k, h.drawn < k → Unused (VmId.ofUuid (countedUuid k)) h.engine :=
    fun _ _ => ⟨rfl, rfl, rfl⟩
  exact ⟨⟨rfl, rfl, hfresh, hrun⟩, create_failure_effects rfl rfl hfresh hrun⟩

/-- That failed creation leaves the network it created behind, beside no container and no
volume. -/
theorem create_failure_leaves_network :
    let after := runOp (create backend default ⟨"agent-1"⟩ ⟨"bosh-stemcell:1.0"⟩ runitProps
      manualNetwork [] []) startRefused
    after.1.isOk = false ∧ startRefused.engine.networks = [] ∧
      after.2.engine.networks.map (·.1) = ["10.0.0.0/24"] ∧
      after.2.engine.containers = [] ∧ after.2.engine.volumes = [] := by
  decide +kernel

end VmCreation

end ContainerCpi
