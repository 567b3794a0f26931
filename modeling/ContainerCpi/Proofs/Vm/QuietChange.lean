import ContainerCpi.Proofs.Vm.StateFiles
import ContainerCpi.Proofs.Vm.Deletion
import ContainerCpi.Proofs.Vm.Created
import ContainerCpi.Proofs.Vm.BindList
import ContainerCpi.Proofs.Cloud.Transfers
import ContainerCpi.Proofs.Cloud.Disks
import ContainerCpi.Proofs.Director.AgentEnvText

/-!
# Disk changes on a quiet engine

An engine is *quiet* when no failure is queued for any call and every exit code queued for
an exec is 0 (`MemoryEngine.Quiet`).  Every call keeps an engine quiet, every call keeps its
containers a sorted map, and the calls that create no exec keep the exec log as it is.

On a quiet engine a disk change succeeds whenever the VM's container runs with its agent
environment written as the text of a readable document (`AgentEnv.Readable`) and no state
file, the disk's volume is there, and the engine numbers its execs within a machine word:
the teardown reads the document back, saves no state file, works out the successor and
removes the container (`teardown_of_quiet`); the rebuild creates, connects and starts the
successor (`rebuild_of_quiet`); the edited document is written back and nothing is restored
(`completeChange_of_quiet`).  Together: the successor runs the container's specification
pinned to the disk's node with the disk's bind changed, holds the edited document alone, and
the engine stays quiet with at most two more execs (`changeDisk_of_quiet`).
-/

namespace ContainerCpi

open MemoryHost

namespace Call

/-- Calls that run no command: every call but creating an exec, which records the command
and takes the next exit code. -/
def keepsExecs : Call → Bool
  | .createExec .. => false
  | _ => true

end Call

namespace MemoryEngine

/-- An engine with no failure queued for any call, whose next execs all exit 0. -/
structure Quiet (s : MemoryEngine) : Prop where
  failureFree : s.FailureFree
  exitCodes : ∀ code ∈ s.exitCodes, code = 0

/-! ## What every call keeps -/

theorem foldl_addBindVolume_execs : ∀ (binds : List String) (s : MemoryEngine),
    (binds.foldl addBindVolume s).execs = s.execs ∧
      (binds.foldl addBindVolume s).exitCodes = s.exitCodes
  | [], _ => ⟨rfl, rfl⟩
  | b :: rest, s => by
    rw [List.foldl_cons]
    rcases addBindVolume_cases s b with hb | hb <;> rw [hb] <;>
      exact foldl_addBindVolume_execs rest _

theorem create_execs (s : MemoryEngine) (name : Option String) (spec : ContainerSpec) :
    (s.create name spec).2.execs = s.execs ∧ (s.create name spec).2.exitCodes = s.exitCodes := by
  unfold create
  dsimp only
  split
  · exact ⟨rfl, rfl⟩
  · split
    · exact ⟨rfl, rfl⟩
    · exact foldl_addBindVolume_execs spec.binds _

theorem answer_execs_of_keepsExecs (s : MemoryEngine) {c : Call} (hc : c.keepsExecs) :
    (s.answer c).2.execs = s.execs ∧ (s.answer c).2.exitCodes = s.exitCodes := by
  cases c
  case create name spec => exact create_execs s name spec
  case createNetwork r =>
    simp only [answer]
    unfold createNetwork
    dsimp only
    repeat' split
    all_goals exact ⟨rfl, rfl⟩
  case createExec => cases hc
  all_goals
    simp only [answer]
    (repeat' split) <;> simp only [updateContainer, addVolume, and_self]

theorem serve_execs_of_keepsExecs (s : MemoryEngine) {c : Call} (hc : c.keepsExecs) :
    (s.serve c).2.execs = s.execs ∧ (s.serve c).2.exitCodes = s.exitCodes := by
  rcases hq : s.queued c.op with _ | ⟨e, rest⟩
  · rw [serve_of_not_queued hq, (answer_execs_of_keepsExecs _ hc).1,
      (answer_execs_of_keepsExecs _ hc).2, enter_execs, enter_exitCodes]
    exact ⟨rfl, rfl⟩
  · rw [serve_of_queued hq, enter_execs, enter_exitCodes]
    exact ⟨rfl, rfl⟩

theorem answer_exitCodes_sublist (s : MemoryEngine) (c : Call) :
    List.Sublist (s.answer c).2.exitCodes s.exitCodes := by
  cases hc : c.keepsExecs
  · cases c with
    | createExec name cmd =>
      simp only [answer]
      split
      · split
        · exact List.Sublist.refl _
        · cases s.exitCodes with
          | nil => exact List.Sublist.refl _
          | cons code rest => exact List.sublist_cons_self code rest
      · exact List.Sublist.refl _
    | _ => cases hc
  · exact (answer_execs_of_keepsExecs s hc).2 ▸ List.Sublist.refl _

theorem serve_exitCodes_sublist (s : MemoryEngine) (c : Call) :
    List.Sublist (s.serve c).2.exitCodes s.exitCodes := by
  rcases hq : s.queued c.op with _ | ⟨e, rest⟩
  · rw [serve_of_not_queued hq]
    simpa only [enter_exitCodes] using answer_exitCodes_sublist (s.enter c.op c.target).1 c
  · rw [serve_of_queued hq, enter_exitCodes]

theorem Quiet.serve {s : MemoryEngine} (hq : s.Quiet) (c : Call) : (s.serve c).2.Quiet where
  failureFree := hq.failureFree.serve c
  exitCodes code hcode := hq.exitCodes code ((serve_exitCodes_sublist s c).subset hcode)

/-- Every call keeps the containers a sorted map: a creation inserts, a removal erases, and
every other change is to one container's value. -/
theorem answer_containers_ascending (s : MemoryEngine) (c : Call)
    (hs : SortedMap.Ascending s.containers) : SortedMap.Ascending (s.answer c).2.containers := by
  have hmodify : ∀ (name : String) (f : StoredContainer → StoredContainer),
      SortedMap.Ascending (s.updateContainer name f).containers := fun name f => by
    simp only [updateContainer, SortedMap.modify, SortedMap.Ascending]
    exact List.pairwise_map.2 (hs.imp fun {p q} hpq => by split <;> split <;> exact hpq)
  cases c
  case create name spec =>
    simp only [answer]
    unfold create
    dsimp only
    split
    · exact hs
    · split
      · exact hs
      · rw [(foldl_addBindVolume _ _).1]
        exact hs.insert _ _
  case remove name force =>
    simp only [answer]
    split
    · split
      · exact hs
      · exact hs.sublist List.filter_sublist
    · exact hs
  case createNetwork r =>
    show SortedMap.Ascending (s.createNetwork r).2.containers
    rw [(createNetwork_containers_volumes s r).1]
    exact hs
  all_goals simp only [answer]; (repeat' split) <;> first | exact hs | exact hmodify _ _

theorem serve_containers_ascending (s : MemoryEngine) (c : Call)
    (hs : SortedMap.Ascending s.containers) : SortedMap.Ascending (s.serve c).2.containers := by
  rcases hq : s.queued c.op with _ | ⟨e, rest⟩
  · rw [serve_of_not_queued hq]
    exact answer_containers_ascending _ c (by rwa [enter_containers])
  · rw [serve_of_queued hq, enter_containers]
    exact hs

end MemoryEngine

namespace MemoryHost.OnlyCalls

variable {α : Type} {P : Call → Bool} {p : CloudM (StateM MemoryHost) α}

theorem quiet (hp : OnlyCalls P p) {h : MemoryHost} (hq : h.engine.Quiet) :
    (runOp p h).2.engine.Quiet :=
  hp.engine_keeps (R := fun s s' => s.Quiet → s'.Quiet) (fun _ => id)
    (fun h₁ h₂ hq => h₂ (h₁ hq)) (fun c _ _ hq => hq.serve c) h hq

theorem containers_ascending (hp : OnlyCalls P p) {h : MemoryHost}
    (hs : SortedMap.Ascending h.engine.containers) :
    SortedMap.Ascending (runOp p h).2.engine.containers :=
  hp.engine_keeps (R := fun s s' => SortedMap.Ascending s.containers →
      SortedMap.Ascending s'.containers) (fun _ => id)
    (fun h₁ h₂ hs => h₂ (h₁ hs)) (fun c _ s hs => s.serve_containers_ascending c hs) h hs

theorem execs_eq (hp : OnlyCalls Call.keepsExecs p) (h : MemoryHost) :
    (runOp p h).2.engine.execs = h.engine.execs ∧
      (runOp p h).2.engine.exitCodes = h.engine.exitCodes :=
  hp.engine_keeps (R := fun s s' => s'.execs = s.execs ∧ s'.exitCodes = s.exitCodes)
    (fun _ => ⟨rfl, rfl⟩) (fun h₁ h₂ => ⟨h₂.1.trans h₁.1, h₂.2.trans h₁.2⟩)
    (fun _ hc s => s.serve_execs_of_keepsExecs hc) h

end MemoryHost.OnlyCalls

namespace MemoryHost

theorem runOp_bind_of_fst {α β : Type} {p : CloudM (StateM MemoryHost) α}
    {f : α → CloudM (StateM MemoryHost) β} {h : MemoryHost} {a : α}
    (hp : (runOp p h).1 = .ok a) : runOp (p >>= f) h = runOp (f a) (runOp p h).2 := by
  rw [runOp_bind]
  rcases hr : runOp p h with ⟨r, h'⟩
  rw [hr] at hp
  obtain rfl : r = .ok a := hp
  rfl

theorem runOp_run_of_ok {phase : Phase} {c : Call} {h : MemoryHost} {r : c.Reply}
    (hok : (h.engine.serve c).1 = .ok r) :
    runOp (backend.run phase c) h = (.ok r, { h with engine := (h.engine.serve c).2 }) := by
  rw [runOp_run, hok]

end MemoryHost

namespace MemoryEngine

theorem serve_inspect_of_present {s : MemoryEngine} {name : String} {c : StoredContainer}
    (hq : s.queued .inspect = []) (hc : SortedMap.get? s.containers name = some c) :
    (s.serve (.inspect name)).1 = .ok c.spec := by
  rw [serve_of_not_queued hq]
  simp only [answer, container, enter_containers, hc]
  rfl

end MemoryEngine

namespace MemoryEngine

variable {s : MemoryEngine}

theorem serve_create_of_free {name : String} {spec : ContainerSpec} (hq : s.queued .create = [])
    (hfree : SortedMap.get? s.containers name = none)
    (hnets : ∀ q ∈ spec.endpoints, SortedMap.contains s.networks q.1 = true) :
    ∃ id, (s.serve (.create (some name) spec)).1 = .ok id := by
  have hnone : spec.endpoints.find? (fun q => !SortedMap.contains s.networks q.1) = none :=
    List.find?_eq_none.2 fun q hq' => by simp [hnets q hq']
  rw [serve_of_not_queued hq]
  simp only [answer]
  unfold create
  dsimp only
  rw [if_neg (by simp [SortedMap.contains_eq_isSome_get?, hfree])]
  split
  · rename_i net ep hfound
    rw [enter_networks] at hfound
    exact absurd hfound (by rw [show (fun x : String × EndpointSettings =>
      !SortedMap.contains s.networks x.1) = _ from rfl, hnone]; simp)
  · exact ⟨_, rfl⟩

theorem serve_connect_of_present {network name : String} {endpoint : EndpointSettings}
    {c : StoredContainer} (hq : s.queued .connectNetwork = [])
    (hnet : SortedMap.contains s.networks network = true)
    (hc : SortedMap.get? s.containers name = some c) :
    (s.serve (.connectNetwork network name endpoint)).1 = .ok () := by
  rw [serve_of_not_queued hq]
  simp only [answer, enter_networks, hnet, container, enter_containers, hc]
  rfl

theorem serve_start_of_present {name : String} {c : StoredContainer} (hq : s.queued .start = [])
    (hc : SortedMap.get? s.containers name = some c) : (s.serve (.start name)).1 = .ok () := by
  rw [serve_of_not_queued hq]
  simp only [answer, container, enter_containers, hc]

theorem Quiet.unhindered (hq : s.Quiet) {name : String} {c : StoredContainer}
    (hc : SortedMap.get? s.containers name = some c) (hrun : c.running = true)
    (hexecs : s.execs.length < 2 ^ 64) : s.Unhindered name where
  running := ⟨c, hc, hrun⟩
  createExec := hq.failureFree _
  startExec := hq.failureFree _
  inspectExec := hq.failureFree _
  copyTo := hq.failureFree _
  copyFrom := hq.failureFree _
  exitCodes := hq.exitCodes
  execs := hexecs

end MemoryEngine

theorem Decoder.runBytes_encode {α : Type} (d : Decoder α) (s : String) :
    Decoder.runBytes d (Utf8.encode s) = Decoder.runText d s := by
  rw [Decoder.runBytes, Utf8.marked_encode]
  -- well-formed bytes mark nothing, so the text is read as it is
  show Decoder.runText d (String.ofList s.toList) = _
  rw [String.ofList_toList]

theorem AgentEnv.ofBytes_encode (s : String) : AgentEnv.ofBytes (Utf8.encode s) = AgentEnv.ofText s := by
  rw [AgentEnv.ofBytes, Decoder.runBytes_encode]
  rfl

/-! ## The teardown -/

namespace Vm

variable {h : MemoryHost} {vm : VmId}

/-- A specification pinned to a node, when there is one: its node constraint replaced. -/
def pinSpec (spec : ContainerSpec) : Option String → ContainerSpec
  | some n => spec.setEnv (setAffinity spec.env n)
  | none => spec

@[simp] theorem pinSpec_binds (spec : ContainerSpec) (node? : Option String) :
    (pinSpec spec node?).binds = spec.binds := by
  cases node? <;> rfl

@[simp] theorem pinSpec_endpoints (spec : ContainerSpec) (node? : Option String) :
    (pinSpec spec node?).endpoints = spec.endpoints := by
  cases node? <;> rfl

theorem ensureExists_of_present (hq : h.engine.queued .inspect = [])
    (hpresent : (SortedMap.get? h.engine.containers vm.value).isSome) :
    (runOp (ensureExists backend vm) h).1 = .ok () := by
  unfold ensureExists
  rw [runOp_bind, exists_of_quiet hq, hpresent]
  rfl

theorem fetchAgentEnv_of_readable {e : AgentEnv} (hq : h.engine.queued .copyFrom = [])
    (hfile : h.engine.file? vm.value Paths.agentEnv = some (Utf8.encode e.render))
    (hsize : (Utf8.encode e.render).length < 2 ^ 63) (he : e.Readable) :
    (runOp ((FileTransfer.forVm vm).fetchAgentEnv backend) h).1 = .ok e.reread := by
  have hread := FileTransfer.download_of_file (FileTransfer.forVm vm) transfersAs_agentEnv hq
    hfile hsize
  have hbytes : AgentEnv.ofBytes (Utf8.encode e.render) = .ok e.reread := by
    rw [AgentEnv.ofBytes_encode, AgentEnv.ofText_render_reread he]
  unfold FileTransfer.fetchAgentEnv
  rw [runOp_bind_of_fst hread, hbytes]
  rfl

theorem preserve_of_no_state_files (hq : h.engine.queued .copyFrom = [])
    (hnone : ∀ path ∈ stateFiles, h.engine.file? vm.value path = none) :
    (runOp (preserve backend vm) h).1 = .ok ⟨none, none⟩ := by
  have hfit : StateFilesFit h.engine vm := fun path hpath contents hcontents => by
    rw [hnone path hpath] at hcontents
    simp at hcontents
  rw [preserve_of_queued hq hfit, Preserved.ofFiles, hnone _ List.mem_cons_self,
    hnone _ (List.mem_cons_of_mem _ List.mem_cons_self)]
  rfl

theorem require_of_quiet {d : DiskId} (hq : h.engine.queued .listVolumes = [])
    (hloc : DiskLocation.ofVolumes h.engine.volumes d ≠ .missing) :
    runOp (DiskLocation.require backend d) h =
      (.ok (DiskLocation.ofVolumes h.engine.volumes d),
        { h with engine := (h.engine.serve .listVolumes).2 }) := by
  unfold DiskLocation.require
  rw [runOp_bind, DiskLocation.locate_of_quiet hq]
  dsimp only
  split
  · rename_i hmissing
    exact absurd hmissing hloc
  · rfl

theorem successorSpec_of_quiet {disk : DiskId} {change : BindChange} {c : StoredContainer}
    {binds : List String} (hq : h.engine.FailureFree)
    (hc : SortedMap.get? h.engine.containers vm.value = some c)
    (hloc : DiskLocation.ofVolumes h.engine.volumes disk ≠ .missing)
    (hbinds : applyBindChange c.spec.binds disk change = .ok binds) :
    (runOp (successorSpec backend vm disk change) h).1 =
      .ok ((pinSpec c.spec (DiskLocation.ofVolumes h.engine.volumes disk).node?).setBinds
        binds) := by
  have hinspect := h.engine.serve_inspect_of_present (hq .inspect) hc
  -- the inspection changes no volume and leaves the listing unhindered
  have hvolumes : (h.engine.serve (.inspect vm.value)).2.volumes = h.engine.volumes :=
    congrArg EngineObjects.volumes (h.engine.serve_objects_of_changesNoObject rfl)
  have hlist := require_of_quiet (h := { h with engine := (h.engine.serve (.inspect vm.value)).2 })
    (d := disk) (hq.serve _ .listVolumes) (by rwa [hvolumes])
  unfold successorSpec
  dsimp only
  rw [runOp_bind, runOp_ask, hinspect]
  dsimp only
  rw [runOp_bind_of_ok (runOp_pure _ _), runOp_bind_of_ok hlist, hvolumes]
  rcases hnode : (DiskLocation.ofVolumes h.engine.volumes disk).node? with _ | n <;>
    simp only [pinSpec] <;>
    rw [runOp_bind, runOp_liftCpi] <;>
    simp only [ContainerSpec.binds_setEnv, hbinds, runOp_pure]

/-- What a read leaves of a quiet engine: the same objects and exec log, still quiet. -/
structure ReadsLeave (h h' : MemoryHost) : Prop where
  objects : h'.engine.objects = h.engine.objects
  quiet : h'.engine.Quiet
  execs : h'.engine.execs = h.engine.execs

theorem ReadsLeave.of_run {α : Type} {p : CloudM (StateM MemoryHost) α} {h' : MemoryHost}
    {r : Except CpiError α} (hp : OnlyCalls Call.changesNoObject p)
    (hx : OnlyCalls Call.keepsExecs p) (hq : h.engine.Quiet) (hrun : runOp p h = (r, h')) :
    ReadsLeave h h' := by
  have hquiet := hp.quiet hq
  have hexecs := (hx.execs_eq h).1
  rw [hrun] at hquiet hexecs
  exact ⟨hp.objects_eq_of_run hrun, hquiet, hexecs⟩

/-- A container's files when it holds the agent environment's document as the text of `e`
and nothing else. -/
def HoldsOnly (s : MemoryEngine) (vm : VmId) (e : AgentEnv) : Prop :=
  ∀ q, s.file? vm.value q = if q = Paths.agentEnv then some (Utf8.encode e.render) else none

theorem HoldsOnly.of_objects {s s' : MemoryEngine} {e : AgentEnv} (hfiles : HoldsOnly s vm e)
    (hsame : s'.objects = s.objects) : HoldsOnly s' vm e := fun q => by
  rw [MemoryEngine.file?_eq_of_objects hsame]
  exact hfiles q

theorem HoldsOnly.no_state_files {s : MemoryEngine} {e : AgentEnv} (hfiles : HoldsOnly s vm e) :
    ∀ path ∈ stateFiles, s.file? vm.value path = none := by
  intro path hpath
  rw [hfiles path, if_neg]
  rintro rfl
  revert hpath
  decide

/-- On a quiet engine a survey of a container that holds the text of a readable document
alone reads the document back, saves no state file and works out the successor. -/
theorem survey_of_quiet {refusal : String} {change : BindChange} {disk : DiskId}
    {c : StoredContainer} {e : AgentEnv} {binds : List String} (hq : h.engine.Quiet)
    (hc : SortedMap.get? h.engine.containers vm.value = some c) (hfiles : HoldsOnly h.engine vm e)
    (he : e.Readable) (hsize : (Utf8.encode e.render).length < 2 ^ 63)
    (hd : disk.isEphemeral = false) (hloc : DiskLocation.ofVolumes h.engine.volumes disk ≠ .missing)
    (hbinds : applyBindChange c.spec.binds disk change = .ok binds) :
    (runOp (survey backend refusal change vm disk) h).1 =
      .ok (e.reread, ⟨none, none⟩,
        (pinSpec c.spec (DiskLocation.ofVolumes h.engine.volumes disk).node?).setBinds binds) := by
  obtain ⟨h₁, hrun₁⟩ : ∃ h₁, runOp (ensureExists backend vm) h = (.ok (), h₁) :=
    ⟨_, Prod.ext (ensureExists_of_present (hq.failureFree .inspect) (by rw [hc]; rfl)) rfl⟩
  have hl₁ := ReadsLeave.of_run (ensureExists_onlyCalls vm) (ensureExists_onlyCalls_of rfl) hq hrun₁
  obtain ⟨h₂, hrun₂⟩ : ∃ h₂, runOp ((FileTransfer.forVm vm).fetchAgentEnv backend) h₁ =
      (.ok e.reread, h₂) :=
    ⟨_, Prod.ext (fetchAgentEnv_of_readable (hl₁.quiet.failureFree .copyFrom)
      (by rw [(hfiles.of_objects hl₁.objects) Paths.agentEnv, if_pos rfl]) hsize he) rfl⟩
  have hl₂ := ReadsLeave.of_run (FileTransfer.fetchAgentEnv_onlyCalls _)
    (FileTransfer.fetchAgentEnv_onlyCalls_of _ fun _ => rfl) hl₁.quiet hrun₂
  have hobjects₂ : h₂.engine.objects = h.engine.objects := hl₂.objects.trans hl₁.objects
  obtain ⟨h₃, hrun₃⟩ : ∃ h₃, runOp (preserve backend vm) h₂ = (.ok ⟨none, none⟩, h₃) :=
    ⟨_, Prod.ext (preserve_of_no_state_files (hl₂.quiet.failureFree .copyFrom)
      (hfiles.of_objects hobjects₂).no_state_files) rfl⟩
  have hl₃ := ReadsLeave.of_run (preserve_onlyCalls vm) (preserve_onlyCalls_of fun _ => rfl)
    hl₂.quiet hrun₃
  have hobjects₃ : h₃.engine.objects = h.engine.objects := hl₃.objects.trans hobjects₂
  have hcontainers₃ : h₃.engine.containers = h.engine.containers :=
    congrArg EngineObjects.containers hobjects₃
  have hvolumes₃ : h₃.engine.volumes = h.engine.volumes := congrArg EngineObjects.volumes hobjects₃
  have hsucc := successorSpec_of_quiet (h := h₃) hl₃.quiet.failureFree
    (by rw [hcontainers₃]; exact hc) (by rw [hvolumes₃]; exact hloc) hbinds
  rw [hvolumes₃] at hsucc
  unfold survey
  dsimp only
  rw [if_neg (by simp [hd]), runOp_bind_of_ok hrun₁,
    runOp_bind_of_ok hrun₂, runOp_bind_of_ok hrun₃, runOp_bind_of_fst hsucc]
  rfl

/-- On a quiet engine the teardown reads, then removes the VM's container and nothing else,
and runs no command. -/
theorem teardown_of_quiet (refusal : String) {change : BindChange} {disk : DiskId}
    {c : StoredContainer} {e : AgentEnv} {binds : List String} (hq : h.engine.Quiet)
    (hc : SortedMap.get? h.engine.containers vm.value = some c) (hfiles : HoldsOnly h.engine vm e)
    (he : e.Readable) (hsize : (Utf8.encode e.render).length < 2 ^ 63)
    (hd : disk.isEphemeral = false) (hloc : DiskLocation.ofVolumes h.engine.volumes disk ≠ .missing)
    (hbinds : applyBindChange c.spec.binds disk change = .ok binds) :
    ∃ h', runOp (teardown backend refusal change vm disk) h =
        (.ok (e.reread, ⟨none, none⟩,
          (pinSpec c.spec (DiskLocation.ofVolumes h.engine.volumes disk).node?).setBinds binds), h') ∧
      h'.engine.objects = h.engine.objects.without vm.value ∧ h'.engine.Quiet ∧
      h'.engine.execs = h.engine.execs := by
  have hsurvey : (runOp (survey backend refusal change vm disk) h).1 = _ :=
    survey_of_quiet hq hc hfiles he hsize hd hloc hbinds
  obtain ⟨h₁, hrun₁⟩ : ∃ h₁, runOp (survey backend refusal change vm disk) h =
      (.ok (e.reread, ⟨none, none⟩,
        (pinSpec c.spec (DiskLocation.ofVolumes h.engine.volumes disk).node?).setBinds binds), h₁) :=
    ⟨_, Prod.ext hsurvey rfl⟩
  have hl₁ := ReadsLeave.of_run (survey_onlyCalls refusal change vm disk)
    (survey_onlyCalls_of rfl (fun _ => rfl) rfl refusal change disk) hq hrun₁
  -- the removal is the only change, and it runs no command
  obtain ⟨hok, hwithout, -⟩ := @removeContainer_of_quiet vm h₁ hl₁.quiet.failureFree
  have hremove : OnlyCalls Call.keepsExecs (removeContainer backend vm) :=
    removeContainer_onlyCalls_of rfl rfl rfl
  refine ⟨(runOp (removeContainer backend vm) h₁).2, ?_, ?_, ?_, ?_⟩
  · unfold teardown
    rw [runOp_bind_of_ok hrun₁, runOp_bind_of_fst hok]
    rfl
  · rw [hwithout, hl₁.objects]
  · exact (removeContainer_onlyCalls vm).quiet hl₁.quiet
  · rw [(hremove.execs_eq h₁).1, hl₁.execs]

/-! ## The rebuild -/

theorem forM_connect_of_quiet {f : String × EndpointSettings → CloudM (StateM MemoryHost) PUnit}
    (hf : ∀ q, f q = backend.run .connectNetwork (.connectNetwork q.1 vm.value q.2)) :
    ∀ (xs : List (String × EndpointSettings)) {h : MemoryHost}, h.engine.FailureFree →
      (SortedMap.get? h.engine.containers vm.value).isSome →
      (∀ q ∈ xs, SortedMap.contains h.engine.networks q.1 = true) →
      (runOp (xs.forM f) h).1 = .ok ()
  | [], _, _, _, _ => rfl
  | q :: rest, h, hq, hpresent, hnets => by
    obtain ⟨c, hc⟩ := Option.isSome_iff_exists.1 hpresent
    have hok : (h.engine.serve (.connectNetwork q.1 vm.value q.2)).1 = .ok () :=
      MemoryEngine.serve_connect_of_present (hq .connectNetwork) (hnets q List.mem_cons_self) hc
    -- the connection keeps the container and every network
    have hsame : (h.engine.serve (.connectNetwork q.1 vm.value q.2)).2.networks = h.engine.networks :=
      (h.engine.serve_beside (show Call.touchesOnly vm.value (.connectNetwork q.1 vm.value q.2)
        from by simp [Call.touchesOnly])).networks
    have hrest := forM_connect_of_quiet hf rest
      (h := { h with engine := (h.engine.serve (.connectNetwork q.1 vm.value q.2)).2 })
      (hq.serve _) (by rw [MemoryEngine.get?_serve_connect_of_ok hok, hc]; rfl)
      (fun q' hq' => by rw [hsame]; exact hnets q' (List.mem_cons_of_mem _ hq'))
    show (runOp (f q >>= fun _ => rest.forM f) h).1 = _
    rw [hf, runOp_bind_of_ok (runOp_run_of_ok hok)]
    exact hrest

theorem postStart_of_quiet (config : ContainerConfig) {c : StoredContainer} (hq : h.engine.Quiet)
    (hc : SortedMap.get? h.engine.containers vm.value = some c) (hrun : c.running = true)
    (hroom : h.engine.execs.length < 2 ^ 64) :
    ∃ h', runOp (if config.entrypoint? == InitSystem.systemd.entrypoint then
        match InitSystem.systemd.postStart with
        | some cmd => tryCatch ((FileTransfer.forVm vm).exec backend cmd) fun _ => pure ()
        | none => pure ()
      else pure ()) h = (.ok (), h') ∧
      h'.engine.objects = h.engine.objects ∧ h'.engine.Quiet ∧
      h'.engine.execs.length ≤ h.engine.execs.length + 1 := by
  split
  · split
    · rename_i cmd _
      obtain ⟨h', hexec, hexecs⟩ := FileTransfer.runToCompletion_of_unhindered
        (FileTransfer.forVm vm) (hq.unhindered hc hrun hroom) cmd
      have hcalls := FileTransfer.runToCompletion_onlyCalls (FileTransfer.forVm vm) cmd
      refine ⟨h', runOp_tryCatch_of_ok hexec, hcalls.objects_eq_of_run hexec, ?_, ?_⟩
      · have hquiet := hcalls.quiet hq
        rwa [hexec] at hquiet
      · rw [hexecs, List.length_append, List.length_singleton]
    · exact ⟨h, rfl, rfl, hq, Nat.le_succ _⟩
  · exact ⟨h, rfl, rfl, hq, Nat.le_succ _⟩

/-- On a quiet engine where the VM's name is free, the rebuild of a specification whose
endpoints form a sorted map of existing networks creates the successor under that name,
joins it to every network and starts it; it changes nothing beside the VM's container, and
runs at most the one command that follows a systemd start. -/
theorem rebuild_of_quiet {spec : ContainerSpec} (hq : h.engine.Quiet)
    (hroom : h.engine.execs.length < 2 ^ 64)
    (hfree : SortedMap.get? h.engine.containers vm.value = none)
    (hasc : SortedMap.Ascending spec.endpoints)
    (hnets : ∀ q ∈ spec.endpoints, SortedMap.contains h.engine.networks q.1 = true) :
    ∃ h' id, runOp (rebuild backend vm spec) h = (.ok (), h') ∧
      SortedMap.get? h'.engine.containers vm.value = some ⟨id, spec, true, []⟩ ∧
      EngineObjects.Beside vm.value h.engine.objects h'.engine.objects ∧
      h'.engine.Quiet ∧ h'.engine.execs.length ≤ h.engine.execs.length + 1 := by
  obtain ⟨-, hparts⟩ := EndpointSplit.of_parts spec.endpoints
  rw [SortedMap.ofList_of_ascending hasc] at hparts
  -- the successor is created with its primary endpoint
  obtain ⟨id, hok₁⟩ : ∃ id, (h.engine.serve (.create (some vm.value)
      { spec with endpoints := (EndpointSplit.of spec.endpoints).primary })).1 = .ok id :=
    MemoryEngine.serve_create_of_free (hq.failureFree .create) hfree
      (fun q hq' => hnets q (hparts ▸ List.mem_append_left _ hq'))
  set h₁ : MemoryHost := { h with engine := (h.engine.serve (.create (some vm.value)
    { spec with endpoints := (EndpointSplit.of spec.endpoints).primary })).2 }
  have hc₁ := MemoryEngine.get?_serve_create_of_ok hok₁
  have hnets₁ := (MemoryEngine.serve_create_of_ok hok₁).2.2.1
  -- then joined to the other networks, which gives it all of its endpoints
  have hconnects : ∀ q, (fun q : String × EndpointSettings => backend.run .connectNetwork
      (.connectNetwork q.1 vm.value q.2)) q =
      backend.run .connectNetwork (.connectNetwork q.1 vm.value q.2) := fun _ => rfl
  have hok₂ := forM_connect_of_quiet hconnects (EndpointSplit.of spec.endpoints).additional
    (h := h₁) (hq.failureFree.serve _) (by rw [hc₁]; rfl)
    (fun q hq' => by rw [hnets₁]; exact hnets q (hparts ▸ List.mem_append_right _ hq'))
  obtain ⟨h₂, hrun₂⟩ : ∃ h₂, runOp ((EndpointSplit.of spec.endpoints).additional.forM
      fun q => backend.run .connectNetwork (.connectNetwork q.1 vm.value q.2)) h₁ = (.ok (), h₂) :=
    ⟨_, Prod.ext hok₂ rfl⟩
  have hc₂ : SortedMap.get? h₂.engine.containers vm.value = some ⟨id, spec, false, []⟩ := by
    rw [VmCreation.forM_connect_of_ok vm hconnects _ hrun₂, hc₁]
    simp only [Option.map_some]
    rw [VmCreation.joined_split hasc]
  have hconnectCalls : OnlyCalls Call.keepsExecs ((EndpointSplit.of spec.endpoints).additional.forM
      fun q => backend.run .connectNetwork (.connectNetwork q.1 vm.value q.2)) :=
    .forM fun _ _ => .run _ rfl
  have hquiet₂ : h₂.engine.Quiet := by
    have hquiet := hconnectCalls.quiet (h := h₁) (hq.serve _)
    rwa [hrun₂] at hquiet
  have hexecs₂ : h₂.engine.execs = h.engine.execs := by
    have hexecs := (hconnectCalls.execs_eq h₁).1
    rw [hrun₂] at hexecs
    rw [hexecs]
    exact (h.engine.serve_execs_of_keepsExecs rfl).1
  -- then started
  have hok₃ := MemoryEngine.serve_start_of_present (hquiet₂.failureFree .start) hc₂
  set h₃ : MemoryHost := { h₂ with engine := (h₂.engine.serve (.start vm.value)).2 }
  have hc₃ : SortedMap.get? h₃.engine.containers vm.value = some ⟨id, spec, true, []⟩ := by
    rw [MemoryEngine.get?_serve_start_of_ok hok₃, hc₂]
    rfl
  have hexecs₃ : h₃.engine.execs = h.engine.execs := by
    rw [← hexecs₂]
    exact (h₂.engine.serve_execs_of_keepsExecs rfl).1
  obtain ⟨h₄, hrun₄, hobjects₄, -, hexecs₄⟩ := postStart_of_quiet spec.config
    (hquiet₂.serve _) hc₃ rfl (by rw [hexecs₃]; exact hroom)
  have hrun : runOp (rebuild backend vm spec) h = (.ok (), h₄) := by
    unfold rebuild
    dsimp only
    rw [runOp_bind_of_ok (runOp_run_of_ok hok₁), runOp_bind_of_ok hrun₂,
      runOp_bind_of_ok (runOp_run_of_ok hok₃)]
    exact hrun₄
  have hbeside := (rebuild_onlyCalls vm spec).beside h
  have hquiet := (rebuild_onlyCalls vm spec).quiet hq
  rw [hrun] at hbeside hquiet
  have hcontainers₄ : h₄.engine.containers = h₃.engine.containers :=
    congrArg EngineObjects.containers hobjects₄
  refine ⟨h₄, id, hrun, by rw [hcontainers₄]; exact hc₃, hbeside, hquiet, ?_⟩
  rw [← hexecs₃]
  exact hexecs₄

/-! ## The rest of a disk change -/

/-- On a quiet engine where the VM's name is free and two more execs can be numbered, the
rest of a disk change that saved no state file rebuilds the successor and leaves it holding
the edited document alone. -/
theorem completeChange_of_quiet (edit : AgentEnv → AgentEnv) (env : AgentEnv) {spec : ContainerSpec}
    (hq : h.engine.Quiet) (hroom : h.engine.execs.length + 1 < 2 ^ 64)
    (hfree : SortedMap.get? h.engine.containers vm.value = none)
    (hasc : SortedMap.Ascending spec.endpoints)
    (hnets : ∀ q ∈ spec.endpoints, SortedMap.contains h.engine.networks q.1 = true)
    (hsize : (Utf8.encode (edit env).render).length < 2 ^ 63) :
    ∃ h', runOp (completeChange backend edit vm (env, ⟨none, none⟩, spec)) h = (.ok (), h') ∧
      (∃ c, SortedMap.get? h'.engine.containers vm.value = some c ∧ c.spec = spec ∧
        c.running = true) ∧
      HoldsOnly h'.engine vm (edit env) ∧
      EngineObjects.Beside vm.value h.engine.objects h'.engine.objects ∧
      h'.engine.Quiet ∧ h'.engine.execs.length ≤ h.engine.execs.length + 2 := by
  obtain ⟨h₁, id, hrun₁, hc₁, hbeside₁, hquiet₁, hexecs₁⟩ :=
    rebuild_of_quiet hq (by omega) hfree hasc hnets
  -- the document goes into the fresh container, which holds no file
  obtain ⟨-, hsplit, hname, -⟩ := transfersAs_agentEnv
  obtain ⟨h₂, hrun₂, hexecs₂, -⟩ := FileTransfer.upload_of_unhindered (FileTransfer.forVm vm)
    (hquiet₁.unhindered hc₁ rfl (by omega)) hsplit (Tar.keepsFile_of_fits hname hsize)
  have hfiles₂ := (FileTransfer.upload_of_ok (FileTransfer.forVm vm) transfersAs_agentEnv hrun₂
    hsize).1
  have hwrite : runOp ((FileTransfer.forVm vm).writeAgentEnv backend (edit env)) h₁ =
      (.ok (), h₂) := hrun₂
  have hkept := (FileTransfer.writeAgentEnv_onlyCalls_of (FileTransfer.forVm vm)
    (P := Call.keepsRuns) (fun c hc => by simp [Call.keepsRuns, hc]) (fun _ _ => rfl)
    (edit env)).runsKept_of_run hwrite vm.value
  simp only [MemoryEngine.objects, hc₁, Option.map_some] at hkept
  obtain ⟨c, hc₂, hrunc⟩ := Option.map_eq_some_iff.1 hkept
  have hcalls := FileTransfer.writeAgentEnv_onlyCalls (FileTransfer.forVm vm) (edit env)
  refine ⟨h₂, ?_, ⟨c, hc₂, congrArg Prod.fst hrunc, congrArg Prod.snd hrunc⟩, ?_, ?_, ?_, ?_⟩
  · unfold completeChange
    rw [runOp_bind_of_ok (runOp_tryCatch_of_ok hrun₁), runOp_bind_of_ok hwrite]
    rfl
  · intro q
    rw [← FileTransfer.forVm_vm vm, hfiles₂ q]
    split
    · rfl
    · simp only [MemoryEngine.file?, FileTransfer.forVm_vm, hc₁, Option.bind_some]
      rfl
  · have hbeside₂ := hcalls.beside h₁
    rw [hwrite] at hbeside₂
    exact hbeside₁.trans hbeside₂
  · have hquiet₂ := hcalls.quiet hquiet₁
    rwa [hwrite] at hquiet₂
  · rw [hexecs₂, List.length_append, List.length_singleton]
    omega

theorem beside_without (name : String) (o : EngineObjects) :
    EngineObjects.Beside name o (o.without name) :=
  ⟨SortedMap.erase_erase_self name o.containers, rfl, List.Subset.refl _⟩

/-- On a quiet engine, a disk change of a VM whose running container holds the text of a
readable document alone, for a persistent disk that some volume names, succeeds when the
engine can number two more execs and the edited document fits a file: the successor runs the
container's specification pinned to the disk's node with the disk's bind changed, and holds
the edited document alone; nothing beside the VM's container changes but volumes added. -/
theorem changeDisk_of_quiet (refusal : String) (edit : AgentEnv → AgentEnv)
    {change : BindChange} {disk : DiskId} {c : StoredContainer} {e : AgentEnv}
    {binds : List String} (hq : h.engine.Quiet) (hroom : h.engine.execs.length + 1 < 2 ^ 64)
    (hc : SortedMap.get? h.engine.containers vm.value = some c) (hfiles : HoldsOnly h.engine vm e)
    (he : e.Readable) (hsize : (Utf8.encode e.render).length < 2 ^ 63)
    (hsize' : (Utf8.encode (edit e.reread).render).length < 2 ^ 63)
    (hd : disk.isEphemeral = false) (hloc : DiskLocation.ofVolumes h.engine.volumes disk ≠ .missing)
    (hbinds : applyBindChange c.spec.binds disk change = .ok binds)
    (hasc : SortedMap.Ascending c.spec.endpoints)
    (hnets : ∀ q ∈ c.spec.endpoints, SortedMap.contains h.engine.networks q.1 = true) :
    ∃ h', runOp (changeDisk backend refusal edit change vm disk) h = (.ok (), h') ∧
      (∃ c', SortedMap.get? h'.engine.containers vm.value = some c' ∧
        c'.spec = (pinSpec c.spec (DiskLocation.ofVolumes h.engine.volumes disk).node?).setBinds
          binds ∧ c'.running = true) ∧
      HoldsOnly h'.engine vm (edit e.reread) ∧
      EngineObjects.Beside vm.value h.engine.objects h'.engine.objects ∧
      h'.engine.Quiet ∧ h'.engine.execs.length ≤ h.engine.execs.length + 2 := by
  obtain ⟨h₁, hrun₁, hobjects₁, hquiet₁, hexecs₁⟩ :=
    teardown_of_quiet refusal hq hc hfiles he hsize hd hloc hbinds
  have hcontainers₁ : h₁.engine.containers = SortedMap.erase vm.value h.engine.containers :=
    congrArg EngineObjects.containers hobjects₁
  have hnetworks₁ : h₁.engine.networks = h.engine.networks :=
    congrArg EngineObjects.networks hobjects₁
  -- the successor keeps the container's endpoints, on networks the teardown kept
  have hasc' : SortedMap.Ascending
      ((pinSpec c.spec (DiskLocation.ofVolumes h.engine.volumes disk).node?).setBinds binds).endpoints := by
    simpa only [ContainerSpec.setBinds, pinSpec_endpoints] using hasc
  have hnets' : ∀ q ∈ ((pinSpec c.spec (DiskLocation.ofVolumes h.engine.volumes disk).node?).setBinds
      binds).endpoints, SortedMap.contains h₁.engine.networks q.1 = true := by
    simpa only [ContainerSpec.setBinds, pinSpec_endpoints, hnetworks₁] using hnets
  obtain ⟨h₂, hrun₂, hc₂, hfiles₂, hbeside₂, hquiet₂, hexecs₂⟩ :=
    completeChange_of_quiet edit e.reread hquiet₁ (by rw [hexecs₁]; exact hroom)
      (by rw [hcontainers₁]; exact SortedMap.get?_erase_self _ _) hasc' hnets' hsize'
  refine ⟨h₂, ?_, hc₂, hfiles₂, ?_, hquiet₂, by rw [← hexecs₁]; exact hexecs₂⟩
  · rw [changeDisk_eq, runOp_bind_of_ok hrun₁]
    exact hrun₂
  · rw [hobjects₁] at hbeside₂
    exact (beside_without vm.value h.engine.objects).trans hbeside₂

end Vm

end ContainerCpi
