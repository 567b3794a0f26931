import ContainerCpi.Proofs.Cloud.Files
import ContainerCpi.Cloud.Vm

/-!
# What the VM operations do to the engine

The calls each operation on a VM makes: checking that the VM exists, reading its agent
environment and state files, and working out its successor only read; killing, removing,
rebuilding and restoring change no container but the VM's, create no network and remove no
volume.

Then what each step of a recreate leaves behind.  Kills that all fail change nothing, and
kills that succeed at most stop the container; so a removal that fails either changed
nothing or failed in its last call, after stopping the container.  The successor is the
inspected container with the disk's bind changed.  A rebuild fails only in one of its three
phases, and one that succeeds leaves the container running with the successor's binds and
no files.
-/

namespace ContainerCpi

open MemoryHost

namespace Vm

/-! ## Calls -/

theorem exists_onlyCalls_of {vm : VmId} {P : Call → Bool} (hinspect : P (.inspect vm.value)) :
    OnlyCalls P (exists? backend vm) := by
  unfold exists?
  refine .bind (.ask hinspect) fun r => ?_
  split
  · exact .pure _
  · split
    · exact .pure _
    · exact .throw _

theorem exists_onlyCalls (vm : VmId) : OnlyCalls Call.changesNoObject (exists? backend vm) :=
  exists_onlyCalls_of rfl

theorem ensureExists_onlyCalls_of {vm : VmId} {P : Call → Bool}
    (hinspect : P (.inspect vm.value)) : OnlyCalls P (ensureExists backend vm) := by
  unfold ensureExists
  refine .bind (exists_onlyCalls_of hinspect) fun found => ?_
  split
  · exact .throw _
  · exact .pure _

theorem ensureExists_onlyCalls (vm : VmId) :
    OnlyCalls Call.changesNoObject (ensureExists backend vm) :=
  ensureExists_onlyCalls_of rfl

theorem killWithin_onlyCalls_of {vm : VmId} {P : Call → Bool}
    (hkill : P (.kill vm.value "KILL")) : ∀ attempts, OnlyCalls P (killWithin backend vm attempts)
  | 0 => .pure _
  | attempts + 1 => by
    unfold killWithin
    refine .bind (.ask hkill) fun r => ?_
    split
    · exact .pure _
    · split
      · exact .pure _
      · split
        · exact .throw _
        · exact .bind (.pause _) fun _ => killWithin_onlyCalls_of hkill attempts

theorem removeContainer_onlyCalls_of {vm : VmId} {P : Call → Bool}
    (hinspect : P (.inspect vm.value)) (hkill : P (.kill vm.value "KILL")) (hremove : P (.remove vm.value true)) :
    OnlyCalls P (removeContainer backend vm) := by
  unfold removeContainer
  refine .bind (exists_onlyCalls_of hinspect) fun found => ?_
  split
  · exact .pure _
  · refine .bind (killWithin_onlyCalls_of hkill _) fun _ => .bind (.ask hremove) fun r => ?_
    split
    · exact .pure _
    · split
      · exact .pure _
      · exact .throw _

theorem removeContainer_onlyCalls (vm : VmId) :
    OnlyCalls (Call.touchesOnly vm.value) (removeContainer backend vm) :=
  removeContainer_onlyCalls_of (by simp [Call.touchesOnly]) (by simp [Call.touchesOnly])
    (by simp [Call.touchesOnly])

theorem downloadOptional_onlyCalls_of {vm : VmId} {P : Call → Bool}
    (hcopy : ∀ path, P (.copyFrom vm.value path)) (path : String) :
    OnlyCalls P (downloadOptional backend vm path) :=
  .tryCatch (.bind (FileTransfer.download_onlyCalls_of _ hcopy _) fun _ => .pure _) fun _ => .pure _

theorem downloadOptional_onlyCalls (vm : VmId) (path : String) :
    OnlyCalls Call.changesNoObject (downloadOptional backend vm path) :=
  downloadOptional_onlyCalls_of (fun _ => rfl) path

theorem preserve_onlyCalls_of {vm : VmId} {P : Call → Bool}
    (hcopy : ∀ path, P (.copyFrom vm.value path)) : OnlyCalls P (preserve backend vm) :=
  .bind (downloadOptional_onlyCalls_of hcopy _) fun _ =>
    .bind (downloadOptional_onlyCalls_of hcopy _) fun _ => .pure _

theorem preserve_onlyCalls (vm : VmId) : OnlyCalls Call.changesNoObject (preserve backend vm) :=
  preserve_onlyCalls_of fun _ => rfl

theorem successorSpec_onlyCalls_of {vm : VmId} {P : Call → Bool}
    (hinspect : P (.inspect vm.value)) (hlist : P .listVolumes) (disk : DiskId) (change : BindChange) :
    OnlyCalls P (successorSpec backend vm disk change) := by
  unfold successorSpec
  dsimp only
  refine .bind (.ask hinspect) fun r => ?_
  split
  · exact .pure_bind (.bind (DiskLocation.require_onlyCalls_of hlist disk) fun _ =>
      .bind (.liftCpi _) fun _ => .pure _)
  · exact .throw_bind _ _

theorem successorSpec_onlyCalls (vm : VmId) (disk : DiskId) (change : BindChange) :
    OnlyCalls Call.changesNoObject (successorSpec backend vm disk change) :=
  successorSpec_onlyCalls_of rfl rfl disk change

theorem rebuild_onlyCalls (vm : VmId) (spec : ContainerSpec) :
    OnlyCalls (Call.touchesOnly vm.value) (rebuild backend vm spec) := by
  unfold rebuild
  refine .bind (.run _ (by simp [Call.touchesOnly])) fun _ =>
    .bind (.forM fun _ _ => .run _ (by simp [Call.touchesOnly])) fun _ =>
    .bind (.run _ (by simp [Call.touchesOnly])) fun _ => ?_
  split
  · split
    · exact .tryCatch ((FileTransfer.exec_onlyCalls _ _).mono
        fun _ => Call.touchesOnly_of_changesNoObject _) fun _ => .pure _
    · exact .pure _
  · exact .pure _

theorem restoreDns_onlyCalls (vm : VmId) (contents : List UInt8) :
    OnlyCalls (Call.touchesOnly vm.value) (restoreDns backend vm contents) := by
  have hexec : ∀ cmd, OnlyCalls (Call.touchesOnly vm.value)
      (FileTransfer.exec backend (FileTransfer.forVm vm) cmd) := fun cmd =>
    (FileTransfer.exec_onlyCalls _ cmd).mono fun _ => Call.touchesOnly_of_changesNoObject _
  unfold restoreDns
  exact .bind (hexec _) fun _ => .bind (hexec _) fun _ =>
    .bind (FileTransfer.upload_onlyCalls (FileTransfer.forVm vm) _ _) fun _ => hexec _

theorem restore_onlyCalls (vm : VmId) (saved : Preserved) :
    OnlyCalls (Call.touchesOnly vm.value) (restore backend vm saved) := by
  unfold restore
  dsimp only
  split
  · refine .bind (.tryCatch (FileTransfer.upload_onlyCalls (FileTransfer.forVm vm) _ _)
      fun _ => .pure _) fun _ => ?_
    split
    · exact .tryCatch (restoreDns_onlyCalls vm _) fun _ => .pure _
    · exact .pure _
  · split
    · exact .tryCatch (restoreDns_onlyCalls vm _) fun _ => .pure _
    · exact .pure _

theorem recreate_onlyCalls (vm : VmId) (disk : DiskId) (change : BindChange) :
    OnlyCalls (Call.touchesOnly vm.value) (recreate backend vm disk change) := by
  unfold recreate
  exact .bind ((successorSpec_onlyCalls vm disk change).mono
      fun _ => Call.touchesOnly_of_changesNoObject _) fun spec =>
    .bind (removeContainer_onlyCalls vm) fun _ =>
    .tryCatch (rebuild_onlyCalls vm spec) fun _ =>
    .bind (.attempt (by simp [Call.touchesOnly])) fun _ => .throw _

theorem changeDisk_onlyCalls (refusal : String) (edit : AgentEnv → AgentEnv)
    (change : BindChange) (vm : VmId) (disk : DiskId) :
    OnlyCalls (Call.touchesOnly vm.value) (changeDisk backend refusal edit change vm disk) := by
  have hread : ∀ {α} {p : CloudM (StateM MemoryHost) α}, OnlyCalls Call.changesNoObject p →
      OnlyCalls (Call.touchesOnly vm.value) p :=
    fun hp => hp.mono fun _ => Call.touchesOnly_of_changesNoObject _
  unfold changeDisk
  dsimp only
  split
  · exact .throw_bind _ _
  · exact .bind (hread (ensureExists_onlyCalls vm)) fun _ =>
      .bind (hread (FileTransfer.fetchAgentEnv_onlyCalls _)) fun _ =>
      .bind (hread (preserve_onlyCalls vm)) fun _ =>
      .bind (recreate_onlyCalls vm disk change) fun _ =>
      .bind (FileTransfer.writeAgentEnv_onlyCalls (FileTransfer.forVm vm) _) fun _ =>
      restore_onlyCalls vm _

/-! ## Killing and removing -/

theorem killWithin_objects_of_error (vm : VmId) :
    ∀ {attempts : Nat} {h h' : MemoryHost} {e : CpiError},
      runOp (killWithin backend vm attempts) h = (.error e, h') →
      h'.engine.objects = h.engine.objects
  | 0, _, _, _, hrun => by cases hrun
  | attempts + 1, h, h', e, hrun => by
    unfold killWithin at hrun
    rw [runOp_bind, runOp_ask] at hrun
    dsimp only at hrun
    split at hrun
    · cases hrun
    · rename_i hkill
      have hsame := h.engine.serve_objects_of_error hkill
      split at hrun
      · cases hrun
      · split at hrun
        · cases hrun
          exact hsame
        · rw [runOp_bind, runOp_pause] at hrun
          dsimp only at hrun
          rw [killWithin_objects_of_error vm hrun]
          exact hsame

/-- A kill that succeeds stops the container, or finds it stopped or gone. -/
theorem killWithin_objects_of_ok (vm : VmId) :
    ∀ {attempts : Nat} {h h' : MemoryHost},
      runOp (killWithin backend vm attempts) h = (.ok (), h') →
      h'.engine.objects = h.engine.objects ∨ h'.engine.objects = h.engine.objects.stop vm.value
  | 0, _, _, hrun => by
    cases hrun
    exact .inl rfl
  | attempts + 1, h, h', hrun => by
    unfold killWithin at hrun
    rw [runOp_bind, runOp_ask] at hrun
    dsimp only at hrun
    split at hrun
    · rename_i hkill
      cases hrun
      exact .inr (MemoryEngine.serve_kill_objects_of_ok hkill)
    · rename_i hkill
      have hsame := h.engine.serve_objects_of_error hkill
      split at hrun
      · cases hrun
        exact .inl hsame
      · split at hrun
        · cases hrun
        · rw [runOp_bind, runOp_pause] at hrun
          dsimp only at hrun
          rcases killWithin_objects_of_ok vm hrun with hrest | hrest
          · exact .inl (hrest.trans hsame)
          · exact .inr (by rw [hrest, hsame])

/-- A removal that fails changed nothing, or failed in removing the container after
stopping it. -/
theorem removeContainer_objects_of_error {vm : VmId} {h h' : MemoryHost} {e : CpiError}
    (hrun : runOp (removeContainer backend vm) h = (.error e, h')) :
    h'.engine.objects = h.engine.objects ∨
      (e.phase? = some .removeContainer ∧ h'.engine.objects = h.engine.objects.stop vm.value) := by
  unfold removeContainer at hrun
  have hread := (exists_onlyCalls vm).objects_eq h
  rcases runOp_bind_eq_error hrun with hexists | ⟨found, h₁, hexists, hrest⟩
  · rw [hexists] at hread
    exact .inl hread
  rw [hexists] at hread
  split at hrest
  · cases hrest
  rcases runOp_bind_eq_error hrest with hkill | ⟨_, h₂, hkill, hremove⟩
  · exact .inl ((killWithin_objects_of_error vm hkill).trans hread)
  rw [runOp_bind, runOp_ask] at hremove
  dsimp only at hremove
  split at hremove
  · cases hremove
  · rename_i er hserve
    have hsame := h₂.engine.serve_objects_of_error hserve
    split at hremove
    · cases hremove
    · cases hremove
      rcases killWithin_objects_of_ok vm hkill with hk | hk
      · exact .inl (hsame.trans (hk.trans hread))
      · exact .inr ⟨rfl, by rw [hsame, hk, hread]⟩

/-! ## The successor -/

theorem successorSpec_of_ok {vm : VmId} {disk : DiskId} {change : BindChange} {h h' : MemoryHost}
    {spec : ContainerSpec} (hrun : runOp (successorSpec backend vm disk change) h = (.ok spec, h')) :
    ∃ c, SortedMap.get? h.engine.containers vm.value = some c ∧
      applyBindChange c.spec.binds disk change = .ok spec.binds := by
  unfold successorSpec at hrun
  dsimp only at hrun
  rw [runOp_bind, runOp_ask] at hrun
  dsimp only at hrun
  split at hrun
  · rename_i inspected hinspect
    obtain ⟨c, hc, hspec⟩ := MemoryEngine.get?_of_serve_inspect_ok hinspect
    rw [runOp_bind_of_ok (runOp_pure _ _)] at hrun
    obtain ⟨_, _, -, hrest⟩ := runOp_bind_eq_ok hrun
    obtain ⟨binds, _, hbinds, hpure⟩ := runOp_bind_eq_ok hrest
    rw [runOp_liftCpi] at hbinds
    cases hpure
    refine ⟨c, hc, ?_⟩
    rw [ContainerSpec.binds_setBinds, hspec, ← (Prod.mk.inj hbinds).1]
    split <;> simp
  · rw [runOp_bind_of_error (runOp_throw _ _)] at hrun
    cases hrun

/-- The steps of a rebuild that can fail it: creating, connecting and starting the
container (a failed post-start command is ignored). -/
def rebuildPhases : List Phase := [.createContainer, .connectNetwork, .startContainer]

theorem rebuild_failsWith (vm : VmId) (spec : ContainerSpec) :
    FailsWith (fun e => ∃ phase source, e = .engine phase source ∧ phase ∈ rebuildPhases)
      (rebuild backend vm spec) := by
  unfold rebuild
  refine .bind (.run fun e => ⟨_, e, rfl, by simp [rebuildPhases]⟩) fun _ =>
    .bind (.forM fun _ _ => .run fun e => ⟨_, e, rfl, by simp [rebuildPhases]⟩) fun _ =>
    .bind (.run fun e => ⟨_, e, rfl, by simp [rebuildPhases]⟩) fun _ => ?_
  split
  · split
    · exact .tryCatch fun _ => .pure _
    · exact .pure _
  · exact .pure _

theorem rebuild_connects_onlyCalls (vm : VmId) (endpoints : List (String × EndpointSettings)) :
    OnlyCalls Call.keepsShapes (endpoints.forM fun (network, endpoint) =>
      backend.run .connectNetwork (.connectNetwork network vm.value endpoint)) :=
  .forM fun _ _ => .run _ (by simp [Call.keepsShapes])

/-- A rebuild that succeeds leaves the VM's container running, with the specification's
binds and no files. -/
theorem rebuild_of_ok {vm : VmId} {spec : ContainerSpec} {h h' : MemoryHost}
    (hrun : runOp (rebuild backend vm spec) h = (.ok (), h')) :
    ∃ c, SortedMap.get? h'.engine.containers vm.value = some c ∧
      c.running = true ∧ c.spec.binds = spec.binds ∧ c.files = [] := by
  unfold rebuild at hrun
  obtain ⟨id, h₁, hcreate, hrest⟩ := runOp_bind_eq_ok hrun
  obtain ⟨_, h₂, hconnect, hrest⟩ := runOp_bind_eq_ok hrest
  obtain ⟨_, h₃, hstart, hpost⟩ := runOp_bind_eq_ok hrest
  -- the container as created
  rw [runOp_run] at hcreate
  split at hcreate
  · rename_i created hserve
    have hc₁ : SortedMap.get? h₁.engine.containers vm.value =
        some ⟨created, { spec with endpoints := (EndpointSplit.of spec.endpoints).primary }, false, []⟩ := by
      rw [← (Prod.mk.inj hcreate).2]
      exact MemoryEngine.get?_serve_create_of_ok hserve
    -- connecting keeps its run state, binds and files
    have hc₂ := (rebuild_connects_onlyCalls vm (EndpointSplit.of spec.endpoints).additional).shapesKept
      h₁ vm.value
    rw [hconnect] at hc₂
    simp only [MemoryEngine.objects] at hc₂
    rw [hc₁] at hc₂
    obtain ⟨c₂, hc₂, hshape⟩ : ∃ c₂, SortedMap.get? h₂.engine.containers vm.value = some c₂ ∧
        c₂.shape = (false, spec.binds, []) := by
      cases hget : SortedMap.get? h₂.engine.containers vm.value with
      | none => simp [hget] at hc₂
      | some c₂ =>
        simp only [hget, Option.map_some, Option.some.injEq] at hc₂
        exact ⟨c₂, rfl, hc₂⟩
    -- starting runs it
    rw [runOp_run] at hstart
    split at hstart
    · rename_i hserve'
      have hc₃ : SortedMap.get? h₃.engine.containers vm.value =
          (SortedMap.get? h₂.engine.containers vm.value).map fun c => { c with running := true } := by
        rw [← (Prod.mk.inj hstart).2]
        exact MemoryEngine.get?_serve_start_of_ok hserve'
      rw [hc₂] at hc₃
      -- the post-start command changes no object
      have hsame : h'.engine.objects = h₃.engine.objects := by
        split at hpost
        · split at hpost
          · rename_i cmd _
            have hread := (OnlyCalls.tryCatch (FileTransfer.exec_onlyCalls (FileTransfer.forVm vm) cmd)
              fun _ => .pure ()).objects_eq h₃
            rwa [hpost] at hread
          · cases hpost
            rfl
        · cases hpost
          rfl
      have hc' : SortedMap.get? h'.engine.containers vm.value = some { c₂ with running := true } := by
        rw [show h'.engine.containers = h₃.engine.containers from congrArg EngineObjects.containers hsame]
        simpa using hc₃
      simp only [StoredContainer.shape, Prod.mk.injEq] at hshape
      exact ⟨_, hc', rfl, hshape.2.1, hshape.2.2⟩
    · cases hstart
  · cases hcreate

theorem restore_failsWith (vm : VmId) (saved : Preserved) :
    FailsWith (fun _ => False) (restore backend vm saved) := by
  unfold restore
  dsimp only
  split
  · refine .bind (.tryCatch fun _ => .pure _) fun _ => ?_
    split
    · exact .tryCatch fun _ => .pure _
    · exact .pure _
  · split
    · exact .tryCatch fun _ => .pure _
    · exact .pure _

end Vm

end ContainerCpi
