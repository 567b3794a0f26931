import ContainerCpi.Proofs.Vm.Operations

/-!
# Failed disk changes

A disk change (attaching or detaching a disk) runs in two parts.  The *teardown* refuses an
ephemeral disk, checks that the VM exists, reads its agent environment and state files,
works out the successor's specification and removes the old container.  The *completion*
rebuilds the container from that specification (a failure there removes what was built
and is reported as a partial recreate), writes the agent environment back changed, and
restores the state files.

A rebuild that fails once the old container is gone is reported as a partial recreate of
the phase that failed, which the director may not retry, and leaves no container of the
VM's name while keeping every volume (`changeDisk_reports_partial_recreate`).  Any other
failure left the engine's objects as they were, or failed in removing the old container
after stopping it, or failed in writing the agent environment: then the VM's container is
the running successor, with the disk's bind changed and no files, so its agent
environment is not written (`changeDisk_failure_effects`).
-/

namespace ContainerCpi

open MemoryHost

namespace Vm

variable {m : Type → Type} [Monad m] (b : Backend m)

/-- What a disk change reads before it changes anything: the refusal of an ephemeral disk,
the VM's existence, its agent environment and state files, and the successor's
specification. -/
def survey (refusal : String) (change : BindChange) (vm : VmId) (disk : DiskId) :
    CloudM m (AgentEnv × Preserved × ContainerSpec) := do
  if disk.isEphemeral then throw (.validation refusal)
  ensureExists b vm
  let env ← (FileTransfer.forVm vm).fetchAgentEnv b
  let saved ← preserve b vm
  let spec ← successorSpec b vm disk change
  pure (env, saved, spec)

/-- A disk change up to the removal of the old container. -/
def teardown (refusal : String) (change : BindChange) (vm : VmId) (disk : DiskId) :
    CloudM m (AgentEnv × Preserved × ContainerSpec) := do
  let found ← survey b refusal change vm disk
  removeContainer b vm
  pure found

/-- The rest of a disk change: rebuild, then write the agent environment and restore the
state files. -/
def completeChange (edit : AgentEnv → AgentEnv) (vm : VmId) :
    AgentEnv × Preserved × ContainerSpec → CloudM m Unit
  | (env, saved, spec) => do
    tryCatch (rebuild b vm spec) fun source => do
      b.attempt (.remove vm.value true)
      throw (.partialRecreate vm (source.phase?.getD .createContainer) source)
    (FileTransfer.forVm vm).writeAgentEnv b (edit env)
    restore b vm saved

theorem changeDisk_eq [LawfulMonad m] (refusal : String) (edit : AgentEnv → AgentEnv)
    (change : BindChange) (vm : VmId) (disk : DiskId) :
    changeDisk b refusal edit change vm disk =
      teardown b refusal change vm disk >>= completeChange b edit vm := by
  simp only [changeDisk, teardown, survey, recreate, bind_assoc]
  split
  · simp
  · simp
    rfl

/-! ## The teardown -/

theorem survey_onlyCalls_of {vm : VmId} {P : Call → Bool} (hinspect : P (.inspect vm.value))
    (hcopy : ∀ path, P (.copyFrom vm.value path)) (hlist : P .listVolumes) (refusal : String)
    (change : BindChange) (disk : DiskId) :
    OnlyCalls P (survey backend refusal change vm disk) := by
  unfold survey
  dsimp only
  split
  · exact .throw_bind _ _
  · exact .pure_bind (.bind (ensureExists_onlyCalls_of hinspect) fun _ =>
      .bind (FileTransfer.fetchAgentEnv_onlyCalls_of _ hcopy) fun _ =>
      .bind (preserve_onlyCalls_of hcopy) fun _ =>
      .bind (successorSpec_onlyCalls_of hinspect hlist disk change) fun _ => .pure _)

theorem survey_onlyCalls (refusal : String) (change : BindChange) (vm : VmId) (disk : DiskId) :
    OnlyCalls Call.changesNoObject (survey backend refusal change vm disk) :=
  survey_onlyCalls_of rfl (fun _ => rfl) rfl refusal change disk

/-- The successor a survey finds is the VM's container with the disk's bind changed. -/
theorem survey_of_ok {refusal : String} {change : BindChange} {vm : VmId} {disk : DiskId}
    {h h' : MemoryHost} {env : AgentEnv} {saved : Preserved} {spec : ContainerSpec}
    (hrun : runOp (survey backend refusal change vm disk) h = (.ok (env, saved, spec), h')) :
    ∃ c, SortedMap.get? h.engine.containers vm.value = some c ∧
      applyBindChange c.spec.binds disk change = .ok spec.binds := by
  unfold survey at hrun
  dsimp only at hrun
  split at hrun
  · rw [runOp_bind_of_error (runOp_throw _ _)] at hrun
    cases hrun
  obtain ⟨_, h₁, hexists, hrun⟩ := runOp_bind_eq_ok hrun
  obtain ⟨_, h₂, hfetch, hrun⟩ := runOp_bind_eq_ok hrun
  obtain ⟨_, h₃, hsaved, hrun⟩ := runOp_bind_eq_ok hrun
  obtain ⟨_, _, hsucc, hpure⟩ := runOp_bind_eq_ok hrun
  cases hpure
  obtain ⟨c, hc, hbinds⟩ := successorSpec_of_ok hsucc
  -- the reads before the successor changed no container
  have hread : h₃.engine.objects = h.engine.objects :=
    ((preserve_onlyCalls vm).objects_eq_of_run hsaved).trans
      (((FileTransfer.fetchAgentEnv_onlyCalls _).objects_eq_of_run hfetch).trans
        ((ensureExists_onlyCalls vm).objects_eq_of_run hexists))
  rw [show h₃.engine.containers = h.engine.containers from congrArg EngineObjects.containers hread]
    at hc
  exact ⟨c, hc, hbinds⟩

theorem teardown_objects_of_error {refusal : String} {change : BindChange} {vm : VmId}
    {disk : DiskId} {h h' : MemoryHost} {e : CpiError}
    (hrun : runOp (teardown backend refusal change vm disk) h = (.error e, h')) :
    h'.engine.objects = h.engine.objects ∨
      (e.phase? = some .removeContainer ∧ h'.engine.objects = h.engine.objects.stop vm.value) := by
  unfold teardown at hrun
  rcases runOp_bind_eq_error hrun with hsurvey | ⟨_, h₁, hsurvey, hrest⟩
  · exact .inl ((survey_onlyCalls refusal change vm disk).objects_eq_of_run hsurvey)
  have hread := (survey_onlyCalls refusal change vm disk).objects_eq_of_run hsurvey
  rcases runOp_bind_eq_error hrest with hremove | ⟨_, _, -, hpure⟩
  · rw [← hread]
    exact removeContainer_objects_of_error hremove
  · cases hpure

theorem teardown_of_ok {refusal : String} {change : BindChange} {vm : VmId} {disk : DiskId}
    {h h' : MemoryHost} {env : AgentEnv} {saved : Preserved} {spec : ContainerSpec}
    (hrun : runOp (teardown backend refusal change vm disk) h = (.ok (env, saved, spec), h')) :
    ∃ c, SortedMap.get? h.engine.containers vm.value = some c ∧
      applyBindChange c.spec.binds disk change = .ok spec.binds := by
  unfold teardown at hrun
  obtain ⟨⟨env', saved', spec'⟩, _, hsurvey, hrest⟩ := runOp_bind_eq_ok hrun
  obtain ⟨_, _, -, hpure⟩ := runOp_bind_eq_ok hrest
  cases hpure
  exact survey_of_ok hsurvey

/-! ## The completion -/

theorem completeChange_of_rebuild_error {edit : AgentEnv → AgentEnv} {vm : VmId}
    {env : AgentEnv} {saved : Preserved} {spec : ContainerSpec} {h₁ h₂ : MemoryHost}
    {source : CpiError} (hfail : runOp (rebuild backend vm spec) h₁ = (.error source, h₂)) :
    runOp (completeChange backend edit vm (env, saved, spec)) h₁ =
      (.error (.partialRecreate vm (source.phase?.getD .createContainer) source),
        { h₂ with engine := (h₂.engine.serve (.remove vm.value true)).2 }) := by
  simp only [completeChange]
  rw [runOp_bind, runOp_tryCatch, hfail]
  dsimp only
  rw [runOp_bind_of_ok (runOp_attempt _ _), runOp_throw]

theorem completeChange_of_error {edit : AgentEnv → AgentEnv} {vm : VmId} {env : AgentEnv}
    {saved : Preserved} {spec : ContainerSpec} {h₁ h' : MemoryHost} {e : CpiError}
    (hrun : runOp (completeChange backend edit vm (env, saved, spec)) h₁ = (.error e, h'))
    (hkind : e.kind ≠ .partialRecreate) :
    ∃ h₂, runOp (rebuild backend vm spec) h₁ = (.ok (), h₂) ∧
      runOp ((FileTransfer.forVm vm).writeAgentEnv backend (edit env)) h₂ = (.error e, h') := by
  simp only [completeChange] at hrun
  rcases runOp_bind_eq_error hrun with hre | ⟨_, h₂, hre, hrest⟩
  · -- a rebuild that fails is reported as a partial recreate
    rw [runOp_tryCatch] at hre
    split at hre
    · cases hre
    · rw [runOp_bind_of_ok (runOp_attempt _ _), runOp_throw] at hre
      cases hre
      exact absurd rfl hkind
  · rcases runOp_tryCatch_eq_ok hre with hreb | ⟨_, _, -, hhandler⟩
    · rcases runOp_bind_eq_error hrest with hw | ⟨_, _, -, hrestore⟩
      · exact ⟨h₂, hreb, hw⟩
      · exact (restore_failsWith vm saved _ _ _ hrestore).elim
    · rw [runOp_bind_of_ok (runOp_attempt _ _), runOp_throw] at hhandler
      cases hhandler

/-! ## Disk changes that fail -/

/-- When the rebuild of a disk change fails after the old container was removed, and the
cleanup's forced removal meets no injected failure, the change fails with a partial recreate
of the phase that failed, which may not be retried; no container of the VM's name is left,
and every volume is kept. -/
theorem changeDisk_reports_partial_recreate {refusal : String} {edit : AgentEnv → AgentEnv}
    {change : BindChange} {vm : VmId} {disk : DiskId} {h h₁ h₂ : MemoryHost} {env : AgentEnv}
    {saved : Preserved} {spec : ContainerSpec} {source : CpiError}
    (hdown : runOp (teardown backend refusal change vm disk) h = (.ok (env, saved, spec), h₁))
    (hfail : runOp (rebuild backend vm spec) h₁ = (.error source, h₂))
    (hclean : h₂.engine.queued .remove = []) :
    ∃ phase cause, source = .engine phase cause ∧
      phase ∈ [.createContainer, .connectNetwork, .startContainer] ∧
      (runOp (changeDisk backend refusal edit change vm disk) h).1 =
        .error (.partialRecreate vm phase source) ∧
      (CpiError.partialRecreate vm phase source).isRetryable = false ∧
      SortedMap.get? (runOp (changeDisk backend refusal edit change vm disk) h).2.engine.containers
        vm.value = none ∧
      ∀ w ∈ h.engine.volumes,
        w ∈ (runOp (changeDisk backend refusal edit change vm disk) h).2.engine.volumes := by
  obtain ⟨phase, cause, rfl, hphase⟩ := rebuild_failsWith vm spec _ _ _ hfail
  have hbeside := (changeDisk_onlyCalls refusal edit change vm disk).beside h
  have hrun : runOp (changeDisk backend refusal edit change vm disk) h =
      (.error (.partialRecreate vm phase (.engine phase cause)),
        { h₂ with engine := (h₂.engine.serve (.remove vm.value true)).2 }) := by
    rw [changeDisk_eq, runOp_bind_of_ok hdown, completeChange_of_rebuild_error hfail]
    rfl
  rw [hrun] at hbeside ⊢
  exact ⟨phase, cause, rfl, by simpa [rebuildPhases] using hphase, rfl, rfl,
    h₂.engine.get?_serve_remove_forced vm.value hclean, hbeside.volumes⟩

/-- A VM named c-1 holding its agent environment, beside a disk volume vol-1. -/
def vmWithDisk : MemoryEngine :=
  let s := (MemoryEngine.empty ⟨8589934592, 4⟩).addContainer "c-1" .empty
  let s := s.putFile "c-1" Paths.agentEnv
    (Utf8.encode "\x7b\"agent_id\":\"a\",\"vm\":\x7b\"name\":\"c-1\",\"id\":\"c-1\"\x7d\x7d")
  s.addVolume "vol-1"

/-- Attaching vol-1 when the engine refuses the successor's creation. -/
theorem changeDisk_partial_recreate_of_create_failure :
    let h := (⟨vmWithDisk.fail .create (.api 500 "OCI runtime create failed") 1, 0⟩ : MemoryHost)
    let change := BindChange.attach "/warden-cpi-dev/vol-1"
    let down := runOp (teardown backend "refused" change ⟨"c-1"⟩ ⟨"vol-1"⟩) h
    let found := down.1.toOption.getD (default, ⟨none, none⟩, default)
    let failed := runOp (rebuild backend ⟨"c-1"⟩ found.2.2) down.2
    let source := CpiError.engine .createContainer (.api 500 "OCI runtime create failed")
    let after := runOp (changeDisk backend "refused" id change ⟨"c-1"⟩ ⟨"vol-1"⟩) h
    (down = (.ok found, down.2) ∧ failed = (.error source, failed.2) ∧
      failed.2.engine.queued .remove = []) ∧
    ∃ phase cause, source = .engine phase cause ∧
      phase ∈ [.createContainer, .connectNetwork, .startContainer] ∧
      after.1 = .error (.partialRecreate ⟨"c-1"⟩ phase source) ∧
      (CpiError.partialRecreate ⟨"c-1"⟩ phase source).isRetryable = false ∧
      SortedMap.get? after.2.engine.containers "c-1" = none ∧
      ∀ w ∈ h.engine.volumes, w ∈ after.2.engine.volumes := by
  intro h change down found failed source after
  have hok : down.1.isOk = true := by decide +kernel
  have hdown : down = (.ok found, down.2) := runOp_eq_ok_of_isOk _ hok
  have hfailed : failed.1 = .error source := by decide +kernel
  have hfail : failed = (.error source, failed.2) := by rw [← hfailed]
  have hclean : failed.2.engine.queued .remove = [] := by decide +kernel
  exact ⟨⟨hdown, hfail, hclean⟩, changeDisk_reports_partial_recreate hdown hfail hclean⟩

/-- A disk change that fails with anything but a partial recreate left the engine's objects
as they were; or failed in removing the old container, which it may have stopped; or failed
in writing the agent environment as a file transfer, once the successor was running: then
nothing beside the VM's container changed but for volumes added, and that container runs
with the disk's bind changed and no files. -/
theorem changeDisk_failure_effects {refusal : String} {edit : AgentEnv → AgentEnv}
    {change : BindChange} {vm : VmId} {disk : DiskId} {h h' : MemoryHost} {e : CpiError}
    (hrun : runOp (changeDisk backend refusal edit change vm disk) h = (.error e, h'))
    (hkind : e.kind ≠ .partialRecreate) :
    h'.engine.objects = h.engine.objects ∨
    (e.phase? = some .removeContainer ∧ h'.engine.objects = h.engine.objects.stop vm.value) ∨
    (e.kind = .fileTransfer ∧ EngineObjects.Beside vm.value h.engine.objects h'.engine.objects ∧
      ∃ old new, SortedMap.get? h.engine.containers vm.value = some old ∧
        SortedMap.get? h'.engine.containers vm.value = some new ∧
        applyBindChange old.spec.binds disk change = .ok new.spec.binds ∧
        new.running = true ∧ new.files = []) := by
  have hbeside := (changeDisk_onlyCalls refusal edit change vm disk).beside h
  rw [hrun] at hbeside
  rw [changeDisk_eq] at hrun
  rcases runOp_bind_eq_error hrun with hdown | ⟨⟨env, saved, spec⟩, h₁, hdown, hrest⟩
  · rcases teardown_objects_of_error hdown with hsame | hstop
    · exact .inl hsame
    · exact .inr (.inl hstop)
  obtain ⟨old, hold, hbinds⟩ := teardown_of_ok hdown
  obtain ⟨h₂, hrebuild, hwrite⟩ := completeChange_of_error hrest hkind
  obtain ⟨new, hnew, hrunning, hnewbinds, hfiles⟩ := rebuild_of_ok hrebuild
  -- the failed write changed nothing after the rebuild
  have hsame := FileTransfer.upload_objects_of_error _ hwrite
  rw [show h'.engine.containers = h₂.engine.containers from
    congrArg EngineObjects.containers hsame]
  refine .inr (.inr ⟨FileTransfer.upload_failsWith _ _ _ _ _ _ hwrite, hbeside,
    old, new, hold, hnew, ?_, hrunning, hfiles⟩)
  rw [hnewbinds]
  exact hbinds

/-- Attaching vol-1 when the copy of the agent environment into the successor breaks off. -/
theorem changeDisk_write_failure_effects :
    let h := (⟨vmWithDisk.fail .copyTo (.transport "EOF") 1, 0⟩ : MemoryHost)
    let change := BindChange.attach "/warden-cpi-dev/vol-1"
    let after := runOp (changeDisk backend "refused" id change ⟨"c-1"⟩ ⟨"vol-1"⟩) h
    let e := CpiError.fileTransfer Paths.agentEnv (EngineError.transport "EOF").message
    (after = (.error e, after.2) ∧ e.kind ≠ .partialRecreate) ∧
    (after.2.engine.objects = h.engine.objects ∨
      (e.phase? = some .removeContainer ∧ after.2.engine.objects = h.engine.objects.stop "c-1") ∨
      (e.kind = .fileTransfer ∧ EngineObjects.Beside "c-1" h.engine.objects after.2.engine.objects ∧
        ∃ old new, SortedMap.get? h.engine.containers "c-1" = some old ∧
          SortedMap.get? after.2.engine.containers "c-1" = some new ∧
          applyBindChange old.spec.binds ⟨"vol-1"⟩ change = .ok new.spec.binds ∧
          new.running = true ∧ new.files = [])) := by
  intro h change after e
  have hfailed : after.1 = .error e := by decide +kernel
  have hrun : after = (.error e, after.2) := by rw [← hfailed]
  have hkind : e.kind ≠ .partialRecreate := by decide
  exact ⟨⟨hrun, hkind⟩, changeDisk_failure_effects hrun hkind⟩

/-- Attaching a disk can fail with neither a partial recreate nor a failed removal and still
replace the VM's container: when the agent environment cannot be copied into the running
successor, the VM is left with the new bind and without the agent environment it had. -/
theorem attachDisk_write_failure_leaves_vm_changed :
    let after := runOp (attachDisk backend ⟨"c-1"⟩ ⟨"vol-1"⟩)
      ⟨vmWithDisk.fail .copyTo (.transport "EOF") 1, 0⟩
    after.1 = .error (.fileTransfer Paths.agentEnv (EngineError.transport "EOF").message) ∧
    (SortedMap.get? vmWithDisk.containers "c-1").map StoredContainer.files ≠ some [] ∧
    (SortedMap.get? after.2.engine.containers "c-1").map StoredContainer.files = some [] := by
  decide +kernel

end Vm

end ContainerCpi
