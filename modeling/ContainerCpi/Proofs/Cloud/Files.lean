import ContainerCpi.Proofs.Cloud.Run
import ContainerCpi.Cloud.AgentEnvFile
import ContainerCpi.Cloud.Locator

/-!
# What transfers and commands do to the engine

Reading a file of a VM, running a command in it and locating a disk only read: they make
no call that changes an object.  Writing a file changes no container but the VM's, and a
write that fails changes nothing at all, since its only change is the copy that ends it.
Every failure of a command or a write is a failure of the file transfer class.
-/

namespace ContainerCpi

open MemoryHost

namespace FileTransfer

variable (f : FileTransfer)

/-! ## Calls -/

theorem await_onlyCalls_of {P : Call → Bool} (hP : ∀ id, P (.inspectExec id)) (command id : String) :
    ∀ budget, OnlyCalls P (await backend command id budget)
  | 0 => .pure _
  | budget + 1 => by
    unfold await
    dsimp only
    refine .bind (.ask (hP id)) fun r => ?_
    split
    · refine .pure_bind ?_
      split
      · exact .bind (.pause _) fun _ => await_onlyCalls_of hP command id budget
      · split
        · exact .pure _
        · exact .pure _
        · exact .throw _
    · exact .throw_bind _ _

theorem await_onlyCalls (command id : String) (budget : Nat) :
    OnlyCalls Call.changesNoObject (await backend command id budget) :=
  await_onlyCalls_of (fun _ => rfl) command id budget

theorem runToCompletion_onlyCalls (cmd : List String) :
    OnlyCalls Call.changesNoObject (runToCompletion backend f cmd) := by
  unfold runToCompletion
  dsimp only
  refine .bind (.ask rfl) fun r => ?_
  split
  · refine .pure_bind (.bind (.ask rfl) fun r' => ?_)
    split
    · refine .bind (await_onlyCalls _ _ _) fun ok => ?_
      split
      · exact .throw _
      · exact .pure _
    · exact .throw_bind _ _
  · exact .throw_bind _ _

theorem exec_onlyCalls (cmd : List String) : OnlyCalls Call.changesNoObject (exec backend f cmd) :=
  .bounded _ _ (runToCompletion_onlyCalls f cmd)

theorem download_onlyCalls_of {P : Call → Bool} (hcopy : ∀ path, P (.copyFrom f.vm.value path))
    (path : String) : OnlyCalls P (download backend f path) := by
  unfold download
  dsimp only
  refine .bounded _ _ (.bind (.ask (hcopy path)) fun r => ?_)
  split
  · refine .pure_bind ?_
    split
    · exact .pure _
    · exact .throw _
  · exact .throw_bind _ _

theorem fetchAgentEnv_onlyCalls_of {P : Call → Bool} (hcopy : ∀ path, P (.copyFrom f.vm.value path)) :
    OnlyCalls P (fetchAgentEnv backend f) := by
  unfold fetchAgentEnv
  refine .bind (download_onlyCalls_of f hcopy _) fun bytes => ?_
  split
  · exact .pure _
  · exact .throw _

theorem fetchAgentEnv_onlyCalls : OnlyCalls Call.changesNoObject (fetchAgentEnv backend f) :=
  fetchAgentEnv_onlyCalls_of f fun _ => rfl

theorem upload_onlyCalls_of {P : Call → Bool} (hread : ∀ c, c.changesNoObject → P c)
    (hcopy : ∀ dir archive, P (.copyTo f.vm.value dir archive)) (path : String)
    (contents : List UInt8) : OnlyCalls P (upload backend f path contents) := by
  unfold upload
  dsimp only
  split
  · refine .pure_bind (.bounded _ _ (.bind ((runToCompletion_onlyCalls f _).mono hread) fun _ =>
      .bind (.ask (hcopy _ _)) fun r => ?_))
    split
    · exact .pure _
    · exact .throw _
  · exact .throw_bind _ _

theorem upload_onlyCalls (path : String) (contents : List UInt8) :
    OnlyCalls (Call.touchesOnly f.vm.value) (upload backend f path contents) :=
  upload_onlyCalls_of f (fun _ hc => Call.touchesOnly_of_changesNoObject _ hc)
    (fun _ _ => by simp [Call.touchesOnly]) path contents

theorem writeAgentEnv_onlyCalls_of {P : Call → Bool} (hread : ∀ c, c.changesNoObject → P c)
    (hcopy : ∀ dir archive, P (.copyTo f.vm.value dir archive)) (env : AgentEnv) :
    OnlyCalls P (writeAgentEnv backend f env) :=
  upload_onlyCalls_of f hread hcopy Paths.agentEnv (Utf8.encode env.render)

theorem writeAgentEnv_onlyCalls (env : AgentEnv) :
    OnlyCalls (Call.touchesOnly f.vm.value) (writeAgentEnv backend f env) :=
  upload_onlyCalls f _ _

/-! ## Failures -/

theorem await_failsWith (command id : String) :
    ∀ budget, FailsWith (fun e => e.kind = .fileTransfer) (await backend command id budget)
  | 0 => .pure _
  | budget + 1 => by
    unfold await
    dsimp only
    refine .bind (.ask _) fun r => ?_
    split
    · refine .pure_bind ?_
      split
      · exact .bind (fun _ _ _ hrun => by cases hrun) fun _ => await_failsWith command id budget
      · split
        · exact .pure _
        · exact .pure _
        · exact .throw (by rfl)
    · exact .throw_bind (by rfl) _

theorem runToCompletion_failsWith (cmd : List String) :
    FailsWith (fun e => e.kind = .fileTransfer) (runToCompletion backend f cmd) := by
  unfold runToCompletion
  dsimp only
  refine .bind (.ask _) fun r => ?_
  split
  · refine .pure_bind (.bind (.ask _) fun r' => ?_)
    split
    · refine .bind (await_failsWith _ _ _) fun ok => ?_
      split
      · exact .throw (by rfl)
      · exact .pure _
    · exact .throw_bind (by rfl) _
  · exact .throw_bind (by rfl) _

theorem upload_failsWith (path : String) (contents : List UInt8) :
    FailsWith (fun e => e.kind = .fileTransfer) (upload backend f path contents) := by
  unfold upload
  dsimp only
  split
  · refine .pure_bind (.bounded _ _ (.bind (runToCompletion_failsWith f _) fun _ =>
      .bind (.ask _) fun r => ?_))
    split
    · exact .pure _
    · exact .throw (by rfl)
  · exact .throw_bind (by rfl) _

theorem upload_objects_of_error {path : String} {contents : List UInt8} {h h' : MemoryHost}
    {e : CpiError} (hrun : runOp (upload backend f path contents) h = (.error e, h')) :
    h'.engine.objects = h.engine.objects := by
  unfold upload at hrun
  dsimp only at hrun
  split at hrun
  · rw [runOp_bind_of_ok (runOp_pure _ h), runOp_bounded] at hrun
    rcases runOp_bind_eq_error hrun with hmk | ⟨_, h₁, hmk, hcopy⟩
    · rw [← (runToCompletion_onlyCalls f _).objects_eq h, hmk]
    · rw [← (runToCompletion_onlyCalls f _).objects_eq h, hmk]
      rw [runOp_bind, runOp_ask] at hcopy
      dsimp only at hcopy
      split at hcopy
      · cases hcopy
      · rename_i hserve
        cases hcopy
        exact h₁.engine.serve_objects_of_error hserve
  · rw [runOp_bind_of_error (runOp_throw _ h)] at hrun
    cases hrun
    rfl

end FileTransfer

namespace DiskLocation

theorem locate_onlyCalls_of {P : Call → Bool} (hlist : P .listVolumes) (disk : DiskId) :
    OnlyCalls P (locate backend disk) :=
  .bind (.run _ hlist) fun _ => .pure _

theorem locate_onlyCalls (disk : DiskId) :
    OnlyCalls Call.changesNoObject (locate backend disk) :=
  locate_onlyCalls_of rfl disk

theorem require_onlyCalls_of {P : Call → Bool} (hlist : P .listVolumes) (disk : DiskId) :
    OnlyCalls P (require backend disk) := by
  unfold require
  refine .bind (locate_onlyCalls_of hlist disk) fun l => ?_
  split
  · exact .throw _
  · exact .pure _

end DiskLocation

end ContainerCpi
