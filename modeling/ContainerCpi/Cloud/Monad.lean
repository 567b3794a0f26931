import ContainerCpi.Engine.Call
import ContainerCpi.Cloud.Error

/-!
# Running cloud operations against a backend

Cloud operations run in `CloudM m`: the backend's monad `m` with failures of type
`CpiError`.  An engine call is made either keeping the engine's answer (`ask`, for the
operations that treat some engine failures as success) or failing with the phase it belongs
to (`run`).  Work bounded by a time limit (`bounded`) fails with a given error when the limit
passes first.
-/

namespace ContainerCpi

/-- Cloud operations over a backend monad. -/
abbrev CloudM (m : Type → Type) := ExceptT CpiError m

namespace Backend

variable {m : Type → Type} [Monad m] (b : Backend m)

/-- Make an engine call and keep its answer. -/
def ask (c : Call) : CloudM m (Except EngineError c.Reply) := ExceptT.lift (b.call c)

/-- Make an engine call; an engine failure is a failure of `phase`. -/
def run (phase : Phase) (c : Call) : CloudM m c.Reply := do
  match ← b.ask c with
  | .ok r => pure r
  | .error e => throw (.engine phase e)

/-- Make an engine call whose failure does not matter. -/
def attempt (c : Call) : CloudM m Unit := do
  let _ ← b.ask c
  pure ()

/-- Wait. -/
def pause (d : Duration) : CloudM m Unit := ExceptT.lift (b.sleep d)

/-- A fresh random UUID. -/
def uuid : CloudM m String := ExceptT.lift b.freshUuid

/-- Run work with a time limit, failing with `late` when the limit passes first. -/
def bounded {α : Type} (limit : Duration) (late : CpiError) (work : CloudM m α) : CloudM m α :=
  ExceptT.mk do
    match ← b.within limit work.run with
    | some r => pure r
    | none => pure (.error late)

end Backend

/-- A failure of a director document, as a cloud failure. -/
def liftSpec {m : Type → Type} [Monad m] {α : Type} (r : Except SpecError α) : CloudM m α :=
  match r with
  | .ok a => pure a
  | .error e => throw (.spec e)

/-- A cloud result as a step of a cloud operation. -/
def liftCpi {m : Type → Type} [Monad m] {α : Type} (r : CpiResult α) : CloudM m α :=
  match r with
  | .ok a => pure a
  | .error e => throw e

end ContainerCpi
