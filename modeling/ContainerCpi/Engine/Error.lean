import ContainerCpi.Text.Basic
import ContainerCpi.Time.Duration

/-!
# Engine failures

What a container engine call can report.  Callers react to a few causes (a container that
is not running, a busy root filesystem, a name already taken, a built-in network); engines
report those only in their message text, so the classifiers search the rendered message.
Only `notFound` is recognised by its constructor.
-/

namespace ContainerCpi

/-- A failed engine call. -/
inductive EngineError where
  /-- The object does not exist. -/
  | notFound (message : String)
  /-- The call conflicts with the object's state. -/
  | conflict (message : String)
  /-- The call did not finish within its limit. -/
  | timeout (operation : String) (limit : Duration)
  /-- Any other status the engine answered with. -/
  | api (status : Nat) (message : String)
  /-- The engine could not be reached or its answer not read. -/
  | transport (message : String)
  /-- The engine answered with something unusable. -/
  | malformed (message : String)
  deriving DecidableEq, Repr, Inhabited

namespace EngineError

/-- The wording of each failure. -/
def message : EngineError → String
  | .notFound m => "not found: " ++ m
  | .conflict m => "conflict: " ++ m
  | .timeout op limit =>
    let d := limit.debug
    s!"engine call '{op}' timed out after {d}"
  | .api status m => s!"engine returned {status}: " ++ m
  | .transport m => "engine transport error: " ++ m
  | .malformed m => "malformed engine response: " ++ m

/-- The object does not exist. -/
def isNotFound : EngineError → Bool
  | .notFound _ => true
  | _ => false

/-- A kill or exec against a stopped container. -/
def isNotRunning (e : EngineError) : Bool := Text.contains e.message "is not running"

/-- A removal that could not unmount the container's root filesystem; the engine reclaims
it later. -/
def isRootfsBusy (e : EngineError) : Bool :=
  Text.contains e.message "failed to remove root filesystem" ||
    Text.contains e.message "device or resource busy"

/-- A create whose name is taken. -/
def isAlreadyExists (e : EngineError) : Bool := Text.contains e.message "already exists"

/-- A create shadowing one of the engine's built-in networks. -/
def isPredefinedNetwork (e : EngineError) : Bool :=
  Text.contains e.message "not permitted on predefined" ||
    Text.contains e.message "is a pre-defined network"

/-- Whether the failure may pass if the call is simply made again. -/
def isTransient : EngineError → Bool
  | .timeout _ _ => true
  | .transport _ => true
  | _ => false

end EngineError

/-- Limits for engine calls: quick lookups, ordinary changes, and waiting on a container. -/
def Duration.shortCall : Duration := Duration.ofSecs 30

/-- Limit for ordinary engine changes. -/
def Duration.defaultCall : Duration := Duration.ofSecs 120

/-- Limit for waiting on a container. -/
def Duration.longCall : Duration := Duration.ofSecs 300

end ContainerCpi
