import ContainerCpi.Cloud.Monad
import ContainerCpi.Cloud.InitSystem

/-!
# Probing a stemcell's init system

When neither the VM's cloud properties nor the configuration choose the init system, a
short-lived probe container of the stemcell prints its `/etc/os-release` and whether the
service supervisor exists; the output is classified as for `InitSystem.classify`.  The
probe is removed afterwards whatever happened, and any failure of the probe means runit.
-/

namespace ContainerCpi

namespace InitSystem

/-- The probe container: bash running the probe script, with its output captured. -/
def probeSpec (image : String) (platform : Platform) : ContainerSpec :=
  { ContainerSpec.empty with
    config := ⟨[("AttachStdout", .bool true), ("AttachStderr", .bool true),
      ("Cmd", Json.strings ["-c", probeScript]), ("Image", .string image),
      ("Entrypoint", Json.strings ["/bin/bash"])]⟩
    platform := platform }

variable {m : Type → Type} [Monad m] (b : Backend m)

/-- Start, wait for and read the logs of the probe container. -/
def probeOutput (id : String) : m (Except EngineError String) := do
  match ← b.call (.start id) with
  | .error e => pure (.error e)
  | .ok () =>
    match ← b.call (.wait id) with
    | .error e => pure (.error e)
    | .ok _ => b.call (.logs id)

/-- The init system of an image, runit when the probe fails. -/
def detect (image : String) (platform : Platform) : CloudM m InitSystem := ExceptT.lift do
  match ← b.call (.create none (probeSpec image platform)) with
  | .error _ => pure .runit
  | .ok id =>
    let output ← probeOutput b id
    let _ ← b.call (.remove id true)
    match output with
    | .ok text => pure (classify text)
    | .error _ => pure .runit

end InitSystem

end ContainerCpi
