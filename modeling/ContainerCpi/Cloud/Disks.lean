import ContainerCpi.Cloud.Monad
import ContainerCpi.Director.Ids

/-!
# Disks

A persistent disk is a volume of the local driver named `vol-<uuid>`.  A disk created for a
VM on a clustered engine goes on the VM's node (`node/vol-<uuid>`).  Existence asks the
engine about the volume; deleting a disk that is gone already succeeds.
-/

namespace ContainerCpi

namespace Disks

/-- The volume driver of every disk. -/
def driver : String := "local"

variable {m : Type → Type} [Monad m] (b : Backend m)

/-- The node a VM runs on, if the engine reports one. -/
def nodeOf (vm : VmId) : CloudM m (Option String) := do
  match ← b.ask (.inspect vm.value) with
  | .ok spec => pure spec.node
  | .error e => throw (if e.isNotFound then .vmNotFound vm else .engine .inspectContainer e)

/-- Create a disk, on the node of `vm` when it runs on one. -/
def create (vm : Option VmId) : CloudM m DiskId := do
  let disk := DiskId.ofUuid (← b.uuid)
  let node ← match vm with
    | some v => nodeOf b v
    | none => pure none
  let name := match node with
    | some n => n ++ "/" ++ disk.value
    | none => disk.value
  b.run .createVolume (.createVolume name driver)
  pure disk

/-- Whether a disk's volume exists. -/
def exists? (disk : DiskId) : CloudM m Bool := do
  match ← b.ask (.inspectVolume disk.value) with
  | .ok () => pure true
  | .error e => if e.isNotFound then pure false else throw (.engine .inspectVolume e)

/-- Delete a disk's volume; one that is gone already counts as deleted. -/
def delete (disk : DiskId) : CloudM m Unit := do
  match ← b.ask (.removeVolume disk.value true) with
  | .ok () => pure ()
  | .error e => if e.isNotFound then pure () else throw (.engine .removeVolume e)

end Disks

end ContainerCpi
