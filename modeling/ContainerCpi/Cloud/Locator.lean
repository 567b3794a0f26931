import ContainerCpi.Cloud.Monad
import ContainerCpi.Director.Ids

/-!
# Where a disk lives

On a clustered engine a disk's volume is named `node/disk`; on a single host it is named
by the disk id alone.  A disk is located by listing the volumes and taking the first that
names it either way; a disk with no such volume is missing, which `require` reports as
`diskNotFound`.
-/

namespace ContainerCpi

/-- Where a disk's volume is. -/
inductive DiskLocation where
  /-- On a node of a clustered engine. -/
  | node (name : String)
  /-- Named by the disk id alone. -/
  | unqualified
  | missing
  deriving DecidableEq, Repr

namespace DiskLocation

/-- The node a disk is pinned to, if any. -/
def node? : DiskLocation → Option String
  | .node n => some n
  | _ => none

/-- What a volume name says about a disk: a `node/disk` name with a non-empty node, or a
name without `/` equal to the disk id. -/
def ofVolume (volume : String) (disk : DiskId) : Option DiskLocation :=
  match Text.splitOnce volume '/' with
  | some (host, name) => if name == disk.value && !host.isEmpty then some (.node host) else none
  | none => if volume == disk.value then some .unqualified else none

/-- The location the first matching volume gives. -/
def ofVolumes (volumes : List String) (disk : DiskId) : DiskLocation :=
  (volumes.findSome? (ofVolume · disk)).getD .missing

variable {m : Type → Type} [Monad m] (b : Backend m)

/-- Locate a disk among the engine's volumes. -/
def locate (disk : DiskId) : CloudM m DiskLocation := do
  let volumes ← b.run .locateDisk .listVolumes
  pure (ofVolumes volumes disk)

/-- Locate a disk that must exist. -/
def require (disk : DiskId) : CloudM m DiskLocation := do
  match ← locate b disk with
  | .missing => throw (.diskNotFound disk)
  | l => pure l

end DiskLocation

end ContainerCpi
