import ContainerCpi.Text.Basic

/-!
# Platforms

The operating system and architecture a container is created for, written `os/arch`.  A
bare operating system means the default architecture; a text with an empty side of its
first `/` is no platform (everything after the first `/` is the architecture).
-/

namespace ContainerCpi

/-- A target operating system and architecture. -/
structure Platform where
  os : String
  architecture : String
  deriving DecidableEq, Repr, Inhabited

namespace Platform

/-- The platform of a container that states none. -/
def default : Platform := ⟨"linux", "amd64"⟩

/-- Label recording the platform a container was created for. -/
def label : String := "cpi.platform"

/-- Read `os/arch` or a bare `os`, ignoring surrounding whitespace. -/
def parse? (value : String) : Option Platform :=
  let v := Text.trim value
  if v.isEmpty then none
  else
    match Text.splitOnce v '/' with
    | some (os, arch) => if os.isEmpty || arch.isEmpty then none else some ⟨os, arch⟩
    | none => some ⟨v, default.architecture⟩

/-- `os/arch`. -/
def render (p : Platform) : String := p.os ++ "/" ++ p.architecture

end Platform

end ContainerCpi
