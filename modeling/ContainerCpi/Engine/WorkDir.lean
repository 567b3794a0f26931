import ContainerCpi.Text.Basic

/-!
# The working directory of the scripted host

The scripted host runs the program in a fresh working directory.  It holds the daemon's
socket `docker.sock` while a daemon is serving, and the files written for the run.

A path names an entry when it resolves component by component, from the working directory
or, for a path that starts with `/`, from the root: an empty component and `.` stay where
they are, `..` goes up, and each other component names an entry of the directory reached so
far.  Every step must stand on a directory, so `docker.sock/` and `docker.sock/..` name
nothing.  The empty path names nothing.  The root and the usual system directories are known
to exist; what lies above the working directory is not known, so nothing is found there.
-/

namespace ContainerCpi

/-- What a path names. -/
inductive DirEntry where
  | socket
  | file
  | directory
  deriving DecidableEq, Repr

/-- The working directory of a run: whether the daemon's socket is there, and the names of
the files written into it. -/
structure WorkDir where
  daemon : Bool
  files : List String
  deriving DecidableEq, Repr

namespace WorkDir

/-- The name of the daemon's socket. -/
def socketName : String := "docker.sock"

/-- The system directories known to exist, as paths from the root. -/
def systemDirs : List (List String) :=
  [["tmp"], ["var"], ["var", "run"], ["run"], ["etc"], ["usr"], ["dev"], ["proc"], ["sys"],
   ["bin"], ["lib"], ["sbin"], ["root"], ["home"], ["opt"]]

/-- Where resolving a path has got to. -/
inductive Place where
  /-- The working directory. -/
  | work
  /-- A directory above the working directory. -/
  | above
  /-- A known directory, by its path from the root. -/
  | system (path : List String)
  /-- An entry that is not a directory. -/
  | leaf (entry : DirEntry)
  deriving DecidableEq, Repr

/-- One step of resolving: a component from a place, none when it names nothing. -/
def step (w : WorkDir) (place : Place) (component : String) : Option Place :=
  match place with
  | .leaf _ => none
  | dir =>
    if component == "" || component == "." then some dir
    else if component == ".." then
      match dir with
      | .system path => some (.system path.dropLast)
      | _ => some .above
    else
      match dir with
      | .work =>
        if w.daemon && component == socketName then some (.leaf .socket)
        else if w.files.contains component then some (.leaf .file)
        else none
      | .system path =>
        if systemDirs.contains (path ++ [component]) then some (.system (path ++ [component]))
        else none
      | _ => none

/-- What a path names, if anything. -/
def lookup (w : WorkDir) (path : String) : Option DirEntry :=
  if path.isEmpty then none
  else
    let start : Place := if path.startsWith "/" then .system [] else .work
    match (path.splitOn "/").foldlM (step w) start with
    | some (.leaf entry) => some entry
    | some _ => some .directory
    | none => none

end WorkDir

end ContainerCpi
