import ContainerCpi.Cloud.Monad
import ContainerCpi.Archive.Tar
import ContainerCpi.Director.Ids

/-!
# Files and commands in a VM

The engine copies archives, so a download unwraps the first member of the archive it
gets, and an upload sends a one-member archive (mode 0640) into the file's directory after
creating that directory with `mkdir -p`.  Commands run as engine execs: create, start, then
inspect every 50 ms until the command has exited; exit status 0 (or none) is success.

Each download, upload and command is bounded by the transfer's time limit (30 s unless
set), and reports `timed out after` the limit when it passes.  A missing file is
`fileNotFound`; other engine failures of a transfer are `fileTransfer` with the engine's
message.
-/

namespace ContainerCpi

/-- Transfers to and from one VM. -/
structure FileTransfer where
  vm : VmId
  timeout : Duration
  deriving Inhabited

namespace FileTransfer

/-- The time limit of a transfer unless one is set. -/
def defaultTimeout : Duration := Duration.ofSecs 30

/-- Between two checks of a running command. -/
def pollInterval : Duration := Duration.ofMillis 50

/-- Transfers to and from a VM with the default time limit. -/
def forVm (vm : VmId) : FileTransfer := ⟨vm, defaultTimeout⟩

/-- A path's directory and file name, split at its last `/`: the root for a name right
under it, the current directory for a path without `/`. -/
def splitPath (path : String) : String × String :=
  match Text.splitLast path '/' with
  | some (dir, name) => (if dir.isEmpty then "/" else dir, name)
  | none => (".", path)

/-- The contents of an archive's first member. -/
def firstMember (archive : List UInt8) : Except String (List UInt8) :=
  match Tar.read archive with
  | (m :: _, _) => .ok m.contents
  | ([], some e) => .error e.message
  | ([], none) => .error "archive has no entries"

/-- What a transfer reports when its time limit passes. -/
def lateText (f : FileTransfer) : String :=
  let limit := f.timeout.debug
  s!"timed out after {limit}"

/-- How many checks a command gets: enough that its pauses outlast the time limit. -/
def pollBudget (f : FileTransfer) : Nat := f.timeout.millis / 50 + 2

variable {m : Type → Type} [Monad m] (b : Backend m) (f : FileTransfer)

/-- Check an exec until it has exited, at most `budget` times: true when it exited with
success, false when it was still running after the last check. -/
def await (command id : String) : Nat → CloudM m Bool
  | 0 => pure false
  | budget + 1 => do
    let state ← match ← b.ask (.inspectExec id) with
      | .ok s => pure s
      | .error e => throw (.exec command ("inspecting exec: " ++ e.message))
    if state.running then
      b.pause pollInterval
      await command id budget
    else
      match state.exitCode with
      | none => pure true
      | some 0 => pure true
      | some code => throw (.exec command s!"exit status {code}")

/-- Run a command in the VM and wait for it, without a time limit of its own. -/
def runToCompletion (cmd : List String) : CloudM m Unit := do
  let command := " ".intercalate cmd
  let id ← match ← b.ask (.createExec f.vm.value cmd) with
    | .ok id => pure id
    | .error e => throw (.exec command ("creating exec: " ++ e.message))
  match ← b.ask (.startExec id) with
  | .ok () => pure ()
  | .error e => throw (.exec command ("starting exec: " ++ e.message))
  if !(← await b command id f.pollBudget) then throw (.exec command f.lateText)

/-- Run a command in the VM within the time limit. -/
def exec (cmd : List String) : CloudM m Unit :=
  b.bounded f.timeout (.exec (" ".intercalate cmd) f.lateText) (runToCompletion b f cmd)

/-- Read a file of the VM. -/
def download (path : String) : CloudM m (List UInt8) :=
  b.bounded f.timeout (.fileTransfer path f.lateText) do
    let archive ← match ← b.ask (.copyFrom f.vm.value path) with
      | .ok a => pure a
      | .error e => throw (if e.isNotFound then .fileNotFound path else .fileTransfer path e.message)
    match firstMember archive with
    | .ok contents => pure contents
    | .error reason => throw (.fileTransfer path ("reading archive header: " ++ reason))

/-- Write a file of the VM, creating its directory first. -/
def upload (path : String) (contents : List UInt8) : CloudM m Unit := do
  let (dir, name) := splitPath path
  let archive ← match Tar.archive 0o640 [(Utf8.encode name, contents)] with
    | .ok a => pure a
    | .error e => throw (.fileTransfer path ("building archive: " ++ e.message))
  b.bounded f.timeout (.fileTransfer path f.lateText) do
    runToCompletion b f ["mkdir", "-p", dir]
    match ← b.ask (.copyTo f.vm.value dir archive) with
    | .ok () => pure ()
    | .error e => throw (.fileTransfer path e.message)

end FileTransfer

end ContainerCpi
