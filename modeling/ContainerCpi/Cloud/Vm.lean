import ContainerCpi.Cloud.AgentEnvFile
import ContainerCpi.Cloud.Locator
import ContainerCpi.Cloud.Endpoints
import ContainerCpi.Cloud.InitSystem

/-!
# VMs and their disks

A VM is a container named by its id.  Deleting it kills it (retrying up to 20 times, 500 ms
apart, where a container already stopped or gone counts as killed), removes it (a container
gone already or whose root filesystem is busy counts as removed) and removes its ephemeral
volume.

The engine binds volumes only when a container is created, so attaching or detaching a
disk *recreates* the container: inspect it, require the disk's volume (pinning the VM to
the disk's node), change its binds, remove it, and create, connect and start it again from
the changed specification.  Around that, the agent environment gets the disk added or
removed, and two files the agent keeps (its update settings and DNS records) are saved
before and written back after.  A failure once the old container is gone leaves no VM:
the half-built container is removed and the failure is a *partial recreate*.
-/

namespace ContainerCpi

/-- How a recreate changes the binds. -/
inductive BindChange where
  /-- Bind the disk at a path, replacing an earlier bind of it. -/
  | attach (path : String)
  | detach
  deriving DecidableEq, Repr

namespace Vm

/-- How often a kill is tried. -/
def killAttempts : Nat := 20

/-- Between two kills. -/
def killRetryDelay : Duration := Duration.ofMillis 500

/-- The environment entry that pins a container to a node. -/
def nodeConstraintPrefix : String := ContainerSpec.nodeConstraintPrefix

/-- The group owning the agent's state files. -/
def vcapGroup : String := "vcap"

/-- Change the bind of a disk: the first bind whose source is the disk is replaced (or the
bind added) on attach, and dropped on detach. -/
def applyBindChange (binds : List String) (disk : DiskId) (change : BindChange) :
    CpiResult (List String) :=
  let pre := disk.value ++ ":"
  let existing := binds.findIdx? (·.startsWith pre)
  match change with
  | .attach path =>
    if path.isEmpty then
      let d := disk.value
      .error (.validation s!"Mount path for disk '{d}' must not be empty")
    else
      let entry := pre ++ path
      match existing with
      | some i => .ok (binds.set i entry)
      | none => .ok (binds ++ [entry])
  | .detach =>
    match existing with
    | some i => .ok (binds.eraseIdx i)
    | none => .ok binds

/-- Pin a container's environment to a node, replacing an earlier pin. -/
def setAffinity (env : List String) (node : String) : List String :=
  env.filter (!·.startsWith nodeConstraintPrefix) ++ [nodeConstraintPrefix ++ node]

/-- The agent's state files kept across a recreate, when they exist and are not empty. -/
structure Preserved where
  updateSettings : Option (List UInt8)
  dnsRecords : Option (List UInt8)

variable {m : Type → Type} [Monad m] (b : Backend m)

/-- Whether the VM's container exists. -/
def exists? (vm : VmId) : CloudM m Bool := do
  match ← b.ask (.inspect vm.value) with
  | .ok _ => pure true
  | .error e => if e.isNotFound then pure false else throw (.engine .inspectContainer e)

/-- Fail unless the VM exists. -/
def ensureExists (vm : VmId) : CloudM m Unit := do
  if !(← exists? b vm) then throw (.vmNotFound vm)

/-- Kill the container, with at most `attempts` tries left. -/
def killWithin (vm : VmId) : Nat → CloudM m Unit
  | 0 => pure ()
  | attempts + 1 => do
    match ← b.ask (.kill vm.value "KILL") with
    | .ok () => pure ()
    | .error e =>
      if e.isNotRunning || e.isNotFound then pure ()
      else if attempts == 0 then throw (.engine .killContainer e)
      else do
        b.pause killRetryDelay
        killWithin vm attempts

/-- Remove the container if it exists, killing it first. -/
def removeContainer (vm : VmId) : CloudM m Unit := do
  if !(← exists? b vm) then return
  killWithin b vm killAttempts
  match ← b.ask (.remove vm.value true) with
  | .ok () => pure ()
  | .error e =>
    if e.isNotFound || e.isRootfsBusy then pure () else throw (.engine .removeContainer e)

/-- Delete the VM: its container and its ephemeral volume. -/
def delete (vm : VmId) : CloudM m Unit := do
  removeContainer b vm
  match ← b.ask (.removeVolume vm.ephemeralDisk.value true) with
  | .ok () => pure ()
  | .error e => if e.isNotFound then pure () else throw (.engine .removeEphemeralVolume e)

/-- A file of the VM when it can be read and is not empty. -/
def downloadOptional (vm : VmId) (path : String) : CloudM m (Option (List UInt8)) :=
  tryCatch
    (do
      let contents ← (FileTransfer.forVm vm).download b path
      pure (if contents.isEmpty then none else some contents))
    (fun _ => pure none)

/-- Save the agent's state files. -/
def preserve (vm : VmId) : CloudM m Preserved := do
  let updateSettings ← downloadOptional b vm Paths.updateSettings
  let dnsRecords ← downloadOptional b vm Paths.dnsRecords
  pure ⟨updateSettings, dnsRecords⟩

/-- Write the DNS records back, with their directory owned by and the file in the agent's
group. -/
def restoreDns (vm : VmId) (contents : List UInt8) : CloudM m Unit := do
  let files := FileTransfer.forVm vm
  let dir := ((Text.splitLast Paths.dnsRecords '/').map (·.1)).getD "/"
  files.exec b ["mkdir", "-p", dir]
  files.exec b ["chown", "root:" ++ vcapGroup, dir]
  files.upload b Paths.dnsRecords contents
  files.exec b ["chgrp", vcapGroup, Paths.dnsRecords]

/-- Write the saved state files back; failures are ignored. -/
def restore (vm : VmId) (saved : Preserved) : CloudM m Unit := do
  match saved.updateSettings with
  | some c => tryCatch ((FileTransfer.forVm vm).upload b Paths.updateSettings c) fun _ => pure ()
  | none => pure ()
  match saved.dnsRecords with
  | some c => tryCatch (restoreDns b vm c) fun _ => pure ()
  | none => pure ()

/-- Create, connect and start the container from a specification; a systemd container then
runs its post-start command, whose failure is ignored. -/
def rebuild (vm : VmId) (spec : ContainerSpec) : CloudM m Unit := do
  let split := EndpointSplit.of spec.endpoints
  let spec := { spec with endpoints := split.primary }
  let _ ← b.run .createContainer (.create (some vm.value) spec)
  split.additional.forM fun (network, endpoint) =>
    b.run .connectNetwork (.connectNetwork network vm.value endpoint)
  b.run .startContainer (.start vm.value)
  if spec.config.entrypoint? == InitSystem.systemd.entrypoint then
    match InitSystem.systemd.postStart with
    | some cmd => tryCatch ((FileTransfer.forVm vm).exec b cmd) fun _ => pure ()
    | none => pure ()

/-- The successor's specification: the container's own, pinned to the node of the disk's
volume and with the disk's bind changed. -/
def successorSpec (vm : VmId) (disk : DiskId) (change : BindChange) : CloudM m ContainerSpec := do
  let spec ← match ← b.ask (.inspect vm.value) with
    | .ok s => pure s
    | .error e => throw (if e.isNotFound then .vmNotFound vm else .engine .inspectContainer e)
  let location ← DiskLocation.require b disk
  let spec := match location.node? with
    | some n => spec.setEnv (setAffinity spec.env n)
    | none => spec
  let binds ← liftCpi (applyBindChange spec.binds disk change)
  pure (spec.setBinds binds)

/-- Recreate the container with the disk's bind changed. -/
def recreate (vm : VmId) (disk : DiskId) (change : BindChange) : CloudM m Unit := do
  let spec ← successorSpec b vm disk change
  removeContainer b vm
  tryCatch (rebuild b vm spec) fun source => do
    b.attempt (.remove vm.value true)
    throw (.partialRecreate vm (source.phase?.getD .createContainer) source)

/-- A disk change: an ephemeral disk is refused with `refusal`; otherwise the agent
environment and the state files are read, the container is recreated with the bind
`change`, the environment is written back changed by `edit`, and the state files are
restored. -/
def changeDisk (refusal : String) (edit : AgentEnv → AgentEnv) (change : BindChange)
    (vm : VmId) (disk : DiskId) : CloudM m Unit := do
  if disk.isEphemeral then throw (.validation refusal)
  ensureExists b vm
  let files := FileTransfer.forVm vm
  let env ← files.fetchAgentEnv b
  let saved ← preserve b vm
  recreate b vm disk change
  files.writeAgentEnv b (edit env)
  restore b vm saved

/-- Attach a disk: the disk's bind at its hint path, and the disk in the agent
environment. -/
def attachDisk (vm : VmId) (disk : DiskId) : CloudM m DiskHint := do
  let d := disk.value
  let hint := DiskHint.forDisk disk
  changeDisk b s!"Ephemeral disk '{d}' cannot be attached" (·.attachPersistentDisk disk hint)
    (.attach hint.path) vm disk
  pure hint

/-- Detach a disk: its bind and its entry in the agent environment go. -/
def detachDisk (vm : VmId) (disk : DiskId) : CloudM m Unit :=
  let d := disk.value
  changeDisk b s!"Ephemeral disk '{d}' cannot be detached" (·.detachPersistentDisk disk |>.1)
    .detach vm disk

end Vm

end ContainerCpi
