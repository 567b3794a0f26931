import ContainerCpi.Cloud.Vm
import ContainerCpi.Cloud.Networking
import ContainerCpi.Cloud.InitProbe
import ContainerCpi.Cloud.Resources
import ContainerCpi.Cloud.Disks
import ContainerCpi.Config.Settings

/-!
# Creating a VM

Creating a VM runs these steps in order, and the first failure ends it:

1. decode the cloud properties, clean their mounts and check them against the host's
   capacity (without capacity checks when the engine cannot report it);
2. choose the init system: the properties', else systemd when configured, else a probe;
3. enable the director networks and draw the VM's id;
4. mark the container for rescheduling on node failure, and pin it to the node of its first
   disk, if that disk lives on one;
5. build the container: the stemcell image, exposed ports, the init system's entrypoint
   and command, a privileged host configuration publishing all ports with seccomp
   unconfined, the ephemeral volume bound over the scratch directory (replacing any bind
   there), the first network at creation, and the platform recorded in a label;
6. create the ephemeral volume;
7. launch: create the container, connect the other networks, start it, run the post-start
   command (ignoring its failure) and write the agent environment.

A failed launch is cleaned up: the container is stopped, removed (three tries, a second
apart) and its ephemeral volume removed, all failures ignored.
-/

namespace ContainerCpi

namespace VmCreation

/-- The environment entry asking a clustered engine to move the container off a failed
node. -/
def rescheduleMarker : String := "reschedule:on-node-failure"

/-- The security option that turns seccomp off. -/
def unconfinedSeccomp : String := "seccomp=unconfined"

/-- The volume driver of ephemeral disks. -/
def volumeDriver : String := "local"

/-- How many tries removing a failed VM's container gets. -/
def cleanupAttempts : Nat := 3

/-- Between two tries. -/
def cleanupDelay : Duration := Duration.ofSecs 1

/-- How long a failed VM's container gets to stop. -/
def cleanupGrace : Duration := Duration.ofSecs 5

/-- Whether a bind's destination (its second `:` part: after the first `:`, up to the next)
is the scratch directory. -/
def targetsScratch (bind : String) : Bool :=
  match Text.splitOnce bind ':' with
  | some (_, rest) =>
    let dest := ((Text.splitOnce rest ':').map (·.1)).getD rest
    Text.trimEndChar dest '/' == Text.trimEndChar Paths.ephemeralMount '/'
  | none => false

/-- The VM's host configuration: the properties' with privileges, all ports published,
seccomp unconfined, a private cgroup namespace when asked, and the ephemeral volume bound
over the scratch directory. -/
def hostConfigFor (props : VmProps) (vm : VmId) : HostConfig :=
  let host := (props.hostConfig.set "Privileged" (.bool true)).set "PublishAllPorts" (.bool true)
  let security := host.securityOpt?.getD []
  let security := if security.contains unconfinedSeccomp then security else security ++ [unconfinedSeccomp]
  let host := host.set "SecurityOpt" (Json.strings security)
  let host := if props.privateCgroupns then host.set "CgroupnsMode" (.string "private") else host
  let binds := (host.binds?.getD []).filter (!targetsScratch ·)
  host.setBinds (binds ++ [vm.ephemeralDisk.value ++ ":" ++ Paths.ephemeralMount])

/-- The container-side configuration of a VM. -/
def configFor (stemcell : StemcellId) (env : List String) (ports : List String)
    (init : InitSystem) (initScript : String) : ContainerConfig :=
  let exposed := if ports.isEmpty then [] else
    [("ExposedPorts", Json.object (ports.map fun p => (p, .object [])))]
  ⟨exposed ++ [("Env", Json.strings env)] ++
    (init.command initScript).toList.map (fun c => ("Cmd", Json.strings c)) ++
    [("Image", .string stemcell.value)] ++
    init.entrypoint.toList.map (fun e => ("Entrypoint", Json.strings e))⟩

variable {m : Type → Type} [Monad m] (b : Backend m)

/-- Create, connect, start and set up the VM's container. -/
def launch (vm : VmId) (spec : ContainerSpec) (additional : List (String × EndpointSettings))
    (init : InitSystem) (env : AgentEnv) : CloudM m Unit := do
  let _ ← b.run .createContainer (.create (some vm.value) spec)
  additional.forM fun (network, endpoint) =>
    b.run .connectNetwork (.connectNetwork network vm.value endpoint)
  b.run .startContainer (.start vm.value)
  let files := FileTransfer.forVm vm
  match init.postStart with
  | some cmd => tryCatch (files.exec b cmd) fun _ => pure ()
  | none => pure ()
  files.writeAgentEnv b env

/-- Remove the container, with at most `attempts` tries left. -/
def removeWithin (vm : VmId) : Nat → CloudM m Unit
  | 0 => pure ()
  | attempts + 1 => do
    match ← b.ask (.remove vm.value true) with
    | .ok () => pure ()
    | .error e =>
      if e.isNotFound || attempts == 0 then pure ()
      else do
        b.pause cleanupDelay
        removeWithin vm attempts

/-- Remove what a failed launch left, ignoring failures. -/
def cleanUp (vm : VmId) : CloudM m Unit := do
  b.attempt (.stop vm.value cleanupGrace)
  removeWithin b vm cleanupAttempts
  b.attempt (.removeVolume vm.ephemeralDisk.value true)

/-- What launching a planned VM takes. -/
structure Plan where
  vm : VmId
  spec : ContainerSpec
  /-- The networks connected after creation. -/
  additional : List (String × EndpointSettings)
  init : InitSystem
  agentEnv : AgentEnv

/-- Decode the cloud properties, clean their mounts and check them against the host's
capacity, without capacity checks when the engine cannot report it. -/
def settle (cloudProps : Json) : CloudM m VmProps := do
  let props ← liftCpi (VmProps.decode cloudProps)
  let props ← liftCpi props.cleanMounts
  let host ← match ← b.ask .hostResources with
    | .ok h => pure (some h)
    | .error _ => pure none
  liftCpi (props.validate host)

/-- The init system: the properties', else systemd when configured, else a probe's. -/
def chooseInit (config : CpiConfig) (stemcell : StemcellId) (props : VmProps) :
    CloudM m InitSystem :=
  match props.initSystem with
  | some i => pure i
  | none =>
    if config.startWithSystemd then pure .systemd
    else InitSystem.detect b stemcell.value props.platform

/-- Enable the networks, draw the VM's id, and design its container and agent environment. -/
def design (config : CpiConfig) (agent : AgentId) (stemcell : StemcellId) (networks : Networks)
    (disks : List DiskId) (env : List (String × Json)) (props : VmProps) (init : InitSystem) :
    CloudM m Plan := do
  let (setup, networks) ← Networking.enable b networks
  let vm := VmId.ofUuid (← b.uuid)
  let pin ← match disks.head? with
    | some d => do
      let location ← DiskLocation.locate b d
      pure (location.node?.toList.map (Vm.nodeConstraintPrefix ++ ·))
    | none => pure []
  let split := EndpointSplit.of setup.endpoints
  let spec : ContainerSpec :=
    { config := configFor stemcell (rescheduleMarker :: pin) props.exposedPorts init setup.initScript
      hostConfig := some (hostConfigFor props vm)
      endpoints := split.primary
      platform := props.platform
      node := none }
  let agentEnv := (AgentEnv.forVm agent vm networks env config.agent).attachSystemDisk DiskHint.empty
  pure ⟨vm, spec.recordPlatform, split.additional, init, agentEnv⟩

/-- Everything a creation does before the launch, creating the ephemeral volume last. -/
def plan (config : CpiConfig) (agent : AgentId) (stemcell : StemcellId) (cloudProps : Json)
    (networks : Networks) (disks : List DiskId) (env : List (String × Json)) : CloudM m Plan := do
  let props ← settle b cloudProps
  let init ← chooseInit b config stemcell props
  let p ← design b config agent stemcell networks disks env props init
  b.run .createEphemeralVolume (.createVolume p.vm.ephemeralDisk.value volumeDriver)
  pure p

/-- Launch a planned VM; a failed launch is cleaned up before its error is returned. -/
def complete (p : Plan) : CloudM m VmId := do
  tryCatch (launch b p.vm p.spec p.additional p.init p.agentEnv) fun e => do
    cleanUp b p.vm
    throw e
  pure p.vm

/-- Create a VM. -/
def create (config : CpiConfig) (agent : AgentId) (stemcell : StemcellId) (cloudProps : Json)
    (networks : Networks) (disks : List DiskId) (env : List (String × Json)) : CloudM m VmId := do
  let p ← plan b config agent stemcell cloudProps networks disks env
  complete b p

end VmCreation

end ContainerCpi
