import ContainerCpi.Director.Ids
import ContainerCpi.Engine.Error

/-!
# Failures of cloud operations

Every operation fails with a `CpiError`.  An engine failure is tagged with the step it
happened in (`Phase`), so the director sees where a VM creation or a disk change stopped.
A failure after a VM's old container was removed but before its replacement started is a
*partial recreate*: the VM no longer exists under its identity, and whether to retry is the
operator's decision.

Only transient engine failures and file transfers may be retried unchanged.
-/

namespace ContainerCpi

/-- The step of an operation a failure came from. -/
inductive Phase where
  | connect | hostResources | detectInitSystem | enableNetworks | createEphemeralVolume
  | createContainer | connectNetwork | startContainer | postStart | inspectContainer
  | killContainer | removeContainer | removeEphemeralVolume | locateDisk | fetchAgentEnv
  | writeAgentEnv | createVolume | inspectVolume | removeVolume | removeImage
  deriving DecidableEq, Repr, Inhabited

namespace Phase

/-- Every phase, in step order. -/
def all : List Phase :=
  [.connect, .hostResources, .detectInitSystem, .enableNetworks, .createEphemeralVolume,
   .createContainer, .connectNetwork, .startContainer, .postStart, .inspectContainer,
   .killContainer, .removeContainer, .removeEphemeralVolume, .locateDisk, .fetchAgentEnv,
   .writeAgentEnv, .createVolume, .inspectVolume, .removeVolume, .removeImage]

/-- The phase's name. -/
def name : Phase → String
  | .connect => "connect"
  | .hostResources => "host_resources"
  | .detectInitSystem => "detect_init_system"
  | .enableNetworks => "enable_networks"
  | .createEphemeralVolume => "create_ephemeral_volume"
  | .createContainer => "create_container"
  | .connectNetwork => "connect_network"
  | .startContainer => "start_container"
  | .postStart => "post_start"
  | .inspectContainer => "inspect_container"
  | .killContainer => "kill_container"
  | .removeContainer => "remove_container"
  | .removeEphemeralVolume => "remove_ephemeral_volume"
  | .locateDisk => "locate_disk"
  | .fetchAgentEnv => "fetch_agent_env"
  | .writeAgentEnv => "write_agent_env"
  | .createVolume => "create_volume"
  | .inspectVolume => "inspect_volume"
  | .removeVolume => "remove_volume"
  | .removeImage => "remove_image"

/-- The phase with a given name. -/
def ofName? (s : String) : Option Phase := all.find? (·.name == s)

end Phase

/-- Coarse classes of failures. -/
inductive ErrorKind where
  | validation | notFound | engine | partialRecreate | networkConflict | fileTransfer
  | configuration
  deriving DecidableEq, Repr, Inhabited

/-- The class's name. -/
def ErrorKind.name : ErrorKind → String
  | .validation => "Validation"
  | .notFound => "NotFound"
  | .engine => "Engine"
  | .partialRecreate => "PartialRecreate"
  | .networkConflict => "NetworkConflict"
  | .fileTransfer => "FileTransfer"
  | .configuration => "Configuration"

/-- Why a cloud operation failed. -/
inductive CpiError where
  /-- Requested resources or mounts failed their checks. -/
  | validation (message : String)
  /-- VM cloud properties did not decode. -/
  | invalidProperties (message : String)
  | vmNotFound (vm : VmId)
  | diskNotFound (disk : DiskId)
  /-- An engine call failed during `phase`. -/
  | engine (phase : Phase) (source : EngineError)
  /-- The old container is gone and its replacement never started. -/
  | partialRecreate (vm : VmId) (phase : Phase) (source : CpiError)
  | networkConflict (requested existing subnet : String)
  | fileNotFound (path : String)
  | fileTransfer (path reason : String)
  /-- A command run inside the VM failed. -/
  | exec (command reason : String)
  | agentEnv (message : String)
  | configuration (message : String)
  | spec (source : SpecError)
  deriving DecidableEq, Repr, Inhabited

namespace CpiError

/-- The wording of each failure. -/
def message : CpiError → String
  | .validation m => "validation failed: " ++ m
  | .invalidProperties m => "invalid VM cloud properties: " ++ m
  | .vmNotFound vm => let v := vm.value; s!"VM '{v}' does not exist"
  | .diskNotFound d => let v := d.value; s!"disk '{v}' not found on any node"
  | .engine phase source => phase.name ++ " failed: " ++ source.message
  | .partialRecreate vm phase source =>
    let v := vm.value
    let p := phase.name
    s!"recreating VM '{v}' failed at {p} after the previous container was removed: " ++
      source.message
  | .networkConflict requested existing subnet =>
    s!"network '{existing}' already has subnet '{subnet}' requested for network '{requested}'"
  | .fileNotFound path => s!"file '{path}' does not exist in the VM"
  | .fileTransfer path reason => s!"transferring file '{path}' failed: " ++ reason
  | .exec command reason => s!"command '{command}' failed in the VM: " ++ reason
  | .agentEnv m => "agent env error: " ++ m
  | .configuration m => "configuration error: " ++ m
  | .spec e => e.message

/-- The class of a failure. -/
def kind : CpiError → ErrorKind
  | .validation _ | .invalidProperties _ | .spec _ => .validation
  | .vmNotFound _ | .diskNotFound _ => .notFound
  | .engine _ _ => .engine
  | .partialRecreate _ _ _ => .partialRecreate
  | .networkConflict _ _ _ => .networkConflict
  | .fileNotFound _ | .fileTransfer _ _ | .exec _ _ | .agentEnv _ => .fileTransfer
  | .configuration _ => .configuration

/-- The step the failure came from, when known. -/
def phase? : CpiError → Option Phase
  | .engine p _ => some p
  | .partialRecreate _ p _ => some p
  | _ => none

/-- Whether the director may retry the whole operation unchanged. -/
def isRetryable : CpiError → Bool
  | .engine _ source => source.isTransient
  | .fileTransfer _ _ => true
  | _ => false

end CpiError

/-- Results of cloud operations. -/
abbrev CpiResult (α : Type) := Except CpiError α

end ContainerCpi
