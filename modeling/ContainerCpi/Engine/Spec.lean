import ContainerCpi.Engine.Models
import ContainerCpi.Engine.Platform
import ContainerCpi.Net.Prefix

/-!
# Container specifications

Everything needed to create a container: its container-side configuration, its host
configuration, the networks it joins at creation, and the platform.  Inspecting a container
gives the same record back (with the node of a clustered engine), so a container can be
recreated from its own inspection after a change.

The platform is also recorded in a label, so that inspection recovers it even from engines
that report only the operating system.
-/

namespace ContainerCpi

/-- The container-side configuration in canonical form (image, command, environment,
labels; host and network settings are kept apart). -/
structure ContainerConfig where
  fields : List (String × Json)
  deriving Inhabited

namespace ContainerConfig

/-- No settings. -/
def empty : ContainerConfig := ⟨[]⟩

/-- A field. -/
def get? (c : ContainerConfig) (key : String) : Option Json :=
  (c.fields.find? (·.1 == key)).map (·.2)

/-- Change a field. -/
def set (c : ContainerConfig) (key : String) (v : Json) : ContainerConfig :=
  ⟨Json.Fields.set key v c.fields⟩

/-- Change a field to a value or remove it. -/
def setOpt (c : ContainerConfig) (key : String) (v : Option Json) : ContainerConfig :=
  match v with
  | some j => c.set key j
  | none => ⟨Json.Fields.erase key c.fields⟩

/-- The image. -/
def image? (c : ContainerConfig) : Option String := (c.get? "Image").bind Json.str?

/-- The environment, `NAME=value` entries. -/
def env? (c : ContainerConfig) : Option (List String) := (c.get? "Env").bind Json.strings?

/-- The command. -/
def cmd? (c : ContainerConfig) : Option (List String) := (c.get? "Cmd").bind Json.strings?

/-- The entrypoint. -/
def entrypoint? (c : ContainerConfig) : Option (List String) :=
  (c.get? "Entrypoint").bind Json.strings?

/-- Exposed ports like `6868/tcp`. -/
def exposedPorts? (c : ContainerConfig) : Option (List String) :=
  (c.get? "ExposedPorts").bind fun j => j.fields?.map (·.map (·.1))

/-- Labels. -/
def labels? (c : ContainerConfig) : Option (List (String × String)) :=
  (c.get? "Labels").bind Json.stringMap?

/-- Read a container configuration as the engine reports it. -/
def decoder : Decoder ContainerConfig :=
  fun d => (Models.containerConfig.decode d).map fun j => ⟨j.fields?.getD []⟩

end ContainerConfig

/-- Everything needed to create a container. -/
structure ContainerSpec where
  config : ContainerConfig
  hostConfig : Option HostConfig
  /-- Networks joined at creation, by engine network name, sorted. -/
  endpoints : List (String × EndpointSettings)
  platform : Platform
  /-- The node running the container on a clustered engine (reported by inspection). -/
  node : Option String
  deriving Inhabited

namespace ContainerSpec

/-- A container of the default platform with no settings. -/
def empty : ContainerSpec := ⟨.empty, none, [], .default, none⟩

/-- The image. -/
def image? (s : ContainerSpec) : Option String := s.config.image?

/-- The bind mounts (none when unset). -/
def binds (s : ContainerSpec) : List String := ((s.hostConfig.bind HostConfig.binds?)).getD []

/-- Replace the bind mounts, creating the host configuration if needed. -/
def setBinds (s : ContainerSpec) (binds : List String) : ContainerSpec :=
  { s with hostConfig := some ((s.hostConfig.getD .empty).setBinds binds) }

@[simp] theorem binds_setBinds (s : ContainerSpec) (binds : List String) :
    (s.setBinds binds).binds = binds := by
  simp [ContainerSpec.binds, setBinds]

/-- The environment (empty when unset). -/
def env (s : ContainerSpec) : List String := s.config.env?.getD []

/-- Replace the environment. -/
def setEnv (s : ContainerSpec) (env : List String) : ContainerSpec :=
  { s with config := s.config.set "Env" (Json.strings env) }

@[simp] theorem binds_setEnv (s : ContainerSpec) (env : List String) :
    (s.setEnv env).binds = s.binds := rfl

/-- The environment entry that pins a container to a node of a clustered engine, before
the node's name. -/
def nodeConstraintPrefix : String := "constraint:node=="

/-- Store the platform in a label, so a later inspection recovers it. -/
def recordPlatform (s : ContainerSpec) : ContainerSpec :=
  let labels := (s.config.get? "Labels").getD (.object [])
  { s with config := s.config.set "Labels" (labels.setField Platform.label (.string s.platform.render)) }

/-- The platform stored by `recordPlatform`, if any. -/
def recordedPlatform? (s : ContainerSpec) : Option Platform :=
  ((s.config.labels?.getD []).find? (·.1 == Platform.label)).bind fun (_, v) => Platform.parse? v

end ContainerSpec

/-- Capacity of the engine's host. -/
structure HostResources where
  /-- Total memory in bytes. -/
  totalMemory : Int
  cpus : Int
  deriving DecidableEq, Repr, Inhabited

/-- A network to create. -/
structure NetworkRequest where
  name : String
  driver : String
  enableIpv6 : Bool
  /-- Fixed subnet; none for networks whose addresses the engine picks. -/
  subnet : Option Net.IpNet
  gateway : Option String
  deriving DecidableEq, Repr

/-- Progress of a command run in a container. -/
structure ExecState where
  running : Bool
  exitCode : Option Int
  deriving DecidableEq, Repr

end ContainerCpi
