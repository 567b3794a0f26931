import ContainerCpi.Cloud.Error
import ContainerCpi.Director.AgentEnv
import ContainerCpi.Engine.Hosts

/-!
# Configuration

The configuration names the engine endpoint (`host`, `api_version`, and TLS material for
endpoints that need it) and the agent settings written into every VM.  Keys may also be
written in the engine's capitalised style (`Actions`, `Docker`, `Host`, `APIVersion`, `TLS`,
`CA`, `Certificate`, `PrivateKey`, `Agent`).

Validation is ordered: a host, an API version, TLS material when the host needs it (CA,
certificate and private key, each non-empty), then the agent's message bus.
-/

namespace ContainerCpi

/-- PEM-encoded client credentials. -/
structure TlsOpts where
  ca : String
  certificate : String
  privateKey : String
  deriving DecidableEq, Repr, Inhabited

/-- An engine endpoint. -/
structure DockerOpts where
  host : String
  apiVersion : String
  tls : Option TlsOpts
  deriving DecidableEq, Repr, Inhabited

/-- The configuration of the cloud operations. -/
structure CpiConfig where
  docker : DockerOpts
  agent : AgentOptions
  /-- Boot every VM with systemd instead of probing its stemcell. -/
  startWithSystemd : Bool
  deriving Inhabited

namespace TlsOpts

/-- Decoding: every field may be absent. -/
def decoder : Decoder TlsOpts :=
  Decoder.record "TlsOpts"
    [Decoder.fieldAka "ca" ["CA"] Decoder.string,
     Decoder.fieldAka "certificate" ["Certificate"] Decoder.string,
     Decoder.fieldAka "private_key" ["PrivateKey"] Decoder.string]
    fun f => do
      let ca ← f.opt "ca" Decoder.string ""
      let certificate ← f.opt "certificate" Decoder.string ""
      let privateKey ← f.opt "private_key" Decoder.string ""
      return ⟨ca, certificate, privateKey⟩

/-- As written. -/
def toJson (t : TlsOpts) : Json :=
  .object [("ca", .string t.ca), ("certificate", .string t.certificate),
    ("private_key", .string t.privateKey)]

end TlsOpts

namespace DockerOpts

/-- Decoding: every field may be absent. -/
def decoder : Decoder DockerOpts :=
  let tls := Decoder.option TlsOpts.decoder
  Decoder.record "DockerOpts"
    [Decoder.fieldAka "host" ["Host"] Decoder.string,
     Decoder.fieldAka "api_version" ["APIVersion"] Decoder.string,
     Decoder.fieldAka "tls" ["TLS"] tls]
    fun f => do
      let host ← f.opt "host" Decoder.string ""
      let apiVersion ← f.opt "api_version" Decoder.string ""
      let tls ← f.opt "tls" tls none
      return ⟨host, apiVersion, tls⟩

/-- As written: TLS material only when present. -/
def toJson (o : DockerOpts) : Json :=
  .object <| [("host", .string o.host), ("api_version", .string o.apiVersion)] ++
    o.tls.toList.map fun t => ("tls", t.toJson)

/-- Local sockets and plain HTTP endpoints are used without TLS. -/
def requiresTls (o : DockerOpts) : Bool := Hosts.requiresTls o.host

/-- A host, an API version, and complete TLS material when the host needs it. -/
def validate (o : DockerOpts) : CpiResult Unit :=
  if o.host.isEmpty then .error (.configuration "Must provide non-empty host")
  else if o.apiVersion.isEmpty then .error (.configuration "Must provide non-empty api_version")
  else if o.requiresTls then
    match o.tls with
    | none =>
      let h := o.host
      .error (.configuration s!"Host '{h}' requires TLS credentials")
    | some t =>
      match [("ca", t.ca), ("certificate", t.certificate), ("private_key", t.privateKey)].find?
          (·.2.isEmpty) with
      | some (field, _) => .error (.configuration s!"Must provide non-empty tls.{field}")
      | none => .ok ()
  else .ok ()

end DockerOpts

namespace CpiConfig

/-- Decoding the `actions` record: both parts required. -/
def actionsDecoder : Decoder (DockerOpts × AgentOptions) :=
  Decoder.record "ActionsConfig"
    [Decoder.fieldAka "docker" ["Docker"] DockerOpts.decoder,
     Decoder.fieldAka "agent" ["Agent"] AgentOptions.decoder]
    fun f => do
      let docker ← f.req "docker" DockerOpts.decoder
      let agent ← f.req "agent" AgentOptions.decoder
      return (docker, agent)

/-- Decoding: `actions` is required. -/
def decoder : Decoder CpiConfig :=
  Decoder.record "CpiConfig"
    [Decoder.fieldAka "actions" ["Actions"] actionsDecoder,
     Decoder.field "start_containers_with_systemd" Decoder.bool]
    fun f => do
      let (docker, agent) ← f.req "actions" actionsDecoder
      let systemd ← f.opt "start_containers_with_systemd" Decoder.bool false
      return ⟨docker, agent, systemd⟩

/-- As written. -/
def toJson (c : CpiConfig) : Json :=
  .object [("actions", .object [("docker", c.docker.toJson), ("agent", c.agent.toJson)]),
    ("start_containers_with_systemd", .bool c.startWithSystemd)]

/-- The engine endpoint, then the agent's message bus. -/
def validate (c : CpiConfig) : CpiResult Unit :=
  match c.docker.validate with
  | .error e =>
    let m := e.message
    .error (.configuration s!"validating docker configuration: {m}")
  | .ok () =>
    if c.agent.mbus.isEmpty then
      .error (.configuration "validating agent configuration: Must provide non-empty mbus")
    else .ok ()

end CpiConfig

/-- Why a file could not be read. -/
inductive ReadError where
  | notFound
  | isDirectory
  | permissionDenied
  /-- Any other failure, with its description. -/
  | other (description : String)
  deriving DecidableEq, Repr

/-- The description of a read failure, with the system's error number. -/
def ReadError.message : ReadError → String
  | .notFound => "No such file or directory (os error 2)"
  | .isDirectory => "Is a directory (os error 21)"
  | .permissionDenied => "Permission denied (os error 13)"
  | .other d => d

/-- Read, decode and validate a configuration file whose contents (or read failure) are
given. -/
def CpiConfig.ofFile (path : String) (contents : Except ReadError String) : CpiResult CpiConfig := do
  let text ← match contents with
    | .ok t => pure t
    | .error e =>
      let m := e.message
      throw (.configuration s!"reading config '{path}': {m}")
  let config ← match Decoder.runText CpiConfig.decoder text with
    | .ok c => pure c
    | .error m => throw (.configuration s!"parsing config: {m}")
  config.validate
  return config

end ContainerCpi
