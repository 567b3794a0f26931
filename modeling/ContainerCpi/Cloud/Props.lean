import ContainerCpi.Cloud.Error
import ContainerCpi.Cloud.InitSystem
import ContainerCpi.Engine.Spec

/-!
# VM cloud properties

The director passes arbitrary JSON per VM.  Everything the engine accepts in a host
configuration is accepted under the engine's own field names (`Memory`, `Binds`,
`Mounts`, …), beside a few keys of this library: `ports` to expose, the target `os` and
`architecture`, a forced `init_system`, and `private_cgroupns`.  Unknown keys are ignored;
`null` means all defaults.

Socket paths may be written as `unix://` addresses; `cleanMounts` strips the scheme, and
bind mounts must then name an absolute host path.
-/

namespace ContainerCpi

/-- Decoded VM cloud properties. -/
structure VmProps where
  /-- Ports to expose, like `6868/tcp`. -/
  exposedPorts : List String
  hostConfig : HostConfig
  os : Option String
  architecture : Option String
  /-- Forces the init style instead of probing the image. -/
  initSystem : Option InitSystem
  /-- Run the container in a private cgroup namespace. -/
  privateCgroupns : Bool
  deriving Inhabited

namespace VmProps

/-- All defaults. -/
def empty : VmProps := ⟨[], .empty, none, none, none, false⟩

/-- The init style decoder: its name in lower case. -/
def initDecoder : Decoder InitSystem := fun d =>
  (Decoder.variant InitSystem.names d).map fun n => (InitSystem.ofName? n).getD .runit

/-- Decoding the properties: the keys of this library, the rest as a host configuration. -/
def decoder : Decoder VmProps :=
  let ports := Decoder.list Decoder.string
  let text := Decoder.option Decoder.string
  let init := Decoder.option initDecoder
  Decoder.recordFlat "VmProps"
    [Decoder.field "ports" ports, Decoder.field "os" text, Decoder.field "architecture" text,
     Decoder.field "init_system" init, Decoder.field "private_cgroupns" Decoder.bool]
    fun f => do
      let exposedPorts ← f.opt "ports" ports []
      let hostConfig ← f.flattened HostConfig.decoder
      let os ← f.opt "os" text none
      let architecture ← f.opt "architecture" text none
      let initSystem ← f.opt "init_system" init none
      let privateCgroupns ← f.opt "private_cgroupns" Decoder.bool false
      return ⟨exposedPorts, hostConfig, os, architecture, initSystem, privateCgroupns⟩

/-- Decode properties; `null` means all defaults. -/
def decode (v : Json) : CpiResult VmProps :=
  match v with
  | .null => .ok empty
  | _ => (Decoder.run decoder v).mapError .invalidProperties

/-- The properties as written: host configuration fields beside the library's keys. -/
def toJson (p : VmProps) : Json :=
  .object <| [("ports", Json.strings p.exposedPorts)] ++ p.hostConfig.fields ++
    p.os.toList.map (fun o => ("os", .string o)) ++
    p.architecture.toList.map (fun a => ("architecture", .string a)) ++
    p.initSystem.toList.map (fun i => ("init_system", .string i.name)) ++
    [("private_cgroupns", .bool p.privateCgroupns)]

/-- The target platform; empty or missing parts take the default. -/
def platform (p : VmProps) : Platform :=
  let pick (v : Option String) (d : String) : String :=
    match v with
    | some s => if s.isEmpty then d else s
    | none => d
  ⟨pick p.os Platform.default.os, pick p.architecture Platform.default.architecture⟩

/-- The scheme of socket addresses. -/
def socketScheme : String := "unix://"

/-- A path without the socket scheme. -/
def stripScheme (s : String) : String := (Text.stripPrefix? s socketScheme).getD s

/-- Clean one mount: a bind mount's source loses the socket scheme and must then be an
absolute path. -/
def cleanMount (m : Mount) : CpiResult Mount :=
  if m.kind? == some "bind" then
    let source := stripScheme (m.source?.getD "")
    if source.startsWith "/" then .ok (m.set "Source" (.string source))
    else .error (.validation s!"Bind mount source '{source}' must be an absolute path")
  else .ok m

/-- Strip the socket scheme from bind sources and reject relative bind-mount sources. -/
def cleanMounts (p : VmProps) : CpiResult VmProps := do
  let hc ← match p.hostConfig.mounts? with
    | some ms => do
      let ms ← ms.mapM cleanMount
      pure (p.hostConfig.setMounts ms)
    | none => pure p.hostConfig
  let hc := match hc.binds? with
    | some bs => hc.setBinds (bs.map stripScheme)
    | none => hc
  return { p with hostConfig := hc }

end VmProps

end ContainerCpi
