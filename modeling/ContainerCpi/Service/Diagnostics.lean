import ContainerCpi.Cloud.Files
import ContainerCpi.Config.Settings
import ContainerCpi.Text.Debug

/-!
# Diagnostic texts

How the parts of the service describe themselves in diagnostics.  A part shows the
settings that tell two of its kind apart (the VM of a file service and its time limit, the
endpoint of an engine, the identity of a container or volume) and leaves out the rest,
written `..`.  Credentials never show: a CA and a certificate show only their length in
bytes, and the private key is always `"<redacted>"`.
-/

namespace ContainerCpi

namespace Diagnostics

/-- The text of a part with some fields shown and the rest left out. -/
def record (name : String) (fields : List (String × String)) (complete : Bool) : String :=
  let shown := fields.map fun (k, v) => k ++ ": " ++ v
  let body := if complete then shown else shown ++ [".."]
  name ++ " \x7b " ++ ", ".intercalate body ++ " \x7d"

/-- A flag as diagnostics write it. -/
def flag (b : Bool) : String := if b then "true" else "false"

/-- Client credentials, without their secrets. -/
def tls (t : TlsOpts) : String :=
  let size (s : String) : String := "<" ++ toString s.utf8ByteSize ++ " bytes>"
  record "TlsOpts" [("ca", size t.ca), ("certificate", size t.certificate),
    ("private_key", Text.debugQuote "<redacted>")] true

/-- An engine endpoint. -/
def dockerOpts (o : DockerOpts) : String :=
  let credentials := match o.tls with
    | some t => "Some(" ++ tls t ++ ")"
    | none => "None"
  record "DockerOpts" [("host", Text.debugQuote o.host),
    ("api_version", Text.debugQuote o.apiVersion), ("tls", credentials)] true

/-- A VM's identity. -/
def vmId (v : VmId) : String := "VmId(" ++ Text.debugQuote v.value ++ ")"

/-- A disk's identity. -/
def diskId (d : DiskId) : String := "DiskId(" ++ Text.debugQuote d.value ++ ")"

/-- Transfers to and from one VM. -/
def fileService (f : FileTransfer) : String :=
  record "FileService" [("vm", vmId f.vm), ("timeout", f.timeout.debug)] false

/-- The agent environment of one VM, kept in its files. -/
def agentEnvService (f : FileTransfer) : String :=
  record "FsAgentEnvService" [("files", fileService f)] true

/-- One VM's container. -/
def container (v : VmId) : String := record "Container" [("id", vmId v)] false

/-- One disk's volume. -/
def volume (d : DiskId) : String := record "Volume" [("id", diskId d)] false

/-- The maker of VMs, with how it boots them. -/
def vmFactory (startWithSystemd : Bool) : String :=
  record "VmFactory" [("start_with_systemd", flag startWithSystemd)] false

/-- A part that shows no fields. -/
def closed (name : String) : String := record name [] false

end Diagnostics

end ContainerCpi
