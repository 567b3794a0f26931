import ContainerCpi.Cloud.Files
import ContainerCpi.Director.AgentEnv

/-!
# The agent environment file of a VM

The agent reads its environment from `/var/vcap/bosh/warden-cpi-agent-env.json` inside the
VM.  Fetching downloads and decodes that file; a document that does not decode is an agent
env failure naming the file.  Updating writes the document's compact JSON text.
-/

namespace ContainerCpi

/-- Decode an agent environment from the bytes of its file; a string of it that does not
hold well-formed UTF-8 is refused. -/
def AgentEnv.ofBytes (bytes : List UInt8) : Except SpecError AgentEnv :=
  (Decoder.runBytes AgentEnv.decoder bytes).mapError .agentEnv

namespace FileTransfer

variable {m : Type → Type} [Monad m] (b : Backend m) (f : FileTransfer)

/-- Read the VM's agent environment. -/
def fetchAgentEnv : CloudM m AgentEnv := do
  let bytes ← f.download b Paths.agentEnv
  match AgentEnv.ofBytes bytes with
  | .ok env => pure env
  | .error e =>
    let path := Paths.agentEnv
    let reason := e.message
    throw (.agentEnv s!"decoding {path}: {reason}")

/-- Write the VM's agent environment. -/
def writeAgentEnv (env : AgentEnv) : CloudM m Unit :=
  f.upload b Paths.agentEnv (Utf8.encode env.render)

end FileTransfer

end ContainerCpi
