import ContainerCpi.Director.Ids
import ContainerCpi.Director.Network

/-!
# The agent environment

The JSON document every VM carries for its agent: who it is, how to reach the director's
message bus, its networks, and where its disks are mounted.  It is written on creation and
rewritten on every disk change; `AgentEnv.render` and `AgentEnv.ofText` are the two
directions, and the document always reads back as itself (`ofText (render e) = e` for the
documents this library writes).

Only `agent_id` and `vm` (with both `name` and `id`) are required when reading; every other
field has an empty default.  The ephemeral disk is written only when present.
-/

namespace ContainerCpi

/-- Where the agent finds blobs. -/
structure BlobstoreOptions where
  provider : String
  options : List (String × Json)
  deriving Inhabited

/-- Agent connectivity settings from the configuration. -/
structure AgentOptions where
  mbus : String
  ntp : List String
  blobstore : BlobstoreOptions
  deriving Inhabited

/-- The VM as the agent knows it. -/
structure VmRef where
  name : String
  id : String
  deriving DecidableEq, Inhabited

/-- Mount points of the VM's disks. -/
structure DisksSpec where
  system : DiskHint
  ephemeral : Option DiskHint
  /-- Persistent disks by identity, sorted. -/
  persistent : List (String × DiskHint)
  deriving DecidableEq, Inhabited

/-- The agent environment document. -/
structure AgentEnv where
  agentId : AgentId
  vm : VmRef
  mbus : String
  ntp : List String
  blobstore : BlobstoreOptions
  networks : Networks
  disks : DisksSpec
  env : List (String × Json)
  deriving Inhabited

namespace BlobstoreOptions

/-- No blobstore. -/
def empty : BlobstoreOptions := ⟨"", []⟩

/-- Decoding: both fields may be absent. -/
def decoder : Decoder BlobstoreOptions :=
  Decoder.record "BlobstoreOptions"
    [Decoder.field "provider" Decoder.string, Decoder.field "options" Decoder.objectMap]
    fun f => do
      let provider ← f.opt "provider" Decoder.string ""
      let options ← f.opt "options" Decoder.objectMap []
      return ⟨provider, options⟩

/-- As written. -/
def toJson (b : BlobstoreOptions) : Json :=
  .object [("provider", .string b.provider), ("options", .object b.options)]

/-- Field-by-field equality, values compared as JSON. -/
def beq (a b : BlobstoreOptions) : Bool :=
  a.provider == b.provider && Json.beq (.object a.options) (.object b.options)

end BlobstoreOptions

namespace AgentOptions

/-- Decoding: `mbus` is required. -/
def decoder : Decoder AgentOptions :=
  Decoder.record "AgentOptions"
    [Decoder.field "mbus" Decoder.string, Decoder.field "ntp" (Decoder.list Decoder.string),
     Decoder.field "blobstore" BlobstoreOptions.decoder]
    fun f => do
      let mbus ← f.req "mbus" Decoder.string
      let ntp ← f.opt "ntp" (Decoder.list Decoder.string) []
      let blobstore ← f.opt "blobstore" BlobstoreOptions.decoder BlobstoreOptions.empty
      return ⟨mbus, ntp, blobstore⟩

/-- As written. -/
def toJson (o : AgentOptions) : Json :=
  .object [("mbus", .string o.mbus), ("ntp", Json.strings o.ntp), ("blobstore", o.blobstore.toJson)]

end AgentOptions

namespace DisksSpec

/-- No disks. -/
def empty : DisksSpec := ⟨DiskHint.empty, none, []⟩

/-- Decoding: every field may be absent. -/
def decoder : Decoder DisksSpec :=
  let hint : Decoder DiskHint := fun d => (Decoder.string d).map DiskHint.mk
  Decoder.record "DisksSpec"
    [Decoder.field "system" hint, Decoder.field "ephemeral" (Decoder.option hint),
     Decoder.field "persistent" (Decoder.map hint)]
    fun f => do
      let system ← f.opt "system" hint DiskHint.empty
      let ephemeral ← f.opt "ephemeral" (Decoder.option hint) none
      let persistent ← f.opt "persistent" (Decoder.map hint) []
      return ⟨system, ephemeral, persistent⟩

/-- As written: the ephemeral disk only when present. -/
def toJson (d : DisksSpec) : Json :=
  .object <|
    [("system", .string d.system.path)] ++
    (match d.ephemeral with
     | some h => [("ephemeral", .string h.path)]
     | none => []) ++
    [("persistent", .object (d.persistent.map fun (k, h) => (k, .string h.path)))]

end DisksSpec

namespace VmRef

/-- Decoding: both fields are required. -/
def decoder : Decoder VmRef :=
  Decoder.record "VmRef" [Decoder.field "name" Decoder.string, Decoder.field "id" Decoder.string]
    fun f => do
      let name ← f.req "name" Decoder.string
      let id ← f.req "id" Decoder.string
      return ⟨name, id⟩

/-- As written. -/
def toJson (v : VmRef) : Json := .object [("name", .string v.name), ("id", .string v.id)]

end VmRef

namespace AgentEnv

/-- Decoding: `agent_id` and `vm` are required. -/
def decoder : Decoder AgentEnv :=
  Decoder.record "AgentEnv"
    [Decoder.field "agent_id" Decoder.string, Decoder.field "vm" VmRef.decoder,
     Decoder.field "mbus" Decoder.string, Decoder.field "ntp" (Decoder.list Decoder.string),
     Decoder.field "blobstore" BlobstoreOptions.decoder, Decoder.field "networks" Networks.decoder,
     Decoder.field "disks" DisksSpec.decoder, Decoder.field "env" Decoder.objectMap]
    fun f => do
      let agentId ← f.req "agent_id" Decoder.string
      let vm ← f.req "vm" VmRef.decoder
      let mbus ← f.opt "mbus" Decoder.string ""
      let ntp ← f.opt "ntp" (Decoder.list Decoder.string) []
      let blobstore ← f.opt "blobstore" BlobstoreOptions.decoder BlobstoreOptions.empty
      let networks ← f.opt "networks" Networks.decoder []
      let disks ← f.opt "disks" DisksSpec.decoder DisksSpec.empty
      let env ← f.opt "env" Decoder.objectMap []
      return ⟨⟨agentId⟩, vm, mbus, ntp, blobstore, networks, disks, env⟩

/-- The document as a value, fields in their fixed order. -/
def toJson (e : AgentEnv) : Json :=
  .object [("agent_id", .string e.agentId.value), ("vm", e.vm.toJson), ("mbus", .string e.mbus),
    ("ntp", Json.strings e.ntp), ("blobstore", e.blobstore.toJson),
    ("networks", Networks.toJson e.networks), ("disks", e.disks.toJson), ("env", .object e.env)]

/-- The document's text. -/
def render (e : AgentEnv) : String := e.toJson.render

/-- Read a document. -/
def ofText (text : String) : Except SpecError AgentEnv :=
  (Decoder.runText decoder text).mapError .agentEnv

/-- An empty document. -/
def empty : AgentEnv :=
  ⟨⟨""⟩, ⟨"", ""⟩, "", [], BlobstoreOptions.empty, [], DisksSpec.empty, []⟩

/-- The document for a new VM: its identity as both name and id, and the configured agent
settings. -/
def forVm (agent : AgentId) (vm : VmId) (networks : Networks) (env : List (String × Json))
    (options : AgentOptions) : AgentEnv :=
  ⟨agent, ⟨vm.value, vm.value⟩, options.mbus, options.ntp, options.blobstore, networks,
    DisksSpec.empty, env⟩

/-- Record the system disk. -/
def attachSystemDisk (e : AgentEnv) (hint : DiskHint) : AgentEnv :=
  { e with disks := { e.disks with system := hint } }

/-- Record a persistent disk (replacing an earlier hint for it). -/
def attachPersistentDisk (e : AgentEnv) (disk : DiskId) (hint : DiskHint) : AgentEnv :=
  { e with disks := { e.disks with persistent := Decoder.insertSorted disk.value hint e.disks.persistent } }

/-- Forget a persistent disk; also says whether it was listed. -/
def detachPersistentDisk (e : AgentEnv) (disk : DiskId) : AgentEnv × Bool :=
  let listed := e.disks.persistent.any (·.1 == disk.value)
  ({ e with disks := { e.disks with persistent := e.disks.persistent.filter (·.1 != disk.value) } },
    listed)

/-- The hint of a persistent disk. -/
def persistentDisk (e : AgentEnv) (disk : DiskId) : Option DiskHint :=
  (e.disks.persistent.find? (·.1 == disk.value)).map (·.2)

/-- Equality of documents: every field equal, values compared as JSON. -/
def beq (a b : AgentEnv) : Bool :=
  Json.beq a.toJson b.toJson

end AgentEnv

end ContainerCpi
