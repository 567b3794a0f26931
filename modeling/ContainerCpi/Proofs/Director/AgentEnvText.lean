import ContainerCpi.Director.AgentEnv
import ContainerCpi.Proofs.Json.Decoding

/-!
# The agent environment reads back from its text

Each record of the agent environment is decoded back from the object it is written as:
the VM reference, the blobstore settings, the disks (the ephemeral disk written only when
present), each director network (its empty fields left out and read back as their
defaults, `DirectorNetwork.toJson_eq_written`) and the networks by name.  A document whose
maps are kept as maps (`AgentEnv.Canonical`: keys ascending, as the maps holding them keep
them), whose numbers are held and that nests fewer than 128 containers reads back from its
text as itself (`AgentEnv.ofText_render`).  Without holding its numbers, a readable
document (`AgentEnv.Readable`: kept as maps, integers of 64 bits, fewer than 128 containers)
reads back as itself with each number as the reader reads its text
(`AgentEnv.ofText_render_reread`), and what it reads back as is readable again
(`AgentEnv.Readable.reread`).

The bound on nesting cannot be dropped: the reader refuses a container nested 128 deep, so a
document whose settings nest deep enough is written but cannot be read back
(`AgentEnv.deep_text_unreadable`).
-/

namespace ContainerCpi

namespace VmRef

theorem decoder_inverts (v : VmRef) : decoder.Inverts toJson v := by
  intro doc hdoc
  rw [decoder]
  refine Decoder.record_inverts hdoc (by simp) ?_ fun found hfound => ?_
  · intro q hq
    simp only [List.mem_cons, List.not_mem_nil, or_false] at hq
    rcases hq with rfl | rfl
    · exact Decoder.finds_field rfl (Decoder.string_inverts v.name) rfl
    · exact Decoder.finds_field rfl (Decoder.string_inverts v.id) rfl
  · have hname : found.req "name" Decoder.string = .ok v.name :=
      hfound.req "name" (by simp [SortedMap.get?]) (Decoder.string_inverts _)
    have hid : found.req "id" Decoder.string = .ok v.id :=
      hfound.req "id" (by simp [SortedMap.get?]) (Decoder.string_inverts _)
    rw [hname, hid]
    rfl

end VmRef

namespace BlobstoreOptions

theorem decoder_inverts {b : BlobstoreOptions} (hb : (Json.object b.options).Sorted) :
    decoder.Inverts toJson b := by
  intro doc hdoc
  rw [decoder]
  refine Decoder.record_inverts hdoc (by simp) ?_ fun found hfound => ?_
  · intro q hq
    simp only [List.mem_cons, List.not_mem_nil, or_false] at hq
    rcases hq with rfl | rfl
    · exact Decoder.finds_field rfl (Decoder.string_inverts b.provider) rfl
    · exact Decoder.finds_field rfl (Decoder.objectMap_inverts hb) rfl
  · have hprovider : found.opt "provider" Decoder.string "" = .ok b.provider :=
      hfound.opt "provider" (by simp [SortedMap.get?]) (Decoder.string_inverts _)
    have hoptions : found.opt "options" Decoder.objectMap [] = .ok b.options :=
      hfound.opt "options" (by simp [SortedMap.get?]) (Decoder.objectMap_inverts hb)
    rw [hprovider, hoptions]
    rfl

end BlobstoreOptions

namespace DisksSpec

theorem hint_inverts (h : DiskHint) :
    Decoder.Inverts (fun d => (Decoder.string d).map DiskHint.mk) (fun h => .string h.path) h := by
  intro doc hdoc
  show (Decoder.string doc).map DiskHint.mk = .ok h
  rw [Decoder.string_inverts h.path doc hdoc]
  rfl

theorem decoder_inverts {disks : DisksSpec} (hasc : SortedMap.Ascending disks.persistent) :
    decoder.Inverts toJson disks := by
  obtain ⟨system, ephemeral, persistent⟩ := disks
  have hephemeral : (Decoder.option fun d => (Decoder.string d).map DiskHint.mk).Inverts
      (fun o => (o.map fun h : DiskHint => Json.string h.path).getD .null) ephemeral :=
    Decoder.option_inverts fun h _ => ⟨hint_inverts h, by simp⟩
  have hpersistent := Decoder.map_inverts hasc fun q _ => hint_inverts q.2
  intro doc hdoc
  simp only [decoder]
  refine Decoder.record_inverts hdoc ?_ ?_ fun found hfound => ?_
  · cases ephemeral <;> simp
  · intro q hq
    simp only [List.mem_append, List.mem_cons, List.not_mem_nil, or_false] at hq
    rcases hq with (rfl | hq) | rfl
    · exact Decoder.finds_field rfl (hint_inverts system) rfl
    · cases ephemeral with
      | none => cases hq
      | some h =>
        obtain rfl := List.mem_singleton.1 hq
        exact Decoder.finds_field rfl hephemeral rfl
    · exact Decoder.finds_field rfl hpersistent rfl
  · have hsystem : found.opt "system" (fun d => (Decoder.string d).map DiskHint.mk) DiskHint.empty =
        .ok system :=
      hfound.opt "system" (by simp [SortedMap.get?]) (hint_inverts system)
    have hephemeral' : found.opt "ephemeral"
        (Decoder.option fun d => (Decoder.string d).map DiskHint.mk) none = .ok ephemeral := by
      cases ephemeral with
      | none => exact hfound.opt_absent "ephemeral" (by simp [SortedMap.get?])
      | some h => exact hfound.opt "ephemeral" (by simp [SortedMap.get?]) hephemeral
    have hpersistent' : found.opt "persistent"
        (Decoder.map fun d => (Decoder.string d).map DiskHint.mk) [] = .ok persistent :=
      hfound.opt "persistent" (by cases ephemeral <;> simp [SortedMap.get?]) hpersistent
    rw [hsystem, hephemeral', hpersistent']
    rfl

theorem reread_toJson (d : DisksSpec) : d.toJson.reread = d.toJson := by
  obtain ⟨system, ephemeral, persistent⟩ := d
  cases ephemeral <;>
  · simp only [toJson, Json.reread_object, Json.rereadFields_eq_map, List.map_append, List.map_cons,
      List.map_nil, Json.reread_string, List.map_map]
    rfl

end DisksSpec

namespace DirectorNetwork

theorem toJson_eq_written (n : DirectorNetwork) : n.toJson = .object (Json.written
    [("type", n.kind.map .string), ("ip", if n.ip.isEmpty then none else some (.string n.ip)),
      ("netmask", if n.netmask.isEmpty then none else some (.string n.netmask)),
      ("gateway", if n.gateway.isEmpty then none else some (.string n.gateway)),
      ("dns", if n.dns.isEmpty then none else some (Json.strings n.dns)),
      ("default", if n.default.isEmpty then none else some (Json.strings n.default)),
      ("mac", n.mac.map .string), ("preconfigured", some (.bool n.preconfigured)),
      ("cloud_properties",
        if n.cloudProperties.isEmpty then none else some (.object n.cloudProperties))]) := by
  obtain ⟨kind, ip, netmask, gateway, dns, default, mac, preconfigured, cloud⟩ := n
  cases kind <;> cases mac <;> simp [toJson, Json.written_cons_ite]

theorem decoder_inverts {n : DirectorNetwork} (hcloud : (Json.object n.cloudProperties).Sorted) :
    decoder.Inverts toJson n := by
  have hstring : ∀ o : Option String,
      (Decoder.option Decoder.string).Inverts (fun o => (o.map Json.string).getD .null) o :=
    fun o => Decoder.option_inverts fun s _ => ⟨Decoder.string_inverts s, by simp⟩
  have hstrings : ∀ xs : List String, (Decoder.list Decoder.string).Inverts Json.strings xs :=
    fun xs => Decoder.list_inverts fun s _ => Decoder.string_inverts s
  obtain ⟨kind, ip, netmask, gateway, dns, default, mac, preconfigured, cloud⟩ := n
  intro doc hdoc
  simp only [toJson_eq_written] at hdoc
  refine Decoder.record_written hdoc (by simp) ?_ fun found hfound => ?_
  · intro k v hmem
    simp only [List.mem_cons, Prod.mk.injEq, List.not_mem_nil, or_false] at hmem
    -- each entry written holds the text of the field's value
    rcases hmem with ⟨rfl, hv⟩ | ⟨rfl, hv⟩ | ⟨rfl, hv⟩ | ⟨rfl, hv⟩ | ⟨rfl, hv⟩ | ⟨rfl, hv⟩ |
      ⟨rfl, hv⟩ | ⟨rfl, hv⟩ | ⟨rfl, hv⟩
    · obtain ⟨s, rfl, rfl⟩ := Option.map_eq_some_iff.1 hv.symm
      exact Decoder.finds_field rfl (hstring (some s)) rfl
    · obtain rfl := Json.eq_of_some_eq_ite hv
      exact Decoder.finds_field rfl (Decoder.string_inverts ip) rfl
    · obtain rfl := Json.eq_of_some_eq_ite hv
      exact Decoder.finds_field rfl (Decoder.string_inverts netmask) rfl
    · obtain rfl := Json.eq_of_some_eq_ite hv
      exact Decoder.finds_field rfl (Decoder.string_inverts gateway) rfl
    · obtain rfl := Json.eq_of_some_eq_ite hv
      exact Decoder.finds_field rfl (hstrings dns) rfl
    · obtain rfl := Json.eq_of_some_eq_ite hv
      exact Decoder.finds_field rfl (hstrings default) rfl
    · obtain ⟨s, rfl, rfl⟩ := Option.map_eq_some_iff.1 hv.symm
      exact Decoder.finds_field rfl (hstring (some s)) rfl
    · obtain rfl := Option.some_inj.1 hv
      exact Decoder.finds_field rfl (Decoder.bool_inverts preconfigured) rfl
    · obtain rfl := Json.eq_of_some_eq_ite hv
      exact Decoder.finds_field rfl (Decoder.objectMap_inverts hcloud) rfl
  · have htype : found.opt "type" (Decoder.option Decoder.string) none = .ok kind :=
      hfound.opt_option "type" rfl (hstring kind)
    have hip : found.opt "ip" Decoder.string "" = .ok ip :=
      hfound.opt_unless "ip" (by simp) rfl (Decoder.string_inverts ip)
    have hnetmask : found.opt "netmask" Decoder.string "" = .ok netmask :=
      hfound.opt_unless "netmask" (by simp) rfl (Decoder.string_inverts netmask)
    have hgateway : found.opt "gateway" Decoder.string "" = .ok gateway :=
      hfound.opt_unless "gateway" (by simp) rfl (Decoder.string_inverts gateway)
    have hdns : found.opt "dns" (Decoder.list Decoder.string) [] = .ok dns :=
      hfound.opt_unless "dns" (by simp) rfl (hstrings dns)
    have hdefault : found.opt "default" (Decoder.list Decoder.string) [] = .ok default :=
      hfound.opt_unless "default" (by simp) rfl (hstrings default)
    have hmac : found.opt "mac" (Decoder.option Decoder.string) none = .ok mac :=
      hfound.opt_option "mac" rfl (hstring mac)
    have hpreconfigured : found.opt "preconfigured" Decoder.bool false = .ok preconfigured :=
      hfound.opt "preconfigured" rfl (Decoder.bool_inverts preconfigured)
    have hcloud' : found.opt "cloud_properties" Decoder.objectMap [] = .ok cloud :=
      hfound.opt_unless "cloud_properties" (by simp) rfl (Decoder.objectMap_inverts hcloud)
    rw [htype, hip, hnetmask, hgateway, hdns, hdefault, hmac, hpreconfigured, hcloud']
    rfl

/-- The network as its text reads back: the numbers of its cloud properties as the reader
reads them. -/
def reread (n : DirectorNetwork) : DirectorNetwork :=
  { n with cloudProperties := Json.reread.rereadFields n.cloudProperties }

theorem toJson_reread (n : DirectorNetwork) : n.toJson.reread = n.reread.toJson := by
  rw [toJson_eq_written, toJson_eq_written, Json.reread_object, Json.rereadFields_written]
  simp only [reread, List.map_cons, List.map_nil, Option.map_map, Json.reread_comp_string,
    apply_ite (Option.map Json.reread), Option.map_none, Option.map_some, Json.reread_string,
    Json.reread_strings, Json.reread_bool, Json.reread_object, Json.rereadFields_eq_map,
    List.isEmpty_map]

theorem allNumbers_cloudProperties {P : Number → Prop} {n : DirectorNetwork}
    (h : n.toJson.AllNumbers P) : (Json.object n.cloudProperties).AllNumbers P := by
  rw [toJson_eq_written] at h
  by_cases hempty : n.cloudProperties.isEmpty
  · rw [List.isEmpty_iff.1 hempty]
    trivial
  · refine Json.allFields_written.1 h "cloud_properties" _ ?_
    rw [if_neg hempty]
    simp only [List.mem_cons, true_or, or_true]

end DirectorNetwork

namespace Networks

/-- The networks as their text reads back. -/
def reread (ns : Networks) : Networks := ns.map fun q => (q.1, q.2.reread)

theorem toJson_reread (ns : Networks) : (toJson ns).reread = toJson (reread ns) := by
  rw [toJson, toJson, reread, Json.reread_object, Json.rereadFields_eq_map, List.map_map,
    List.map_map]
  refine congrArg Json.object (List.map_congr_left fun q _ => ?_)
  obtain ⟨k, n⟩ := q
  exact congrArg (Prod.mk k) n.toJson_reread

theorem allNumbers_cloudProperties {P : Number → Prop} {ns : Networks} (h : (toJson ns).AllNumbers P) :
    ∀ q ∈ ns, (Json.object q.2.cloudProperties).AllNumbers P := by
  intro q hq
  have hmem : (q.1, q.2.toJson) ∈ ns.map fun p : String × DirectorNetwork => (p.1, p.2.toJson) :=
    List.mem_map_of_mem hq
  exact DirectorNetwork.allNumbers_cloudProperties (Json.allFields_iff.1 h _ hmem)

theorem decoder_inverts {ns : Networks} (hasc : SortedMap.Ascending ns)
    (hcloud : ∀ q ∈ ns, (Json.object q.2.cloudProperties).Sorted) : decoder.Inverts toJson ns :=
  Decoder.map_inverts hasc fun q hq => DirectorNetwork.decoder_inverts (hcloud q hq)

end Networks

namespace AgentEnv

/-- The maps of a document kept as maps keep them: keys ascending, and the keys of every
object inside a JSON value too. -/
structure Canonical (e : AgentEnv) : Prop where
  options : (Json.object e.blobstore.options).Sorted
  networks : SortedMap.Ascending e.networks
  cloudProperties : ∀ q ∈ e.networks, (Json.object q.2.cloudProperties).Sorted
  persistent : SortedMap.Ascending e.disks.persistent
  env : (Json.object e.env).Sorted

theorem decoder_inverts {e : AgentEnv} (he : e.Canonical) : decoder.Inverts toJson e := by
  have hvm := VmRef.decoder_inverts e.vm
  have hntp : (Decoder.list Decoder.string).Inverts Json.strings e.ntp :=
    Decoder.list_inverts fun s _ => Decoder.string_inverts s
  have hblobstore := BlobstoreOptions.decoder_inverts he.options
  have hnetworks := Networks.decoder_inverts he.networks he.cloudProperties
  have hdisks := DisksSpec.decoder_inverts he.persistent
  have henv := Decoder.objectMap_inverts he.env
  intro doc hdoc
  refine Decoder.record_inverts hdoc (by simp) ?_ fun found hfound => ?_
  · intro q hq
    simp only [List.mem_cons, List.not_mem_nil, or_false] at hq
    rcases hq with rfl | rfl | rfl | rfl | rfl | rfl | rfl | rfl
    · exact Decoder.finds_field rfl (Decoder.string_inverts e.agentId.value) rfl
    · exact Decoder.finds_field rfl hvm rfl
    · exact Decoder.finds_field rfl (Decoder.string_inverts e.mbus) rfl
    · exact Decoder.finds_field rfl hntp rfl
    · exact Decoder.finds_field rfl hblobstore rfl
    · exact Decoder.finds_field rfl hnetworks rfl
    · exact Decoder.finds_field rfl hdisks rfl
    · exact Decoder.finds_field rfl henv rfl
  · have hagent : found.req "agent_id" Decoder.string = .ok e.agentId.value :=
      hfound.req "agent_id" rfl (Decoder.string_inverts _)
    have hvm' : found.req "vm" VmRef.decoder = .ok e.vm := hfound.req "vm" rfl hvm
    have hmbus : found.opt "mbus" Decoder.string "" = .ok e.mbus :=
      hfound.opt "mbus" rfl (Decoder.string_inverts _)
    have hntp' : found.opt "ntp" (Decoder.list Decoder.string) [] = .ok e.ntp :=
      hfound.opt "ntp" rfl hntp
    have hblobstore' : found.opt "blobstore" BlobstoreOptions.decoder BlobstoreOptions.empty =
        .ok e.blobstore := hfound.opt "blobstore" rfl hblobstore
    have hnetworks' : found.opt "networks" Networks.decoder [] = .ok e.networks :=
      hfound.opt "networks" rfl hnetworks
    have hdisks' : found.opt "disks" DisksSpec.decoder DisksSpec.empty = .ok e.disks :=
      hfound.opt "disks" rfl hdisks
    have henv' : found.opt "env" Decoder.objectMap [] = .ok e.env := hfound.opt "env" rfl henv
    rw [hagent, hvm', hmbus, hntp', hblobstore', hnetworks', hdisks', henv']
    rfl

/-- A document whose maps are kept as maps, whose numbers are held and that nests fewer than
128 containers reads back from its text as itself. -/
theorem ofText_render {e : AgentEnv} (he : e.Canonical) (hheld : e.toJson.Held)
    (hdepth : e.toJson.depth < 128) : ofText e.render = .ok e := by
  rw [ofText, render, Decoder.runText_render (decoder_inverts he) hheld hdepth]
  rfl

/-- The document as its text reads back: the numbers of its settings as the reader reads
them. -/
def reread (e : AgentEnv) : AgentEnv :=
  { e with
    blobstore := { e.blobstore with options := Json.reread.rereadFields e.blobstore.options }
    networks := Networks.reread e.networks
    env := Json.reread.rereadFields e.env }

theorem toJson_reread (e : AgentEnv) : e.toJson.reread = e.reread.toJson := by
  simp only [toJson, reread, Json.reread_object, Json.rereadFields_eq_map, List.map_cons,
    List.map_nil, Json.reread_string, Json.reread_strings, Networks.toJson_reread,
    DisksSpec.reread_toJson, VmRef.toJson, BlobstoreOptions.toJson]

/-- A document whose text reads back: its maps kept as maps, its numbers legible, and fewer
than 128 containers deep. -/
structure Readable (e : AgentEnv) : Prop where
  canonical : e.Canonical
  legible : e.toJson.AllNumbers Number.Legible
  shallow : e.toJson.depth < 128

section Readable

variable {e : AgentEnv}

-- the settings that may hold numbers, taken from the document's numbers field by field
theorem allNumbers_options {P : Number → Prop} (h : e.toJson.AllNumbers P) :
    (Json.object e.blobstore.options).AllNumbers P := h.2.2.2.2.1.2.1

theorem allNumbers_networks {P : Number → Prop} (h : e.toJson.AllNumbers P) :
    (Networks.toJson e.networks).AllNumbers P := h.2.2.2.2.2.1

theorem allNumbers_env {P : Number → Prop} (h : e.toJson.AllNumbers P) :
    (Json.object e.env).AllNumbers P := h.2.2.2.2.2.2.2.1

theorem Readable.canonical_reread (h : e.Readable) : e.reread.Canonical where
  options := Json.sorted_reread (allNumbers_options h.legible) h.canonical.options
  networks := h.canonical.networks.map_values DirectorNetwork.reread
  cloudProperties := by
    intro q hq
    obtain ⟨p, hp, rfl⟩ := List.mem_map.1 hq
    exact Json.sorted_reread
      (Networks.allNumbers_cloudProperties (allNumbers_networks h.legible) p hp)
      (h.canonical.cloudProperties p hp)
  persistent := h.canonical.persistent
  env := Json.sorted_reread (allNumbers_env h.legible) h.canonical.env

theorem Readable.reread (h : e.Readable) : e.reread.Readable where
  canonical := h.canonical_reread
  legible := by
    rw [← toJson_reread]
    exact Json.legible_reread h.legible
  shallow := by
    rw [← toJson_reread, Json.depth_reread h.legible]
    exact h.shallow

theorem ofText_render_reread (h : e.Readable) : ofText e.render = .ok e.reread := by
  rw [ofText, render,
    Decoder.runText_render_reread (decoder_inverts h.canonical_reread) (toJson_reread e)
      h.legible h.shallow]
  rfl

end Readable

/-- A document with each kind of field: an empty MAC address and network type (written, as
they are present), an empty gateway and default list (left out), an ephemeral disk, a
persistent disk and nested settings with an integer. -/
def sample : AgentEnv where
  agentId := ⟨"agent-1"⟩
  vm := ⟨"c-1", "c-1"⟩
  mbus := "nats://director:4222"
  ntp := ["0.pool.ntp.org"]
  blobstore := ⟨"local", [("path", .string "/var/vcap/blobs")]⟩
  networks := [("default", ⟨some "", "10.0.0.5", "255.255.255.0", "", ["8.8.8.8"], [], some "",
    false, [("name", .string "net1")]⟩)]
  disks := ⟨⟨"/dev/sda"⟩, some ⟨"/dev/sdb"⟩, [("disk-1", ⟨"/dev/sdc"⟩)]⟩
  env := [("bosh", .object [("keep_root_password", .bool true),
    ("port", .number (.unsigned 22))])]

theorem sample_reads_back : sample.Canonical ∧ sample.toJson.Held ∧ sample.toJson.depth < 128 ∧
    ofText sample.render = .ok sample := by
  have hc : sample.Canonical := by
    refine ⟨?options, ?networks, ?cloud, ?persistent, ?env⟩
    case env =>
      have hkeys : "keep_root_password" < "port" := by decide
      exact ⟨List.pairwise_singleton _ _, ⟨List.pairwise_pair.2 hkeys, trivial, trivial, trivial⟩,
        trivial⟩
    -- every other map holds one key
    all_goals simp [sample, Json.Sorted, Json.Sorted.sortedFields, SortedMap.Ascending]
  have hh : sample.toJson.Held := by
    simp [sample, toJson, Json.Held, Json.Held.heldFields, Json.Held.heldItems, Number.Held,
      VmRef.toJson, BlobstoreOptions.toJson, Networks.toJson, DirectorNetwork.toJson,
      DisksSpec.toJson, Json.strings]
    decide
  have hd : sample.toJson.depth < 128 := by decide
  exact ⟨hc, hh, hd, ofText_render hc hh hd⟩

/-- Arrays nested `n + 1` deep. -/
def nestedArrays : Nat → Json
  | 0 => .array []
  | n + 1 => .array [nestedArrays n]

/-- A document whose settings nest 126 arrays, 128 containers in all. -/
def deep : AgentEnv :=
  { empty with agentId := ⟨"agent-1"⟩, vm := ⟨"c-1", "c-1"⟩, env := [("x", nestedArrays 125)] }

theorem nestedArrays_sorted : ∀ n, (nestedArrays n).Sorted
  | 0 => trivial
  | n + 1 => ⟨nestedArrays_sorted n, trivial⟩

theorem nestedArrays_held : ∀ n, (nestedArrays n).Held
  | 0 => trivial
  | n + 1 => ⟨nestedArrays_held n, trivial⟩

theorem deep_text_unreadable : deep.Canonical ∧ deep.toJson.Held ∧ deep.toJson.depth = 128 ∧
    (ofText deep.render).toOption.isSome = false := by
  have hc : deep.Canonical := by
    constructor <;> simp [deep, empty, BlobstoreOptions.empty, DisksSpec.empty, Json.Sorted,
      Json.Sorted.sortedFields, SortedMap.Ascending, nestedArrays_sorted]
  have hh : deep.toJson.Held := by
    simp [deep, empty, toJson, Json.Held, Json.Held.heldFields, Json.Held.heldItems,
      VmRef.toJson, BlobstoreOptions.toJson, BlobstoreOptions.empty, Networks.toJson,
      DisksSpec.toJson, DisksSpec.empty, Json.strings, nestedArrays_held]
  -- the reader refuses the 128th container
  exact ⟨hc, hh, by decide +kernel, by decide +kernel⟩

end AgentEnv

end ContainerCpi
