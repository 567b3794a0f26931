import ContainerCpi.Proofs.Vm.QuietChange
import ContainerCpi.Proofs.Vm.NodeAffinity

/-!
# A VM across its disk calls

A VM made by a creation on a quiet engine may then have any sequence of disk calls, each
attaching or detaching a persistent disk whose id has no `:` or `/` and that some volume
stores, under its id or under a node's name (`DiskCall`, `Nameable`).  Every call succeeds,
and after each the VM stands as it was created but for its environment and binds
(`Steady`): one running container holds the VM's name; its specification beside its
environment and binds is the created one; its environment is the created one's entries that
pin no node, followed by at most one pin; its ephemeral volume is bound once and still
stored; a disk bound at most once at creation is bound at most once; and the container holds
the agent environment's document, as every call before has edited it, and no other file.

One call keeps `Steady` (`run_steady`), so a whole sequence does (`runAll_steady`), and a
creation establishes it (`create_steady`).  The conditions the engine's machine limits set are
kept apart: a document must fit a file, and the engine must number its execs within a word.
-/

namespace ContainerCpi

open MemoryHost

/-! ## Specifications beside their environment and binds -/

namespace Json.Fields

theorem set_set (k : String) (v v' : Json) : ∀ fs, set k v (set k v' fs) = set k v fs
  | [] => by simp [set]
  | (k', w) :: rest => by
    by_cases hk : k = k'
    · subst hk
      simp [set]
    · simp [set, hk, set_set k v v' rest]

end Json.Fields

namespace ContainerSpec

variable (s : ContainerSpec)

/-- The specification with its environment and binds emptied: what a disk change keeps. -/
def withoutEnvBinds : ContainerSpec := (s.setEnv []).setBinds []

theorem setEnv_setEnv (e e' : List String) : (s.setEnv e).setEnv e' = s.setEnv e' := by
  simp only [setEnv, ContainerConfig.set, Json.Fields.set_set]

theorem setBinds_setBinds (b b' : List String) : (s.setBinds b).setBinds b' = s.setBinds b' := by
  simp only [setBinds, Option.getD_some, HostConfig.setBinds, HostConfig.set, Json.Fields.set_set]

theorem setBinds_setEnv (e b : List String) : (s.setEnv e).setBinds b = (s.setBinds b).setEnv e :=
  rfl

@[simp] theorem withoutEnvBinds_setEnv (e : List String) :
    (s.setEnv e).withoutEnvBinds = s.withoutEnvBinds := by
  rw [withoutEnvBinds, setEnv_setEnv]
  rfl

@[simp] theorem withoutEnvBinds_setBinds (b : List String) :
    (s.setBinds b).withoutEnvBinds = s.withoutEnvBinds := by
  rw [withoutEnvBinds, ← setBinds_setEnv, setBinds_setBinds, withoutEnvBinds]

@[simp] theorem env_setEnv (e : List String) : (s.setEnv e).env = e := by
  simp [env, setEnv, ContainerConfig.env?, ContainerConfig.get?_set]

@[simp] theorem env_setBinds (b : List String) : (s.setBinds b).env = s.env := rfl

end ContainerSpec

/-! ## Documents edited by disk calls -/

namespace Json

theorem depthFields_le_iff {n : Nat} : ∀ {fs : List (String × Json)},
    depth.depthFields fs ≤ n ↔ ∀ q ∈ fs, q.2.depth ≤ n
  | [] => by simp [depth.depthFields]
  | (k, v) :: fs => by simp [depth.depthFields, depthFields_le_iff]

end Json

namespace DisksSpec

theorem toJson_allNumbers (P : Number → Prop) (d : DisksSpec) : d.toJson.AllNumbers P := by
  have hpersistent : (Json.object (d.persistent.map fun q => (q.1, Json.string q.2.path))).AllNumbers
      P := Json.allFields_iff.2 fun q hq => by
    obtain ⟨p, -, rfl⟩ := List.mem_map.1 hq
    trivial
  refine Json.allFields_iff.2 fun q hq => ?_
  simp only [List.mem_append, List.mem_singleton] at hq
  rcases hq with (rfl | hq) | rfl
  · trivial
  · split at hq
    · rw [List.mem_singleton.1 hq]
      trivial
    · exact absurd hq List.not_mem_nil
  · exact hpersistent

theorem depth_toJson_le (d : DisksSpec) : d.toJson.depth ≤ 2 := by
  have hpersistent : (Json.object (d.persistent.map fun q => (q.1, Json.string q.2.path))).depth ≤ 1 := by
    show Json.depth.depthFields _ + 1 ≤ 1
    have hzero : Json.depth.depthFields (d.persistent.map fun q => (q.1, Json.string q.2.path)) ≤ 0 :=
      Json.depthFields_le_iff.2 fun q hq => by
        obtain ⟨p, -, rfl⟩ := List.mem_map.1 hq
        exact Nat.le_refl 0
    omega
  show Json.depth.depthFields _ + 1 ≤ 2
  refine Nat.succ_le_succ (Json.depthFields_le_iff.2 fun q hq => ?_)
  simp only [List.mem_append, List.mem_singleton] at hq
  rcases hq with (rfl | hq) | rfl
  · exact Nat.zero_le 1
  · split at hq
    · rw [List.mem_singleton.1 hq]
      exact Nat.zero_le 1
    · exact absurd hq List.not_mem_nil
  · exact hpersistent

end DisksSpec

namespace AgentEnv

variable {e : AgentEnv}

theorem Readable.withDisks (he : e.Readable) {d : DisksSpec}
    (hd : SortedMap.Ascending d.persistent) : { e with disks := d }.Readable where
  canonical := { he.canonical with persistent := hd }
  legible := by
    have hl := he.legible
    exact ⟨hl.1, hl.2.1, hl.2.2.1, hl.2.2.2.1, hl.2.2.2.2.1, hl.2.2.2.2.2.1,
      d.toJson_allNumbers _, hl.2.2.2.2.2.2.2⟩
  shallow := by
    -- every field but the disks is the old document's, and so nests fewer than 127 deep
    have hold : Json.depth.depthFields _ + 1 < 128 := he.shallow
    have hfields := Json.depthFields_le_iff.1 (Nat.le_of_lt_succ (Nat.lt_of_succ_lt_succ hold))
    show Json.depth.depthFields _ + 1 < 128
    refine Nat.succ_lt_succ (Nat.lt_succ_of_le (Json.depthFields_le_iff.2 fun q hq => ?_))
    simp only [List.mem_cons, List.not_mem_nil, or_false] at hq
    rcases hq with rfl | rfl | rfl | rfl | rfl | rfl | rfl | rfl
    case inr.inr.inr.inr.inr.inr.inl => exact (d.depth_toJson_le).trans (by decide)
    all_goals exact hfields _ (by simp)

theorem Readable.attachPersistentDisk (he : e.Readable) (disk : DiskId) (hint : DiskHint) :
    (e.attachPersistentDisk disk hint).Readable :=
  he.withDisks (by rw [Decoder.insertSorted_eq]; exact he.canonical.persistent.insert _ _)

theorem Readable.detachPersistentDisk (he : e.Readable) (disk : DiskId) :
    (e.detachPersistentDisk disk).1.Readable :=
  he.withDisks (he.canonical.persistent.sublist List.filter_sublist)

end AgentEnv

/-! ## Binds of other disks -/

namespace Vm

theorem eq_of_bindsDisk_bindEntry {d d' : DiskId} {path : String} (hd' : ':' ∉ d'.value.toList)
    (hpath : ':' ∉ path.toList) (h : bindsDisk d (bindEntry d' path) = true) : d = d' := by
  have hentry : (bindEntry d' path).toList = d'.value.toList ++ ':' :: path.toList := by
    simp [bindEntry]
  rw [bindsDisk_iff, hentry] at h
  have hown : d'.value.toList ++ [':'] <+: d'.value.toList ++ ':' :: path.toList := by simp
  have hsame : d.value.toList = d'.value.toList → d = d' := fun heq => by
    obtain ⟨v⟩ := d
    obtain ⟨v'⟩ := d'
    exact congrArg DiskId.mk (String.toList_injective heq)
  rcases List.prefix_or_prefix_of_prefix h hown with hle | hle
  · rcases List.prefix_concat_iff.1 hle with heq | hpre
    · exact hsame (List.append_cancel_right heq)
    · exact absurd (hpre.subset (by simp)) hd'
  · rcases List.prefix_concat_iff.1 hle with heq | ⟨rest, hrest⟩
    · exact hsame (List.append_cancel_right heq).symm
    · -- the disk's id goes on past the other's colon, so the path would hold a colon
      rw [← hrest] at h
      simp only [List.append_assoc, List.cons_append, List.prefix_append_right_inj,
        List.cons_prefix_cons, true_and] at h
      exact absurd (h.subset (by simp)) hpath

/-- A change of one disk binds no other disk more often, when the entry it writes binds that
disk not. -/
theorem countP_change_le {binds binds' : List String} {d d' : DiskId} {change : BindChange}
    (hentry : ∀ path, change = .attach path → bindsDisk d (bindEntry d' path) = false)
    (h : applyBindChange binds d' change = .ok binds') :
    binds'.countP (bindsDisk d) ≤ binds.countP (bindsDisk d) := by
  rcases firstBind_or_unbound d' binds with ⟨pre, entry, post, hfirst⟩ | hnone
  · cases change with
    | attach path =>
      by_cases hpath : path = ""
      · subst hpath
        simp [attach_empty_path] at h
      · rw [attach_of_firstBind hpath hfirst, Except.ok.injEq] at h
        subst h
        have hnew := hentry path rfl
        rw [hfirst.split]
        simp only [List.countP_append, List.countP_cons, hnew, Bool.false_eq_true, if_false]
        omega
    | detach =>
      rw [detach_of_firstBind hfirst, Except.ok.injEq] at h
      subst h
      rw [hfirst.split]
      simp only [List.countP_append, List.countP_cons]
      omega
  · cases change with
    | attach path =>
      by_cases hpath : path = ""
      · subst hpath
        simp [attach_empty_path] at h
      · rw [attach_of_unbound hpath hnone, Except.ok.injEq] at h
        subst h
        simp [List.countP_append, hentry path rfl]
    | detach =>
      rw [detach_of_unbound hnone, Except.ok.injEq] at h
      rw [h]

/-! ## What a VM keeps of its creation -/

/-- An environment as a disk change leaves one created as `created`: the created entries that
pin no node, in order, then at most one pin. -/
def PinnedFrom (created env : List String) : Prop :=
  ∃ node? : Option String, env =
    created.filter (!·.startsWith nodeConstraintPrefix) ++ node?.toList.map (nodeConstraintPrefix ++ ·)

theorem PinnedFrom.setAffinity {created env : List String} (h : PinnedFrom created env)
    (node : String) : PinnedFrom created (setAffinity env node) := by
  obtain ⟨node?, rfl⟩ := h
  have hpins : (node?.toList.map (nodeConstraintPrefix ++ ·)).filter
      (!·.startsWith nodeConstraintPrefix) = [] :=
    List.filter_eq_nil_iff.2 fun x hx => by
      obtain ⟨n, -, rfl⟩ := List.mem_map.1 hx
      simp [startsWith_pin]
  refine ⟨some node, ?_⟩
  rw [Vm.setAffinity, List.filter_append, List.filter_filter, hpins, List.append_nil]
  simp

/-- The specification of a VM against the one it was created with, `created`: the same
beside the environment and the binds; the environment pinned from the created one; the
binds of ephemeral volumes as created; and every disk bound at most once at creation bound
at most once. -/
structure Kept (created spec : ContainerSpec) : Prop where
  beside : spec.withoutEnvBinds = created.withoutEnvBinds
  env : PinnedFrom created.env spec.env
  ephemeral : spec.binds.filter (·.startsWith DiskId.ephemeralLeader) =
    created.binds.filter (·.startsWith DiskId.ephemeralLeader)
  binds : ∀ d : DiskId, created.binds.countP (bindsDisk d) ≤ 1 → spec.binds.countP (bindsDisk d) ≤ 1

@[simp] theorem pinSpec_withoutEnvBinds (spec : ContainerSpec) (node? : Option String) :
    (pinSpec spec node?).withoutEnvBinds = spec.withoutEnvBinds := by
  cases node? <;> simp [pinSpec]

theorem PinnedFrom.pinSpec {created : List String} {spec : ContainerSpec}
    (h : PinnedFrom created spec.env) (node? : Option String) :
    PinnedFrom created (Vm.pinSpec spec node?).env := by
  cases node? with
  | none => exact h
  | some node => simpa [Vm.pinSpec] using h.setAffinity node

/-- A change of a persistent disk whose id holds no `:`, at a path without `:`, keeps what a
VM keeps of its creation, wherever it is pinned. -/
theorem Kept.change {created spec : ContainerSpec} {d : DiskId} {change : BindChange}
    {binds : List String} (hk : Kept created spec) (hd : d.isEphemeral = false)
    (hcolon : ':' ∉ d.value.toList) (hpath : ∀ path, change = .attach path → ':' ∉ path.toList)
    (hbinds : applyBindChange spec.binds d change = .ok binds) (node? : Option String) :
    Kept created ((pinSpec spec node?).setBinds binds) where
  beside := by rw [ContainerSpec.withoutEnvBinds_setBinds, pinSpec_withoutEnvBinds, hk.beside]
  env := by
    rw [ContainerSpec.env_setBinds]
    exact hk.env.pinSpec node?
  ephemeral := by rw [ContainerSpec.binds_setBinds, keeps_ephemeral_binds hd hbinds, hk.ephemeral]
  binds d' hle := by
    rw [ContainerSpec.binds_setBinds]
    have hold := hk.binds d' hle
    by_cases hsame : d' = d
    · -- the changed disk is bound once after an attach and not at all after a detach
      subst hsame
      cases change with
      | attach path =>
        by_cases hempty : path = ""
        · subst hempty
          simp [attach_empty_path] at hbinds
        · obtain ⟨b, hb, hone⟩ := attach_countP hempty hold
          rw [hbinds, Except.ok.injEq] at hb
          rw [hb, hone]
      | detach =>
        obtain ⟨b, hb, hzero⟩ := detach_countP hold
        rw [hbinds, Except.ok.injEq] at hb
        rw [hb, hzero]
        exact Nat.zero_le 1
    · -- another disk's bind is never written, so it is bound no more often
      refine (countP_change_le (fun path hc => ?_) hbinds).trans hold
      rw [Bool.eq_false_iff]
      exact fun hbind => hsame (eq_of_bindsDisk_bindEntry hcolon (hpath path hc) hbind)

/-! ## Disk calls -/

/-- A disk call on a VM: attach a disk, or detach it. -/
inductive DiskCall where
  | attach (disk : DiskId)
  | detach (disk : DiskId)
  deriving DecidableEq, Repr

namespace DiskCall

section Run

variable {m : Type → Type} [Monad m] (b : Backend m)

/-- The call made on VM `vm`; an attach's mount hint is left aside. -/
def run (vm : VmId) : DiskCall → CloudM m Unit
  | .attach d => attachDisk b vm d >>= fun _ => pure ()
  | .detach d => detachDisk b vm d

/-- Calls made one after another. -/
def runAll (vm : VmId) (calls : List DiskCall) : CloudM m Unit := calls.forM (·.run b vm)

end Run

/-- The disk a call names. -/
def disk : DiskCall → DiskId
  | .attach d | .detach d => d

/-- What a call does to the agent environment's document. -/
def edit : DiskCall → AgentEnv → AgentEnv
  | .attach d => fun e => e.attachPersistentDisk d (DiskHint.forDisk d)
  | .detach d => fun e => (e.detachPersistentDisk d).1

/-- What a call does to the binds. -/
def change : DiskCall → BindChange
  | .attach d => .attach (DiskHint.forDisk d).path
  | .detach _ => .detach

theorem run_eq (call : DiskCall) (vm : VmId) :
    ∃ refusal, call.run backend vm = changeDisk backend refusal call.edit call.change vm call.disk := by
  cases call with
  | attach d =>
    simp only [run, attachDisk, bind_assoc, pure_bind, bind_pure_unit]
    exact ⟨_, rfl⟩
  | detach d => exact ⟨_, rfl⟩

theorem edit_readable (call : DiskCall) {e : AgentEnv} (he : e.Readable) : (call.edit e).Readable := by
  cases call with
  | attach d => exact he.attachPersistentDisk d _
  | detach d => exact he.detachPersistentDisk d

theorem change_ok (call : DiskCall) (binds : List String) :
    ∃ binds', applyBindChange binds call.disk call.change = .ok binds' := by
  have hpath : (DiskHint.forDisk call.disk).path ≠ "" := by
    simp [DiskHint.forDisk, Paths.persistentDiskRoot]
  cases call with
  | attach d =>
    rcases firstBind_or_unbound d binds with ⟨pre, entry, post, hfirst⟩ | hnone
    · exact ⟨_, attach_of_firstBind hpath hfirst⟩
    · exact ⟨_, attach_of_unbound hpath hnone⟩
  | detach d =>
    rcases firstBind_or_unbound d binds with ⟨pre, entry, post, hfirst⟩ | hnone
    · exact ⟨_, detach_of_firstBind hfirst⟩
    · exact ⟨_, detach_of_unbound hnone⟩

theorem change_path (call : DiskCall) (hcolon : ':' ∉ call.disk.value.toList) :
    ∀ path, call.change = .attach path → ':' ∉ path.toList := by
  intro path hc
  cases call with
  | attach d =>
    cases hc
    simp only [DiskHint.forDisk, Paths.persistentDiskRoot, String.toList_append, List.mem_append,
      not_or]
    exact ⟨by decide, hcolon⟩
  | detach d => cases hc

end DiskCall

/-- The document after `calls`, from `e`: each call edits the document as its text reads
back. -/
def written : List DiskCall → AgentEnv → AgentEnv
  | [], e => e
  | call :: calls, e => written calls (call.edit e.reread)

/-- A disk that a VM's disk calls may name among the volumes `volumes`: persistent, with no
`:` or `/` in its id, and stored under its id or under a node's name before it. -/
structure Nameable (volumes : List String) (d : DiskId) : Prop where
  persistent : d.isEphemeral = false
  noColon : ':' ∉ d.value.toList
  noSlash : '/' ∉ d.value.toList
  stored : d.value ∈ volumes ∨
    ∃ node, node ≠ "" ∧ '/' ∉ node.toList ∧ node ++ "/" ++ d.value ∈ volumes

theorem Nameable.mono {volumes volumes' : List String} {d : DiskId} (hn : Nameable volumes d)
    (hsub : volumes ⊆ volumes') : Nameable volumes' d where
  persistent := hn.persistent
  noColon := hn.noColon
  noSlash := hn.noSlash
  stored := hn.stored.imp (fun h => hsub h) fun ⟨node, hne, hslash, hmem⟩ =>
    ⟨node, hne, hslash, hsub hmem⟩

end Vm

namespace DiskLocation

theorem ofVolume_ne_missing {v : String} {d : DiskId} {l : DiskLocation}
    (h : ofVolume v d = some l) : l ≠ .missing := by
  unfold ofVolume at h
  split at h
  · split at h
    · cases h
      nofun
    · cases h
  · split at h
    · cases h
      nofun
    · cases h

theorem ofVolumes_ne_missing {vs : List String} {d : DiskId} {v : String} {l : DiskLocation}
    (hv : v ∈ vs) (hl : ofVolume v d = some l) : ofVolumes vs d ≠ .missing := by
  obtain ⟨l', hl'⟩ : ∃ l', vs.findSome? (ofVolume · d) = some l' :=
    Option.isSome_iff_exists.1 (List.findSome?_isSome_iff.2 ⟨v, hv, by rw [hl]; rfl⟩)
  obtain ⟨w, -, hw⟩ := List.exists_of_findSome?_eq_some hl'
  unfold ofVolumes
  rw [hl', Option.getD_some]
  exact ofVolume_ne_missing hw

end DiskLocation

namespace Vm

theorem Nameable.located {volumes : List String} {d : DiskId} (hn : Nameable volumes d) :
    DiskLocation.ofVolumes volumes d ≠ .missing := by
  rcases hn.stored with hbare | ⟨node, hne, hslash, hmem⟩
  · exact DiskLocation.ofVolumes_ne_missing hbare (DiskLocation.ofVolume_self hn.noSlash)
  · exact DiskLocation.ofVolumes_ne_missing hmem (DiskLocation.ofVolume_prefixed hslash hne)

/-! ## One call, and a run of them -/

/-- What a VM created with the specification `created` keeps across its disk calls on a quiet
engine, while its container holds the document `e`. -/
structure Steady (vm : VmId) (created : ContainerSpec) (e : AgentEnv) (h : MemoryHost) :
    Prop where
  quiet : h.engine.Quiet
  ascending : SortedMap.Ascending h.engine.containers
  container : ∃ c, SortedMap.get? h.engine.containers vm.value = some c ∧ c.running = true ∧
    Kept created c.spec
  holds : HoldsOnly h.engine vm e
  readable : e.Readable
  ephemeral : vm.ephemeralDisk.value ∈ h.engine.volumes
  endpoints : SortedMap.Ascending created.endpoints
  networks : ∀ q ∈ created.endpoints, SortedMap.contains h.engine.networks q.1 = true

variable {vm : VmId} {created : ContainerSpec}

/-- One disk call keeps a VM steady, when its disk may be named, two more execs can be
numbered and the documents read and written fit a file; it only adds volumes. -/
theorem run_steady {h : MemoryHost} {e : AgentEnv} {call : DiskCall}
    (hs : Steady vm created e h) (hname : Nameable h.engine.volumes call.disk)
    (hroom : h.engine.execs.length + 1 < 2 ^ 64)
    (hsize : (Utf8.encode e.render).length < 2 ^ 63)
    (hsize' : (Utf8.encode (call.edit e.reread).render).length < 2 ^ 63) :
    ∃ h', runOp (call.run backend vm) h = (.ok (), h') ∧
      Steady vm created (call.edit e.reread) h' ∧ h.engine.volumes ⊆ h'.engine.volumes ∧
      h'.engine.execs.length ≤ h.engine.execs.length + 2 := by
  obtain ⟨c, hc, -, hkept⟩ := hs.container
  obtain ⟨binds, hbinds⟩ := call.change_ok c.spec.binds
  obtain ⟨refusal, hcall⟩ := call.run_eq vm
  -- the container's endpoints are the created ones
  have hendpoints : c.spec.endpoints = created.endpoints := by
    have hsame := congrArg ContainerSpec.endpoints hkept.beside
    exact hsame
  obtain ⟨h', hrun, ⟨c', hc', hspec', hrunning'⟩, hfiles', hbeside', hquiet', hexecs'⟩ :=
    changeDisk_of_quiet refusal call.edit hs.quiet hroom hc hs.holds hs.readable hsize hsize'
      hname.persistent hname.located hbinds (hendpoints ▸ hs.endpoints) (hendpoints ▸ hs.networks)
  have hascending := (changeDisk_onlyCalls refusal call.edit call.change vm call.disk).containers_ascending
    hs.ascending
  rw [hrun] at hascending
  have hkept' : Kept created c'.spec := by
    rw [hspec']
    exact hkept.change hname.persistent hname.noColon (call.change_path hname.noColon) hbinds _
  refine ⟨h', by rw [hcall]; exact hrun, ⟨hquiet', hascending, ⟨c', hc', hrunning', hkept'⟩,
    hfiles', call.edit_readable hs.readable.reread, hbeside'.volumes hs.ephemeral, hs.endpoints,
    ?_⟩, hbeside'.volumes, hexecs'⟩
  intro q hq
  rw [← hs.networks q hq]
  exact congrArg (SortedMap.contains · q.1) hbeside'.networks

theorem runAll_steady : ∀ (calls : List DiskCall) {h : MemoryHost} {e : AgentEnv},
    Steady vm created e h → (∀ call ∈ calls, Nameable h.engine.volumes call.disk) →
    h.engine.execs.length + 2 * calls.length < 2 ^ 64 →
    (∀ i ≤ calls.length, (Utf8.encode (written (calls.take i) e).render).length < 2 ^ 63) →
    ∃ h', runOp (DiskCall.runAll backend vm calls) h = (.ok (), h') ∧
      Steady vm created (written calls e) h'
  | [], h, _, hs, _, _, _ => ⟨h, rfl, hs⟩
  | call :: calls, h, e, hs, hnames, hroom, hsizes => by
    rw [List.length_cons] at hroom
    obtain ⟨h₁, hrun₁, hs₁, hsub, hexecs⟩ := run_steady hs (hnames call List.mem_cons_self)
      (by omega) (hsizes 0 (Nat.zero_le _)) (hsizes 1 (by simp))
    -- the rest of the run starts from the document the call wrote
    obtain ⟨h', hrun', hs'⟩ := runAll_steady calls hs₁
      (fun c hc => (hnames c (List.mem_cons_of_mem _ hc)).mono hsub) (by omega)
      (fun i hi => hsizes (i + 1) (by rw [List.length_cons]; omega))
    refine ⟨h', ?_, hs'⟩
    show runOp (call.run backend vm >>= fun _ => calls.forM (·.run backend vm)) h = _
    rw [runOp_bind_of_ok hrun₁]
    exact hrun'

end Vm

/-! ## What a creation leaves -/

namespace MemoryEngine

variable {s : MemoryEngine}

theorem serve_create_networks_of_ok {name : Option String} {spec : ContainerSpec} {id : String}
    (h : (s.serve (.create name spec)).1 = .ok id) :
    ∀ q ∈ spec.endpoints, SortedMap.contains s.networks q.1 = true := by
  rw [serve_eq_answer_of_ok h] at h
  revert h
  simp only [answer]
  unfold create
  dsimp only
  split
  · intro h
    cases h
  · split
    · intro h
      cases h
    · rename_i hnone
      intro _ q hq
      obtain ⟨net, ep⟩ := q
      have hfound := List.find?_eq_none.1 hnone (net, ep) hq
      simpa using hfound

theorem serve_connect_networks_of_ok {network name : String} {endpoint : EndpointSettings}
    (h : (s.serve (.connectNetwork network name endpoint)).1 = .ok ()) :
    SortedMap.contains s.networks network = true := by
  rw [serve_eq_answer_of_ok h] at h
  revert h
  simp only [answer, enter_networks]
  split
  · intro h
    cases h
  · rename_i hnet
    intro _
    simpa using hnet

end MemoryEngine

namespace VmCreation

/-- Connections that all succeed found their networks, and change none. -/
theorem forM_connect_networks (vm : VmId)
    {f : String × EndpointSettings → CloudM (StateM MemoryHost) PUnit}
    (hf : ∀ q, f q = backend.run .connectNetwork (.connectNetwork q.1 vm.value q.2)) :
    ∀ (xs : List (String × EndpointSettings)) {h h' : MemoryHost},
      runOp (xs.forM f) h = (.ok (), h') →
      h'.engine.networks = h.engine.networks ∧
        ∀ q ∈ xs, SortedMap.contains h.engine.networks q.1 = true
  | [], h, h', hrun => by
    cases hrun
    exact ⟨rfl, fun _ hq => absurd hq List.not_mem_nil⟩
  | q :: rest, h, h', hrun => by
    obtain ⟨_, h₁, hq, hrest⟩ :=
      runOp_bind_eq_ok (show runOp (f q >>= fun _ => rest.forM f) h = _ from hrun)
    rw [hf] at hq
    obtain ⟨hok, rfl⟩ := runOp_run_eq_ok hq
    have hsame : (h.engine.serve (.connectNetwork q.1 vm.value q.2)).2.networks = h.engine.networks :=
      (h.engine.serve_beside (show Call.touchesOnly vm.value (.connectNetwork q.1 vm.value q.2)
        from by simp [Call.touchesOnly])).networks
    obtain ⟨hnets, hall⟩ := forM_connect_networks vm hf rest hrest
    refine ⟨hnets.trans hsame, fun q' hq' => ?_⟩
    rcases List.mem_cons.1 hq' with rfl | hmem
    · exact MemoryEngine.serve_connect_networks_of_ok hok
    · rw [← hsame]
      exact hall q' hmem

theorem Grown.contains {name : String} {added : String → Bool} {o o' : EngineObjects}
    (hg : EngineObjects.Grown name added o o') {n : String}
    (hn : SortedMap.contains o.networks n = true) : SortedMap.contains o'.networks n = true := by
  rw [SortedMap.contains_eq_isSome_get?] at hn ⊢
  obtain ⟨x, hx⟩ := Option.isSome_iff_exists.1 hn
  rw [hg.networks n x hx]
  rfl

/-- A launch that succeeds leaves its VM's container holding the document it wrote alone, on
networks that all exist. -/
theorem launch_holds {vm : VmId} {spec : ContainerSpec}
    {additional : List (String × EndpointSettings)} {init : InitSystem} {env : AgentEnv}
    {h h' : MemoryHost} (hrun : runOp (launch backend vm spec additional init env) h = (.ok (), h'))
    (hsize : (Utf8.encode env.render).length < 2 ^ 63) :
    Vm.HoldsOnly h'.engine vm env ∧
      ∀ q ∈ spec.endpoints ++ additional, SortedMap.contains h'.engine.networks q.1 = true := by
  have hbinds : spec.binds.all ((fun _ => true) ∘ MemoryEngine.bindSource) = true :=
    List.all_eq_true.2 fun _ _ => rfl
  have hgrown := (launch_onlyCalls vm hbinds additional init env).grown h
  rw [hrun] at hgrown
  unfold launch at hrun
  obtain ⟨id, h₁, hcreate, hrun⟩ := runOp_bind_eq_ok hrun
  obtain ⟨hok₁, rfl⟩ := runOp_run_eq_ok hcreate
  obtain ⟨_, h₂, hconnect, hrun⟩ := runOp_bind_eq_ok hrun
  obtain ⟨_, h₃, hstart, hrun⟩ := runOp_bind_eq_ok hrun
  obtain ⟨hok₃, rfl⟩ := runOp_run_eq_ok hstart
  dsimp only at hrun
  -- the post-start command changes no object
  obtain ⟨h₄, hobjects₄, hwrite⟩ : ∃ h₄, h₄.engine.objects =
      (h₂.engine.serve (.start vm.value)).2.objects ∧
      runOp ((FileTransfer.forVm vm).writeAgentEnv backend env) h₄ = (.ok (), h') := by
    split at hrun
    · obtain ⟨_, h₄, hpost, hwrite⟩ := runOp_bind_eq_ok hrun
      exact ⟨h₄, (OnlyCalls.tryCatch (FileTransfer.exec_onlyCalls _ _) fun _ =>
        .pure _).objects_eq_of_run hpost, hwrite⟩
    · exact ⟨_, rfl, hrun⟩
  refine ⟨fun q => ?_, fun q hq => Grown.contains hgrown ?_⟩
  · -- the fresh container held no file before the document was written
    rw [← FileTransfer.forVm_vm vm,
      (FileTransfer.upload_of_ok (FileTransfer.forVm vm) Vm.transfersAs_agentEnv hwrite hsize).1 q]
    split
    · rfl
    · rw [MemoryEngine.file?_eq_of_objects hobjects₄]
      simp only [MemoryEngine.file?, FileTransfer.forVm_vm, MemoryEngine.get?_serve_start_of_ok hok₃,
        forM_connect_of_ok vm (fun _ => rfl) additional hconnect,
        MemoryEngine.get?_serve_create_of_ok hok₁, Option.map_some, Option.bind_some]
      rfl
  · show SortedMap.contains h.engine.networks q.1 = true
    rcases List.mem_append.1 hq with hprimary | hadditional
    · exact MemoryEngine.serve_create_networks_of_ok hok₁ q hprimary
    · obtain ⟨-, hall⟩ := forM_connect_networks vm (fun _ => rfl) additional hconnect
      rw [← (MemoryEngine.serve_create_of_ok hok₁).2.2.1]
      exact hall q hadditional

end VmCreation

/-! ## The created VM -/

theorem digitChar_mem_hex (d : Nat) : Nat.digitChar d ∈ "0123456789abcdef*".toList := by
  by_cases hd : d < 16
  · interval_cases d <;> decide
  · rw [Nat.digitChar_eq_star.2 (by omega)]
    decide

theorem not_mem_countedUuid {c : Char} (hc : c ∉ "0123456789abcdef*-".toList) (n : Nat) :
    c ∉ (countedUuid n).toList := by
  have hlead : "00000000-0000-4000-8000-".toList ⊆ "0123456789abcdef*-".toList := by decide
  simp only [countedUuid_eq, String.toList_append, hexPadded, String.toList_ofList,
    List.mem_append]
  rintro (hc' | hzero | hdigit)
  · exact hc (hlead hc')
  · rw [List.eq_of_mem_replicate hzero] at hc
    exact hc (by decide)
  · obtain ⟨d, rfl⟩ := Net.digitChar_of_mem_toDigits (by decide) hdigit
    exact hc (List.mem_append_left _ (digitChar_mem_hex d))

namespace VmCreation

theorem ephemeralBind_not_mem_keptBinds {vm : VmId} (hvm : ':' ∉ vm.value.toList)
    (props : VmProps) : ephemeralBind vm ∉ keptBinds props := by
  have hdisk : ':' ∉ vm.ephemeralDisk.value.toList := by
    simp only [VmId.ephemeralDisk, DiskId.ephemeralLeader, String.toList_append, List.mem_append,
      not_or]
    exact ⟨by decide, hvm⟩
  have hscratch : targetsScratch (ephemeralBind vm) = true := by
    unfold targetsScratch ephemeralBind
    rw [show (":" : String) = String.singleton ':' from rfl, Text.splitOnce_append hdisk]
    simp [Text.splitOnce_eq_none (show ':' ∉ Paths.ephemeralMount.toList by decide)]
  intro hmem
  have hkept := (List.mem_filter.1 hmem).2
  rw [hscratch] at hkept
  exact absurd hkept (by decide)

/-- The agent environment a creation writes for VM `vm`: its networks marked preconfigured,
and no system disk. -/
def createdAgentEnv (config : CpiConfig) (agent : AgentId) (networks : Networks)
    (env : List (String × Json)) (vm : VmId) : AgentEnv :=
  (AgentEnv.forVm agent vm (networks.map fun q => (q.1, { q.2 with preconfigured := true })) env
    config.agent).attachSystemDisk DiskHint.empty

variable {config : CpiConfig} {agent : AgentId} {stemcell : StemcellId} {cloudProps : Json}
  {networks : Networks} {disks : List DiskId} {env : List (String × Json)} {h h' : MemoryHost}

theorem enable_marks {marked : Networks} {setup : NetworkSetup}
    (hrun : runOp (Networking.enable backend networks) h = (.ok (setup, marked), h')) :
    marked = networks.map fun q => (q.1, { q.2 with preconfigured := true }) := by
  unfold Networking.enable at hrun
  split at hrun
  · cases hrun
  · obtain ⟨⟨out, ipv6Only, enabled⟩, h₁, hall, hfin⟩ := runOp_bind_eq_ok hrun
    rw [runOp_pure] at hfin
    cases hfin
    exact (Networking.enableAll_eq_ok hall).1

/-- A plan writes the agent environment of its VM as a creation does. -/
theorem plan_agentEnv {p : Plan}
    (hrun : runOp (plan backend config agent stemcell cloudProps networks disks env) h =
      (.ok p, h')) :
    p.agentEnv = createdAgentEnv config agent networks env p.vm := by
  unfold plan at hrun
  obtain ⟨props, h₁, -, hrun⟩ := runOp_bind_eq_ok hrun
  obtain ⟨init, h₂, -, hrun⟩ := runOp_bind_eq_ok hrun
  obtain ⟨p', h₃, hdesign, hrun⟩ := runOp_bind_eq_ok hrun
  obtain ⟨_, h₄, -, hrun⟩ := runOp_bind_eq_ok hrun
  rw [runOp_pure] at hrun
  cases hrun
  unfold design at hdesign
  obtain ⟨⟨setup, enabled⟩, h₅, henable, hrest⟩ := runOp_bind_eq_ok hdesign
  obtain ⟨u, h₆, huuid, hrest⟩ := runOp_bind_eq_ok hrest
  rw [runOp_uuid] at huuid
  cases huuid
  dsimp only at hrest
  -- whether or not the first disk pins the VM, the document names the enabled networks
  split at hrest
  · obtain ⟨l, _, -, hrest⟩ := runOp_bind_eq_ok hrest
    rw [runOp_bind_of_ok (runOp_pure _ _), runOp_pure] at hrest
    cases hrest
    rw [enable_marks henable]
    rfl
  · rw [runOp_bind_of_ok (runOp_pure _ _), runOp_pure] at hrest
    cases hrest
    rw [enable_marks henable]
    rfl

theorem plan_onlyCalls :
    OnlyCalls (fun _ => true) (plan backend config agent stemcell cloudProps networks disks env) := by
  unfold plan
  exact .bind ((settle_onlyCalls cloudProps).mono fun _ _ => rfl) fun props =>
    .bind ((chooseInit_keepsVolumes config stemcell props).mono fun _ _ => rfl) fun init =>
    .bind ((design_onlyCalls config agent stemcell networks disks env props init).mono
      fun _ _ => rfl) fun _ => .bind (.run _ rfl) fun _ => .pure _

end VmCreation

namespace Vm

theorem pinnedFrom_created (node? : Option String) :
    PinnedFrom (VmCreation.rescheduleMarker :: node?.toList.map (nodeConstraintPrefix ++ ·))
      (VmCreation.rescheduleMarker :: node?.toList.map (nodeConstraintPrefix ++ ·)) := by
  have hpins : (node?.toList.map (nodeConstraintPrefix ++ ·)).filter
      (!·.startsWith nodeConstraintPrefix) = [] :=
    List.filter_eq_nil_iff.2 fun x hx => by
      obtain ⟨n, -, rfl⟩ := List.mem_map.1 hx
      simp [startsWith_pin]
  have hmarker : (!VmCreation.rescheduleMarker.startsWith nodeConstraintPrefix) = true := by
    decide +kernel
  refine ⟨node?, ?_⟩
  simp only [List.filter_cons, hmarker, if_true, hpins, List.cons_append, List.nil_append]

theorem Kept.self {spec : ContainerSpec} (henv : PinnedFrom spec.env spec.env) : Kept spec spec where
  beside := rfl
  env := henv
  ephemeral := rfl
  binds _ hle := hle

end Vm

namespace VmCreation

variable {config : CpiConfig} {agent : AgentId} {stemcell : StemcellId} {cloudProps : Json}
  {networks : Networks} {disks : List DiskId} {env : List (String × Json)}

/-- A creation that succeeds on a quiet engine whose containers form a map leaves its VM
steady from its creation: its container, assembled with the binds the caller asked for that it
keeps and then the ephemeral volume's, holds the document it wrote, when that document is
readable and fits a file. -/
theorem create_steady {props : VmProps} {h h₁ : MemoryHost} {vm : VmId} (hq : h.engine.Quiet)
    (hasc : SortedMap.Ascending h.engine.containers)
    (hdecode : VmProps.decode cloudProps = .ok props)
    (hrun : runOp (create backend config agent stemcell cloudProps networks disks env) h =
      (.ok vm, h₁))
    (hdoc : (createdAgentEnv config agent networks env vm).Readable)
    (hsize : (Utf8.encode (createdAgentEnv config agent networks env vm).render).length < 2 ^ 63) :
    ∃ c₀, SortedMap.get? h₁.engine.containers vm.value = some c₀ ∧
      c₀.spec.binds = keptBinds props ++ [ephemeralBind vm] ∧ ephemeralBind vm ∉ keptBinds props ∧
      Vm.Steady vm c₀.spec (createdAgentEnv config agent networks env vm) h₁ := by
  unfold create at hrun
  obtain ⟨p, hp, hplan, hcomplete⟩ := runOp_bind_eq_ok hrun
  obtain ⟨rfl, hlaunch⟩ := complete_of_ok hcomplete
  obtain ⟨props₀, props', init, setup, enabled, h₂, h₃, hdecode₀, hs, -, henable, -, hinit',
    hadditional, hspec, -⟩ :=
    plan_designed (fun _ _ => .inr (.inr (.inl (hq.failureFree .remove)))) hplan
  rw [hdecode, Except.ok.injEq] at hdecode₀
  subst hdecode₀
  obtain ⟨⟨k, -, hvm⟩, -, hephemeral⟩ := plan_of_ok (hq.failureFree .remove) hplan
  obtain ⟨-, c, hc, hrunning, hcspec⟩ := launch_of_ok hlaunch
  have hagentEnv := plan_agentEnv hplan
  obtain ⟨hfiles, hnets⟩ := launch_holds hlaunch (hagentEnv ▸ hsize)
  -- the container as the creation assembled it
  have hsorted := Networking.enable_endpoints_ascending henable
  have hjoined : joined p.spec.endpoints p.additional = setup.endpoints := by
    rw [hspec, hadditional]
    exact joined_split hsorted
  have hassembled : Assembled stemcell props init setup
      (disks.head?.bind fun d => (DiskLocation.ofVolumes h.engine.volumes d).node?) p.vm c.spec := by
    rw [hcspec, hjoined, hspec, ← hinit']
    exact assembled hs stemcell p.init setup _ p.vm _
  -- the plan and the launch keep the engine quiet and its containers a map
  have hbinds : p.spec.binds.all ((fun _ => true) ∘ MemoryEngine.bindSource) = true :=
    List.all_eq_true.2 fun _ _ => rfl
  have hlaunchCalls := launch_onlyCalls p.vm hbinds p.additional p.init p.agentEnv
  have hquietPlan : (runOp (plan backend config agent stemcell cloudProps networks disks env)
      h).2.engine.Quiet := plan_onlyCalls.quiet hq
  have hascPlan : SortedMap.Ascending (runOp (plan backend config agent stemcell cloudProps
      networks disks env) h).2.engine.containers := plan_onlyCalls.containers_ascending hasc
  rw [hplan] at hquietPlan hascPlan
  have hquiet := hlaunchCalls.quiet hquietPlan
  have hascending := hlaunchCalls.containers_ascending hascPlan
  have hgrown := hlaunchCalls.grown hp
  rw [hlaunch] at hquiet hascending hgrown
  -- every endpoint is the primary one or a further one, and the launch found their networks
  obtain ⟨-, hparts⟩ := EndpointSplit.of_parts setup.endpoints
  rw [SortedMap.ofList_of_ascending hsorted] at hparts
  have hprimary : p.spec.endpoints = (EndpointSplit.of setup.endpoints).primary := by
    rw [hspec]
    rfl
  refine ⟨c, hc, hassembled.binds, ephemeralBind_not_mem_keptBinds ?_ props,
    ⟨hquiet, hascending, ⟨c, hc, hrunning, Vm.Kept.self ?_⟩, hagentEnv ▸ hfiles, hdoc,
      hgrown.volumes hephemeral, hassembled.endpoints ▸ hsorted, fun q hq' => hnets q ?_⟩⟩
  · rw [hvm]
    simp only [VmId.ofUuid, VmId.leader, String.toList_append, List.mem_append, not_or]
    exact ⟨by decide, not_mem_countedUuid (by decide) k⟩
  · rw [hassembled.env]
    exact Vm.pinnedFrom_created _
  · rw [hassembled.endpoints, ← hparts, ← hprimary, ← hadditional] at hq'
    exact hq'

end VmCreation

/-! ## The VM across its disk calls -/

namespace SortedMap

variable {α : Type}

theorem filter_eq_of_get? {k : String} {v : α} :
    ∀ {m : List (String × α)}, Ascending m → get? m k = some v → m.filter (·.1 == k) = [(k, v)]
  | [], _, hk => by simp [get?] at hk
  | (k', v') :: rest, hm, hk => by
    obtain ⟨hlt, hrest⟩ := List.pairwise_cons.1 hm
    by_cases hkk : k' = k
    · subst hkk
      have hv : v' = v := by simpa [get?] using hk
      subst hv
      -- every later name is larger, so none is the name again
      have hnone : rest.filter (·.1 == k') = [] := List.filter_eq_nil_iff.2 fun q hq => by
        have hgt := hlt q hq
        simp only [beq_iff_eq]
        exact fun heq => String.lt_irrefl _ (heq ▸ hgt)
      simp [hnone]
    · have hk' : get? rest k = some v := by simpa [get?, hkk] using hk
      simp [hkk, filter_eq_of_get? hrest hk']

end SortedMap

namespace VmCreation

theorem ephemeralBind_startsWith (vm : VmId) :
    (ephemeralBind vm).startsWith DiskId.ephemeralLeader = true := by
  rw [String.startsWith_string_iff]
  simp [ephemeralBind, VmId.ephemeralDisk, String.toList_append, List.append_assoc]

end VmCreation

namespace Vm

variable {config : CpiConfig} {agent : AgentId} {stemcell : StemcellId} {cloudProps : Json}
  {networks : Networks} {disks : List DiskId} {env : List (String × Json)}

/-- A VM created on a quiet engine, whose containers form a map, goes through any sequence of
attach and detach calls on disks it may name: every call succeeds, and afterwards exactly one
container holds the VM's name; it runs; beside its environment and binds its specification is
the created one; its environment is the created one's entries that pin no node, in order,
then at most one pin; its ephemeral volume is bound once and still stored; every disk that no
bind the caller asked for (its socket scheme stripped) starts with is bound at most once; and
it holds the agent environment's document as the calls edited it, and no other file.

The engine's machine limits stand as conditions: the document written at creation is
readable and each document the calls read or write fits a file, and the engine numbers the
two execs each call runs within a word. -/
theorem disk_calls_keep_vm {props : VmProps} {h h₁ : MemoryHost} {vm : VmId}
    {calls : List DiskCall} (hq : h.engine.Quiet) (hasc : SortedMap.Ascending h.engine.containers)
    (hdecode : VmProps.decode cloudProps = .ok props)
    (hcreate : runOp (VmCreation.create backend config agent stemcell cloudProps networks disks env) h =
      (.ok vm, h₁))
    (hdoc : (VmCreation.createdAgentEnv config agent networks env vm).Readable)
    (hnames : ∀ call ∈ calls, Nameable h₁.engine.volumes call.disk)
    (hexecs : h₁.engine.execs.length + 2 * calls.length < 2 ^ 64)
    (hsizes : ∀ i ≤ calls.length, (Utf8.encode
      (written (calls.take i) (VmCreation.createdAgentEnv config agent networks env vm)).render).length <
        2 ^ 63) :
    ∃ c₀ h', SortedMap.get? h₁.engine.containers vm.value = some c₀ ∧
      runOp (DiskCall.runAll backend vm calls) h₁ = (.ok (), h') ∧
      ∃ c, h'.engine.containers.filter (·.1 == vm.value) = [(vm.value, c)] ∧ c.running = true ∧
        c.spec.withoutEnvBinds = c₀.spec.withoutEnvBinds ∧ PinnedFrom c₀.spec.env c.spec.env ∧
        c.spec.binds.count (VmCreation.ephemeralBind vm) = 1 ∧
        vm.ephemeralDisk.value ∈ h'.engine.volumes ∧
        (∀ d : DiskId, (∀ b ∈ VmCreation.keptBinds props, bindsDisk d b = false) →
          c.spec.binds.countP (bindsDisk d) ≤ 1) ∧
        HoldsOnly h'.engine vm
          (written calls (VmCreation.createdAgentEnv config agent networks env vm)) := by
  obtain ⟨c₀, hc₀, hbinds₀, hnotmem, hs₁⟩ :=
    VmCreation.create_steady hq hasc hdecode hcreate hdoc (hsizes 0 (Nat.zero_le _))
  obtain ⟨h', hrun, hs'⟩ := runAll_steady calls hs₁ hnames (by omega) hsizes
  obtain ⟨c, hc, hrunning, hkept⟩ := hs'.container
  have heph := VmCreation.ephemeralBind_startsWith vm
  refine ⟨c₀, h', hc₀, hrun, c, SortedMap.filter_eq_of_get? hs'.ascending hc, hrunning,
    hkept.beside, hkept.env, ?_, hs'.ephemeral, fun d hd => hkept.binds d ?_, hs'.holds⟩
  · -- the ephemeral bind is among the ephemeral volumes' binds, which are as created
    have hcount : ∀ l : List String, (l.filter (·.startsWith DiskId.ephemeralLeader)).count
        (VmCreation.ephemeralBind vm) = l.count (VmCreation.ephemeralBind vm) :=
      fun _ => List.count_filter heph
    rw [← hcount, hkept.ephemeral, hcount, hbinds₀,
      List.count_append, List.count_eq_zero_of_not_mem hnotmem, List.count_singleton_self]
  · -- the created binds are the caller's, which do not bind the disk, and one more
    rw [hbinds₀, List.countP_append, countP_eq_zero_iff_unbound.2 hd, List.countP_singleton]
    split <;> decide

/-- The host of `Networking.emptyHost` with a volume vol-1 for a VM to attach. -/
def volumeHost : MemoryHost :=
  { Networking.emptyHost with engine := Networking.emptyHost.engine.addVolume "vol-1" }

/-- A VM created with runit on a manual network has vol-1 attached and then detached. -/
theorem runit_vm_attach_detach :
    let created := runOp (VmCreation.create backend default ⟨"agent-1"⟩ ⟨"bosh-stemcell:1.0"⟩
      VmCreation.runitProps VmCreation.manualNetwork [] []) volumeHost
    let vm := VmId.ofUuid (countedUuid 1)
    let calls := [DiskCall.attach ⟨"vol-1"⟩, DiskCall.detach ⟨"vol-1"⟩]
    let e₀ := VmCreation.createdAgentEnv default ⟨"agent-1"⟩ VmCreation.manualNetwork [] vm
    ∃ props, VmProps.decode VmCreation.runitProps = .ok props ∧
    ∃ c₀ h', SortedMap.get? created.2.engine.containers vm.value = some c₀ ∧
      runOp (DiskCall.runAll backend vm calls) created.2 = (.ok (), h') ∧
      ∃ c, h'.engine.containers.filter (·.1 == vm.value) = [(vm.value, c)] ∧ c.running = true ∧
        c.spec.withoutEnvBinds = c₀.spec.withoutEnvBinds ∧ PinnedFrom c₀.spec.env c.spec.env ∧
        c.spec.binds.count (VmCreation.ephemeralBind vm) = 1 ∧
        vm.ephemeralDisk.value ∈ h'.engine.volumes ∧
        (∀ d : DiskId, (∀ b ∈ VmCreation.keptBinds props, bindsDisk d b = false) →
          c.spec.binds.countP (bindsDisk d) ≤ 1) ∧
        HoldsOnly h'.engine vm (written calls e₀) := by
  intro created vm calls e₀
  have hdecoded : (VmProps.decode VmCreation.runitProps).isOk = true := by decide +kernel
  obtain ⟨props, hprops⟩ : ∃ props, VmProps.decode VmCreation.runitProps = .ok props := by
    revert hdecoded
    cases VmProps.decode VmCreation.runitProps with
    | error e => intro h; cases h
    | ok props => intro _; exact ⟨props, rfl⟩
  -- the creation, the volume the calls name and the room for execs, in one evaluation
  have hchecks : created.1.toOption = some vm ∧ "vol-1" ∈ created.2.engine.volumes ∧
      created.2.engine.execs.length + 2 * calls.length < 2 ^ 64 := by
    decide +kernel
  have hcreate : created = (.ok vm, created.2) := by
    have hok : created.1 = .ok vm := by
      have hfound := hchecks.1
      generalize created.1 = r at hfound
      cases r with
      | error e => cases hfound
      | ok v => cases hfound; rfl
    rw [← hok]
  have hname : Nameable created.2.engine.volumes ⟨"vol-1"⟩ :=
    ⟨by decide +kernel, by decide, by decide, .inl hchecks.2.1⟩
  have hnames : ∀ call ∈ calls, Nameable created.2.engine.volumes call.disk := by
    intro call hcall
    simp only [calls, List.mem_cons, List.not_mem_nil, or_false] at hcall
    rcases hcall with rfl | rfl <;> exact hname
  have hsizes : ∀ i ≤ calls.length, (Utf8.encode (written (calls.take i) e₀).render).length <
      2 ^ 63 := by
    decide +kernel
  have hq : volumeHost.engine.Quiet := ⟨fun _ => rfl, fun _ hcode => absurd hcode List.not_mem_nil⟩
  have hdefault : (default : CpiConfig).agent.ntp = [] ∧
      (default : CpiConfig).agent.blobstore.options = [] := ⟨rfl, rfl⟩
  have hdoc : e₀.Readable := by
    refine ⟨⟨?_, ?_, ?_, ?_, ?_⟩, ?_, by decide⟩
    -- the default settings are empty and the one network has no cloud properties
    all_goals simp only [e₀, VmCreation.createdAgentEnv, AgentEnv.attachSystemDisk, AgentEnv.forVm,
      hdefault, VmCreation.manualNetwork, DisksSpec.empty, List.map_cons, List.map_nil,
      Json.Sorted, Json.Sorted.sortedFields, SortedMap.Ascending, List.Pairwise.nil,
      List.pairwise_cons, List.mem_cons, List.not_mem_nil, or_false, forall_eq,
      IsEmpty.forall_iff, implies_true, and_self, AgentEnv.toJson, VmRef.toJson, Json.strings,
      BlobstoreOptions.toJson, Networks.toJson, DirectorNetwork.toJson, DisksSpec.toJson,
      String.isEmpty_iff, List.isEmpty_iff, String.reduceEq, ↓reduceIte, List.append_assoc,
      List.cons_append, List.nil_append, List.append_nil, Json.AllNumbers,
      Json.AllNumbers.allFields, Json.AllNumbers.allItems]
  exact ⟨props, hprops, disk_calls_keep_vm hq List.Pairwise.nil hprops hcreate hdoc hnames
    hchecks.2.2 hsizes⟩

/-- Properties asking for two binds of vol-1, each written as a socket address. -/
def socketBindProps : VmProps :=
  { VmProps.empty with
    hostConfig := HostConfig.empty.setBinds ["unix://vol-1:/a", "unix://vol-1:/b"] }

/-- A VM c-1 bound as a creation with `socketBindProps` binds it: the caller's binds with their
scheme stripped, then its ephemeral volume; beside it the volumes of vol-1 and of c-1's
ephemeral disk. -/
def vmWithSocketBinds : MemoryEngine :=
  let spec := ContainerSpec.empty.setBinds
    (VmCreation.keptBinds socketBindProps ++ [VmCreation.ephemeralBind ⟨"c-1"⟩])
  let s := (MemoryEngine.empty ⟨8589934592, 4⟩).addContainer "c-1" spec
  let s := s.putFile "c-1" Paths.agentEnv
    (Utf8.encode "\x7b\"agent_id\":\"a\",\"vm\":\x7b\"name\":\"c-1\",\"id\":\"c-1\"\x7d\x7d")
  (s.addVolume "vol-1").addVolume "vol-eph-c-1"

/-- A disk that no bind the caller wrote starts with can still be bound twice after an attach:
binds written as socket addresses bind the disk once their scheme is stripped, and an attach
replaces only the first of them. -/
theorem attach_after_socket_binds_binds_disk_twice :
    let after := runOp (attachDisk backend ⟨"c-1"⟩ ⟨"vol-1"⟩) ⟨vmWithSocketBinds, 0⟩
    (∀ b ∈ socketBindProps.hostConfig.binds?.getD [], bindsDisk ⟨"vol-1"⟩ b = false) ∧
    after.1.isOk = true ∧
    (SortedMap.get? after.2.engine.containers "c-1").map
      (fun c => c.spec.binds.countP (bindsDisk ⟨"vol-1"⟩)) = some 2 := by
  decide +kernel

end Vm

end ContainerCpi
