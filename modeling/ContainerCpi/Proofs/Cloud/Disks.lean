import ContainerCpi.Cloud.Disks
import ContainerCpi.Proofs.Engine.Binds
import ContainerCpi.Proofs.Net.Render

/-!
# Disks, their volumes and where they live

A disk is a volume named by the disk's id, or by the id under a node prefix (`node/disk`).
Two procedures find a disk's volume by name: the locator takes the first listed volume that
is the id itself or `node/id` with a non-empty node, and the engine resolves a name to the
first stored volume that is the name, or is the name once the text up to its first `/` is
dropped.  For volume names that do not start with `/` and a disk id without `/`, both pick
the same volume (`locate_agrees_with_inspect`).

Creating a disk draws a new id and creates one volume for it, on the node the VM reports
when it is given one; the disk is then found where it was put.  Deleting a disk is refused
while a container binds it, and otherwise removes the first volume answering to its id; a
second deletion succeeds, and the disk is gone unless a second volume answered to its id
(`disk_lifecycle`, `second_volume_keeps_disk`).
-/

namespace ContainerCpi

open MemoryHost MemoryEngine

/-! ## Names -/

/-- No stored volume's name ends with the disk's id: the id is new to the engine. -/
def DiskId.NewIn (d : DiskId) (s : MemoryEngine) : Prop :=
  ∀ w ∈ s.volumes, ¬d.value.toList <:+ w.toList

theorem slash_eq_singleton : "/" = String.singleton '/' := rfl

theorem ne_of_slash {x r : String} {d : DiskId} (hd : '/' ∉ d.value.toList) :
    x ++ String.singleton '/' ++ r ≠ d.value := by
  intro h
  apply hd
  rw [← h]
  simp

theorem volumeAnswers_prefixed {n : String} {d : DiskId} (hn : '/' ∉ n.toList) :
    volumeAnswers d.value (n ++ "/" ++ d.value) = true := by
  rw [volumeAnswers, slash_eq_singleton, Text.splitOnce_append hn]
  simp

/-! ## Drawn ids -/

theorem countedUuid_eq (n : Nat) :
    countedUuid n = "00000000-0000-4000-8000-" ++ hexPadded 12 n := rfl

theorem digitChar_ne_slash (d : Nat) : Nat.digitChar d ≠ '/' := by
  by_cases hd : d < 16
  · interval_cases d <;> decide
  · rw [Nat.digitChar_eq_star.2 (by omega)]
    decide

theorem slash_not_mem_countedUuid (n : Nat) : '/' ∉ (countedUuid n).toList := by
  simp only [countedUuid_eq, String.toList_append, hexPadded, String.toList_ofList,
    List.mem_append]
  rintro (hlead | hzero | hdigit)
  · revert hlead
    simp
  · exact absurd (List.eq_of_mem_replicate hzero) (by decide)
  · obtain ⟨d, hd⟩ := Net.digitChar_of_mem_toDigits (by decide) hdigit
    exact digitChar_ne_slash d hd.symm

theorem slash_not_mem_ofUuid_countedUuid (n : Nat) :
    '/' ∉ (DiskId.ofUuid (countedUuid n)).value.toList := by
  simp only [DiskId.ofUuid, DiskId.leader, String.toList_append, List.mem_append, not_or]
  exact ⟨by simp, slash_not_mem_countedUuid n⟩

theorem isEphemeral_ofUuid_countedUuid (n : Nat) :
    (DiskId.ofUuid (countedUuid n)).isEphemeral = false := by
  rw [DiskId.isEphemeral, String.startsWith_string_eq_false_iff]
  simp only [DiskId.ofUuid, countedUuid_eq, DiskId.leader, DiskId.ephemeralLeader,
    String.toList_append]
  rintro ⟨t, ht⟩
  simp at ht

namespace DiskLocation

/-! ## The locator and the engine -/

theorem ofVolume_of_split {v x r : String} {d : DiskId} (hsplit : Text.splitOnce v '/' = some (x, r)) :
    ofVolume v d = if r == d.value && !x.isEmpty then some (.node x) else none := by
  simp [ofVolume, hsplit]

theorem isSome_ofVolume {v : String} {d : DiskId} (hv : v.startsWith "/" = false)
    (hd : '/' ∉ d.value.toList) : (ofVolume v d).isSome = volumeAnswers d.value v := by
  rcases hsplit : Text.splitOnce v '/' with _ | ⟨x, r⟩
  · simp only [ofVolume, volumeAnswers, hsplit, Option.map_none, Option.getD_none, Bool.or_false]
    split <;> simp_all
  · obtain ⟨rfl, -⟩ := Text.eq_of_splitOnce_eq_some hsplit
    -- the node is not empty, since the name does not start with `/`
    have hx : x.isEmpty = false := by
      rw [Bool.eq_false_iff]
      intro hempty
      rw [String.isEmpty_iff.1 hempty, String.startsWith_string_eq_false_iff] at hv
      exact hv (by simp)
    rw [ofVolume_of_split hsplit]
    simp only [volumeAnswers, hsplit, Option.map_some, Option.getD_some, beq_eq_false_iff_ne.2
      (ne_of_slash hd), Bool.false_or, hx, Bool.not_false, Bool.and_true]
    split <;> simp_all

theorem ofVolume_eq_none {v : String} {d : DiskId} (hend : ¬d.value.toList <:+ v.toList) :
    ofVolume v d = none := by
  rcases hsplit : Text.splitOnce v '/' with _ | ⟨x, r⟩
  · simp only [ofVolume, hsplit]
    split
    · rename_i heq
      exact absurd (by rw [beq_iff_eq.1 heq]) hend
    · rfl
  · rw [ofVolume_of_split hsplit]
    split
    · rename_i hmatch
      obtain ⟨rfl, -⟩ := Text.eq_of_splitOnce_eq_some hsplit
      simp only [Bool.and_eq_true, beq_iff_eq] at hmatch
      rw [← hmatch.1, String.toList_append] at hend
      exact absurd (List.suffix_append _ _) hend
    · rfl

theorem ofVolume_self {d : DiskId} (hd : '/' ∉ d.value.toList) :
    ofVolume d.value d = some .unqualified := by
  simp [ofVolume, Text.splitOnce_eq_none hd]

theorem ofVolume_prefixed {n : String} {d : DiskId} (hn : '/' ∉ n.toList) (hne : n ≠ "") :
    ofVolume (n ++ "/" ++ d.value) d = some (.node n) := by
  rw [ofVolume_of_split (by rw [slash_eq_singleton]; exact Text.splitOnce_append hn)]
  simp [hne]

theorem ofVolume_of_answers {v : String} {d : DiskId} (hv : v.startsWith "/" = false)
    (hd : '/' ∉ d.value.toList) (hans : volumeAnswers d.value v = true) :
    (v = d.value ∧ ofVolume v d = some .unqualified) ∨
      ∃ x, '/' ∉ x.toList ∧ v = x ++ "/" ++ d.value ∧ ofVolume v d = some (.node x) := by
  rcases hsplit : Text.splitOnce v '/' with _ | ⟨x, r⟩
  · have hveq : v = d.value := by simpa [volumeAnswers, hsplit] using hans
    subst hveq
    exact .inl ⟨rfl, ofVolume_self hd⟩
  · obtain ⟨rfl, hx⟩ := Text.eq_of_splitOnce_eq_some hsplit
    have hsome := isSome_ofVolume hv hd
    rw [hans, ofVolume_of_split hsplit] at hsome
    -- the locator matched: the rest is the id and the node is not empty
    split at hsome
    · rename_i hmatch
      have hr : r = d.value := beq_iff_eq.1 (Bool.and_eq_true_iff.1 hmatch).1
      subst hr
      exact .inr ⟨x, hx, by rw [slash_eq_singleton], by rw [ofVolume_of_split hsplit, if_pos hmatch]⟩
    · cases hsome

theorem ofVolumes_eq_find {vs : List String} {d : DiskId} (hvs : ∀ v ∈ vs, v.startsWith "/" = false)
    (hd : '/' ∉ d.value.toList) :
    ofVolumes vs d = ((vs.find? (volumeAnswers d.value)).bind (ofVolume · d)).getD .missing := by
  induction vs with
  | nil => rfl
  | cons v rest ih =>
    have hrest := ih fun w hw => hvs w (List.mem_cons_of_mem _ hw)
    have hsome := isSome_ofVolume (hvs v List.mem_cons_self) hd
    unfold ofVolumes at hrest ⊢
    rw [List.findSome?_cons, List.find?_cons]
    rcases hv : ofVolume v d with _ | l <;> rw [hv] at hsome
    · rw [← hsome]
      exact hrest
    · rw [← hsome]
      simp [hv]

theorem ofVolumes_of_only {vs : List String} {d : DiskId} {v : String} (hv : v ∈ vs)
    (honly : ∀ w ∈ vs, w ≠ v → ¬d.value.toList <:+ w.toList) :
    ofVolumes vs d = (ofVolume v d).getD .missing := by
  unfold ofVolumes
  induction vs with
  | nil => exact absurd hv List.not_mem_nil
  | cons w rest ih =>
    rw [List.findSome?_cons]
    by_cases hw : w = v
    · subst hw
      rcases hvd : ofVolume w d with _ | l
      · -- no other volume matches either
        have hrest : rest.findSome? (ofVolume · d) = none :=
          List.findSome?_eq_none_iff.2 fun u hu => by
            by_cases hu' : u = w
            · rw [hu', hvd]
            · exact ofVolume_eq_none (honly u (List.mem_cons_of_mem _ hu) hu')
        simp [hrest]
      · rfl
    · rw [ofVolume_eq_none (honly w List.mem_cons_self hw)]
      exact ih ((List.mem_cons.1 hv).resolve_left (Ne.symm hw))
        fun u hu => honly u (List.mem_cons_of_mem _ hu)

theorem ofVolumes_agrees {s : MemoryEngine} {d : DiskId}
    (hvs : ∀ v ∈ s.volumes, v.startsWith "/" = false) (hd : '/' ∉ d.value.toList) :
    (ofVolumes s.volumes d ≠ .missing ↔ (s.resolveVolume d.value).isSome) ∧
    (ofVolumes s.volumes d = .unqualified ↔ s.resolveVolume d.value = some d.value) ∧
    ∀ x, ofVolumes s.volumes d = .node x ↔
      s.resolveVolume d.value = some (x ++ "/" ++ d.value) := by
  rw [ofVolumes_eq_find hvs hd, ← resolveVolume_eq_find]
  rcases hr : s.resolveVolume d.value with _ | w
  · simp
  · obtain ⟨hw, hans⟩ := resolveVolume_eq_some hr
    rcases ofVolume_of_answers (hvs w hw) hd hans with ⟨rfl, hloc⟩ | ⟨y, -, rfl, hloc⟩
    · -- the id itself, which no `x/id` is
      refine ⟨by simp [hloc], by simp [hloc], fun x => ?_⟩
      have hne : x ++ "/" ++ d.value ≠ d.value := by
        rw [slash_eq_singleton]
        exact ne_of_slash hd
      simp [hloc, Ne.symm hne]
    · have hne : y ++ "/" ++ d.value ≠ d.value := by
        rw [slash_eq_singleton]
        exact ne_of_slash hd
      refine ⟨by simp [hloc], by simp [hloc, hne], fun x => ?_⟩
      simp [hloc]

end DiskLocation

/-! ## The engine's volume calls -/

namespace MemoryEngine

theorem serve_listVolumes_of_quiet (s : MemoryEngine) (hq : s.queued .listVolumes = []) :
    (s.serve .listVolumes).1 = .ok s.volumes := by
  rw [serve_of_not_queued hq]
  simp only [answer, enter_volumes]

theorem serve_inspectVolume_of_quiet (s : MemoryEngine) (name : String)
    (hq : s.queued .inspectVolume = []) :
    (s.serve (.inspectVolume name)).1.isOk = (s.resolveVolume name).isSome ∧
    ∀ e, (s.serve (.inspectVolume name)).1 = .error e → e.isNotFound = true := by
  rw [serve_of_not_queued hq]
  have hresolve : (s.enter (Call.inspectVolume name).op
      (Call.inspectVolume name).target).1.resolveVolume name = s.resolveVolume name := by
    simp only [resolveVolume, enter_volumes]
  simp only [answer, hresolve]
  split <;> simp [Except.isOk, Except.toBool, EngineError.isNotFound, *]

theorem serve_createVolume_of_quiet (s : MemoryEngine) (name driver : String)
    (hq : s.queued .createVolume = []) :
    (s.serve (.createVolume name driver)).1 = .ok () ∧
    (s.serve (.createVolume name driver)).2.objects =
      { s.objects with volumes := SortedSet.insert name s.volumes } := by
  rw [serve_of_not_queued hq]
  simp [answer, addVolume, objects]

/-- The node the engine reports for the VM a disk is created for, if any: the node of the
VM's container. -/
def reportedNode (s : MemoryEngine) (vm : Option VmId) : Option String :=
  vm.bind fun v => (SortedMap.get? s.containers v.value).bind (·.spec.node)

end MemoryEngine

/-- The name of a disk's volume on a node, or on none. -/
def DiskId.volumeOn (d : DiskId) : Option String → String
  | some n => n ++ "/" ++ d.value
  | none => d.value

namespace DiskId

variable {d : DiskId} {node : Option String}

theorem suffix_volumeOn : d.value.toList <:+ (d.volumeOn node).toList := by
  cases node with
  | none => exact List.suffix_refl _
  | some n =>
    rw [volumeOn, String.toList_append]
    exact List.suffix_append _ _

theorem volumeAnswers_volumeOn (hnode : ∀ n, node = some n → '/' ∉ n.toList) :
    volumeAnswers d.value (d.volumeOn node) = true := by
  cases node with
  | none => simp [volumeOn, volumeAnswers]
  | some n => exact volumeAnswers_prefixed (hnode n rfl)

theorem ofVolume_volumeOn (hd : '/' ∉ d.value.toList)
    (hnode : ∀ n, node = some n → n ≠ "" ∧ '/' ∉ n.toList) :
    DiskLocation.ofVolume (d.volumeOn node) d = some (node.elim .unqualified .node) := by
  cases node with
  | none => exact DiskLocation.ofVolume_self hd
  | some n =>
    obtain ⟨hne, hn⟩ := hnode n rfl
    exact DiskLocation.ofVolume_prefixed hn hne

end DiskId

/-! ## The disk operations -/

namespace DiskLocation

variable {h : MemoryHost} {d : DiskId}

theorem locate_of_quiet (hq : h.engine.queued .listVolumes = []) :
    runOp (locate backend d) h =
      (.ok (ofVolumes h.engine.volumes d), { h with engine := (h.engine.serve .listVolumes).2 }) := by
  unfold locate
  rw [runOp_bind, runOp_run, h.engine.serve_listVolumes_of_quiet hq]
  rfl

end DiskLocation

namespace Disks

variable {h : MemoryHost} {d : DiskId}

theorem exists_of_quiet (hq : h.engine.queued .inspectVolume = []) :
    runOp (exists? backend d) h = (.ok (h.engine.resolveVolume d.value).isSome,
      { h with engine := (h.engine.serve (.inspectVolume d.value)).2 }) := by
  obtain ⟨hok, hnf⟩ := h.engine.serve_inspectVolume_of_quiet d.value hq
  unfold exists?
  rw [runOp_bind, runOp_ask]
  dsimp only
  split
  · rename_i r hr
    rw [hr] at hok
    rw [← hok]
    rfl
  · rename_i e he
    rw [he] at hok
    rw [if_pos (hnf e he), ← hok]
    rfl

theorem nodeOf_of_quiet (hq : h.engine.queued .inspect = []) (v : VmId) :
    runOp (nodeOf backend v) h =
      ((match SortedMap.get? h.engine.containers v.value with
        | some c => .ok c.spec.node
        | none => .error (.vmNotFound v)),
       { h with engine := (h.engine.serve (.inspect v.value)).2 }) := by
  have hinspect : (h.engine.serve (.inspect v.value)).1 =
      (h.engine.container v.value).map (·.spec) := by
    rw [serve_of_not_queued hq]
    simp only [answer, container, enter_containers]
  unfold nodeOf
  rw [runOp_bind, runOp_ask]
  dsimp only
  rw [hinspect]
  rcases hc : SortedMap.get? h.engine.containers v.value with _ | c <;>
    simp only [container, hc, Except.map] <;> rfl

theorem runOp_createVolume_of_quiet (hq : h.engine.queued .createVolume = []) (name : String) :
    runOp (backend.run .createVolume (.createVolume name driver)) h =
      (.ok (), { h with engine := (h.engine.serve (.createVolume name driver)).2 }) := by
  rw [runOp_run, (h.engine.serve_createVolume_of_quiet name driver hq).1]

theorem create_of_missing_vm (hq : h.engine.queued .inspect = []) {v : VmId}
    (habsent : SortedMap.get? h.engine.containers v.value = none) :
    (runOp (create backend (some v)) h).1 = .error (.vmNotFound v) ∧
    (runOp (create backend (some v)) h).2.engine.objects = h.engine.objects := by
  have hrun : runOp (create backend (some v)) h = (.error (.vmNotFound v),
      { drawn := h.drawn + 1, engine := (h.engine.serve (.inspect v.value)).2 }) := by
    unfold create
    rw [runOp_bind, runOp_uuid]
    dsimp only
    rw [runOp_bind, nodeOf_of_quiet (h := { h with drawn := h.drawn + 1 }) hq, habsent]
  rw [hrun]
  exact ⟨rfl, h.engine.serve_objects_of_changesNoObject rfl⟩

/-- With no failure queued, creating a disk for no VM, or for a VM with a container, draws
the next id and creates one volume for it, under the VM's node if it reports one. -/
theorem create_of_quiet (hq : h.engine.FailureFree) {vm : Option VmId}
    (hvm : ∀ v, vm = some v → (SortedMap.get? h.engine.containers v.value).isSome) :
    (runOp (create backend vm) h).1 = .ok (DiskId.ofUuid (countedUuid (h.drawn + 1))) ∧
    (runOp (create backend vm) h).2.engine.objects =
      { h.engine.objects with
        volumes := SortedSet.insert ((DiskId.ofUuid (countedUuid (h.drawn + 1))).volumeOn
          (h.engine.reportedNode vm)) h.engine.volumes } ∧
    (runOp (create backend vm) h).2.engine.FailureFree := by
  -- the id is drawn and the VM's node read, leaving the objects; then one volume is created
  obtain ⟨e₁, hrun, hobj₁, hq₁⟩ : ∃ e₁ : MemoryEngine,
      runOp (create backend vm) h = (.ok (DiskId.ofUuid (countedUuid (h.drawn + 1))),
        { drawn := h.drawn + 1, engine := (e₁.serve (.createVolume
          ((DiskId.ofUuid (countedUuid (h.drawn + 1))).volumeOn (h.engine.reportedNode vm))
          driver)).2 }) ∧
      e₁.objects = h.engine.objects ∧ e₁.FailureFree := by
    unfold create
    rw [runOp_bind, runOp_uuid]
    dsimp only
    cases vm with
    | none =>
      refine ⟨h.engine, ?_, rfl, hq⟩
      rw [runOp_bind, runOp_pure]
      dsimp only
      rw [runOp_bind, runOp_createVolume_of_quiet (h := { h with drawn := h.drawn + 1 }) (hq _)]
      rfl
    | some v =>
      obtain ⟨c, hc⟩ := Option.isSome_iff_exists.1 (hvm v rfl)
      refine ⟨(h.engine.serve (.inspect v.value)).2, ?_,
        h.engine.serve_objects_of_changesNoObject rfl, hq.serve _⟩
      dsimp only
      rw [runOp_bind, nodeOf_of_quiet (h := { h with drawn := h.drawn + 1 }) (hq _), hc]
      dsimp only
      rw [runOp_bind, runOp_createVolume_of_quiet (hq.serve _ _),
        show h.engine.reportedNode (some v) = c.spec.node by simp [reportedNode, hc]]
      rcases c.spec.node with _ | n <;> rfl
  obtain ⟨-, hobj⟩ := e₁.serve_createVolume_of_quiet
    ((DiskId.ofUuid (countedUuid (h.drawn + 1))).volumeOn (h.engine.reportedNode vm)) driver (hq₁ _)
  have hvol : e₁.volumes = h.engine.volumes := congrArg EngineObjects.volumes hobj₁
  rw [hrun]
  refine ⟨rfl, ?_, hq₁.serve _⟩
  show (e₁.serve _).2.objects = _
  rw [hobj, hobj₁, hvol]

theorem runOp_delete (h : MemoryHost) (d : DiskId) :
    runOp (delete backend d) h =
      ((match (h.engine.serve (.removeVolume d.value true)).1 with
        | .ok () => .ok ()
        | .error e => if e.isNotFound then .ok () else .error (.engine .removeVolume e)),
       { h with engine := (h.engine.serve (.removeVolume d.value true)).2 }) := by
  unfold delete
  rw [runOp_bind, runOp_ask]
  rcases (h.engine.serve (.removeVolume d.value true)).1 with e | ⟨⟩
  · dsimp only
    split <;> rfl
  · rfl

theorem delete_of_bound (hq : h.engine.queued .removeVolume = []) (hd : '/' ∉ d.value.toList)
    (hbound : ∃ p ∈ h.engine.containers, ∃ b ∈ p.2.spec.binds, bindSource b = d.value)
    (hres : (h.engine.resolveVolume d.value).isSome) :
    (runOp (delete backend d) h).1 = .error (.engine .removeVolume
      (.conflict ("remove " ++ d.value ++ ": volume is in use"))) ∧
    (runOp (delete backend d) h).2.engine.objects = h.engine.objects := by
  obtain ⟨w, hw⟩ := Option.isSome_iff_exists.1 hres
  obtain ⟨p, hp, b, hb, hsource⟩ := hbound
  obtain ⟨herr, -⟩ := serve_removeVolume_of_bound true hq hw hp hb (hsource ▸ hd)
    (hsource ▸ (resolveVolume_eq_some hw).2)
  rw [runOp_delete, herr]
  exact ⟨rfl, serve_objects_of_error herr⟩

theorem delete_of_unbound (hq : h.engine.queued .removeVolume = []) (hd : '/' ∉ d.value.toList)
    (hfree : ∀ p ∈ h.engine.containers, ∀ b ∈ p.2.spec.binds, bindSource b ≠ d.value) :
    (runOp (delete backend d) h).1 = .ok () ∧
    (runOp (delete backend d) h).2.engine.objects =
      { h.engine.objects with
        volumes := (h.engine.resolveVolume d.value).elim h.engine.volumes
          (SortedSet.erase · h.engine.volumes) } := by
  -- the engine checks the binds of the resolved volume under the disk's id
  have hunused : ∀ w, h.engine.resolveVolume d.value = some w → h.engine.volumeInUse w = false := by
    intro w hw
    rw [Bool.eq_false_iff]
    intro hused
    obtain ⟨p, hp, b, hb, hsource⟩ := (volumeInUse_iff _ _).1 hused
    exact hfree p hp b hb (hsource.trans (boundName_eq_of_answers hd (resolveVolume_eq_some hw).2))
  obtain ⟨hobj, hnf⟩ := h.engine.serve_removeVolume_of_quiet d.value true hq hunused
  rw [runOp_delete]
  refine ⟨?_, hobj⟩
  split
  · rfl
  · rename_i e he
    rw [if_pos (hnf e he)]

theorem delete_failureFree (hq : h.engine.FailureFree) :
    (runOp (delete backend d) h).2.engine.FailureFree := by
  rw [runOp_delete]
  exact hq.serve _

/-! ## The life of a disk -/

/-- What the disk operations promise on a host.  Locating a disk agrees with the engine's
resolution of its id; creating a disk for a VM without a container fails and changes
nothing, and otherwise draws a new id and creates exactly one volume for it, on the VM's
node if it reports one, where the disk is then found; deleting a disk is refused while a
container binds it and a volume answers to it, and otherwise removes the volume its id
resolves to, after which a second deletion succeeds and the disk is gone unless a second
volume answered to its id. -/
structure Lifecycle (h : MemoryHost) : Prop where
  locate_agrees : (∀ v ∈ h.engine.volumes, v.startsWith "/" = false) →
    ∀ d : DiskId, '/' ∉ d.value.toList →
      ∃ l, (runOp (DiskLocation.locate backend d) h).1 = .ok l ∧
        (l ≠ .missing ↔ (h.engine.serve (.inspectVolume d.value)).1 = .ok ()) ∧
        (l = .unqualified ↔ h.engine.resolveVolume d.value = some d.value) ∧
        ∀ x, l = .node x ↔ h.engine.resolveVolume d.value = some (x ++ "/" ++ d.value)
  create_for_missing_vm : ∀ v : VmId, SortedMap.get? h.engine.containers v.value = none →
    (runOp (create backend (some v)) h).1 = .error (.vmNotFound v) ∧
    (runOp (create backend (some v)) h).2.engine.objects = h.engine.objects
  create_new : ∀ vm : Option VmId,
    (∀ v, vm = some v → (SortedMap.get? h.engine.containers v.value).isSome) →
    (DiskId.ofUuid (countedUuid (h.drawn + 1))).NewIn h.engine →
    let d := DiskId.ofUuid (countedUuid (h.drawn + 1))
    let node := h.engine.reportedNode vm
    let after := (runOp (create backend vm) h).2
    (runOp (create backend vm) h).1 = .ok d ∧ '/' ∉ d.value.toList ∧ d.isEphemeral = false ∧
    d.volumeOn node ∉ h.engine.volumes ∧
    after.engine.objects =
      { h.engine.objects with volumes := SortedSet.insert (d.volumeOn node) h.engine.volumes } ∧
    ((∀ n, node = some n → n ≠ "" ∧ '/' ∉ n.toList) →
      (runOp (exists? backend d) after).1 = .ok true ∧
      (runOp (DiskLocation.locate backend d) after).1 = .ok (node.elim .unqualified .node))
  delete_bound : ∀ d : DiskId, '/' ∉ d.value.toList →
    (∃ p ∈ h.engine.containers, ∃ b ∈ p.2.spec.binds, bindSource b = d.value) →
    (h.engine.resolveVolume d.value).isSome →
    (runOp (delete backend d) h).1 = .error (.engine .removeVolume
      (.conflict ("remove " ++ d.value ++ ": volume is in use"))) ∧
    (runOp (delete backend d) h).2.engine.objects = h.engine.objects
  delete_unbound : ∀ d : DiskId, '/' ∉ d.value.toList →
    (∀ p ∈ h.engine.containers, ∀ b ∈ p.2.spec.binds, bindSource b ≠ d.value) →
    let after := (runOp (delete backend d) h).2
    (runOp (delete backend d) h).1 = .ok () ∧
    after.engine.objects =
      { h.engine.objects with
        volumes := (h.engine.resolveVolume d.value).elim h.engine.volumes
          (SortedSet.erase · h.engine.volumes) } ∧
    (runOp (delete backend d) after).1 = .ok () ∧
    ((∀ w₁ ∈ h.engine.volumes, ∀ w₂ ∈ h.engine.volumes,
        volumeAnswers d.value w₁ = true → volumeAnswers d.value w₂ = true → w₁ = w₂) →
      (runOp (exists? backend d) after).1 = .ok false)

theorem eq_ok_iff_isOk (r : Except EngineError Unit) : r = .ok () ↔ r.isOk = true := by
  rcases r with e | ⟨⟩ <;> simp [Except.isOk, Except.toBool]

/-- **The life of a disk.**  On a host with no failure queued, the disk operations keep the
promises of `Lifecycle`. -/
theorem disk_lifecycle (hq : h.engine.FailureFree) : Lifecycle h where
  locate_agrees hvs d hd := by
    obtain ⟨hfound, hunqualified, hnode⟩ := DiskLocation.ofVolumes_agrees hvs hd
    obtain ⟨hok, -⟩ := h.engine.serve_inspectVolume_of_quiet d.value (hq _)
    refine ⟨_, by rw [DiskLocation.locate_of_quiet (hq _)], ?_, hunqualified, hnode⟩
    rw [hfound, eq_ok_iff_isOk, hok]
  create_for_missing_vm _ habsent := create_of_missing_vm (hq _) habsent
  create_new vm hvm hfresh := by
    intro d node after
    obtain ⟨hok, hobj, hq'⟩ := create_of_quiet hq hvm
    have hvol : after.engine.volumes = SortedSet.insert (d.volumeOn node) h.engine.volumes :=
      congrArg EngineObjects.volumes hobj
    refine ⟨hok, slash_not_mem_ofUuid_countedUuid _, isEphemeral_ofUuid_countedUuid _,
      fun hmem => hfresh _ hmem DiskId.suffix_volumeOn, hobj, fun hnode => ⟨?_, ?_⟩⟩
    · -- the new volume answers to the disk's id
      have hans := DiskId.volumeAnswers_volumeOn (d := d) fun n hn => (hnode n hn).2
      have hfound : (after.engine.resolveVolume d.value).isSome = true := by
        rw [resolveVolume_eq_find, hvol]
        exact List.find?_isSome.2 ⟨_, SortedSet.mem_insert_self _ _, hans⟩
      rw [exists_of_quiet (hq' _), hfound]
    · -- and no other volume ends with it
      rw [DiskLocation.locate_of_quiet (hq' _), hvol,
        DiskLocation.ofVolumes_of_only (SortedSet.mem_insert_self _ _) fun w hw hne =>
          hfresh w ((SortedSet.mem_insert.1 hw).resolve_left hne),
        DiskId.ofVolume_volumeOn (slash_not_mem_ofUuid_countedUuid _) hnode]
      rfl
  delete_bound d hd hbound hres := delete_of_bound (hq _) hd hbound hres
  delete_unbound d hd hfree := by
    intro after
    obtain ⟨hok, hobj⟩ := delete_of_unbound (hq _) hd hfree
    have hq' : after.engine.FailureFree := delete_failureFree hq
    have hcontainers : after.engine.containers = h.engine.containers :=
      congrArg EngineObjects.containers hobj
    have hvol : after.engine.volumes = (h.engine.resolveVolume d.value).elim h.engine.volumes
        (SortedSet.erase · h.engine.volumes) :=
      congrArg EngineObjects.volumes hobj
    refine ⟨hok, hobj, (delete_of_unbound (hq' _) hd (hcontainers ▸ hfree)).1, fun honly => ?_⟩
    rw [exists_of_quiet (hq' _), resolveVolume_eq_none_of_removed honly hvol]
    rfl

/-- A VM `c-1` running on node `node-1` and binding the disk `vol-1` stored on that node. -/
def clusteredHost : MemoryHost :=
  let engine := (MemoryEngine.empty ⟨8589934592, 4⟩).addVolume "node-1/vol-1"
  ⟨engine.addContainer "c-1"
    { ContainerSpec.empty.setBinds ["vol-1:/warden-cpi-dev/vol-1"] with node := some "node-1" }, 0⟩

theorem clustered_disk_lifecycle : clusteredHost.engine.FailureFree ∧ Lifecycle clusteredHost :=
  have hq : clusteredHost.engine.FailureFree := fun _ => rfl
  ⟨hq, disk_lifecycle hq⟩

/-- Two volumes answering to the disk `vol-1`: one on node `n`, one unqualified. -/
def twoVolumesForDisk : MemoryHost :=
  ⟨((MemoryEngine.empty ⟨8589934592, 4⟩).addVolume "n/vol-1").addVolume "vol-1", 0⟩

/-- With no failure queued and no container, deleting `vol-1` succeeds by removing `n/vol-1`,
the first volume answering to it, and the disk still exists afterwards. -/
theorem second_volume_keeps_disk :
    let d : DiskId := ⟨"vol-1"⟩
    let after := (runOp (delete backend d) twoVolumesForDisk).2
    twoVolumesForDisk.engine.FailureFree ∧ twoVolumesForDisk.engine.containers = [] ∧
    (runOp (delete backend d) twoVolumesForDisk).1 = .ok () ∧
    after.engine.volumes = ["vol-1"] ∧ (runOp (exists? backend d) after).1 = .ok true := by
  refine ⟨fun _ => rfl, rfl, ?_⟩
  decide +kernel

end Disks

end ContainerCpi
