import ContainerCpi.Proofs.Json.RoundTrip

/-!
# Decoders read back what was written

A decoder *inverts* a way of writing values (`Decoder.Inverts dec enc a`) when it decodes
`a` from every document of `enc a` read from text.  The decoders of strings, booleans,
options, lists and maps invert their writers, given that the inner decoder does
(`list_inverts`, `map_inverts`); a map needs its keys ascending, as the decoder sorts them.

A record decoder checks each field it meets and then builds its value from the documents it
found (`Decoder.Found`).  For an object whose keys are distinct fields of the record, each
accepting its value, it builds from documents of those values (`record_inverts`); a record
written with optional entries (`Json.written`) is read back the same way
(`record_written`), each absent entry taking its field's default.  Text written from a value
its decoder inverts decodes as the value (`runText_render`), so long as its numbers are held
and it nests fewer than 128 containers.  A value whose numbers are only legible decodes as
the value the decoder finds in what its text reads back as (`runText_render_reread`).
-/

namespace ContainerCpi

namespace Doc

theorem Shows.eq_atom {d : Doc} {v : Json} (h : d.Shows v) (hv : v.isScalar = true) :
    ∃ span, d = .atom v span := by
  cases d with
  | atom w span =>
    obtain ⟨rfl, -⟩ := h
    exact ⟨span, rfl⟩
  | broken e => exact absurd h shows_broken
  | array _ _ _ => cases v <;> first | exact h.elim | cases hv
  | object _ _ _ => cases v <;> first | exact h.elim | cases hv

theorem Shows.eq_array {d : Doc} {xs : List Json} (h : d.Shows (.array xs)) :
    ∃ start items i, d = .array start items (.ok i) ∧ Shows.showsItems items xs := by
  cases d with
  | array start items close =>
    obtain ⟨hclose, hitems⟩ := h
    cases close with
    | ok i => exact ⟨start, items, i, rfl, hitems⟩
    | error _ => cases hclose
  | atom _ _ => exact absurd h.2 (by simp [Json.isScalar])
  | object _ _ _ => exact h.elim
  | broken e => exact absurd h shows_broken

theorem Shows.eq_object {d : Doc} {fs : List (String × Json)} (h : d.Shows (.object fs)) :
    ∃ start fields i, d = .object start fields (.ok i) ∧ Shows.showsFields fields fs := by
  cases d with
  | object start fields close =>
    obtain ⟨hclose, hfields⟩ := h
    cases close with
    | ok i => exact ⟨start, fields, i, rfl, hfields⟩
    | error _ => cases hclose
  | atom _ _ => exact absurd h.2 (by simp [Json.isScalar])
  | array _ _ _ => exact h.elim
  | broken e => exact absurd h shows_broken

end Doc

namespace Json

/-- The entries that have a value, in order: how a record with optional fields is written. -/
def written (entries : List (String × Option Json)) : List (String × Json) :=
  entries.filterMap fun e => e.2.map (e.1, ·)

@[simp] theorem written_nil : written [] = [] := rfl

@[simp] theorem written_cons_some (k : String) (v : Json) (entries : List (String × Option Json)) :
    written ((k, some v) :: entries) = (k, v) :: written entries := rfl

@[simp] theorem written_cons_none (k : String) (entries : List (String × Option Json)) :
    written ((k, none) :: entries) = written entries := rfl

theorem written_cons_ite (k : String) (c : Prop) [Decidable c] (v : Json)
    (entries : List (String × Option Json)) :
    written ((k, if c then none else some v) :: entries) =
      (if c then [] else [(k, v)]) ++ written entries := by
  split <;> rfl

theorem eq_of_some_eq_ite {c : Prop} [Decidable c] {v w : Json}
    (h : some v = if c then none else some w) :
    v = w := by
  split at h
  · cases h
  · exact Option.some_inj.1 h

theorem mem_written {entries : List (String × Option Json)} {q : String × Json} :
    q ∈ written entries ↔ (q.1, some q.2) ∈ entries := by
  simp only [written, List.mem_filterMap, Option.map_eq_some_iff]
  constructor
  · rintro ⟨e, he, v, hv, rfl⟩
    rw [← hv]
    exact he
  · intro h
    exact ⟨_, h, q.2, rfl, rfl⟩

theorem allFields_written {P : Number → Prop} {entries : List (String × Option Json)} :
    AllNumbers.allFields P (written entries) ↔ ∀ k v, (k, some v) ∈ entries → v.AllNumbers P := by
  rw [allFields_iff]
  constructor
  · intro h k v hkv
    exact h (k, v) (mem_written.2 hkv)
  · intro h q hq
    exact h q.1 q.2 (mem_written.1 hq)

theorem rereadFields_written : ∀ entries : List (String × Option Json),
    reread.rereadFields (written entries) = written (entries.map fun e => (e.1, e.2.map reread))
  | [] => rfl
  | (_, none) :: es => rereadFields_written es
  | (k, some v) :: es => congrArg (List.cons (k, v.reread)) (rereadFields_written es)

theorem keys_written_sublist : ∀ entries : List (String × Option Json),
    ((written entries).map (·.1)).Sublist (entries.map (·.1))
  | [] => List.Sublist.refl _
  | (k, none) :: entries => (keys_written_sublist entries).cons k
  | (k, some _) :: entries => (keys_written_sublist entries).cons_cons k

theorem get?_written : ∀ {entries : List (String × Option Json)}, (entries.map (·.1)).Nodup →
    ∀ k, SortedMap.get? (written entries) k = (entries.find? (·.1 == k)).bind (·.2)
  | [], _, k => rfl
  | (k', o) :: entries, hnodup, k => by
    obtain ⟨hfresh, hnodup⟩ := List.nodup_cons.1 hnodup
    by_cases hk : k' = k
    · subst hk
      have hnone : SortedMap.get? (written entries) k' = none := by
        rw [get?_written hnodup]
        have : entries.find? (·.1 == k') = none :=
          List.find?_eq_none.2 fun e he heq => hfresh (List.mem_map.2 ⟨e, he, by simpa using heq⟩)
        rw [this]
        rfl
      cases o <;> simp_all [written, SortedMap.get?]
    · have := get?_written hnodup k
      cases o <;> simp_all [written, SortedMap.get?]

theorem sortedFields_iff : ∀ {fs : List (String × Json)},
    Sorted.sortedFields fs ↔ ∀ q ∈ fs, q.2.Sorted
  | [] => by simp [Sorted.sortedFields]
  | (k, v) :: fs => by simp [Sorted.sortedFields, sortedFields_iff]

end Json

namespace Decoder

variable {α β : Type}

/-- `dec` decodes `a` from every document of the value `enc a`. -/
def Inverts (dec : Decoder α) (enc : α → Json) (a : α) : Prop :=
  ∀ doc : Doc, doc.Shows (enc a) → dec doc = .ok a

theorem string_inverts (s : String) : string.Inverts .string s := by
  intro doc h
  obtain ⟨span, rfl⟩ := h.eq_atom rfl
  rfl

theorem bool_inverts (b : Bool) : bool.Inverts .bool b := by
  intro doc h
  obtain ⟨span, rfl⟩ := h.eq_atom rfl
  rfl

theorem option_of_ne_null {inner : Decoder α} {doc : Doc} {v : Json} (h : doc.Shows v)
    (hv : v ≠ .null) : option inner doc = (inner doc).map some := by
  unfold option
  split
  · obtain ⟨rfl, -⟩ := h
    exact absurd rfl hv
  · rfl

theorem json_inverts {v : Json} (hv : v.Sorted) : json.Inverts id v := by
  intro doc h
  simp only [json, Doc.toJson_of_shows doc h hv]
  rfl

theorem items_inverts {dec : Decoder α} {enc : α → Json} :
    ∀ {as : List α} {docs : List Doc}, (∀ a ∈ as, dec.Inverts enc a) →
      Doc.Shows.showsItems docs (as.map enc) → items dec docs = .ok as
  | [], [], _, _ => rfl
  | a :: as, doc :: docs, h, ⟨hdoc, hdocs⟩ => by
    rw [items, h a List.mem_cons_self doc hdoc,
      items_inverts (fun a' ha' => h a' (List.mem_cons_of_mem _ ha')) hdocs]
    rfl

theorem list_inverts {dec : Decoder α} {enc : α → Json} {as : List α}
    (h : ∀ a ∈ as, dec.Inverts enc a) : (list dec).Inverts (fun as => .array (as.map enc)) as := by
  intro doc hdoc
  obtain ⟨start, docs, i, rfl, hdocs⟩ := hdoc.eq_array
  rw [list, items_inverts h hdocs]
  rfl

theorem fieldValues_inverts {dec : Decoder α} {enc : α → Json} :
    ∀ {m : List (String × α)} {docs : List (String × Option EntrySpan × Doc)},
      (∀ q ∈ m, dec.Inverts enc q.2) →
      Doc.Shows.showsFields docs (m.map fun q => (q.1, enc q.2)) → fieldValues dec docs = .ok m
  | [], [], _, _ => rfl
  | (k, a) :: m, (k', _, doc) :: docs, h, ⟨hk, hdoc, hdocs⟩ => by
    subst hk
    rw [fieldValues, h (k', a) List.mem_cons_self doc hdoc,
      fieldValues_inverts (fun q hq => h q (List.mem_cons_of_mem _ hq)) hdocs]
    rfl

theorem map_inverts {dec : Decoder α} {enc : α → Json} {m : List (String × α)}
    (hasc : SortedMap.Ascending m) (h : ∀ q ∈ m, dec.Inverts enc q.2) :
    (map dec).Inverts (fun m => .object (m.map fun q => (q.1, enc q.2))) m := by
  intro doc hdoc
  obtain ⟨start, docs, i, rfl, hdocs⟩ := hdoc.eq_object
  have hsorted : m.foldl (fun acc kv => insertSorted kv.1 kv.2 acc) [] = m := by
    rw [insertSorted_eq]
    exact SortedMap.ofList_of_ascending hasc
  rw [map, fieldValues_inverts h hdocs]
  show Except.ok (m.foldl (fun acc kv => insertSorted kv.1 kv.2 acc) []) = _
  rw [hsorted]

theorem option_inverts {dec : Decoder α} {enc : α → Json} {o : Option α}
    (h : ∀ a ∈ o, dec.Inverts enc a ∧ enc a ≠ .null) :
    (option dec).Inverts (fun o => (o.map enc).getD .null) o := by
  intro doc hdoc
  cases o with
  | none =>
    obtain ⟨span, rfl⟩ := hdoc.eq_atom rfl
    rfl
  | some a =>
    obtain ⟨hdec, hne⟩ := h a rfl
    rw [option_of_ne_null hdoc hne, hdec doc hdoc]
    rfl

theorem objectMap_inverts {m : List (String × Json)} (hm : (Json.object m).Sorted) :
    objectMap.Inverts .object m := by
  obtain ⟨hasc, hvalues⟩ := hm
  have h := map_inverts hasc fun q hq => json_inverts (Json.sortedFields_iff.1 hvalues q hq)
  intro doc hdoc
  exact h doc (by simpa using hdoc)

/-- A record field decodes whatever document of `v` it is given. -/
def Field.Accepts (fl : Field) (v : Json) : Prop := ∀ doc : Doc, doc.Shows v → fl.check doc = .ok ()

theorem field_accepts {dec : Decoder α} {enc : α → Json} {a : α} (name : String)
    (h : dec.Inverts enc a) : (field name dec).Accepts (enc a) := by
  intro doc hdoc
  simp only [field, fieldAka, h doc hdoc]
  rfl

/-- The entry `q` of an object names a field of the record, which accepts its value. -/
def Finds (fields : List Field) (q : String × Json) : Prop :=
  ∃ fl, fields.find? (fun fl => fl.name == q.1 || fl.aliases.contains q.1) = some fl ∧
    fl.name = q.1 ∧ fl.Accepts q.2

theorem finds_field {fields : List Field} {k : String} {dec : Decoder α} {enc : α → Json} {a : α}
    {v : Json}
    (hfind : fields.find? (fun fl => fl.name == k || fl.aliases.contains k) = some (field k dec))
    (h : dec.Inverts enc a) (hv : enc a = v) : Finds fields (k, v) :=
  hv ▸ ⟨_, hfind, rfl, field_accepts k h⟩

/-- Scanning the documents of an object whose keys are distinct fields of the record, each
accepting its value, keeps every entry under its key. -/
theorem scanFields_shows {fields : List Field} :
    ∀ {fs : List (String × Json)} {docs : List (String × Option EntrySpan × Doc)}
      {seen : List (String × Doc)}, Doc.Shows.showsFields docs fs → (fs.map (·.1)).Nodup →
      (∀ q ∈ fs, ∀ p ∈ seen, p.1 ≠ q.1) → (∀ q ∈ fs, Finds fields q) →
      scanFields false fields docs seen [] = .ok (seen.reverse ++ docs.map (fun e => (e.1, e.2.2)), [])
  | [], [], seen, _, _, _, _ => by simp [scanFields]
  | (k, v) :: fs, (k', span, doc) :: docs, seen, ⟨hk, hdoc, hdocs⟩, hnames, hseen, hfinds => by
    subst hk
    obtain ⟨fl, hfind, hname, haccepts⟩ := hfinds (k', v) List.mem_cons_self
    obtain ⟨hfresh, hnames'⟩ := List.nodup_cons.1 hnames
    have hunseen : seen.any (·.1 == fl.name) = false := by
      rw [hname]
      simpa using fun p hp => hseen (k', v) List.mem_cons_self p hp
    have hseen' : ∀ q ∈ fs, ∀ p ∈ (fl.name, doc) :: seen, p.1 ≠ q.1 := by
      intro q hq p hp
      rcases List.mem_cons.1 hp with rfl | hp
      · rw [hname]
        exact fun heq => hfresh (List.mem_map.2 ⟨q, hq, heq.symm⟩)
      · exact hseen q (List.mem_cons_of_mem _ hq) p hp
    rw [scanFields, hfind]
    simp only [hunseen, Bool.false_eq_true, if_false, haccepts doc hdoc]
    rw [show (Except.ok () : Except DecodeError Unit).mapError _ = .ok () from rfl]
    simp only [bind, Except.bind]
    rw [scanFields_shows hdocs hnames' hseen' (fun q hq => hfinds q (List.mem_cons_of_mem _ hq)),
      hname]
    simp

/-- What a record decoder found in a document of `.object fs`: under each key, a document
of its value, written as an object. -/
structure Found.Shows (found : Found) (lookup : String → Option Json) : Prop where
  object : found.sequence = none
  get : ∀ k, Option.Rel Doc.Shows (found.get? k) (lookup k)

theorem get?_shows : ∀ {docs : List (String × Option EntrySpan × Doc)} {fs : List (String × Json)},
    Doc.Shows.showsFields docs fs → ∀ k,
      Option.Rel Doc.Shows (((docs.map fun e => (e.1, e.2.2)).find? (·.1 == k)).map (·.2))
        (SortedMap.get? fs k)
  | [], [], _, k => by simp [SortedMap.get?]
  | (k', span, doc) :: docs, (k'', v) :: fs, ⟨hk, hdoc, hdocs⟩, k => by
    subst hk
    by_cases hkey : k' = k
    · subst hkey
      simpa [SortedMap.get?] using Option.Rel.some hdoc
    · have := get?_shows hdocs k
      simpa [SortedMap.get?, hkey] using this

theorem record_inverts {name : String} {fields : List Field} {build : Found → Except DecodeError α}
    {doc : Doc} {fs : List (String × Json)} {a : α} (hdoc : doc.Shows (.object fs))
    (hnames : (fs.map (·.1)).Nodup) (hfinds : ∀ q ∈ fs, Finds fields q)
    (hbuild : ∀ found : Found, found.Shows (SortedMap.get? fs) → build found = .ok a) :
    record name fields build doc = .ok a := by
  obtain ⟨start, docs, i, rfl, hdocs⟩ := hdoc.eq_object
  have hscan := scanFields_shows hdocs hnames
    (show ∀ q ∈ fs, ∀ p ∈ ([] : List (String × Doc)), p.1 ≠ q.1 from fun _ _ _ h => nomatch h)
    hfinds
  rw [record, recordWith, hscan]
  exact hbuild _ ⟨rfl, get?_shows hdocs⟩

theorem record_written {name : String} {fields : List Field} {build : Found → Except DecodeError α}
    {doc : Doc} {entries : List (String × Option Json)} {a : α}
    (hdoc : doc.Shows (.object (Json.written entries))) (hnames : (entries.map (·.1)).Nodup)
    (hfinds : ∀ k v, (k, some v) ∈ entries → Finds fields (k, v))
    (hbuild : ∀ found : Found,
      found.Shows (fun k => (entries.find? (·.1 == k)).bind (·.2)) → build found = .ok a) :
    record name fields build doc = .ok a :=
  record_inverts hdoc ((Json.keys_written_sublist entries).nodup hnames)
    (fun q hq => hfinds q.1 q.2 (Json.mem_written.1 hq))
    fun found hfound => hbuild found (funext (Json.get?_written hnames) ▸ hfound)

theorem Found.Shows.opt {found : Found} {lookup : String → Option Json} (hf : found.Shows lookup)
    (k : String) {dec : Decoder β} {enc : β → Json} {a default : β}
    (hk : lookup k = some (enc a)) (hdec : dec.Inverts enc a) :
    found.opt k dec default = .ok a := by
  have hrel := hf.get k
  unfold Found.opt
  generalize found.get? k = found at hrel ⊢
  rw [hk] at hrel
  cases hrel with
  | some hdoc => exact hdec _ hdoc

theorem Found.Shows.opt_absent {found : Found} {lookup : String → Option Json} (hf : found.Shows lookup)
    (k : String) {dec : Decoder β} {default : β} (hk : lookup k = none) :
    found.opt k dec default = .ok default := by
  have hrel := hf.get k
  unfold Found.opt
  generalize found.get? k = found at hrel ⊢
  rw [hk] at hrel
  cases hrel
  rfl

theorem Found.Shows.opt_unless {found : Found} {lookup : String → Option Json} (hf : found.Shows lookup)
    (k : String) {dec : Decoder β} {enc : β → Json} {a default : β} {c : Bool}
    (hc : c = true → a = default) (hk : lookup k = if c then none else some (enc a))
    (hdec : dec.Inverts enc a) : found.opt k dec default = .ok a := by
  cases c with
  | true =>
    rw [hc rfl]
    exact hf.opt_absent k hk
  | false => exact hf.opt k hk hdec

theorem Found.Shows.opt_option {found : Found} {lookup : String → Option Json} (hf : found.Shows lookup)
    (k : String) {dec : Decoder β} {enc : β → Json} {o : Option β}
    (hk : lookup k = o.map enc)
    (hdec : (Decoder.option dec).Inverts (fun o => (o.map enc).getD .null) o) :
    found.opt k (Decoder.option dec) none = .ok o := by
  cases o with
  | none => exact hf.opt_absent k hk
  | some a => exact hf.opt k (by rw [hk]; rfl) hdec

theorem Found.Shows.req {found : Found} {lookup : String → Option Json} (hf : found.Shows lookup)
    (k : String) {dec : Decoder β} {enc : β → Json} {a : β}
    (hk : lookup k = some (enc a)) (hdec : dec.Inverts enc a) :
    found.req k dec = .ok a := by
  have hrel := hf.get k
  unfold Found.req
  generalize found.get? k = found at hrel ⊢
  rw [hk] at hrel
  cases hrel with
  | some hdoc => exact hdec _ hdoc

theorem runText_render {α : Type} {dec : Decoder α} {enc : α → Json} {a : α}
    (h : dec.Inverts enc a) (hheld : (enc a).Held) (hdepth : (enc a).depth < 128) :
    runText dec (enc a).render = .ok a := by
  obtain ⟨hshows, htrailing⟩ := ReadText.of_render hheld hdepth
  simp only [runText, h _ hshows, htrailing]

theorem runText_render_reread {α : Type} {dec : Decoder α} {enc : α → Json} {a a' : α}
    (h : dec.Inverts enc a') (hre : (enc a).reread = enc a')
    (hlegible : (enc a).AllNumbers Number.Legible) (hdepth : (enc a).depth < 128) :
    runText dec (enc a).render = .ok a' := by
  obtain ⟨hshows, htrailing⟩ := ReadText.of_render_reread hlegible hdepth
  rw [hre] at hshows
  simp only [runText, h _ hshows, htrailing]


end Decoder

end ContainerCpi
