import ContainerCpi.Data.Sorted
import ContainerCpi.Json.Decode

/-!
# Sorted maps list their names in ascending order

A map built by `SortedMap.insert` lists its names in strictly ascending order
(`SortedMap.Ascending`), so it repeats no name and its first entry has the least name.
Inserting a name the map lacks adds exactly one entry, so a map built from pairs with
distinct names (`SortedMap.ofList`) holds exactly those pairs, reordered; in general it holds
the last pair of each name, and pairs already ascending are their own map.  The decoder and
the reader of objects keep their maps with the same insertion.
-/

namespace ContainerCpi

namespace SortedMap

variable {α : Type}

/-- Names strictly ascending, so each name at most once. -/
def Ascending (m : List (String × α)) : Prop := m.Pairwise (·.1 < ·.1)

theorem mem_insert_pair {k : String} {v : α} {m : List (String × α)} {q : String × α}
    (h : q ∈ insert k v m) : q = (k, v) ∨ q ∈ m := by
  induction m with
  | nil => simpa [insert] using h
  | cons p rest ih =>
    unfold insert at h
    split at h
    · rcases List.mem_cons.1 h with h | h
      · exact .inl h
      · exact .inr (List.mem_cons_of_mem _ h)
    · split at h
      · simpa using h
      · rcases List.mem_cons.1 h with h | h
        · exact .inr (h ▸ List.mem_cons_self)
        · exact (ih h).imp_right (List.mem_cons_of_mem _)

theorem mem_insert_self (k : String) (v : α) (m : List (String × α)) : (k, v) ∈ insert k v m := by
  induction m with
  | nil => simp [insert]
  | cons p rest ih =>
    unfold insert
    split
    · exact List.mem_cons_self
    · split
      · exact List.mem_cons_self
      · exact List.mem_cons_of_mem _ ih

theorem mem_insert_of_ne {k : String} {v : α} {m : List (String × α)} {q : String × α}
    (hq : q ∈ m) (hne : q.1 ≠ k) : q ∈ insert k v m := by
  induction m with
  | nil => cases hq
  | cons p rest ih =>
    unfold insert
    rcases List.mem_cons.1 hq with rfl | hrest
    · split
      · rename_i heq
        exact absurd heq.symm hne
      · split
        · exact List.mem_cons_of_mem _ List.mem_cons_self
        · exact List.mem_cons_self
    · split
      · exact List.mem_cons_of_mem _ hrest
      · split
        · exact List.mem_cons_of_mem _ (List.mem_cons_of_mem _ hrest)
        · exact List.mem_cons_of_mem _ (ih hrest)

theorem mem_insert_of_not_contains {k : String} {v : α} {m : List (String × α)}
    (hk : contains m k = false) {q : String × α} : q ∈ insert k v m ↔ q = (k, v) ∨ q ∈ m := by
  refine ⟨mem_insert_pair, ?_⟩
  rintro (rfl | hq)
  · exact mem_insert_self k v m
  · refine mem_insert_of_ne hq fun hname => ?_
    have hany : contains m k = true := List.any_eq_true.2 ⟨q, hq, by simp [hname]⟩
    rw [hk] at hany
    cases hany

theorem forall_mem_insert {P : String × α → Prop} {k : String} {v : α} {m : List (String × α)}
    (hkv : P (k, v)) (hm : ∀ q ∈ m, P q) : ∀ q ∈ insert k v m, P q := by
  intro q hq
  rcases mem_insert_pair hq with rfl | hold
  · exact hkv
  · exact hm q hold

theorem contains_of_mem {k : String} {v : α} {m : List (String × α)} (h : (k, v) ∈ m) :
    contains m k = true :=
  List.any_eq_true.2 ⟨_, h, by simp⟩

theorem contains_insert_self (k : String) (v : α) (m : List (String × α)) :
    contains (insert k v m) k = true := by
  simp [contains_eq_isSome_get?]

theorem Ascending.insert {m : List (String × α)} (hm : Ascending m) (k : String) (v : α) :
    Ascending (insert k v m) := by
  induction m with
  | nil => simp [Ascending, SortedMap.insert]
  | cons p rest ih =>
    obtain ⟨hhead, hrest⟩ := List.pairwise_cons.1 hm
    unfold SortedMap.insert
    split
    · rename_i heq
      -- the entry under the name is replaced in place
      exact List.pairwise_cons.2 ⟨fun q hq => heq ▸ hhead q hq, hrest⟩
    · split
      · rename_i hlt
        refine List.pairwise_cons.2 ⟨fun q hq => ?_, hm⟩
        rcases List.mem_cons.1 hq with rfl | hq
        · exact hlt
        · exact String.lt_trans hlt (hhead q hq)
      · rename_i hne hnlt
        -- the new name belongs further on, after the first
        have hgt : p.1 < k := by grind
        exact List.pairwise_cons.2
          ⟨forall_mem_insert hgt hhead, ih hrest⟩

theorem Ascending.map_values {β : Type} {m : List (String × α)} (hm : Ascending m) (f : α → β) :
    Ascending (m.map fun q => (q.1, f q.2)) :=
  List.pairwise_map.2 hm

theorem ascending_ofList (pairs : List (String × α)) : Ascending (ofList pairs) := by
  unfold ofList
  suffices ∀ acc : List (String × α), Ascending acc →
      Ascending (pairs.foldl (fun acc p => insert p.1 p.2 acc) acc) from
    this [] List.Pairwise.nil
  induction pairs with
  | nil => exact fun _ h => h
  | cons p rest ih => exact fun acc h => ih _ (h.insert p.1 p.2)

/-- Built from pairs with distinct names, a map holds exactly those pairs. -/
theorem mem_ofList {pairs : List (String × α)} (hnames : (pairs.map (·.1)).Nodup)
    {q : String × α} : q ∈ ofList pairs ↔ q ∈ pairs := by
  unfold ofList
  -- the names still to come are not yet in the map built so far
  suffices ∀ acc : List (String × α), (∀ p ∈ pairs, contains acc p.1 = false) →
      (q ∈ pairs.foldl (fun acc p => insert p.1 p.2 acc) acc ↔ q ∈ acc ∨ q ∈ pairs) by
    simpa using this [] fun _ _ => rfl
  induction pairs with
  | nil => simp
  | cons p rest ih =>
    obtain ⟨hp, hrest⟩ := List.nodup_cons.1 hnames
    intro acc hfresh
    have hkept : ∀ r ∈ rest, contains (insert p.1 p.2 acc) r.1 = false := by
      intro r hr
      have hne : p.1 ≠ r.1 := fun heq => hp (List.mem_map.2 ⟨r, hr, heq.symm⟩)
      rw [contains_eq_isSome_get?, get?_insert_of_ne _ _ hne, ← contains_eq_isSome_get?]
      exact hfresh r (List.mem_cons_of_mem _ hr)
    rw [List.foldl_cons, ih hrest _ hkept, mem_insert_of_not_contains (hfresh p List.mem_cons_self)]
    simp only [List.mem_cons]
    constructor
    · rintro ((rfl | h) | h)
      · exact .inr (.inl rfl)
      · exact .inl h
      · exact .inr (.inr h)
    · rintro (h | rfl | h)
      · exact .inl (.inr h)
      · exact .inl (.inl rfl)
      · exact .inr h

theorem perm_ofList {pairs : List (String × α)} (hnames : (pairs.map (·.1)).Nodup) :
    (ofList pairs).Perm pairs := by
  have hnodup : (ofList pairs).Nodup := by
    refine (ascending_ofList pairs).imp ?_
    intro a b hlt heq
    rw [heq] at hlt
    exact String.lt_irrefl _ hlt
  have hpairs : pairs.Nodup :=
    List.Pairwise.of_map (·.1) (fun _ _ hne heq => hne (congrArg (·.1) heq)) hnames
  exact (List.perm_ext_iff_of_nodup hnodup hpairs).2 fun _ => mem_ofList hnames

theorem get?_ofList (pairs : List (String × α)) (k : String) :
    get? (ofList pairs) k = (pairs.reverse.find? (·.1 == k)).map (·.2) := by
  unfold ofList
  -- a later pair of the name wins over the map built so far
  suffices ∀ acc : List (String × α), get? (pairs.foldl (fun acc p => insert p.1 p.2 acc) acc) k =
      ((pairs.reverse.find? (·.1 == k)).map (·.2)).or (get? acc k) by
    simpa [get?] using this []
  induction pairs with
  | nil => simp
  | cons p rest ih =>
    intro acc
    rw [List.foldl_cons, ih, List.reverse_cons, List.find?_append]
    by_cases hk : p.1 = k
    · rw [← hk, get?_insert_self]
      cases rest.reverse.find? (·.1 == p.1) <;> simp
    · rw [get?_insert_of_ne _ _ hk]
      cases rest.reverse.find? (·.1 == k) <;> simp [hk]

theorem Ascending.find?_least {m : List (String × α)} (hm : Ascending m) {P : String × α → Bool}
    {q : String × α} (hq : m.find? P = some q) : ∀ q' ∈ m, P q' = true → q.1 ≤ q'.1 := by
  obtain ⟨-, before, after, rfl, hbefore⟩ := List.find?_eq_some_iff_append.1 hq
  have hafter := (List.pairwise_cons.1 (List.pairwise_append.1 hm).2.1).1
  intro q' hq' hpass
  rcases List.mem_append.1 hq' with hin | hin
  · -- no entry before the first one passes
    have hfails := hbefore q' hin
    rw [hpass] at hfails
    cases hfails
  · rcases List.mem_cons.1 hin with rfl | hin
    · exact String.le_refl _
    · exact String.not_lt.1 (String.lt_asymm (hafter q' hin))

theorem insert_of_forall_lt {k : String} (v : α) {m : List (String × α)}
    (h : ∀ q ∈ m, q.1 < k) : insert k v m = m ++ [(k, v)] := by
  induction m with
  | nil => rfl
  | cons p rest ih =>
    have hp : p.1 < k := h p List.mem_cons_self
    have hne : k ≠ p.1 := fun heq => String.lt_irrefl _ (heq ▸ hp)
    have hnlt : ¬ k < p.1 := String.lt_asymm hp
    rw [insert, if_neg hne, if_neg hnlt, ih fun q hq => h q (List.mem_cons_of_mem _ hq)]
    rfl

theorem foldl_insert_of_ascending {m : List (String × α)} :
    ∀ {acc : List (String × α)}, Ascending (acc ++ m) →
      m.foldl (fun acc p => insert p.1 p.2 acc) acc = acc ++ m := by
  induction m with
  | nil => simp
  | cons p rest ih =>
    intro acc hasc
    have hlt : ∀ q ∈ acc, q.1 < p.1 :=
      fun q hq => (List.pairwise_append.1 hasc).2.2 q hq p List.mem_cons_self
    rw [List.foldl_cons, insert_of_forall_lt _ hlt, ih (by simpa using hasc)]
    simp

theorem ofList_of_ascending {m : List (String × α)} (hm : Ascending m) : ofList m = m := by
  unfold ofList
  simpa using @foldl_insert_of_ascending _ m [] hm

end SortedMap

theorem Decoder.insertSorted_eq {α : Type} : @Decoder.insertSorted α = SortedMap.insert := by
  funext k v m
  induction m with
  | nil => rfl
  | cons p rest ih =>
    simp only [Decoder.insertSorted, SortedMap.insert, ih]

theorem Json.Fields.insert_eq : Json.Fields.insert = @SortedMap.insert Json := by
  funext k v m
  induction m with
  | nil => rfl
  | cons p rest ih =>
    simp only [Json.Fields.insert, SortedMap.insert, ih]

theorem Json.Fields.ofList_eq : Json.Fields.ofList = @SortedMap.ofList Json := by
  funext pairs
  simp only [Json.Fields.ofList, SortedMap.ofList, Json.Fields.insert_eq]

end ContainerCpi
