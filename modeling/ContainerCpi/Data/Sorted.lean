/-!
# Sorted maps and sets of names

Engines keep their containers, networks, volumes and files by name, and answer lists of
them in name order.  A map is a list of name–value pairs sorted by name with distinct
names; a set is a sorted list of distinct names.  `insert` keeps both properties, so every
list built from the empty one by `insert` and `erase` is sorted and repeats no name.
-/

namespace ContainerCpi

namespace SortedMap

variable {α : Type}

/-- Put `v` under `k`: the value of an existing name is replaced, a new name goes before the
first larger one. -/
def insert (k : String) (v : α) : List (String × α) → List (String × α)
  | [] => [(k, v)]
  | (k', v') :: rest =>
    if k = k' then (k, v) :: rest
    else if k < k' then (k, v) :: (k', v') :: rest
    else (k', v') :: insert k v rest

/-- The value under `k`. -/
def get? (m : List (String × α)) (k : String) : Option α :=
  (m.find? (·.1 == k)).map (·.2)

/-- Whether `k` has a value. -/
def contains (m : List (String × α)) (k : String) : Bool := m.any (·.1 == k)

/-- Drop `k`. -/
def erase (k : String) (m : List (String × α)) : List (String × α) := m.filter (·.1 != k)

/-- Change the value under `k`, if there is one. -/
def modify (k : String) (f : α → α) (m : List (String × α)) : List (String × α) :=
  m.map fun (k', v) => if k' == k then (k', f v) else (k', v)

/-- The map holding the given pairs; a later pair wins over an earlier one of its name. -/
def ofList (pairs : List (String × α)) : List (String × α) :=
  pairs.foldl (fun acc p => insert p.1 p.2 acc) []

@[simp] theorem get?_insert_self (k : String) (v : α) (m : List (String × α)) :
    get? (insert k v m) k = some v := by
  induction m with
  | nil => simp [insert, get?]
  | cons p rest ih =>
    obtain ⟨k', v'⟩ := p
    unfold insert
    by_cases h : k = k'
    · simp [h, get?]
    · by_cases hl : k < k'
      · simp [h, hl, get?]
      · simp only [h, hl, if_false]
        simp only [get?, List.find?_cons] at ih ⊢
        have : (k' == k) = false := by simp; exact fun e => h e.symm
        simp [this, ih]

theorem get?_insert_of_ne {k k' : String} (v : α) (m : List (String × α)) (hne : k ≠ k') :
    get? (insert k v m) k' = get? m k' := by
  induction m with
  | nil => simp [insert, get?, hne]
  | cons p rest ih =>
    obtain ⟨j, w⟩ := p
    unfold insert
    by_cases h : k = j
    · subst h
      simp [get?, hne]
    · by_cases hl : k < j
      · simp [h, hl, get?, hne]
      · simp only [h, hl, if_false]
        simp only [get?, List.find?_cons] at ih ⊢
        split <;> simp_all

@[simp] theorem get?_erase_self (k : String) (m : List (String × α)) : get? (erase k m) k = none := by
  simp [get?, erase, List.find?_filter]

theorem get?_modify (k : String) (f : α → α) (m : List (String × α)) (k' : String) :
    get? (modify k f m) k' = if k = k' then (get? m k').map f else get? m k' := by
  induction m with
  | nil => split <;> rfl
  | cons p rest ih =>
    obtain ⟨j, v⟩ := p
    by_cases hj : j = k'
    · subst hj
      by_cases hk : j = k
      · subst hk
        simp [get?, modify]
      · simp [get?, modify, hk, Ne.symm hk]
    · by_cases hk : j = k
      · subst hk
        simp [get?, modify, hj] at ih ⊢
        exact ih
      · simp [get?, modify, hj, hk] at ih ⊢
        exact ih

@[simp] theorem get?_modify_self (k : String) (f : α → α) (m : List (String × α)) :
    get? (modify k f m) k = (get? m k).map f := by
  simp [get?_modify]

theorem contains_eq_isSome_get? (m : List (String × α)) (k : String) :
    contains m k = (get? m k).isSome := by
  simp [contains, get?, List.isSome_find?]

@[simp] theorem erase_insert_self (k : String) (v : α) (m : List (String × α)) :
    erase k (insert k v m) = erase k m := by
  induction m with
  | nil => simp [insert, erase]
  | cons p rest ih =>
    obtain ⟨k', v'⟩ := p
    unfold insert
    by_cases h : k = k'
    · subst h
      simp [erase]
    · by_cases hl : k < k'
      · simp [h, hl, erase]
      · simp only [h, hl, if_false]
        simp only [erase, List.filter_cons] at ih ⊢
        simp [ih]

@[simp] theorem erase_erase_self (k : String) (m : List (String × α)) :
    erase k (erase k m) = erase k m := by
  simp [erase, List.filter_filter]

@[simp] theorem erase_modify_self (k : String) (f : α → α) (m : List (String × α)) :
    erase k (modify k f m) = erase k m := by
  induction m with
  | nil => rfl
  | cons p rest ih =>
    obtain ⟨k', v'⟩ := p
    by_cases h : k' = k
    · simp [erase, modify, h] at ih ⊢
      exact ih
    · simp [erase, modify, h] at ih ⊢
      exact ih

theorem erase_of_get?_eq_none {k : String} {m : List (String × α)} (h : get? m k = none) :
    erase k m = m := by
  simp only [get?, Option.map_eq_none_iff, List.find?_eq_none] at h
  simpa [erase, List.filter_eq_self] using h

end SortedMap

namespace SortedSet

/-- Add a name, keeping the list sorted and free of repeats. -/
def insert (k : String) : List String → List String
  | [] => [k]
  | k' :: rest =>
    if k = k' then k' :: rest
    else if k < k' then k :: k' :: rest
    else k' :: insert k rest

/-- Drop a name. -/
def erase (k : String) (s : List String) : List String := s.filter (· != k)

/-- The set of the given names. -/
def ofList (names : List String) : List String := names.foldl (fun acc k => insert k acc) []

theorem mem_insert_self (k : String) (s : List String) : k ∈ insert k s := by
  induction s with
  | nil => simp [insert]
  | cons k' rest ih =>
    unfold insert
    by_cases h : k = k'
    · simp [h]
    · by_cases hl : k < k'
      · simp [h, hl]
      · simp [h, hl, ih]

theorem mem_insert {x k : String} {s : List String} : x ∈ insert k s ↔ x = k ∨ x ∈ s := by
  induction s with
  | nil => simp [insert]
  | cons k' rest ih =>
    unfold insert
    by_cases h : k = k'
    · subst h; simp
    · by_cases hl : k < k'
      · simp [h, hl]
      · simp [h, hl, ih, or_left_comm]

theorem mem_erase {x k : String} {s : List String} : x ∈ erase k s ↔ x ∈ s ∧ x ≠ k := by
  simp [erase]

end SortedSet

end ContainerCpi
