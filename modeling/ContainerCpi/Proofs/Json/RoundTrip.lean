import ContainerCpi.Proofs.Data.SortedMaps
import ContainerCpi.Proofs.Json.Doubles

/-!
# Written values read back

Reading the text `Json.render` writes gives back the value written, each number as the
reader reads its text (`Json.reread`), as a document (`Doc.Shows`): the reader passes over
the text of a value, of an array's items and of an object's fields with one step of fuel for
each, and a document of the value, its items or its fields comes out
(`Reader.rereads_written`, by induction on the fuel).  An integer of 64 bits reads back as
itself, and a double as a double or, when it is not finite, as `null`
(`Number.readsAs_reread`).  Three things can stop it: an integer beyond 64 bits
(`Number.Legible`), a value that nests 128 containers or more (the reader refuses to go
deeper, `Json.depth`), and, for the value the document gives back (`Doc.toJson`), an object
whose keys are not ascending, as a map read from text has them (`Json.Sorted`).  A value
whose numbers are held (`Json.Held`: each reads back as itself) reads back as itself, and
then `Json.parse` inverts `Json.render` (`Json.parse_render`).
-/

namespace ContainerCpi

namespace Json

/-- Whether a value is no container. -/
def isScalar : Json → Bool
  | .array _ | .object _ => false
  | _ => true

/-- How many containers nest at the deepest point of a value: none around a scalar, one for
an empty container. -/
def depth : Json → Nat
  | .array xs => depthItems xs + 1
  | .object fs => depthFields fs + 1
  | _ => 0
where
  depthItems : List Json → Nat
    | [] => 0
    | x :: xs => max x.depth (depthItems xs)
  depthFields : List (String × Json) → Nat
    | [] => 0
    | (_, v) :: fs => max v.depth (depthFields fs)

/-- Every number of a value is held (`Number.Held`). -/
def Held : Json → Prop
  | .number n => n.Held
  | .array xs => heldItems xs
  | .object fs => heldFields fs
  | _ => True
where
  heldItems : List Json → Prop
    | [] => True
    | x :: xs => x.Held ∧ heldItems xs
  heldFields : List (String × Json) → Prop
    | [] => True
    | (_, v) :: fs => v.Held ∧ heldFields fs

/-- Every number of a value passes `P`. -/
def AllNumbers (P : Number → Prop) : Json → Prop
  | .number n => P n
  | .array xs => allItems xs
  | .object fs => allFields fs
  | _ => True
where
  allItems : List Json → Prop
    | [] => True
    | x :: xs => x.AllNumbers P ∧ allItems xs
  allFields : List (String × Json) → Prop
    | [] => True
    | (_, v) :: fs => v.AllNumbers P ∧ allFields fs

/-- Every object of a value lists its keys ascending, as maps read from text do. -/
def Sorted : Json → Prop
  | .array xs => sortedItems xs
  | .object fs => SortedMap.Ascending fs ∧ sortedFields fs
  | _ => True
where
  sortedItems : List Json → Prop
    | [] => True
    | x :: xs => x.Sorted ∧ sortedItems xs
  sortedFields : List (String × Json) → Prop
    | [] => True
    | (_, v) :: fs => v.Sorted ∧ sortedFields fs

/-- The text of the items of an array after its opening bracket; after an item, a comma
goes first. -/
def itemsText (first : Bool) : List Json → List Char
  | [] => []
  | x :: xs => (if first then [] else [',']) ++ (render x).toList ++ itemsText false xs

/-- The text of the fields of an object after its opening brace; after a field, a comma goes
first. -/
def fieldsText (first : Bool) : List (String × Json) → List Char
  | [] => []
  | (k, v) :: fs =>
    (if first then [] else [',']) ++ (quote k).toList ++ ':' :: (render v).toList ++
      fieldsText false fs

theorem renderItems_toList : ∀ xs : List Json, (render.renderItems xs).toList = itemsText true xs
  | [] => rfl
  | [x] => by simp [render.renderItems, itemsText]
  | x :: y :: ys => by
    show (render x ++ "," ++ render.renderItems (y :: ys)).toList = _
    rw [String.toList_append, String.toList_append, renderItems_toList (y :: ys)]
    simp [itemsText]

theorem renderFields_toList :
    ∀ fs : List (String × Json), (render.renderFields fs).toList = fieldsText true fs
  | [] => rfl
  | [(k, v)] => by simp [render.renderFields, fieldsText]
  | (k, v) :: q :: qs => by
    show (quote k ++ ":" ++ render v ++ "," ++ render.renderFields (q :: qs)).toList = _
    rw [String.toList_append, String.toList_append, String.toList_append, String.toList_append,
      renderFields_toList (q :: qs)]
    obtain ⟨k', v'⟩ := q
    simp [fieldsText]

theorem closes_itemsText (xs : List Json) (rest : List Char) :
    Closes (itemsText false xs ++ ']' :: rest) := by
  intro c r h
  cases xs <;> simp [itemsText] at h <;> simp [← h.1]

theorem closes_fieldsText (fs : List (String × Json)) (rest : List Char) :
    Closes (fieldsText false fs ++ '\x7d' :: rest) := by
  intro c r h
  cases fs with
  | nil => simp [fieldsText] at h; simp [← h.1]
  | cons q qs => obtain ⟨k, v⟩ := q; simp [fieldsText] at h; simp [← h.1]

theorem render_array (xs : List Json) :
    (render (.array xs)).toList = '[' :: itemsText true xs ++ [']'] := by
  simp [render, renderItems_toList]

theorem render_object (fs : List (String × Json)) :
    (render (.object fs)).toList = '\x7b' :: fieldsText true fs ++ ['\x7d'] := by
  simp [render, renderFields_toList]


end Json

namespace Number

/-- A number whose text the reader takes in: an integer of 64 bits, or any double. -/
def Legible : Number → Prop
  | .unsigned n => n ≤ Reader.maxU64
  | .negative n => n < 0 ∧ n.natAbs ≤ Nat.pow 2 63
  | .double _ => True

/-- What the reader makes of a number's text: the scalar it reads there, or the number itself
if it reads none. -/
def reread (n : Number) : Json :=
  match Reader.readValue 1 1 ⟨(Json.numberText n).toList, 0⟩ with
  | (.atom w _, _) => w
  | _ => .number n

theorem ReadsAs.reread_eq {n : Number} {w : Json} (h : n.ReadsAs w) : n.reread = w := by
  obtain ⟨span, pos', hread⟩ := h 0 1 0 [] (fun _ _ h => nomatch h)
  rw [List.append_nil] at hread
  rw [reread, hread]

theorem Held.legible : ∀ {n : Number}, n.Held → n.Legible
  | .unsigned _, h | .negative _, h => h
  | .double _, _ => trivial

theorem reread_of_held {n : Number} (h : n.Held) : n.reread = .number n :=
  ReadsAs.reread_eq (readsBack_of_held h)

theorem readsAs_reread : ∀ {n : Number}, n.Legible →
    n.ReadsAs n.reread ∧ n.reread.isScalar = true ∧ n.reread.AllNumbers Legible
  | .unsigned m, h => by
    rw [reread_of_held (n := .unsigned m) h]
    exact ⟨readsBack_of_held (n := .unsigned m) h, rfl, h⟩
  | .negative m, h => by
    rw [reread_of_held (n := .negative m) h]
    exact ⟨readsBack_of_held (n := .negative m) h, rfl, h⟩
  | .double f, _ => by
    obtain ⟨w, hw, hshape⟩ := readsAs_double f
    rw [hw.reread_eq]
    rcases hshape with rfl | ⟨g, rfl⟩
    · exact ⟨hw, rfl, trivial⟩
    · exact ⟨hw, rfl, trivial⟩

end Number

namespace Json

/-- A value as its text reads back: each number as the reader reads its text. -/
def reread : Json → Json
  | .number n => n.reread
  | .array xs => .array (rereadItems xs)
  | .object fs => .object (rereadFields fs)
  | v => v
where
  rereadItems : List Json → List Json
    | [] => []
    | x :: xs => x.reread :: rereadItems xs
  rereadFields : List (String × Json) → List (String × Json)
    | [] => []
    | (k, v) :: fs => (k, v.reread) :: rereadFields fs

mutual

theorem Held.legible : ∀ {v : Json}, v.Held → v.AllNumbers Number.Legible
  | .number _, h => Number.Held.legible h
  | .array _, h => Held.legibleItems h
  | .object _, h => Held.legibleFields h
  | .null, _ | .bool _, _ | .string _, _ => trivial

theorem Held.legibleItems : ∀ {xs : List Json}, Held.heldItems xs →
    AllNumbers.allItems Number.Legible xs
  | [], _ => trivial
  | _ :: _, h => ⟨Held.legible h.1, Held.legibleItems h.2⟩

theorem Held.legibleFields : ∀ {fs : List (String × Json)}, Held.heldFields fs →
    AllNumbers.allFields Number.Legible fs
  | [], _ => trivial
  | _ :: _, h => ⟨Held.legible h.1, Held.legibleFields h.2⟩

end

mutual

theorem Held.reread_eq : ∀ {v : Json}, v.Held → v.reread = v
  | .number _, h => Number.reread_of_held h
  | .array _, h => congrArg Json.array (Held.rereadItems_eq h)
  | .object _, h => congrArg Json.object (Held.rereadFields_eq h)
  | .null, _ | .bool _, _ | .string _, _ => rfl

theorem Held.rereadItems_eq : ∀ {xs : List Json}, Held.heldItems xs → reread.rereadItems xs = xs
  | [], _ => rfl
  | _ :: _, h => congrArg₂ List.cons (Held.reread_eq h.1) (Held.rereadItems_eq h.2)

theorem Held.rereadFields_eq : ∀ {fs : List (String × Json)}, Held.heldFields fs →
    reread.rereadFields fs = fs
  | [], _ => rfl
  | (k, _) :: _, h =>
    congrArg₂ List.cons (congrArg (Prod.mk k) (Held.reread_eq h.1)) (Held.rereadFields_eq h.2)

end

theorem render_ne_nil : ∀ {v : Json}, v.AllNumbers Number.Legible → (render v).toList ≠ []
  | .null, _ | .bool true, _ | .bool false, _ => by decide
  | .number _, h => (Number.readsAs_reread h).1.text_ne_nil
  | .string s, _ => by simp [render, quote]
  | .array xs, _ => by simp [render_array]
  | .object fs, _ => by simp [render_object]

@[simp] theorem reread_string (s : String) : (Json.string s).reread = .string s := rfl

@[simp] theorem reread_bool (b : Bool) : (Json.bool b).reread = .bool b := rfl

@[simp] theorem reread_object (fs : List (String × Json)) :
    (Json.object fs).reread = .object (reread.rereadFields fs) := rfl

theorem reread_comp_string : Json.reread ∘ Json.string = Json.string := rfl

theorem allFields_iff {P : Number → Prop} :
    ∀ {fs : List (String × Json)}, AllNumbers.allFields P fs ↔ ∀ q ∈ fs, q.2.AllNumbers P
  | [] => ⟨fun _ _ h => (nomatch h), fun _ => trivial⟩
  | _ :: _ => (and_congr_right fun _ => allFields_iff).trans
      (List.forall_mem_cons (p := fun q : String × Json => q.2.AllNumbers P)).symm

theorem rereadItems_eq_map : ∀ xs : List Json, reread.rereadItems xs = xs.map reread
  | [] => rfl
  | x :: xs => congrArg (List.cons x.reread) (rereadItems_eq_map xs)

theorem rereadFields_eq_map :
    ∀ fs : List (String × Json), reread.rereadFields fs = fs.map fun q => (q.1, q.2.reread)
  | [] => rfl
  | (k, v) :: fs => congrArg (List.cons (k, v.reread)) (rereadFields_eq_map fs)

theorem reread_strings (xs : List String) : (strings xs).reread = strings xs := by
  show Json.array (reread.rereadItems (xs.map .string)) = .array (xs.map .string)
  rw [rereadItems_eq_map, List.map_map]
  rfl

theorem depth_of_isScalar {v : Json} (h : v.isScalar = true) : v.depth = 0 := by
  cases v with
  | array _ | object _ => cases h
  | _ => rfl

theorem sorted_of_isScalar {v : Json} (h : v.isScalar = true) : v.Sorted := by
  cases v with
  | array _ | object _ => cases h
  | _ => trivial

mutual

theorem depth_reread : ∀ {v : Json}, v.AllNumbers Number.Legible → v.reread.depth = v.depth
  | .number _, h => depth_of_isScalar (Number.readsAs_reread h).2.1
  | .array _, h => congrArg (· + 1) (depthItems_reread h)
  | .object _, h => congrArg (· + 1) (depthFields_reread h)
  | .null, _ | .bool _, _ | .string _, _ => rfl

theorem depthItems_reread : ∀ {xs : List Json}, AllNumbers.allItems Number.Legible xs →
    depth.depthItems (reread.rereadItems xs) = depth.depthItems xs
  | [], _ => rfl
  | _ :: _, h => congrArg₂ max (depth_reread h.1) (depthItems_reread h.2)

theorem depthFields_reread : ∀ {fs : List (String × Json)}, AllNumbers.allFields Number.Legible fs →
    depth.depthFields (reread.rereadFields fs) = depth.depthFields fs
  | [], _ => rfl
  | (_, _) :: _, h => congrArg₂ max (depth_reread h.1) (depthFields_reread h.2)

end

mutual

theorem legible_reread : ∀ {v : Json}, v.AllNumbers Number.Legible →
    v.reread.AllNumbers Number.Legible
  | .number _, h => (Number.readsAs_reread h).2.2
  | .array _, h => legibleItems_reread h
  | .object _, h => legibleFields_reread h
  | .null, _ | .bool _, _ | .string _, _ => trivial

theorem legibleItems_reread : ∀ {xs : List Json}, AllNumbers.allItems Number.Legible xs →
    AllNumbers.allItems Number.Legible (reread.rereadItems xs)
  | [], _ => trivial
  | _ :: _, h => ⟨legible_reread h.1, legibleItems_reread h.2⟩

theorem legibleFields_reread : ∀ {fs : List (String × Json)}, AllNumbers.allFields Number.Legible fs →
    AllNumbers.allFields Number.Legible (reread.rereadFields fs)
  | [], _ => trivial
  | (_, _) :: _, h => ⟨legible_reread h.1, legibleFields_reread h.2⟩

end

mutual

theorem sorted_reread : ∀ {v : Json}, v.AllNumbers Number.Legible → v.Sorted → v.reread.Sorted
  | .number _, h, _ => sorted_of_isScalar (Number.readsAs_reread h).2.1
  | .array _, h, hs => sortedItems_reread h hs
  | .object fs, h, hs => by
    refine ⟨?_, sortedFields_reread h hs.2⟩
    rw [rereadFields_eq_map]
    exact hs.1.map_values reread
  | .null, _, _ | .bool _, _, _ | .string _, _, _ => trivial

theorem sortedItems_reread : ∀ {xs : List Json}, AllNumbers.allItems Number.Legible xs →
    Sorted.sortedItems xs → Sorted.sortedItems (reread.rereadItems xs)
  | [], _, _ => trivial
  | _ :: _, h, hs => ⟨sorted_reread h.1 hs.1, sortedItems_reread h.2 hs.2⟩

theorem sortedFields_reread : ∀ {fs : List (String × Json)}, AllNumbers.allFields Number.Legible fs →
    Sorted.sortedFields fs → Sorted.sortedFields (reread.rereadFields fs)
  | [], _, _ => trivial
  | (_, _) :: _, h, hs => ⟨sorted_reread h.1 hs.1, sortedFields_reread h.2 hs.2⟩

end

end Json

namespace Doc

/-- A document read from text holds the value `v`: each container closed, each atom the
scalar itself, each field under its key, in the order written.  Offsets are not looked at. -/
def Shows : Doc → Json → Prop
  | .atom w _, v => w = v ∧ v.isScalar = true
  | .array _ items close, .array xs => close.isOk = true ∧ showsItems items xs
  | .object _ fields close, .object fs => close.isOk = true ∧ showsFields fields fs
  | _, _ => False
where
  showsItems : List Doc → List Json → Prop
    | [], [] => True
    | d :: ds, x :: xs => d.Shows x ∧ showsItems ds xs
    | _, _ => False
  showsFields : List (String × Option EntrySpan × Doc) → List (String × Json) → Prop
    | [], [] => True
    | (k, _, d) :: ds, (k', x) :: xs => k = k' ∧ d.Shows x ∧ showsFields ds xs
    | _, _ => False

theorem shows_broken {e : Fault} {v : Json} : ¬ (Doc.broken e).Shows v := by
  cases v <;> exact id

theorem Shows.not_broken {d : Doc} {v : Json} (h : d.Shows v) (e : Fault) : d ≠ .broken e := by
  rintro rfl
  exact shows_broken h

end Doc

namespace Reader

theorem readValue_head {fuel depth : Nat} {c c' : Cursor} {d : Doc}
    (h : readValue (fuel + 1) depth c = (d, c')) (hd : ∀ e, d ≠ .broken e) :
    ∃ ch r, c.skipBlank.rest = ch :: r ∧ ch ≠ ']' := by
  simp only [readValue] at h
  rcases hc : c.skipBlank.rest with _ | ⟨ch, r⟩
  · simp only [hc] at h
    exact absurd (congrArg Prod.fst h).symm (hd _)
  · refine ⟨ch, r, rfl, ?_⟩
    rintro rfl
    simp only [hc] at h
    split at h
    case h_8 =>
      rw [if_neg (by decide)] at h
      exact absurd (congrArg Prod.fst h).symm (hd _)
    -- no value starts with a closing bracket
    all_goals
      rename_i heq
      exact absurd heq (by decide)

theorem readValue_of_quote {fuel depth pos : Nat} {r : List Char} {s : String} {c' : Cursor}
    (h : readString (r.length + 2) ⟨r, pos + 1⟩ [] = (.ok s, c')) :
    readValue (fuel + 1) depth ⟨'"' :: r, pos⟩ = (.atom (.string s) (some (pos, c'.here)), c') := by
  simp only [readValue,
    Cursor.skipBlank_of_not_blank (show ¬ Cursor.IsBlank '"' by unfold Cursor.IsBlank; decide),
    Cursor.bump_cons, List.length_cons]
  rw [show pos + '"'.utf8Size = pos + 1 from rfl, h]
  rfl

theorem readValue_of_bracket {fuel depth pos : Nat} {r : List Char} {items : List Doc}
    {close : Except Fault (Option Nat)} {c' : Cursor} (hdepth : 1 < depth)
    (h : readItems fuel (depth - 1) ⟨r, pos + 1⟩ true [] = (items, close, c')) :
    readValue (fuel + 1) depth ⟨'[' :: r, pos⟩ = (.array (some pos) items close, c') := by
  simp only [readValue,
    Cursor.skipBlank_of_not_blank (show ¬ Cursor.IsBlank '[' by unfold Cursor.IsBlank; decide),
    Cursor.bump_cons]
  rw [show pos + '['.utf8Size = pos + 1 from rfl, h, if_neg (by omega)]
  rfl

theorem readValue_of_brace {fuel depth pos : Nat} {r : List Char}
    {fields : List (String × Option EntrySpan × Doc)} {close : Except Fault (Option Nat)}
    {c' : Cursor} (hdepth : 1 < depth)
    (h : readFields fuel (depth - 1) ⟨r, pos + 1⟩ true [] = (fields, close, c')) :
    readValue (fuel + 1) depth ⟨'\x7b' :: r, pos⟩ = (.object (some pos) fields close, c') := by
  simp only [readValue,
    Cursor.skipBlank_of_not_blank (show ¬ Cursor.IsBlank '\x7b' by unfold Cursor.IsBlank; decide),
    Cursor.bump_cons]
  rw [show pos + '\x7b'.utf8Size = pos + 1 from rfl, h, if_neg (by omega)]
  rfl

theorem readValue_skipBlank (fuel depth : Nat) (c : Cursor) :
    readValue (fuel + 1) depth c.skipBlank = readValue (fuel + 1) depth c := by
  simp only [readValue, Cursor.skipBlank_skipBlank]

theorem readItems_close (fuel depth pos : Nat) (rest : List Char) (first : Bool) (acc : List Doc) :
    readItems (fuel + 1) depth ⟨']' :: rest, pos⟩ first acc =
      (acc.reverse, .ok (some (pos + 1)), ⟨rest, pos + 1⟩) := by
  simp only [readItems,
    Cursor.skipBlank_of_not_blank (show ¬ Cursor.IsBlank ']' by unfold Cursor.IsBlank; decide)]
  rfl

theorem readItems_first {fuel depth pos : Nat} {text : List Char} {acc : List Doc} {d : Doc}
    {c' : Cursor} (hread : readValue (fuel + 1) depth ⟨text, pos⟩ = (d, c'))
    (hd : ∀ e, d ≠ .broken e) :
    readItems (fuel + 2) depth ⟨text, pos⟩ true acc =
      readItems (fuel + 1) depth c' false (d :: acc) := by
  obtain ⟨ch, r, hc, hch⟩ := readValue_head hread hd
  have hitem : readValue (fuel + 1) depth (Cursor.skipBlank ⟨text, pos⟩) = (d, c') := by
    rw [readValue_skipBlank]
    exact hread
  conv => lhs; unfold readItems
  simp only [hc, if_true, hitem]

/-- An item after a comma, read without fault, is kept and the items after it are read. -/
theorem readItems_next {fuel depth pos : Nat} {text : List Char} {acc : List Doc} {d : Doc}
    {c' : Cursor} (hread : readValue (fuel + 1) depth ⟨text, pos + 1⟩ = (d, c'))
    (hd : ∀ e, d ≠ .broken e) :
    readItems (fuel + 2) depth ⟨',' :: text, pos⟩ false acc =
      readItems (fuel + 1) depth c' false (d :: acc) := by
  obtain ⟨ch, r, hc, hch⟩ := readValue_head hread hd
  have hitem : readValue (fuel + 1) depth (Cursor.skipBlank ⟨text, pos + 1⟩) = (d, c') := by
    rw [readValue_skipBlank]
    exact hread
  conv => lhs; unfold readItems
  simp only [Cursor.skipBlank_of_not_blank (show ¬ Cursor.IsBlank ',' by unfold Cursor.IsBlank; decide),
    Cursor.bump_cons]
  rw [show pos + ','.utf8Size = pos + 1 from rfl]
  simp only [hc, hitem, Bool.false_eq_true, if_false]
  split
  · rename_i heq
    cases heq
  · rename_i heq
    cases heq
  · rename_i heq
    obtain ⟨rfl, rfl⟩ := List.cons.inj heq
    simp only [if_true]
    split
    · rename_i heq'
      cases heq'
    · rename_i heq'
      obtain ⟨rfl, -⟩ := List.cons.inj heq'
      exact absurd rfl hch
    · rfl

theorem readFields_close (fuel depth pos : Nat) (rest : List Char) (first : Bool)
    (acc : List (String × Option EntrySpan × Doc)) :
    readFields (fuel + 1) depth ⟨'\x7d' :: rest, pos⟩ first acc =
      (acc.reverse, .ok (some (pos + 1)), ⟨rest, pos + 1⟩) := by
  simp only [readFields,
    Cursor.skipBlank_of_not_blank (show ¬ Cursor.IsBlank '\x7d' by unfold Cursor.IsBlank; decide)]
  rfl

theorem readFields_first {fuel depth pos kpos : Nat} {r text : List Char} {key : String}
    {acc : List (String × Option EntrySpan × Doc)} {d : Doc} {c' : Cursor}
    (hkey : readString (r.length + 2) ⟨r, pos + 1⟩ [] = (.ok key, ⟨':' :: text, kpos⟩))
    (hread : readValue (fuel + 1) depth ⟨text, kpos + 1⟩ = (d, c'))
    (hd : ∀ e, d ≠ .broken e) :
    readFields (fuel + 2) depth ⟨'"' :: r, pos⟩ true acc =
      readFields (fuel + 1) depth c' false ((key, some ⟨kpos, kpos, c'.skipBlank.here⟩, d) :: acc) := by
  conv => lhs; unfold readFields
  simp only [Cursor.skipBlank_of_not_blank (show ¬ Cursor.IsBlank '"' by unfold Cursor.IsBlank; decide),
    Cursor.bump_cons, List.length_cons]
  rw [show pos + '"'.utf8Size = pos + 1 from rfl, hkey]
  simp only [Cursor.skipBlank_of_not_blank (show ¬ Cursor.IsBlank ':' by unfold Cursor.IsBlank; decide),
    Cursor.bump_cons, show kpos + ':'.utf8Size = kpos + 1 from rfl, hread, if_true]
  split
  case h_4 => rfl
  -- a key starts with a quote, not with what ends or separates fields
  all_goals
    rename_i heq
    cases heq

theorem readFields_next {fuel depth pos kpos : Nat} {r text : List Char} {key : String}
    {acc : List (String × Option EntrySpan × Doc)} {d : Doc} {c' : Cursor}
    (hkey : readString (r.length + 2) ⟨r, pos + 2⟩ [] = (.ok key, ⟨':' :: text, kpos⟩))
    (hread : readValue (fuel + 1) depth ⟨text, kpos + 1⟩ = (d, c'))
    (hd : ∀ e, d ≠ .broken e) :
    readFields (fuel + 2) depth ⟨',' :: '"' :: r, pos⟩ false acc =
      readFields (fuel + 1) depth c' false ((key, some ⟨kpos, kpos, c'.skipBlank.here⟩, d) :: acc) := by
  conv => lhs; unfold readFields
  simp only [Cursor.skipBlank_of_not_blank (show ¬ Cursor.IsBlank ',' by unfold Cursor.IsBlank; decide),
    Cursor.skipBlank_of_not_blank (show ¬ Cursor.IsBlank '"' by unfold Cursor.IsBlank; decide),
    Cursor.bump_cons, List.length_cons, Bool.false_eq_true, if_false]
  rw [show pos + ','.utf8Size + '"'.utf8Size = pos + 2 from rfl, hkey]
  simp only [Cursor.skipBlank_of_not_blank (show ¬ Cursor.IsBlank ':' by unfold Cursor.IsBlank; decide),
    Cursor.bump_cons, show kpos + ':'.utf8Size = kpos + 1 from rfl, hread]
  split
  case h_3 => rfl
  -- after the comma comes a key, not the end of the object or of the text
  all_goals
    rename_i heq
    cases heq


/-- Reading the text of a value whose numbers are legible, followed by text that closes it,
with `fuel` steps gives a document of the value as it reads back. -/
def RereadsValues (fuel : Nat) : Prop :=
  ∀ (v : Json) (depth pos : Nat) (rest : List Char), v.AllNumbers Number.Legible →
    (Json.render v).toList.length ≤ fuel → v.depth < depth → Json.Closes rest →
    ∃ d pos', readValue fuel depth ⟨(Json.render v).toList ++ rest, pos⟩ = (d, ⟨rest, pos'⟩) ∧
      d.Shows v.reread

/-- Reading the text of an array's items and its closing bracket with `fuel` steps gives
documents of the items as they read back. -/
def RereadsItems (fuel : Nat) : Prop :=
  ∀ (first : Bool) (xs : List Json) (depth pos : Nat) (rest : List Char) (acc : List Doc),
    Json.AllNumbers.allItems Number.Legible xs → (Json.itemsText first xs).length + 1 ≤ fuel →
    Json.depth.depthItems xs < depth →
    ∃ ds close pos', readItems fuel depth ⟨Json.itemsText first xs ++ ']' :: rest, pos⟩ first acc =
      (acc.reverse ++ ds, .ok close, ⟨rest, pos'⟩) ∧
        Doc.Shows.showsItems ds (Json.reread.rereadItems xs)

/-- Reading the text of an object's fields and its closing brace with `fuel` steps gives
documents of the fields as they read back. -/
def RereadsFields (fuel : Nat) : Prop :=
  ∀ (first : Bool) (fs : List (String × Json)) (depth pos : Nat) (rest : List Char)
    (acc : List (String × Option EntrySpan × Doc)),
    Json.AllNumbers.allFields Number.Legible fs → (Json.fieldsText first fs).length + 1 ≤ fuel →
    Json.depth.depthFields fs < depth →
    ∃ ds close pos',
      readFields fuel depth ⟨Json.fieldsText first fs ++ '\x7d' :: rest, pos⟩ first acc =
        (acc.reverse ++ ds, .ok close, ⟨rest, pos'⟩) ∧
          Doc.Shows.showsFields ds (Json.reread.rereadFields fs)

theorem rereadsValues_succ {fuel : Nat} (hitems : RereadsItems fuel) (hfields : RereadsFields fuel) :
    RereadsValues (fuel + 1) := by
  intro v depth pos rest hv hlen hdepth hrest
  match v, hv with
  | .null, _ =>
    obtain ⟨pos', hid⟩ := readIdent_self ['u', 'l', 'l'] rest (pos + 1)
    exact ⟨_, _, readValue_of_literal (.inl rfl) hid, rfl, rfl⟩
  | .bool true, _ =>
    obtain ⟨pos', hid⟩ := readIdent_self ['r', 'u', 'e'] rest (pos + 1)
    exact ⟨_, _, readValue_of_literal (.inr (.inl rfl)) hid, rfl, rfl⟩
  | .bool false, _ =>
    obtain ⟨pos', hid⟩ := readIdent_self ['a', 'l', 's', 'e'] rest (pos + 1)
    exact ⟨_, _, readValue_of_literal (.inr (.inr rfl)) hid, rfl, rfl⟩
  | .number n, hn =>
    obtain ⟨hreads, hscalar, -⟩ := Number.readsAs_reread hn
    obtain ⟨span, pos', hread⟩ := hreads fuel depth pos rest hrest
    exact ⟨_, _, hread, rfl, hscalar⟩
  | .string s, _ =>
    have htext : (Json.render (.string s)).toList ++ rest =
        '"' :: (s.toList.flatMap Json.escapeChar ++ '"' :: rest) := by
      simp [Json.render, Json.quote]
    have hlt : s.toList.length < (s.toList.flatMap Json.escapeChar ++ '"' :: rest).length + 2 := by
      have := Json.length_le_flatMap_escapeChar s.toList
      simp only [List.length_append, List.length_cons]
      omega
    obtain ⟨pos', hstr⟩ := readString_escaped s.toList [] rest (pos + 1) hlt
    rw [List.reverse_nil, List.nil_append, String.ofList_toList] at hstr
    rw [htext]
    exact ⟨_, _, readValue_of_quote hstr, rfl, rfl⟩
  | .array xs, hxs =>
    have hinner : Json.depth.depthItems xs < depth - 1 := by
      simp only [Json.depth] at hdepth
      omega
    have hfuel : (Json.itemsText true xs).length + 1 ≤ fuel := by
      rw [Json.render_array] at hlen
      simp only [List.length_cons, List.length_append] at hlen
      omega
    obtain ⟨ds, close, pos', hread, hshows⟩ :=
      hitems true xs (depth - 1) (pos + 1) rest [] hxs hfuel hinner
    simp only [Json.render_array, List.cons_append, List.append_assoc]
    refine ⟨_, _, readValue_of_bracket (by omega) hread, rfl, ?_⟩
    simpa using hshows
  | .object fs, hfs =>
    have hinner : Json.depth.depthFields fs < depth - 1 := by
      simp only [Json.depth] at hdepth
      omega
    have hfuel : (Json.fieldsText true fs).length + 1 ≤ fuel := by
      rw [Json.render_object] at hlen
      simp only [List.length_cons, List.length_append] at hlen
      omega
    obtain ⟨ds, close, pos', hread, hshows⟩ :=
      hfields true fs (depth - 1) (pos + 1) rest [] hfs hfuel hinner
    simp only [Json.render_object, List.cons_append, List.append_assoc]
    refine ⟨_, _, readValue_of_brace (by omega) hread, rfl, ?_⟩
    simpa using hshows

theorem exists_succ_of_shows {fuel depth : Nat} {c c' : Cursor} {d : Doc} {v : Json}
    (hread : readValue fuel depth c = (d, c')) (hshows : d.Shows v) : ∃ f, fuel = f + 1 := by
  cases fuel with
  | zero =>
    cases hread
    exact absurd hshows id
  | succ f => exact ⟨f, rfl⟩

theorem rereadsItems_succ {fuel : Nat} (hvalues : RereadsValues fuel) (hitems : RereadsItems fuel) :
    RereadsItems (fuel + 1) := by
  intro first xs depth pos rest acc hheld hlen hdepth
  match xs, hheld with
  | [], _ =>
    refine ⟨[], some (pos + 1), pos + 1, ?_, trivial⟩
    rw [List.append_nil]
    exact readItems_close fuel depth pos rest first acc
  | x :: xs, ⟨hx, hxs⟩ =>
    have hdx : x.depth < depth := by
      simp only [Json.depth.depthItems] at hdepth
      omega
    have hdxs : Json.depth.depthItems xs < depth := by
      simp only [Json.depth.depthItems] at hdepth
      omega
    have hnonempty := List.length_pos_iff.2 (Json.render_ne_nil hx)
    have hsplit : (Json.itemsText first (x :: xs)).length =
        (if first then 0 else 1) + (Json.render x).toList.length + (Json.itemsText false xs).length := by
      cases first
      · simp [Json.itemsText]
        omega
      · simp [Json.itemsText]
    rw [hsplit] at hlen
    have hlenx : (Json.render x).toList.length ≤ fuel := by
      split at hlen <;> omega
    -- the item is read from just after its comma, if it has one
    obtain ⟨d, pos₁, hread, hshows⟩ := hvalues x depth (if first then pos else pos + 1)
      (Json.itemsText false xs ++ ']' :: rest) hx hlenx hdx (Json.closes_itemsText xs rest)
    obtain ⟨f, rfl⟩ := exists_succ_of_shows hread hshows
    obtain ⟨ds, close, pos', hrest, hshowsRest⟩ := hitems false xs depth pos₁ rest (d :: acc) hxs
      (by split at hlen <;> omega) hdxs
    refine ⟨d :: ds, close, pos', ?_, hshows, hshowsRest⟩
    have hstep : readItems (f + 2) depth ⟨Json.itemsText first (x :: xs) ++ ']' :: rest, pos⟩ first acc =
        readItems (f + 1) depth ⟨Json.itemsText false xs ++ ']' :: rest, pos₁⟩ false (d :: acc) := by
      cases first
      · exact readItems_next (by simpa using hread) (hshows.not_broken)
      · exact readItems_first (by simpa [Json.itemsText] using hread) (hshows.not_broken)
    rw [hstep, hrest]
    simp

theorem rereadsFields_succ {fuel : Nat} (hvalues : RereadsValues fuel) (hfields : RereadsFields fuel) :
    RereadsFields (fuel + 1) := by
  intro first fs depth pos rest acc hheld hlen hdepth
  match fs, hheld with
  | [], _ =>
    refine ⟨[], some (pos + 1), pos + 1, ?_, trivial⟩
    rw [List.append_nil]
    exact readFields_close fuel depth pos rest first acc
  | (k, v) :: fs, ⟨hv, hfs⟩ =>
    have hdv : v.depth < depth := by
      simp only [Json.depth.depthFields] at hdepth
      omega
    have hdfs : Json.depth.depthFields fs < depth := by
      simp only [Json.depth.depthFields] at hdepth
      omega
    have hnonempty := List.length_pos_iff.2 (Json.render_ne_nil hv)
    have hkey := Json.length_le_flatMap_escapeChar k.toList
    let tail := Json.fieldsText false fs ++ '\x7d' :: rest
    let afterKey := ':' :: ((Json.render v).toList ++ tail)
    have htext : Json.fieldsText first ((k, v) :: fs) ++ '\x7d' :: rest =
        (if first then [] else [',']) ++ '"' :: (k.toList.flatMap Json.escapeChar ++ '"' :: afterKey) := by
      cases first <;> simp [Json.fieldsText, Json.quote, afterKey, tail]
    have hsplit : (Json.fieldsText first ((k, v) :: fs)).length =
        (if first then 0 else 1) + (k.toList.flatMap Json.escapeChar).length + 3 +
          (Json.render v).toList.length + (Json.fieldsText false fs).length := by
      cases first <;> simp [Json.fieldsText, Json.quote] <;> omega
    rw [hsplit] at hlen
    -- the key is read from just after its quote, past the comma if there is one
    obtain ⟨kpos, hstr⟩ := @readString_escaped k.toList
      ((k.toList.flatMap Json.escapeChar ++ '"' :: afterKey).length + 2) [] afterKey
      (if first then pos + 1 else pos + 2) (by simp only [List.length_append, List.length_cons]; omega)
    rw [List.reverse_nil, List.nil_append, String.ofList_toList] at hstr
    obtain ⟨d, pos₁, hread, hshows⟩ := hvalues v depth (kpos + 1) tail hv
      (by split at hlen <;> omega) hdv (Json.closes_fieldsText fs rest)
    obtain ⟨f, rfl⟩ := exists_succ_of_shows hread hshows
    let span : Option EntrySpan := some ⟨kpos, kpos, (Cursor.skipBlank ⟨tail, pos₁⟩).here⟩
    obtain ⟨ds, close, pos', hrest, hshowsRest⟩ := hfields false fs depth pos₁ rest
      ((k, span, d) :: acc) hfs (by split at hlen <;> omega) hdfs
    refine ⟨(k, span, d) :: ds, close, pos', ?_, ⟨rfl, hshows, hshowsRest⟩⟩
    have hstep : readFields (f + 2) depth ⟨Json.fieldsText first ((k, v) :: fs) ++ '\x7d' :: rest, pos⟩
        first acc = readFields (f + 1) depth ⟨tail, pos₁⟩ false ((k, span, d) :: acc) := by
      rw [htext]
      cases first
      · exact readFields_next hstr hread hshows.not_broken
      · exact readFields_first hstr hread hshows.not_broken
    rw [hstep, hrest]
    simp

theorem rereads_written : ∀ fuel, RereadsValues fuel ∧ RereadsItems fuel ∧ RereadsFields fuel
  | 0 => by
    refine ⟨fun v _ _ _ hv hlen => ?_, fun _ _ _ _ _ _ _ hlen => ?_, fun _ _ _ _ _ _ _ hlen => ?_⟩
    · have := List.length_pos_iff.2 (Json.render_ne_nil hv)
      omega
    · omega
    · omega
  | fuel + 1 =>
    have ⟨hvalues, hitems, hfields⟩ := rereads_written fuel
    ⟨rereadsValues_succ hitems hfields, rereadsItems_succ hvalues hitems,
      rereadsFields_succ hvalues hfields⟩

end Reader

theorem ReadText.of_render_reread {v : Json} (hv : v.AllNumbers Number.Legible)
    (hdepth : v.depth < 128) :
    (ReadText.of v.render).doc.Shows v.reread ∧ (ReadText.of v.render).trailing = none := by
  have hlen : (Json.render v).toList.length ≤ (Json.render v).toList.length + 2 := by omega
  obtain ⟨d, pos', hread, hshows⟩ := (Reader.rereads_written _).1 v 128 0 [] hv hlen hdepth
    (fun _ _ h => nomatch h)
  rw [List.append_nil] at hread
  simp only [ReadText.of, hread]
  exact ⟨hshows, rfl⟩

theorem ReadText.of_render {v : Json} (hv : v.Held) (hdepth : v.depth < 128) :
    (ReadText.of v.render).doc.Shows v ∧ (ReadText.of v.render).trailing = none := by
  have h := ReadText.of_render_reread (Json.Held.legible hv) hdepth
  rwa [Json.Held.reread_eq hv] at h


namespace Doc

mutual

/-- A document of a value whose objects are sorted gives the value back. -/
theorem toJson_of_shows : ∀ (d : Doc) {v : Json}, d.Shows v → v.Sorted → d.toJson = .ok v
  | .atom w _, v, h, _ => by
    obtain ⟨rfl, -⟩ := h
    rfl
  | .broken _, _, h, _ => absurd h shows_broken
  | .array _ items close, v, h, hs => by
    cases v with
    | array xs =>
      obtain ⟨hclose, hitems⟩ := h
      obtain ⟨i, rfl⟩ : ∃ i, close = .ok i := by
        cases close with
        | ok i => exact ⟨i, rfl⟩
        | error _ => cases hclose
      rw [toJson, goItems_of_shows items hitems hs]
      rfl
    | _ => exact h.elim
  | .object _ fields close, v, h, hs => by
    cases v with
    | object fs =>
      obtain ⟨hclose, hfields⟩ := h
      obtain ⟨hasc, hsorted⟩ := hs
      obtain ⟨i, rfl⟩ : ∃ i, close = .ok i := by
        cases close with
        | ok i => exact ⟨i, rfl⟩
        | error _ => cases hclose
      rw [toJson, goFields_of_shows fields hfields hsorted]
      show Except.ok (Json.object (Json.Fields.ofList fs)) = _
      rw [Json.Fields.ofList_eq, SortedMap.ofList_of_ascending hasc]
    | _ => exact h.elim

theorem goItems_of_shows : ∀ (ds : List Doc) {xs : List Json}, Shows.showsItems ds xs →
    Json.Sorted.sortedItems xs → toJson.goItems ds = .ok xs
  | [], [], _, _ => rfl
  | d :: ds, x :: xs, ⟨hd, hds⟩, ⟨hx, hxs⟩ => by
    rw [toJson.goItems, toJson_of_shows d hd hx, goItems_of_shows ds hds hxs]
    rfl

theorem goFields_of_shows : ∀ (ds : List (String × Option EntrySpan × Doc))
    {fs : List (String × Json)}, Shows.showsFields ds fs →
    Json.Sorted.sortedFields fs → toJson.goFields ds = .ok fs
  | [], [], _, _ => rfl
  | (k, _, d) :: ds, (k', v) :: fs, ⟨hk, hd, hds⟩, ⟨hv, hfs⟩ => by
    subst hk
    rw [toJson.goFields, toJson_of_shows d hd hv, goFields_of_shows ds hds hfs]
    rfl

end

end Doc

/-- A value whose numbers are held, whose objects are sorted and that nests fewer than 128
containers reads back from its text. -/
theorem Json.parse_render {v : Json} (hv : v.Held) (hs : v.Sorted) (hdepth : v.depth < 128) :
    Json.parse v.render = .ok v := by
  obtain ⟨hshows, htrailing⟩ := ReadText.of_render hv hdepth
  simp only [Json.parse, Doc.toJson_of_shows _ hshows hs, htrailing]

end ContainerCpi
