import ContainerCpi.Json.Decode

/-!
# Reading written scalars

The reader reads back what the printer writes, piece by piece: a word (`null`, `true`,
`false`) letter by letter, a string through the escape of each of its characters
(`Reader.readString_escaped`), and an integer of 64 bits through its decimal digits
(`Reader.readNumber_toDigits`), so long as what follows the value could follow it in written
text (`Json.Closes`).

A double is read with floating-point arithmetic, which the logic leaves opaque; a double
whose text reads back as itself is *held* (`Number.Held`), and so is every integer of 64 bits
(`Number.readsBack_of_held`).
-/

namespace ContainerCpi

namespace Cursor

/-- The four blanks the reader passes over. -/
def IsBlank (c : Char) : Prop := c = ' ' ∨ c = '\t' ∨ c = '\n' ∨ c = '\r'

@[simp] theorem bump_cons (ch : Char) (r : List Char) (pos : Nat) :
    bump ⟨ch :: r, pos⟩ = ⟨r, pos + ch.utf8Size⟩ := rfl

theorem skipBlank_of_not_blank {ch : Char} (h : ¬ IsBlank ch) (r : List Char) (pos : Nat) :
    skipBlank ⟨ch :: r, pos⟩ = ⟨ch :: r, pos⟩ := by
  simp only [skipBlank, skipBlankFrom]
  exact if_neg h

theorem skipBlankFrom_skipBlank : ∀ (rest : List Char) (pos : Nat),
    skipBlank (skipBlankFrom rest pos) = skipBlankFrom rest pos
  | [], _ => rfl
  | c :: r, pos => by
    by_cases hc : IsBlank c
    · have hblank : c = ' ' ∨ c = '\t' ∨ c = '\n' ∨ c = '\r' := hc
      rw [skipBlankFrom, if_pos hblank]
      exact skipBlankFrom_skipBlank r (pos + 1)
    · have hblank : ¬ (c = ' ' ∨ c = '\t' ∨ c = '\n' ∨ c = '\r') := hc
      rw [skipBlankFrom, if_neg hblank]
      exact skipBlank_of_not_blank hc r pos

@[simp] theorem skipBlank_skipBlank (c : Cursor) : c.skipBlank.skipBlank = c.skipBlank :=
  skipBlankFrom_skipBlank c.rest c.pos

end Cursor

namespace Reader

open Cursor

theorem readIdent_self : ∀ (xs rest : List Char) (pos : Nat),
    ∃ pos', readIdent xs ⟨xs ++ rest, pos⟩ = (none, ⟨rest, pos'⟩)
  | [], rest, pos => ⟨pos, rfl⟩
  | x :: xs, rest, pos => by
    obtain ⟨pos', h⟩ := readIdent_self xs rest (pos + x.utf8Size)
    exact ⟨pos', by simp [readIdent, h]⟩

theorem hexValue_hexDigit : ∀ k < 16, hexValue (Json.hexDigit k) = some k := by
  decide

theorem readUnicodeEscape_small {n : Nat} (hn : n < 256) (more : List Char) (pos : Nat) :
    ∃ pos', readUnicodeEscape
        ⟨'0' :: '0' :: Json.hexDigit (n / 16) :: Json.hexDigit (n % 16) :: more, pos⟩ =
      (.ok (Char.ofNat n), ⟨more, pos'⟩) := by
  have hhi := hexValue_hexDigit (n / 16) (by omega)
  have hlo := hexValue_hexDigit (n % 16) (by omega)
  have hval : ((0 * 16 + 0) * 16 + n / 16) * 16 + n % 16 = n := by omega
  have hzero : hexValue '0' = some 0 := rfl
  exact ⟨_, by
    simp only [readUnicodeEscape, readHex4, hhi, hlo, hzero, hval]
    rw [if_neg (by omega), if_pos (by omega)]⟩

/-- Reading one written character of a string gives the character. -/
theorem readString_escapeChar (ch : Char) (fuel : Nat) (more acc : List Char) (pos : Nat) :
    ∃ pos', readString (fuel + 1) ⟨Json.escapeChar ch ++ more, pos⟩ acc =
      readString fuel ⟨more, pos'⟩ (ch :: acc) := by
  unfold Json.escapeChar
  by_cases hq : ch = '"'
  · subst hq
    exact ⟨_, by simp [readString]; rfl⟩
  by_cases hb : ch = '\\'
  · subst hb
    exact ⟨_, by simp [readString]; rfl⟩
  rw [if_neg hq, if_neg hb]
  by_cases hc : ch.toNat < 32
  · rw [if_pos hc]
    have hch : Char.ofNat ch.toNat = ch := Char.ofNat_toNat ch
    -- the five characters with a short escape, then the rest as `\u00xx`
    split
    case h_6 =>
      obtain ⟨pos', hu⟩ := readUnicodeEscape_small (show ch.toNat < 256 by omega) more
        (pos + '\\'.utf8Size + 'u'.utf8Size)
      exact ⟨pos', by simp [readString, hu, hch]⟩
    all_goals
      rename_i heq
      obtain rfl : ch = Char.ofNat _ := by rw [← hch, heq]
      exact ⟨_, by simp [readString]; rfl⟩
  · rw [if_neg hc]
    exact ⟨_, by simp [readString, hq, hb, hc]; rfl⟩

theorem readString_escaped : ∀ (cs : List Char) {fuel : Nat} (acc rest : List Char) (pos : Nat),
    cs.length < fuel →
    ∃ pos', readString fuel ⟨cs.flatMap Json.escapeChar ++ '"' :: rest, pos⟩ acc =
      (.ok (String.ofList (acc.reverse ++ cs)), ⟨rest, pos'⟩)
  | [], fuel, acc, rest, pos, hfuel => by
    obtain ⟨fuel, rfl⟩ : ∃ f, fuel = f + 1 := ⟨fuel - 1, by simp at hfuel; omega⟩
    exact ⟨_, by simp [readString]; rfl⟩
  | ch :: cs, fuel, acc, rest, pos, hfuel => by
    obtain ⟨fuel, rfl⟩ : ∃ f, fuel = f + 1 := ⟨fuel - 1, by simp at hfuel; omega⟩
    obtain ⟨pos₁, hstep⟩ :=
      readString_escapeChar ch fuel (cs.flatMap Json.escapeChar ++ '"' :: rest) acc pos
    obtain ⟨pos₂, hrest⟩ := readString_escaped cs (ch :: acc) rest pos₁ (by simp at hfuel; omega)
    refine ⟨pos₂, ?_⟩
    rw [List.flatMap_cons, List.append_assoc, hstep, hrest]
    simp

theorem overflows_eq_false {s d limit : Nat} (hd : d < 10) (h : s * 10 + d ≤ limit) :
    overflows s d limit = false := by
  unfold overflows
  simp only [Bool.and_eq_false_iff, Bool.or_eq_false_iff, decide_eq_false_iff_not]
  omega

theorem toNat_of_isDigit {c : Char} (h : c.isDigit = true) : 48 ≤ c.toNat ∧ c.toNat ≤ 57 := by
  simp only [Char.isDigit, Bool.and_eq_true, decide_eq_true_eq] at h
  exact ⟨h.1, h.2⟩

theorem readNumber_go_digits : ∀ (ds rest : List Char) (count s : Nat),
    (∀ c ∈ ds, c.isDigit = true) → Nat.ofDigitChars 10 ds s ≤ maxU64 →
    (∀ c r, rest = c :: r → c.isDigit = false) →
    readNumber.go (ds ++ rest) count s = (count + ds.length, Nat.ofDigitChars 10 ds s, false)
  | [], rest, count, s, _, _, hrest => by
    cases rest with
    | nil => rfl
    | cons c r => simp [readNumber.go, hrest c r rfl]
  | c :: ds, rest, count, s, hd, hv, hrest => by
    have hc := toNat_of_isDigit (hd c List.mem_cons_self)
    have hzero : '0'.toNat = 48 := rfl
    rw [Nat.ofDigitChars_cons, hzero] at hv ⊢
    -- the value so far is at most the whole value
    have hstep : s * 10 + (c.toNat - 48) ≤ maxU64 := by
      rw [Nat.ofDigitChars_eq_ofDigitChars_zero] at hv
      have hpow : 1 ≤ 10 ^ ds.length := Nat.one_le_pow _ _ (by omega)
      have := Nat.le_mul_of_pos_left (10 * s + (c.toNat - 48)) hpow
      omega
    rw [List.cons_append, readNumber.go, if_pos (hd c List.mem_cons_self),
      if_neg (by rw [overflows_eq_false (by omega) hstep]; simp),
      readNumber_go_digits ds rest (count + 1) _ (fun c' hc' => hd c' (List.mem_cons_of_mem _ hc'))
        (by rw [Nat.mul_comm]; exact hv) hrest]
    simp only [List.length_cons, Nat.mul_comm, Nat.add_assoc, Nat.add_comm 1]

theorem toDigits_head_ne_zero (n : Nat) (hn : 0 < n) :
    ∃ d ds, Nat.toDigits 10 n = d :: ds ∧ d ≠ '0' := by
  rw [Nat.toDigits_eq_if (by decide)]
  split
  · exact ⟨_, [], rfl, by simpa using Nat.pos_iff_ne_zero.1 hn⟩
  · -- the leading digits are those of the number without its last digit
    obtain ⟨d, ds, h, hd⟩ := toDigits_head_ne_zero (n / 10) (by omega)
    exact ⟨d, ds ++ _, by rw [h]; rfl, hd⟩
termination_by n
decreasing_by omega

/-- What may follow a number's integer digits when nothing more of it is written. -/
def EndsInteger (rest : List Char) : Prop :=
  ∀ c r, rest = c :: r → c.isDigit = false ∧ c ≠ '.' ∧ c ≠ 'e' ∧ c ≠ 'E'

theorem readAfterInteger_of_ends {rest : List Char} (hrest : EndsInteger rest) (positive : Bool)
    (s pos : Nat) :
    readAfterInteger ⟨rest, pos⟩ positive s = (.ok (readAfterInteger.integer positive s), ⟨rest, pos⟩) := by
  unfold readAfterInteger
  cases rest with
  | nil => rfl
  | cons c r =>
    obtain ⟨-, hdot, he, hE⟩ := hrest c r rfl
    split
    · rename_i hcons
      cases hcons
      exact absurd rfl hdot
    · rename_i ch r' _ hcons
      cases hcons
      rw [if_neg (by simp [he, hE])]
    · rename_i hcons
      cases hcons

/-- The digits of a number that fits in 64 bits read as that number. -/
theorem readNumber_toDigits {n : Nat} (hn : n ≤ maxU64) (positive : Bool) {rest : List Char}
    (hrest : EndsInteger rest) (pos : Nat) :
    ∃ pos', readNumber ⟨Nat.toDigits 10 n ++ rest, pos⟩ positive =
      (.ok (readAfterInteger.integer positive n), ⟨rest, pos'⟩) := by
  rcases Nat.eq_zero_or_pos n with rfl | hpos
  · -- a lone zero
    refine ⟨pos + '0'.utf8Size, ?_⟩
    rw [Nat.toDigits_zero]
    cases rest with
    | nil => exact readAfterInteger_of_ends hrest positive 0 _
    | cons c r =>
      simp only [readNumber, List.cons_append, List.nil_append, Cursor.bump_cons, if_true]
      rw [if_neg (by simp [(hrest c r rfl).1])]
      exact readAfterInteger_of_ends hrest positive 0 _
  · obtain ⟨d, ds, hdigits, hd⟩ := toDigits_head_ne_zero n hpos
    have hall : ∀ c ∈ d :: ds, c.isDigit = true :=
      fun c hc => Nat.isDigit_of_mem_toDigits (by decide) (by decide) (hdigits ▸ hc)
    have hvalue : Nat.ofDigitChars 10 ds (d.toNat - 48) = n := by
      have := Nat.ofDigitChars_ten_toDigits (n := n)
      rw [hdigits, Nat.ofDigitChars_cons] at this
      simpa using this
    have hgo := readNumber_go_digits ds rest 0 (d.toNat - 48)
      (fun c hc => hall c (List.mem_cons_of_mem _ hc)) (by rw [hvalue]; exact hn)
      (fun c r h => (hrest c r h).1)
    refine ⟨pos + d.utf8Size + ds.length, ?_⟩
    rw [hdigits]
    simp only [readNumber, List.cons_append, Cursor.bump_cons, if_neg hd,
      if_pos (hall d List.mem_cons_self), hgo, hvalue, Bool.false_eq_true, if_false,
      List.drop_left', Nat.zero_add]
    exact readAfterInteger_of_ends hrest positive n _

theorem readValue_of_digit {ch : Char} (hd : ch.isDigit = true) {fuel depth pos : Nat}
    {r : List Char} {n : Number} {c' : Cursor} (hread : readNumber ⟨ch :: r, pos⟩ true = (.ok n, c')) :
    readValue (fuel + 1) depth ⟨ch :: r, pos⟩ = (.atom (.number n) (some (pos, c'.here)), c') := by
  have hblank : ¬ Cursor.IsBlank ch := by
    rintro (rfl | rfl | rfl | rfl) <;> simp at hd
  simp only [readValue, Cursor.skipBlank_of_not_blank hblank]
  split
  case h_8 =>
    rw [if_pos hd, hread]
    rfl
  -- no other start is a digit
  all_goals simp at hd

theorem readValue_of_minus {fuel depth pos : Nat} {r : List Char} {n : Number} {c' : Cursor}
    (hread : readNumber ⟨r, pos + 1⟩ false = (.ok n, c')) :
    readValue (fuel + 1) depth ⟨'-' :: r, pos⟩ = (.atom (.number n) (some (pos, c'.here)), c') := by
  simp only [readValue,
    Cursor.skipBlank_of_not_blank (show ¬ Cursor.IsBlank '-' by unfold Cursor.IsBlank; decide)]
  simp only [Cursor.bump_cons]
  rw [show pos + '-'.utf8Size = pos + 1 from rfl, hread]
  rfl

theorem readValue_of_literal {ch : Char} {letters : List Char} {v : Json}
    (hlit : (ch, letters, v) = ('n', ['u', 'l', 'l'], .null) ∨
      (ch, letters, v) = ('t', ['r', 'u', 'e'], .bool true) ∨
      (ch, letters, v) = ('f', ['a', 'l', 's', 'e'], .bool false))
    {fuel depth pos : Nat} {r : List Char} {c' : Cursor}
    (h : readIdent letters ⟨r, pos + 1⟩ = (none, c')) :
    readValue (fuel + 1) depth ⟨ch :: r, pos⟩ = (.atom v (some (pos, c'.here)), c') := by
  have hblank : ¬ Cursor.IsBlank ch := by
    rcases hlit with hlit | hlit | hlit <;> cases hlit <;> (unfold Cursor.IsBlank; decide)
  simp only [readValue, Cursor.skipBlank_of_not_blank hblank, Cursor.bump_cons]
  rcases hlit with hlit | hlit | hlit <;> cases hlit <;>
  · rw [show pos + Char.utf8Size _ = pos + 1 from rfl, h]
    rfl

end Reader

namespace Json

/-- What may follow a value in written text: nothing, a comma or a closing bracket. -/
def Closes (rest : List Char) : Prop := ∀ c r, rest = c :: r → c = ',' ∨ c = ']' ∨ c = '\x7d'

theorem Closes.endsInteger {rest : List Char} (h : Closes rest) : Reader.EndsInteger rest := by
  intro c r hr
  rcases h c r hr with rfl | rfl | rfl <;> decide

theorem escapeChar_ne_nil (c : Char) : escapeChar c ≠ [] := by
  unfold escapeChar
  repeat' split
  all_goals simp

theorem length_le_flatMap_escapeChar : ∀ cs : List Char, cs.length ≤ (cs.flatMap escapeChar).length
  | [] => Nat.le_refl _
  | c :: cs => by
    have hc := List.length_pos_iff.2 (escapeChar_ne_nil c)
    have hcs := length_le_flatMap_escapeChar cs
    simp only [List.flatMap_cons, List.length_append, List.length_cons]
    omega

end Json

namespace Number

/-- The number's text, before anything that may follow a value, reads back as the number. -/
def ReadsBack (n : Number) : Prop :=
  ∀ (fuel depth pos : Nat) (rest : List Char), Json.Closes rest →
    ∃ span pos', Reader.readValue (fuel + 1) depth ⟨(Json.numberText n).toList ++ rest, pos⟩ =
      (.atom (.number n) span, ⟨rest, pos'⟩)

/-- The number's text, before anything that may follow a value, reads as the scalar `v`:
the number itself when it reads back, and for a double possibly a neighbouring double, or
`null` for one that is not finite. -/
def ReadsAs (n : Number) (v : Json) : Prop :=
  ∀ (fuel depth pos : Nat) (rest : List Char), Json.Closes rest →
    ∃ span pos', Reader.readValue (fuel + 1) depth ⟨(Json.numberText n).toList ++ rest, pos⟩ =
      (.atom v span, ⟨rest, pos'⟩)

/-- A number as documents hold it: an integer of 64 bits, or a double whose text reads back
as itself.  Reading a double computes with floating point, which the logic leaves opaque, so
that a double's text reads back is taken as given. -/
def Held : Number → Prop
  | .unsigned n => n ≤ Reader.maxU64
  | .negative n => n < 0 ∧ n.natAbs ≤ Nat.pow 2 63
  | .double f => ReadsBack (.double f)

/-- The text of a number held reads back as the number. -/
theorem readsBack_of_held : ∀ {n : Number}, n.Held → n.ReadsBack
  | .unsigned n, hn => by
    intro fuel depth pos rest hrest
    obtain ⟨pos', hread⟩ := Reader.readNumber_toDigits hn true hrest.endsInteger pos
    obtain ⟨d, ds, hdigits⟩ := List.exists_cons_of_ne_nil (@Nat.toDigits_ne_nil n 10)
    have hd : d.isDigit = true :=
      Nat.isDigit_of_mem_toDigits (by decide) (by decide) (hdigits ▸ List.mem_cons_self)
    have htext : (Json.numberText (.unsigned n)).toList = Nat.toDigits 10 n := Nat.toList_repr
    rw [hdigits, List.cons_append] at hread
    rw [htext, hdigits, List.cons_append]
    exact ⟨_, _, Reader.readValue_of_digit hd hread⟩
  | .negative n, ⟨hneg, hbound⟩ => by
    intro fuel depth pos rest hrest
    obtain ⟨m, rfl⟩ : ∃ m, n = Int.negSucc m := ⟨n.natAbs - 1, by omega⟩
    have hpow : Nat.pow 2 63 = 9223372036854775808 := rfl
    have hm : m + 1 ≤ Reader.maxU64 := by
      have : Reader.maxU64 = 18446744073709551615 := by decide
      simp only [Int.natAbs_negSucc] at hbound
      omega
    obtain ⟨pos', hread⟩ := Reader.readNumber_toDigits hm false hrest.endsInteger (pos + 1)
    have hvalue : Reader.readAfterInteger.integer false (m + 1) = .negative (Int.negSucc m) := by
      simp only [Reader.readAfterInteger.integer, Bool.false_eq_true, if_false]
      rw [if_neg (by omega), if_pos (by simpa using hbound)]
      rfl
    have htext : (Json.numberText (.negative (Int.negSucc m))).toList =
        '-' :: Nat.toDigits 10 (m + 1) := by
      show (Int.repr (Int.negSucc m)).toList = _
      simp [Int.repr, String.toList_append, Nat.toList_repr]
    rw [hvalue] at hread
    rw [htext, List.cons_append]
    exact ⟨_, _, Reader.readValue_of_minus hread⟩
  | .double _, h => h

theorem ReadsAs.text_ne_nil {n : Number} {v : Json} (h : n.ReadsAs v) :
    (Json.numberText n).toList ≠ [] := by
  intro hnil
  obtain ⟨span, pos', hread⟩ := h 0 0 0 [] (fun _ _ h => nomatch h)
  rw [hnil] at hread
  -- the empty text holds no value
  cases hread

end Number

end ContainerCpi
