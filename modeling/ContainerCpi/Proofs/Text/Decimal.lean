import ContainerCpi.Text.Basic

/-!
# Unsigned decimal numerals

An unsigned decimal numeral is an optional `+` followed by one or more decimal digits, leading
zeros allowed, as the standard integer readers accept it.  Its value is the number whose
decimal digits the numeral ends with: the numeral is some zeros and then `Nat.toDigits 10 n`
(`UnsignedDecimal`), so the printed form of every number reads back as that number.

Release versions, API versions and prefix lengths are all read this way and then bounded:
each reader takes the digits after an optional `+` (`numeralDigits`), refuses them unless
they are all decimal and not empty, and folds them into a number (`numeralValue`).
`readDigits_eq_some_iff` says once which digits such a reader accepts, whatever it makes of
their value (signed readers use it too), and `readBounded_eq_some_iff` says for all the
unsigned ones which texts they accept.
-/

namespace ContainerCpi.Text

/-- The digits of a numeral: the text after one optional leading `+`. -/
def numeralDigits (s : String) : List Char :=
  match s.toList with
  | '+' :: ds => ds
  | ds => ds

/-- The value of decimal digits, most significant first. -/
def numeralValue (ds : List Char) : Nat := ds.foldl (fun acc c => acc * 10 + (c.toNat - 48)) 0

/-- `s` is an unsigned decimal numeral of value `n`: an optional `+`, some zeros, and the
decimal digits of `n`. -/
def UnsignedDecimal (s : String) (n : Nat) : Prop :=
  ∃ k, s.toList = List.replicate k '0' ++ Nat.toDigits 10 n ∨
    s.toList = '+' :: (List.replicate k '0' ++ Nat.toDigits 10 n)

/-! ## Digits and their value -/

theorem toNat_of_isDigit {c : Char} (h : c.isDigit = true) : 48 ≤ c.toNat ∧ c.toNat ≤ 57 := by
  simp only [Char.isDigit, Bool.and_eq_true, decide_eq_true_eq] at h
  exact ⟨h.1, h.2⟩

theorem digitChar_of_isDigit {c : Char} (h : c.isDigit = true) : Nat.digitChar (c.toNat - 48) = c := by
  have hc := toNat_of_isDigit h
  apply Char.toNat_inj.mp
  rw [Nat.toNat_digitChar_of_lt_ten (by omega)]
  omega

theorem foldl_eq_ofDigitChars (ds : List Char) (init : Nat) :
    ds.foldl (fun acc c => acc * 10 + (c.toNat - 48)) init = Nat.ofDigitChars 10 ds init := by
  induction ds generalizing init with
  | nil => rfl
  | cons c rest ih => rw [List.foldl_cons, ih, Nat.ofDigitChars_cons, Nat.mul_comm]; rfl

theorem numeralValue_eq_ofDigitChars (ds : List Char) : numeralValue ds = Nat.ofDigitChars 10 ds 0 :=
  foldl_eq_ofDigitChars ds 0

theorem toDigits_append_of_digits {ds : List Char} (hds : ∀ c ∈ ds, c.isDigit = true) :
    ∀ acc, 0 < acc → Nat.toDigits 10 acc ++ ds = Nat.toDigits 10 (Nat.ofDigitChars 10 ds acc) := by
  induction ds with
  | nil => intro acc _; simp
  | cons c rest ih =>
    intro acc hacc
    have hc := hds c List.mem_cons_self
    have hd : c.toNat - 48 < 10 := by have := toNat_of_isDigit hc; omega
    -- one more digit: the number grows to `10 * acc + d`
    have hstep := Nat.toDigits_append_toDigits (b := 10) (by decide) hacc hd
    rw [Nat.toDigits_of_lt_base hd, digitChar_of_isDigit hc] at hstep
    rw [Nat.ofDigitChars_cons, show '0'.toNat = 48 from rfl,
      ← ih (fun x hx => hds x (List.mem_cons_of_mem c hx)) _ (by omega), ← hstep]
    simp

/-- Non-empty decimal digits are some zeros and then the digits of their value. -/
theorem eq_replicate_toDigits {ds : List Char} (hne : ds ≠ []) (hds : ∀ c ∈ ds, c.isDigit = true) :
    ∃ k, ds = List.replicate k '0' ++ Nat.toDigits 10 (numeralValue ds) := by
  rw [numeralValue_eq_ofDigitChars]
  induction ds with
  | nil => exact absurd rfl hne
  | cons c rest ih =>
    have hc := hds c List.mem_cons_self
    have hrest : ∀ x ∈ rest, x.isDigit = true := fun x hx => hds x (List.mem_cons_of_mem c hx)
    by_cases hzero : c = '0'
    · -- a leading zero adds nothing to the value
      subst hzero
      rw [Nat.ofDigitChars_cons, Nat.sub_self, Nat.mul_zero, Nat.zero_add]
      by_cases hnil : rest = []
      · exact ⟨0, by simp [hnil]⟩
      · obtain ⟨k, hk⟩ := ih hnil hrest
        exact ⟨k + 1, by rw [List.replicate_succ, List.cons_append, ← hk]⟩
    · -- a leading digit other than zero starts the digits of the value
      have hpos : 0 < c.toNat - 48 := by
        have := toNat_of_isDigit hc
        have hne48 : c.toNat ≠ 48 := fun h => hzero (Char.toNat_inj.mp h)
        omega
      have hd : c.toNat - 48 < 10 := by have := toNat_of_isDigit hc; omega
      refine ⟨0, ?_⟩
      have hall := toDigits_append_of_digits hrest _ hpos
      rw [Nat.toDigits_of_lt_base hd, digitChar_of_isDigit hc] at hall
      rw [Nat.ofDigitChars_cons, show '0'.toNat = 48 from rfl, Nat.mul_zero, Nat.zero_add]
      simpa using hall

theorem numeralValue_replicate_toDigits (k n : Nat) :
    numeralValue (List.replicate k '0' ++ Nat.toDigits 10 n) = n := by
  rw [numeralValue_eq_ofDigitChars, Nat.ofDigitChars_append, Nat.ofDigitChars_replicate_zero,
    Nat.mul_zero, Nat.ofDigitChars_ten_toDigits]

theorem isDigit_of_mem_replicate_toDigits {k n : Nat} {c : Char}
    (h : c ∈ List.replicate k '0' ++ Nat.toDigits 10 n) : c.isDigit = true := by
  rcases List.mem_append.1 h with h | h
  · rw [List.eq_of_mem_replicate h]
    decide
  · exact Nat.isDigit_of_mem_toDigits (by decide) (by decide) h

theorem UnsignedDecimal.isDigit_or_plus {s : String} {n : Nat} (h : UnsignedDecimal s n) {c : Char}
    (hc : c ∈ s.toList) : c.isDigit = true ∨ c = '+' := by
  obtain ⟨k, hk | hk⟩ := h
  · rw [hk] at hc
    exact .inl (isDigit_of_mem_replicate_toDigits hc)
  · rw [hk] at hc
    rcases List.mem_cons.1 hc with rfl | hc
    · exact .inr rfl
    · exact .inl (isDigit_of_mem_replicate_toDigits hc)

/-! ## The readers -/

theorem numeralDigits_of_not_plus {s : String} {ds : List Char} (h : s.toList = ds)
    (hplus : ds.head? ≠ some '+') : numeralDigits s = ds := by
  unfold numeralDigits
  rw [h]
  split
  · simp at hplus
  · rfl

theorem numeralDigits_of_plus {s : String} {ds : List Char} (h : s.toList = '+' :: ds) :
    numeralDigits s = ds := by
  unfold numeralDigits
  rw [h]
  rfl

theorem unsignedDecimal_iff_digits {s : String} {n : Nat} :
    UnsignedDecimal s n ↔ ∃ k, numeralDigits s = List.replicate k '0' ++ Nat.toDigits 10 n := by
  constructor
  · rintro ⟨k, h | h⟩
    · refine ⟨k, numeralDigits_of_not_plus h ?_⟩
      -- the text starts with a digit, not with `+`
      intro hhead
      have hmem : '+' ∈ List.replicate k '0' ++ Nat.toDigits 10 n := List.mem_of_mem_head? hhead
      exact absurd (isDigit_of_mem_replicate_toDigits hmem) (by decide)
    · exact ⟨k, numeralDigits_of_plus h⟩
  · rintro ⟨k, hk⟩
    by_cases hplus : s.toList.head? = some '+'
    · -- the text is `+` and then the digits
      obtain ⟨ds, hds⟩ : ∃ ds, s.toList = '+' :: ds := by
        cases hs : s.toList with
        | nil => simp [hs] at hplus
        | cons c ds => simp only [hs, List.head?_cons, Option.some.injEq] at hplus; exact ⟨ds, hplus ▸ rfl⟩
      rw [numeralDigits_of_plus hds] at hk
      exact ⟨k, .inr (hk ▸ hds)⟩
    · rw [numeralDigits_of_not_plus rfl hplus] at hk
      exact ⟨k, .inl hk⟩

/-- Decimal digits of `n`: some zeros, then the digits of `n`. -/
def DigitsOf (ds : List Char) (n : Nat) : Prop :=
  ∃ k, ds = List.replicate k '0' ++ Nat.toDigits 10 n

theorem digitsOf_head {ds : List Char} {n : Nat} (h : DigitsOf ds n) {c : Char}
    (hc : ds.head? = some c) : c.isDigit = true := by
  obtain ⟨k, rfl⟩ := h
  exact isDigit_of_mem_replicate_toDigits (List.mem_of_mem_head? hc)

theorem digitsOf_iff {ds : List Char} {n : Nat} :
    DigitsOf ds n ↔ (ds.isEmpty || !ds.all Char.isDigit) = false ∧ numeralValue ds = n := by
  constructor
  · rintro ⟨k, rfl⟩
    refine ⟨?_, numeralValue_replicate_toDigits k n⟩
    simp only [Bool.or_eq_false_iff, List.isEmpty_eq_false_iff, ne_eq, List.append_eq_nil_iff,
      Nat.toDigits_ne_nil, and_false, not_false_eq_true, Bool.not_eq_false', List.all_eq_true,
      true_and]
    exact fun c hc => isDigit_of_mem_replicate_toDigits hc
  · rintro ⟨hdigits, rfl⟩
    simp only [Bool.or_eq_false_iff, List.isEmpty_eq_false_iff, Bool.not_eq_false',
      List.all_eq_true] at hdigits
    exact eq_replicate_toDigits hdigits.1 hdigits.2

theorem readDigits_eq_some_iff {α : Type} (ds : List Char) (f : Nat → α) (ok : α → Prop)
    [DecidablePred ok] (v : α) :
    (if (ds.isEmpty || !ds.all Char.isDigit) = true then none
      else if ok (f (numeralValue ds)) then some (f (numeralValue ds)) else none) = some v ↔
      (∃ n, DigitsOf ds n ∧ v = f n) ∧ ok v := by
  by_cases hdigits : (ds.isEmpty || !ds.all Char.isDigit) = true
  · rw [if_pos hdigits]
    -- digits of a number are never refused
    refine iff_of_false (fun h => by cases h) fun ⟨⟨n, hn, _⟩, _⟩ => ?_
    rw [(digitsOf_iff.1 hn).1] at hdigits
    cases hdigits
  · rw [if_neg hdigits, Bool.not_eq_true] at *
    have hread : ∀ n, DigitsOf ds n ↔ numeralValue ds = n := fun n =>
      digitsOf_iff.trans (and_iff_right hdigits)
    simp only [hread, exists_eq_left']
    by_cases hok : ok (f (numeralValue ds))
    · rw [if_pos hok, Option.some.injEq]
      exact ⟨fun h => ⟨h.symm, h ▸ hok⟩, fun h => h.1.symm⟩
    · rw [if_neg hok]
      exact iff_of_false (fun h => by cases h) fun h => hok (h.1 ▸ h.2)

theorem readBounded_eq_some_iff {s : String} {n : Nat} {bound : Nat → Prop} [DecidablePred bound] :
    (if (numeralDigits s).isEmpty || !(numeralDigits s).all Char.isDigit then none
      else if bound (numeralValue (numeralDigits s)) then some (numeralValue (numeralDigits s))
      else none) = some n ↔ UnsignedDecimal s n ∧ bound n := by
  rw [unsignedDecimal_iff_digits]
  refine (readDigits_eq_some_iff (numeralDigits s) id bound n).trans ?_
  constructor
  · rintro ⟨⟨m, hm, rfl⟩, hbound⟩
    exact ⟨hm, hbound⟩
  · rintro ⟨hn, hbound⟩
    exact ⟨⟨n, hn, rfl⟩, hbound⟩

theorem unsignedDecimal_toString (n : Nat) : UnsignedDecimal (toString n) n :=
  ⟨0, .inl (by rw [Nat.toString_eq_ofList_toDigits, String.toList_ofList]; rfl)⟩

end ContainerCpi.Text
