import Mathlib.Data.Nat.Digits.Defs
import ContainerCpi.Proofs.Json.Scalars
import ContainerCpi.Proofs.Decimal.Shortest
import ContainerCpi.Proofs.Text.Decimal

/-!
# Reading written doubles

The printer writes a finite double as its shortest digits `d · 10^k` in one of four layouts
(`123.0`, `1.25`, `0.00125`, `1.25e-7`), and every other double as `null`.  The reader takes
a number apart into an integer part in the form JSON allows (`Json.IntDigits`), an optional
fraction and an optional exponent, gathers the digits into one significand and one power of
ten, and only then computes a double (`Reader.scale`).  So the text of each layout reads as
an exact decimal (`Reader.ReadsDecimal`), and the double computed from it is refused only
when the product overflows, which the digits of a double never make it do
(`Decimal.Binary.productOverflows_shortest`).

Main statement: the text of every double reads as a double or as `null`
(`Number.readsAs_double`).  Which double comes back is left to floating-point arithmetic,
which the logic does not open.
-/

namespace ContainerCpi

namespace Reader

open Cursor

/-! ## Digits, fraction and exponent -/

/-- Decimal digits end here: the text ends, or goes on with a character that is no digit. -/
def EndsDigits (rest : List Char) : Prop := ∀ c r, rest = c :: r → c.isDigit = false

theorem EndsInteger.endsDigits {rest : List Char} (h : EndsInteger rest) : EndsDigits rest :=
  fun c r hr => (h c r hr).1

theorem endsDigits_cons {c : Char} (r : List Char) (hc : c.isDigit = false) :
    EndsDigits (c :: r) := by
  intro c' r' h
  cases h
  exact hc

theorem skipDigitsFrom_digits : ∀ (ds : List Char) {rest : List Char} (p : Nat),
    (∀ c ∈ ds, c.isDigit = true) → EndsDigits rest →
    Cursor.skipDigitsFrom (ds ++ rest) p = ⟨rest, p + ds.length⟩
  | [], rest, p, _, hrest => by
    cases rest with
    | nil => rfl
    | cons c r => simp [Cursor.skipDigitsFrom, hrest c r rfl]
  | c :: ds, rest, p, hds, hrest => by
    rw [List.cons_append, Cursor.skipDigitsFrom, if_pos (hds c List.mem_cons_self),
      skipDigitsFrom_digits ds (p + 1) (fun x hx => hds x (List.mem_cons_of_mem c hx)) hrest]
    simp only [List.length_cons, Nat.add_assoc, Nat.add_comm 1]

theorem le_ofDigitChars (ds : List Char) (s : Nat) : s ≤ Nat.ofDigitChars 10 ds s := by
  rw [Nat.ofDigitChars_eq_ofDigitChars_zero]
  have := Nat.le_mul_of_pos_left s (Nat.pow_pos (by decide : 0 < 10) : 0 < 10 ^ ds.length)
  omega

theorem ofDigitChars_lt : ∀ (ds : List Char) (s : Nat), (∀ c ∈ ds, c.isDigit = true) →
    Nat.ofDigitChars 10 ds s < (s + 1) * 10 ^ ds.length
  | [], s, _ => by simp
  | c :: ds, s, hds => by
    have hc := toNat_of_isDigit (hds c List.mem_cons_self)
    have ih := ofDigitChars_lt ds (10 * s + (c.toNat - 48)) (fun x hx => hds x (List.mem_cons_of_mem c hx))
    rw [Nat.ofDigitChars_cons, show '0'.toNat = 48 from rfl, List.length_cons]
    calc Nat.ofDigitChars 10 ds (10 * s + (c.toNat - 48))
        < (10 * s + (c.toNat - 48) + 1) * 10 ^ ds.length := ih
      _ ≤ (10 * (s + 1)) * 10 ^ ds.length := Nat.mul_le_mul_right _ (by omega)
      _ = (s + 1) * 10 ^ (ds.length + 1) := by ring

theorem readFraction_go_digits : ∀ (ds : List Char) {rest : List Char} (count s : Nat) (e : Int),
    (∀ c ∈ ds, c.isDigit = true) → Nat.ofDigitChars 10 ds s ≤ maxU64 → EndsDigits rest →
    readFraction.go (ds ++ rest) count s e false =
      (count + ds.length, Nat.ofDigitChars 10 ds s, e - ds.length, false)
  | [], rest, count, s, e, _, _, hrest => by
    cases rest with
    | nil => simp [readFraction.go]
    | cons c r => simp [readFraction.go, hrest c r rfl]
  | c :: ds, rest, count, s, e, hds, hv, hrest => by
    have hc := toNat_of_isDigit (hds c List.mem_cons_self)
    rw [Nat.ofDigitChars_cons, show '0'.toNat = 48 from rfl] at hv ⊢
    -- the significand so far is at most the whole
    have hstep : s * 10 + (c.toNat - 48) ≤ maxU64 := by
      have := le_ofDigitChars ds (10 * s + (c.toNat - 48))
      omega
    rw [List.cons_append, readFraction.go, if_pos (hds c List.mem_cons_self),
      if_neg (by rw [overflows_eq_false (by omega) hstep]; simp),
      readFraction_go_digits ds (count + 1) _ (e - 1) (fun x hx => hds x (List.mem_cons_of_mem c hx))
        (by rw [Nat.mul_comm]; exact hv) hrest]
    simp only [List.length_cons, Nat.mul_comm, Prod.mk.injEq, and_true, true_and]
    exact ⟨by omega, by push_cast; omega⟩

theorem dot_utf8Size : '.'.utf8Size = 1 := rfl

theorem readFraction_of_closes {ds rest : List Char} (hne : ds ≠ [])
    (hds : ∀ c ∈ ds, c.isDigit = true) {s : Nat} (hv : Nat.ofDigitChars 10 ds s ≤ maxU64)
    (hrest : Json.Closes rest) (positive : Bool) (start : Int) (pos : Nat) :
    readFraction ⟨'.' :: (ds ++ rest), pos⟩ positive s start =
      (scale ⟨rest, pos + 1 + ds.length⟩ positive (Nat.ofDigitChars 10 ds s) (start - ds.length),
        ⟨rest, pos + 1 + ds.length⟩) := by
  have hgo := readFraction_go_digits ds 0 s start hds hv hrest.endsInteger.endsDigits
  have hlen : ds.length ≠ 0 := fun h => hne (List.length_eq_zero_iff.1 h)
  simp only [readFraction, Cursor.bump_cons, dot_utf8Size, hgo, Nat.zero_add, List.drop_left,
    if_neg hlen]
  -- a closing character is no exponent letter
  cases rest with
  | nil => rfl
  | cons c r => rcases hrest c r rfl with rfl | rfl | rfl <;> rfl

theorem readFraction_of_exponent {ds : List Char} (hne : ds ≠ [])
    (hds : ∀ c ∈ ds, c.isDigit = true) {s : Nat} (hv : Nat.ofDigitChars 10 ds s ≤ maxU64)
    (r : List Char) (positive : Bool) (start : Int) (pos : Nat) :
    readFraction ⟨'.' :: (ds ++ 'e' :: r), pos⟩ positive s start =
      readExponent ⟨'e' :: r, pos + 1 + ds.length⟩ positive (Nat.ofDigitChars 10 ds s)
        (start - ds.length) := by
  have hgo := readFraction_go_digits ds 0 s start hds hv (endsDigits_cons r (by decide : 'e'.isDigit = false))
  have hlen : ds.length ≠ 0 := fun h => hne (List.length_eq_zero_iff.1 h)
  simp only [readFraction, Cursor.bump_cons, dot_utf8Size, hgo, Nat.zero_add, List.drop_left,
    if_neg hlen]
  rfl

theorem exponentSign_digit {d : Char} (hd : d.isDigit = true) (t : List Char) (pos : Nat) :
    exponentSign ⟨d :: t, pos⟩ = (true, ⟨d :: t, pos⟩) := by
  unfold exponentSign
  split
  -- a digit is no sign
  · rename_i heq
    cases heq
    exact absurd hd (by decide)
  · rename_i heq
    cases heq
    exact absurd hd (by decide)
  · rfl

theorem exponentSign_minus (t : List Char) (pos : Nat) :
    exponentSign ⟨'-' :: t, pos⟩ = (false, ⟨t, pos + 1⟩) := rfl

theorem readExponent_digits (negativeExp : Bool) {d : Char} {ds rest : List Char}
    (hds : ∀ c ∈ d :: ds, c.isDigit = true) (hrest : EndsDigits rest)
    (hsmall : Nat.ofDigitChars 10 (d :: ds) 0 ≤ 2147483647) (positive : Bool) (s : Nat)
    (start : Int) (pos : Nat) :
    ∃ pos', readExponent ⟨'e' :: ((if negativeExp then ['-'] else []) ++ d :: (ds ++ rest)), pos⟩
        positive s start =
      (scale ⟨rest, pos'⟩ positive s (if negativeExp then start - Nat.ofDigitChars 10 (d :: ds) 0
        else start + Nat.ofDigitChars 10 (d :: ds) 0), ⟨rest, pos'⟩) := by
  have hd := hds d List.mem_cons_self
  -- after the sign, the cursor is on the first digit
  obtain ⟨positiveExp, p, hsign, hpos⟩ : ∃ positiveExp p,
      exponentSign ⟨(if negativeExp then ['-'] else []) ++ d :: (ds ++ rest), pos + 'e'.utf8Size⟩ =
        (positiveExp, ⟨d :: (ds ++ rest), p⟩) ∧ positiveExp = !negativeExp := by
    cases negativeExp
    · exact ⟨true, _, exponentSign_digit hd _ _, rfl⟩
    · exact ⟨false, _, exponentSign_minus _ _, rfl⟩
  have hskip := skipDigitsFrom_digits ds (p + d.utf8Size) (fun x hx => hds x (List.mem_cons_of_mem d hx)) hrest
  refine ⟨p + d.utf8Size + ds.length, ?_⟩
  simp only [readExponent, hsign, Cursor.bump_cons, hd, Bool.not_true, Bool.false_eq_true, if_false,
    Cursor.skipDigits, hskip, Nat.add_sub_cancel_left, List.take_left,
    Text.foldl_eq_ofDigitChars]
  rw [if_neg (Nat.not_lt.2 hsmall), hpos]
  cases negativeExp <;> rfl

/-- The text of an integer that fits in 32 bits, after the exponent letter, is read as that
exponent. -/
theorem readExponent_toString (x : Int) (hx : x.natAbs ≤ 2147483647) {rest : List Char}
    (hrest : EndsDigits rest) (positive : Bool) (s : Nat) (start : Int) (pos : Nat) :
    ∃ pos', readExponent ⟨'e' :: ((toString x).toList ++ rest), pos⟩ positive s start =
      (scale ⟨rest, pos'⟩ positive s (start + x), ⟨rest, pos'⟩) := by
  -- the text is an optional minus sign and the digits of the magnitude
  obtain ⟨d, ds, hdigits⟩ := List.exists_cons_of_ne_nil (@Nat.toDigits_ne_nil x.natAbs 10)
  have hall : ∀ c ∈ d :: ds, c.isDigit = true :=
    fun c hc => Nat.isDigit_of_mem_toDigits (by decide) (by decide) (hdigits ▸ hc)
  have hvalue : Nat.ofDigitChars 10 (d :: ds) 0 = x.natAbs := by
    rw [← hdigits]
    exact Nat.ofDigitChars_ten_toDigits
  rcases x with n | m
  · have htext : (toString (Int.ofNat n)).toList = d :: ds := by
      rw [← hdigits]
      show (Int.repr (Int.ofNat n)).toList = _
      simp [Int.repr, Nat.toList_repr]
    obtain ⟨pos', h⟩ := readExponent_digits false hall hrest (hvalue ▸ hx) positive s start pos
    refine ⟨pos', ?_⟩
    rw [htext, List.cons_append]
    simpa only [hvalue, Bool.false_eq_true, if_false, List.nil_append, Int.ofNat_eq_natCast,
      Int.natAbs_natCast] using h
  · have htext : (toString (Int.negSucc m)).toList = '-' :: d :: ds := by
      rw [← hdigits]
      show (Int.repr (Int.negSucc m)).toList = _
      simp [Int.repr, String.toList_append, Nat.toList_repr]
    obtain ⟨pos', h⟩ := readExponent_digits true hall hrest (hvalue ▸ hx) positive s start pos
    refine ⟨pos', ?_⟩
    rw [htext, List.cons_append, List.cons_append]
    simp only [hvalue, if_true, List.singleton_append] at h
    rw [h, Int.natAbs_negSucc, Int.negSucc_eq, Nat.succ_eq_add_one, Int.natCast_add, Nat.cast_one,
      ← sub_eq_add_neg]

/-! ## Numbers -/

/-- The integer part of a number as JSON writes it: a lone zero, or digits that do not start
with one. -/
def IntegerPart (ip : List Char) : Prop :=
  ip = ['0'] ∨ ∃ c cs, ip = c :: cs ∧ c ≠ '0' ∧ ∀ x ∈ ip, x.isDigit = true

theorem IntegerPart.isDigit {ip : List Char} (h : IntegerPart ip) : ∀ x ∈ ip, x.isDigit = true := by
  rcases h with rfl | ⟨c, cs, rfl, -, hds⟩
  · intro x hx
    rw [List.mem_singleton.1 hx]
    rfl
  · exact hds

/-- The integer part of a number, followed by anything but a digit, is read as its value
while it fits in 64 bits; what follows it is read next. -/
theorem readNumber_integer {ip rest : List Char} (hip : IntegerPart ip)
    (hv : Nat.ofDigitChars 10 ip 0 ≤ maxU64) (hrest : EndsDigits rest) (positive : Bool)
    (pos : Nat) :
    ∃ pos', readNumber ⟨ip ++ rest, pos⟩ positive =
      readAfterInteger ⟨rest, pos'⟩ positive (Nat.ofDigitChars 10 ip 0) := by
  rcases hip with rfl | ⟨c, cs, rfl, hc0, hds⟩
  · -- a lone zero
    refine ⟨pos + '0'.utf8Size, ?_⟩
    cases rest with
    | nil => rfl
    | cons c r =>
      simp only [readNumber, List.cons_append, List.nil_append, Cursor.bump_cons, if_true]
      rw [if_neg (by simp [hrest c r rfl])]
      rfl
  · have hc := hds c List.mem_cons_self
    have hvalue : Nat.ofDigitChars 10 (c :: cs) 0 = Nat.ofDigitChars 10 cs (c.toNat - 48) := by
      rw [Nat.ofDigitChars_cons, Nat.mul_zero, Nat.zero_add]
      rfl
    rw [hvalue] at hv ⊢
    have hgo := readNumber_go_digits cs rest 0 (c.toNat - 48)
      (fun x hx => hds x (List.mem_cons_of_mem c hx)) hv hrest
    refine ⟨pos + c.utf8Size + cs.length, ?_⟩
    simp only [readNumber, List.cons_append, Cursor.bump_cons, if_neg hc0, if_pos hc, hgo,
      Bool.false_eq_true, if_false, List.drop_left, Nat.zero_add]

theorem readAfterInteger_point (r : List Char) (positive : Bool) (s pos : Nat) :
    readAfterInteger ⟨'.' :: r, pos⟩ positive s =
      ((readFraction ⟨'.' :: r, pos⟩ positive s 0).1.map .double,
        (readFraction ⟨'.' :: r, pos⟩ positive s 0).2) := rfl

theorem readAfterInteger_exponent (r : List Char) (positive : Bool) (s pos : Nat) :
    readAfterInteger ⟨'e' :: r, pos⟩ positive s =
      ((readExponent ⟨'e' :: r, pos⟩ positive s 0).1.map .double,
        (readExponent ⟨'e' :: r, pos⟩ positive s 0).2) := rfl

/-- The text reads as the decimal `v · 10^e`: before anything that may follow a value, the
reader stops where the text ends, with the double that `scale` makes of `v` and `e`. -/
def ReadsDecimal (text : List Char) (v : Nat) (e : Int) : Prop :=
  ∀ (positive : Bool) (pos : Nat) (rest : List Char), Json.Closes rest → ∃ pos',
    readNumber ⟨text ++ rest, pos⟩ positive =
      ((scale ⟨rest, pos'⟩ positive v e).map .double, ⟨rest, pos'⟩)

theorem readsDecimal_point {ip fp : List Char} (hip : IntegerPart ip) (hne : fp ≠ [])
    (hfp : ∀ c ∈ fp, c.isDigit = true) (hv : Nat.ofDigitChars 10 (ip ++ fp) 0 ≤ maxU64) :
    ReadsDecimal (ip ++ '.' :: fp) (Nat.ofDigitChars 10 (ip ++ fp) 0) (-fp.length) := by
  intro positive pos rest hrest
  rw [Nat.ofDigitChars_append] at hv ⊢
  obtain ⟨p, hint⟩ := readNumber_integer hip ((le_ofDigitChars fp _).trans hv)
    (endsDigits_cons (fp ++ rest) (by decide : '.'.isDigit = false)) positive pos
  refine ⟨p + 1 + fp.length, ?_⟩
  rw [List.append_assoc, List.cons_append, hint, readAfterInteger_point,
    readFraction_of_closes hne hfp hv hrest, Int.zero_sub]

theorem readsDecimal_point_exponent {ip fp : List Char} (hip : IntegerPart ip) (hne : fp ≠ [])
    (hfp : ∀ c ∈ fp, c.isDigit = true) (hv : Nat.ofDigitChars 10 (ip ++ fp) 0 ≤ maxU64)
    (x : Int) (hx : x.natAbs ≤ 2147483647) :
    ReadsDecimal (ip ++ '.' :: (fp ++ 'e' :: (toString x).toList))
      (Nat.ofDigitChars 10 (ip ++ fp) 0) (x - fp.length) := by
  intro positive pos rest hrest
  rw [Nat.ofDigitChars_append] at hv ⊢
  obtain ⟨p, hint⟩ := readNumber_integer hip ((le_ofDigitChars fp _).trans hv)
    (endsDigits_cons _ (by decide : '.'.isDigit = false)) positive pos
  obtain ⟨pos', hexp⟩ := readExponent_toString x hx hrest.endsInteger.endsDigits positive
    (Nat.ofDigitChars 10 fp (Nat.ofDigitChars 10 ip 0)) (0 - fp.length) (p + 1 + fp.length)
  refine ⟨pos', ?_⟩
  simp only [List.append_assoc, List.cons_append]
  rw [hint, readAfterInteger_point, readFraction_of_exponent hne hfp hv, hexp,
    show (0 : Int) - fp.length + x = x - fp.length by omega]

theorem readsDecimal_exponent {ip : List Char} (hip : IntegerPart ip)
    (hv : Nat.ofDigitChars 10 ip 0 ≤ maxU64) (x : Int) (hx : x.natAbs ≤ 2147483647) :
    ReadsDecimal (ip ++ 'e' :: (toString x).toList) (Nat.ofDigitChars 10 ip 0) x := by
  intro positive pos rest hrest
  obtain ⟨p, hint⟩ := readNumber_integer hip hv
    (endsDigits_cons _ (by decide : 'e'.isDigit = false)) positive pos
  obtain ⟨pos', hexp⟩ := readExponent_toString x hx hrest.endsInteger.endsDigits positive
    (Nat.ofDigitChars 10 ip 0) 0 p
  refine ⟨pos', ?_⟩
  rw [List.append_assoc, List.cons_append, hint, readAfterInteger_exponent, hexp, Int.zero_add]

theorem isDigit_of_readNumber {ch : Char} {r : List Char} {pos : Nat} {positive : Bool}
    {n : Number} {c' : Cursor} (h : readNumber ⟨ch :: r, pos⟩ positive = (.ok n, c')) :
    ch.isDigit = true := by
  by_cases h0 : ch = '0'
  · rw [h0]
    rfl
  · by_contra hd
    simp only [readNumber, Cursor.bump_cons, if_neg h0, if_neg hd] at h
    cases h

theorem readValue_of_readNumber {fuel depth pos : Nat} {t : List Char} {n : Number} {c' : Cursor}
    (hread : readNumber ⟨t, pos⟩ true = (.ok n, c')) :
    readValue (fuel + 1) depth ⟨t, pos⟩ = (.atom (.number n) (some (pos, c'.here)), c') := by
  cases t with
  | nil => cases hread
  | cons ch r => exact readValue_of_digit (isDigit_of_readNumber hread) hread

/-! ## The double computed -/

theorem scale_ok_of_neg {e : Int} (h : e < 0) (positive : Bool) (s : Nat) :
    ∃ g, ∀ c, scale c positive s e = .ok g := by
  -- the cursor only places errors, and no branch for a negative exponent has one
  have hcursor : ∀ c c' : Cursor, scale c positive s e = scale c' positive s e := by
    intro c c'
    simp only [scale, if_neg (show ¬ e ≥ 0 by omega)]
  obtain ⟨g, hg⟩ : ∃ g, scale ⟨[], 0⟩ positive s e = .ok g := by
    simp only [scale, if_neg (show ¬ e ≥ 0 by omega)]
    split_ifs <;> exact ⟨_, rfl⟩
  exact ⟨g, fun c => (hcursor c _).trans hg⟩

theorem scale_ok_of_fits {e : Int} (h0 : 0 ≤ e) (h308 : e ≤ 308) (positive : Bool) {s : Nat}
    (hp : Decimal.productOverflows s (Decimal.pow10 e.toNat) = false) :
    ∃ g, ∀ c, scale c positive s e = .ok g :=
  ⟨_, fun c => by
    simp only [scale, if_pos (show e ≥ 0 from h0), if_pos h308, hp, Bool.false_eq_true, if_false]
    rfl⟩

/-! ## The four layouts -/

theorem integerPart_toDigits_append {d : Nat} (hd : 0 < d) (z : Nat) :
    IntegerPart (Nat.toDigits 10 d ++ List.replicate z '0') := by
  obtain ⟨c, cs, hdigits, hc0⟩ := toDigits_head_ne_zero d hd
  refine .inr ⟨c, cs ++ List.replicate z '0', by rw [hdigits, List.cons_append], hc0, ?_⟩
  intro x hx
  rcases List.mem_append.1 hx with hx | hx
  · exact Nat.isDigit_of_mem_toDigits (by decide) (by decide) hx
  · rw [List.eq_of_mem_replicate hx]
    rfl

theorem readsDecimal_whole {d z : Nat} (hd : 0 < d) (hsize : 10 * (10 ^ z * d) ≤ maxU64) :
    ReadsDecimal (Nat.toDigits 10 d ++ List.replicate z '0' ++ ['.', '0']) (10 * (10 ^ z * d)) (-1) := by
  have hvalue : Nat.ofDigitChars 10 (Nat.toDigits 10 d ++ List.replicate z '0' ++ ['0']) 0 =
      10 * (10 ^ z * d) := by
    rw [Nat.ofDigitChars_append, Nat.ofDigitChars_append, Nat.ofDigitChars_replicate_zero,
      Nat.ofDigitChars_ten_toDigits, Nat.ofDigitChars_cons, Nat.ofDigitChars_nil, Nat.sub_self,
      Nat.add_zero]
  have h := readsDecimal_point (integerPart_toDigits_append hd z) (List.cons_ne_nil '0' [])
    (fun c hc => by rw [List.mem_singleton.1 hc]; rfl) (hvalue ▸ hsize)
  rw [hvalue] at h
  exact h

theorem readsDecimal_split {d m : Nat} (hd : 0 < d) (hsize : d ≤ maxU64) (hm : 0 < m)
    (hmn : m < (Nat.toDigits 10 d).length) :
    ReadsDecimal ((Nat.toDigits 10 d).take m ++ '.' :: (Nat.toDigits 10 d).drop m) d
      (-((Nat.toDigits 10 d).length - m : Nat)) := by
  obtain ⟨c, cs, hdigits, hc0⟩ := toDigits_head_ne_zero d hd
  have hall : ∀ x ∈ Nat.toDigits 10 d, x.isDigit = true :=
    fun x hx => Nat.isDigit_of_mem_toDigits (by decide) (by decide) hx
  -- the first `m` digits keep the leading one
  have hip : IntegerPart ((Nat.toDigits 10 d).take m) := by
    obtain ⟨m', rfl⟩ : ∃ m', m = m' + 1 := ⟨m - 1, by omega⟩
    refine .inr ⟨c, cs.take m', by rw [hdigits, List.take_succ_cons], hc0, ?_⟩
    exact fun x hx => hall x (List.mem_of_mem_take hx)
  have hne : (Nat.toDigits 10 d).drop m ≠ [] := by
    rw [Ne, List.drop_eq_nil_iff]
    omega
  have h := readsDecimal_point hip hne (fun x hx => hall x (List.mem_of_mem_drop hx))
    (by rw [List.take_append_drop, Nat.ofDigitChars_ten_toDigits]; exact hsize)
  rw [List.take_append_drop, Nat.ofDigitChars_ten_toDigits, List.length_drop] at h
  exact h

theorem readsDecimal_fraction {d : Nat} (hsize : d ≤ maxU64) (j : Nat) :
    ReadsDecimal (['0', '.'] ++ List.replicate j '0' ++ Nat.toDigits 10 d) d
      (-(j + (Nat.toDigits 10 d).length : Nat)) := by
  have hvalue : Nat.ofDigitChars 10 (['0'] ++ (List.replicate j '0' ++ Nat.toDigits 10 d)) 0 = d := by
    rw [Nat.ofDigitChars_append, Nat.ofDigitChars_append, Nat.ofDigitChars_replicate_zero,
      show Nat.ofDigitChars 10 ['0'] 0 = 0 from rfl, Nat.mul_zero, Nat.ofDigitChars_ten_toDigits]
  have hfp : ∀ x ∈ List.replicate j '0' ++ Nat.toDigits 10 d, x.isDigit = true := by
    intro x hx
    rcases List.mem_append.1 hx with hx | hx
    · rw [List.eq_of_mem_replicate hx]
      rfl
    · exact Nat.isDigit_of_mem_toDigits (by decide) (by decide) hx
  have h := readsDecimal_point (.inl rfl) (by simp) hfp (by rw [hvalue]; exact hsize)
  rw [hvalue, List.length_append, List.length_replicate] at h
  simpa only [List.cons_append, List.nil_append, List.append_assoc] using h

end Reader

namespace Decimal.Binary

/-- A finite double other than zero has a mantissa of at most 53 bits and an exponent within
the range of doubles. -/
theorem ofFloat_inRange {f : Float} (hf : isFinite f = true) (hm : (ofFloat f).mantissa ≠ 0) :
    (ofFloat f).InRange := by
  unfold isFinite at hf
  unfold ofFloat at hm ⊢
  generalize f.toBits.toNat = bits at hf hm ⊢
  have h52 : Nat.pow 2 52 = 4503599627370496 := rfl
  have hfrac : bits % 4503599627370496 < 4503599627370496 := Nat.mod_lt _ (by decide)
  have hfield : (bits >>> 52) % 2048 < 2048 := Nat.mod_lt _ (by decide)
  have h53 : (2 : Nat) ^ 53 = 9007199254740992 := by norm_num
  simp only [bne_iff_ne, ne_eq] at hf
  simp only [h52] at hm ⊢
  split_ifs at hm ⊢ with h0
  · -- a subnormal double: the fraction alone, at the least exponent
    refine ⟨Nat.pos_of_ne_zero hm, ?_, le_rfl, by norm_num⟩
    show bits % 4503599627370496 < 2 ^ 53
    omega
  · -- a normal double: the fraction below its leading bit, the exponent from its field
    refine ⟨show 0 < bits % 4503599627370496 + 4503599627370496 by omega, ?_, ?_, ?_⟩
    · show bits % 4503599627370496 + 4503599627370496 < 2 ^ 53
      omega
    · show -1074 ≤ (((bits >>> 52) % 2048 : Nat) : Int) - 1075
      omega
    · show (((bits >>> 52) % 2048 : Nat) : Int) - 1075 ≤ 971
      omega

end Decimal.Binary

namespace Json

/-- The text of shortest digits `d · 10^k` in the standard layout reads as a decimal that is
either below one in its last place or `d · 10^k` itself. -/
theorem layoutDigits_reads {d : Nat} {k : Int} (hd : 0 < d) (hd17 : d ≤ 10 ^ 17)
    (hk : -1100 ≤ k ∧ k ≤ 400) :
    ∃ v e, Reader.ReadsDecimal (layoutDigits .standard d k).toList v e ∧ (e < 0 ∨ (v = d ∧ e = k)) := by
  have htext : (toString d).toList = Nat.toDigits 10 d := Nat.toList_repr
  have hlen : (toString d).length = (Nat.toDigits 10 d).length := by
    rw [← String.length_toList, htext]
  have hmax : 10 ^ 17 ≤ Reader.maxU64 := by decide
  have hlt : d < 10 ^ (Nat.toDigits 10 d).length := by
    have := Reader.ofDigitChars_lt (Nat.toDigits 10 d) 0
      (fun x hx => Nat.isDigit_of_mem_toDigits (by decide) (by decide) hx)
    rwa [Nat.ofDigitChars_ten_toDigits, Nat.zero_add, Nat.one_mul] at this
  have hn : (Nat.toDigits 10 d).length ≤ 18 :=
    Nat.toDigits_length 10 d 18 (by norm_num) (lt_of_le_of_lt hd17 (by norm_num))
  unfold layoutDigits
  simp only [DoubleLayout.standard, hlen, Bool.false_eq_true, false_and, if_false]
  split_ifs with hA hB hC
  · -- whole: the digits, zeros up to the point, and `.0`
    have hz : (k.toNat : Int) = k := Int.toNat_of_nonneg hA.1
    have hsize : 10 * (10 ^ k.toNat * d) < 10 ^ 17 := calc
      10 * (10 ^ k.toNat * d) < 10 * (10 ^ k.toNat * 10 ^ (Nat.toDigits 10 d).length) := by gcongr
      _ = 10 ^ (k.toNat + (Nat.toDigits 10 d).length + 1) := by ring
      _ ≤ 10 ^ 17 := Nat.pow_le_pow_right (by norm_num) (by omega)
    refine ⟨10 * (10 ^ k.toNat * d), -1, ?_, Or.inl (by norm_num)⟩
    rw [String.toList_append, String.toList_append, htext, Decimal.zeros, String.toList_ofList,
      show ".0".toList = ['.', '0'] from rfl]
    exact Reader.readsDecimal_whole hd (by omega)
  · -- the point inside the digits, as many after it as `k` says
    have hm : (((Nat.toDigits 10 d).length + k).toNat : Int) = (Nat.toDigits 10 d).length + k :=
      Int.toNat_of_nonneg (by omega)
    refine ⟨d, k, ?_, Or.inr ⟨rfl, rfl⟩⟩
    simp only [String.toList_append, String.toList_ofList, htext, List.append_assoc,
      List.singleton_append, show ".".toList = ['.'] from rfl]
    have h := @Reader.readsDecimal_split d ((Nat.toDigits 10 d).length + k).toNat hd
      (hd17.trans hmax) (by omega) (by omega)
    rwa [show -(((Nat.toDigits 10 d).length - ((Nat.toDigits 10 d).length + k).toNat : Nat) : Int) = k
      by omega] at h
  · -- below one: `0.`, the zeros after the point, the digits
    refine ⟨d, k, ?_, Or.inr ⟨rfl, rfl⟩⟩
    simp only [String.toList_append, htext, Decimal.zeros, String.toList_ofList,
      show "0.".toList = ['0', '.'] from rfl]
    have h := Reader.readsDecimal_fraction (hd17.trans hmax) (-((Nat.toDigits 10 d).length + k)).toNat
    rwa [show -(((-((Nat.toDigits 10 d).length + k)).toNat + (Nat.toDigits 10 d).length : Nat) : Int) = k
      by omega] at h
  · -- scientific: the leading digit, the others after a point, and the exponent of the first
    obtain ⟨c, cs, hdigits, hc0⟩ := Reader.toDigits_head_ne_zero d hd
    have hall : ∀ x ∈ c :: cs, x.isDigit = true :=
      fun x hx => Nat.isDigit_of_mem_toDigits (by decide) (by decide) (hdigits ▸ hx)
    have hvalue : Nat.ofDigitChars 10 (c :: cs) 0 = d := by
      rw [← hdigits]
      exact Nat.ofDigitChars_ten_toDigits
    have hip : Reader.IntegerPart [c] :=
      .inr ⟨c, [], rfl, hc0, fun x hx => hall x (by rw [List.mem_singleton.1 hx]; exact List.mem_cons_self)⟩
    rw [htext, hdigits]
    rw [hdigits] at hlen hA hB hC hn
    refine ⟨d, k, ?_, Or.inr ⟨rfl, rfl⟩⟩
    cases cs with
    | nil =>
      have h := Reader.readsDecimal_exponent hip (by rw [hvalue]; exact hd17.trans hmax)
        ((([c] : List Char).length : Int) + k - 1) (by simp only [List.length_singleton]; omega)
      rw [hvalue, show (([c] : List Char).length : Int) + k - 1 = k by simp] at h
      simpa only [String.toList_append, String.toList_ofList, show "e".toList = ['e'] from rfl,
        show "".toList = [] from rfl, List.nil_append, List.append_assoc, List.singleton_append,
        List.length_singleton, Nat.cast_one, add_sub_cancel_left, List.cons_append] using h
    | cons c' cs' =>
      have h := Reader.readsDecimal_point_exponent hip (List.cons_ne_nil c' cs')
        (fun x hx => hall x (List.mem_cons_of_mem c hx)) (by rw [List.singleton_append, hvalue]; exact hd17.trans hmax)
        ((((c :: c' :: cs') : List Char).length : Int) + k - 1)
        (by simp only [List.length_cons] at hn ⊢; omega)
      rw [show ([c] ++ c' :: cs' : List Char) = c :: c' :: cs' from rfl, hvalue,
        show ((((c :: c' :: cs') : List Char).length : Int) + k - 1 - ((c' :: cs').length : Int)) = k by
          simp only [List.length_cons]; omega] at h
      simpa only [String.toList_append, String.toList_ofList, show "e".toList = ['e'] from rfl,
        show "".toList = [] from rfl, show ".".toList = ['.'] from rfl, List.nil_append,
        List.append_assoc, List.singleton_append, List.cons_append] using h

/-- The text of a finite double after its sign: `0.0`, or its shortest digits laid out. -/
def magnitudeText (f : Float) : String :=
  let b := Decimal.Binary.ofFloat f
  if b.mantissa = 0 then "0.0" else layoutDigits .standard b.shortest.1 b.shortest.2

theorem doubleText_eq (f : Float) :
    doubleText f = (if (Decimal.Binary.ofFloat f).negative then "-" else "") ++ magnitudeText f := by
  unfold doubleText doubleTextIn magnitudeText
  dsimp only
  split_ifs <;> rfl

/-- The text of a finite double after its sign reads as a decimal from which the reader
computes a double, with either sign. -/
theorem magnitudeText_reads {f : Float} (hf : Decimal.isFinite f = true) (positive : Bool) :
    ∃ v e, Reader.ReadsDecimal (magnitudeText f).toList v e ∧
      ∃ g, ∀ c, Reader.scale c positive v e = .ok g := by
  unfold magnitudeText
  dsimp only
  split_ifs with hm
  · -- zero is written `0.0`
    refine ⟨_, _, ?_, Reader.scale_ok_of_neg (show -((['0'] : List Char).length : Int) < 0 by decide)
      positive (Nat.ofDigitChars 10 (['0'] ++ ['0']) 0)⟩
    exact Reader.readsDecimal_point (.inl rfl) (List.cons_ne_nil _ _)
      (fun c hc => by rw [List.mem_singleton.1 hc]; rfl) (by decide)
  · have hb := Decimal.Binary.ofFloat_inRange hf hm
    obtain ⟨hpos, h17, hupper⟩ := Decimal.Binary.shortest_spec hb
    have hD := Decimal.Binary.decimalExponent_ge hb
    have hkge := Decimal.Binary.shortest_exponent_ge hb
    -- the digits are at least one, so their power of ten is at most the upper midpoint
    have hk308 := Decimal.Binary.exponent_le_308 hb
      ((le_mul_of_one_le_left (by positivity) (by exact_mod_cast hpos)).trans hupper)
    obtain ⟨v, e, hreads, he⟩ := @layoutDigits_reads _ (Decimal.Binary.ofFloat f).shortest.2 hpos h17
      ⟨by omega, by omega⟩
    refine ⟨v, e, hreads, ?_⟩
    rcases he with he | ⟨rfl, rfl⟩
    · exact Reader.scale_ok_of_neg he positive v
    · by_cases hk : (Decimal.Binary.ofFloat f).shortest.2 < 0
      · exact Reader.scale_ok_of_neg hk positive _
      · exact Reader.scale_ok_of_fits (by omega) hk308 positive
          (Decimal.Binary.productOverflows_shortest hb (by omega))

end Json

namespace Number

theorem readsAs_finite {f : Float} (hf : Decimal.isFinite f = true) :
    ∃ g, (Number.double f).ReadsAs (.number (.double g)) := by
  have htext : (Json.numberText (.double f)).toList =
      (if (Decimal.Binary.ofFloat f).negative then ['-'] else []) ++ (Json.magnitudeText f).toList := by
    simp only [Json.numberText, hf, if_true, Json.doubleText_eq, String.toList_append]
    split <;> rfl
  cases hneg : (Decimal.Binary.ofFloat f).negative
  · obtain ⟨v, e, hreads, g, hg⟩ := Json.magnitudeText_reads hf true
    refine ⟨g, fun fuel depth pos rest hrest => ?_⟩
    obtain ⟨pos', hread⟩ := hreads true pos rest hrest
    rw [hg] at hread
    rw [htext, hneg, if_neg Bool.false_ne_true, List.nil_append]
    exact ⟨_, _, Reader.readValue_of_readNumber hread⟩
  · -- a minus sign, then the magnitude read as negative
    obtain ⟨v, e, hreads, g, hg⟩ := Json.magnitudeText_reads hf false
    refine ⟨g, fun fuel depth pos rest hrest => ?_⟩
    obtain ⟨pos', hread⟩ := hreads false (pos + 1) rest hrest
    rw [hg] at hread
    rw [htext, hneg, if_pos rfl, List.singleton_append, List.cons_append]
    exact ⟨_, _, Reader.readValue_of_minus hread⟩

theorem readsAs_nonfinite {f : Float} (hf : Decimal.isFinite f = false) :
    (Number.double f).ReadsAs .null := by
  intro fuel depth pos rest hrest
  have htext : (Json.numberText (.double f)).toList = ['n', 'u', 'l', 'l'] := by
    simp only [Json.numberText, hf, Bool.false_eq_true, if_false]
    rfl
  obtain ⟨pos', hid⟩ := Reader.readIdent_self ['u', 'l', 'l'] rest (pos + 1)
  rw [htext]
  exact ⟨_, _, Reader.readValue_of_literal (.inl rfl) hid⟩

theorem readsAs_double (f : Float) :
    ∃ w, (Number.double f).ReadsAs w ∧ (w = .null ∨ ∃ g, w = .number (.double g)) := by
  cases hf : Decimal.isFinite f
  · exact ⟨_, readsAs_nonfinite hf, .inl rfl⟩
  · obtain ⟨g, hg⟩ := readsAs_finite hf
    exact ⟨_, hg, .inr ⟨g, rfl⟩⟩

end Number

end ContainerCpi
