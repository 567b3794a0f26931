import Mathlib.Algebra.Order.Field.Power
import Mathlib.Tactic.Positivity
import Mathlib.Tactic.GCongr
import Mathlib.Tactic.NormNum
import Mathlib.Tactic.Ring
import Mathlib.Tactic.Linarith
import Mathlib.Data.Rat.Cast.Order
import Mathlib.Tactic.SplitIfs
import ContainerCpi.Decimal.Digits

/-!
# The size of a double's shortest digits

`Binary.shortest` writes a nonzero double `m · 2^e` as digits `d` and a power of ten `k`.
Read as exact rationals, the steps that find them are:

* `compareScaled a p b q` compares `a · 10^p` with `b · 2^q` (`compareScaled_eq_lt`,
  `compareScaled_eq_gt`);
* the decimal exponent is `⌊log₁₀ (m · 2^e)⌋` (`Binary.decimalExponent_spec`): the estimate
  from the leading bit is off by at most one either way for every leading bit a double has,
  which one evaluation checks (`estimate_brackets`), and two steps each way correct it;
* `divPow10 k` is the floor of the value over `10^k` (`Binary.divPow10_floor`);
* a candidate that reads back lies below the upper midpoint `(4m + 2) · 2^(e - 2)`
  (`Binary.roundsBack_spec`), and dropping trailing zeros keeps the value.

So the digits are at most `10^17` and `d · 10^k` is at most the upper midpoint
(`Binary.shortest_spec`).  That bounds what a reader of the text computes: the exponent of
the leading digit is at most 308, and the product of `d` and `10^k`, each rounded to the
nearest double, stays finite (`Binary.productOverflows_shortest`), since a double times
`(1 + 2^-53)²` stays below the overflow bound but for the two largest mantissas of the top
binade, whose digits are checked directly.
-/

namespace ContainerCpi.Decimal

/-! ## Exact comparisons -/

theorem zpow_mul_pow_neg_toNat {x : ℚ} (hx : x ≠ 0) (z : Int) :
    x ^ z * x ^ (-z).toNat = x ^ z.toNat := by
  rw [← zpow_natCast, ← zpow_natCast, ← zpow_add₀ hx]
  congr 1
  omega

theorem compareScaled_sides (a : Nat) (p : Int) (b : Nat) (q : Int) :
    ((a * Nat.pow 10 p.toNat * Nat.pow 2 (-q).toNat : Nat) : ℚ) =
        (a : ℚ) * 10 ^ p * (10 ^ (-p).toNat * 2 ^ (-q).toNat) ∧
      ((b * Nat.pow 2 q.toNat * Nat.pow 10 (-p).toNat : Nat) : ℚ) =
        (b : ℚ) * 2 ^ q * (10 ^ (-p).toNat * 2 ^ (-q).toNat) := by
  have h10 := zpow_mul_pow_neg_toNat (show (10 : ℚ) ≠ 0 by norm_num) p
  have h2 := zpow_mul_pow_neg_toNat (show (2 : ℚ) ≠ 0 by norm_num) q
  constructor
  · push_cast [Nat.pow_eq]
    rw [← h10]
    ring
  · push_cast [Nat.pow_eq]
    rw [← h2]
    ring

theorem compareScaled_eq_lt {a : Nat} {p : Int} {b : Nat} {q : Int} :
    compareScaled a p b q = .lt ↔ (a : ℚ) * 10 ^ p < b * 2 ^ q := by
  obtain ⟨hl, hr⟩ := compareScaled_sides a p b q
  have hc : (0 : ℚ) < 10 ^ (-p).toNat * 2 ^ (-q).toNat := by positivity
  rw [compareScaled, Nat.compare_eq_lt, ← @Nat.cast_lt ℚ, hl, hr]
  exact mul_lt_mul_iff_left₀ hc

theorem compareScaled_eq_gt {a : Nat} {p : Int} {b : Nat} {q : Int} :
    compareScaled a p b q = .gt ↔ (b : ℚ) * 2 ^ q < a * 10 ^ p := by
  obtain ⟨hl, hr⟩ := compareScaled_sides a p b q
  have hc : (0 : ℚ) < 10 ^ (-p).toNat * 2 ^ (-q).toNat := by positivity
  rw [compareScaled, Nat.compare_eq_gt, ← @Nat.cast_lt ℚ, hl, hr]
  exact mul_lt_mul_iff_left₀ hc

namespace Binary

/-! ## The value and its leading bit -/

/-- The magnitude `mantissa · 2^exponent`. -/
def value (b : Binary) : ℚ := b.mantissa * 2 ^ b.exponent

/-- The exponent of the value's leading bit. -/
def leadingBit (b : Binary) : Int := b.exponent + bitLength b.mantissa - 1

/-- The binaries of nonzero finite doubles: a mantissa of at most 53 bits and an exponent
from that of the least subnormal to that of the largest binade. -/
structure InRange (b : Binary) : Prop where
  mantissa_pos : 0 < b.mantissa
  mantissa_lt : b.mantissa < 2 ^ 53
  exponent_ge : -1074 ≤ b.exponent
  exponent_le : b.exponent ≤ 971

variable {b : Binary}

theorem value_bounds (hb : b.InRange) :
    (2 : ℚ) ^ b.leadingBit ≤ b.value ∧ b.value < 2 ^ (b.leadingBit + 1) := by
  have hm : b.mantissa ≠ 0 := Nat.pos_iff_ne_zero.1 hb.mantissa_pos
  have hsplit : ∀ j : Nat, (2 : ℚ) ^ (b.exponent + j) = 2 ^ j * 2 ^ b.exponent := fun j => by
    rw [zpow_add₀ (by norm_num), zpow_natCast, mul_comm]
  have hlow : ((2 ^ Nat.log2 b.mantissa : Nat) : ℚ) ≤ b.mantissa := by
    exact_mod_cast Nat.log2_self_le hm
  have hhigh : (b.mantissa : ℚ) < ((2 ^ (Nat.log2 b.mantissa + 1) : Nat) : ℚ) := by
    exact_mod_cast Nat.lt_log2_self
  have htop : b.leadingBit = b.exponent + (Nat.log2 b.mantissa : Nat) := by
    simp only [leadingBit, bitLength]
    push_cast
    ring
  have hpos : (0 : ℚ) < 2 ^ b.exponent := by positivity
  unfold value
  rw [htop, hsplit, show b.exponent + ((Nat.log2 b.mantissa : Nat) : Int) + 1 =
    b.exponent + ((Nat.log2 b.mantissa + 1 : Nat) : Int) by push_cast; ring, hsplit]
  push_cast at hlow hhigh
  exact ⟨mul_le_mul_of_nonneg_right hlow hpos.le, mul_lt_mul_of_pos_right hhigh hpos⟩

theorem leadingBit_range (hb : b.InRange) : -1074 ≤ b.leadingBit ∧ b.leadingBit ≤ 1023 := by
  have hlog : Nat.log2 b.mantissa < 53 :=
    (Nat.log2_lt (Nat.pos_iff_ne_zero.1 hb.mantissa_pos)).2 hb.mantissa_lt
  have := hb.exponent_ge
  have := hb.exponent_le
  simp only [leadingBit, bitLength]
  omega

end Binary

/-! ## The decimal exponent -/

/-- The estimate of `⌊t · log₁₀ 2⌋` from the leading bit `t`. -/
def estimate (t : Int) : Int := t * 78913 / 262144

/-- Whether the estimate for leading bit `t` is within one of the decimal exponent of every
value with that leading bit: `10^(est - 1) ≤ 2^t` and `2^(t + 1) ≤ 10^(est + 2)`. -/
def estimateBrackets (t : Int) : Bool :=
  compareScaled 1 (estimate t - 1) 1 t != .gt && compareScaled 1 (estimate t + 2) 2 t != .lt

theorem estimateBrackets_all :
    (List.range 2098).all (fun i => estimateBrackets ((i : Int) - 1074)) = true := by
  decide +kernel

theorem estimate_brackets {t : Int} (hlow : -1074 ≤ t) (hhigh : t ≤ 1023) :
    (10 : ℚ) ^ (estimate t - 1) ≤ 2 ^ t ∧ (2 : ℚ) ^ (t + 1) ≤ 10 ^ (estimate t + 2) := by
  have hcheck := List.all_eq_true.1 estimateBrackets_all (t + 1074).toNat
    (List.mem_range.2 (by omega))
  rw [show (((t + 1074).toNat : Nat) : Int) - 1074 = t by omega] at hcheck
  simp only [estimateBrackets, Bool.and_eq_true, bne_iff_ne, ne_eq] at hcheck
  obtain ⟨hgt, hlt⟩ := hcheck
  rw [compareScaled_eq_gt] at hgt
  rw [compareScaled_eq_lt] at hlt
  push_cast at hgt hlt
  refine ⟨by linarith, ?_⟩
  rw [zpow_add_one₀ (by norm_num)]
  linarith

namespace Binary

variable {b : Binary}

/-- A step down of the decimal exponent's search: `k - 1` while `10^k` exceeds the value. -/
def lowerStep (b : Binary) (k : Int) : Int :=
  if compareScaled 1 k b.mantissa b.exponent == .gt then k - 1 else k

/-- A step up of the search: `k + 1` while `10^(k + 1)` does not exceed the value. -/
def raiseStep (b : Binary) (k : Int) : Int :=
  if compareScaled 1 (k + 1) b.mantissa b.exponent != .gt then k + 1 else k

theorem decimalExponent_eq (b : Binary) :
    b.decimalExponent = b.raiseStep (b.raiseStep (b.lowerStep (b.lowerStep (estimate b.leadingBit)))) :=
  rfl

theorem lowerStep_eq (k : Int) : b.lowerStep k = if (10 : ℚ) ^ k ≤ b.value then k else k - 1 := by
  have hgt : compareScaled 1 k b.mantissa b.exponent = .gt ↔ ¬ (10 : ℚ) ^ k ≤ b.value := by
    rw [compareScaled_eq_gt, not_le, value]
    push_cast
    rw [one_mul]
  unfold lowerStep
  by_cases h : (10 : ℚ) ^ k ≤ b.value
  · rw [if_pos h, if_neg (by simpa [hgt] using h)]
  · rw [if_neg h, if_pos (by simpa [hgt] using h)]

theorem raiseStep_eq (k : Int) :
    b.raiseStep k = if (10 : ℚ) ^ (k + 1) ≤ b.value then k + 1 else k := by
  have hgt : compareScaled 1 (k + 1) b.mantissa b.exponent = .gt ↔
      ¬ (10 : ℚ) ^ (k + 1) ≤ b.value := by
    rw [compareScaled_eq_gt, not_le, value]
    push_cast
    rw [one_mul]
  unfold raiseStep
  by_cases h : (10 : ℚ) ^ (k + 1) ≤ b.value
  · rw [if_pos h, if_pos (by simpa [hgt] using h)]
  · rw [if_neg h, if_neg (by simpa [hgt] using h)]

/-- The decimal exponent is `⌊log₁₀ value⌋`. -/
theorem decimalExponent_spec (hb : b.InRange) :
    (10 : ℚ) ^ b.decimalExponent ≤ b.value ∧ b.value < 10 ^ (b.decimalExponent + 1) := by
  obtain ⟨hlow, hhigh⟩ := value_bounds hb
  obtain ⟨hr₁, hr₂⟩ := leadingBit_range hb
  obtain ⟨hest₁, hest₂⟩ := estimate_brackets hr₁ hr₂
  rw [decimalExponent_eq]
  set est := estimate b.leadingBit
  -- `10^k ≤ value` holds for `k = est - 1`, fails for `k = est + 2`, and is antitone in `k`
  have hbelow : (10 : ℚ) ^ (est - 1) ≤ b.value := hest₁.trans hlow
  have habove : ¬ (10 : ℚ) ^ (est + 1 + 1) ≤ b.value := by
    rw [not_le, show est + 1 + 1 = est + 2 by ring]
    exact hhigh.trans_le hest₂
  have hanti : ∀ {i j : Int}, i ≤ j → (10 : ℚ) ^ j ≤ b.value → (10 : ℚ) ^ i ≤ b.value :=
    fun hij h => (zpow_le_zpow_right₀ (by norm_num) hij).trans h
  by_cases h₁ : (10 : ℚ) ^ (est + 1) ≤ b.value
  · -- the estimate was one too low
    have h₀ : (10 : ℚ) ^ est ≤ b.value := hanti (by omega) h₁
    rw [lowerStep_eq est, if_pos h₀, lowerStep_eq est, if_pos h₀, raiseStep_eq est, if_pos h₁,
      raiseStep_eq (est + 1), if_neg habove]
    exact ⟨h₁, not_le.1 habove⟩
  · by_cases h₀ : (10 : ℚ) ^ est ≤ b.value
    · -- the estimate was right
      rw [lowerStep_eq est, if_pos h₀, lowerStep_eq est, if_pos h₀, raiseStep_eq est, if_neg h₁,
        raiseStep_eq est, if_neg h₁]
      exact ⟨h₀, not_le.1 h₁⟩
    · -- the estimate was one too high
      have h₀' : ¬ (10 : ℚ) ^ (est - 1 + 1) ≤ b.value := by rwa [sub_add_cancel]
      rw [lowerStep_eq est, if_neg h₀, lowerStep_eq (est - 1), if_pos hbelow,
        raiseStep_eq (est - 1), if_neg h₀', raiseStep_eq (est - 1), if_neg h₀']
      exact ⟨hbelow, not_le.1 h₀'⟩

/-! ## The digits -/

theorem value_le_upper (b : Binary) :
    b.value ≤ ((4 * b.mantissa + 2 : Nat) : ℚ) * 2 ^ (b.exponent - 2) := by
  have hsplit : (2 : ℚ) ^ b.exponent = 4 * 2 ^ (b.exponent - 2) := by
    rw [show b.exponent = b.exponent - 2 + 2 by ring, zpow_add₀ (by norm_num)]
    norm_num
    ring
  have hpos : (0 : ℚ) < 2 ^ (b.exponent - 2) := by positivity
  unfold value
  rw [hsplit]
  push_cast
  nlinarith

/-- `divPow10 k` gives the floor of the value over `10^k`. -/
theorem divPow10_floor (b : Binary) (k : Int) :
    ((b.divPow10 k).1 : ℚ) * 10 ^ k ≤ b.value ∧ b.value < ((b.divPow10 k).1 + 1 : ℚ) * 10 ^ k := by
  set num := b.mantissa * Nat.pow 2 b.exponent.toNat * Nat.pow 10 (-k).toNat
  set den := Nat.pow 2 (-b.exponent).toNat * Nat.pow 10 k.toNat
  have hden₀ : 0 < den := by
    simp only [den, Nat.pow_eq]
    positivity
  have hden : (0 : ℚ) < den := by exact_mod_cast hden₀
  -- the quotient is taken of the value over `10^k`, both sides times `den`
  have hnum : (num : ℚ) = b.value * 10 ^ (-k) * den := by
    have h2 := zpow_mul_pow_neg_toNat (show (2 : ℚ) ≠ 0 by norm_num) b.exponent
    have h10 := zpow_mul_pow_neg_toNat (show (10 : ℚ) ≠ 0 by norm_num) (-k)
    rw [neg_neg] at h10
    simp only [num, den, value, Nat.pow_eq]
    push_cast
    rw [← h2, ← h10]
    ring
  have hq : (b.divPow10 k).1 = num / den := rfl
  have hlow : ((num / den : Nat) : ℚ) * den ≤ num := by exact_mod_cast Nat.div_mul_le_self num den
  have hhigh : (num : ℚ) < ((num / den : Nat) + 1 : ℚ) * den := by
    have : num < (num / den + 1) * den := by
      rw [Nat.add_mul, Nat.one_mul]
      exact Nat.lt_div_mul_add hden₀
    exact_mod_cast this
  have hk : (10 : ℚ) ^ (-k) * 10 ^ k = 1 := by
    rw [← zpow_add₀ (by norm_num), neg_add_cancel, zpow_zero]
  rw [hq]
  rw [hnum] at hlow hhigh
  constructor
  · have := le_of_mul_le_mul_right hlow hden
    calc ((num / den : Nat) : ℚ) * 10 ^ k ≤ b.value * 10 ^ (-k) * 10 ^ k := by gcongr
      _ = b.value := by rw [mul_assoc, hk, mul_one]
  · have := lt_of_mul_lt_mul_right hhigh hden.le
    calc b.value = b.value * 10 ^ (-k) * 10 ^ k := by rw [mul_assoc, hk, mul_one]
      _ < ((num / den : Nat) + 1 : ℚ) * 10 ^ k := by gcongr

/-- Digits that read back are positive and at most the upper midpoint. -/
theorem roundsBack_spec (hb : b.InRange) {c : Nat} {k : Int} (h : b.roundsBack c k = true) :
    0 < c ∧ (c : ℚ) * 10 ^ k ≤ ((4 * b.mantissa + 2 : Nat) : ℚ) * 2 ^ (b.exponent - 2) := by
  unfold roundsBack at h
  simp only [Bool.and_eq_true] at h
  obtain ⟨habove, hbelow⟩ := h
  -- the low comparison is not `lt`, the high one not `gt`
  have hnotlt : compareScaled c k (if b.gapBelowHalved then 4 * b.mantissa - 1
      else 4 * b.mantissa - 2) (b.exponent - 2) ≠ .lt := by
    intro hlt
    rw [hlt] at habove
    cases habove
  have hnotgt : compareScaled c k (4 * b.mantissa + 2) (b.exponent - 2) ≠ .gt := by
    intro hgt
    rw [hgt] at hbelow
    cases hbelow
  rw [Ne, compareScaled_eq_lt, not_lt] at hnotlt
  rw [Ne, compareScaled_eq_gt, not_lt] at hnotgt
  refine ⟨Nat.pos_of_ne_zero fun hc => ?_, hnotgt⟩
  -- the low midpoint is positive, so no zero digits reach it
  have hlow : (2 : ℚ) ≤ ((if b.gapBelowHalved then 4 * b.mantissa - 1
      else 4 * b.mantissa - 2 : Nat) : ℚ) := by
    have := hb.mantissa_pos
    split <;> (norm_cast; omega)
  have hpow : (0 : ℚ) < 2 ^ (b.exponent - 2) := by positivity
  rw [hc, Nat.cast_zero, zero_mul] at hnotlt
  nlinarith

/-- A candidate of `n` digits reads back, has at most `n` digits, and is scaled by the power of
ten that puts its first digit at the decimal exponent. -/
theorem candidate_spec (hb : b.InRange) {n c : Nat} {k : Int} (h : b.candidate n = some (c, k)) :
    k = b.decimalExponent - n + 1 ∧ b.roundsBack c k = true ∧ c ≤ 10 ^ n := by
  dsimp only [candidate] at h
  obtain ⟨hlow, hhigh⟩ := divPow10_floor b (b.decimalExponent - n + 1)
  obtain ⟨-, hexp⟩ := decimalExponent_spec hb
  rcases hq : b.divPow10 (b.decimalExponent - n + 1) with ⟨t, r, den⟩
  rw [hq] at hlow hhigh h
  dsimp only at hlow hhigh h
  -- the floor has at most `n` digits
  have ht : t + 1 ≤ 10 ^ n := by
    have hsplit : (10 : ℚ) ^ (b.decimalExponent + 1) =
        10 ^ n * 10 ^ (b.decimalExponent - n + 1) := by
      rw [← zpow_natCast, ← zpow_add₀ (by norm_num)]
      ring_nf
    have hpos : (0 : ℚ) < 10 ^ (b.decimalExponent - n + 1) := by positivity
    have : (t : ℚ) < 10 ^ n := by
      rw [hsplit] at hexp
      exact lt_of_mul_lt_mul_right (hlow.trans_lt hexp) hpos.le
    exact_mod_cast this
  -- the digits chosen are the floor or the next integer, each chosen only when it reads back
  split_ifs at h with hboth hnear hfar heven hlowOk hhighOk <;>
    simp only [Option.some.injEq, Prod.mk.injEq] at h <;>
    obtain ⟨rfl, rfl⟩ := h
  all_goals simp only [Bool.and_eq_true] at hboth
  · exact ⟨rfl, hboth.1, by omega⟩
  · exact ⟨rfl, hboth.2, ht⟩
  · exact ⟨rfl, hboth.1, by omega⟩
  · exact ⟨rfl, hboth.2, ht⟩
  · exact ⟨rfl, hlowOk, by omega⟩
  · exact ⟨rfl, hhighOk, ht⟩

theorem trimZeros_spec : ∀ (fuel c : Nat) (k : Int), 0 < c →
    0 < (trimZeros fuel c k).1 ∧ (trimZeros fuel c k).1 ≤ c ∧
      ((trimZeros fuel c k).1 : ℚ) * 10 ^ (trimZeros fuel c k).2 = c * 10 ^ k
  | 0, c, k, hc => ⟨hc, Nat.le_refl c, rfl⟩
  | fuel + 1, c, k, hc => by
    rw [trimZeros]
    split
    · rename_i hzero
      simp only [Bool.and_eq_true, beq_iff_eq, bne_iff_ne, ne_eq] at hzero
      obtain ⟨h₁, h₂, h₃⟩ := trimZeros_spec fuel (c / 10) (k + 1) (by omega)
      have hc10 : (c : ℚ) = (c / 10 : Nat) * 10 := by
        exact_mod_cast (Nat.div_mul_cancel (Nat.dvd_of_mod_eq_zero hzero.1)).symm
      refine ⟨h₁, h₂.trans (Nat.div_le_self c 10), ?_⟩
      rw [h₃, zpow_add_one₀ (by norm_num), hc10]
      ring
    · exact ⟨hc, Nat.le_refl c, rfl⟩

theorem le_trimZeros_exponent : ∀ (fuel c : Nat) (k : Int), k ≤ (trimZeros fuel c k).2
  | 0, _, _ => le_rfl
  | fuel + 1, c, k => by
    rw [trimZeros]
    split
    · exact (Int.le_add_one le_rfl).trans (le_trimZeros_exponent fuel (c / 10) (k + 1))
    · exact le_rfl

theorem decimalExponent_ge (hb : b.InRange) : -1074 ≤ b.decimalExponent := by
  obtain ⟨-, hlt⟩ := decimalExponent_spec hb
  obtain ⟨hlow, -⟩ := value_bounds hb
  obtain ⟨hlb, -⟩ := leadingBit_range hb
  by_contra h
  have h₁ : (10 : ℚ) ^ (b.decimalExponent + 1) ≤ 10 ^ (-1074 : Int) :=
    zpow_le_zpow_right₀ (by norm_num) (by omega)
  have h₂ : (10 : ℚ) ^ (-1074 : Int) ≤ 2 ^ (-1074 : Int) := by
    rw [zpow_neg, zpow_neg]
    exact inv_anti₀ (by positivity) (zpow_le_zpow_left₀ (by norm_num) (by norm_num) (by norm_num))
  have h₃ : (2 : ℚ) ^ (-1074 : Int) ≤ 2 ^ b.leadingBit := zpow_le_zpow_right₀ (by norm_num) hlb
  linarith

/-- The shortest digits of a double are positive, at most `10^17`, and at most the upper
midpoint once scaled. -/
theorem shortest_spec (hb : b.InRange) :
    0 < b.shortest.1 ∧ b.shortest.1 ≤ 10 ^ 17 ∧
      (b.shortest.1 : ℚ) * 10 ^ b.shortest.2 ≤ ((4 * b.mantissa + 2 : Nat) : ℚ) * 2 ^ (b.exponent - 2) := by
  have hm : b.mantissa ≠ 0 := Nat.pos_iff_ne_zero.1 hb.mantissa_pos
  unfold shortest
  rw [if_neg hm]
  split
  · -- a candidate of at most 17 digits
    rename_i c k hfind
    obtain ⟨i, hi, hcand⟩ := List.exists_of_findSome?_eq_some hfind
    obtain ⟨-, hrb, hc⟩ := candidate_spec hb hcand
    obtain ⟨hpos, hbound⟩ := roundsBack_spec hb hrb
    obtain ⟨h₁, h₂, h₃⟩ := trimZeros_spec 20 c k hpos
    have hi' : i + 1 ≤ 17 := List.mem_range.1 hi
    refine ⟨h₁, h₂.trans (hc.trans (Nat.pow_le_pow_right (by norm_num) hi')), ?_⟩
    rw [h₃]
    exact hbound
  · -- none read back: the 17 leading digits of the value
    obtain ⟨hlow, hhigh⟩ := divPow10_floor b (b.decimalExponent - 16)
    obtain ⟨hD, hD'⟩ := decimalExponent_spec hb
    have hpos : (0 : ℚ) < 10 ^ (b.decimalExponent - 16) := by positivity
    have hsplit : ∀ j : Nat, (10 : ℚ) ^ (b.decimalExponent - 16 + j) =
        10 ^ j * 10 ^ (b.decimalExponent - 16) := fun j => by
      rw [zpow_add₀ (by norm_num), zpow_natCast, mul_comm]
    have h16 : (10 : ℚ) ^ 16 < (b.divPow10 (b.decimalExponent - 16)).1 + 1 := by
      rw [show b.decimalExponent = b.decimalExponent - 16 + (16 : Nat) by push_cast; ring,
        hsplit] at hD
      exact lt_of_mul_lt_mul_right (hD.trans_lt hhigh) hpos.le
    have h17 : ((b.divPow10 (b.decimalExponent - 16)).1 : ℚ) < 10 ^ 17 := by
      rw [show b.decimalExponent + 1 = b.decimalExponent - 16 + (17 : Nat) by push_cast; ring,
        hsplit] at hD'
      exact lt_of_mul_lt_mul_right (hlow.trans_lt hD') hpos.le
    have ht16 : 10 ^ 16 < (b.divPow10 (b.decimalExponent - 16)).1 + 1 := by exact_mod_cast h16
    have ht17 : (b.divPow10 (b.decimalExponent - 16)).1 < 10 ^ 17 := by exact_mod_cast h17
    obtain ⟨h₁, h₂, h₃⟩ :=
      trimZeros_spec 20 (b.divPow10 (b.decimalExponent - 16)).1 (b.decimalExponent - 16) (by omega)
    refine ⟨h₁, h₂.trans ht17.le, ?_⟩
    rw [h₃]
    exact hlow.trans (value_le_upper b)

theorem shortest_exponent_ge (hb : b.InRange) : b.decimalExponent - 16 ≤ b.shortest.2 := by
  have hm : b.mantissa ≠ 0 := Nat.pos_iff_ne_zero.1 hb.mantissa_pos
  unfold shortest
  rw [if_neg hm]
  split
  · rename_i c k hfind
    obtain ⟨i, hi, hcand⟩ := List.exists_of_findSome?_eq_some hfind
    obtain ⟨hk, -, -⟩ := candidate_spec hb hcand
    have hi' : i + 1 ≤ 17 := List.mem_range.1 hi
    exact le_trans (by omega) (le_trimZeros_exponent 20 c k)
  · exact le_trimZeros_exponent 20 _ _

theorem exponent_le_308 (hb : b.InRange) {j : Int}
    (h : (10 : ℚ) ^ j ≤ ((4 * b.mantissa + 2 : Nat) : ℚ) * 2 ^ (b.exponent - 2)) : j ≤ 308 := by
  have hm : ((4 * b.mantissa + 2 : Nat) : ℚ) ≤ 2 ^ 55 := by
    have := hb.mantissa_lt
    exact_mod_cast (show 4 * b.mantissa + 2 ≤ 2 ^ 55 by omega)
  have he : (2 : ℚ) ^ (b.exponent - 2) ≤ 2 ^ (969 : Nat) := by
    rw [← zpow_natCast]
    exact zpow_le_zpow_right₀ (by norm_num) (by have := hb.exponent_le; omega)
  have hupper : ((4 * b.mantissa + 2 : Nat) : ℚ) * 2 ^ (b.exponent - 2) < 10 ^ (309 : Int) := by
    have hconst : (2 ^ 55 * 2 ^ 969 : Nat) < 10 ^ 309 := by decide +kernel
    have hcast : ((2 ^ 55 * 2 ^ 969 : Nat) : ℚ) < ((10 ^ 309 : Nat) : ℚ) := Nat.cast_lt.2 hconst
    rw [Nat.cast_mul, Nat.cast_pow, Nat.cast_pow, Nat.cast_pow, Nat.cast_ofNat, Nat.cast_ofNat]
      at hcast
    calc ((4 * b.mantissa + 2 : Nat) : ℚ) * 2 ^ (b.exponent - 2) ≤ 2 ^ 55 * 2 ^ (969 : Nat) := by
          gcongr
      _ < 10 ^ (309 : Nat) := hcast
      _ = 10 ^ (309 : Int) := (zpow_natCast _ _).symm
  by_contra hj
  have : (10 : ℚ) ^ (309 : Int) ≤ 10 ^ j := zpow_le_zpow_right₀ (by norm_num) (by omega)
  linarith

end Binary

/-! ## The product a reader forms -/

/-- Rounding to 53 significant bits, to nearest, adds at most `n / 2^53`. -/
theorem roundToDouble_le (n : Nat) : 2 ^ 53 * roundToDouble n ≤ (2 ^ 53 + 1) * n := by
  unfold roundToDouble
  dsimp only
  set drop := bitLength n - 53
  set unit := Nat.pow 2 drop
  have hsplit : n / unit * unit + n % unit = n := Nat.div_add_mod' n unit
  have hunit : 0 < unit := by
    simp only [unit, Nat.pow_eq]
    positivity
  have hr : n % unit < unit := Nat.mod_lt n hunit
  split
  · rename_i hup
    -- rounding up happens only past the half unit
    have hhalf : unit ≤ 2 * (n % unit) := by
      simp only [Bool.or_eq_true, decide_eq_true_eq, Bool.and_eq_true, beq_iff_eq] at hup
      omega
    -- so something was dropped, and the unit is at most `n / 2^52`
    have hdrop : 0 < drop := by
      by_contra h0
      have : unit = 1 := by simp only [unit, Nat.le_zero.1 (Nat.not_lt.1 h0)]
      omega
    have hn : n ≠ 0 := by
      rintro rfl
      simp only [Nat.zero_mod] at hhalf
      omega
    have hlog : 2 ^ 52 * unit ≤ n := by
      have hbits : 52 + drop = Nat.log2 n := by
        simp only [drop, bitLength] at hdrop ⊢
        omega
      calc 2 ^ 52 * unit = 2 ^ (52 + drop) := by simp only [unit, Nat.pow_eq, Nat.pow_add]
        _ = 2 ^ Nat.log2 n := by rw [hbits]
        _ ≤ n := Nat.log2_self_le hn
    nlinarith
  · have : n / unit * unit ≤ n := Nat.div_mul_le_self n unit
    nlinarith

theorem productOverflows_eq_false {d p : Nat}
    (h : (2 ^ 53 + 1) ^ 2 * (d * p) < 2 ^ 106 * overflowBound) : productOverflows d p = false := by
  have hd := roundToDouble_le d
  have hp := roundToDouble_le p
  have hprod : 2 ^ 106 * (roundToDouble d * roundToDouble p) ≤ (2 ^ 53 + 1) ^ 2 * (d * p) := by
    calc 2 ^ 106 * (roundToDouble d * roundToDouble p)
        = (2 ^ 53 * roundToDouble d) * (2 ^ 53 * roundToDouble p) := by ring
      _ ≤ ((2 ^ 53 + 1) * d) * ((2 ^ 53 + 1) * p) := Nat.mul_le_mul hd hp
      _ = (2 ^ 53 + 1) ^ 2 * (d * p) := by ring
  unfold productOverflows
  exact decide_eq_false (Nat.not_le.2 (Nat.lt_of_mul_lt_mul_left (hprod.trans_lt h)))

namespace Binary

variable {b : Binary}

theorem productOverflows_top (negative gap : Bool) {m : Nat}
    (hm : m = 2 ^ 53 - 2 ∨ m = 2 ^ 53 - 1) :
    productOverflows (shortest ⟨negative, m, 971, gap⟩).1
      (pow10 (shortest ⟨negative, m, 971, gap⟩).2.toNat) = false := by
  rcases hm with rfl | rfl <;> cases negative <;> cases gap <;> decide +kernel

/-- Below its two largest top mantissas, a double's upper midpoint is at most
`(2^56 - 20) · 2^968`. -/
theorem upper_le_of_not_top (hb : b.InRange) (htop : ¬ (b.exponent = 971 ∧ 2 ^ 53 - 2 ≤ b.mantissa)) :
    ((4 * b.mantissa + 2 : Nat) : ℚ) * 2 ^ (b.exponent - 2) ≤ (2 ^ 56 - 20) * 2 ^ (968 : Nat) := by
  have hlt := hb.mantissa_lt
  have hX : (0 : ℚ) ≤ 2 ^ (968 : Nat) := by positivity
  rcases Int.lt_or_le b.exponent 971 with hlow | hhigh
  · -- below the top binade: `2^(e - 2) ≤ 2^968`
    have he : (2 : ℚ) ^ (b.exponent - 2) ≤ 2 ^ (968 : Nat) := by
      rw [← zpow_natCast]
      exact zpow_le_zpow_right₀ (by norm_num) (by omega)
    have hm : ((4 * b.mantissa + 2 : Nat) : ℚ) ≤ 2 ^ 56 - 20 := by
      have : 4 * b.mantissa + 2 + 20 ≤ 2 ^ 56 := by omega
      have : ((4 * b.mantissa + 2 + 20 : Nat) : ℚ) ≤ 2 ^ 56 := by exact_mod_cast this
      push_cast at this ⊢
      linarith
    exact mul_le_mul hm he (by positivity) (by linarith)
  · -- the top binade, where `2^(e - 2) = 2 · 2^968`
    have he : b.exponent = 971 := le_antisymm hb.exponent_le hhigh
    have hm : 4 * b.mantissa + 2 ≤ 2 ^ 55 - 10 := by
      have : ¬ (2 ^ 53 - 2 ≤ b.mantissa) := fun h => htop ⟨he, h⟩
      omega
    have hm' : ((4 * b.mantissa + 2 : Nat) : ℚ) * 2 ≤ 2 ^ 56 - 20 := by
      have : (4 * b.mantissa + 2) * 2 + 20 ≤ 2 ^ 56 := by omega
      have : (((4 * b.mantissa + 2) * 2 + 20 : Nat) : ℚ) ≤ 2 ^ 56 := by exact_mod_cast this
      push_cast at this ⊢
      linarith
    have hsplit : (2 : ℚ) ^ (b.exponent - 2) = 2 * 2 ^ (968 : Nat) := by
      rw [he, ← zpow_natCast, ← zpow_one_add₀ (by norm_num)]
      congr 1
    rw [hsplit, ← mul_assoc]
    exact mul_le_mul_of_nonneg_right hm' hX

/-- The reader's product of the digits and their power of ten, when the power is not negative,
is finite. -/
theorem productOverflows_shortest (hb : b.InRange) (hk : 0 ≤ b.shortest.2) :
    productOverflows b.shortest.1 (pow10 b.shortest.2.toNat) = false := by
  by_cases htop : b.exponent = 971 ∧ 2 ^ 53 - 2 ≤ b.mantissa
  · obtain ⟨negative, m, e, gap⟩ := b
    obtain ⟨rfl, hm⟩ := htop
    have hlt : m < 2 ^ 53 := hb.mantissa_lt
    have hle : 2 ^ 53 - 2 ≤ m := hm
    exact productOverflows_top negative gap (by omega)
  apply productOverflows_eq_false
  obtain ⟨-, -, hbound⟩ := shortest_spec hb
  have hupper := hbound.trans (upper_le_of_not_top hb htop)
  have hcast : ((b.shortest.1 * pow10 b.shortest.2.toNat : Nat) : ℚ) =
      (b.shortest.1 : ℚ) * 10 ^ b.shortest.2 := by
    have hk' : b.shortest.2 = ((b.shortest.2.toNat : Nat) : Int) := (Int.toNat_of_nonneg hk).symm
    conv_rhs => rw [hk', zpow_natCast]
    simp only [pow10, Nat.pow_eq, Nat.cast_mul, Nat.cast_pow, Nat.cast_ofNat]
  -- the overflow bound is `(2^56 - 4) · 2^968`; the power stays unevaluated from here on
  have heq : overflowBound = (2 ^ 56 - 4) * 2 ^ 968 := by decide +kernel
  have hbound' : ((2 ^ 106 * overflowBound : Nat) : ℚ) = 2 ^ 106 * ((2 ^ 56 - 4) * 2 ^ (968 : Nat)) := by
    rw [heq, Nat.cast_mul, Nat.cast_mul, Nat.cast_sub (by norm_num), Nat.cast_pow, Nat.cast_pow,
      Nat.cast_pow, Nat.cast_ofNat, Nat.cast_ofNat]
  have hlhs : (((2 ^ 53 + 1) ^ 2 * (b.shortest.1 * pow10 b.shortest.2.toNat) : Nat) : ℚ) =
      (2 ^ 53 + 1) ^ 2 * ((b.shortest.1 : ℚ) * 10 ^ b.shortest.2) := by
    rw [Nat.cast_mul, hcast]
    norm_num
  have hconst : ((2 ^ 53 + 1) ^ 2 : ℚ) * (2 ^ 56 - 20) < 2 ^ 106 * (2 ^ 56 - 4) := by norm_num
  have hX : (0 : ℚ) < 2 ^ (968 : Nat) := by positivity
  generalize (2 : ℚ) ^ (968 : Nat) = X at hupper hbound' hX
  have hfinal : (((2 ^ 53 + 1) ^ 2 * (b.shortest.1 * pow10 b.shortest.2.toNat) : Nat) : ℚ) <
      ((2 ^ 106 * overflowBound : Nat) : ℚ) := by
    rw [hlhs, hbound']
    calc ((2 ^ 53 + 1) ^ 2 : ℚ) * ((b.shortest.1 : ℚ) * 10 ^ b.shortest.2)
        ≤ (2 ^ 53 + 1) ^ 2 * ((2 ^ 56 - 20) * X) := mul_le_mul_of_nonneg_left hupper (by positivity)
      _ = ((2 ^ 53 + 1) ^ 2 * (2 ^ 56 - 20)) * X := by ring
      _ < (2 ^ 106 * (2 ^ 56 - 4)) * X := mul_lt_mul_of_pos_right hconst hX
      _ = 2 ^ 106 * ((2 ^ 56 - 4) * X) := by ring
  exact Nat.cast_lt.1 hfinal

end Binary

end ContainerCpi.Decimal
