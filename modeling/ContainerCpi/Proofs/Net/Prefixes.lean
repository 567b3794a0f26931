import Mathlib.Data.Nat.Digits.Defs
import ContainerCpi.Net.Prefix

/-!
# Netmasks and prefixes

The mask of a prefix length `len` in a family of `w` bits has its top `len` bits set
(`IpNet.testBit_maskBits`).  A netmask is contiguous exactly when it is such a mask, and its
prefix length is then `len` (`prefixOfMask?_eq_some_iff`): the search from the widest length
down finds the first length whose top bits are all set, and only the mask's own length has
all the lower bits clear as well.

Truncating a prefix clears its host bits, which is the address AND the mask
(`IpNet.trunc_eq_and`); a truncated prefix contains the address it was made from and is its
own truncation.
-/

namespace ContainerCpi.Net

namespace IpAddr

@[simp] theorem bits_withBits (a : IpAddr) (b : Nat) : (a.withBits b).bits = b := by
  cases a <;> rfl

@[simp] theorem width_withBits (a : IpAddr) (b : Nat) : (a.withBits b).width = a.width := by
  cases a <;> rfl

@[simp] theorem isV6_withBits (a : IpAddr) (b : Nat) : (a.withBits b).isV6 = a.isV6 := by
  cases a <;> rfl

@[simp] theorem withBits_withBits (a : IpAddr) (b c : Nat) : (a.withBits b).withBits c = a.withBits c := by
  cases a <;> rfl

theorem width_le (a : IpAddr) : a.width ≤ 128 := by
  cases a <;> simp [width]

theorem width_eq_of_isV6 {a m : IpAddr} (h : m.isV6 = a.isV6) : m.width = a.width := by
  cases a <;> cases m <;> first | rfl | cases h

end IpAddr

namespace IpNet

theorem testBit_maskBits {w len : Nat} (hlen : len ≤ w) (i : Nat) :
    (maskBits w len).testBit i = decide (w - len ≤ i ∧ i < w) := by
  rw [maskBits, Nat.pow_eq, Nat.pow_eq, Nat.testBit_mul_two_pow, Nat.testBit_two_pow_sub_one]
  by_cases hi : w - len ≤ i
  · simp only [hi, decide_true, Bool.true_and, true_and]
    exact decide_eq_decide.2 (by omega)
  · simp [hi]

theorem maskBits_lt {w len : Nat} (hlen : len ≤ w) : maskBits w len < 2 ^ w :=
  Nat.lt_pow_two_of_testBit _ fun i hi => by
    rw [testBit_maskBits hlen]
    simp only [decide_eq_false_iff_not, not_and, Nat.not_lt]
    exact fun _ => hi

theorem div_mul_eq_and_maskBits {w len b : Nat} (hb : b < 2 ^ w) (hlen : len ≤ w) :
    b / 2 ^ (w - len) * 2 ^ (w - len) = b &&& maskBits w len := by
  apply Nat.eq_of_testBit_eq
  intro i
  rw [Nat.testBit_mul_two_pow, Nat.testBit_div_two_pow, Nat.testBit_and, testBit_maskBits hlen]
  by_cases hi : w - len ≤ i
  · -- above the width the number has no bits
    have hshift : i - (w - len) + (w - len) = i := by omega
    rw [hshift]
    by_cases hw : i < w
    · simp [hi, hw]
    · simp [hi, hw, Nat.testBit_lt_two_pow (Nat.lt_of_lt_of_le hb (Nat.pow_le_pow_right
        (by decide) (Nat.le_of_not_lt hw)))]
  · simp [hi]

theorem trunc_eq_and {n : IpNet} (hbits : n.addr.bits < 2 ^ n.addr.width)
    (hlen : n.prefixLen ≤ n.addr.width) :
    n.trunc = ⟨n.addr.withBits (n.addr.bits &&& maskBits n.addr.width n.prefixLen), n.prefixLen⟩ := by
  simp only [trunc, network, Nat.pow_eq]
  rw [div_mul_eq_and_maskBits hbits hlen]

theorem trunc_contains (n : IpNet) : n.trunc.contains n.addr = true := by
  simp only [contains, trunc, network, IpAddr.isV6_withBits, IpAddr.width_withBits,
    IpAddr.bits_withBits, beq_self_eq_true, Bool.true_and, beq_iff_eq, Nat.pow_eq]
  rw [Nat.mul_div_cancel _ (Nat.two_pow_pos _)]

theorem trunc_trunc (n : IpNet) : n.trunc.trunc = n.trunc := by
  simp only [trunc, network, IpAddr.width_withBits, IpAddr.bits_withBits,
    IpAddr.withBits_withBits, Nat.pow_eq]
  rw [Nat.mul_div_cancel _ (Nat.two_pow_pos _)]

end IpNet

/-! ## Contiguous netmasks -/

theorem maskBits_div_eq_iff {w len l : Nat} (hlen : len ≤ w) (hl : l ≤ w) :
    IpNet.maskBits w len / Nat.pow 2 (w - l) = Nat.pow 2 l - 1 ↔ l ≤ len := by
  have hbits : ∀ i, (IpNet.maskBits w len / 2 ^ (w - l)).testBit i =
      decide (l - len ≤ i ∧ i < l) := by
    intro i
    rw [Nat.testBit_div_two_pow, IpNet.testBit_maskBits hlen]
    exact decide_eq_decide.2 (by omega)
  rw [Nat.pow_eq, Nat.pow_eq]
  constructor
  · -- the lowest of the `l` bits is set only when no zero bit of the mask lies below it
    intro h
    refine Nat.le_of_not_lt fun hgt => ?_
    have h0 := congrArg (fun x => Nat.testBit x 0) h
    simp only [hbits, Nat.testBit_two_pow_sub_one, decide_eq_decide] at h0
    omega
  · intro hle
    apply Nat.eq_of_testBit_eq
    intro i
    rw [hbits, Nat.testBit_two_pow_sub_one]
    exact decide_eq_decide.2 (by omega)

theorem find?_reverse_range {p : Nat → Bool} {w len : Nat} (hlen : len ≤ w)
    (hp : ∀ l ≤ w, p l = true ↔ l ≤ len) : (List.range (w + 1)).reverse.find? p = some len := by
  induction w with
  | zero =>
    have h0 : len = 0 := by omega
    subst h0
    simp [(hp 0 (Nat.le_refl _)).2 (Nat.le_refl _)]
  | succ w ih =>
    rw [List.range_succ, List.reverse_append, List.reverse_singleton, List.singleton_append,
      List.find?_cons]
    by_cases htop : len = w + 1
    · subst htop
      simp [(hp (w + 1) (Nat.le_refl _)).2 (Nat.le_refl _)]
    · have hno : p (w + 1) = false := by
        rw [Bool.eq_false_iff]
        intro h
        exact htop (by have := (hp (w + 1) (Nat.le_refl _)).1 h; omega)
      rw [hno]
      exact ih (by omega) fun l hl => hp l (by omega)

/-- A netmask is contiguous exactly when it is the mask of a prefix length, which is then its
prefix length. -/
theorem prefixOfMask?_eq_some_iff {w mask len : Nat} :
    prefixOfMask? w mask = some len ↔ len ≤ w ∧ mask = IpNet.maskBits w len := by
  unfold prefixOfMask?
  dsimp only
  constructor
  · intro h
    split at h
    next l hfind =>
      split at h
      next hlow =>
        cases h
        have htop := (List.find?_eq_some_iff_append.1 hfind).1
        have hmem := List.mem_reverse.1 (List.mem_of_find?_eq_some hfind)
        rw [beq_iff_eq] at htop hlow
        have hl : len ≤ w := Nat.lt_succ_iff.1 (List.mem_range.1 hmem)
        -- the top bits are all set and the bits below them clear
        refine ⟨hl, ?_⟩
        rw [← Nat.div_add_mod mask (Nat.pow 2 (w - len)), htop, hlow, Nat.add_zero, Nat.mul_comm]
        rfl
      next => cases h
    next => cases h
  · rintro ⟨hlen, rfl⟩
    rw [find?_reverse_range hlen fun l hl => by rw [beq_iff_eq]; exact maskBits_div_eq_iff hlen hl]
    have hlow : IpNet.maskBits w len % 2 ^ (w - len) = 0 := by
      rw [IpNet.maskBits, Nat.pow_eq, Nat.pow_eq]
      exact Nat.mul_mod_left _ _
    simp [hlow]

end ContainerCpi.Net
