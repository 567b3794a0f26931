import ContainerCpi.Proofs.Cloud.Acceptance
import ContainerCpi.Proofs.Engine.PlatformLabel
import ContainerCpi.Proofs.Text.Decimal

/-!
# The grammar of CPU sets

A CPU set like `0-3,6` names CPUs of the host.  Its check splits it at commas, trims each part
and passes over blank ones; each other part is a numeral, or two numerals joined by the part's
first `-`, blanks allowed around each numeral.  The numerals are signed 64-bit decimals
(`Resources.SignedDecimal`, read by `parseI64?`: `Resources.parseI64?_eq_some_iff`).

The check accepts exactly the CPU sets whose non-blank parts follow this grammar
(`Resources.CpusetPart`) with the range in order and its end below the host's CPU count
(`Resources.checkCpuset_accepts_exactly`).  As the first `-` of a part ends its start, the
start has no sign `-`: no part names a negative CPU (`Resources.CpusetPart.nonneg`), so every
CPU an accepted set names is one of the host's.
-/

namespace ContainerCpi

namespace Text

theorem mem_of_mem_trim {s : String} {c : Char} (h : c ∈ (trim s).toList) : c ∈ s.toList := by
  rw [toList_trim, List.mem_reverse] at h
  have hback := (dropSpace_suffix _).subset h
  rw [List.mem_reverse] at hback
  exact (dropSpace_suffix _).subset hback

theorem not_mem_of_splitOnce_eq_none {s : String} {sep : Char} (h : splitOnce s sep = none) :
    sep ∉ s.toList := by
  unfold splitOnce at h
  dsimp only at h
  split at h
  · cases h
  · rename_i hidx
    exact List.idxOf?_eq_none_iff.1 hidx

end Text

namespace Resources

/-! ## Signed decimals -/

/-- `cs` is a signed decimal numeral of `v`: an optional sign, some zeros, and the decimal digits
of `|v|`, the sign `-` negating the value. -/
inductive SignedDecimal : List Char → Int → Prop
  | plain {k n : Nat} : SignedDecimal (List.replicate k '0' ++ Nat.toDigits 10 n) n
  | plus {k n : Nat} : SignedDecimal ('+' :: (List.replicate k '0' ++ Nat.toDigits 10 n)) n
  | minus {k n : Nat} : SignedDecimal ('-' :: (List.replicate k '0' ++ Nat.toDigits 10 n)) (-n)

/-- A numeral of a signed 64-bit integer. -/
def I64Decimal (t : String) (v : Int) : Prop :=
  SignedDecimal t.toList v ∧ -2 ^ 63 ≤ v ∧ v < 2 ^ 63

open Text (DigitsOf digitsOf_head)

theorem signedDecimal_minus_iff {ds : List Char} {v : Int} :
    SignedDecimal ('-' :: ds) v ↔ ∃ n, DigitsOf ds n ∧ v = -n := by
  constructor
  · intro h
    generalize hcs : '-' :: ds = cs at h
    cases h with
    | plain =>
      -- a numeral without sign starts with a digit
      have hdigit := digitsOf_head ⟨_, rfl⟩ (c := '-') (by rw [← hcs]; rfl)
      exact absurd hdigit (by decide)
    | plus => exact absurd (List.cons_eq_cons.1 hcs).1 (by decide)
    | minus => exact ⟨_, ⟨_, (List.cons_eq_cons.1 hcs).2⟩, rfl⟩
  · rintro ⟨n, ⟨k, rfl⟩, rfl⟩
    exact .minus

theorem signedDecimal_plus_iff {ds : List Char} {v : Int} :
    SignedDecimal ('+' :: ds) v ↔ ∃ n, DigitsOf ds n ∧ v = n := by
  constructor
  · intro h
    generalize hcs : '+' :: ds = cs at h
    cases h with
    | plain =>
      have hdigit := digitsOf_head ⟨_, rfl⟩ (c := '+') (by rw [← hcs]; rfl)
      exact absurd hdigit (by decide)
    | plus => exact ⟨_, ⟨_, (List.cons_eq_cons.1 hcs).2⟩, rfl⟩
    | minus => exact absurd (List.cons_eq_cons.1 hcs).1 (by decide)
  · rintro ⟨n, ⟨k, rfl⟩, rfl⟩
    exact .plus

theorem signedDecimal_unsigned_iff {cs : List Char} {v : Int} (hminus : cs.head? ≠ some '-')
    (hplus : cs.head? ≠ some '+') : SignedDecimal cs v ↔ ∃ n, DigitsOf cs n ∧ v = n := by
  constructor
  · intro h
    cases h with
    | plain => exact ⟨_, ⟨_, rfl⟩, rfl⟩
    | plus => exact absurd rfl hplus
    | minus => exact absurd rfl hminus
  · rintro ⟨n, ⟨k, rfl⟩, rfl⟩
    exact .plain

theorem foldl_digits_int (ds : List Char) (init : Nat) :
    ds.foldl (fun (acc : Int) c => acc * 10 + ((c.toNat - 48 : Nat) : Int)) (init : Int) =
      ((ds.foldl (fun acc c => acc * 10 + (c.toNat - 48)) init : Nat) : Int) := by
  induction ds generalizing init with
  | nil => rfl
  | cons c rest ih =>
    rw [List.foldl_cons, List.foldl_cons, ← ih]
    push_cast
    rfl

theorem readSigned_eq_some_iff (ds : List Char) (sign : Int → Int) (v : Int) :
    (if (ds.isEmpty || !ds.all Char.isDigit) = true then none
      else if decide (-Int.pow 2 63 ≤ sign (Text.numeralValue ds)) &&
          decide (sign (Text.numeralValue ds) < Int.pow 2 63) then some (sign (Text.numeralValue ds))
        else none) = some v ↔
      (∃ n, DigitsOf ds n ∧ v = sign n) ∧ -2 ^ 63 ≤ v ∧ v < 2 ^ 63 := by
  have hpow : Int.pow 2 63 = 2 ^ 63 := rfl
  rw [Text.readDigits_eq_some_iff ds (fun n => sign n)
    (fun v => (decide (-Int.pow 2 63 ≤ v) && decide (v < Int.pow 2 63)) = true) v]
  simp only [hpow, Bool.and_eq_true, decide_eq_true_eq]

/-- The 64-bit reader accepts exactly the signed decimals of 64-bit integers. -/
theorem parseI64?_eq_some_iff (t : String) (v : Int) : parseI64? t = some v ↔ I64Decimal t v := by
  unfold parseI64? I64Decimal
  split
  rename_i negative ds hsign
  have hfold : ds.foldl (fun (acc : Int) c => acc * 10 + ((c.toNat - 48 : Nat) : Int)) 0 =
      (Text.numeralValue ds : Int) := foldl_digits_int ds 0
  rw [hfold]
  -- the sign decides how the digits' value is signed
  split at hsign
  · rename_i rest hcs
    obtain ⟨rfl, rfl⟩ := Prod.mk.inj hsign
    dsimp only
    rw [if_pos rfl, hcs, signedDecimal_minus_iff]
    exact readSigned_eq_some_iff rest (fun n => -n) v
  · rename_i rest hcs
    obtain ⟨rfl, rfl⟩ := Prod.mk.inj hsign
    dsimp only
    rw [if_neg Bool.false_ne_true, hcs, signedDecimal_plus_iff]
    exact readSigned_eq_some_iff rest id v
  · rename_i hminus hplus
    obtain ⟨rfl, rfl⟩ := Prod.mk.inj hsign
    dsimp only
    have hnotMinus : t.toList.head? ≠ some '-' := fun h =>
      hminus _ (List.head?_eq_some_iff.1 h).choose_spec
    have hnotPlus : t.toList.head? ≠ some '+' := fun h =>
      hplus _ (List.head?_eq_some_iff.1 h).choose_spec
    rw [if_neg Bool.false_ne_true, signedDecimal_unsigned_iff hnotMinus hnotPlus]
    exact readSigned_eq_some_iff t.toList id v

theorem SignedDecimal.nonneg {cs : List Char} {v : Int} (h : SignedDecimal cs v)
    (hminus : '-' ∉ cs) : 0 ≤ v := by
  cases h with
  | plain => exact Int.natCast_nonneg _
  | plus => exact Int.natCast_nonneg _
  | minus => exact absurd List.mem_cons_self hminus

/-! ## Parts of a CPU set -/

/-- A part of a CPU set naming the CPUs `x` through `y`: one numeral (`x = y`), or two joined by
the part's first `-`; blanks may stand around each numeral. -/
inductive CpusetPart : String → Int → Int → Prop
  | single {p : String} {x : Int} : '-' ∉ p.toList → I64Decimal (Text.trim p) x → CpusetPart p x x
  | range {a b : String} {x y : Int} : '-' ∉ a.toList → I64Decimal (Text.trim a) x →
      I64Decimal (Text.trim b) y → CpusetPart (a ++ "-" ++ b) x y

/-- The bounds the check reads from a part are the numerals of the grammar. -/
theorem cpusetPart_iff {part : String} {x y : Int} :
    CpusetPart part x y ↔
      parseI64? (Text.trim (cpusetBounds part).1) = some x ∧
        parseI64? (Text.trim (cpusetBounds part).2) = some y := by
  simp only [parseI64?_eq_some_iff]
  constructor
  · intro h
    cases h with
    | single hminus hx =>
      rw [cpusetBounds, Text.splitOnce_eq_none hminus]
      exact ⟨hx, hx⟩
    | range ha hx hy =>
      rename_i a b
      rw [cpusetBounds, show a ++ "-" ++ b = a ++ String.singleton '-' ++ b from rfl,
        Text.splitOnce_append ha]
      exact ⟨hx, hy⟩
  · unfold cpusetBounds
    rcases hsplit : Text.splitOnce part '-' with _ | ⟨a, b⟩
    · -- no `-`: one numeral, read twice
      rintro ⟨hx, hy⟩
      have hxy : some x = some y := by
        rw [← parseI64?_eq_some_iff] at hx hy
        rw [← hx, ← hy]
      cases hxy
      exact .single (Text.not_mem_of_splitOnce_eq_none hsplit) hx
    · rintro ⟨hx, hy⟩
      obtain ⟨rfl, ha⟩ := Text.eq_of_splitOnce_eq_some hsplit
      exact .range ha hx hy

theorem CpusetPart.unique {part : String} {x y x' y' : Int} (h : CpusetPart part x y)
    (h' : CpusetPart part x' y') : x = x' ∧ y = y' := by
  obtain ⟨hx, hy⟩ := cpusetPart_iff.1 h
  obtain ⟨hx', hy'⟩ := cpusetPart_iff.1 h'
  exact ⟨Option.some.inj (hx.symm.trans hx'), Option.some.inj (hy.symm.trans hy')⟩

theorem CpusetPart.nonneg {part : String} {x y : Int} (h : CpusetPart part x y) : 0 ≤ x := by
  cases h with
  | single hminus hx => exact hx.1.nonneg fun hmem => hminus (Text.mem_of_mem_trim hmem)
  | range ha hx _ => exact hx.1.nonneg fun hmem => ha (Text.mem_of_mem_trim hmem)

theorem cpusetPartRules_hold_iff (cpuset : String) (cpus : Int) (part : String) :
    (cpusetPartRules cpuset cpus part).all Rule.holds = true ↔
      ∃ x y, CpusetPart part x y ∧ x ≤ y ∧ y < cpus := by
  simp only [cpusetPart_iff]
  unfold cpusetPartRules
  split
  · rename_i x y hx hy
    simp only [hx, hy, List.all_cons, List.all_nil, Bool.and_true, Bool.and_eq_true,
      decide_eq_true_eq, Option.some.injEq]
    constructor
    · rintro ⟨hxy, hy⟩
      exact ⟨x, y, ⟨rfl, rfl⟩, hxy, hy⟩
    · rintro ⟨x, y, ⟨rfl, rfl⟩, hxy, hy⟩
      exact ⟨hxy, hy⟩
  · rename_i hmissing
    simp only [List.all_cons, List.all_nil, Bool.and_true, Bool.false_eq_true, false_iff,
      not_exists, not_and]
    intro x y hbounds
    exact absurd (hmissing x y hbounds.1 hbounds.2) id

/-! ## CPU sets -/

/-- The CPUs a CPU set names: `x` through `y` for each of its non-blank parts. -/
def CpusetNames (cpuset : String) (i : Int) : Prop :=
  ∃ part ∈ (cpuset.splitOn ",").map Text.trim, part ≠ "" ∧
    ∃ x y, CpusetPart part x y ∧ x ≤ i ∧ i ≤ y

theorem checkCpuset_eq_ok_iff (cpuset : String) (cpus : Int) :
    checkCpuset cpuset cpus = .ok () ↔
      ∀ part ∈ (cpuset.splitOn ",").map Text.trim, part ≠ "" →
        ∃ x y, CpusetPart part x y ∧ x ≤ y ∧ y < cpus := by
  rw [checkCpuset_eq, outcome_eq_ok_iff, cpusetRules, all_holds_flatMap]
  simp only [and_true, List.mem_filter, Bool.not_eq_true', String.isEmpty_eq_false_iff, and_imp,
    cpusetPartRules_hold_iff]

/-- **The grammar of CPU sets.**  A CPU set passes its check exactly when each non-blank part
is a numeral, or two numerals joined by its first `-`, with the range in order and its end
below the host's CPU count; and then every CPU it names is one of the host's, none negative. -/
theorem checkCpuset_accepts_exactly (cpuset : String) (cpus : Int) :
    (checkCpuset cpuset cpus = .ok () ↔
      ∀ part ∈ (cpuset.splitOn ",").map Text.trim, part ≠ "" →
        ∃ x y, CpusetPart part x y ∧ x ≤ y ∧ y < cpus) ∧
    (checkCpuset cpuset cpus = .ok () → ∀ i, CpusetNames cpuset i → 0 ≤ i ∧ i < cpus) := by
  refine ⟨checkCpuset_eq_ok_iff cpuset cpus, fun hok i hnamed => ?_⟩
  obtain ⟨part, hmem, hblank, x', y', hpart', hlow, hhigh⟩ := hnamed
  obtain ⟨x, y, hpart, -, hy⟩ := (checkCpuset_eq_ok_iff cpuset cpus).1 hok part hmem hblank
  -- the part names one range, which the check put inside the host
  obtain ⟨rfl, rfl⟩ := hpart'.unique hpart
  exact ⟨le_trans hpart'.nonneg hlow, lt_of_le_of_lt hhigh hy⟩

end Resources

end ContainerCpi
