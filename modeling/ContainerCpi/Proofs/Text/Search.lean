import Mathlib.Data.List.Infix
import ContainerCpi.Text.Basic

/-!
# Searching text

`Text.containsList` is the contiguous-sublist relation of `List.IsInfix`, so the engine's
message classifiers can be reasoned about with the list library: a message contains a
needle when one of the pieces it is assembled from does.

The converse needs more: that no occurrence starts anywhere before a given point of a
message built from fixed text and names.  `NoStartIn` says so of one piece; a fixed piece
is checked by evaluation, and a name without blanks is passed over when the needle has a
blank and the text after the name disagrees with the needle there.
-/

namespace ContainerCpi.Text

theorem containsList_iff_isInfix (hay needle : List Char) :
    containsList hay needle = true ↔ needle <:+: hay := by
  induction hay with
  | nil => simp [containsList, List.infix_nil]
  | cons c rest ih =>
    rw [containsList, Bool.or_eq_true, ih, List.isPrefixOf_iff_prefix, List.infix_cons_iff]

theorem contains_iff_isInfix (s needle : String) :
    contains s needle = true ↔ needle.toList <:+: s.toList :=
  containsList_iff_isInfix _ _

theorem contains_append_of_right {s t needle : String} (h : contains t needle = true) :
    contains (s ++ t) needle = true := by
  rw [contains_iff_isInfix, String.toList_append] at *
  exact h.trans (List.suffix_append _ _).isInfix

/-! ## Where a needle cannot start -/

/-- No occurrence of `needle` starts inside `A` when `B` follows it. -/
def NoStartIn (needle A B : List Char) : Prop := ∀ k < A.length, ¬needle <+: A.drop k ++ B

theorem noStartIn_cons {needle A B : List Char} {c : Char} :
    NoStartIn needle (c :: A) B ↔ ¬needle <+: c :: (A ++ B) ∧ NoStartIn needle A B := by
  constructor
  · intro h
    refine ⟨h 0 (Nat.succ_pos _), fun k hk => h (k + 1) (Nat.succ_lt_succ hk)⟩
  · rintro ⟨hhere, hrest⟩ k hk
    cases k with
    | zero => exact hhere
    | succ k => exact hrest k (Nat.lt_of_succ_lt_succ hk)

theorem containsList_append_of_noStartIn {needle A B : List Char} (h : NoStartIn needle A B) :
    containsList (A ++ B) needle = containsList B needle := by
  induction A with
  | nil => rfl
  | cons c A ih =>
    obtain ⟨hhere, hrest⟩ := noStartIn_cons.1 h
    rw [List.cons_append, containsList, ih hrest]
    have hno : needle.isPrefixOf (c :: (A ++ B)) = false := by
      rw [Bool.eq_false_iff, ne_eq, List.isPrefixOf_iff_prefix]
      exact hhere
    rw [hno, Bool.false_or]

theorem NoStartIn.append {needle A B C : List Char} (hA : NoStartIn needle A (B ++ C))
    (hB : NoStartIn needle B C) : NoStartIn needle (A ++ B) C := by
  induction A with
  | nil => exact hB
  | cons c A ih =>
    obtain ⟨hhere, hrest⟩ := noStartIn_cons.1 hA
    rw [List.cons_append]
    refine noStartIn_cons.2 ⟨?_, ih hrest⟩
    rwa [List.append_assoc]

theorem noStartIn_of_clash {needle F B : List Char}
    (hclash : ∀ j < F.length,
      (F.drop j).isPrefixOf needle = false ∧ needle.isPrefixOf (F.drop j) = false) :
    NoStartIn needle F B := by
  intro k hk hpre
  obtain ⟨hleft, hright⟩ := hclash k hk
  rcases List.prefix_or_prefix_of_prefix hpre (List.prefix_append (F.drop k) B) with h | h
  · rw [← List.isPrefixOf_iff_prefix, hright] at h
    cases h
  · rw [← List.isPrefixOf_iff_prefix, hleft] at h
    cases h

/-- A needle whose first blank follows `lead` starts nowhere in a word without blanks, when
the fixed text `F` after the word disagrees with every part of the needle from the word's
possible ends on. -/
theorem noStartIn_word {lead rest X F Z : List Char} (hX : ' ' ∉ X)
    (hclash : ∀ m ≤ lead.length,
      ((lead ++ ' ' :: rest).drop m).isPrefixOf F = false ∧
        F.isPrefixOf ((lead ++ ' ' :: rest).drop m) = false) :
    NoStartIn (lead ++ ' ' :: rest) X (F ++ Z) := by
  intro k _ hpre
  have hx : ' ' ∉ X.drop k := fun hmem => hX (List.mem_of_mem_drop hmem)
  obtain ⟨t, ht⟩ := hpre
  rcases List.append_eq_append_iff.1 ht with ⟨a, hxa, -⟩ | ⟨c, hneedle, hrestF⟩
  · -- the whole needle inside the word would put its blank there
    exact hx (hxa ▸ List.mem_append_left a (List.mem_append_right lead List.mem_cons_self))
  · -- the word is an initial part of the needle, ending before its first blank
    have hm : ∃ m ≤ lead.length, (lead ++ ' ' :: rest).drop m = c := by
      rcases List.append_eq_append_iff.1 hneedle with ⟨a, hxa, hblank⟩ | ⟨d, hlead, hc⟩
      · cases a with
        | nil =>
          refine ⟨lead.length, le_refl _, ?_⟩
          simpa [List.drop_left] using hblank
        | cons b a =>
          simp only [List.cons_append, List.cons.injEq] at hblank
          exact absurd (hxa ▸ List.mem_append_right lead (hblank.1 ▸ List.mem_cons_self)) hx
      · refine ⟨(X.drop k).length, by rw [hlead, List.length_append]; omega, ?_⟩
        rw [hneedle, List.drop_left]
    obtain ⟨m, hmle, hdrop⟩ := hm
    obtain ⟨hleft, hright⟩ := hclash m hmle
    rw [hdrop] at hleft hright
    have hcF : c <+: F ++ Z := ⟨t, hrestF.symm⟩
    rcases List.prefix_or_prefix_of_prefix hcF (List.prefix_append F Z) with h | h
    · rw [← List.isPrefixOf_iff_prefix, hleft] at h
      cases h
    · rw [← List.isPrefixOf_iff_prefix, hright] at h
      cases h

theorem splitOnce_eq_none {s : String} {sep : Char} (h : sep ∉ s.toList) :
    splitOnce s sep = none := by
  unfold splitOnce
  simp [List.idxOf?_eq_none_iff.2 h]

theorem splitOnce_append {a r : String} {c : Char} (ha : c ∉ a.toList) :
    splitOnce (a ++ String.singleton c ++ r) c = some (a, r) := by
  have hidx : (a.toList ++ c :: r.toList).idxOf? c = some a.toList.length := by
    rw [List.idxOf?_eq_some_iff]
    refine ⟨by simp, by simp, fun j hj hget => ha ?_⟩
    rw [List.getElem_append_left hj] at hget
    exact hget ▸ List.getElem_mem hj
  simp only [splitOnce, String.toList_append, String.toList_singleton, List.append_assoc,
    List.singleton_append, hidx, Option.some.injEq, Prod.mk.injEq]
  simp

theorem eq_of_splitOnce_eq_some {s a r : String} {c : Char}
    (h : splitOnce s c = some (a, r)) : s = a ++ String.singleton c ++ r ∧ c ∉ a.toList := by
  unfold splitOnce at h
  dsimp only at h
  split at h
  · rename_i i hi
    obtain ⟨hlt, hget, hbefore⟩ := List.idxOf?_eq_some_iff.1 hi
    simp only [Option.some.injEq, Prod.mk.injEq] at h
    obtain ⟨rfl, rfl⟩ := h
    refine ⟨?_, fun hmem => ?_⟩
    · apply String.toList_injective
      simp only [String.toList_append, String.toList_ofList, String.toList_singleton]
      conv_lhs => rw [← List.take_append_drop i s.toList]
      rw [List.drop_eq_getElem_cons hlt, hget]
      simp
    · obtain ⟨j, hj, hjc⟩ := List.getElem_of_mem hmem
      simp only [String.toList_ofList, List.length_take] at hj hjc
      rw [List.getElem_take] at hjc
      exact hbefore j (by omega) hjc
  · cases h

end ContainerCpi.Text
