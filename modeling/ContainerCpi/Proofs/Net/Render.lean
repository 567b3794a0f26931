import Mathlib.Tactic.IntervalCases
import ContainerCpi.Net.Prefix
import ContainerCpi.Text.Basic

/-!
# Rendered addresses hold no blanks

An address is written with decimal or hexadecimal digits, dots and colons, and a subnet adds
a slash and its length: no whitespace anywhere.  A subnet's text can therefore name an
engine network that the engine's refusal messages quote whole.
-/

namespace ContainerCpi

namespace Text

/-- Text with no whitespace. -/
def Blankless (s : String) : Prop := ∀ c ∈ s.toList, isSpace c = false

instance (s : String) : Decidable (Blankless s) :=
  decidable_of_iff (s.toList.all fun c => !isSpace c) (by simp [Blankless])

theorem Blankless.append {s t : String} (hs : Blankless s) (ht : Blankless t) :
    Blankless (s ++ t) := by
  intro c hc
  rw [String.toList_append, List.mem_append] at hc
  rcases hc with hc | hc
  · exact hs c hc
  · exact ht c hc

end Text

namespace Net

open Text

theorem isSpace_digitChar (d : Nat) : Text.isSpace (Nat.digitChar d) = false := by
  by_cases hd : d < 16
  · interval_cases d <;> decide
  · rw [Nat.digitChar_eq_star.2 (by omega)]
    decide

theorem digitChar_of_mem_toDigits {b n : Nat} {c : Char} (hb : 1 < b) (h : c ∈ Nat.toDigits b n) :
    ∃ d, c = Nat.digitChar d := by
  induction n using Nat.strong_induction_on with
  | _ n ih =>
    rw [Nat.toDigits_eq_if hb] at h
    split at h
    · exact ⟨n, List.mem_singleton.1 h⟩
    · rcases List.mem_append.1 h with h | h
      · exact ih (n / b) (Nat.div_lt_self (by omega) hb) h
      · exact ⟨_, List.mem_singleton.1 h⟩

theorem blankless_ofList_toDigits {b : Nat} (hb : 1 < b) (n : Nat) :
    Blankless (String.ofList (Nat.toDigits b n)) := by
  intro c hc
  rw [String.toList_ofList] at hc
  obtain ⟨d, rfl⟩ := digitChar_of_mem_toDigits hb hc
  exact isSpace_digitChar d

theorem blankless_toString (n : Nat) : Blankless (toString n) := by
  rw [Nat.toString_eq_ofList_toDigits]
  exact blankless_ofList_toDigits (by decide) n

theorem blankless_intercalate {sep : String} {parts : List String} (hsep : Blankless sep)
    (hparts : ∀ p ∈ parts, Blankless p) : Blankless (sep.intercalate parts) := by
  induction parts with
  | nil => intro c hc; simp at hc
  | cons p rest ih =>
    cases rest with
    | nil => simpa using hparts p List.mem_cons_self
    | cons q rest =>
      rw [String.intercalate_cons_cons]
      exact ((hparts p List.mem_cons_self).append hsep).append
        (ih fun x hx => hparts x (List.mem_cons_of_mem _ hx))

theorem blankless_ipv4 (b : Nat) : Blankless (Render.ipv4 b) := by
  have hdot : Blankless "." := by decide
  unfold Render.ipv4
  exact ((((((blankless_toString _).append hdot).append (blankless_toString _)).append hdot).append
    (blankless_toString _)).append hdot).append (blankless_toString _)

theorem blankless_joinGroups (gs : List Nat) : Blankless (Render.joinGroups gs) := by
  refine blankless_intercalate (by decide) fun p hp => ?_
  obtain ⟨g, -, rfl⟩ := List.mem_map.1 hp
  exact blankless_ofList_toDigits (by decide) g

theorem blankless_ipv6 (b : Nat) : Blankless (Render.ipv6 b) := by
  unfold Render.ipv6
  split
  · exact (show Blankless "::ffff:" by decide).append (blankless_ipv4 _)
  · dsimp only
    split
    · exact ((blankless_joinGroups _).append (by decide)).append (blankless_joinGroups _)
    · exact blankless_joinGroups _

theorem IpAddr.blankless_render (a : IpAddr) : Blankless a.render := by
  cases a with
  | v4 b => exact blankless_ipv4 b
  | v6 b => exact blankless_ipv6 b

theorem IpNet.blankless_render (S : IpNet) : Blankless S.render ∧ '/' ∈ S.render.toList := by
  refine ⟨((IpAddr.blankless_render _).append (by decide)).append (blankless_toString _), ?_⟩
  simp [IpNet.render, String.toList_append]

end Net

end ContainerCpi
