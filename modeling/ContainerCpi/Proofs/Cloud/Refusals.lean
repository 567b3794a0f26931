import ContainerCpi.Proofs.Text.Search
import ContainerCpi.Proofs.Net.Render
import ContainerCpi.Cloud.Networking
import ContainerCpi.Proofs.Engine.Objects

/-!
# Reading the engine's refusals to create a network

The engine refuses a network whose subnet overlaps another's with a message that quotes
both names; the network manager reads the existing network's name back out of it.  That
reading is right when the names hold no blanks: the refusal is then not taken for "already
exists", and the first place the overlap words fit is the real one, whose name is the
existing network's.  The refusals of the built-in network names are read as neither.
-/

namespace ContainerCpi

open Text

/-- The engine's refusal of network `n` whose subnet overlaps network `e`'s. -/
def overlapRefusal (n e family : String) : EngineError :=
  .api 403 s!"cannot create network {n} (br-{n}): conflicts with network {e} (br-{e}): networks have overlapping {family}"

theorem overlapRefusal_message (n e family : String) :
    (overlapRefusal n e family).message.toList =
      "engine returned 403: cannot create network ".toList ++ (n.toList ++ (" (br-".toList ++
        (n.toList ++ ("): ".toList ++ (Networking.conflictLead ++ (e.toList ++ (" (br-".toList ++
          (e.toList ++ ("): networks have overlapping ".toList ++ family.toList))))))))) := by
  have h403 : "engine returned " ++ toString (403 : Nat) ++ ": " ++ "cannot create network " =
      "engine returned 403: cannot create network " := by decide
  have hlead : "): conflicts with network ".toList = "): ".toList ++ Networking.conflictLead := by
    decide
  have hfixed : ∀ X : String, "engine returned " ++ (toString (403 : Nat) ++ (": " ++
      ("cannot create network " ++ X))) = "engine returned 403: cannot create network " ++ X := by
    intro X
    rw [← h403]
    simp only [String.append_assoc]
  show ("engine returned " ++ toString (403 : Nat) ++ ": " ++ ("cannot create network " ++ n ++
    " (br-" ++ n ++ "): conflicts with network " ++ e ++ " (br-" ++ e ++
    "): networks have overlapping " ++ family)).toList = _
  simp only [String.append_assoc]
  rw [hfixed]
  simp only [String.toList_append, hlead, List.append_assoc]

/-! ## Searching for "already exists" -/

theorem containsList_fixed {needle F B : List Char}
    (hclash : ∀ j < F.length,
      (F.drop j).isPrefixOf needle = false ∧ needle.isPrefixOf (F.drop j) = false) :
    containsList (F ++ B) needle = containsList B needle :=
  containsList_append_of_noStartIn (noStartIn_of_clash hclash)

theorem containsList_word {lead rest X F Z : List Char} (hX : ' ' ∉ X)
    (hclash : ∀ m ≤ lead.length,
      ((lead ++ ' ' :: rest).drop m).isPrefixOf F = false ∧
        F.isPrefixOf ((lead ++ ' ' :: rest).drop m) = false) :
    containsList (X ++ (F ++ Z)) (lead ++ ' ' :: rest) = containsList (F ++ Z) (lead ++ ' ' :: rest) :=
  containsList_append_of_noStartIn (noStartIn_word hX hclash)

theorem blank_not_mem {s : String} (h : Blankless s) : ' ' ∉ s.toList :=
  fun hmem => absurd (h ' ' hmem) (by decide)

theorem isAlreadyExists_overlapRefusal {n e family : String} (hn : Blankless n) (he : Blankless e)
    (hfamily : family = "IPv4" ∨ family = "IPv6") :
    (overlapRefusal n e family).isAlreadyExists = false := by
  have hneedle : "already exists".toList = "already".toList ++ ' ' :: "exists".toList := by decide
  rw [EngineError.isAlreadyExists, Text.contains, overlapRefusal_message, hneedle]
  refine (containsList_fixed (by decide)).trans ?_
  refine (containsList_word (blank_not_mem hn) (by decide)).trans ?_
  refine (containsList_fixed (by decide)).trans ?_
  refine (containsList_word (blank_not_mem hn) (by decide)).trans ?_
  refine (containsList_fixed (by decide)).trans ?_
  refine (containsList_fixed (by decide)).trans ?_
  refine (containsList_word (blank_not_mem he) (by decide)).trans ?_
  refine (containsList_fixed (by decide)).trans ?_
  refine (containsList_word (blank_not_mem he) (by decide)).trans ?_
  rcases hfamily with rfl | rfl <;> decide

/-! ## Reading the existing network's name -/

namespace Networking

theorem conflictIn_append_of_noStartIn {A B : List Char} (h : NoStartIn conflictLead A B) :
    conflictIn (A ++ B) = conflictIn B := by
  induction A with
  | nil => rfl
  | cons c A ih =>
    obtain ⟨hhere, hrest⟩ := noStartIn_cons.1 h
    have hno : conflictLead.isPrefixOf (c :: (A ++ B)) = false := by
      rw [Bool.eq_false_iff, ne_eq, List.isPrefixOf_iff_prefix]
      exact hhere
    rw [List.cons_append, conflictIn, hno]
    exact ih hrest

theorem conflictIn_fixed {F B : List Char}
    (hclash : ∀ j < F.length,
      (F.drop j).isPrefixOf conflictLead = false ∧ conflictLead.isPrefixOf (F.drop j) = false) :
    conflictIn (F ++ B) = conflictIn B :=
  conflictIn_append_of_noStartIn (noStartIn_of_clash hclash)

theorem conflictIn_word {X F Z : List Char} (hX : ' ' ∉ X)
    (hclash : ∀ m ≤ "conflicts".length,
      (("conflicts".toList ++ ' ' :: "with network ".toList).drop m).isPrefixOf F = false ∧
        F.isPrefixOf (("conflicts".toList ++ ' ' :: "with network ".toList).drop m) = false) :
    conflictIn (X ++ (F ++ Z)) = conflictIn (F ++ Z) := by
  have hsplit : conflictLead = "conflicts".toList ++ ' ' :: "with network ".toList := by decide
  refine conflictIn_append_of_noStartIn ?_
  rw [hsplit]
  exact noStartIn_word hX hclash

theorem overlapAt_overlapWords {d : Char} (Z : List Char) (hd : d = '4' ∨ d = '6') :
    overlapAt (overlapWords ++ d :: Z) = true := by
  unfold overlapAt
  rw [List.drop_left]
  rcases hd with rfl | rfl <;> simp [List.isPrefixOf_iff_prefix]

theorem overlapFollows_of {W Z : List Char} {d : Char} (hW : W ≠ []) (hline : '\n' ∉ W)
    (hd : d = '4' ∨ d = '6') : overlapFollows (W ++ (overlapWords ++ d :: Z)) = true := by
  induction W with
  | nil => exact absurd rfl hW
  | cons c W ih =>
    have hc : (c != '\n') = true := by
      rw [bne_iff_ne]
      rintro rfl
      exact hline List.mem_cons_self
    rw [List.cons_append, overlapFollows, hc, Bool.true_and]
    cases W with
    | nil => simp [overlapAt_overlapWords Z hd]
    | cons c' W =>
      rw [ih (List.cons_ne_nil _ _) (fun h => hline (List.mem_cons_of_mem _ h)), Bool.or_true]

theorem conflictIn_lead {X T : List Char} (hX : X ≠ []) (hblank : ∀ c ∈ X, isSpace c = false)
    (hfollows : overlapFollows T = true) :
    conflictIn (conflictLead ++ (X ++ ' ' :: '(' :: T)) = some (String.ofList X) := by
  obtain ⟨c, rest, hcr⟩ : ∃ c rest, conflictLead ++ (X ++ ' ' :: '(' :: T) = c :: rest :=
    ⟨'c', _, rfl⟩
  have hpre : conflictLead.isPrefixOf (c :: rest) = true := by
    rw [← hcr, List.isPrefixOf_iff_prefix]
    exact List.prefix_append _ _
  have hafter : (c :: rest).drop conflictLead.length = X ++ ' ' :: '(' :: T := by
    rw [← hcr, List.drop_left]
  have hname : (X ++ ' ' :: '(' :: T).takeWhile (fun x => !isSpace x) = X := by
    rw [List.takeWhile_append_of_pos (fun x hx => by simp [hblank x hx])]
    simp [isSpace]
  have hnonempty : X.isEmpty = false := List.isEmpty_eq_false_iff.2 hX
  rw [hcr, conflictIn]
  simp only [hpre, if_true, hafter, hname, List.drop_left]
  simp [hnonempty, hfollows]

end Networking

/-- The network an overlap refusal names is read back whole when both names are words
without blanks. -/
theorem subnetConflict?_overlapRefusal {n e family : String} (hn : Blankless n) (he : Blankless e)
    (hnonempty : e ≠ "") (hfamily : family = "IPv4" ∨ family = "IPv6") :
    Networking.subnetConflict? (overlapRefusal n e family).message = some e := by
  have hbr : " (br-".toList = ' ' :: '(' :: "br-".toList := by decide
  have hline : '\n' ∉ "br-".toList ++ e.toList := by
    rw [List.mem_append]
    rintro (h | h)
    · revert h
      decide
    · exact absurd (he _ h) (by decide)
  have htail : "): networks have overlapping ".toList ++ family.toList =
      Networking.overlapWords ++ (if family = "IPv4" then '4' else '6') :: [] := by
    rcases hfamily with rfl | rfl <;> decide
  rw [Networking.subnetConflict?, overlapRefusal_message]
  -- the conflict words start nowhere before the existing network's name
  refine (Networking.conflictIn_fixed (by decide)).trans ?_
  refine (Networking.conflictIn_word (blank_not_mem hn) (by decide)).trans ?_
  refine (Networking.conflictIn_fixed (by decide)).trans ?_
  refine (Networking.conflictIn_word (blank_not_mem hn) (by decide)).trans ?_
  refine (Networking.conflictIn_fixed (by decide)).trans ?_
  have hfollows : Networking.overlapFollows ("br-".toList ++ (e.toList ++
      (Networking.overlapWords ++ (if family = "IPv4" then '4' else '6') :: []))) = true := by
    rw [← List.append_assoc]
    exact Networking.overlapFollows_of (by simp) hline (by split <;> simp)
  rw [hbr, htail, List.cons_append, List.cons_append,
    Networking.conflictIn_lead (by simpa using hnonempty) he hfollows, String.ofList_toList]

/-! ## Why the engine refuses a creation -/

/-- The engine's refusal of a network under a built-in name. -/
def predefinedRefusal (n : String) : EngineError :=
  .api 403 s!"operation is not permitted on predefined {n} network"

theorem predefinedRefusal_unread {n : String} (h : n = "bridge" ∨ n = "host" ∨ n = "none") :
    (predefinedRefusal n).isAlreadyExists = false ∧
      Networking.subnetConflict? (predefinedRefusal n).message = none := by
  rcases h with rfl | rfl | rfl <;> exact ⟨by decide, by decide⟩

namespace MemoryEngine

theorem createNetwork_of_ok {s : MemoryEngine} {r : NetworkRequest}
    (h : (s.createNetwork r).1 = .ok ()) :
    (s.createNetwork r).2.networks = SortedMap.insert r.name r.subnet s.networks := by
  revert h
  unfold createNetwork
  dsimp only
  split
  · intro h
    cases h
  · split
    · intro h
      cases h
    · split
      · intro h
        cases h
      · intro _
        rfl

/-- The engine refuses a network under a built-in name, under a name it holds, or whose
subnet overlaps that of a network it holds. -/
theorem createNetwork_refusal {s : MemoryEngine} {r : NetworkRequest} {e : EngineError}
    (h : (s.createNetwork r).1 = .error e) :
    (r.name = "bridge" ∨ r.name = "host" ∨ r.name = "none") ∧ e = predefinedRefusal r.name ∨
      SortedMap.contains s.networks r.name = true ∧
        e = .conflict ("network with name " ++ r.name ++ " already exists") ∨
      ∃ E x S, (E, some x) ∈ s.networks ∧ r.subnet = some S ∧
        e = overlapRefusal r.name E (if S.addr.isV6 then "IPv6" else "IPv4") := by
  revert h
  unfold createNetwork
  dsimp only
  split
  · rename_i hbuiltin
    intro h
    cases h
    refine .inl ⟨by simpa [or_assoc] using hbuiltin, rfl⟩
  · split
    · rename_i htaken
      intro h
      cases h
      exact .inr (.inl ⟨htaken, rfl⟩)
    · split
      · rename_i E x S hfind hS
        intro h
        cases h
        rw [hS, Option.bind_some] at hfind
        have hmem := List.mem_of_find?_eq_some hfind
        -- the network found has a subnet, the one that overlaps
        obtain ⟨y, rfl⟩ : ∃ y, x = some y := by
          have hpred := List.find?_some hfind
          cases x with
          | none => simp at hpred
          | some y => exact ⟨y, rfl⟩
        exact .inr (.inr ⟨E, y, S, hmem, hS, rfl⟩)
      · intro h
        cases h

theorem serve_networks_of_error {s : MemoryEngine} {c : Call} {e : EngineError}
    (h : (s.serve c).1 = .error e) : (s.serve c).2.networks = s.networks :=
  congrArg EngineObjects.networks (serve_objects_of_error h)

theorem serve_createNetwork_of_ok {s : MemoryEngine} {r : NetworkRequest}
    (hq : s.queued .createNetwork = []) (h : (s.serve (.createNetwork r)).1 = .ok ()) :
    (s.serve (.createNetwork r)).2.networks = SortedMap.insert r.name r.subnet s.networks := by
  rw [serve_of_not_queued hq] at h ⊢
  have hadded := createNetwork_of_ok h
  rwa [enter_networks] at hadded

theorem serve_createNetwork_refusal {s : MemoryEngine} {r : NetworkRequest} {e : EngineError}
    (hq : s.queued .createNetwork = []) (h : (s.serve (.createNetwork r)).1 = .error e) :
    (r.name = "bridge" ∨ r.name = "host" ∨ r.name = "none") ∧ e = predefinedRefusal r.name ∨
      SortedMap.contains s.networks r.name = true ∧
        e = .conflict ("network with name " ++ r.name ++ " already exists") ∨
      ∃ E x S, (E, some x) ∈ s.networks ∧ r.subnet = some S ∧
        e = overlapRefusal r.name E (if S.addr.isV6 then "IPv6" else "IPv4") := by
  rw [serve_of_not_queued hq] at h
  have hrefused := createNetwork_refusal h
  rwa [enter_networks] at hrefused

end MemoryEngine

end ContainerCpi
