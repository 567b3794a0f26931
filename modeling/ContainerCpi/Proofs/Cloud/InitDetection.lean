import ContainerCpi.Cloud.InitSystem
import ContainerCpi.Proofs.Text.Search
import ContainerCpi.Proofs.Text.Decimal

/-!
# Reading the init style off a probe's output

The probe prints the image's os-release file (or `OS_RELEASE_NOT_FOUND`) and whether the runit
supervisor exists (`RUNSVDIR_EXISTS` or `RUNSVDIR_MISSING`).  A line sets a key when the text
before its first `=`, trimmed, is the key; the value is the text after that `=`, trimmed and
stripped of the quotes around it (`SetsKey`).  Of several lines setting one key the last wins
(`LastSets`).

`classify_eq_systemd_iff` is the whole decision: an image boots systemd exactly when its
supervisor is missing, or when its os-release was found, names a release, and that release is
`noble` or has version 24.04 or later.  A version is read from its first two `.`-parts
(`ReleaseVersion`).

The classifier folds over the lines keeping the last codename and version; `foldl_lastValues`
says once what such a fold computes, and `releaseFacts_eq` applies it.
-/

namespace ContainerCpi.InitSystem

open Text

/-! ## Lines that set a key -/

/-- Line `line` sets `key` to `value`: before its first `=` stands the key, blanks around it
allowed, and after it the value, trimmed and stripped of surrounding quotes. -/
def SetsKey (line key value : String) : Prop :=
  ∃ k v, line = k ++ "=" ++ v ∧ '=' ∉ k.toList ∧ trim k = key ∧ value = trimChar (trim v) '"'

/-- The value line `line` gives `key`, if it sets it. -/
def keyValue? (key line : String) : Option String :=
  match splitOnce line '=' with
  | some (k, v) => if trim k = key then some (trimChar (trim v) '"') else none
  | none => none

theorem keyValue?_eq_some_iff {key line value : String} :
    keyValue? key line = some value ↔ SetsKey line key value := by
  constructor
  · intro h
    rcases hsplit : splitOnce line '=' with _ | ⟨k, v⟩
    · simp [keyValue?, hsplit] at h
    · obtain ⟨hline, hk⟩ := eq_of_splitOnce_eq_some hsplit
      simp only [keyValue?, hsplit, Option.ite_none_right_eq_some, Option.some.injEq] at h
      exact ⟨k, v, hline, hk, h.1, h.2.symm⟩
  · rintro ⟨k, v, rfl, hk, rfl, rfl⟩
    -- the separator written as the one-character text the split lemma names
    have hsplit : splitOnce (k ++ "=" ++ v) '=' = some (k, v) := by
      rw [show ("=" : String) = String.singleton '=' from rfl]
      exact splitOnce_append hk
    simp [keyValue?, hsplit]

/-- Of `lines`, the last that sets `key` sets it to `value`. -/
def LastSets (lines : List String) (key value : String) : Prop :=
  ∃ pre line post, lines = pre ++ line :: post ∧ SetsKey line key value ∧
    ∀ l ∈ post, ∀ v, ¬SetsKey l key v

theorem getLast?_filterMap_eq_some_iff {α β : Type} {f : α → Option β} {l : List α} {b : β} :
    (l.filterMap f).getLast? = some b ↔
      ∃ pre a post, l = pre ++ a :: post ∧ f a = some b ∧ ∀ x ∈ post, f x = none := by
  rw [List.getLast?_eq_some_iff]
  constructor
  · rintro ⟨front, hfront⟩
    obtain ⟨l₁, l₂, rfl, -, hl₂⟩ := List.filterMap_eq_append_iff.1 hfront
    obtain ⟨m₁, a, m₂, rfl, -, ha, hm₂⟩ := List.filterMap_eq_cons_iff.1 hl₂
    exact ⟨l₁ ++ m₁, a, m₂, by simp, ha, List.filterMap_eq_nil_iff.1 hm₂⟩
  · rintro ⟨pre, a, post, rfl, ha, hpost⟩
    refine ⟨pre.filterMap f, ?_⟩
    simp [List.filterMap_append, ha, List.filterMap_eq_nil_iff.2 hpost]

theorem lastSets_iff {lines : List String} {key value : String} :
    LastSets lines key value ↔ (lines.filterMap (keyValue? key)).getLast? = some value := by
  rw [getLast?_filterMap_eq_some_iff]
  simp only [LastSets, keyValue?_eq_some_iff]
  constructor
  · rintro ⟨pre, line, post, hlines, hsets, hpost⟩
    refine ⟨pre, line, post, hlines, hsets, fun l hl => ?_⟩
    cases hv : keyValue? key l with
    | none => rfl
    | some v => exact absurd (keyValue?_eq_some_iff.1 hv) (hpost l hl v)
  · rintro ⟨pre, line, post, hlines, hsets, hpost⟩
    refine ⟨pre, line, post, hlines, hsets, fun l hl v hv => ?_⟩
    rw [← keyValue?_eq_some_iff, hpost l hl] at hv
    cases hv

/-! ## The fold over the lines -/

theorem getD_getLast?_filterMap_cons {α β : Type} (f : α → Option β) (x : α) (xs : List α) (d : β) :
    ((x :: xs).filterMap f).getLast?.getD d = (xs.filterMap f).getLast?.getD ((f x).getD d) := by
  cases hx : f x with
  | none => simp [hx]
  | some y => simp [hx, List.getLast?_cons]

theorem foldl_lastValues {k₁ k₂ : String} {step : String × String × Bool → String → String × String × Bool}
    (hstep : ∀ c v f line, step (c, v, f) line =
      ((keyValue? k₁ line).getD c, (keyValue? k₂ line).getD v,
        f || ((keyValue? k₁ line).isSome || (keyValue? k₂ line).isSome)))
    (ls : List String) (c v : String) (f : Bool) :
    ls.foldl step (c, v, f) =
      ((ls.filterMap (keyValue? k₁)).getLast?.getD c, (ls.filterMap (keyValue? k₂)).getLast?.getD v,
        f || ls.any fun l => (keyValue? k₁ l).isSome || (keyValue? k₂ l).isSome) := by
  induction ls generalizing c v f with
  | nil => simp
  | cons line rest ih =>
    rw [List.foldl_cons, hstep, ih, getD_getLast?_filterMap_cons, getD_getLast?_filterMap_cons,
      List.any_cons, Bool.or_assoc]

theorem releaseFacts_eq (o : String) :
    releaseFacts o =
      (((lines o).filterMap (keyValue? "VERSION_CODENAME")).getLast?.getD "",
        ((lines o).filterMap (keyValue? "VERSION_ID")).getLast?.getD "",
        (lines o).any fun l => (keyValue? "VERSION_CODENAME" l).isSome ||
          (keyValue? "VERSION_ID" l).isSome) := by
  unfold releaseFacts
  rw [@foldl_lastValues "VERSION_CODENAME" "VERSION_ID" _ ?_ _ _ _ _, Bool.false_or]
  intro c v f line
  rcases hsplit : splitOnce line '=' with _ | ⟨k, val⟩
  · simp [keyValue?, hsplit]
  · -- the key decides which of the two values the line sets
    simp only [keyValue?, hsplit]
    by_cases hc : trim k = "VERSION_CODENAME"
    · simp [hc]
    · by_cases hi : trim k = "VERSION_ID"
      · simp [hi]
      · simp [hc, hi]

/-! ## Versions -/

theorem parseU32?_eq_some_iff {s : String} {n : Nat} :
    parseU32? s = some n ↔ UnsignedDecimal s n ∧ n < Nat.pow 2 32 :=
  @readBounded_eq_some_iff s n (· < Nat.pow 2 32) _

/-- `version` reads as release `major.minor`: its first `.`-part and its second, if any (else
zero), trimmed, are unsigned 32-bit decimals; later parts are ignored. -/
def ReleaseVersion (version : String) (major minor : Nat) : Prop :=
  ∃ first rest, version.splitOn "." = first :: rest ∧
    UnsignedDecimal (trim first) major ∧ major < Nat.pow 2 32 ∧
    (rest = [] ∧ minor = 0 ∨
      ∃ second more, rest = second :: more ∧ UnsignedDecimal (trim second) minor ∧ minor < Nat.pow 2 32)

theorem releaseVersion_of_parts {version first : String} {rest : List String} {major minor : Nat}
    (hparts : version.splitOn "." = first :: rest) :
    ReleaseVersion version major minor ↔ parseU32? (trim first) = some major ∧
      (rest = [] ∧ minor = 0 ∨ ∃ second more, rest = second :: more ∧ parseU32? (trim second) = some minor) := by
  simp only [ReleaseVersion, hparts, List.cons.injEq, parseU32?_eq_some_iff, and_assoc]
  constructor
  · rintro ⟨_, _, rfl, rfl, h⟩
    exact h
  · intro h
    exact ⟨first, rest, rfl, rfl, h⟩

theorem parseVersion?_eq_some_iff {version : String} {major minor : Nat} :
    parseVersion? version = some (major, minor) ↔ ReleaseVersion version major minor := by
  unfold parseVersion?
  split
  · rename_i hparts
    simp [ReleaseVersion, hparts]
  · rename_i first hparts
    rw [releaseVersion_of_parts hparts]
    rcases hp : parseU32? (trim first) with _ | a
    · simp
    · simp only [Option.map_some, Option.some.injEq, Prod.mk.injEq]
      constructor
      · rintro ⟨rfl, rfl⟩
        exact ⟨rfl, .inl ⟨trivial, rfl⟩⟩
      · rintro ⟨rfl, ⟨-, rfl⟩ | ⟨_, _, h, -⟩⟩
        · exact ⟨rfl, rfl⟩
        · cases h
  · rename_i first second more hparts
    rw [releaseVersion_of_parts hparts]
    simp only [List.cons_ne_nil, false_and, List.cons.injEq, false_or]
    split
    · rename_i a b ha hb
      simp [ha, hb]
    · rename_i hnot
      simp only [reduceCtorEq, false_iff, not_and, not_exists]
      intro ha _ _ hsecond hb
      exact hnot _ _ ha (hsecond.1 ▸ hb)

theorem splitOn_dot_empty : ("" : String).splitOn "." = [""] := by
  -- one unfolding of the search reaches the end of the empty text, and the rest computes
  simp only [String.splitOn]
  rw [String.splitOnAux]
  rfl

theorem parseVersion?_empty : parseVersion? "" = none := by
  unfold parseVersion?
  rw [splitOn_dot_empty]
  rfl

theorem bootsSystemd_iff (major minor : Nat) :
    bootsSystemd (major, minor) = true ↔ 24 < major ∨ major = 24 ∧ 4 ≤ minor := by
  simp [bootsSystemd]

/-! ## The decision -/

theorem classify_eq_systemd_iff_facts (o : String) :
    classify o = .systemd ↔ contains o "RUNSVDIR_MISSING" = true ∨
      ((releaseFacts o).2.2 = true ∧ contains o "OS_RELEASE_NOT_FOUND" = false ∧
        ((releaseFacts o).1 = "noble" ∨ (parseVersion? (releaseFacts o).2.1).any bootsSystemd = true)) := by
  unfold classify
  generalize releaseFacts o = r
  obtain ⟨codename, version, found⟩ := r
  dsimp only
  -- a table over the five flags the decision reads
  cases found <;> cases contains o "RUNSVDIR_MISSING" <;> cases contains o "OS_RELEASE_NOT_FOUND" <;>
    by_cases hc : codename = "noble" <;> cases (parseVersion? version).any bootsSystemd <;> simp [hc]

theorem found_iff (ls : List String) :
    (ls.any fun l => (keyValue? "VERSION_CODENAME" l).isSome || (keyValue? "VERSION_ID" l).isSome) = true ↔
      ∃ line ∈ ls, ∃ v, SetsKey line "VERSION_CODENAME" v ∨ SetsKey line "VERSION_ID" v := by
  simp only [List.any_eq_true, Bool.or_eq_true, Option.isSome_iff_exists, keyValue?_eq_some_iff]
  constructor
  · rintro ⟨line, hline, ⟨v, hv⟩ | ⟨v, hv⟩⟩
    · exact ⟨line, hline, v, .inl hv⟩
    · exact ⟨line, hline, v, .inr hv⟩
  · rintro ⟨line, hline, v, hv | hv⟩
    · exact ⟨line, hline, .inl ⟨v, hv⟩⟩
    · exact ⟨line, hline, .inr ⟨v, hv⟩⟩

theorem codename_eq_noble_iff (ls : List String) :
    (ls.filterMap (keyValue? "VERSION_CODENAME")).getLast?.getD "" = "noble" ↔
      LastSets ls "VERSION_CODENAME" "noble" := by
  rw [lastSets_iff]
  cases (ls.filterMap (keyValue? "VERSION_CODENAME")).getLast? with
  | none => simp
  | some c => simp

theorem version_boots_iff (ls : List String) :
    (parseVersion? ((ls.filterMap (keyValue? "VERSION_ID")).getLast?.getD "")).any bootsSystemd = true ↔
      ∃ v major minor, LastSets ls "VERSION_ID" v ∧ ReleaseVersion v major minor ∧
        (24 < major ∨ major = 24 ∧ 4 ≤ minor) := by
  simp only [lastSets_iff]
  cases hlast : (ls.filterMap (keyValue? "VERSION_ID")).getLast? with
  | none => simp [parseVersion?_empty]
  | some v =>
    simp only [Option.getD_some, Option.any_eq_true, Option.some.injEq]
    constructor
    · rintro ⟨⟨major, minor⟩, hparse, hboots⟩
      exact ⟨v, major, minor, rfl, parseVersion?_eq_some_iff.1 hparse,
        (bootsSystemd_iff major minor).1 hboots⟩
    · rintro ⟨_, major, minor, rfl, hversion, hboots⟩
      exact ⟨(major, minor), parseVersion?_eq_some_iff.2 hversion, (bootsSystemd_iff major minor).2 hboots⟩

/-- An image boots systemd exactly when its runit supervisor is missing, or when its
os-release file was found and some line names its release (by codename or version), and the
last codename given is `noble` or the last version given reads as 24.04 or later. -/
theorem classify_eq_systemd_iff (o : String) :
    classify o = .systemd ↔
      "RUNSVDIR_MISSING".toList <:+: o.toList ∨
        ((∃ line ∈ lines o, ∃ v, SetsKey line "VERSION_CODENAME" v ∨ SetsKey line "VERSION_ID" v) ∧
          ¬"OS_RELEASE_NOT_FOUND".toList <:+: o.toList ∧
          (LastSets (lines o) "VERSION_CODENAME" "noble" ∨
            ∃ v major minor, LastSets (lines o) "VERSION_ID" v ∧ ReleaseVersion v major minor ∧
              (24 < major ∨ major = 24 ∧ 4 ≤ minor))) := by
  rw [classify_eq_systemd_iff_facts, releaseFacts_eq]
  dsimp only
  rw [found_iff, codename_eq_noble_iff, version_boots_iff, contains_iff_isInfix,
    Bool.eq_false_iff, ne_eq, contains_iff_isInfix]

end ContainerCpi.InitSystem
