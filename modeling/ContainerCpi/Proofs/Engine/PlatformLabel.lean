import ContainerCpi.Proofs.Text.Search
import ContainerCpi.Engine.Wire

/-!
# The platform label reads back

A container's platform is written into its `cpi.platform` label as `os/arch`, and read back
from the label of an inspected container by `Platform.parse?`, which trims whitespace and
splits at the first `/`.  The written form reads back as the platform exactly when both
parts are non-empty, the operating system holds no `/` and does not start with whitespace,
and the architecture does not end with whitespace (`Platform.ReadsBack`,
`Platform.parse?_render_iff`).  Any other platform is read back changed or not at all: a `/`
in the operating system moves what follows it into the architecture, and whitespace at the
ends is trimmed away.

Recording the platform puts its written form first among the labels under the label's name,
whatever labels the specification had (`ContainerSpec.recordedPlatform?_recordPlatform`).  So
a container inspected with those labels is rebuilt with the platform it was created for
whenever that platform reads back, whatever platform the engine reports beside it
(`ContainerSpec.recorded_platform_round_trip`).

Trimming keeps a text exactly when it neither starts nor ends with whitespace
(`Text.trim_eq_self_iff`), and never drops a character that is not whitespace
(`Text.mem_trim`).
-/

namespace ContainerCpi

/-! ## Trimming -/

namespace Text

theorem dropSpace_suffix (cs : List Char) : dropSpace cs <:+ cs := List.dropWhile_suffix _

theorem dropSpace_eq_self_iff (cs : List Char) :
    dropSpace cs = cs ↔ ∀ c ∈ cs.head?, isSpace c = false := by
  cases cs with
  | nil => simp [dropSpace]
  | cons c rest =>
    by_cases hc : isSpace c = true
    · -- a leading space is dropped, so the list gets shorter
      have hshort : (dropSpace (c :: rest)).length < (c :: rest).length := by
        simp only [dropSpace, List.dropWhile_cons, hc, if_true]
        exact Nat.lt_succ_of_le (List.dropWhile_suffix _).length_le
      simp only [List.head?_cons, Option.mem_def, Option.some.injEq, forall_eq', hc,
        Bool.true_eq_false, iff_false]
      exact fun h => absurd (congrArg List.length h) (Nat.ne_of_lt hshort)
    · simp [dropSpace, hc]

theorem mem_dropSpace {c : Char} (hc : isSpace c = false) :
    ∀ {cs : List Char}, c ∈ cs → c ∈ dropSpace cs
  | x :: rest, hmem => by
    by_cases hx : isSpace x = true
    · have hne : c ≠ x := fun h => by rw [h, hx] at hc; cases hc
      simp only [dropSpace, List.dropWhile_cons, hx, if_true]
      exact mem_dropSpace hc (List.mem_of_ne_of_mem hne hmem)
    · simp only [dropSpace, List.dropWhile_cons, hx]
      exact hmem

theorem toList_trim (s : String) :
    (trim s).toList = (dropSpace (dropSpace s.toList).reverse).reverse := String.toList_ofList

theorem mem_trim {s : String} {c : Char} (hc : isSpace c = false) (hmem : c ∈ s.toList) :
    c ∈ (trim s).toList := by
  rw [toList_trim, List.mem_reverse]
  exact mem_dropSpace hc (List.mem_reverse.2 (mem_dropSpace hc hmem))

theorem trim_eq_self_iff (s : String) :
    trim s = s ↔ (∀ c ∈ s.toList.head?, isSpace c = false) ∧
      ∀ c ∈ s.toList.getLast?, isSpace c = false := by
  rw [← dropSpace_eq_self_iff, ← List.head?_reverse, ← dropSpace_eq_self_iff,
    ← String.toList_inj, toList_trim]
  constructor
  · intro h
    -- the trimmed text is no longer than either trimming step, so neither step dropped anything
    have hlen := congrArg List.length h
    have hinner := (dropSpace_suffix s.toList).length_le
    have houter := (dropSpace_suffix (dropSpace s.toList).reverse).length_le
    simp only [List.length_reverse] at hlen houter
    have hfront : dropSpace s.toList = s.toList :=
      (dropSpace_suffix _).eq_of_length (by omega)
    refine ⟨hfront, (dropSpace_suffix _).eq_of_length ?_⟩
    rw [hfront] at hlen
    simp only [List.length_reverse]
    omega
  · rintro ⟨hfront, hback⟩
    rw [hfront, hback, List.reverse_reverse]

end Text

/-! ## Reading the written form -/

namespace Platform

/-- A platform whose written form `os/arch` reads back as itself: both parts non-empty, no
`/` in the operating system, no whitespace before it or after the architecture. -/
structure ReadsBack (p : Platform) : Prop where
  os_ne : p.os ≠ ""
  architecture_ne : p.architecture ≠ ""
  slash_not_mem : '/' ∉ p.os.toList
  os_start : ∀ c ∈ p.os.toList.head?, Text.isSpace c = false
  architecture_end : ∀ c ∈ p.architecture.toList.getLast?, Text.isSpace c = false

theorem forall_mem_isSpace_iff (o : Option Char) :
    (∀ c ∈ o, Text.isSpace c = false) ↔ o.all (fun c => !Text.isSpace c) = true := by
  cases o <;> simp

instance (p : Platform) : Decidable p.ReadsBack :=
  decidable_of_iff (p.os ≠ "" ∧ p.architecture ≠ "" ∧ '/' ∉ p.os.toList ∧
      p.os.toList.head?.all (fun c => !Text.isSpace c) = true ∧
      p.architecture.toList.getLast?.all (fun c => !Text.isSpace c) = true) (by
    rw [← forall_mem_isSpace_iff, ← forall_mem_isSpace_iff]
    exact ⟨fun h => ⟨h.1, h.2.1, h.2.2.1, h.2.2.2.1, h.2.2.2.2⟩, fun h => ⟨h.1, h.2, h.3, h.4, h.5⟩⟩)

theorem toList_render (p : Platform) :
    p.render.toList = p.os.toList ++ '/' :: p.architecture.toList := by
  simp [render, String.toList_append]

theorem render_eq (p : Platform) : p.render = p.os ++ String.singleton '/' ++ p.architecture := rfl

theorem render_ends {p : Platform} (hos : p.os ≠ "") (harch : p.architecture ≠ "") :
    p.render.toList.head? = p.os.toList.head? ∧
      p.render.toList.getLast? = p.architecture.toList.getLast? := by
  have hos' : p.os.toList ≠ [] := by simpa using hos
  have harch' : p.architecture.toList ≠ [] := by simpa using harch
  obtain ⟨o, os, hos_eq⟩ := List.exists_cons_of_ne_nil hos'
  rw [toList_render, hos_eq]
  refine ⟨rfl, ?_⟩
  rw [List.getLast?_append, List.getLast?_cons]
  cases h : p.architecture.toList.getLast? with
  | none => exact absurd (List.getLast?_eq_none_iff.1 h) harch'
  | some a => rfl

/-- The written form of a platform reads back as the platform exactly when the platform
`ReadsBack`. -/
theorem parse?_render_iff (p : Platform) : parse? p.render = some p ↔ p.ReadsBack := by
  constructor
  · intro h
    unfold parse? at h
    dsimp only at h
    split at h
    · cases h
    · rename_i hne
      split at h
      · rename_i os arch hsplit
        -- a successful split gives both parts back, and the first holds no `/`
        obtain ⟨htext, hslash⟩ := Text.eq_of_splitOnce_eq_some hsplit
        split at h
        · cases h
        · rename_i hparts
          have hp : (⟨os, arch⟩ : Platform) = p := Option.some.inj h
          subst hp
          simp only [Bool.or_eq_true, String.isEmpty_iff, not_or] at hparts
          have htrim : Text.trim (render ⟨os, arch⟩) = render ⟨os, arch⟩ := htext.trans rfl
          obtain ⟨hhead, hlast⟩ := (Text.trim_eq_self_iff _).1 htrim
          obtain ⟨hstart, hend⟩ := render_ends (p := ⟨os, arch⟩) hparts.1 hparts.2
          rw [hstart] at hhead
          rw [hend] at hlast
          exact ⟨hparts.1, hparts.2, hslash, hhead, hlast⟩
      · -- without a `/` after trimming, the written form lost its `/`, which is no whitespace
        rename_i hsplit
        unfold Text.splitOnce at hsplit
        dsimp only at hsplit
        split at hsplit
        · cases hsplit
        · rename_i hnone
          have hmem : '/' ∈ (render p).toList := by simp [toList_render]
          exact absurd (Text.mem_trim (by decide) hmem) (List.idxOf?_eq_none_iff.1 hnone)
  · intro h
    obtain ⟨hstart, hend⟩ := render_ends h.os_ne h.architecture_ne
    have htrim : Text.trim p.render = p.render :=
      (Text.trim_eq_self_iff _).2 ⟨hstart ▸ h.os_start, hend ▸ h.architecture_end⟩
    have hsplit : Text.splitOnce p.render '/' = some (p.os, p.architecture) := by
      rw [render_eq]
      exact Text.splitOnce_append h.slash_not_mem
    have hnonempty : p.render.isEmpty = false := by
      rw [Bool.eq_false_iff]
      intro hempty
      have : (render p).toList = [] := by simpa using hempty
      simp [toList_render] at this
    have hos : p.os.isEmpty = false := by simpa using h.os_ne
    have harch : p.architecture.isEmpty = false := by simpa using h.architecture_ne
    unfold parse?
    simp [htrim, hnonempty, hsplit, hos, harch]

end Platform

/-! ## The label -/

namespace Json.Fields

theorem find?_stringMap?_insert (k x : String) :
    ∀ fs : List (String × Json),
      ((Json.stringMap? (.object (insert k (.string x) fs))).getD []).find? (·.1 == k) = some (k, x)
  | [] => by simp [insert, Json.stringMap?, Json.fields?, Json.str?]
  | (k', v') :: rest => by
    by_cases heq : k = k'
    · simp [insert, heq, Json.stringMap?, Json.fields?, Json.str?]
    · by_cases hlt : k < k'
      · simp [insert, heq, hlt, Json.stringMap?, Json.fields?, Json.str?]
      · have hrest := find?_stringMap?_insert k x rest
        have hne : (k' == k) = false := by simpa using Ne.symm heq
        simp only [Json.stringMap?, Json.fields?, Option.map_some, Option.getD_some] at hrest ⊢
        simp only [insert, heq, hlt, if_false, List.filterMap_cons]
        cases v'.str? <;> simp [hne, hrest]

end Json.Fields

namespace ContainerSpec

theorem recordedPlatform?_recordPlatform (s : ContainerSpec) :
    s.recordPlatform.recordedPlatform? = Platform.parse? s.platform.render := by
  have hlabels : s.recordPlatform.config.get? "Labels" =
      some (((s.config.get? "Labels").getD (.object [])).setField Platform.label
        (.string s.platform.render)) := by
    simp only [recordPlatform, ContainerConfig.set, ContainerConfig.get?, Json.Fields.find?_set_self,
      Option.map_some]
  have hfind := Json.Fields.find?_stringMap?_insert Platform.label s.platform.render
    (((s.config.get? "Labels").getD (.object [])).fields?.getD [])
  simp only [recordedPlatform?, ContainerConfig.labels?, hlabels, Option.bind_some,
    Json.setField]
  rw [hfind, Option.bind_some]

theorem recordedPlatform?_of_labels {s t : ContainerSpec}
    (h : s.config.get? "Labels" = t.config.get? "Labels") :
    s.recordedPlatform? = t.recordedPlatform? := by
  simp only [recordedPlatform?, ContainerConfig.labels?, h]

/-- The platform label round trip.  The written form of a platform reads back as the platform
exactly when the platform `ReadsBack`; and for such a platform, an inspected container
carrying the labels that recording the platform gave its specification is rebuilt with that
platform. -/
theorem recorded_platform_round_trip :
    (∀ p : Platform, Platform.parse? p.render = some p ↔ p.ReadsBack) ∧
    ∀ (s : ContainerSpec) (j : Json), s.platform.ReadsBack →
      (ofInspection j).config.get? "Labels" = s.recordPlatform.config.get? "Labels" →
      (ofInspection j).platform = s.platform := by
  refine ⟨Platform.parse?_render_iff, fun s j hp hlabels => ?_⟩
  -- the label is read before the platform the engine reports
  have hrecorded : ∀ t : ContainerSpec, t.config.get? "Labels" = s.recordPlatform.config.get? "Labels" →
      t.recordedPlatform? = some s.platform := fun t ht => by
    rw [recordedPlatform?_of_labels ht, recordedPlatform?_recordPlatform,
      (Platform.parse?_render_iff _).2 hp]
  unfold ofInspection at hlabels ⊢
  dsimp only at hlabels ⊢
  rw [hrecorded _ hlabels]
  rfl

/-- A container created for `linux/arm64` on an engine that reports only `linux`. -/
def armInspection : Json :=
  .object [("Config", .object [("Labels", .object [(Platform.label, .string "linux/arm64")])]),
    ("Platform", .string "linux")]

/-- The label wins over the reported platform: the container is rebuilt for `linux/arm64`,
not for the `linux/amd64` the report alone would give. -/
theorem arm_platform_survives_inspection :
    (⟨"linux", "arm64"⟩ : Platform).ReadsBack ∧
      (ofInspection armInspection).platform = ⟨"linux", "arm64"⟩ :=
  ⟨by decide, recorded_platform_round_trip.2 { ContainerSpec.empty with platform := ⟨"linux", "arm64"⟩ }
    armInspection (by decide) rfl⟩

end ContainerSpec

end ContainerCpi
