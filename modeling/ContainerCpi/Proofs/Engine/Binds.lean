import ContainerCpi.Proofs.Vm.Deletion

/-!
# The volumes containers bind

Creating a container creates the volumes its binds name, unless some volume answers to the
name already (the name itself, or the name under a node prefix), and the engine refuses to
remove a volume while a container binds it.  So from an empty engine, whatever calls are
made, every bind whose source is a plain volume name (not empty and without `/`) has a
volume answering to it, and removing the volume that name resolves to is refused for as
long as the bind stays (`reachable_backs_plain_binds`).

A source with a `/` in it is not protected.  The engine checks whether a volume is in use
under the stored name with the text up to its first `/` dropped, so a volume stored under
the whole name `x/y` is checked under `y`: a container binding `x/y` does not keep it
(`slashed_bind_loses_volume`).
-/

namespace ContainerCpi

namespace SortedMap

variable {α : Type}

theorem mem_of_mem_insert {k : String} {v : α} {p : String × α} :
    ∀ {m : List (String × α)}, p ∈ insert k v m → p = (k, v) ∨ p ∈ m
  | [], hp => by simpa [insert] using hp
  | (k', v') :: rest, hp => by
    unfold insert at hp
    split at hp
    · rcases List.mem_cons.1 hp with rfl | hp
      · exact .inl rfl
      · exact .inr (List.mem_cons_of_mem _ hp)
    · split at hp
      · exact (List.mem_cons.1 hp).imp_right id
      · rcases List.mem_cons.1 hp with rfl | hp
        · exact .inr List.mem_cons_self
        · exact (mem_of_mem_insert hp).imp_right (List.mem_cons_of_mem _)

theorem mem_of_mem_erase {k : String} {m : List (String × α)} {p : String × α}
    (hp : p ∈ erase k m) : p ∈ m :=
  (List.mem_filter.1 hp).1

theorem mem_of_mem_modify {k : String} {f : α → α} {m : List (String × α)} {p : String × α}
    (hp : p ∈ modify k f m) : ∃ q ∈ m, p = q ∨ p = (q.1, f q.2) := by
  obtain ⟨⟨k', v⟩, hq, rfl⟩ := List.mem_map.1 hp
  refine ⟨(k', v), hq, ?_⟩
  by_cases hk : (k' == k) = true
  · exact .inr (by simp [hk])
  · exact .inl (by simp [hk])

end SortedMap

namespace EngineObjects

/-- Every bind whose source is a plain volume name, not empty and without `/`, has a volume
answering to it. -/
def BindsBacked (o : EngineObjects) : Prop :=
  ∀ p ∈ o.containers, ∀ b ∈ p.2.spec.binds, MemoryEngine.bindSource b ≠ "" →
    '/' ∉ (MemoryEngine.bindSource b).toList →
    ∃ w ∈ o.volumes, MemoryEngine.volumeAnswers (MemoryEngine.bindSource b) w = true

theorem BindsBacked.mono {o o' : EngineObjects} (h : o.BindsBacked)
    (hbinds : ∀ p' ∈ o'.containers, ∃ p ∈ o.containers, p.2.spec.binds = p'.2.spec.binds)
    (hvolumes : o.volumes ⊆ o'.volumes) : o'.BindsBacked := by
  intro p' hp' b hb hne hslash
  obtain ⟨p, hp, hsame⟩ := hbinds p' hp'
  obtain ⟨w, hw, hanswers⟩ := h p hp b (hsame ▸ hb) hne hslash
  exact ⟨w, hvolumes hw, hanswers⟩

end EngineObjects

namespace MemoryEngine

/-! ## One call -/

theorem addBindVolume_backs (s : MemoryEngine) {b : String}
    (hpath : (bindSource b).startsWith "/" = false) (hempty : (bindSource b).isEmpty = false) :
    ∃ w ∈ (s.addBindVolume b).volumes, volumeAnswers (bindSource b) w = true := by
  unfold addBindVolume
  dsimp only
  split
  · exact ⟨bindSource b, SortedSet.mem_insert_self _ _, by simp [volumeAnswers]⟩
  · rename_i hkept
    -- the volume was not added, so one answered to the source already
    rw [hpath, hempty] at hkept
    rcases hr : s.resolveVolume (bindSource b) with _ | w
    · rw [hr] at hkept
      exact absurd rfl hkept
    · exact ⟨w, resolveVolume_eq_some hr⟩

theorem foldl_addBindVolume_backs : ∀ (binds : List String) (s : MemoryEngine),
    ∀ b ∈ binds, (bindSource b).startsWith "/" = false → (bindSource b).isEmpty = false →
      ∃ w ∈ (binds.foldl addBindVolume s).volumes, volumeAnswers (bindSource b) w = true
  | [], _, _, hb, _, _ => absurd hb List.not_mem_nil
  | b' :: rest, s, b, hb, hpath, hempty => by
    rw [List.foldl_cons]
    rcases List.mem_cons.1 hb with rfl | hrest
    · -- the later binds only add volumes
      obtain ⟨w, hw, hanswers⟩ := addBindVolume_backs s hpath hempty
      exact ⟨w, (foldl_addBindVolume rest _).2.2.1 hw, hanswers⟩
    · exact foldl_addBindVolume_backs rest _ b hrest hpath hempty

theorem startsWith_slash_eq_false {source : String} (hslash : '/' ∉ source.toList) :
    source.startsWith "/" = false := by
  rw [String.startsWith_string_eq_false_iff]
  exact fun hpre => hslash (hpre.subset (by simp))

/-- A container the engine creates has every plain bind backed. -/
theorem create_bindsBacked {s : MemoryEngine} {name : Option String} {spec : ContainerSpec}
    (hs : s.objects.BindsBacked) : (s.create name spec).2.objects.BindsBacked := by
  rcases hr : (s.create name spec).1 with e | id
  · rw [create_objects_of_error hr]
    exact hs
  obtain ⟨-, hcont, -, hsub, -⟩ := create_of_ok hr
  -- the volumes of the created engine are those the fold over the binds left
  have hvolumes : (s.create name spec).2.volumes =
      (spec.binds.foldl addBindVolume { s with lastId := s.lastId + 1 }).volumes := by
    revert hr
    unfold create
    dsimp only
    split
    · intro h
      cases h
    · split
      · intro h
        cases h
      · intro _
        rfl
  intro p hp b hb hne hslash
  have hp' : p ∈ (s.create name spec).2.containers := hp
  rw [hcont] at hp'
  rcases SortedMap.mem_of_mem_insert hp' with rfl | hold
  · show ∃ w ∈ (s.create name spec).2.volumes, _
    rw [hvolumes]
    exact foldl_addBindVolume_backs spec.binds _ b hb (startsWith_slash_eq_false hslash)
      (by simpa using hne)
  · obtain ⟨w, hw, hanswers⟩ := hs p hold b hb hne hslash
    exact ⟨w, hsub hw, hanswers⟩

theorem volumeInUse_of_answers {s : MemoryEngine} {p : String × StoredContainer} {b w : String}
    (hp : p ∈ s.containers) (hb : b ∈ p.2.spec.binds) (hslash : '/' ∉ (bindSource b).toList)
    (hanswers : volumeAnswers (bindSource b) w = true) : s.volumeInUse w = true :=
  (volumeInUse_iff s w).2 ⟨p, hp, b, hb, (boundName_eq_of_answers hslash hanswers).symm⟩

theorem removeVolume_bindsBacked {s : MemoryEngine} {stored : String}
    (hs : s.objects.BindsBacked) (hfree : s.volumeInUse stored = false) :
    ({ s with volumes := SortedSet.erase stored s.volumes } : MemoryEngine).objects.BindsBacked := by
  intro p hp b hb hne hslash
  obtain ⟨w, hw, hanswers⟩ := hs p hp b hb hne hslash
  refine ⟨w, SortedSet.mem_erase.2 ⟨hw, ?_⟩, hanswers⟩
  rintro rfl
  rw [volumeInUse_of_answers hp hb hslash hanswers] at hfree
  cases hfree

theorem updateContainer_bindsBacked {s : MemoryEngine} {name : String}
    {f : StoredContainer → StoredContainer} (hf : ∀ c, (f c).spec.binds = c.spec.binds)
    (hs : s.objects.BindsBacked) : (s.updateContainer name f).objects.BindsBacked := by
  refine hs.mono (fun p' hp' => ?_) (List.Subset.refl _)
  obtain ⟨q, hq, rfl | rfl⟩ := SortedMap.mem_of_mem_modify hp'
  · exact ⟨_, hq, rfl⟩
  · exact ⟨q, hq, (hf q.2).symm⟩

section
attribute [local simp] answer updateContainer

/-- Every answer keeps every plain bind backed. -/
theorem answer_bindsBacked (s : MemoryEngine) (c : Call) (hs : s.objects.BindsBacked) :
    (s.answer c).2.objects.BindsBacked := by
  cases c with
  | create name spec => exact create_bindsBacked hs
  | remove name force =>
    simp only [answer]
    repeat' split
    all_goals first
      | exact hs
      | exact hs.mono (fun p hp => ⟨p, SortedMap.mem_of_mem_erase hp, rfl⟩) (List.Subset.refl _)
  | createVolume name driver =>
    exact hs.mono (fun p hp => ⟨p, hp, rfl⟩) fun w hw => SortedSet.mem_insert.2 (.inr hw)
  | createNetwork r =>
    obtain ⟨hc, hv⟩ := createNetwork_containers_volumes s r
    refine hs.mono (fun p hp => ⟨p, ?_, rfl⟩) ?_
    · simpa only [objects, answer, hc] using hp
    · simp only [objects, answer, hv]
      exact List.Subset.refl _
  | removeVolume name force =>
    simp only [answer]
    split
    · exact hs
    · split
      · exact hs
      · rename_i hfree
        exact removeVolume_bindsBacked hs (by simpa using hfree)
  | _ =>
    -- the other calls change no container's binds and no volume
    simp only [answer]
    repeat' split
    all_goals first | exact hs | exact updateContainer_bindsBacked (fun _ => rfl) hs

end

theorem serve_bindsBacked (s : MemoryEngine) (c : Call) (hs : s.objects.BindsBacked) :
    (s.serve c).2.objects.BindsBacked :=
  serve_objects_of_answer (R := fun o o' => o.BindsBacked → o'.BindsBacked) (fun _ => id)
    (fun t => answer_bindsBacked t c) s hs

theorem serve_removeVolume_of_bound {s : MemoryEngine} {name w : String} (force : Bool)
    (hq : s.queued .removeVolume = []) (hresolve : s.resolveVolume name = some w)
    {p : String × StoredContainer} (hp : p ∈ s.containers) {b : String} (hb : b ∈ p.2.spec.binds)
    (hslash : '/' ∉ (bindSource b).toList) (hanswers : volumeAnswers (bindSource b) w = true) :
    (s.serve (.removeVolume name force)).1 =
      .error (.conflict ("remove " ++ name ++ ": volume is in use")) ∧
    (s.serve (.removeVolume name force)).2.volumes = s.volumes := by
  have hused := volumeInUse_of_answers hp hb hslash hanswers
  rw [serve_of_not_queued hq]
  have hresolve' : (s.enter (Call.removeVolume name force).op
      (Call.removeVolume name force).target).1.resolveVolume name = some w := by
    simpa only [resolveVolume, enter_volumes] using hresolve
  have hused' : (s.enter (Call.removeVolume name force).op
      (Call.removeVolume name force).target).1.volumeInUse w = true := by
    simpa only [volumeInUse, enter_containers] using hused
  simp only [answer, hresolve', hused', if_true]
  exact ⟨rfl, enter_volumes ..⟩

/-! ## Every run from an empty engine -/

/-- The engines that calls reach from an empty one. -/
inductive Reachable : MemoryEngine → Prop
  | empty (resources : HostResources) : Reachable (MemoryEngine.empty resources)
  | serve {s : MemoryEngine} (c : Call) : Reachable s → Reachable (s.serve c).2

theorem Reachable.failureFree {s : MemoryEngine} (hs : Reachable s) : s.FailureFree := by
  induction hs with
  | empty resources => exact fun _ => rfl
  | serve c _ ih => exact ih.serve c

theorem Reachable.bindsBacked {s : MemoryEngine} (hs : Reachable s) : s.objects.BindsBacked := by
  induction hs with
  | empty resources => exact fun p hp => absurd hp List.not_mem_nil
  | serve c _ ih => exact serve_bindsBacked _ c ih

/-- **Bound volumes stay.**  On every engine that calls reach from an empty one, each bind
whose source is a plain volume name (not empty, without `/`) resolves to a stored volume;
and removing a volume is refused with a conflict, changing no volume, while a container has
a bind with a plain source that resolves to the volume the removal's name resolves to. -/
theorem reachable_backs_plain_binds {s : MemoryEngine} (hs : Reachable s) :
    (∀ p ∈ s.containers, ∀ b ∈ p.2.spec.binds, bindSource b ≠ "" →
      '/' ∉ (bindSource b).toList → (s.resolveVolume (bindSource b)).isSome) ∧
    ∀ (name w : String) (force : Bool), s.resolveVolume name = some w →
      ∀ p ∈ s.containers, ∀ b ∈ p.2.spec.binds, '/' ∉ (bindSource b).toList →
        s.resolveVolume (bindSource b) = some w →
        (s.serve (.removeVolume name force)).1 =
          .error (.conflict ("remove " ++ name ++ ": volume is in use")) ∧
        (s.serve (.removeVolume name force)).2.volumes = s.volumes := by
  refine ⟨fun p hp b hb hne hslash => ?_, fun name w force hname p hp b hb hslash hsource => ?_⟩
  · obtain ⟨w, hw, hanswers⟩ := hs.bindsBacked p hp b hb hne hslash
    rw [resolveVolume_eq_find, List.find?_isSome]
    exact ⟨w, hw, hanswers⟩
  · exact serve_removeVolume_of_bound force (hs.failureFree _) hname hp hb hslash
      (resolveVolume_eq_some hsource).2

/-- An engine that created a container `c-1` binding the disk `disk-1`. -/
def diskBound : MemoryEngine :=
  ((MemoryEngine.empty ⟨8589934592, 4⟩).serve
    (.create (some "c-1") (ContainerSpec.empty.setBinds ["disk-1:/data", "/srv:/srv"]))).2

theorem diskBound_backs_plain_binds :
    Reachable diskBound ∧
    (∀ p ∈ diskBound.containers, ∀ b ∈ p.2.spec.binds, bindSource b ≠ "" →
      '/' ∉ (bindSource b).toList → (diskBound.resolveVolume (bindSource b)).isSome) ∧
    ∀ (name w : String) (force : Bool), diskBound.resolveVolume name = some w →
      ∀ p ∈ diskBound.containers, ∀ b ∈ p.2.spec.binds, '/' ∉ (bindSource b).toList →
        diskBound.resolveVolume (bindSource b) = some w →
        (diskBound.serve (.removeVolume name force)).1 =
          .error (.conflict ("remove " ++ name ++ ": volume is in use")) ∧
        (diskBound.serve (.removeVolume name force)).2.volumes = diskBound.volumes :=
  have hs : Reachable diskBound := .serve _ (.empty _)
  ⟨hs, reachable_backs_plain_binds hs⟩

/-- A container created with a bind of `x/y` gets the volume `x/y`, which the engine then
removes although the bind stays, leaving the bind with no volume. -/
theorem slashed_bind_loses_volume :
    let s₁ := ((MemoryEngine.empty ⟨8589934592, 4⟩).serve
      (.create (some "c") (ContainerSpec.empty.setBinds ["x/y:/data"]))).2
    let s₂ := (s₁.serve (.removeVolume "x/y" true)).2
    Reachable s₂ ∧ s₁.resolveVolume "x/y" = some "x/y" ∧
      (s₁.serve (.removeVolume "x/y" true)).1 = .ok () ∧
      (∃ p ∈ s₂.containers, "x/y:/data" ∈ p.2.spec.binds) ∧ s₂.resolveVolume "x/y" = none := by
  intro s₁ s₂
  exact ⟨.serve _ (.serve _ (.empty _)), by decide +kernel, by decide +kernel, by decide +kernel,
    by decide +kernel⟩

end MemoryEngine

end ContainerCpi
