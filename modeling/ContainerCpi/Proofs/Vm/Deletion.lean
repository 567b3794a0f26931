import ContainerCpi.Proofs.Vm.Operations
import ContainerCpi.Proofs.Text.Search

/-!
# Deleting a VM

On an engine with no failure queued, a deletion always succeeds: it removes the VM's
container when there is one, killing it first (a stopped container refuses the kill, which
the deletion tolerates), and removes the volume the ephemeral disk's name resolves to when
there is one.  It makes no kill call for a VM without a container, and it changes nothing
else.  As long as no other container binds the ephemeral volume and at most one volume
answers to its name, a second deletion then finds nothing to remove and changes nothing.

The ephemeral disk's name must hold no `/`: the engine checks whether a volume is in use by
its name with the text up to the first `/` dropped, which for a name with a `/` in it is
not the name at all.
-/

namespace ContainerCpi

open MemoryHost

namespace EngineObjects

/-- The objects with the containers of a name removed. -/
def without (name : String) (o : EngineObjects) : EngineObjects :=
  { o with containers := SortedMap.erase name o.containers }

end EngineObjects

namespace MemoryEngine

/-- No failure is queued for any kind of call. -/
def FailureFree (s : MemoryEngine) : Prop := ∀ op, s.queued op = []

theorem FailureFree.serve {s : MemoryEngine} (hq : s.FailureFree) (c : Call) :
    (s.serve c).2.FailureFree :=
  fun op => s.queued_serve_of_nil c (hq op)

/-! ## Counting calls -/

theorem foldl_addBindVolume_calls : ∀ (binds : List String) (s : MemoryEngine),
    (binds.foldl addBindVolume s).calls = s.calls
  | [], _ => rfl
  | b :: rest, s => by
    rw [List.foldl_cons, foldl_addBindVolume_calls rest]
    rcases addBindVolume_cases s b with hb | hb
    · rw [hb]
    · rw [hb]
      rfl

theorem answer_calls (s : MemoryEngine) (c : Call) : (s.answer c).2.calls = s.calls := by
  cases c <;> simp only [answer]
  case create name spec =>
    unfold create
    dsimp only
    split
    · rfl
    · split
      · rfl
      · exact foldl_addBindVolume_calls spec.binds _
  case createNetwork r =>
    unfold createNetwork
    dsimp only
    repeat' split
    all_goals rfl
  all_goals (repeat' split) <;> rfl

theorem serve_calls (s : MemoryEngine) (c : Call) :
    (s.serve c).2.calls = (s.enter c.op c.target).1.calls := by
  unfold serve
  split
  · rename_i s' e henter
    rw [henter]
  · rename_i s' henter
    rw [henter, answer_calls]

theorem callCount_serve_of_ne (s : MemoryEngine) {c : Call} {op : Op} (hne : op ≠ c.op) :
    (s.serve c).2.callCount op = s.callCount op := by
  have henter : (s.enter c.op c.target).1.calls =
      (c.op, s.callCount c.op + 1) :: s.calls.filter (·.1 != c.op) := by
    dsimp only [enter]
    split <;> rfl
  have hp : (fun a : Op × Nat => !decide (a.1 = c.op) && decide (a.1 = op)) =
      fun a => a.1 == op := by
    funext a
    by_cases ha : a.1 = op <;> simp [ha, hne]
  simp [callCount, serve_calls, henter, List.find?_filter, hp, Ne.symm hne]

/-! ## The calls of a deletion -/

theorem serve_inspect_of_quiet (s : MemoryEngine) (name : String) (hq : s.queued .inspect = []) :
    (s.serve (.inspect name)).1.isOk = (SortedMap.get? s.containers name).isSome ∧
    ∀ e, (s.serve (.inspect name)).1 = .error e → e.isNotFound = true := by
  rw [serve_of_not_queued hq]
  simp only [answer, container, enter_containers]
  split <;> simp [Except.isOk, Except.toBool, Except.map, EngineError.isNotFound, *]

theorem container_eq_error {s : MemoryEngine} {name : String} {e : EngineError}
    (h : s.container name = .error e) :
    SortedMap.get? s.containers name = none ∧ e.isNotFound = true := by
  unfold container at h
  split at h
  · cases h
  · cases h
    exact ⟨‹_›, rfl⟩

theorem serve_kill_of_quiet (s : MemoryEngine) (name signal : String) (hq : s.queued .kill = []) :
    ∀ e, (s.serve (.kill name signal)).1 = .error e → (e.isNotRunning || e.isNotFound) = true := by
  intro e he
  rw [serve_of_not_queued hq] at he
  simp only [answer] at he
  split at he
  · split at he
    · cases he
      exact Bool.or_eq_true_iff.2 (.inl
        (Text.contains_append_of_right (Text.contains_append_of_right (by decide))))
    · cases he
  · cases he
    exact Bool.or_eq_true_iff.2 (.inr (container_eq_error ‹_›).2)

theorem serve_remove_forced_of_quiet (s : MemoryEngine) (name : String)
    (hq : s.queued .remove = []) :
    (s.serve (.remove name true)).2.objects = s.objects.without name ∧
    ∀ e, (s.serve (.remove name true)).1 = .error e → e.isNotFound = true := by
  rw [serve_of_not_queued hq]
  simp only [answer]
  split
  · simp [objects, EngineObjects.without]
  · rename_i e hmissing
    obtain ⟨hnone, hnf⟩ := container_eq_error hmissing
    refine ⟨?_, fun e' he' => by cases he'; exact hnf⟩
    simp only [enter_containers] at hnone
    simp [objects, EngineObjects.without, SortedMap.erase_of_get?_eq_none hnone]

theorem serve_removeVolume_of_quiet (s : MemoryEngine) (name : String) (force : Bool)
    (hq : s.queued .removeVolume = [])
    (hfree : ∀ w, s.resolveVolume name = some w → s.volumeInUse w = false) :
    (s.serve (.removeVolume name force)).2.objects =
      { s.objects with volumes := (s.resolveVolume name).elim s.volumes (SortedSet.erase · s.volumes) } ∧
    ∀ e, (s.serve (.removeVolume name force)).1 = .error e → e.isNotFound = true := by
  rw [serve_of_not_queued hq]
  have hresolve : (s.enter (Call.removeVolume name force).op
      (Call.removeVolume name force).target).1.resolveVolume name = s.resolveVolume name := by
    simp only [resolveVolume, enter_volumes]
  simp only [answer, hresolve]
  rcases hr : s.resolveVolume name with _ | w
  · refine ⟨by simp [objects], fun e he => by cases he; rfl⟩
  · have hfree' : (s.enter (Call.removeVolume name force).op
        (Call.removeVolume name force).target).1.volumeInUse w = false := by
      simpa only [volumeInUse, enter_containers] using hfree w hr
    simp [hfree', objects]

/-- The name the engine looks for among binds when it checks whether a stored volume is in
use: the stored name with the text up to its first `/` dropped. -/
def boundName (stored : String) : String := ((Text.splitOnce stored '/').map (·.2)).getD stored

theorem volumeInUse_iff (s : MemoryEngine) (stored : String) :
    s.volumeInUse stored = true ↔
      ∃ p ∈ s.containers, ∃ b ∈ p.2.spec.binds, bindSource b = boundName stored := by
  simp [volumeInUse, boundName]

theorem boundName_eq_of_answers {name w : String} (hslash : '/' ∉ name.toList)
    (hw : volumeAnswers name w = true) : boundName w = name := by
  unfold volumeAnswers at hw
  unfold boundName
  rcases hsplit : Text.splitOnce w '/' with _ | ⟨pre, rest⟩
  · simpa [hsplit] using hw
  · simp only [hsplit, Option.map_some, Option.getD_some, Bool.or_eq_true, beq_iff_eq] at hw ⊢
    rcases hw with rfl | hrest
    · rw [Text.splitOnce_eq_none hslash] at hsplit
      cases hsplit
    · exact hrest

theorem resolveVolume_eq_none_of_removed {s s' : MemoryEngine} {name : String}
    (honly : ∀ w₁ ∈ s.volumes, ∀ w₂ ∈ s.volumes,
      volumeAnswers name w₁ = true → volumeAnswers name w₂ = true → w₁ = w₂)
    (hvol : s'.volumes = (s.resolveVolume name).elim s.volumes (SortedSet.erase · s.volumes)) :
    s'.resolveVolume name = none := by
  rcases hr : s.resolveVolume name with _ | w
  · rw [hr, Option.elim_none] at hvol
    simpa only [resolveVolume, hvol] using hr
  · rw [hr, Option.elim_some] at hvol
    obtain ⟨hw, hanswers⟩ := resolveVolume_eq_some hr
    rw [resolveVolume_eq_find, List.find?_eq_none]
    intro w' hw' hanswers'
    rw [hvol, SortedSet.mem_erase] at hw'
    exact hw'.2 (honly w' hw'.1 w hw (by simpa using hanswers') hanswers)

end MemoryEngine

namespace Vm

variable {vm : VmId} {h : MemoryHost}

theorem exists_of_quiet (hq : h.engine.queued .inspect = []) :
    runOp (exists? backend vm) h = (.ok (SortedMap.get? h.engine.containers vm.value).isSome,
      { h with engine := (h.engine.serve (.inspect vm.value)).2 }) := by
  obtain ⟨hok, hnf⟩ := h.engine.serve_inspect_of_quiet vm.value hq
  unfold exists?
  rw [runOp_bind, runOp_ask]
  dsimp only
  split
  · rename_i r hr
    rw [hr] at hok
    rw [← hok]
    rfl
  · rename_i e he
    rw [he] at hok
    rw [if_pos (hnf e he), ← hok]
    rfl

theorem killWithin_of_quiet (attempts : Nat) (hq : h.engine.queued .kill = []) :
    runOp (killWithin backend vm (attempts + 1)) h =
      (.ok (), { h with engine := (h.engine.serve (.kill vm.value "KILL")).2 }) := by
  unfold killWithin
  rw [runOp_bind, runOp_ask]
  dsimp only
  split
  · rfl
  · rename_i e he
    rw [if_pos (h.engine.serve_kill_of_quiet vm.value "KILL" hq e he)]
    rfl

theorem removeContainer_of_absent (hq : h.engine.queued .inspect = [])
    (habsent : SortedMap.get? h.engine.containers vm.value = none) :
    runOp (removeContainer backend vm) h =
      (.ok (), { h with engine := (h.engine.serve (.inspect vm.value)).2 }) := by
  unfold removeContainer
  rw [runOp_bind, exists_of_quiet hq, habsent]
  rfl

/-- With no failure queued, a removal succeeds and removes the VM's container and nothing
else. -/
theorem removeContainer_of_quiet (hq : h.engine.FailureFree) :
    (runOp (removeContainer backend vm) h).1 = .ok () ∧
    (runOp (removeContainer backend vm) h).2.engine.objects = h.engine.objects.without vm.value ∧
    (runOp (removeContainer backend vm) h).2.engine.FailureFree := by
  rcases hfound : SortedMap.get? h.engine.containers vm.value with _ | c
  · rw [removeContainer_of_absent (hq _) hfound]
    refine ⟨rfl, ?_, (hq.serve _)⟩
    rw [h.engine.serve_objects_of_changesNoObject rfl]
    simp [MemoryEngine.objects, EngineObjects.without, SortedMap.erase_of_get?_eq_none hfound]
  · -- the container is there: one inspection, one kill, one forced removal
    let h₁ : MemoryHost := { h with engine := (h.engine.serve (.inspect vm.value)).2 }
    let h₂ : MemoryHost := { h₁ with engine := (h₁.engine.serve (.kill vm.value "KILL")).2 }
    let h₃ : MemoryHost := { h₂ with engine := (h₂.engine.serve (.remove vm.value true)).2 }
    have hq₁ : h₁.engine.FailureFree := hq.serve _
    have hq₂ : h₂.engine.FailureFree := hq₁.serve _
    have hkill : runOp (killWithin backend vm killAttempts) h₁ = (.ok (), h₂) :=
      killWithin_of_quiet 19 (hq₁ .kill)
    obtain ⟨hremove, hnf⟩ := h₂.engine.serve_remove_forced_of_quiet vm.value (hq₂ .remove)
    have hrun : runOp (removeContainer backend vm) h = (.ok (), h₃) := by
      unfold removeContainer
      rw [runOp_bind, exists_of_quiet (hq _), hfound]
      dsimp only
      rw [if_neg (by simp), runOp_bind, hkill]
      dsimp only
      rw [runOp_bind, runOp_ask]
      dsimp only
      split
      · rfl
      · rename_i e he
        rw [if_pos (by simp [hnf e he])]
        rfl
    have hobj₁ : h₁.engine.objects = h.engine.objects :=
      h.engine.serve_objects_of_changesNoObject rfl
    have hobj₃ : h₃.engine.objects = h₁.engine.objects.without vm.value := by
      show (h₂.engine.serve (.remove vm.value true)).2.objects = _
      rw [hremove]
      rcases killWithin_objects_of_ok vm hkill with hk | hk <;>
        simp [hk, EngineObjects.without, EngineObjects.stop]
    rw [hrun]
    exact ⟨rfl, by rw [hobj₃, hobj₁], hq₂.serve _⟩

theorem delete_of_removed {h₁ : MemoryHost}
    (hremoved : runOp (removeContainer backend vm) h = (.ok (), h₁))
    (hnf : ∀ e, (h₁.engine.serve (.removeVolume vm.ephemeralDisk.value true)).1 = .error e →
      e.isNotFound = true) :
    runOp (delete backend vm) h =
      (.ok (), { h₁ with engine := (h₁.engine.serve (.removeVolume vm.ephemeralDisk.value true)).2 }) := by
  unfold delete
  rw [runOp_bind, hremoved]
  dsimp only
  rw [runOp_bind, runOp_ask]
  dsimp only
  split
  · rfl
  · rename_i e he
    rw [if_pos (hnf e he)]
    rfl

/-- No container but the VM's binds the volume its ephemeral disk resolves to, under the
name the engine checks for it. -/
def EphemeralUnbound (vm : VmId) (s : MemoryEngine) : Prop :=
  ∀ w, s.resolveVolume vm.ephemeralDisk.value = some w →
    ∀ p ∈ s.containers, p.1 ≠ vm.value →
      ∀ b ∈ p.2.spec.binds, MemoryEngine.bindSource b ≠ MemoryEngine.boundName w

theorem volumeInUse_without {s s' : MemoryEngine} {w : String}
    (hcont : s'.containers = SortedMap.erase vm.value s.containers) :
    s'.volumeInUse w = true ↔ ∃ p ∈ s.containers, p.1 ≠ vm.value ∧
      ∃ b ∈ p.2.spec.binds, MemoryEngine.bindSource b = MemoryEngine.boundName w := by
  rw [MemoryEngine.volumeInUse_iff, hcont]
  simp [SortedMap.erase, and_assoc]

/-- With no failure queued, a deletion succeeds when the ephemeral volume is not bound
elsewhere: it is the container's removal and one volume removal, and it removes the VM's
container and the volume its ephemeral disk resolves to, and nothing else. -/
theorem delete_of_quiet (hq : h.engine.FailureFree) (hfree : EphemeralUnbound vm h.engine) :
    runOp (delete backend vm) h =
      (.ok (), { (runOp (removeContainer backend vm) h).2 with
        engine := ((runOp (removeContainer backend vm) h).2.engine.serve
          (.removeVolume vm.ephemeralDisk.value true)).2 }) ∧
    (runOp (delete backend vm) h).2.engine.objects =
      { h.engine.objects.without vm.value with
        volumes := (h.engine.resolveVolume vm.ephemeralDisk.value).elim h.engine.volumes
          (SortedSet.erase · h.engine.volumes) } ∧
    (runOp (delete backend vm) h).2.engine.FailureFree := by
  obtain ⟨hok, hobj, hq₁⟩ := @removeContainer_of_quiet vm h hq
  rcases hremoved : runOp (removeContainer backend vm) h with ⟨r, h₁⟩
  rw [hremoved] at hok hobj hq₁
  subst hok
  -- the volume removal sees the volumes as they were and the containers without the VM's
  have hcont : h₁.engine.containers = SortedMap.erase vm.value h.engine.containers :=
    congrArg EngineObjects.containers hobj
  have hvols : h₁.engine.volumes = h.engine.volumes := congrArg EngineObjects.volumes hobj
  have hresolve : h₁.engine.resolveVolume vm.ephemeralDisk.value =
      h.engine.resolveVolume vm.ephemeralDisk.value := by
    simp only [MemoryEngine.resolveVolume, hvols]
  have hfree₁ : ∀ w, h₁.engine.resolveVolume vm.ephemeralDisk.value = some w →
      h₁.engine.volumeInUse w = false := by
    intro w hw
    rw [hresolve] at hw
    rw [Bool.eq_false_iff, ne_eq, volumeInUse_without hcont]
    rintro ⟨p, hp, hne, b, hb, hbound⟩
    exact hfree w hw p hp hne b hb hbound
  obtain ⟨hobj₂, hnf⟩ :=
    h₁.engine.serve_removeVolume_of_quiet vm.ephemeralDisk.value true (hq₁ _) hfree₁
  rw [delete_of_removed hremoved hnf]
  refine ⟨rfl, ?_, hq₁.serve _⟩
  show (h₁.engine.serve _).2.objects = _
  rw [hobj₂, hresolve, hvols, hobj]

/-- With no failure queued, a deletion fails when another container binds the volume the
ephemeral disk resolves to, under the name the engine checks: the engine refuses to remove
a volume in use. -/
theorem delete_of_bound (hq : h.engine.FailureFree) (hbound : ¬EphemeralUnbound vm h.engine) :
    (runOp (delete backend vm) h).1 = .error (.engine .removeEphemeralVolume
      (.conflict ("remove " ++ vm.ephemeralDisk.value ++ ": volume is in use"))) := by
  obtain ⟨hok, hobj, hq₁⟩ := @removeContainer_of_quiet vm h hq
  rcases hremoved : runOp (removeContainer backend vm) h with ⟨r, h₁⟩
  rw [hremoved] at hok hobj hq₁
  subst hok
  have hcont : h₁.engine.containers = SortedMap.erase vm.value h.engine.containers :=
    congrArg EngineObjects.containers hobj
  have hvols : h₁.engine.volumes = h.engine.volumes := congrArg EngineObjects.volumes hobj
  -- the volume the name resolves to, and a container other than the VM's that binds it
  obtain ⟨w, hw, p, hp, hne, b, hb, hsource⟩ : ∃ w,
      h.engine.resolveVolume vm.ephemeralDisk.value = some w ∧ ∃ p ∈ h.engine.containers,
        p.1 ≠ vm.value ∧ ∃ b ∈ p.2.spec.binds,
          MemoryEngine.bindSource b = MemoryEngine.boundName w := by
    simpa [EphemeralUnbound] using hbound
  have hw₁ : h₁.engine.resolveVolume vm.ephemeralDisk.value = some w := by
    simpa only [MemoryEngine.resolveVolume, hvols] using hw
  have hused : h₁.engine.volumeInUse w = true :=
    (volumeInUse_without hcont).2 ⟨p, hp, hne, b, hb, hsource⟩
  have hserve : (h₁.engine.serve (.removeVolume vm.ephemeralDisk.value true)).1 =
      .error (.conflict ("remove " ++ vm.ephemeralDisk.value ++ ": volume is in use")) := by
    rw [MemoryEngine.serve_of_not_queued (hq₁ _)]
    simp only [MemoryEngine.answer, MemoryEngine.resolveVolume, MemoryEngine.volumeInUse,
      MemoryEngine.enter_volumes, MemoryEngine.enter_containers]
    simp only [MemoryEngine.resolveVolume] at hw₁
    simp only [MemoryEngine.volumeInUse] at hused
    simp only [hw₁, hused, if_true]
    rfl
  unfold delete
  rw [runOp_bind, hremoved]
  dsimp only
  rw [runOp_bind, runOp_ask]
  dsimp only
  rw [hserve]
  rfl

theorem delete_again (hq : h.engine.FailureFree) (hfree : EphemeralUnbound vm h.engine)
    (honly : ∀ w₁ ∈ h.engine.volumes, ∀ w₂ ∈ h.engine.volumes,
      MemoryEngine.volumeAnswers vm.ephemeralDisk.value w₁ = true →
      MemoryEngine.volumeAnswers vm.ephemeralDisk.value w₂ = true → w₁ = w₂) :
    (runOp (delete backend vm) (runOp (delete backend vm) h).2).1 = .ok () ∧
    (runOp (delete backend vm) (runOp (delete backend vm) h).2).2.engine.objects =
      (runOp (delete backend vm) h).2.engine.objects := by
  obtain ⟨-, hobj, hq'⟩ := @delete_of_quiet vm h hq hfree
  generalize (runOp (delete backend vm) h).2 = h' at hobj hq' ⊢
  -- nothing answers to the ephemeral disk's name any more, so the second removal finds nothing
  have hnone : h'.engine.resolveVolume vm.ephemeralDisk.value = none :=
    MemoryEngine.resolveVolume_eq_none_of_removed honly (congrArg EngineObjects.volumes hobj)
  have hcont : h'.engine.containers = SortedMap.erase vm.value h.engine.containers :=
    congrArg EngineObjects.containers hobj
  obtain ⟨hrun₂, hobj₂, -⟩ := @delete_of_quiet vm h' hq' fun w hw => by rw [hnone] at hw; cases hw
  rw [hrun₂]
  refine ⟨rfl, ?_⟩
  rw [← hrun₂, hobj₂, hnone, Option.elim_none]
  simp only [MemoryEngine.objects, EngineObjects.without, hcont, SortedMap.erase_erase_self]

/-- For a VM whose name holds no `/`, the ephemeral volume is unbound when no other
container binds the ephemeral disk's name itself. -/
theorem ephemeralUnbound_of_plain {s : MemoryEngine} (hslash : '/' ∉ vm.value.toList)
    (hshared : ∀ p ∈ s.containers, p.1 ≠ vm.value →
      ∀ b ∈ p.2.spec.binds, MemoryEngine.bindSource b ≠ vm.ephemeralDisk.value) :
    EphemeralUnbound vm s := by
  have hname : '/' ∉ vm.ephemeralDisk.value.toList := by
    simp only [VmId.ephemeralDisk, DiskId.ephemeralLeader, String.toList_append, List.mem_append,
      not_or]
    exact ⟨by decide, hslash⟩
  intro w hw p hp hne b hb
  rw [MemoryEngine.boundName_eq_of_answers hname (MemoryEngine.resolveVolume_eq_some hw).2]
  exact hshared p hp hne b hb

/-- Deleting a VM on an engine with no failure queued, where no other container binds the
volume its ephemeral disk resolves to (under the name the engine checks) and at most one
volume answers to that disk's name: the deletion succeeds whether the VM's container is
running, stopped or gone; it makes no kill call when the container is gone; it leaves no
container of the VM's name, removes the volume the ephemeral disk resolved to and changes
nothing else; and a second deletion succeeds and changes nothing. -/
theorem delete_succeeds_idempotently (hq : h.engine.FailureFree)
    (hfree : EphemeralUnbound vm h.engine)
    (honly : ∀ w₁ ∈ h.engine.volumes, ∀ w₂ ∈ h.engine.volumes,
      MemoryEngine.volumeAnswers vm.ephemeralDisk.value w₁ = true →
      MemoryEngine.volumeAnswers vm.ephemeralDisk.value w₂ = true → w₁ = w₂) :
    (runOp (delete backend vm) h).1 = .ok () ∧
    (SortedMap.get? h.engine.containers vm.value = none →
      (runOp (delete backend vm) h).2.engine.callCount .kill = h.engine.callCount .kill) ∧
    SortedMap.get? (runOp (delete backend vm) h).2.engine.containers vm.value = none ∧
    (runOp (delete backend vm) h).2.engine.objects =
      { h.engine.objects.without vm.value with
        volumes := (h.engine.resolveVolume vm.ephemeralDisk.value).elim h.engine.volumes
          (SortedSet.erase · h.engine.volumes) } ∧
    (runOp (delete backend vm) (runOp (delete backend vm) h).2).1 = .ok () ∧
    (runOp (delete backend vm) (runOp (delete backend vm) h).2).2.engine.objects =
      (runOp (delete backend vm) h).2.engine.objects := by
  obtain ⟨hrun, hobj, -⟩ := @delete_of_quiet vm h hq hfree
  obtain ⟨hok₂, hobj₂⟩ := @delete_again vm h hq hfree honly
  refine ⟨by rw [hrun], fun habsent => ?_, ?_, hobj, hok₂, hobj₂⟩
  · -- without a container the deletion is one inspection and one volume removal
    rw [hrun, removeContainer_of_absent (hq _) habsent]
    dsimp only
    rw [MemoryEngine.callCount_serve_of_ne _ (by simp [Call.op]),
      MemoryEngine.callCount_serve_of_ne _ (by simp [Call.op])]
  · have hcont := congrArg EngineObjects.containers hobj
    simp only [EngineObjects.without] at hcont
    rw [show (runOp (delete backend vm) h).2.engine.containers = _ from hcont]
    exact SortedMap.get?_erase_self _ _
/-- A running VM `c-1` with its ephemeral volume, beside a container binding a persistent
disk. -/
def vmBesideDisk : MemoryHost :=
  let engine := ((MemoryEngine.empty ⟨8589934592, 4⟩).addVolume "disk-1").addVolume "vol-eph-c-1"
  let engine := engine.addContainer "c-1" (ContainerSpec.empty.setBinds ["vol-eph-c-1:/var/vcap/data/"])
  ⟨engine.addContainer "other" (ContainerSpec.empty.setBinds ["disk-1:/data"]), 0⟩

/-- Deleting `c-1` twice beside a container that binds a persistent disk. -/
theorem delete_beside_disk :
    let vm : VmId := ⟨"c-1"⟩
    let h := vmBesideDisk
    (h.engine.FailureFree ∧ EphemeralUnbound vm h.engine ∧
      ∀ w₁ ∈ h.engine.volumes, ∀ w₂ ∈ h.engine.volumes,
        MemoryEngine.volumeAnswers vm.ephemeralDisk.value w₁ = true →
        MemoryEngine.volumeAnswers vm.ephemeralDisk.value w₂ = true → w₁ = w₂) ∧
    (runOp (delete backend vm) h).1 = .ok () ∧
    (SortedMap.get? h.engine.containers vm.value = none →
      (runOp (delete backend vm) h).2.engine.callCount .kill = h.engine.callCount .kill) ∧
    SortedMap.get? (runOp (delete backend vm) h).2.engine.containers vm.value = none ∧
    (runOp (delete backend vm) h).2.engine.objects =
      { h.engine.objects.without vm.value with
        volumes := (h.engine.resolveVolume vm.ephemeralDisk.value).elim h.engine.volumes
          (SortedSet.erase · h.engine.volumes) } ∧
    (runOp (delete backend vm) (runOp (delete backend vm) h).2).1 = .ok () ∧
    (runOp (delete backend vm) (runOp (delete backend vm) h).2).2.engine.objects =
      (runOp (delete backend vm) h).2.engine.objects := by
  intro vm h
  have hq : h.engine.FailureFree := fun _ => rfl
  have hres : h.engine.resolveVolume vm.ephemeralDisk.value = some "vol-eph-c-1" := by decide
  have hfree : EphemeralUnbound vm h.engine := by
    intro w hw
    rw [hres] at hw
    cases hw
    decide
  have honly : ∀ w₁ ∈ h.engine.volumes, ∀ w₂ ∈ h.engine.volumes,
      MemoryEngine.volumeAnswers vm.ephemeralDisk.value w₁ = true →
      MemoryEngine.volumeAnswers vm.ephemeralDisk.value w₂ = true → w₁ = w₂ := by
    decide
  exact ⟨⟨hq, hfree, honly⟩, delete_succeeds_idempotently hq hfree honly⟩

/-- The VM `c-x/y`, gone already, with its ephemeral volume stored under the plain name, and
a container binding `y`. -/
def slashedVmRemains : MemoryHost :=
  let engine := (MemoryEngine.empty ⟨8589934592, 4⟩).addVolume "vol-eph-c-x/y"
  ⟨engine.addContainer "other" (ContainerSpec.empty.setBinds ["y:/data"]), 0⟩

/-- No failure is queued, no other container binds `vol-eph-c-x/y` and one volume answers
to it, yet the deletion of `c-x/y` fails: the engine checks the volume's binds under `y`. -/
theorem delete_refused_for_slashed_vm :
    let vm : VmId := ⟨"c-x/y"⟩
    let h := slashedVmRemains
    h.engine.FailureFree ∧
    (∀ p ∈ h.engine.containers, p.1 ≠ vm.value →
      ∀ b ∈ p.2.spec.binds, MemoryEngine.bindSource b ≠ vm.ephemeralDisk.value) ∧
    (∀ w₁ ∈ h.engine.volumes, ∀ w₂ ∈ h.engine.volumes,
      MemoryEngine.volumeAnswers vm.ephemeralDisk.value w₁ = true →
      MemoryEngine.volumeAnswers vm.ephemeralDisk.value w₂ = true → w₁ = w₂) ∧
    (runOp (delete backend vm) h).1 = .error (.engine .removeEphemeralVolume
      (.conflict "remove vol-eph-c-x/y: volume is in use")) := by
  intro vm h
  refine ⟨fun _ => rfl, by decide, by decide, ?_⟩
  decide +kernel

end Vm

end ContainerCpi
