import Mathlib
import ContainerCpi.Proofs.Text.Search
import ContainerCpi.Cloud.Vm

/-!
# Killing with retries

A VM's container is killed by `Vm.killWithin`: a kill is sent, and a refusal other than a
container already gone or not running is tried again after a pause, until the attempts run
out.  What the loop does depends only on how the engine answers its kills, so it is studied on
an engine that answers kills from a stream (`Timeline.killAnswers`), under an observer that
sees every engine call and every pause (`Timeline`).

Over every stream of answers, the loop sends as many kills as the position of the first answer
that ends it (`Vm.firstEnding`), but at most `killAttempts`.  It succeeds exactly when such an
answer comes within the attempts, and otherwise fails with the last refusal as a failure of
the kill.  One pause of `killRetryDelay` separates each two kills and none follows the last,
so the loop waits one delay less than it sends kills (`Vm.killWithin_retries`).
-/

namespace ContainerCpi

/-! ## Observing engine calls and pauses -/

/-- What an observer of a run sees, in the order it happens. -/
inductive Event where
  | call (c : Call)
  | pause (d : Duration)

namespace Event

/-- Whether the event is a kill sent to the engine. -/
def isKill : Event → Bool
  | .call (.kill _ _) => true
  | _ => false

/-- How long the event waits, in nanoseconds. -/
def waited : Event → Nat
  | .pause d => d.nanos
  | .call _ => 0

end Event

/-- A computation that sees the events before it and adds events of its own: given the events
so far, a value and the events it caused. -/
def Timeline (α : Type) : Type := List Event → α × List Event

instance : Monad Timeline where
  pure a := fun _ => (a, [])
  bind p f := fun log =>
    let (a, seen) := p log
    let (b, more) := f a (log ++ seen)
    (b, seen ++ more)

namespace Timeline

variable {α β : Type}

/-- An engine that answers each call as a function of what happened before it, with a clock
whose pauses are seen.  No time limit passes, and identities are numbered by the events so
far. -/
def backend (answer : List Event → (c : Call) → Except EngineError c.Reply) : Backend Timeline where
  call c := fun log => (answer log c, [.call c])
  sleep d := fun _ => ((), [.pause d])
  within _ work := some <$> work
  freshUuid := fun log => (countedUuid log.length, [])

/-- An engine answering kills from a stream: the kill sent after `i` others gets `answers i`,
and `other` answers every other call. -/
def killAnswers (answers : Nat → Except EngineError Unit)
    (other : List Event → (c : Call) → Except EngineError c.Reply) (log : List Event) :
    (c : Call) → Except EngineError c.Reply
  | .kill _ _ => answers (log.countP Event.isKill)
  | c => other log c

/-- Run a cloud operation after the events `log`: its result and the events it caused. -/
def run (p : CloudM Timeline α) (log : List Event) : Except CpiError α × List Event := p.run log

@[simp] theorem run_pure (a : α) (log : List Event) :
    run (pure a : CloudM Timeline α) log = (.ok a, []) := rfl

@[simp] theorem run_throw (e : CpiError) (log : List Event) :
    run (throw e : CloudM Timeline α) log = (.error e, []) := rfl

theorem run_bind (p : CloudM Timeline α) (f : α → CloudM Timeline β) (log : List Event) :
    run (p >>= f) log =
      match run p log with
      | (.ok a, seen) => ((run (f a) (log ++ seen)).1, seen ++ (run (f a) (log ++ seen)).2)
      | (.error e, seen) => (.error e, seen) := by
  have hunfold : run (p >>= f) log =
      ((ExceptT.bindCont f (run p log).1 (log ++ (run p log).2)).1,
        (run p log).2 ++ (ExceptT.bindCont f (run p log).1 (log ++ (run p log).2)).2) := rfl
  rw [hunfold]
  rcases run p log with ⟨_ | a, seen⟩
  · exact Prod.ext rfl (List.append_nil seen)
  · rfl

variable (answer : List Event → (c : Call) → Except EngineError c.Reply)

@[simp] theorem run_ask (c : Call) (log : List Event) :
    run ((backend answer).ask c) log = (.ok (answer log c), [.call c]) := rfl

@[simp] theorem run_pause (d : Duration) (log : List Event) :
    run ((backend answer).pause d) log = (.ok (), [.pause d]) := rfl

@[simp] theorem killAnswers_kill (answers : Nat → Except EngineError Unit) (log : List Event)
    (name signal : String) :
    killAnswers answers answer log (.kill name signal) = answers (log.countP Event.isKill) := rfl

end Timeline

namespace Vm

/-! ## The answers that end the loop -/

/-- An answer to a kill that ends the retries: the kill went through, or the engine reports the
container gone or not running. -/
def EndsKill : Except EngineError Unit → Prop
  | .ok _ => True
  | .error e => (∃ m, e = .notFound m) ∨ "is not running".toList <:+: e.message.toList

theorem endsKill_error_iff (e : EngineError) :
    EndsKill (.error e) ↔ (e.isNotRunning || e.isNotFound) = true := by
  rw [EndsKill, Bool.or_eq_true, EngineError.isNotRunning, Text.contains_iff_isInfix, or_comm]
  cases e <;> simp [EngineError.isNotFound]

open Classical in
/-- The position, counting from one, of the first answer of a stream that ends the retries;
`⊤` when none does. -/
noncomputable def firstEnding (answers : Nat → Except EngineError Unit) : ℕ∞ :=
  if h : ∃ i, EndsKill (answers i) then ((Nat.find h + 1 : ℕ) : ℕ∞) else ⊤

section FirstEnding

open Classical

variable {answers : Nat → Except EngineError Unit}

theorem firstEnding_of_ends (h : EndsKill (answers 0)) : firstEnding answers = 1 := by
  have hex : ∃ i, EndsKill (answers i) := ⟨0, h⟩
  rw [firstEnding, dif_pos hex, (Nat.find_eq_zero hex).2 h]
  rfl

theorem firstEnding_of_not_ends (h : ¬EndsKill (answers 0)) :
    firstEnding answers = firstEnding (fun i => answers (i + 1)) + 1 := by
  by_cases hlater : ∃ i, EndsKill (answers (i + 1))
  · have hex : ∃ i, EndsKill (answers i) := ⟨_, hlater.choose_spec⟩
    rw [firstEnding, firstEnding, dif_pos hex, dif_pos hlater, Nat.find_comp_succ hex hlater h]
    push_cast
    rfl
  · have hnone : ¬∃ i, EndsKill (answers i) := by
      rintro ⟨i, hi⟩
      cases i with
      | zero => exact h hi
      | succ i => exact hlater ⟨i, hi⟩
    rw [firstEnding, firstEnding, dif_neg hnone, dif_neg hlater, top_add]

theorem one_le_firstEnding : 1 ≤ firstEnding answers := by
  unfold firstEnding
  split
  · exact_mod_cast Nat.succ_le_succ (Nat.zero_le _)
  · exact le_top

theorem error_of_not_endsKill {r : Except EngineError Unit} (h : ¬EndsKill r) :
    ∃ e, r = .error e := by
  cases r with
  | error e => exact ⟨e, rfl⟩
  | ok u => exact absurd trivial h

theorem not_ends_of_lt_firstEnding {i : Nat} (h : ((i + 1 : ℕ) : ℕ∞) < firstEnding answers) :
    ¬EndsKill (answers i) := by
  intro hi
  have hex : ∃ i, EndsKill (answers i) := ⟨i, hi⟩
  rw [firstEnding, dif_pos hex] at h
  have hle : Nat.find hex ≤ i := Nat.find_min' hex hi
  exact absurd (Nat.cast_lt.1 h) (by omega)

end FirstEnding

/-! ## The kills and pauses sent -/

/-- `n` kills of the VM's container, one pause of `killRetryDelay` between each two. -/
def killSchedule (vm : VmId) (n : Nat) : List Event :=
  (List.replicate n (.call (.kill vm.value "KILL"))).intersperse (.pause killRetryDelay)

theorem killSchedule_succ_succ (vm : VmId) (n : Nat) :
    killSchedule vm (n + 2) =
      .call (.kill vm.value "KILL") :: .pause killRetryDelay :: killSchedule vm (n + 1) := by
  rw [killSchedule, killSchedule, List.replicate_succ, List.replicate_succ,
    List.intersperse_cons_cons, ← List.replicate_succ]

theorem countP_killSchedule (vm : VmId) : ∀ n, (killSchedule vm n).countP Event.isKill = n
  | 0 => rfl
  | 1 => rfl
  | n + 2 => by
    rw [killSchedule_succ_succ, List.countP_cons, List.countP_cons, countP_killSchedule vm (n + 1)]
    rfl

theorem waited_killSchedule (vm : VmId) :
    ∀ n, ((killSchedule vm n).map Event.waited).sum = killRetryDelay.nanos * (n - 1)
  | 0 => rfl
  | 1 => rfl
  | n + 2 => by
    rw [killSchedule_succ_succ, List.map_cons, List.map_cons, List.sum_cons, List.sum_cons,
      waited_killSchedule vm (n + 1)]
    simp only [Event.waited, Nat.add_sub_cancel, Nat.zero_add]
    rw [show n + 2 - 1 = n + 1 by omega, Nat.mul_succ, Nat.add_comm]

/-! ## One kill, then the whole loop -/

section Loop

variable (answers : Nat → Except EngineError Unit)
  (other : List Event → (c : Call) → Except EngineError c.Reply) (vm : VmId)

/-- The answers still to come after the events `log`. -/
def following (log : List Event) (i : Nat) : Except EngineError Unit :=
  answers (log.countP Event.isKill + i)

theorem following_retry (log : List Event) :
    following answers (log ++ [.call (.kill vm.value "KILL"), .pause killRetryDelay]) =
      fun i => following answers log (i + 1) := by
  funext i
  simp only [following, List.countP_append, List.countP_cons, List.countP_nil, Event.isKill,
    Bool.false_eq_true, if_false, if_true]
  congr 1
  omega

theorem run_killWithin_of_ends (a : Nat) (log : List Event) (h : EndsKill (following answers log 0)) :
    Timeline.run (killWithin (Timeline.backend (Timeline.killAnswers answers other)) vm (a + 1)) log =
      (.ok (), [.call (.kill vm.value "KILL")]) := by
  rw [killWithin, Timeline.run_bind, Timeline.run_ask]
  dsimp only
  rw [Timeline.killAnswers_kill]
  simp only [following, Nat.add_zero] at h
  rcases hanswer : answers (log.countP Event.isKill) with e | u
  · rw [hanswer] at h
    dsimp only
    rw [if_pos ((endsKill_error_iff e).1 h)]
    rfl
  · rfl

theorem run_killWithin_last {e : EngineError} (log : List Event)
    (he : following answers log 0 = .error e) (h : ¬EndsKill (.error e)) :
    Timeline.run (killWithin (Timeline.backend (Timeline.killAnswers answers other)) vm 1) log =
      (.error (.engine .killContainer e), [.call (.kill vm.value "KILL")]) := by
  rw [killWithin, Timeline.run_bind, Timeline.run_ask]
  dsimp only
  rw [Timeline.killAnswers_kill]
  simp only [following, Nat.add_zero] at he
  rw [he]
  dsimp only
  rw [if_neg (mt (endsKill_error_iff e).2 h)]
  rfl

theorem run_killWithin_retry {e : EngineError} (a : Nat) (log : List Event)
    (he : following answers log 0 = .error e) (h : ¬EndsKill (.error e)) :
    Timeline.run (killWithin (Timeline.backend (Timeline.killAnswers answers other)) vm (a + 2)) log =
      ((Timeline.run (killWithin (Timeline.backend (Timeline.killAnswers answers other)) vm (a + 1))
          (log ++ [.call (.kill vm.value "KILL"), .pause killRetryDelay])).1,
        .call (.kill vm.value "KILL") :: .pause killRetryDelay ::
          (Timeline.run (killWithin (Timeline.backend (Timeline.killAnswers answers other)) vm (a + 1))
            (log ++ [.call (.kill vm.value "KILL"), .pause killRetryDelay])).2) := by
  rw [killWithin, Timeline.run_bind, Timeline.run_ask]
  dsimp only
  rw [Timeline.killAnswers_kill]
  simp only [following, Nat.add_zero] at he
  rw [he]
  dsimp only
  have hleft : (a + 1 == 0) = false := rfl
  rw [if_neg (mt (endsKill_error_iff e).2 h), hleft, if_neg Bool.false_ne_true, Timeline.run_bind,
    Timeline.run_pause]
  dsimp only
  rw [List.append_assoc]
  rfl

theorem killSchedule_min_succ {k : ℕ∞} (hk : 1 ≤ k) (a : Nat) :
    killSchedule vm (min (k + 1) ((a + 1 + 1 : ℕ) : ℕ∞)).toNat =
      .call (.kill vm.value "KILL") :: .pause killRetryDelay ::
        killSchedule vm (min k ((a + 1 : ℕ) : ℕ∞)).toNat := by
  have hne : min k ((a + 1 : ℕ) : ℕ∞) ≠ ⊤ :=
    ne_top_of_le_ne_top (ENat.natCast_ne_top _) (min_le_right _ _)
  have hpos : 1 ≤ (min k ((a + 1 : ℕ) : ℕ∞)).toNat := by
    have hle : (1 : ℕ∞) ≤ min k ((a + 1 : ℕ) : ℕ∞) := le_min hk (by exact_mod_cast Nat.le_add_left 1 a)
    rw [← ENat.natCast_toNat hne] at hle
    exact_mod_cast hle
  obtain ⟨j, hj⟩ : ∃ j, (min k ((a + 1 : ℕ) : ℕ∞)).toNat = j + 1 :=
    ⟨_, (Nat.succ_pred_eq_of_pos hpos).symm⟩
  rw [Nat.cast_succ (a + 1), min_add_add_right, ENat.toNat_add hne ENat.one_ne_top, hj,
    ENat.toNat_one, killSchedule_succ_succ]

theorem add_one_le_attempts_iff (k : ℕ∞) (n : Nat) : k + 1 ≤ ((n + 1 : ℕ) : ℕ∞) ↔ k ≤ n := by
  rw [Nat.cast_succ]
  exact ENat.add_le_add_iff_right ENat.one_ne_top

/-- **The loop over a stream of answers.**  With `a + 1` attempts left, the loop sends kills
until the first answer that ends it, at most `a + 1` of them with a pause between each two; it
succeeds when that answer comes within the attempts, and otherwise fails with the last
refusal. -/
theorem run_killWithin (a : Nat) (log : List Event) :
    Timeline.run (killWithin (Timeline.backend (Timeline.killAnswers answers other)) vm (a + 1)) log =
      (if firstEnding (following answers log) ≤ ((a + 1 : ℕ) : ℕ∞) then .ok ()
        else (following answers log a).mapError (.engine .killContainer),
       killSchedule vm (min (firstEnding (following answers log)) ((a + 1 : ℕ) : ℕ∞)).toNat) := by
  -- induction on the attempts left, the history growing by a kill and a pause at each retry
  induction a generalizing log with
  | zero =>
    by_cases hends : EndsKill (following answers log 0)
    · rw [run_killWithin_of_ends answers other vm 0 log hends, firstEnding_of_ends hends]
      rfl
    · obtain ⟨e, he⟩ := error_of_not_endsKill hends
      have hk : 1 ≤ firstEnding (fun i => following answers log (i + 1)) := one_le_firstEnding
      rw [run_killWithin_last answers other vm log he (he ▸ hends), firstEnding_of_not_ends hends]
      have hlate : ¬(firstEnding (fun i => following answers log (i + 1)) + 1 ≤ ((0 + 1 : ℕ) : ℕ∞)) :=
        fun hle => absurd (hk.trans ((add_one_le_attempts_iff _ 0).1 hle)) (by simp)
      have hone : ((0 + 1 : ℕ) : ℕ∞) ≤ firstEnding (fun i => following answers log (i + 1)) + 1 := by
        rw [Nat.cast_succ, Nat.cast_zero, zero_add]
        exact le_add_self
      rw [if_neg hlate, he, min_eq_right hone]
      rfl
  | succ a ih =>
    by_cases hends : EndsKill (following answers log 0)
    · rw [run_killWithin_of_ends answers other vm (a + 1) log hends, firstEnding_of_ends hends]
      have hin : (1 : ℕ∞) ≤ ((a + 1 + 1 : ℕ) : ℕ∞) := by exact_mod_cast Nat.le_add_left 1 (a + 1)
      rw [if_pos hin, min_eq_left hin]
      rfl
    · obtain ⟨e, he⟩ := error_of_not_endsKill hends
      have hk : 1 ≤ firstEnding (fun i => following answers log (i + 1)) := one_le_firstEnding
      rw [run_killWithin_retry answers other vm a log he (he ▸ hends), ih, following_retry,
        firstEnding_of_not_ends hends, killSchedule_min_succ vm hk]
      simp only [add_one_le_attempts_iff _ (a + 1)]

end Loop

/-! ## The attempts of a kill -/

/-- What the kill loop does over a stream of answers, as `out` shows it: as many kills as the
position of the first answer that ends the loop, at most `killAttempts`; success exactly when
that answer comes within the attempts, and otherwise a failure of the kill with the last
refusal; a pause between each two kills and none after the last, so that it waits one delay
less than it sends kills. -/
structure KillRetries (answers : Nat → Except EngineError Unit) (vm : VmId)
    (out : Except CpiError Unit × List Event) : Prop where
  kills_eq : (out.2.countP Event.isKill : ℕ∞) = min (firstEnding answers) killAttempts
  ok_iff : out.1 = .ok () ↔ firstEnding answers ≤ killAttempts
  error_of_exhausted : (killAttempts : ℕ∞) < firstEnding answers →
    ∃ e, answers (killAttempts - 1) = .error e ∧ out.1 = .error (.engine .killContainer e)
  spaced : out.2 = killSchedule vm (out.2.countP Event.isKill)
  waited : (out.2.map Event.waited).sum = killRetryDelay.nanos * (out.2.countP Event.isKill - 1)

/-- **Kill attempts.**  Over every stream of answers to its kills, and whatever the engine
answers otherwise, killing a VM's container sends kills until the first answer that ends the
loop, at most `killAttempts` (20) of them, 500 ms apart; it succeeds exactly when that answer
comes within the attempts, and otherwise fails with the last refusal. -/
theorem killWithin_retries (answers : Nat → Except EngineError Unit)
    (other : List Event → (c : Call) → Except EngineError c.Reply) (vm : VmId) :
    KillRetries answers vm
      (Timeline.run (killWithin (Timeline.backend (Timeline.killAnswers answers other)) vm
        killAttempts) []) := by
  obtain ⟨a, ha⟩ : ∃ a, killAttempts = a + 1 := ⟨19, rfl⟩
  have hfollowing : following answers [] = answers := by
    funext i
    simp [following]
  have hrun := run_killWithin answers other vm a []
  rw [hfollowing] at hrun
  have hbudget : min (firstEnding answers) ((a + 1 : ℕ) : ℕ∞) ≠ ⊤ :=
    ne_top_of_le_ne_top (ENat.natCast_ne_top _) (min_le_right _ _)
  -- past the attempts, the last answer is a refusal
  have hlast : ((a + 1 : ℕ) : ℕ∞) < firstEnding answers → ∃ e, answers a = .error e ∧
      (answers a).mapError (CpiError.engine .killContainer) = .error (.engine .killContainer e) := by
    intro hlate
    obtain ⟨e, he⟩ := error_of_not_endsKill (not_ends_of_lt_firstEnding hlate)
    exact ⟨e, he, by rw [he]; rfl⟩
  rw [ha, hrun]
  refine ⟨?_, ?_, ?_, ?_, ?_⟩
  · rw [ha, countP_killSchedule, ENat.natCast_toNat hbudget]
  · rw [ha]
    by_cases hin : firstEnding answers ≤ ((a + 1 : ℕ) : ℕ∞)
    · rw [if_pos hin]
      exact iff_of_true rfl hin
    · obtain ⟨e, -, herr⟩ := hlast (lt_of_not_ge hin)
      rw [if_neg hin, herr]
      exact iff_of_false (fun h => by cases h) hin
  · rw [ha]
    intro hlate
    obtain ⟨e, he, herr⟩ := hlast hlate
    exact ⟨e, he, by rw [if_neg (not_le_of_gt hlate), herr]⟩
  · rw [countP_killSchedule]
  · rw [countP_killSchedule, waited_killSchedule]

/-- Two lost connections and then a container that is not running: three kills. -/
example : (Timeline.run (killWithin (Timeline.backend (Timeline.killAnswers
    (fun i => if i < 2 then .error (.transport "EOF")
      else .error (.conflict "Container c-1 is not running"))
    (fun _ _ => .error (.transport "")))) ⟨"c-1"⟩ killAttempts) []).2.countP Event.isKill = 3 := by
  decide

end Vm

end ContainerCpi
