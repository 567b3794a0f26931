import ContainerCpi.Proofs.Engine.Objects
import ContainerCpi.Cloud.Monad

/-!
# Cloud operations on the engine in memory

A cloud operation over the in-memory backend is a state transformer of the host with
failures: `runOp p h` is its result and the host after it.  The lemmas below run each
building block of the operations (binds, handlers, engine calls, pauses, identities, time
limits) once, so that the proofs about the operations never unfold the monad.

Frame conditions come from the calls alone.  `OnlyCalls P p` says that every call `p` makes
satisfies `P`: then `p` keeps every preorder on engines that each such call keeps.  Reads
keep the objects as they are (`OnlyCalls.objects_eq`), calls about one container keep
everything beside it, but for volumes added (`OnlyCalls.beside`), and no call brings back a
queue of failures once it is empty (`OnlyCalls.queued_nil`).
-/

namespace ContainerCpi

namespace MemoryHost

variable {α β : Type}

/-- Run a cloud operation on the host in memory: its result and the host afterwards. -/
def runOp (p : CloudM (StateM MemoryHost) α) (h : MemoryHost) : Except CpiError α × MemoryHost :=
  p.run.run h

-- Outcomes compare, so that a run on a concrete host can be checked by evaluation.
deriving instance DecidableEq for Except

theorem runOp_eq_ok_of_isOk {p : CloudM (StateM MemoryHost) α} {h : MemoryHost} (d : α)
    (hok : (runOp p h).1.isOk = true) :
    runOp p h = (.ok ((runOp p h).1.toOption.getD d), (runOp p h).2) := by
  rcases hr : runOp p h with ⟨_ | a, h'⟩
  · rw [hr] at hok
    cases hok
  · rfl

/-! ## Running the building blocks -/

@[simp] theorem runOp_pure (a : α) (h : MemoryHost) :
    runOp (pure a : CloudM (StateM MemoryHost) α) h = (.ok a, h) := rfl

@[simp] theorem runOp_throw (e : CpiError) (h : MemoryHost) :
    runOp (throw e : CloudM (StateM MemoryHost) α) h = (.error e, h) := rfl

theorem runOp_bind (p : CloudM (StateM MemoryHost) α) (f : α → CloudM (StateM MemoryHost) β)
    (h : MemoryHost) :
    runOp (p >>= f) h =
      match runOp p h with
      | (.ok a, h') => runOp (f a) h'
      | (.error e, h') => (.error e, h') := by
  simp only [runOp, ExceptT.run_bind, StateT.run_bind]
  rcases hp : p.run.run h with ⟨_ | a, h'⟩ <;> rfl

theorem runOp_bind_of_ok {p : CloudM (StateM MemoryHost) α} {f : α → CloudM (StateM MemoryHost) β}
    {h h' : MemoryHost} {a : α} (hp : runOp p h = (.ok a, h')) :
    runOp (p >>= f) h = runOp (f a) h' := by
  rw [runOp_bind, hp]

theorem runOp_bind_of_error {p : CloudM (StateM MemoryHost) α}
    {f : α → CloudM (StateM MemoryHost) β} {h h' : MemoryHost} {e : CpiError}
    (hp : runOp p h = (.error e, h')) : runOp (p >>= f) h = (.error e, h') := by
  rw [runOp_bind, hp]

theorem runOp_bind_eq_error {p : CloudM (StateM MemoryHost) α}
    {f : α → CloudM (StateM MemoryHost) β} {h h'' : MemoryHost} {e : CpiError}
    (hrun : runOp (p >>= f) h = (.error e, h'')) :
    runOp p h = (.error e, h'') ∨ ∃ a h', runOp p h = (.ok a, h') ∧ runOp (f a) h' = (.error e, h'') := by
  rw [runOp_bind] at hrun
  rcases hp : runOp p h with ⟨e' | a, h'⟩ <;> rw [hp] at hrun <;> dsimp only at hrun
  · cases hrun
    exact .inl rfl
  · exact .inr ⟨a, h', rfl, hrun⟩

theorem runOp_bind_eq_ok {p : CloudM (StateM MemoryHost) α}
    {f : α → CloudM (StateM MemoryHost) β} {h h'' : MemoryHost} {b : β}
    (hrun : runOp (p >>= f) h = (.ok b, h'')) :
    ∃ a h', runOp p h = (.ok a, h') ∧ runOp (f a) h' = (.ok b, h'') := by
  rw [runOp_bind] at hrun
  rcases hp : runOp p h with ⟨e' | a, h'⟩ <;> rw [hp] at hrun <;> dsimp only at hrun
  · cases hrun
  · exact ⟨a, h', rfl, hrun⟩

theorem runOp_tryCatch (p : CloudM (StateM MemoryHost) α)
    (handler : CpiError → CloudM (StateM MemoryHost) α) (h : MemoryHost) :
    runOp (tryCatch p handler) h =
      match runOp p h with
      | (.ok a, h') => (.ok a, h')
      | (.error e, h') => runOp (handler e) h' := by
  simp only [runOp]
  rcases hp : p.run.run h with ⟨_ | a, h'⟩
  all_goals
    show (ExceptT.tryCatch p handler).run.run h = _
    simp only [ExceptT.tryCatch, ExceptT.run_mk, StateT.run_bind]
    rw [show StateT.run p h = _ from hp]
    rfl

theorem runOp_tryCatch_eq_ok {p : CloudM (StateM MemoryHost) α}
    {handler : CpiError → CloudM (StateM MemoryHost) α} {h h' : MemoryHost} {a : α}
    (hrun : runOp (tryCatch p handler) h = (.ok a, h')) :
    runOp p h = (.ok a, h') ∨ ∃ e h₁, runOp p h = (.error e, h₁) ∧ runOp (handler e) h₁ = (.ok a, h') := by
  rw [runOp_tryCatch] at hrun
  rcases hp : runOp p h with ⟨e | a', h₁⟩ <;> rw [hp] at hrun <;> dsimp only at hrun
  · exact .inr ⟨e, h₁, rfl, hrun⟩
  · exact .inl hrun

@[simp] theorem runOp_ask (c : Call) (h : MemoryHost) :
    runOp (backend.ask c) h = (.ok (h.engine.serve c).1, { h with engine := (h.engine.serve c).2 }) :=
  rfl

@[simp] theorem runOp_run (phase : Phase) (c : Call) (h : MemoryHost) :
    runOp (backend.run phase c) h =
      (match (h.engine.serve c).1 with
        | .ok r => .ok r
        | .error e => .error (.engine phase e), { h with engine := (h.engine.serve c).2 }) := by
  simp only [Backend.run, runOp_bind]
  change runOp (match (h.engine.serve c).1 with
    | .ok r => pure r
    | .error e => throw (CpiError.engine phase e)) { h with engine := (h.engine.serve c).2 } = _
  split <;> rfl

@[simp] theorem runOp_attempt (c : Call) (h : MemoryHost) :
    runOp (backend.attempt c) h = (.ok (), { h with engine := (h.engine.serve c).2 }) := rfl

@[simp] theorem runOp_pause (d : Duration) (h : MemoryHost) :
    runOp (backend.pause d) h = (.ok (), h) := rfl

@[simp] theorem runOp_uuid (h : MemoryHost) :
    runOp backend.uuid h = (.ok (countedUuid (h.drawn + 1)), { h with drawn := h.drawn + 1 }) := rfl

@[simp] theorem runOp_bounded (limit : Duration) (late : CpiError)
    (work : CloudM (StateM MemoryHost) α) (h : MemoryHost) :
    runOp (backend.bounded limit late work) h = runOp work h := rfl

@[simp] theorem runOp_liftCpi (r : CpiResult α) (h : MemoryHost) : runOp (liftCpi r) h = (r, h) := by
  cases r <;> rfl

@[simp] theorem runOp_liftSpec (r : Except SpecError α) (h : MemoryHost) :
    runOp (liftSpec r) h = (r.mapError .spec, h) := by
  cases r <;> rfl

theorem runOp_run_eq_error {phase : Phase} {c : Call} {h h' : MemoryHost} {e : CpiError}
    (hrun : runOp (backend.run phase c) h = (.error e, h')) :
    ∃ e', (h.engine.serve c).1 = .error e' ∧ h' = { h with engine := (h.engine.serve c).2 } := by
  rw [runOp_run] at hrun
  split at hrun
  · cases hrun
  · rename_i e' he
    cases hrun
    exact ⟨e', he, rfl⟩

theorem runOp_run_eq_ok {phase : Phase} {c : Call} {h h' : MemoryHost} {r : c.Reply}
    (hrun : runOp (backend.run phase c) h = (.ok r, h')) :
    (h.engine.serve c).1 = .ok r ∧ h' = { h with engine := (h.engine.serve c).2 } := by
  rw [runOp_run] at hrun
  split at hrun
  · rename_i r' hr
    cases hrun
    exact ⟨hr, rfl⟩
  · cases hrun

theorem runOp_lift (x : StateM MemoryHost α) (h : MemoryHost) :
    runOp (ExceptT.lift x) h = (.ok (x.run h).1, (x.run h).2) := rfl

theorem run_bind (x : StateM MemoryHost α) (f : α → StateM MemoryHost β) (h : MemoryHost) :
    (x >>= f).run h = (f (x.run h).1).run (x.run h).2 :=
  rfl

theorem run_call_bind (c : Call) (f : Except EngineError c.Reply → StateM MemoryHost α)
    (h : MemoryHost) :
    (backend.call c >>= f).run h =
      (f (h.engine.serve c).1).run { h with engine := (h.engine.serve c).2 } :=
  rfl

/-! ## Frame conditions -/

/-- Every run of `p` ends with a host that `R` relates to the one it started with. -/
def Keeps (R : MemoryHost → MemoryHost → Prop) (p : CloudM (StateM MemoryHost) α) : Prop :=
  ∀ h, R h (runOp p h).2

/-- The calls `p` makes all satisfy `P`: `p` keeps every preorder on hosts that every such
call and every draw of an identity keeps. -/
def OnlyCalls (P : Call → Bool) (p : CloudM (StateM MemoryHost) α) : Prop :=
  ∀ R : MemoryHost → MemoryHost → Prop, (∀ h, R h h) →
    (∀ {h₁ h₂ h₃}, R h₁ h₂ → R h₂ h₃ → R h₁ h₃) →
    (∀ c, P c → ∀ h : MemoryHost, R h { h with engine := (h.engine.serve c).2 }) →
    (∀ h : MemoryHost, R h { h with drawn := h.drawn + 1 }) → Keeps R p

namespace OnlyCalls

variable {P : Call → Bool}

theorem pure (a : α) : OnlyCalls P (pure a : CloudM (StateM MemoryHost) α) :=
  fun _ refl _ _ _ h => refl h

theorem throw (e : CpiError) : OnlyCalls P (throw e : CloudM (StateM MemoryHost) α) :=
  fun _ refl _ _ _ h => refl h

theorem of_host {p : CloudM (StateM MemoryHost) α} (hp : ∀ h, (runOp p h).2 = h) :
    OnlyCalls P p :=
  fun _ refl _ _ _ h => by
    rw [hp h]
    exact refl _

theorem bind {p : CloudM (StateM MemoryHost) α} {f : α → CloudM (StateM MemoryHost) β}
    (hp : OnlyCalls P p) (hf : ∀ a, OnlyCalls P (f a)) : OnlyCalls P (p >>= f) := by
  intro R refl trans hc hd h
  have first := hp R refl trans hc hd h
  rw [runOp_bind]
  rcases hr : runOp p h with ⟨_ | a, h'⟩ <;> rw [hr] at first
  · exact first
  · exact trans first (hf a R refl trans hc hd h')

theorem throw_bind (e : CpiError) (k : α → CloudM (StateM MemoryHost) β) :
    OnlyCalls P (MonadExcept.throw e >>= k) :=
  of_host fun h => by rw [runOp_bind_of_error (runOp_throw e h)]

theorem pure_bind {a : α} {k : α → CloudM (StateM MemoryHost) β} (hk : OnlyCalls P (k a)) :
    OnlyCalls P (Pure.pure a >>= k) :=
  fun R refl trans hc hd h => by
    rw [runOp_bind_of_ok (runOp_pure a h)]
    exact hk R refl trans hc hd h

theorem tryCatch {p : CloudM (StateM MemoryHost) α}
    {handler : CpiError → CloudM (StateM MemoryHost) α}
    (hp : OnlyCalls P p) (hh : ∀ e, OnlyCalls P (handler e)) : OnlyCalls P (tryCatch p handler) := by
  intro R refl trans hc hd h
  have first := hp R refl trans hc hd h
  rw [runOp_tryCatch]
  rcases hr : runOp p h with ⟨e | a, h'⟩ <;> rw [hr] at first
  · exact trans first (hh e R refl trans hc hd h')
  · exact first

theorem ask {c : Call} (hc : P c) : OnlyCalls P (backend.ask c) :=
  fun _ _ _ hR _ h => hR c hc h

theorem run {c : Call} (phase : Phase) (hc : P c) : OnlyCalls P (backend.run phase c) :=
  fun _ _ _ hR _ h => by simpa using hR c hc h

theorem attempt {c : Call} (hc : P c) : OnlyCalls P (backend.attempt c) :=
  fun _ _ _ hR _ h => hR c hc h

theorem pause (d : Duration) : OnlyCalls P (backend.pause d) :=
  of_host fun _ => rfl

theorem uuid : OnlyCalls P backend.uuid :=
  fun _ _ _ _ hd h => hd h

theorem bounded {work : CloudM (StateM MemoryHost) α} (limit : Duration) (late : CpiError)
    (hw : OnlyCalls P work) : OnlyCalls P (backend.bounded limit late work) :=
  fun R refl trans hc hd h => by simpa using hw R refl trans hc hd h

theorem liftCpi (r : CpiResult α) : OnlyCalls P (liftCpi r : CloudM (StateM MemoryHost) α) :=
  of_host fun _ => by simp

theorem liftSpec (r : Except SpecError α) :
    OnlyCalls P (liftSpec r : CloudM (StateM MemoryHost) α) :=
  of_host fun _ => by simp

theorem forM {xs : List α} {f : α → CloudM (StateM MemoryHost) PUnit}
    (hf : ∀ x ∈ xs, OnlyCalls P (f x)) : OnlyCalls P (xs.forM f) := by
  induction xs with
  | nil => exact pure _
  | cons x rest ih =>
    show OnlyCalls P (f x >>= fun _ => rest.forM f)
    exact bind (hf x (List.mem_cons_self ..)) fun _ => ih fun y hy => hf y (List.mem_cons_of_mem _ hy)

theorem mono {Q : Call → Bool} {p : CloudM (StateM MemoryHost) α} (hp : OnlyCalls P p)
    (hPQ : ∀ c, P c → Q c) : OnlyCalls Q p :=
  fun R refl trans hc hd => hp R refl trans (fun c h => hc c (hPQ c h)) hd

theorem engine_keeps {p : CloudM (StateM MemoryHost) α} (hp : OnlyCalls P p)
    {R : MemoryEngine → MemoryEngine → Prop} (refl : ∀ s, R s s)
    (trans : ∀ {s₁ s₂ s₃}, R s₁ s₂ → R s₂ s₃ → R s₁ s₃)
    (hc : ∀ c, P c → ∀ s : MemoryEngine, R s (s.serve c).2) (h : MemoryHost) :
    R h.engine (runOp p h).2.engine :=
  hp (fun h h' => R h.engine h'.engine) (fun h => refl h.engine) trans
    (fun c hP h => hc c hP h.engine) (fun h => refl h.engine) h

theorem objects_eq {p : CloudM (StateM MemoryHost) α} (hp : OnlyCalls Call.changesNoObject p)
    (h : MemoryHost) : (runOp p h).2.engine.objects = h.engine.objects :=
  hp.engine_keeps (R := fun s s' => s'.objects = s.objects) (fun _ => rfl)
    (fun h₁ h₂ => h₂.trans h₁) (fun _ hc s => s.serve_objects_of_changesNoObject hc) h

theorem objects_eq_of_run {p : CloudM (StateM MemoryHost) α} (hp : OnlyCalls Call.changesNoObject p)
    {h h' : MemoryHost} {r : Except CpiError α} (hrun : runOp p h = (r, h')) :
    h'.engine.objects = h.engine.objects := by
  have hsame := hp.objects_eq h
  rwa [hrun] at hsame

theorem beside {p : CloudM (StateM MemoryHost) α} {name : String}
    (hp : OnlyCalls (Call.touchesOnly name) p) (h : MemoryHost) :
    EngineObjects.Beside name h.engine.objects (runOp p h).2.engine.objects :=
  hp.engine_keeps (R := fun s s' => EngineObjects.Beside name s.objects s'.objects)
    (fun s => EngineObjects.Beside.refl name s.objects) EngineObjects.Beside.trans
    (fun _ hc s => s.serve_beside hc) h

theorem grown {p : CloudM (StateM MemoryHost) α} {name : String} {added : String → Bool}
    (hp : OnlyCalls (Call.grows name added) p) (h : MemoryHost) :
    EngineObjects.Grown name added h.engine.objects (runOp p h).2.engine.objects :=
  hp.engine_keeps (R := fun s s' => EngineObjects.Grown name added s.objects s'.objects)
    (fun s => EngineObjects.Grown.refl name added s.objects) EngineObjects.Grown.trans
    (fun _ hc s => s.serve_grown hc) h

theorem shapesKept {p : CloudM (StateM MemoryHost) α} (hp : OnlyCalls Call.keepsShapes p)
    (h : MemoryHost) : EngineObjects.ShapesKept h.engine.objects (runOp p h).2.engine.objects :=
  hp.engine_keeps (R := fun s s' => EngineObjects.ShapesKept s.objects s'.objects) (fun _ _ => rfl)
    (fun h₁ h₂ n => (h₂ n).trans (h₁ n)) (fun _ hc s => s.serve_shapesKept hc) h

theorem queued_nil {p : CloudM (StateM MemoryHost) α} (hp : OnlyCalls P p) {op : Op}
    {h : MemoryHost} (hq : h.engine.queued op = []) : (runOp p h).2.engine.queued op = [] :=
  hp.engine_keeps (R := fun s s' => s.queued op = [] → s'.queued op = []) (fun _ => id)
    (fun h₁ h₂ hq => h₂ (h₁ hq)) (fun c _ s hq => s.queued_serve_of_nil c hq) h hq

theorem queued_eq {p : CloudM (StateM MemoryHost) α} (hp : OnlyCalls P p) {op : Op}
    (hop : ∀ c, P c → c.op ≠ op) (h : MemoryHost) :
    (runOp p h).2.engine.queued op = h.engine.queued op :=
  hp.engine_keeps (R := fun s s' => s'.queued op = s.queued op) (fun _ => rfl)
    (fun h₁ h₂ => h₂.trans h₁) (fun c hc s => s.queued_serve_of_ne c (hop c hc)) h

theorem drawn_le {p : CloudM (StateM MemoryHost) α} (hp : OnlyCalls P p) (h : MemoryHost) :
    h.drawn ≤ (runOp p h).2.drawn :=
  hp (fun h h' => h.drawn ≤ h'.drawn) (fun _ => Nat.le_refl _) Nat.le_trans
    (fun _ _ _ => Nat.le_refl _) (fun _ => Nat.le_succ _) h

end OnlyCalls

/-! ## Frames of hosts -/

/-- From `h` to `h'` the objects changed as `R` allows, identities were only drawn, and no
kind of call got failures queued. -/
structure Frame (R : EngineObjects → EngineObjects → Prop) (h h' : MemoryHost) : Prop where
  objects : R h.engine.objects h'.engine.objects
  drawn : h.drawn ≤ h'.drawn
  queued : ∀ op, h.engine.queued op = [] → h'.engine.queued op = []

namespace Frame

variable {R : EngineObjects → EngineObjects → Prop}

theorem refl (hR : ∀ o, R o o) (h : MemoryHost) : Frame R h h :=
  ⟨hR _, Nat.le_refl _, fun _ hq => hq⟩

theorem trans {h₁ h₂ h₃ : MemoryHost} (a : Frame R h₁ h₂) (b : Frame R h₂ h₃)
    (hR : ∀ {o₁ o₂ o₃}, R o₁ o₂ → R o₂ o₃ → R o₁ o₃) : Frame R h₁ h₃ :=
  ⟨hR a.objects b.objects, Nat.le_trans a.drawn b.drawn, fun op hq => b.queued op (a.queued op hq)⟩

theorem serve {c : Call} (hc : ∀ s : MemoryEngine, R s.objects (s.serve c).2.objects)
    (h : MemoryHost) : Frame R h { h with engine := (h.engine.serve c).2 } :=
  ⟨hc h.engine, Nat.le_refl _, fun _ hq => h.engine.queued_serve_of_nil c hq⟩

theorem serve_of_error (hR : ∀ o, R o o) {c : Call} {h : MemoryHost} {e : EngineError}
    (he : (h.engine.serve c).1 = .error e) : Frame R h { h with engine := (h.engine.serve c).2 } :=
  ⟨by rw [show (h.engine.serve c).2.objects = _ from h.engine.serve_objects_of_error he]; exact hR _,
    Nat.le_refl _, fun _ hq => h.engine.queued_serve_of_nil c hq⟩

theorem mono {S : EngineObjects → EngineObjects → Prop} (hRS : ∀ {o o'}, R o o' → S o o')
    {h h' : MemoryHost} (a : Frame R h h') : Frame S h h' :=
  ⟨hRS a.objects, a.drawn, a.queued⟩

end Frame

theorem OnlyCalls.frame {P : Call → Bool} {p : CloudM (StateM MemoryHost) α}
    (hp : OnlyCalls P p) {R : EngineObjects → EngineObjects → Prop} (refl : ∀ o, R o o)
    (trans : ∀ {o₁ o₂ o₃}, R o₁ o₂ → R o₂ o₃ → R o₁ o₃)
    (hc : ∀ c, P c → ∀ s : MemoryEngine, R s.objects (s.serve c).2.objects) (h : MemoryHost) :
    Frame R h (runOp p h).2 :=
  hp (Frame R) (Frame.refl refl) (fun a b => a.trans b trans)
    (fun c hP h => Frame.serve (hc c hP) h)
    (fun _ => ⟨refl _, Nat.le_succ _, fun _ hq => hq⟩) h

theorem OnlyCalls.frame_networksAdded {p : CloudM (StateM MemoryHost) α}
    (hp : OnlyCalls Call.addsNetworksOnly p) (h : MemoryHost) :
    Frame EngineObjects.NetworksAdded h (runOp p h).2 :=
  hp.frame EngineObjects.NetworksAdded.refl EngineObjects.NetworksAdded.trans
    (fun _ hc s => s.serve_networksAdded hc) h

theorem OnlyCalls.frame_grown {p : CloudM (StateM MemoryHost) α} {name : String}
    {added : String → Bool} (hp : OnlyCalls (Call.grows name added) p) (h : MemoryHost) :
    Frame (EngineObjects.Grown name added) h (runOp p h).2 :=
  hp.frame (EngineObjects.Grown.refl name added) EngineObjects.Grown.trans
    (fun _ hc s => s.serve_grown hc) h

/-! ## Failures -/

/-- Every failure of `p` satisfies `E`. -/
def FailsWith (E : CpiError → Prop) (p : CloudM (StateM MemoryHost) α) : Prop :=
  ∀ h e h', runOp p h = (.error e, h') → E e

namespace FailsWith

variable {E : CpiError → Prop}

theorem pure (a : α) : FailsWith E (pure a : CloudM (StateM MemoryHost) α) := by
  intro h e h' hrun
  cases hrun

theorem throw {e : CpiError} (he : E e) : FailsWith E (throw e : CloudM (StateM MemoryHost) α) := by
  intro h e' h' hrun
  cases hrun
  exact he

theorem bind {p : CloudM (StateM MemoryHost) α} {f : α → CloudM (StateM MemoryHost) β}
    (hp : FailsWith E p) (hf : ∀ a, FailsWith E (f a)) : FailsWith E (p >>= f) := by
  intro h e h'' hrun
  rcases runOp_bind_eq_error hrun with first | ⟨a, h', -, rest⟩
  · exact hp _ _ _ first
  · exact hf a _ _ _ rest

theorem throw_bind {e : CpiError} (he : E e) (k : α → CloudM (StateM MemoryHost) β) :
    FailsWith E (MonadExcept.throw e >>= k) := by
  intro h e' h' hrun
  rw [runOp_bind_of_error (runOp_throw e h)] at hrun
  cases hrun
  exact he

theorem pure_bind {a : α} {k : α → CloudM (StateM MemoryHost) β} (hk : FailsWith E (k a)) :
    FailsWith E (Pure.pure a >>= k) := by
  intro h e h' hrun
  rw [runOp_bind_of_ok (runOp_pure a h)] at hrun
  exact hk _ _ _ hrun

theorem tryCatch {p : CloudM (StateM MemoryHost) α}
    {handler : CpiError → CloudM (StateM MemoryHost) α} (hh : ∀ e, FailsWith E (handler e)) :
    FailsWith E (tryCatch p handler) := by
  intro h e h' hrun
  rw [runOp_tryCatch] at hrun
  rcases hr : runOp p h with ⟨e₀ | a, h₀⟩ <;> rw [hr] at hrun <;> dsimp only at hrun
  · exact hh e₀ _ _ _ hrun
  · cases hrun

theorem ask (c : Call) : FailsWith E (backend.ask c) := by
  intro h e h' hrun
  cases hrun

theorem run {phase : Phase} {c : Call} (hE : ∀ e, E (.engine phase e)) :
    FailsWith E (backend.run phase c) := by
  intro h e h' hrun
  rw [runOp_run] at hrun
  split at hrun
  · cases hrun
  · cases hrun
    exact hE _

theorem bounded {work : CloudM (StateM MemoryHost) α} (limit : Duration) (late : CpiError)
    (hw : FailsWith E work) : FailsWith E (backend.bounded limit late work) := by
  intro h e h' hrun
  rw [runOp_bounded] at hrun
  exact hw _ _ _ hrun

theorem attempt (c : Call) : FailsWith E (backend.attempt c) := by
  intro h e h' hrun
  cases hrun

theorem forM {xs : List α} {f : α → CloudM (StateM MemoryHost) PUnit}
    (hf : ∀ x ∈ xs, FailsWith E (f x)) : FailsWith E (xs.forM f) := by
  induction xs with
  | nil => exact pure _
  | cons x rest ih =>
    show FailsWith E (f x >>= fun _ => rest.forM f)
    exact bind (hf x (List.mem_cons_self ..)) fun _ => ih fun y hy => hf y (List.mem_cons_of_mem _ hy)

theorem mono {E' : CpiError → Prop} {p : CloudM (StateM MemoryHost) α} (hp : FailsWith E p)
    (hE : ∀ e, E e → E' e) : FailsWith E' p :=
  fun h e h' hrun => hE e (hp h e h' hrun)

end FailsWith

end MemoryHost

end ContainerCpi
