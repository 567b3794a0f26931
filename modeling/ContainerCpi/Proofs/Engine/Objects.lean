import ContainerCpi.Engine.Memory

/-!
# What engine calls do to the engine's objects

An engine in memory holds three kinds of objects for its users: containers (each with its
specification, run state and files), volumes and networks.  Everything else it keeps (call
counts and history, queued failures and exit codes, execs, images, the container counter)
is bookkeeping.

Serving a call records it and takes the failure queued for its kind.  A call that fails,
by a queued failure or by the engine's own refusal, changes no object
(`serve_objects_of_error`), and neither does a call that only reads
(`serve_objects_of_changesNoObject`).  The calls about one container change no other
container (`serve_beside`).  No call removes a network, and only `removeVolume` removes a
volume: what the other calls add is networks and the sources of a created container's
binds (`serve_grown`, `serve_networksAdded`).  Queued failures are only ever taken, so a
kind with none queued stays without (`queued_serve_of_nil`).
-/

namespace ContainerCpi

/-- The objects an engine holds for its users. -/
structure EngineObjects where
  containers : List (String × StoredContainer)
  volumes : List String
  networks : List (String × Option Net.IpNet)

/-- What a container is beside its network endpoints: whether it runs, its binds and its
files. -/
def StoredContainer.shape (c : StoredContainer) : Bool × List String × List (String × List UInt8) :=
  (c.running, c.spec.binds, c.files)

namespace EngineObjects

/-- Beside the container named `name` nothing changed from `o` to `o'`, but for volumes
added. -/
structure Beside (name : String) (o o' : EngineObjects) : Prop where
  containers : SortedMap.erase name o'.containers = SortedMap.erase name o.containers
  networks : o'.networks = o.networks
  volumes : o.volumes ⊆ o'.volumes

theorem Beside.refl (name : String) (o : EngineObjects) : Beside name o o :=
  ⟨rfl, rfl, List.Subset.refl _⟩

theorem Beside.trans {name : String} {o₁ o₂ o₃ : EngineObjects} (h₁ : Beside name o₁ o₂)
    (h₂ : Beside name o₂ o₃) : Beside name o₁ o₃ :=
  ⟨h₂.containers.trans h₁.containers, h₂.networks.trans h₁.networks,
    List.Subset.trans h₁.volumes h₂.volumes⟩

/-- The objects with the container named `name` stopped. -/
def stop (name : String) (o : EngineObjects) : EngineObjects :=
  { o with containers := SortedMap.modify name (fun c => { c with running := false }) o.containers }

/-- Every container keeps its shape from `o` to `o'`. -/
def ShapesKept (o o' : EngineObjects) : Prop :=
  ∀ name, (SortedMap.get? o'.containers name).map StoredContainer.shape =
    (SortedMap.get? o.containers name).map StoredContainer.shape

/-- From `o` to `o'` nothing changed beside the container named `name` but objects added:
networks, and volumes that satisfy `added`. -/
structure Grown (name : String) (added : String → Bool) (o o' : EngineObjects) : Prop where
  containers : SortedMap.erase name o'.containers = SortedMap.erase name o.containers
  networks : ∀ n x, SortedMap.get? o.networks n = some x → SortedMap.get? o'.networks n = some x
  volumes : o.volumes ⊆ o'.volumes
  added : ∀ w ∈ o'.volumes, w ∈ o.volumes ∨ added w

theorem Grown.refl (name : String) (added : String → Bool) (o : EngineObjects) :
    Grown name added o o :=
  ⟨rfl, fun _ _ h => h, List.Subset.refl _, fun _ hw => .inl hw⟩

theorem Grown.trans {name : String} {added : String → Bool} {o₁ o₂ o₃ : EngineObjects}
    (h₁ : Grown name added o₁ o₂) (h₂ : Grown name added o₂ o₃) : Grown name added o₁ o₃ where
  containers := h₂.containers.trans h₁.containers
  networks n x h := h₂.networks n x (h₁.networks n x h)
  volumes := List.Subset.trans h₁.volumes h₂.volumes
  added w hw := (h₂.added w hw).elim (h₁.added w) .inr

theorem Grown.mono {name : String} {added added' : String → Bool} {o o' : EngineObjects}
    (h : Grown name added o o') (hmono : ∀ w, added w → added' w) : Grown name added' o o' :=
  ⟨h.containers, h.networks, h.volumes, fun w hw => (h.added w hw).imp_right (hmono w)⟩

/-- From `o` to `o'` only networks were added: the same containers, the same volumes, and
every network kept. -/
structure NetworksAdded (o o' : EngineObjects) : Prop where
  containers : o'.containers = o.containers
  networks : ∀ n x, SortedMap.get? o.networks n = some x → SortedMap.get? o'.networks n = some x
  volumes : ∀ w, w ∈ o'.volumes ↔ w ∈ o.volumes

theorem NetworksAdded.refl (o : EngineObjects) : NetworksAdded o o :=
  ⟨rfl, fun _ _ h => h, fun _ => Iff.rfl⟩

theorem NetworksAdded.trans {o₁ o₂ o₃ : EngineObjects} (h₁ : NetworksAdded o₁ o₂)
    (h₂ : NetworksAdded o₂ o₃) : NetworksAdded o₁ o₃ :=
  ⟨h₂.containers.trans h₁.containers, fun n x h => h₂.networks n x (h₁.networks n x h),
    fun w => (h₂.volumes w).trans (h₁.volumes w)⟩

theorem NetworksAdded.grown {o o' : EngineObjects} (h : NetworksAdded o o') (name : String)
    (added : String → Bool) : Grown name added o o' :=
  ⟨by rw [h.containers], h.networks, fun w hw => (h.volumes w).2 hw,
    fun w hw => .inl ((h.volumes w).1 hw)⟩

end EngineObjects

namespace Call

/-- Calls that change no object: the reads, the execs (the engine keeps them apart from its
objects) and removing an image. -/
def changesNoObject : Call → Bool
  | .ping | .hostResources | .inspect _ | .logs _ | .inspectVolume _ | .listVolumes
  | .removeImage _ | .copyFrom _ _ | .createExec _ _ | .startExec _ | .inspectExec _ => true
  | _ => false

/-- Calls that change no container but the one named `name`, create no network and remove
no volume. -/
def touchesOnly (name : String) : Call → Bool
  | .create n _ => n == some name
  | .start n | .kill n _ | .stop n _ | .remove n _ | .wait n | .copyTo n _ _ => n == name
  | .connectNetwork _ n _ => n == name
  | .createNetwork _ | .removeVolume _ _ => false
  | _ => true

/-- Calls that keep every container's shape: those that change no object, and connecting a
container to a network. -/
def keepsShapes (c : Call) : Bool :=
  c.changesNoObject || match c with
    | .connectNetwork .. => true
    | _ => false

/-- Whether every volume a call may add satisfies `added`: the volume it creates, or the
sources of the binds of the container it creates. -/
def addsOnly (added : String → Bool) : Call → Bool
  | .createVolume n _ => added n
  | .create _ spec => spec.binds.all (added ∘ MemoryEngine.bindSource)
  | _ => true

/-- Calls that change no container but the one named `name`, remove no volume, and add only
networks and volumes that satisfy `added`. -/
def grows (name : String) (added : String → Bool) (c : Call) : Bool :=
  (c.touchesOnly name || c matches .createNetwork _) && c.addsOnly added

/-- Calls that add networks and otherwise change no object. -/
def addsNetworksOnly (c : Call) : Bool :=
  c.changesNoObject || c matches .createNetwork _

theorem grows_of_changesNoObject {c : Call} (name : String) (added : String → Bool)
    (h : c.changesNoObject) : c.grows name added := by
  cases c <;> simp_all [changesNoObject, grows, touchesOnly, addsOnly]

theorem touchesOnly_of_changesNoObject {c : Call} (name : String) (h : c.changesNoObject) :
    c.touchesOnly name := by
  cases c <;> simp_all [changesNoObject, touchesOnly]

end Call

namespace MemoryEngine

/-- The engine's objects. -/
def objects (s : MemoryEngine) : EngineObjects := ⟨s.containers, s.volumes, s.networks⟩

section
-- The equation lemmas of the engine's functions are made once, here: the proofs below unfold
-- these functions side by side, and each would otherwise wait for the first to make them.
attribute [local simp] answer createNetwork create enter serve updateContainer container
end

/-! ## Recording a call -/

theorem queued_setQueued (s : MemoryEngine) (op op' : Op) (q : List EngineError) :
    (s.setQueued op q).queued op' = if op' = op then q else s.queued op' := by
  by_cases h : op' = op
  · subst h
    simp [queued, setQueued]
  · have hne : (op == op') = false := by simpa using fun e => h e.symm
    have hp : (fun a : Op × List EngineError => !decide (a.1 = op) && decide (a.1 = op')) =
        fun a => a.1 == op' := by
      funext a
      by_cases ha : a.1 = op' <;> simp [ha, h]
    simp [queued, setQueued, List.find?_filter, hne, hp, h]

@[simp] theorem enter_objects (s : MemoryEngine) (op : Op) (t : String) :
    (s.enter op t).1.objects = s.objects := by
  dsimp only [enter]
  split <;> rfl

@[simp] theorem enter_containers (s : MemoryEngine) (op : Op) (t : String) :
    (s.enter op t).1.containers = s.containers := by
  dsimp only [enter]
  split <;> rfl

@[simp] theorem enter_volumes (s : MemoryEngine) (op : Op) (t : String) :
    (s.enter op t).1.volumes = s.volumes := by
  dsimp only [enter]
  split <;> rfl

@[simp] theorem enter_networks (s : MemoryEngine) (op : Op) (t : String) :
    (s.enter op t).1.networks = s.networks := by
  dsimp only [enter]
  split <;> rfl

theorem enter_failure (s : MemoryEngine) (op : Op) (t : String) :
    (s.enter op t).2 = (s.queued op).head? := by
  dsimp only [enter]
  split <;> simp_all [queued]

theorem queued_enter (s : MemoryEngine) (op : Op) (t : String) (op' : Op) :
    (s.enter op t).1.queued op' = if op' = op then (s.queued op).tail else s.queued op' := by
  dsimp only [enter]
  split
  · rename_i e rest hq
    rw [queued_setQueued]
    by_cases h : op' = op
    · subst h
      simp only [queued] at hq
      simp [queued, hq]
    · simp [h, queued]
  · rename_i hq
    by_cases h : op' = op
    · subst h
      simp only [queued] at hq
      simp [queued, hq]
    · simp [h, queued]

theorem serve_of_queued {s : MemoryEngine} {c : Call} {e : EngineError} {rest : List EngineError}
    (h : s.queued c.op = e :: rest) : s.serve c = (.error e, (s.enter c.op c.target).1) := by
  have hf := enter_failure s c.op c.target
  rw [h] at hf
  simp only [serve]
  rcases henter : s.enter c.op c.target with ⟨s', f⟩
  rw [henter] at hf
  cases hf
  rfl

theorem serve_of_not_queued {s : MemoryEngine} {c : Call} (h : s.queued c.op = []) :
    s.serve c = (s.enter c.op c.target).1.answer c := by
  have hf := enter_failure s c.op c.target
  rw [h] at hf
  simp only [serve]
  rcases henter : s.enter c.op c.target with ⟨s', f⟩
  rw [henter] at hf
  cases hf
  rfl

/-! ## Failed calls -/

theorem create_objects_of_error {s : MemoryEngine} {name : Option String} {spec : ContainerSpec}
    {e : EngineError} (h : (s.create name spec).1 = .error e) :
    (s.create name spec).2.objects = s.objects := by
  revert h
  unfold create
  dsimp only
  split
  · intro _; rfl
  · split
    · intro _; rfl
    · intro h
      cases h

theorem createNetwork_objects_of_error {s : MemoryEngine} {r : NetworkRequest}
    {e : EngineError} (h : (s.createNetwork r).1 = .error e) :
    (s.createNetwork r).2.objects = s.objects := by
  revert h
  unfold createNetwork
  dsimp only
  split
  · intro _; rfl
  · split
    · intro _; rfl
    · split
      · intro _; rfl
      · intro h
        cases h

theorem answer_objects_of_error {s : MemoryEngine} {c : Call} {e : EngineError}
    (h : (s.answer c).1 = .error e) : (s.answer c).2.objects = s.objects := by
  cases c with
  | create name spec => exact create_objects_of_error h
  | createNetwork r => exact createNetwork_objects_of_error h
  | _ =>
    -- every other refusal returns the engine it was given
    revert h
    simp only [answer]
    repeat' (first | split | intro _)
    all_goals first | rfl | trivial

theorem serve_objects_of_error {s : MemoryEngine} {c : Call} {e : EngineError}
    (h : (s.serve c).1 = .error e) : (s.serve c).2.objects = s.objects := by
  rcases hq : s.queued c.op with _ | ⟨f, rest⟩
  · rw [serve_of_not_queued hq] at h ⊢
    rw [answer_objects_of_error h, enter_objects]
  · rw [serve_of_queued hq]
    exact enter_objects ..

/-! ## Calls that change no object -/

theorem answer_objects_of_changesNoObject (s : MemoryEngine) {c : Call} (hc : c.changesNoObject) :
    (s.answer c).2.objects = s.objects := by
  cases c <;> simp [Call.changesNoObject] at hc <;> simp only [answer] <;>
    (repeat' split) <;> rfl

/-! ## Creating a container -/

theorem addBindVolume_cases (s : MemoryEngine) (b : String) :
    s.addBindVolume b = s ∨ s.addBindVolume b = s.addVolume (bindSource b) := by
  unfold addBindVolume
  dsimp only
  split
  · exact .inr rfl
  · exact .inl rfl

theorem foldl_addBindVolume : ∀ (binds : List String) (s : MemoryEngine),
    (binds.foldl addBindVolume s).containers = s.containers ∧
    (binds.foldl addBindVolume s).networks = s.networks ∧
    s.volumes ⊆ (binds.foldl addBindVolume s).volumes ∧
    ∀ w ∈ (binds.foldl addBindVolume s).volumes, w ∈ s.volumes ∨ ∃ b ∈ binds, bindSource b = w
  | [], s => by simp
  | b :: rest, s => by
    obtain ⟨hc, hn, hsub, hnew⟩ := foldl_addBindVolume rest (s.addBindVolume b)
    rw [List.foldl_cons]
    rcases addBindVolume_cases s b with hb | hb
    · rw [hb] at hc hn hsub hnew ⊢
      refine ⟨hc, hn, hsub, fun w hw => ?_⟩
      rcases hnew w hw with h | ⟨b', hb', rfl⟩
      · exact .inl h
      · exact .inr ⟨b', List.mem_cons_of_mem _ hb', rfl⟩
    · rw [hb] at hc hn hsub hnew ⊢
      refine ⟨hc, hn, fun w hw => hsub (SortedSet.mem_insert.2 (.inr hw)), fun w hw => ?_⟩
      rcases hnew w hw with h | ⟨b', hb', rfl⟩
      · rcases SortedSet.mem_insert.1 h with rfl | h
        · exact .inr ⟨b, List.mem_cons_self .., rfl⟩
        · exact .inl h
      · exact .inr ⟨b', List.mem_cons_of_mem _ hb', rfl⟩

theorem create_of_ok {s : MemoryEngine} {name : Option String} {spec : ContainerSpec} {id : String}
    (h : (s.create name spec).1 = .ok id) :
    SortedMap.get? s.containers (name.getD id) = none ∧
    (s.create name spec).2.containers =
      SortedMap.insert (name.getD id) ⟨id, spec, false, []⟩ s.containers ∧
    (s.create name spec).2.networks = s.networks ∧ s.volumes ⊆ (s.create name spec).2.volumes ∧
    ∀ w ∈ (s.create name spec).2.volumes, w ∈ s.volumes ∨ ∃ b ∈ spec.binds, bindSource b = w := by
  revert h
  unfold create
  dsimp only
  split
  · intro h
    cases h
  · rename_i hfree
    split
    · intro h
      cases h
    · intro h
      cases h
      obtain ⟨hc, hn, hsub, hnew⟩ := foldl_addBindVolume spec.binds { s with lastId := s.lastId + 1 }
      refine ⟨?_, by rw [hc], hn, hsub, hnew⟩
      simpa [SortedMap.contains_eq_isSome_get?] using hfree

/-! ## Queued failures -/

theorem foldl_addBindVolume_failures : ∀ (binds : List String) (s : MemoryEngine),
    (binds.foldl addBindVolume s).failures = s.failures
  | [], _ => rfl
  | b :: rest, s => by
    rw [List.foldl_cons, foldl_addBindVolume_failures rest]
    rcases addBindVolume_cases s b with hb | hb
    · rw [hb]
    · rw [hb]
      rfl

theorem answer_failures (s : MemoryEngine) (c : Call) : (s.answer c).2.failures = s.failures := by
  cases c <;> simp only [answer]
  case create name spec =>
    unfold create
    dsimp only
    split
    · rfl
    · split
      · rfl
      · exact foldl_addBindVolume_failures spec.binds _
  case createNetwork r =>
    unfold createNetwork
    dsimp only
    repeat' split
    all_goals rfl
  all_goals (repeat' split) <;> rfl

theorem queued_serve_of_nil {s : MemoryEngine} {op : Op} (c : Call) (h : s.queued op = []) :
    (s.serve c).2.queued op = [] := by
  rcases hq : s.queued c.op with _ | ⟨e, rest⟩
  · rw [serve_of_not_queued hq]
    have hsame : ((s.enter c.op c.target).1.answer c).2.queued op =
        (s.enter c.op c.target).1.queued op := by
      simp only [queued, answer_failures]
    rw [hsame, queued_enter]
    split <;> simp_all
  · rw [serve_of_queued hq, queued_enter]
    split
    · rename_i hop
      subst hop
      simp_all
    · exact h

theorem queued_serve_of_ne {s : MemoryEngine} {op : Op} (c : Call) (h : c.op ≠ op) :
    (s.serve c).2.queued op = s.queued op := by
  have hne : op ≠ c.op := Ne.symm h
  rcases hq : s.queued c.op with _ | ⟨e, rest⟩
  · rw [serve_of_not_queued hq]
    have hsame : ((s.enter c.op c.target).1.answer c).2.queued op =
        (s.enter c.op c.target).1.queued op := by
      simp only [queued, answer_failures]
    rw [hsame, queued_enter, if_neg hne]
  · rw [serve_of_queued hq, queued_enter, if_neg hne]

/-! ## Calls about one container -/

theorem updateContainer_beside (s : MemoryEngine) (name : String)
    (f : StoredContainer → StoredContainer) :
    EngineObjects.Beside name s.objects (s.updateContainer name f).objects :=
  ⟨by simp [objects, updateContainer], rfl, List.Subset.refl _⟩

/-- A call about the container named `name` changes nothing beside it but add volumes. -/
theorem answer_beside (s : MemoryEngine) {c : Call} {name : String} (hc : c.touchesOnly name) :
    EngineObjects.Beside name s.objects (s.answer c).2.objects := by
  cases c with
  | create n spec =>
    simp only [Call.touchesOnly, beq_iff_eq] at hc
    subst hc
    rcases hr : (s.create (some name) spec).1 with e | id
    · simp only [answer]
      rw [create_objects_of_error hr]
      exact .refl ..
    · obtain ⟨-, hc, hn, hsub, -⟩ := create_of_ok hr
      exact ⟨by simp [objects, answer, hc], by simp [objects, answer, hn], hsub⟩
  | createVolume n driver =>
    exact ⟨rfl, rfl, fun w hw => SortedSet.mem_insert.2 (.inr hw)⟩
  | remove n force =>
    simp only [Call.touchesOnly, beq_iff_eq] at hc
    subst hc
    simp only [answer]
    repeat' split
    all_goals first | exact .refl .. | exact ⟨by simp [objects], rfl, List.Subset.refl _⟩
  | createNetwork r => simp [Call.touchesOnly] at hc
  | removeVolume n force => simp [Call.touchesOnly] at hc
  | _ =>
    simp only [Call.touchesOnly, beq_iff_eq] at hc
    try subst hc
    simp only [answer]
    repeat' split
    all_goals first | exact .refl .. | exact updateContainer_beside ..

/-! ## What calls add -/

theorem createNetwork_containers_volumes (s : MemoryEngine) (r : NetworkRequest) :
    (s.createNetwork r).2.containers = s.containers ∧ (s.createNetwork r).2.volumes = s.volumes := by
  unfold createNetwork
  dsimp only
  repeat' split
  all_goals exact ⟨rfl, rfl⟩

/-- No call removes a network or changes its subnet: a network is only created, under a
name no network has. -/
theorem answer_networks_kept (s : MemoryEngine) (c : Call) {n : String} {x : Option Net.IpNet}
    (h : SortedMap.get? s.networks n = some x) :
    SortedMap.get? (s.answer c).2.networks n = some x := by
  cases c with
  | create name spec =>
    simp only [answer]
    rcases hr : (s.create name spec).1 with e | id
    · rw [show (s.create name spec).2.networks = s.networks from
        congrArg EngineObjects.networks (create_objects_of_error hr)]
      exact h
    · rw [(create_of_ok hr).2.2.1]
      exact h
  | createNetwork r =>
    simp only [answer]
    unfold createNetwork
    dsimp only
    split
    · exact h
    · split
      · exact h
      · rename_i hfree
        split
        · exact h
        · have hne : r.name ≠ n := by
            rintro rfl
            simp [SortedMap.contains_eq_isSome_get?, h] at hfree
          exact (SortedMap.get?_insert_of_ne _ _ hne).trans h
  | _ =>
    simp only [answer]
    repeat' split
    all_goals exact h

/-- A call adds only the volumes it names: the one it creates, or the sources of the binds
of the container it creates. -/
theorem answer_volumes_added (s : MemoryEngine) {c : Call} {added : String → Bool}
    (hc : c.addsOnly added) : ∀ w ∈ (s.answer c).2.volumes, w ∈ s.volumes ∨ added w := by
  cases c with
  | create name spec =>
    simp only [Call.addsOnly, List.all_eq_true, Function.comp_apply] at hc
    intro w hw
    simp only [answer] at hw
    rcases hr : (s.create name spec).1 with e | id
    · rw [show (s.create name spec).2.volumes = s.volumes from
        congrArg EngineObjects.volumes (create_objects_of_error hr)] at hw
      exact .inl hw
    · rcases (create_of_ok hr).2.2.2.2 w hw with hold | ⟨b, hb, rfl⟩
      · exact .inl hold
      · exact .inr (hc b hb)
  | createVolume n driver =>
    intro w hw
    rcases SortedSet.mem_insert.1 hw with rfl | hold
    · exact .inr hc
    · exact .inl hold
  | removeVolume n force =>
    intro w hw
    simp only [answer] at hw
    split at hw
    · exact .inl hw
    · split at hw
      · exact .inl hw
      · exact .inl (SortedSet.mem_erase.1 hw).1
  | createNetwork r =>
    intro w hw
    simp only [answer] at hw
    rw [(createNetwork_containers_volumes s r).2] at hw
    exact .inl hw
  | _ =>
    intro w hw
    simp only [answer] at hw
    repeat' split at hw
    all_goals exact .inl hw

theorem answer_grown (s : MemoryEngine) {c : Call} {name : String} {added : String → Bool}
    (hc : c.grows name added) :
    EngineObjects.Grown name added s.objects (s.answer c).2.objects := by
  simp only [Call.grows, Bool.and_eq_true, Bool.or_eq_true] at hc
  obtain ⟨hwhich, hadds⟩ := hc
  have hnet : ∀ n x, SortedMap.get? s.networks n = some x →
      SortedMap.get? (s.answer c).2.networks n = some x :=
    fun _ _ h => answer_networks_kept s c h
  rcases hwhich with hname | hnetwork
  · have hb := answer_beside s hname
    exact ⟨hb.containers, hnet, hb.volumes, answer_volumes_added s hadds⟩
  · cases c with
    | createNetwork r =>
      -- creating a network changes no container and no volume
      obtain ⟨hc, hv⟩ := createNetwork_containers_volumes s r
      exact ⟨by simp [objects, answer, hc], hnet, by simp [objects, answer, hv],
        answer_volumes_added s hadds⟩
    | _ => simp at hnetwork

/-! ## Serving -/

theorem serve_eq_answer_of_ok {s : MemoryEngine} {c : Call} {r : c.Reply}
    (h : (s.serve c).1 = .ok r) : s.serve c = (s.enter c.op c.target).1.answer c := by
  rcases hq : s.queued c.op with _ | ⟨f, rest⟩
  · exact serve_of_not_queued hq
  · rw [serve_of_queued hq] at h
    cases h

theorem serve_objects_of_answer {R : EngineObjects → EngineObjects → Prop} (hR : ∀ o, R o o)
    {c : Call} (h : ∀ t : MemoryEngine, R t.objects (t.answer c).2.objects) (s : MemoryEngine) :
    R s.objects (s.serve c).2.objects := by
  rcases hq : s.queued c.op with _ | ⟨f, rest⟩
  · rw [serve_of_not_queued hq]
    simpa using h (s.enter c.op c.target).1
  · rw [serve_of_queued hq, enter_objects]
    exact hR _

theorem serve_objects_of_changesNoObject (s : MemoryEngine) {c : Call} (hc : c.changesNoObject) :
    (s.serve c).2.objects = s.objects :=
  (serve_objects_of_answer (R := fun o o' => o' = o) (fun _ => rfl)
    (fun t => answer_objects_of_changesNoObject t hc) s)

theorem serve_beside (s : MemoryEngine) {c : Call} {name : String} (hc : c.touchesOnly name) :
    EngineObjects.Beside name s.objects (s.serve c).2.objects :=
  serve_objects_of_answer (EngineObjects.Beside.refl name) (fun t => answer_beside t hc) s

theorem answer_networksAdded (s : MemoryEngine) {c : Call} (hc : c.addsNetworksOnly) :
    EngineObjects.NetworksAdded s.objects (s.answer c).2.objects := by
  simp only [Call.addsNetworksOnly, Bool.or_eq_true] at hc
  rcases hc with hread | hnetwork
  · rw [answer_objects_of_changesNoObject s hread]
    exact .refl _
  · cases c with
    | createNetwork r =>
      obtain ⟨hc, hv⟩ := createNetwork_containers_volumes s r
      exact ⟨by simp [objects, answer, hc], fun _ _ h => answer_networks_kept s _ h,
        fun w => by simp [objects, answer, hv]⟩
    | _ => simp at hnetwork

theorem serve_networksAdded (s : MemoryEngine) {c : Call} (hc : c.addsNetworksOnly) :
    EngineObjects.NetworksAdded s.objects (s.serve c).2.objects :=
  serve_objects_of_answer EngineObjects.NetworksAdded.refl (fun t => answer_networksAdded t hc) s

theorem serve_grown (s : MemoryEngine) {c : Call} {name : String} {added : String → Bool}
    (hc : c.grows name added) : EngineObjects.Grown name added s.objects (s.serve c).2.objects :=
  serve_objects_of_answer (EngineObjects.Grown.refl name added) (fun t => answer_grown t hc) s

/-! ## The container a call is about -/

theorem serve_kill_objects_of_ok {s : MemoryEngine} {name signal : String}
    (h : (s.serve (.kill name signal)).1 = .ok ()) :
    (s.serve (.kill name signal)).2.objects = s.objects.stop name := by
  have hserve := serve_eq_answer_of_ok h
  rw [hserve] at h ⊢
  revert h
  simp only [answer]
  split
  · split
    · intro h
      cases h
    · intro _
      simp [objects, EngineObjects.stop, updateContainer]
  · intro h
    cases h

theorem get?_of_serve_inspect_ok {s : MemoryEngine} {name : String} {spec : ContainerSpec}
    (h : (s.serve (.inspect name)).1 = .ok spec) :
    ∃ c, SortedMap.get? s.containers name = some c ∧ c.spec = spec := by
  have hserve := serve_eq_answer_of_ok h
  rw [hserve] at h
  simp only [answer, container] at h
  split at h
  · rename_i c hc
    cases h
    exact ⟨c, by simpa using hc, rfl⟩
  · cases h

theorem get?_serve_remove_forced (s : MemoryEngine) (name : String) (hq : s.queued .remove = []) :
    SortedMap.get? (s.serve (.remove name true)).2.containers name = none := by
  rw [serve_of_not_queued hq]
  simp only [answer]
  split
  · split
    · rename_i hrun
      simp at hrun
    · simp
  · rename_i he
    simp only [container] at he
    split at he
    · cases he
    · rename_i hnone
      simpa using hnone

theorem serve_create_of_ok {s : MemoryEngine} {name : Option String} {spec : ContainerSpec}
    {id : String} (h : (s.serve (.create name spec)).1 = .ok id) :
    SortedMap.get? s.containers (name.getD id) = none ∧
    (s.serve (.create name spec)).2.containers =
      SortedMap.insert (name.getD id) ⟨id, spec, false, []⟩ s.containers ∧
    (s.serve (.create name spec)).2.networks = s.networks ∧
    s.volumes ⊆ (s.serve (.create name spec)).2.volumes ∧
    ∀ w ∈ (s.serve (.create name spec)).2.volumes,
      w ∈ s.volumes ∨ ∃ b ∈ spec.binds, bindSource b = w := by
  have hserve := serve_eq_answer_of_ok h
  rw [hserve] at h ⊢
  simp only [answer] at h ⊢
  simpa only [enter_containers, enter_volumes, enter_networks] using create_of_ok h

/-- Removing a volume changes no container and no network, adds no volume, and of the
volumes there were removes at most the one its name resolves to. -/
theorem serve_removeVolume (s : MemoryEngine) (name : String) (force : Bool) :
    (s.serve (.removeVolume name force)).2.containers = s.containers ∧
    (s.serve (.removeVolume name force)).2.networks = s.networks ∧
    (∀ w ∈ (s.serve (.removeVolume name force)).2.volumes, w ∈ s.volumes) ∧
    ∀ w ∈ s.volumes, w ∉ (s.serve (.removeVolume name force)).2.volumes →
      s.resolveVolume name = some w := by
  rcases hq : s.queued (Call.removeVolume name force).op with _ | ⟨f, rest⟩
  · rw [serve_of_not_queued hq]
    have hresolve : (s.enter (Call.removeVolume name force).op
        (Call.removeVolume name force).target).1.resolveVolume name = s.resolveVolume name := by
      simp only [resolveVolume, enter_volumes]
    simp only [answer]
    split
    · exact ⟨by simp, by simp, fun w hw => by simpa using hw,
        fun w hw hgone => absurd (by simpa using hw) hgone⟩
    · rename_i stored hstored
      split
      · exact ⟨by simp, by simp, fun w hw => by simpa using hw,
          fun w hw hgone => absurd (by simpa using hw) hgone⟩
      · refine ⟨by simp, by simp, fun w hw => by simpa using (SortedSet.mem_erase.1 hw).1,
          fun w hw hgone => ?_⟩
        have hw' : w ∈ (s.enter (Call.removeVolume name force).op
            (Call.removeVolume name force).target).1.volumes := by simpa using hw
        by_cases hsame : w = stored
        · rw [← hresolve, hstored, hsame]
        · exact absurd (SortedSet.mem_erase.2 ⟨hw', hsame⟩) hgone
  · rw [serve_of_queued hq]
    exact ⟨by simp, by simp, fun w hw => by simpa using hw,
      fun w hw hgone => absurd (by simpa using hw) hgone⟩

/-- Whether a stored volume answers to a name: it is the name, or the name under a node
prefix. -/
def volumeAnswers (name w : String) : Bool :=
  w == name || ((Text.splitOnce w '/').map (·.2 == name)).getD false

theorem resolveVolume_eq_find (s : MemoryEngine) (name : String) :
    s.resolveVolume name = s.volumes.find? (volumeAnswers name) := rfl

theorem resolveVolume_eq_some {s : MemoryEngine} {name w : String}
    (h : s.resolveVolume name = some w) : w ∈ s.volumes ∧ volumeAnswers name w = true := by
  rw [resolveVolume_eq_find] at h
  exact ⟨List.mem_of_find?_eq_some h, List.find?_some h⟩

theorem volumeAnswers_of_resolveVolume_eq_none {s : MemoryEngine} {name w : String}
    (h : s.resolveVolume name = none) (hw : w ∈ s.volumes) : volumeAnswers name w = false := by
  rw [resolveVolume_eq_find] at h
  simpa using List.find?_eq_none.1 h w hw

theorem resolveVolume_self {s : MemoryEngine} {name : String} (hmem : name ∈ s.volumes)
    (honly : ∀ w ∈ s.volumes, volumeAnswers name w = true → w = name) :
    s.resolveVolume name = some name := by
  rw [resolveVolume_eq_find]
  rcases hfind : s.volumes.find? (volumeAnswers name) with _ | w
  · have hnone := List.find?_eq_none.1 hfind name hmem
    simp [volumeAnswers] at hnone
  · rw [honly w (List.mem_of_find?_eq_some hfind) (List.find?_some hfind)]

theorem volumes_subset_serve_removeVolume {s₀ s : MemoryEngine} {name : String} (force : Bool)
    (hnone : s₀.resolveVolume name = none) (hsub : s₀.volumes ⊆ s.volumes) :
    s₀.volumes ⊆ (s.serve (.removeVolume name force)).2.volumes := by
  intro w hw
  by_cases hkept : w ∈ (s.serve (.removeVolume name force)).2.volumes
  · exact hkept
  · obtain ⟨-, -, -, hresolved⟩ := s.serve_removeVolume name force
    obtain ⟨-, hanswers⟩ := resolveVolume_eq_some (hresolved w (hsub hw) hkept)
    rw [volumeAnswers_of_resolveVolume_eq_none hnone hw] at hanswers
    cases hanswers

theorem serve_removeVolume_of_unused {s : MemoryEngine} {name stored : String} (force : Bool)
    (hq : s.queued .removeVolume = []) (hresolve : s.resolveVolume name = some stored)
    (hfree : s.volumeInUse stored = false) :
    (s.serve (.removeVolume name force)).2.volumes = SortedSet.erase stored s.volumes := by
  rw [serve_of_not_queued hq]
  have hresolve' : (s.enter (Call.removeVolume name force).op
      (Call.removeVolume name force).target).1.resolveVolume name = some stored := by
    simpa only [resolveVolume, enter_volumes] using hresolve
  have hfree' : (s.enter (Call.removeVolume name force).op
      (Call.removeVolume name force).target).1.volumeInUse stored = false := by
    simpa only [volumeInUse, enter_containers] using hfree
  simp only [answer, hresolve', hfree']
  simp

theorem get?_serve_create_of_ok {s : MemoryEngine} {name id : String} {spec : ContainerSpec}
    (h : (s.serve (.create (some name) spec)).1 = .ok id) :
    SortedMap.get? (s.serve (.create (some name) spec)).2.containers name =
      some ⟨id, spec, false, []⟩ := by
  have hserve := serve_eq_answer_of_ok h
  rw [hserve] at h ⊢
  obtain ⟨-, hc, -⟩ := create_of_ok h
  simp only [answer] at hc ⊢
  rw [hc]
  exact SortedMap.get?_insert_self ..

theorem get?_serve_start_of_ok {s : MemoryEngine} {name : String}
    (h : (s.serve (.start name)).1 = .ok ()) :
    SortedMap.get? (s.serve (.start name)).2.containers name =
      (SortedMap.get? s.containers name).map fun c => { c with running := true } := by
  have hserve := serve_eq_answer_of_ok h
  rw [hserve] at h ⊢
  revert h
  simp only [answer]
  split
  · intro _
    simp [updateContainer]
  · intro h
    cases h

theorem answer_shapesKept (s : MemoryEngine) {c : Call} (hc : c.keepsShapes) :
    EngineObjects.ShapesKept s.objects (s.answer c).2.objects := by
  cases c with
  | connectNetwork network name endpoint =>
    intro n
    simp only [answer]
    split
    · rfl
    · split
      · simp only [objects, updateContainer, SortedMap.get?_modify]
        split
        · simp only [Option.map_map, Function.comp_def]
          rfl
        · rfl
      · rfl
  | _ =>
    simp only [Call.keepsShapes, Bool.or_eq_true] at hc
    rcases hc with hc | hc
    · rw [answer_objects_of_changesNoObject s hc]
      exact fun _ => rfl
    · simp at hc

theorem serve_shapesKept (s : MemoryEngine) {c : Call} (hc : c.keepsShapes) :
    EngineObjects.ShapesKept s.objects (s.serve c).2.objects :=
  serve_objects_of_answer (fun _ _ => rfl) (fun t => answer_shapesKept t hc) s

end MemoryEngine

end ContainerCpi
