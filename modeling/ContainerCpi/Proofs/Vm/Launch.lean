import ContainerCpi.Cloud.Create
import ContainerCpi.Proofs.Data.SortedMaps

/-!
# Joining a container to its networks

An engine attaches a container to at most one network when it creates it; the container
joins the others afterwards and is started last.  `EndpointSplit.of` divides a VM's
endpoints for this: the entry with the least network name goes with the creation, and the
other entries follow in ascending name order.  As the endpoints form a map, the two parts
are disjoint and together are the whole map (`EndpointSplit.divides_of`).

What an engine receives is observed through `Journal`: a run that sees the calls made
before it and gives the calls it adds.  On `Journal.backend answer`, an engine answering
each call as any function of the calls before it, a launch and a rebuild send the creation
with the first endpoint, one connection per further endpoint in order with its settings,
and then the start, before anything else; a run that fails before the start has sent the
creation and a first part of the connections (`Journal.JoinsInOrder`).
-/

namespace ContainerCpi

/-! ## Dividing the endpoints -/

namespace EndpointSplit

variable {α : Type}

/-- How a map divides: the entry with the least name alone, when there is one, and the other
entries in ascending name order. -/
structure Divides (M : List (String × α)) (s : EndpointSplit α) : Prop where
  primary_of_nil : M = [] → s.primary = []
  primary_least : M ≠ [] → ∃ q ∈ M, s.primary = [q] ∧ ∀ q' ∈ M, q' ≠ q → q.1 < q'.1
  mem_additional : ∀ q, q ∈ s.additional ↔ q ∈ M ∧ q ∉ s.primary
  additional_ascending : SortedMap.Ascending s.additional

theorem of_parts (M : List (String × α)) :
    (of M).primary = (SortedMap.ofList M).take 1 ∧
      (of M).primary ++ (of M).additional = SortedMap.ofList M := by
  unfold of SortedMap.ofList
  rw [Decoder.insertSorted_eq]
  split
  · rename_i hnil
    rw [hnil]
    exact ⟨rfl, rfl⟩
  · rename_i first rest hcons
    rw [hcons]
    exact ⟨rfl, rfl⟩

/-- Endpoints under distinct names divide into the least entry and the others, ascending. -/
theorem divides_of {M : List (String × α)} (hM : (M.map (·.1)).Nodup) : Divides M (of M) := by
  have hmem : ∀ q, q ∈ SortedMap.ofList M ↔ q ∈ M := fun q => SortedMap.mem_ofList hM
  have hasc := SortedMap.ascending_ofList M
  obtain ⟨hprimary, hparts⟩ := of_parts M
  -- the map built is the endpoints in name order: split on its first entry
  rcases hS : SortedMap.ofList M with _ | ⟨first, rest⟩ <;> rw [hS] at hprimary hparts
  · have hnil : M = [] := List.eq_nil_iff_forall_not_mem.2 fun q hq => by
      simpa [hS] using (hmem q).2 hq
    have hadditional : (of M).additional = [] := by simpa [hprimary] using hparts
    refine ⟨fun _ => hprimary, fun hne => absurd hnil hne, fun q => ?_, ?_⟩
    · rw [hadditional]
      simp [hnil]
    · rw [hadditional]
      exact List.Pairwise.nil
  · rw [hS] at hmem hasc
    have hadditional : (of M).additional = rest := by simpa [hprimary] using hparts
    have hsplit : of M = ⟨[first], rest⟩ := by
      rw [show of M = ⟨(of M).primary, (of M).additional⟩ from rfl, hprimary, hadditional]
      rfl
    rw [hsplit]
    obtain ⟨hleast, hrest⟩ := List.pairwise_cons.1 hasc
    have hfirst : first ∈ M := (hmem first).1 List.mem_cons_self
    have hne : ∀ q ∈ rest, q ≠ first := fun q hq heq =>
      String.lt_irrefl first.1 (heq ▸ hleast q hq)
    refine ⟨fun hnil => absurd (hnil ▸ hfirst) List.not_mem_nil, fun _ => ?_, fun q => ?_, hrest⟩
    · refine ⟨first, hfirst, rfl, fun q' hq' hne' => ?_⟩
      rcases List.mem_cons.1 ((hmem q').2 hq') with heq | hin
      · exact absurd heq hne'
      · exact hleast q' hin
    · constructor
      · intro hq
        exact ⟨(hmem q).1 (List.mem_cons_of_mem _ hq), by simpa using hne q hq⟩
      · rintro ⟨hq, hnot⟩
        rcases List.mem_cons.1 ((hmem q).2 hq) with heq | hin
        · exact absurd (heq ▸ List.mem_singleton_self first) hnot
        · exact hin

end EndpointSplit

/-! ## An engine that keeps the calls it receives -/

/-- A computation that sees the engine calls made before it and adds calls of its own: given
the calls so far, a value and the calls it made. -/
def Journal (α : Type) : Type := List Call → α × List Call

instance : Monad Journal where
  pure a := fun _ => (a, [])
  bind p f := fun log =>
    let (a, sent) := p log
    let (b, more) := f a (log ++ sent)
    (b, sent ++ more)

namespace Journal

variable {α β : Type}

/-- An engine that answers each call as a function of the calls it received before; every
engine whose answers are determined is one.  No time limit passes, and identities are
numbered by the calls so far. -/
def backend (answer : List Call → (c : Call) → Except EngineError c.Reply) : Backend Journal where
  call c := fun log => (answer log c, [c])
  sleep _ := pure ()
  within _ work := some <$> work
  freshUuid := fun log => (countedUuid log.length, [])

/-- Run a cloud operation after the calls `log`: its result and the calls it made. -/
def run (p : CloudM Journal α) (log : List Call) : Except CpiError α × List Call := p.run log

@[simp] theorem run_pure (a : α) (log : List Call) :
    run (pure a : CloudM Journal α) log = (.ok a, []) := rfl

@[simp] theorem run_throw (e : CpiError) (log : List Call) :
    run (throw e : CloudM Journal α) log = (.error e, []) := rfl

theorem run_bind (p : CloudM Journal α) (f : α → CloudM Journal β) (log : List Call) :
    run (p >>= f) log =
      match run p log with
      | (.ok a, sent) => ((run (f a) (log ++ sent)).1, sent ++ (run (f a) (log ++ sent)).2)
      | (.error e, sent) => (.error e, sent) := by
  have hunfold : run (p >>= f) log =
      ((ExceptT.bindCont f (run p log).1 (log ++ (run p log).2)).1,
        (run p log).2 ++ (ExceptT.bindCont f (run p log).1 (log ++ (run p log).2)).2) := rfl
  rw [hunfold]
  rcases run p log with ⟨_ | a, sent⟩
  · exact Prod.ext rfl (List.append_nil sent)
  · rfl

variable (answer : List Call → (c : Call) → Except EngineError c.Reply)

@[simp] theorem run_ask (c : Call) (log : List Call) :
    run ((backend answer).ask c) log = (.ok (answer log c), [c]) := rfl

theorem run_run (phase : Phase) (c : Call) (log : List Call) :
    run ((backend answer).run phase c) log =
      (match answer log c with
        | .ok r => .ok r
        | .error e => .error (.engine phase e), [c]) := by
  unfold Backend.run
  rw [run_bind, run_ask]
  dsimp only
  cases answer log c <;> rfl

/-! ## Creating, connecting, starting -/

/-- The connection of container `vm` to a network, with its endpoint. -/
def connectCall (vm : VmId) (q : String × EndpointSettings) : Call := .connectNetwork q.1 vm.value q.2

/-- The calls that create a container, connect it to further networks in the order given,
and start it. -/
def joinCalls (vm : VmId) (spec : ContainerSpec) (additional : List (String × EndpointSettings)) :
    List Call :=
  .create (some vm.value) spec :: additional.map (connectCall vm) ++ [.start vm.value]

/-- A run that creates, connects and starts a container sent those calls first, in order; or
it failed before the start, having sent the creation and some first connections. -/
def JoinsInOrder (calls : List Call) (out : Except CpiError α × List Call) : Prop :=
  calls <+: out.2 ∨ out.1.isOk = false ∧ out.2 ≠ [] ∧ out.2 <+: calls.dropLast

theorem dropLast_joinCalls (vm : VmId) (spec : ContainerSpec) (xs : List (String × EndpointSettings)) :
    (joinCalls vm spec xs).dropLast = .create (some vm.value) spec :: xs.map (connectCall vm) := by
  rw [joinCalls, List.dropLast_concat]

theorem run_forM_connect (vm : VmId) {f : String × EndpointSettings → CloudM Journal PUnit}
    (hf : ∀ q, f q = (backend answer).run .connectNetwork (.connectNetwork q.1 vm.value q.2)) :
    ∀ (xs : List (String × EndpointSettings)) (log : List Call),
      (run (xs.forM f) log).2 <+: xs.map (connectCall vm) ∧
      ((run (xs.forM f) log).1 = .ok () → (run (xs.forM f) log).2 = xs.map (connectCall vm))
  | [], _ => ⟨List.prefix_refl _, fun _ => rfl⟩
  | q :: rest, log => by
    simp only [List.forM]
    rw [run_bind, hf, run_run]
    rcases answer log (.connectNetwork q.1 vm.value q.2) with e | u <;> dsimp only
    · exact ⟨(List.prefix_cons_inj _).2 List.nil_prefix, fun h => by cases h⟩
    · obtain ⟨hpre, hfull⟩ := run_forM_connect vm hf rest (log ++ [connectCall vm q])
      refine ⟨(List.prefix_cons_inj _).2 hpre, fun hok => ?_⟩
      show connectCall vm q :: (run (rest.forM f) (log ++ [connectCall vm q])).2 = _
      rw [hfull hok, List.map_cons]

/-- Creating, connecting and starting a container, then anything: the creation, the
connections in order and the start are sent before anything else, or the run failed before
the start with the creation and some first connections sent. -/
theorem run_join {β : Type} (vm : VmId) (spec : ContainerSpec) (xs : List (String × EndpointSettings))
    {f : String × EndpointSettings → CloudM Journal PUnit}
    (hf : ∀ q, f q = (backend answer).run .connectNetwork (.connectNetwork q.1 vm.value q.2))
    (k : Unit → CloudM Journal β) (log : List Call) :
    JoinsInOrder (joinCalls vm spec xs)
      (run ((backend answer).run .createContainer (.create (some vm.value) spec) >>= fun _ =>
        xs.forM f >>= fun _ => (backend answer).run .startContainer (.start vm.value) >>= k) log) := by
  rw [run_bind, run_run]
  rcases answer log (.create (some vm.value) spec) with e | id <;> dsimp only
  · -- the creation was refused: nothing else was sent
    refine .inr ⟨rfl, List.cons_ne_nil _ _, ?_⟩
    rw [dropLast_joinCalls]
    exact (List.prefix_cons_inj _).2 List.nil_prefix
  rw [run_bind]
  obtain ⟨hpre, hfull⟩ := run_forM_connect answer vm hf xs (log ++ [.create (some vm.value) spec])
  rcases hrun : run (xs.forM f) (log ++ [.create (some vm.value) spec]) with ⟨_ | u, sent⟩ <;>
    rw [hrun] <;> dsimp only
  · -- a connection was refused: the start was never sent
    rw [hrun] at hpre
    refine .inr ⟨rfl, List.cons_ne_nil _ _, ?_⟩
    rw [dropLast_joinCalls]
    exact (List.prefix_cons_inj _).2 hpre
  -- every connection was made, so the start was sent next
  rw [hrun] at hfull
  cases hfull rfl
  rw [run_bind, run_run]
  left
  rcases answer _ (.start vm.value) with e | u <;> dsimp only
  · exact ⟨[], by simp [joinCalls]⟩
  · exact ⟨(run (k u) (log ++ joinCalls vm spec xs)).2, by simp [joinCalls]⟩

theorem launch_joins (vm : VmId) (spec : ContainerSpec) (xs : List (String × EndpointSettings))
    (init : InitSystem) (env : AgentEnv) (log : List Call) :
    JoinsInOrder (joinCalls vm spec xs)
      (run (VmCreation.launch (backend answer) vm spec xs init env) log) := by
  unfold VmCreation.launch
  exact run_join answer vm spec xs (fun _ => rfl) _ log

theorem rebuild_joins (vm : VmId) (spec : ContainerSpec) (log : List Call) :
    JoinsInOrder (joinCalls vm { spec with endpoints := (EndpointSplit.of spec.endpoints).primary }
        (EndpointSplit.of spec.endpoints).additional)
      (run (Vm.rebuild (backend answer) vm spec) log) := by
  unfold Vm.rebuild
  exact run_join answer vm _ _ (fun _ => rfl) _ log

end Journal

/-! ## Launches and rebuilds join networks in name order -/

open Journal in
/-- **Joining networks in order.**  Endpoints under distinct names divide into the entry with
the least name and the others in ascending order, disjoint and together all of them.  On an
engine answering in any way, a launch with that division and a rebuild of a container with
those endpoints both send the creation carrying at most the least endpoint, then one
connection per other endpoint in ascending name order with its settings, and only then the
start; a run that fails before the start has sent no start. -/
theorem joins_networks_in_order (M : List (String × EndpointSettings)) (hM : (M.map (·.1)).Nodup)
    (answer : List Call → (c : Call) → Except EngineError c.Reply) (log : List Call) (vm : VmId)
    (spec : ContainerSpec) (init : InitSystem) (env : AgentEnv) :
    EndpointSplit.Divides M (EndpointSplit.of M) ∧
    JoinsInOrder
      (joinCalls vm { spec with endpoints := (EndpointSplit.of M).primary } (EndpointSplit.of M).additional)
      (run (VmCreation.launch (backend answer) vm { spec with endpoints := (EndpointSplit.of M).primary }
        (EndpointSplit.of M).additional init env) log) ∧
    JoinsInOrder
      (joinCalls vm { spec with endpoints := (EndpointSplit.of M).primary } (EndpointSplit.of M).additional)
      (run (Vm.rebuild (backend answer) vm { spec with endpoints := M }) log) :=
  ⟨EndpointSplit.divides_of hM, launch_joins answer vm _ _ init env log,
    rebuild_joins answer vm { spec with endpoints := M } log⟩

/-- An engine that creates, connects and starts containers and refuses everything else. -/
def joiningEngine : List Call → (c : Call) → Except EngineError c.Reply
  | _, .create _ _ => .ok "mock-1"
  | _, .connectNetwork _ _ _ => .ok ()
  | _, .start _ => .ok ()
  | _, _ => .error (.api 500 "not supported")

/-- Three networks for a runit VM, joined in the order `a`, `b`, `c`. -/
theorem joins_three_networks_in_order :
    let M : List (String × EndpointSettings) :=
      [("c", .ofAddresses none (some "10.0.2.5") none), ("a", .ofAddresses none none none),
        ("b", .ofAddresses (some "02:42:ac:11:00:02") none none)]
    (M.map (·.1)).Nodup ∧
    EndpointSplit.Divides M (EndpointSplit.of M) ∧
    Journal.JoinsInOrder
      (Journal.joinCalls ⟨"c-1"⟩ { ContainerSpec.empty with endpoints := (EndpointSplit.of M).primary }
        (EndpointSplit.of M).additional)
      (Journal.run (VmCreation.launch (Journal.backend joiningEngine) ⟨"c-1"⟩
        { ContainerSpec.empty with endpoints := (EndpointSplit.of M).primary }
        (EndpointSplit.of M).additional .runit default) []) ∧
    Journal.JoinsInOrder
      (Journal.joinCalls ⟨"c-1"⟩ { ContainerSpec.empty with endpoints := (EndpointSplit.of M).primary }
        (EndpointSplit.of M).additional)
      (Journal.run (Vm.rebuild (Journal.backend joiningEngine) ⟨"c-1"⟩
        { ContainerSpec.empty with endpoints := M }) []) :=
  ⟨by decide, joins_networks_in_order _ (by decide) joiningEngine [] ⟨"c-1"⟩ .empty .runit default⟩

end ContainerCpi
