import ContainerCpi.Proofs.Vm.Launch
import ContainerCpi.Proofs.Cloud.Transfers
import ContainerCpi.Proofs.Text.Search
import ContainerCpi.Engine.Wire

/-!
# Pinning a VM to a node

On a clustered engine a VM is kept on the node of its disks by a node constraint among its
container's environment entries (`constraint:node==<node>`).  A recreate pins the container
with `Vm.setAffinity`, which drops every constraint the environment had and adds one for the
new node, so the last pin wins (`Vm.setAffinity_setAffinity`).

An inspected container's node is read back by `ContainerSpec.nodeOf`: from a clustered name
`/<node>/<name>` when it has one, else from the first constraint of the environment.  A
pinned environment reads back as its node under every name that names no node
(`ContainerSpec.nodeOf_setAffinity`), while a clustered name wins over any environment
(`ContainerSpec.nodeOf_clustered`).  A disk created for a VM goes to the node its inspection
reports (`Disks.create_places_on_node`), so a new disk lands where the VM was last pinned
(`Vm.node_pinning`).
-/

namespace ContainerCpi

/-! ## Pins in an environment -/

namespace Vm

variable (E : List String) (N : String)

theorem startsWith_pin : (nodeConstraintPrefix ++ N).startsWith nodeConstraintPrefix = true := by
  rw [String.startsWith_string_iff, String.toList_append]
  exact List.prefix_append _ _

theorem setAffinity_pins :
    (setAffinity E N).filter (·.startsWith nodeConstraintPrefix) = [nodeConstraintPrefix ++ N] := by
  rw [setAffinity, List.filter_append, List.filter_filter, List.filter_singleton,
    startsWith_pin, cond_true]
  simp only [Bool.and_not_self, List.filter_false, List.nil_append]

theorem setAffinity_others :
    (setAffinity E N).filter (!·.startsWith nodeConstraintPrefix) =
      E.filter (!·.startsWith nodeConstraintPrefix) := by
  rw [setAffinity, List.filter_append, List.filter_filter, List.filter_singleton, startsWith_pin]
  simp only [Bool.and_self, Bool.not_true, cond_false, List.append_nil]

theorem setAffinity_setAffinity (N' : String) :
    setAffinity (setAffinity E N') N = setAffinity E N := by
  rw [setAffinity, setAffinity_others]
  rfl

end Vm

/-! ## Reading the node back -/

namespace Text

theorem stripPrefix?_of_not_startsWith {s pre : String} (h : s.startsWith pre = false) :
    stripPrefix? s pre = none := by
  rw [String.startsWith_string_eq_false_iff] at h
  rw [stripPrefix?, if_neg (by rwa [List.isPrefixOf_iff_prefix])]

theorem trimStartChar_slashes (k : Nat) {base : String} (hbase : base.toList.head? ≠ some '/') :
    trimStartChar (String.ofList (List.replicate k '/') ++ base) '/' = base := by
  have hkeep : base.toList.dropWhile (· == '/') = base.toList := by
    cases hb : base.toList with
    | nil => rfl
    | cons c rest =>
      have hc : c ≠ '/' := fun h => hbase (by rw [hb, h]; rfl)
      rw [List.dropWhile_cons_of_neg (by simpa using hc)]
  rw [trimStartChar, String.toList_append, String.toList_ofList]
  induction k with
  | zero => rw [List.replicate_zero, List.nil_append, hkeep, String.ofList_toList]
  | succ k ih => rwa [List.replicate_succ, List.cons_append, List.dropWhile_cons_of_pos (by decide)]

end Text

namespace ContainerSpec

/-- A container name that names no node: leading slashes and then a name without one, or no
name at all. -/
def NamesNoNode : Option String → Prop
  | none => True
  | some n => ∃ k base, n = String.ofList (List.replicate k '/') ++ base ∧ '/' ∉ base.toList

/-- The node the environment names: its first pin's node, when not empty. -/
def pinnedNode (env : List String) : Option String :=
  (env.findSome? (Text.stripPrefix? · nodeConstraintPrefix)).bind
    fun n => if n.isEmpty then none else some n

theorem nodeOf_of_namesNoNode {name : Option String} (hname : NamesNoNode name)
    (env : List String) : nodeOf name env = pinnedNode env := by
  cases name with
  | none => rfl
  | some n =>
    obtain ⟨k, base, rfl, hbase⟩ := hname
    have hhead : base.toList.head? ≠ some '/' := fun h => hbase (List.mem_of_mem_head? h)
    unfold nodeOf
    dsimp only
    rw [Option.bind_some, Text.trimStartChar_slashes k hhead, Text.splitOnce_eq_none hbase]
    rfl

theorem nodeOf_clustered {M c : String} (hM : M ≠ "") (hslash : '/' ∉ M.toList)
    (env : List String) : nodeOf (some ("/" ++ M ++ "/" ++ c)) env = some M := by
  -- the leading slash goes, and the node does not start with one
  have hhead : (M ++ "/" ++ c).toList.head? ≠ some '/' := by
    obtain ⟨m, rest, hm⟩ := List.exists_cons_of_ne_nil (fun h => hM (String.toList_eq_nil_iff.1 h))
    have hm' : m ≠ '/' := fun h => hslash (by rw [hm, h]; exact List.mem_cons_self)
    rw [String.toList_append, String.toList_append, hm]
    simpa using hm'
  have htrim : Text.trimStartChar ("/" ++ M ++ "/" ++ c) '/' = M ++ String.singleton '/' ++ c := by
    have hname : "/" ++ M ++ "/" ++ c = String.ofList (List.replicate 1 '/') ++ (M ++ "/" ++ c) := by
      simp only [String.append_assoc]
      rfl
    rw [hname, Text.trimStartChar_slashes 1 hhead]
    rfl
  unfold nodeOf
  dsimp only
  rw [Option.bind_some, htrim, Text.splitOnce_append hslash]
  simp [String.isEmpty_iff, hM]

/-- A clustered name gives its node, a plain name the first pin of the environment. -/
example : nodeOf (some "/node1/c-1") ["reschedule:on-node-failure", "constraint:node==node2"] =
      some "node1" ∧
    nodeOf (some "/c-1") ["reschedule:on-node-failure", "constraint:node==node2"] = some "node2" := by
  decide

theorem nodeOf_setAffinity {name : Option String} (hname : NamesNoNode name) (E : List String)
    {N : String} (hN : N ≠ "") : nodeOf name (Vm.setAffinity E N) = some N := by
  -- the pins written are those read
  have hprefix : Vm.nodeConstraintPrefix = nodeConstraintPrefix := rfl
  rw [nodeOf_of_namesNoNode hname, pinnedNode, Vm.setAffinity, hprefix, List.findSome?_append,
    List.findSome?_singleton, Text.stripPrefix?_append]
  have hnone : (E.filter (!·.startsWith nodeConstraintPrefix)).findSome?
      (Text.stripPrefix? · nodeConstraintPrefix) = none := by
    rw [List.findSome?_eq_none_iff]
    intro entry hentry
    have hnot := (List.mem_filter.1 hentry).2
    exact Text.stripPrefix?_of_not_startsWith (by simpa using hnot)
  rw [hnone, Option.none_or, Option.bind_some, if_neg (by simpa [String.isEmpty_iff] using hN)]

/-- A repinned environment reads back as its new node. -/
example : nodeOf (some "/c-1")
    (Vm.setAffinity ["reschedule:on-node-failure", "constraint:node==node1"] "node2") =
      some "node2" := by
  decide +kernel

theorem node_ofInspection (j : Json) :
    (ofInspection j).node = nodeOf ((j.field? "Name").bind Json.str?) (ofInspection j).env := rfl

end ContainerSpec

/-! ## Where a disk is created -/

namespace Disks

open Journal

variable (answer : List Call → (c : Call) → Except EngineError c.Reply)

theorem run_uuid (log : List Call) :
    run (backend answer).uuid log = (.ok (countedUuid log.length), []) := rfl

theorem run_nodeOf (vm : VmId) (log : List Call) {spec : ContainerSpec}
    (h : answer log (.inspect vm.value) = .ok spec) :
    run (nodeOf (backend answer) vm) log = (.ok spec.node, [.inspect vm.value]) := by
  unfold nodeOf
  rw [run_bind, run_ask, h]
  rfl

theorem create_places_on_node (vm : VmId) (log : List Call) {spec : ContainerSpec} {n : String}
    (hinspect : answer log (.inspect vm.value) = .ok spec) (hnode : spec.node = some n) :
    (run (create (backend answer) (some vm)) log).2 =
      [.inspect vm.value,
        .createVolume (n ++ "/" ++ (DiskId.ofUuid (countedUuid log.length)).value) driver] := by
  unfold create
  rw [run_bind, run_uuid]
  dsimp only
  rw [List.append_nil, run_bind, run_nodeOf answer vm log hinspect, hnode]
  dsimp only
  rw [run_bind, run_run]
  cases answer (log ++ [.inspect vm.value])
    (.createVolume (n ++ "/" ++ (DiskId.ofUuid (countedUuid log.length)).value) driver) <;> rfl

end Disks

/-! ## The node a VM was last pinned to -/

namespace Vm

/-- What pinning an environment `E` to node `N` does: the entries of `E` that pin no node stay
in order and one pin of `N` follows, replacing every earlier pin.  A non-empty node reads back
under every name that names no node, while a clustered name gives its own node whatever the
environment; and a disk created for a VM whose inspection shows the pinned environment goes to
`N`. -/
structure NodePinning (E : List String) (N : String) : Prop where
  eq_filter : setAffinity E N =
    E.filter (!·.startsWith nodeConstraintPrefix) ++ [nodeConstraintPrefix ++ N]
  one_pin : (setAffinity E N).filter (·.startsWith nodeConstraintPrefix) = [nodeConstraintPrefix ++ N]
  last_wins : ∀ N', setAffinity (setAffinity E N') N = setAffinity E N
  reads_back : N ≠ "" → ∀ name, ContainerSpec.NamesNoNode name →
    ContainerSpec.nodeOf name (setAffinity E N) = some N
  clustered : ∀ M c env, M ≠ "" → '/' ∉ M.toList →
    ContainerSpec.nodeOf (some ("/" ++ M ++ "/" ++ c)) env = some M
  disk_on_node : N ≠ "" → ∀ (answer : List Call → (c : Call) → Except EngineError c.Reply)
    (vm : VmId) (j : Json) (log : List Call),
    ContainerSpec.NamesNoNode ((j.field? "Name").bind Json.str?) →
    (ContainerSpec.ofInspection j).env = setAffinity E N →
    answer log (.inspect vm.value) = .ok (ContainerSpec.ofInspection j) →
    (Journal.run (Disks.create (Journal.backend answer) (some vm)) log).2 =
      [.inspect vm.value,
        .createVolume (N ++ "/" ++ (DiskId.ofUuid (countedUuid log.length)).value) Disks.driver]

/-- **Node pinning.**  Pinning replaces every node constraint of an environment by one for the
new node; the node reads back from an inspected container under any name that names no node,
a clustered name wins over the environment, and a new disk of the VM goes to the node it was
last pinned to. -/
theorem node_pinning (E : List String) (N : String) : NodePinning E N where
  eq_filter := rfl
  one_pin := setAffinity_pins E N
  last_wins N' := setAffinity_setAffinity E N N'
  reads_back hN _ hname := ContainerSpec.nodeOf_setAffinity hname E hN
  clustered _ _ env hM hslash := ContainerSpec.nodeOf_clustered hM hslash env
  disk_on_node hN answer vm j log hname henv hinspect := by
    have hnode : (ContainerSpec.ofInspection j).node = some N := by
      rw [ContainerSpec.node_ofInspection, henv]
      exact ContainerSpec.nodeOf_setAffinity hname E hN
    exact Disks.create_places_on_node answer vm log hinspect hnode

end Vm

end ContainerCpi
