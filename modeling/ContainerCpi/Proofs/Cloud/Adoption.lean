import ContainerCpi.Proofs.Cloud.Endpoints

/-!
# Adopting the network whose subnet overlaps

A manual network asks the engine for a network on its subnet, under the name its cloud
properties give or else under the subnet's text.  When the name is free but another
network's subnet overlaps, the engine refuses, naming the first such network in name order;
the manager reads that name back out of the refusal.  With no name given it adopts that
network; with a name given it fails with a conflict naming both networks and the subnet.

The reading is exact when the engine's names with subnets are words without blanks, and
so is the name asked for.  A name the engine reserves for its built-in networks (`bridge`,
`host`, `none`) is refused for that reason before any subnet is compared, so no conflict
is reported for it (`builtin_name_hides_overlap`).
-/

namespace ContainerCpi

open MemoryHost Text

namespace MemoryEngine

/-- Whether a network of the engine has a subnet overlapping `S`, either containing the
other's network address. -/
def overlapsSubnet (S : Net.IpNet) (q : String × Option Net.IpNet) : Bool :=
  match q.2 with
  | some e => e.contains S.network || S.contains e.network
  | none => false

/-- `E` names the first network, in name order, whose subnet overlaps `S`. -/
def FirstOverlap (networks : List (String × Option Net.IpNet)) (S : Net.IpNet) (E : String) : Prop :=
  (∃ x, (E, some x) ∈ networks ∧ overlapsSubnet S (E, some x) = true) ∧
    ∀ q ∈ networks, overlapsSubnet S q = true → E ≤ q.1

/-- The address family a refusal names. -/
def family (S : Net.IpNet) : String := if S.addr.isV6 then "IPv6" else "IPv4"

theorem createNetwork_of_overlap {s : MemoryEngine} {r : NetworkRequest} {S : Net.IpNet}
    {q : String × Option Net.IpNet} (hbuiltin : r.name ∉ ["bridge", "host", "none"])
    (hfree : SortedMap.contains s.networks r.name = false) (hS : r.subnet = some S)
    (hfind : s.networks.find? (overlapsSubnet S) = some q) :
    s.createNetwork r = (.error (overlapRefusal r.name q.1 (family S)), s) := by
  have hname : (r.name == "bridge" || r.name == "host" || r.name == "none") = false := by
    simp only [List.mem_cons, List.not_mem_nil, or_false, not_or] at hbuiltin
    simp [hbuiltin]
  unfold createNetwork
  simp only [hname, hfree, hS, Option.bind_some, Bool.false_eq_true, if_false]
  split
  · rename_i E x subnet hfound hsubnet
    -- the engine's own test is `overlapsSubnet` taken apart
    have hq : q = (E, x) := Option.some.inj (hfind.symm.trans hfound)
    cases hsubnet
    rw [hq]
    rfl
  · rename_i hnone
    exact (hnone q.1 q.2 S hfind rfl).elim

end MemoryEngine

namespace Networking

open MemoryEngine

variable {h : MemoryHost} {name : String} {n : DirectorNetwork} {p : NetProps} {S : Net.IpNet}

theorem manualRequest_name_not_builtin (hbuiltin : p.name ∉ ["bridge", "host", "none"]) :
    (manualRequest n p S).name ∉ ["bridge", "host", "none"] := by
  unfold manualRequest
  dsimp only
  split
  · have hrender := S.render_not_predefined
    simp only [Bool.or_eq_false_iff, beq_eq_false_iff_ne] at hrender
    simp [hrender.1.1, hrender.1.2, hrender.2]
  · exact hbuiltin

/-- **Recovering the overlapping network.**  When no creation failure is queued, the
engine's networks are in name order with the names of those with subnets words without
blanks, and a manual network with properties `p` and subnet `S` asks for a free name
outside the built-in ones, itself without blanks, while some network's subnet overlaps `S`:
the engine refuses with a message naming the first overlapping network `E` in name order,
the manager reads exactly `E` from it, and adopts `E` when the properties name no network,
failing otherwise with the conflict between the name asked for, `E` and `S`. -/
theorem enableManual_recovers_overlap (hq : h.engine.queued .createNetwork = [])
    (hasc : SortedMap.Ascending h.engine.networks) (hplain : h.engine.SubnetNamesPlain)
    (hp : n.netProps name = .ok p) (hS : n.subnet name = .ok S) (hR : Blankless p.name)
    (hbuiltin : p.name ∉ ["bridge", "host", "none"])
    (hfree : SortedMap.contains h.engine.networks (manualRequest n p S).name = false)
    (hoverlap : ∃ q ∈ h.engine.networks, overlapsSubnet S q = true) :
    ∃ E, FirstOverlap h.engine.networks S E ∧
      (h.engine.serve (.createNetwork (manualRequest n p S))).1 =
        .error (overlapRefusal (manualRequest n p S).name E (family S)) ∧
      subnetConflict? (overlapRefusal (manualRequest n p S).name E (family S)).message = some E ∧
      runOp (enableManual backend name n) h =
        (if p.name = "" then .ok (E, S.addr.isV6) else .error (.networkConflict p.name E S.render),
          { h with engine := (h.engine.serve (.createNetwork (manualRequest n p S))).2 }) := by
  -- the engine's search meets a first overlapping network, the one with the least name
  obtain ⟨q, hqmem, hqover⟩ := hoverlap
  obtain ⟨⟨E, x⟩, hfind⟩ : ∃ q₀, h.engine.networks.find? (overlapsSubnet S) = some q₀ :=
    Option.isSome_iff_exists.1 (List.find?_isSome.2 ⟨q, hqmem, hqover⟩)
  have hEmem := List.mem_of_find?_eq_some hfind
  have hEover := List.find?_some hfind
  obtain ⟨y, rfl⟩ : ∃ y, x = some y := by
    cases x with
    | none => simp [overlapsSubnet] at hEover
    | some y => exact ⟨y, rfl⟩
  have hfirst : FirstOverlap h.engine.networks S E :=
    ⟨⟨y, hEmem, hEover⟩, fun q' hq' hover => hasc.find?_least hfind q' hq' hover⟩
  -- so the creation is refused with the overlap message, which reads back as `E`
  have hreq := manualRequest_name_plain n S hR
  have hE := hplain E y hEmem
  have hrefused : (h.engine.serve (.createNetwork (manualRequest n p S))).1 =
      .error (overlapRefusal (manualRequest n p S).name E (family S)) := by
    rw [MemoryEngine.serve_of_not_queued hq]
    simp only [MemoryEngine.answer]
    rw [createNetwork_of_overlap (manualRequest_name_not_builtin hbuiltin)
      (by rwa [MemoryEngine.enter_networks]) rfl (by rwa [MemoryEngine.enter_networks])]
  have hread : subnetConflict? (overlapRefusal (manualRequest n p S).name E (family S)).message =
      some E :=
    subnetConflict?_overlapRefusal hreq.2 hE.2 hE.1 (family_cases S)
  have hexists : (overlapRefusal (manualRequest n p S).name E (family S)).isAlreadyExists = false :=
    isAlreadyExists_overlapRefusal hreq.2 hE.2 (family_cases S)
  refine ⟨E, hfirst, hrefused, hread, ?_⟩
  unfold enableManual
  rw [runOp_bind, runOp_liftSpec, hp]
  dsimp only [Except.mapError]
  rw [runOp_bind, runOp_liftSpec, hS]
  dsimp only [Except.mapError]
  rw [runOp_bind, runOp_ask]
  dsimp only
  split
  · rename_i hok
    cases hrefused.symm.trans hok
  · rename_i e he
    cases hrefused.symm.trans he
    rw [hexists, if_neg Bool.false_ne_true, hread]
    dsimp only
    by_cases hempty : p.name = ""
    · -- no name was asked for: the overlapping network is adopted
      rw [if_neg (by simp [hempty]), if_pos hempty]
      rfl
    · -- the name asked for is free, so it is not the overlapping network's
      have hnamed : (manualRequest n p S).name = p.name := by simp [manualRequest, hempty]
      have hne : p.name ≠ E := fun heq => by
        rw [hnamed, heq, SortedMap.contains_of_mem hEmem] at hfree
        cases hfree
      rw [if_pos (by simp [hempty, hne]), if_neg hempty]
      rfl

/-- A manual network at 10.0.5.10 in a /24 whose properties name it `other`. -/
def otherNamed : DirectorNetwork := { subnetOnly with cloudProperties := [("name", .string "other")] }

/-- Beside `netB` at 10.0.5.0/25, a manual network named `other` on 10.0.5.0/24 is refused
with `netB` named, and fails with the conflict between `other`, `netB` and its subnet. -/
theorem enableManual_recovers_netB :
    let S : Net.IpNet := ⟨.v4 167773440, 24⟩
    let p : NetProps := ⟨"other", "bridge", false⟩
    (netBHost.engine.queued .createNetwork = [] ∧ SortedMap.Ascending netBHost.engine.networks ∧
      netBHost.engine.SubnetNamesPlain ∧ otherNamed.netProps "a" = .ok p ∧
      otherNamed.subnet "a" = .ok S ∧ Blankless p.name ∧ p.name ∉ ["bridge", "host", "none"] ∧
      SortedMap.contains netBHost.engine.networks (manualRequest otherNamed p S).name = false ∧
      ∃ q ∈ netBHost.engine.networks, MemoryEngine.overlapsSubnet S q = true) ∧
    ∃ E, MemoryEngine.FirstOverlap netBHost.engine.networks S E ∧
      (netBHost.engine.serve (.createNetwork (manualRequest otherNamed p S))).1 =
        .error (overlapRefusal (manualRequest otherNamed p S).name E (MemoryEngine.family S)) ∧
      subnetConflict? (overlapRefusal (manualRequest otherNamed p S).name E
        (MemoryEngine.family S)).message = some E ∧
      runOp (enableManual backend "a" otherNamed) netBHost =
        (if p.name = "" then .ok (E, S.addr.isV6) else .error (.networkConflict p.name E S.render),
          { netBHost with
            engine := (netBHost.engine.serve (.createNetwork (manualRequest otherNamed p S))).2 }) := by
  intro S p
  have hq : netBHost.engine.queued .createNetwork = [] := by decide
  have hasc : SortedMap.Ascending netBHost.engine.networks := List.pairwise_singleton _ _
  have hplain : netBHost.engine.SubnetNamesPlain := by
    intro E x hmem
    have hnets : netBHost.engine.networks = [("netB", some lowerHalf)] := rfl
    rw [hnets, List.mem_singleton] at hmem
    obtain ⟨rfl, -⟩ := Prod.mk.inj hmem
    exact ⟨by decide, by decide⟩
  have hp : otherNamed.netProps "a" = .ok p := by decide
  have hS : otherNamed.subnet "a" = .ok S := by decide
  have hR : Blankless p.name := by decide
  have hbuiltin : p.name ∉ ["bridge", "host", "none"] := by decide
  have hfree : SortedMap.contains netBHost.engine.networks (manualRequest otherNamed p S).name = false := by
    decide
  have hoverlap : ∃ q ∈ netBHost.engine.networks, MemoryEngine.overlapsSubnet S q = true := by decide
  exact ⟨⟨hq, hasc, hplain, hp, hS, hR, hbuiltin, hfree, hoverlap⟩,
    enableManual_recovers_overlap hq hasc hplain hp hS hR hbuiltin hfree hoverlap⟩

/-- A manual network at 10.0.5.10 in a /24 whose properties name it `bridge`. -/
def bridgeSubnet : DirectorNetwork := { subnetOnly with cloudProperties := [("name", .string "bridge")] }

/-- Beside `netB` at 10.0.5.0/25, a manual network named `bridge` on 10.0.5.0/24 asks for a
free name while `netB` overlaps, yet it is refused as a built-in network, which is read as no
overlap: it fails with that engine error and no conflict is reported. -/
theorem builtin_name_hides_overlap :
    SortedMap.contains netBHost.engine.networks "bridge" = false ∧
      (∃ q ∈ netBHost.engine.networks, MemoryEngine.overlapsSubnet ⟨.v4 167773440, 24⟩ q = true) ∧
      (runOp (enableManual backend "a" bridgeSubnet) netBHost).1 =
        .error (.engine .enableNetworks (predefinedRefusal "bridge")) := by
  decide +kernel

end Networking

end ContainerCpi
