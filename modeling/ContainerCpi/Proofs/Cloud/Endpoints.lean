import ContainerCpi.Proofs.Cloud.Networks
import ContainerCpi.Proofs.Cloud.Refusals
import ContainerCpi.Proofs.Data.SortedMaps

/-!
# Enabled networks are networks the engine can connect

Enabling a VM's networks gives an endpoint for every engine network it settled on.  Each such
name is a network the engine holds once enabling is done, with one exception the manager
makes on purpose: a dynamic network whose properties name one of the engine's built-in
networks, which the engine refuses to create and the manager takes as it is.

Two things must hold of the names for this: the engine's refusals quote the names of the
networks involved, and the manager reads the existing network's name back out of an
overlap refusal, which is right when the names with subnets are words without blanks.  A
failure queued for a creation can say anything, so none may be queued.
-/

namespace ContainerCpi

open MemoryHost Text

namespace MemoryEngine

/-- Every network with a subnet has a name the engine's refusals quote whole: a word
without blanks. -/
def SubnetNamesPlain (s : MemoryEngine) : Prop :=
  ∀ E x, (E, some x) ∈ s.networks → E ≠ "" ∧ Blankless E

theorem SubnetNamesPlain.serve_createNetwork {s : MemoryEngine} (hs : s.SubnetNamesPlain)
    (hq : s.queued .createNetwork = []) {r : NetworkRequest}
    (hr : r.subnet.isSome → r.name ≠ "" ∧ Blankless r.name) :
    (s.serve (.createNetwork r)).2.SubnetNamesPlain := by
  rcases hres : (s.serve (.createNetwork r)).1 with e | ⟨⟩
  · intro E x hmem
    rw [serve_networks_of_error hres] at hmem
    exact hs E x hmem
  · intro E x hmem
    rw [serve_createNetwork_of_ok hq hres] at hmem
    rcases SortedMap.mem_insert_pair hmem with heq | hold
    · obtain ⟨rfl, hx⟩ := Prod.mk.inj heq
      exact hr (hx ▸ rfl)
    · exact hs E x hold

end MemoryEngine

namespace Networking

/-- The director networks that are manual have properties naming words without blanks. -/
def ManualNamesPlain (networks : Networks) : Prop :=
  ∀ name n p, (name, n) ∈ networks → n.isDynamic = false → n.netProps name = .ok p →
    Blankless p.name

/-- An endpoint name the engine can connect a container to: a network the engine holds, or
a built-in network that a dynamic network of the set names. -/
def Usable (networks : Networks) (s : MemoryEngine) (N : String) : Prop :=
  SortedMap.contains s.networks N = true ∨
    (N = "bridge" ∨ N = "host" ∨ N = "none") ∧
      ∃ name n p, (name, n) ∈ networks ∧ n.isDynamic = true ∧ n.netProps name = .ok p ∧ p.name = N

theorem Usable.of_kept {all : Networks} {s s' : MemoryEngine} {N : String} (hu : Usable all s N)
    (hkept : ∀ k x, SortedMap.get? s.networks k = some x → SortedMap.get? s'.networks k = some x) :
    Usable all s' N := by
  rcases hu with hheld | hbuiltin
  · left
    rw [SortedMap.contains_eq_isSome_get?] at hheld ⊢
    obtain ⟨x, hx⟩ := Option.isSome_iff_exists.1 hheld
    rw [hkept N x hx]
    rfl
  · exact .inr hbuiltin

theorem manualRequest_name_plain (n : DirectorNetwork) {p : NetProps} (S : Net.IpNet)
    (hp : Blankless p.name) :
    (manualRequest n p S).name ≠ "" ∧ Blankless (manualRequest n p S).name := by
  unfold manualRequest
  dsimp only
  split
  · obtain ⟨hblank, hslash⟩ := S.blankless_render
    exact ⟨fun hempty => by simp [hempty] at hslash, hblank⟩
  · rename_i hnamed
    exact ⟨fun hempty => by simp [hempty] at hnamed, hp⟩

theorem family_cases (S : Net.IpNet) :
    (if S.addr.isV6 then "IPv6" else "IPv4") = "IPv4" ∨
      (if S.addr.isV6 then "IPv6" else "IPv4") = "IPv6" := by
  split
  · exact .inr rfl
  · exact .inl rfl

variable {h h' : MemoryHost} {name N : String} {n : DirectorNetwork} {v : Bool}

theorem enableDynamic_usable (hq : h.engine.queued .createNetwork = [])
    (hplain : h.engine.SubnetNamesPlain)
    (hrun : runOp (enableDynamic backend name n) h = (.ok (N, v), h')) :
    (SortedMap.contains h'.engine.networks N = true ∨
      (N = "bridge" ∨ N = "host" ∨ N = "none") ∧ ∃ p, n.netProps name = .ok p ∧ p.name = N) ∧
    h'.engine.SubnetNamesPlain := by
  obtain ⟨p, hp, -, rfl, -, rfl, hout⟩ := enableDynamic_eq_ok hrun
  refine ⟨?_, hplain.serve_createNetwork hq fun hsome => by simp at hsome⟩
  rcases hout with hok | ⟨e, he, -⟩
  · left
    rw [MemoryEngine.serve_createNetwork_of_ok hq hok]
    exact SortedMap.contains_insert_self ..
  · have hnet := MemoryEngine.serve_networks_of_error he
    -- a creation without a subnet is refused only for its name
    rcases MemoryEngine.serve_createNetwork_refusal hq he with
      ⟨hbuiltin, -⟩ | ⟨htaken, -⟩ | ⟨E, x, S, -, hS, -⟩
    · exact .inr ⟨hbuiltin, p, hp, rfl⟩
    · left
      dsimp only
      rw [hnet]
      exact htaken
    · cases hS

/-- A manual network is enabled as a network the engine holds afterwards: the one it created
or found under the name asked for, or the one an overlap refusal names. -/
theorem enableManual_usable (hq : h.engine.queued .createNetwork = [])
    (hplain : h.engine.SubnetNamesPlain) (hnames : ∀ p, n.netProps name = .ok p → Blankless p.name)
    (hrun : runOp (enableManual backend name n) h = (.ok (N, v), h')) :
    SortedMap.contains h'.engine.networks N = true ∧ h'.engine.SubnetNamesPlain := by
  obtain ⟨p, S, hp, -, -, rfl, hout⟩ := enableManual_eq_ok hrun
  have hreq := manualRequest_name_plain n S (hnames p hp)
  refine ⟨?_, hplain.serve_createNetwork hq fun _ => hreq⟩
  rcases hout with ⟨hok, rfl⟩ | ⟨e, he, ⟨hexists, rfl⟩ | ⟨hnot, hconflict, -⟩⟩
  · rw [MemoryEngine.serve_createNetwork_of_ok hq hok]
    exact SortedMap.contains_insert_self ..
  · -- only the refusal of a taken name reads as "already exists"
    have hnet := MemoryEngine.serve_networks_of_error he
    rcases MemoryEngine.serve_createNetwork_refusal hq he with
      ⟨hbuiltin, rfl⟩ | ⟨htaken, -⟩ | ⟨E, x, S', hmem, -, rfl⟩
    · rw [(predefinedRefusal_unread hbuiltin).1] at hexists
      cases hexists
    · dsimp only
      rw [hnet]
      exact htaken
    · rw [isAlreadyExists_overlapRefusal hreq.2 (hplain E x hmem).2 (family_cases S')] at hexists
      cases hexists
  · -- only an overlap refusal names a network, and the one it names is held
    have hnet := MemoryEngine.serve_networks_of_error he
    rcases MemoryEngine.serve_createNetwork_refusal hq he with
      ⟨hbuiltin, rfl⟩ | ⟨-, rfl⟩ | ⟨E, x, S', hmem, -, rfl⟩
    · rw [(predefinedRefusal_unread hbuiltin).2] at hconflict
      cases hconflict
    · rw [MemoryEngine.isAlreadyExists_taken] at hnot
      cases hnot
    · rw [subnetConflict?_overlapRefusal hreq.2 (hplain E x hmem).2 (hplain E x hmem).1
        (family_cases S')] at hconflict
      cases hconflict
      dsimp only
      rw [hnet]
      exact SortedMap.contains_of_mem hmem

theorem enableNetwork_usable {all : Networks} (hmem : (name, n) ∈ all)
    (hnames : ManualNamesPlain all) (hq : h.engine.queued .createNetwork = [])
    (hplain : h.engine.SubnetNamesPlain)
    (hrun : runOp (enableNetwork backend name { n with preconfigured := true }) h = (.ok (N, v), h')) :
    Usable all h'.engine N ∧ h'.engine.SubnetNamesPlain := by
  unfold enableNetwork at hrun
  split at hrun
  · rename_i hdynamic
    obtain ⟨hN, hplain'⟩ := enableDynamic_usable hq hplain hrun
    refine ⟨hN.imp_right fun ⟨hbuiltin, p, hp, hname⟩ => ⟨hbuiltin, name, n, p, hmem, hdynamic, hp,
      hname⟩, hplain'⟩
  · rename_i hmanual
    have hnames' : ∀ p, n.netProps name = .ok p → Blankless p.name :=
      fun p hp => hnames name n p hmem (Bool.eq_false_iff.2 hmanual) hp
    obtain ⟨hN, hplain'⟩ := enableManual_usable hq hplain hnames' hrun
    exact ⟨.inl hN, hplain'⟩

/-- Enabling networks in order: every endpoint already collected stays usable, each network
enabled adds a usable one, and the names with subnets stay plain. -/
theorem enableAll_usable {all : Networks} (hnames : ManualNamesPlain all) :
    ∀ (rest : Networks) (setup : NetworkSetup) (b : Bool) {h h' : MemoryHost}
      {out : NetworkSetup × Bool × Networks},
      (∀ x ∈ rest, x ∈ all) → h.engine.queued .createNetwork = [] → h.engine.SubnetNamesPlain →
      (∀ q ∈ setup.endpoints, Usable all h.engine q.1) →
      runOp (enableAll backend rest setup b) h = (.ok out, h') →
      (∀ q ∈ out.1.endpoints, Usable all h'.engine q.1) ∧ h'.engine.SubnetNamesPlain
  | [], setup, b, h, h', out, _, _, hplain, hsetup, hrun => by
    unfold enableAll at hrun
    rw [runOp_pure] at hrun
    cases hrun
    exact ⟨hsetup, hplain⟩
  | (name, n) :: rest, setup, b, h, h', out, hsub, hq, hplain, hsetup, hrun => by
    unfold enableAll at hrun
    obtain ⟨⟨N, v⟩, h₁, hstep, hrun⟩ := runOp_bind_eq_ok hrun
    obtain ⟨ep, h₂, hep, hrun⟩ := runOp_bind_eq_ok hrun
    rw [runOp_liftSpec] at hep
    cases (Prod.mk.inj hep).2
    obtain ⟨out', h₃, hrest, hfin⟩ := runOp_bind_eq_ok hrun
    rw [runOp_pure] at hfin
    cases hfin
    obtain ⟨hN, hplain₁⟩ := enableNetwork_usable (hsub _ List.mem_cons_self) hnames hq hplain hstep
    have hq₁ : h₁.engine.queued .createNetwork = [] := by
      have hkept := (enableNetwork_onlyCalls name { n with preconfigured := true }).queued_nil hq
      rwa [hstep] at hkept
    have hkept := enableNetwork_keeps_networks name { n with preconfigured := true } h
    rw [hstep] at hkept
    -- the endpoints so far, the new one included, are usable after this network
    have hsetup₁ : ∀ q ∈ (SortedMap.insert N ep setup.endpoints), Usable all h₁.engine q.1 :=
      SortedMap.forall_mem_insert hN fun q hq => (hsetup q hq).of_kept hkept
    obtain ⟨hend, hplain'⟩ := enableAll_usable hnames rest _ _
      (fun x hx => hsub x (List.mem_cons_of_mem _ hx)) hq₁ hplain₁ hsetup₁ hrest
    exact ⟨hend, hplain'⟩

/-- Every endpoint that enabling a VM's networks gives names a network the engine holds
afterwards, or a built-in network that a dynamic network of the set names: when no creation
failure is queued, the engine's networks with subnets and the manual networks' properties
have names without blanks. -/
theorem enable_endpoints_usable {networks marked : Networks} {setup : NetworkSetup}
    (hq : h.engine.queued .createNetwork = []) (hplain : h.engine.SubnetNamesPlain)
    (hnames : ManualNamesPlain networks)
    (hrun : runOp (enable backend networks) h = (.ok (setup, marked), h')) :
    ∀ q ∈ setup.endpoints, Usable networks h'.engine q.1 := by
  unfold enable at hrun
  split at hrun
  · cases hrun
  · obtain ⟨⟨out, b, enabled⟩, h₁, hall, hfin⟩ := runOp_bind_eq_ok hrun
    dsimp only at hfin
    rw [runOp_pure] at hfin
    cases hfin
    -- enabling starts from no endpoints
    exact (enableAll_usable hnames networks _ _ (fun _ hx => hx) hq hplain (by simp) hall).1

/-- An engine holding only `netB`, at `10.0.5.0/25`. -/
def netBHost : MemoryHost :=
  { emptyHost with engine := emptyHost.engine.addNetwork "netB" (some lowerHalf) }

/-- An unnamed manual network at `10.0.5.10/24` adopts `netB`, whose subnet overlaps, and its
endpoint names it. -/
theorem enable_endpoints_usable_adopting :
    ∃ setup marked h', runOp (enable backend [("a", subnetOnly)]) netBHost = (.ok (setup, marked), h') ∧
      setup.endpoints.map (·.1) = ["netB"] ∧
      ∀ q ∈ setup.endpoints, Usable [("a", subnetOnly)] h'.engine q.1 := by
  have hq : netBHost.engine.queued .createNetwork = [] := by decide
  have hplain : netBHost.engine.SubnetNamesPlain := by
    intro E x hmem
    have hnets : netBHost.engine.networks = [("netB", some lowerHalf)] := rfl
    rw [hnets, List.mem_singleton] at hmem
    obtain ⟨rfl, -⟩ := Prod.mk.inj hmem
    exact ⟨by decide, by decide⟩
  have hnames : ManualNamesPlain [("a", subnetOnly)] := by
    intro name n p hmem _ hp
    rw [List.mem_singleton] at hmem
    obtain ⟨rfl, rfl⟩ := Prod.mk.inj hmem
    have hname : ((subnetOnly.netProps "a").toOption.map (·.name)) = some "" := by decide
    rw [hp] at hname
    have hempty : p.name = "" := Option.some.inj hname
    rw [hempty]
    decide
  have hkeys : ((runOp (enable backend [("a", subnetOnly)]) netBHost).1.toOption.map
      fun o => o.1.endpoints.map (·.1)) = some ["netB"] := by decide +kernel
  generalize hrun : runOp (enable backend [("a", subnetOnly)]) netBHost = R at hkeys ⊢
  obtain ⟨_ | ⟨setup, marked⟩, h'⟩ := R
  · cases hkeys
  · exact ⟨setup, marked, h', rfl, Option.some.inj hkeys,
      enable_endpoints_usable hq hplain hnames hrun⟩

theorem not_usable_of_absent {all : Networks} {s : MemoryEngine} {N : String}
    (habsent : SortedMap.contains s.networks N = false)
    (hbuiltin : N ≠ "bridge" ∧ N ≠ "host" ∧ N ≠ "none") : ¬ Usable all s N := by
  rintro (hheld | ⟨hnamed, -⟩)
  · rw [habsent] at hheld
    cases hheld
  · rcases hnamed with rfl | rfl | rfl
    · exact hbuiltin.1 rfl
    · exact hbuiltin.2.1 rfl
    · exact hbuiltin.2.2 rfl

/-- An engine holding a network at `10.0.5.0/25` whose name has blanks. -/
def blankNamedHost : MemoryHost :=
  { emptyHost with engine := emptyHost.engine.addNetwork "p (q" (some lowerHalf) }

/-- Names with blanks are needed: the overlap refusal for an unnamed network at
`10.0.5.10/24` names `p (q`, which is read up to its first blank, so the network is
enabled on `p`, which the engine does not hold. -/
theorem enable_adopts_cut_name :
    let after := runOp (enable backend [("a", subnetOnly)]) blankNamedHost
    ¬ blankNamedHost.engine.SubnetNamesPlain ∧
      (after.1.toOption.map fun o => o.1.endpoints.map (·.1)) = some ["p"] ∧
      ¬ Usable [("a", subnetOnly)] after.2.engine "p" := by
  intro after
  have hheld : ("p (q", some lowerHalf) ∈ blankNamedHost.engine.networks := by decide
  refine ⟨fun hplain => absurd (hplain _ _ hheld).2 (by decide), by decide +kernel,
    not_usable_of_absent (by decide +kernel) (by decide)⟩

/-- An engine whose next network creation is refused as an overlap with `ghost`, which it
does not hold. -/
def ghostRefusalHost : MemoryHost :=
  let refusal := EngineError.conflict
    "conflicts with network ghost (br-ghost): networks have overlapping IPv4"
  { emptyHost with engine := emptyHost.engine.fail .createNetwork refusal 1 }

/-- No queued creation failure is needed: a refusal the engine did not make names a network
it does not hold, and the network is enabled on it. -/
theorem enable_adopts_injected_name :
    let after := runOp (enable backend [("a", subnetOnly)]) ghostRefusalHost
    ghostRefusalHost.engine.queued .createNetwork ≠ [] ∧
      (after.1.toOption.map fun o => o.1.endpoints.map (·.1)) = some ["ghost"] ∧
      ¬ Usable [("a", subnetOnly)] after.2.engine "ghost" :=
  ⟨by decide, by decide +kernel, not_usable_of_absent (by decide +kernel) (by decide)⟩

/-- A dynamic network whose properties name the engine's built-in `bridge` network. -/
def bridgeNamed : DirectorNetwork :=
  { kind := some "dynamic", ip := "", netmask := "", gateway := "", dns := [], default := [],
    mac := none, preconfigured := false, cloudProperties := [("name", .string "bridge")] }

/-- Enabling a dynamic network named `bridge` succeeds with an endpoint on `bridge`, a network
the engine refused to create and does not hold. -/
theorem enable_builtin_bridge_unheld :
    ((runOp (enable backend [("default", bridgeNamed)]) emptyHost).1.toOption.map
        fun o => o.1.endpoints.map (·.1)) = some ["bridge"] ∧
      SortedMap.contains (runOp (enable backend [("default", bridgeNamed)]) emptyHost).2.engine.networks
        "bridge" = false :=
  ⟨by decide, by decide⟩

end Networking

end ContainerCpi
