import ContainerCpi.Proofs.Vm.Creation
import ContainerCpi.Proofs.Text.Search

/-!
# Which engine network a director network is enabled as

Enabling a director network makes one network creation and answers with an engine network
name.  A dynamic network always answers with the name its cloud properties give; a manual
one with the name its properties give, or else with its subnet's text, unless the engine
refuses the creation because another network's subnet overlaps: then that network is
adopted.

A name given by the properties, and a subnet's own network once the engine holds it, are
stable: every later enabling of a network with the same subnet and properties answers with
the same name, whatever networks were added in between.  An adopted network is not: a
network added later may be the first the engine reports as overlapping.
-/

namespace ContainerCpi

open MemoryHost

namespace DirectorNetwork

theorem netProps_of_cloudProperties {n n' : DirectorNetwork} {name name' : String} {p : NetProps}
    (hcp : n'.cloudProperties = n.cloudProperties) (h : n.netProps name = .ok p) :
    n'.netProps name' = .ok p := by
  unfold netProps at h ⊢
  rw [hcp]
  split
  · rename_i q hq
    rw [hq] at h
    exact h
  · rename_i e he
    rw [he] at h
    cases h

end DirectorNetwork

namespace Net.IpNet

theorem render_not_predefined (S : IpNet) :
    (S.render == "bridge" || S.render == "host" || S.render == "none") = false := by
  have hslash : '/' ∈ S.render.toList := by
    simp [render, String.toList_append]
  have hne : ∀ t : String, '/' ∉ t.toList → S.render ≠ t := fun t ht he => ht (he ▸ hslash)
  simp only [Bool.or_eq_false_iff, beq_eq_false_iff_ne]
  exact ⟨⟨hne _ (by decide), hne _ (by decide)⟩, hne _ (by decide)⟩

end Net.IpNet

namespace MemoryEngine

theorem createNetwork_of_taken (s : MemoryEngine) (r : NetworkRequest)
    (hbuiltin : (r.name == "bridge" || r.name == "host" || r.name == "none") = false)
    (htaken : SortedMap.contains s.networks r.name = true) :
    (s.createNetwork r).1 = .error (.conflict ("network with name " ++ r.name ++ " already exists")) := by
  unfold createNetwork
  simp only [hbuiltin, htaken, Bool.false_eq_true, if_false, if_true]
  rfl

theorem isAlreadyExists_taken (name : String) :
    (EngineError.conflict ("network with name " ++ name ++ " already exists")).isAlreadyExists = true :=
  Text.contains_append_of_right (Text.contains_append_of_right (by decide))

end MemoryEngine

namespace Networking

variable {h h' : MemoryHost} {name N : String} {n : DirectorNetwork} {v : Bool}

/-- A dynamic network that is enabled has a name in its properties, and answers with it and
with whether the properties enable IPv6: the engine created the network, or refused it as
existing or built in. -/
theorem enableDynamic_eq_ok (hrun : runOp (enableDynamic backend name n) h = (.ok (N, v), h')) :
    ∃ p, n.netProps name = .ok p ∧ p.name ≠ "" ∧ N = p.name ∧ v = p.enableIpv6 ∧
      h' = { h with engine :=
        (h.engine.serve (.createNetwork ⟨p.name, p.driver, p.enableIpv6, none, none⟩)).2 } ∧
      ((h.engine.serve (.createNetwork ⟨p.name, p.driver, p.enableIpv6, none, none⟩)).1 = .ok () ∨
        ∃ e, (h.engine.serve (.createNetwork ⟨p.name, p.driver, p.enableIpv6, none, none⟩)).1 =
          .error e ∧ (e.isAlreadyExists || e.isPredefinedNetwork) = true) := by
  unfold enableDynamic at hrun
  rw [runOp_bind, runOp_liftSpec] at hrun
  rcases hp : n.netProps name with e | p
  · rw [hp] at hrun
    cases hrun
  rw [hp] at hrun
  dsimp only [Except.mapError] at hrun
  have hnamed : p.name.isEmpty = false := by
    rcases hempty : p.name.isEmpty
    · rfl
    · rw [if_pos hempty] at hrun
      cases hrun
  have hne : p.name ≠ "" := fun hempty => by simp [hempty] at hnamed
  rw [if_neg (by simp [hnamed]), runOp_bind, runOp_ask] at hrun
  dsimp only at hrun
  split at hrun
  · rename_i hok
    cases hrun
    exact ⟨p, rfl, hne, rfl, rfl, rfl, .inl hok⟩
  · rename_i e he
    split at hrun
    · rename_i htolerated
      cases hrun
      exact ⟨p, rfl, hne, rfl, rfl, rfl, .inr ⟨e, he, htolerated⟩⟩
    · cases hrun

/-- The creation a manual network asks for, given its properties and subnet: named by the
properties, or else by the subnet's text. -/
def manualRequest (n : DirectorNetwork) (p : NetProps) (S : Net.IpNet) : NetworkRequest :=
  ⟨if p.name.isEmpty then S.render else p.name, p.driver, S.addr.isV6 || p.enableIpv6, some S,
    if n.gateway.isEmpty then none else some n.gateway⟩

/-- A manual network that is enabled has properties and a subnet and asked for its network:
it answers with the subnet's family, and with the requested name when the engine created the
network or refused it as existing, and otherwise with the network an overlap refusal names,
which the properties leave unnamed or name themselves. -/
theorem enableManual_eq_ok (hrun : runOp (enableManual backend name n) h = (.ok (N, v), h')) :
    ∃ p S, n.netProps name = .ok p ∧ n.subnet name = .ok S ∧ v = S.addr.isV6 ∧
      h' = { h with engine := (h.engine.serve (.createNetwork (manualRequest n p S))).2 } ∧
      ((h.engine.serve (.createNetwork (manualRequest n p S))).1 = .ok () ∧
          N = (manualRequest n p S).name ∨
        ∃ e, (h.engine.serve (.createNetwork (manualRequest n p S))).1 = .error e ∧
          (e.isAlreadyExists = true ∧ N = (manualRequest n p S).name ∨
            e.isAlreadyExists = false ∧ subnetConflict? e.message = some N ∧
              (p.name.isEmpty = true ∨ p.name = N))) := by
  unfold enableManual at hrun
  rw [runOp_bind, runOp_liftSpec] at hrun
  rcases hp : n.netProps name with _ | p
  · rw [hp] at hrun
    cases hrun
  rw [hp] at hrun
  dsimp only [Except.mapError] at hrun
  rw [runOp_bind, runOp_liftSpec] at hrun
  rcases hS : n.subnet name with _ | S
  · rw [hS] at hrun
    cases hrun
  rw [hS] at hrun
  dsimp only [Except.mapError] at hrun
  rw [runOp_bind, runOp_ask] at hrun
  refine ⟨p, S, rfl, rfl, ?_⟩
  dsimp only at hrun
  split at hrun
  · rename_i hok
    cases hrun
    exact ⟨rfl, rfl, .inl ⟨hok, rfl⟩⟩
  · rename_i e he
    split at hrun
    · rename_i hexists
      cases hrun
      exact ⟨rfl, rfl, .inr ⟨e, he, .inl ⟨hexists, rfl⟩⟩⟩
    · rename_i hexists
      split at hrun
      · cases hrun
      · rename_i existing hconflict
        split at hrun
        · cases hrun
        · rename_i hsame
          cases hrun
          refine ⟨rfl, rfl, .inr ⟨e, he, .inr ⟨by simpa using hexists, hconflict, ?_⟩⟩⟩
          rcases hempty : p.name.isEmpty
          · rw [hempty] at hsame
            exact .inr (by simpa using hsame)
          · exact .inl rfl

theorem enableNetwork_keeps_networks (name : String) (n : DirectorNetwork) (h : MemoryHost) :
    ∀ k x, SortedMap.get? h.engine.networks k = some x →
      SortedMap.get? (runOp (enableNetwork backend name n) h).2.engine.networks k = some x :=
  ((enableNetwork_onlyCalls name n).frame_networksAdded h).objects.networks

theorem enableNetwork_props (hrun : runOp (enableNetwork backend name n) h = (.ok (N, v), h')) :
    ∃ p, n.netProps name = .ok p := by
  unfold enableNetwork at hrun
  split at hrun
  · obtain ⟨p, hp, -⟩ := enableDynamic_eq_ok hrun
    exact ⟨p, hp⟩
  · obtain ⟨p, -, hp, -⟩ := enableManual_eq_ok hrun
    exact ⟨p, hp⟩

theorem enableNetwork_named {p : NetProps} (hp : n.netProps name = .ok p) (hnamed : p.name ≠ "")
    (hrun : runOp (enableNetwork backend name n) h = (.ok (N, v), h')) : N = p.name := by
  unfold enableNetwork at hrun
  split at hrun
  · obtain ⟨q, hq, -, hN, -⟩ := enableDynamic_eq_ok hrun
    rw [hp] at hq
    cases hq
    exact hN
  · obtain ⟨q, S, hq, -, -, -, hout⟩ := enableManual_eq_ok hrun
    rw [hp] at hq
    cases hq
    have hreq : (manualRequest n p S).name = p.name := by simp [manualRequest, hnamed]
    -- an adopted network must carry the properties' name
    rcases hout with ⟨-, hN⟩ | ⟨e, -, ⟨-, hN⟩ | ⟨-, -, hempty | hN⟩⟩
    · rw [hN, hreq]
    · rw [hN, hreq]
    · exact absurd (by simpa using hempty) hnamed
    · exact hN.symm

/-- An unnamed network whose subnet's network the engine holds is enabled as that network,
when no creation failure is queued. -/
theorem enableNetwork_of_held {p : NetProps} {S : Net.IpNet} (hp : n.netProps name = .ok p)
    (hunnamed : p.name = "") (hS : n.subnet name = .ok S)
    (hq : h.engine.queued .createNetwork = [])
    (hheld : SortedMap.contains h.engine.networks S.render = true)
    (hrun : runOp (enableNetwork backend name n) h = (.ok (N, v), h')) : N = S.render := by
  unfold enableNetwork at hrun
  split at hrun
  · obtain ⟨q, hq', hne, -⟩ := enableDynamic_eq_ok hrun
    rw [hp] at hq'
    cases hq'
    exact absurd hunnamed hne
  · obtain ⟨q, S', hq', hS', -, -, hout⟩ := enableManual_eq_ok hrun
    rw [hp] at hq'
    cases hq'
    rw [hS] at hS'
    cases hS'
    have hreq : (manualRequest n p S).name = S.render := by simp [manualRequest, hunnamed]
    -- the engine holds the subnet's network, so it refuses the creation as existing
    have hrefused : (h.engine.serve (.createNetwork (manualRequest n p S))).1 =
        .error (.conflict ("network with name " ++ S.render ++ " already exists")) := by
      rw [MemoryEngine.serve_of_not_queued hq]
      simp only [MemoryEngine.answer]
      rw [← hreq]
      refine MemoryEngine.createNetwork_of_taken _ _ ?_ ?_
      · rw [hreq]
        exact S.render_not_predefined
      · simpa [hreq] using hheld
    rcases hout with ⟨hok, -⟩ | ⟨e, he, ⟨-, hN⟩ | ⟨hnot, -⟩⟩
    · rw [hrefused] at hok
      cases hok
    · rw [hN, hreq]
    · rw [hrefused] at he
      cases he
      rw [MemoryEngine.isAlreadyExists_taken] at hnot
      cases hnot

/-- Enabling a network with the same subnet and cloud properties again, after networks were
only added, answers with the same engine name, when the properties name the network or the
name is the subnet's own network, held by the engine after the first enabling. -/
theorem enableNetwork_name_stable {h₀ h₁ h₂ h₃ : MemoryHost} {name name' N N' : String}
    {n n' : DirectorNetwork} {v v' : Bool}
    (hsubnet : (n'.subnet name').toOption = (n.subnet name).toOption)
    (hprops : n'.cloudProperties = n.cloudProperties)
    (hfirst : runOp (enableNetwork backend name n) h₀ = (.ok (N, v), h₁))
    (hown : (∃ p, n.netProps name = .ok p ∧ p.name ≠ "") ∨
      (∃ S, n.subnet name = .ok S ∧ N = S.render ∧ SortedMap.contains h₁.engine.networks N = true))
    (hadded : ∀ k x, SortedMap.get? h₁.engine.networks k = some x →
      SortedMap.get? h₂.engine.networks k = some x)
    (hq : h₂.engine.queued .createNetwork = [])
    (hlater : runOp (enableNetwork backend name' n') h₂ = (.ok (N', v'), h₃)) :
    N' = N := by
  obtain ⟨p, hp⟩ := enableNetwork_props hfirst
  have hp' : n'.netProps name' = .ok p := DirectorNetwork.netProps_of_cloudProperties hprops hp
  by_cases hnamed : p.name = ""
  · -- unnamed: the first enabling did not adopt, so the engine keeps the subnet's network
    obtain ⟨S, hS, hN, hheld⟩ : ∃ S, n.subnet name = .ok S ∧ N = S.render ∧
        SortedMap.contains h₁.engine.networks N = true := by
      refine hown.resolve_left ?_
      rintro ⟨q, hq', hne⟩
      rw [hp] at hq'
      cases hq'
      exact hne hnamed
    have hS' : n'.subnet name' = .ok S := by
      rw [hS] at hsubnet
      rcases hs : n'.subnet name' with e | S'
      · rw [hs] at hsubnet
        simp [Except.toOption] at hsubnet
      · rw [hs] at hsubnet
        simp only [Except.toOption, Option.some.injEq] at hsubnet
        rw [hsubnet]
    have hheld₂ : SortedMap.contains h₂.engine.networks S.render = true := by
      rw [SortedMap.contains_eq_isSome_get?] at hheld ⊢
      rw [← hN]
      obtain ⟨x, hx⟩ := Option.isSome_iff_exists.1 hheld
      rw [hadded N x hx]
      rfl
    rw [hN, enableNetwork_of_held hp' hnamed hS' hq hheld₂ hlater]
  · rw [enableNetwork_named hp hnamed hfirst, enableNetwork_named hp' hnamed hlater]

/-- A manual network at 10.0.5.10 in a /24, with no cloud properties. -/
def subnetOnly : DirectorNetwork :=
  { kind := none, ip := "10.0.5.10", netmask := "24", gateway := "", dns := [], default := [],
    mac := none, preconfigured := false, cloudProperties := [] }

/-- The network 10.0.5.0/25, which overlaps 10.0.5.0/24. -/
def lowerHalf : Net.IpNet := ⟨.v4 167773440, 25⟩

/-- An engine holding nothing. -/
def emptyHost : MemoryHost := ⟨MemoryEngine.empty ⟨8589934592, 4⟩, 0⟩

/-- Enabling an unnamed network creates its subnet's network; a network added later that
overlaps it does not change what a network with another address in the same subnet is
enabled as. -/
theorem enableNetwork_name_stable_beside_overlap :
    let first := runOp (enableNetwork backend "a" subnetOnly) emptyHost
    let other : DirectorNetwork := { subnetOnly with ip := "10.0.5.20", netmask := "255.255.255.0" }
    let h₂ : MemoryHost := { first.2 with engine := first.2.engine.addNetwork "netB" (some lowerHalf) }
    let later := runOp (enableNetwork backend "b" other) h₂
    ((other.subnet "b").toOption = (subnetOnly.subnet "a").toOption ∧
      other.cloudProperties = subnetOnly.cloudProperties ∧
      first = (.ok ("10.0.5.0/24", false), first.2) ∧
      ((∃ p, subnetOnly.netProps "a" = .ok p ∧ p.name ≠ "") ∨
        (∃ S, subnetOnly.subnet "a" = .ok S ∧ "10.0.5.0/24" = S.render ∧
          SortedMap.contains first.2.engine.networks "10.0.5.0/24" = true)) ∧
      (∀ k x, SortedMap.get? first.2.engine.networks k = some x →
        SortedMap.get? h₂.engine.networks k = some x) ∧
      h₂.engine.queued .createNetwork = [] ∧
      later = (.ok ("10.0.5.0/24", false), later.2)) ∧
    "10.0.5.0/24" = "10.0.5.0/24" := by
  intro first other h₂ later
  have hsubnet : (other.subnet "b").toOption = (subnetOnly.subnet "a").toOption := by decide
  have hfirst : first = (.ok ("10.0.5.0/24", false), first.2) := Prod.ext (by decide +kernel) rfl
  have hown : (∃ p, subnetOnly.netProps "a" = .ok p ∧ p.name ≠ "") ∨
      (∃ S, subnetOnly.subnet "a" = .ok S ∧ "10.0.5.0/24" = S.render ∧
        SortedMap.contains first.2.engine.networks "10.0.5.0/24" = true) :=
    .inr ⟨⟨.v4 167773440, 24⟩, by decide, by decide, by decide +kernel⟩
  have hadded : ∀ k x, SortedMap.get? first.2.engine.networks k = some x →
      SortedMap.get? h₂.engine.networks k = some x := by
    intro k x hk
    by_cases hB : k = "netB"
    · subst hB
      have hnone : SortedMap.get? first.2.engine.networks "netB" = none := by decide +kernel
      rw [hnone] at hk
      cases hk
    · exact (SortedMap.get?_insert_of_ne _ _ (Ne.symm hB)).trans hk
  have hq : h₂.engine.queued .createNetwork = [] :=
    (enableNetwork_onlyCalls "a" subnetOnly).queued_nil rfl
  have hlater : later = (.ok ("10.0.5.0/24", false), later.2) := Prod.ext (by decide +kernel) rfl
  exact ⟨⟨hsubnet, rfl, hfirst, hown, hadded, hq, hlater⟩,
    enableNetwork_name_stable hsubnet rfl hfirst hown hadded hq hlater⟩

/-- An unnamed network that adopted the overlapping `netB` is enabled as another network
once a network created in between overlaps it first: `10.0.5.128/25` sorts before `netB`. -/
theorem adopted_network_changes :
    let h₀ : MemoryHost := { emptyHost with engine := emptyHost.engine.addNetwork "netB" (some lowerHalf) }
    let upper : DirectorNetwork := { subnetOnly with ip := "10.0.5.130", netmask := "25" }
    let first := runOp (enableNetwork backend "a" subnetOnly) h₀
    let second := runOp (enableNetwork backend "b" upper) first.2
    let third := runOp (enableNetwork backend "a" subnetOnly) second.2
    first.1 = .ok ("netB", false) ∧ second.1 = .ok ("10.0.5.128/25", false) ∧
    (∀ k x, SortedMap.get? first.2.engine.networks k = some x →
      SortedMap.get? second.2.engine.networks k = some x) ∧
    second.2.engine.queued .createNetwork = [] ∧
    third.1 = .ok ("10.0.5.128/25", false) := by
  intro h₀ upper first second third
  exact ⟨by decide +kernel, by decide +kernel, enableNetwork_keeps_networks "b" upper first.2,
    by decide +kernel, by decide +kernel⟩

end Networking

end ContainerCpi
