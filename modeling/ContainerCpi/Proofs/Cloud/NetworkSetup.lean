import ContainerCpi.Proofs.Cloud.Networks
import ContainerCpi.Proofs.Data.SortedMaps
import ContainerCpi.Proofs.Net.Prefixes

/-!
# What enabling a VM's networks gives

Enabling marks every director network preconfigured and gives each, in name order, an endpoint
on the engine network it joined: its MAC address when that is not empty, no fixed address on a
dynamic network, and on a manual network its address, written canonically, in the field of its
family.  A network whose cloud properties name an engine network joins that one.

The endpoints are kept by engine network.  Networks that join the same engine network share
one entry, the endpoint of the last of them; only when no two join the same engine network is
there one entry per network.  The VM strips its IPv4 addresses exactly when every network is
IPv6: a manual network by its address, a dynamic one when its properties enable IPv6.
-/

namespace ContainerCpi

open MemoryHost

namespace EndpointSettings

variable {mac v4 v6 : Option String}

@[simp] theorem ipv4Address?_ofAddresses : (ofAddresses mac v4 v6).ipv4Address? = v4 := by
  cases mac <;> cases v4 <;> cases v6 <;> rfl

@[simp] theorem ipv6Address?_ofAddresses : (ofAddresses mac v4 v6).ipv6Address? = v6 := by
  cases mac <;> cases v4 <;> cases v6 <;> rfl

@[simp] theorem macAddress?_ofAddresses : (ofAddresses mac v4 v6).macAddress? = mac := by
  cases mac <;> cases v4 <;> cases v6 <;> rfl

theorem ipamConfig_not_mem_ofAddresses :
    "IPAMConfig" ∉ (ofAddresses mac none none).fields.map (·.1) := by
  cases mac <;> simp [ofAddresses]

end EndpointSettings

namespace Net

theorem IpNet.isV6_trunc_of_make? {a : IpAddr} {len : Nat} {net : IpNet}
    (h : IpNet.make? a len = some net) : net.trunc.addr.isV6 = a.isV6 := by
  unfold IpNet.make? at h
  split at h
  · cases h
    exact IpAddr.isV6_withBits _ _
  · cases h

end Net

namespace DirectorNetwork
variable {n : DirectorNetwork} {name : String}

theorem subnet_isV6 {S : Net.IpNet} (h : n.subnet name = .ok S) : S.addr.isV6 = n.isIpv6 := by
  unfold subnet address at h
  unfold isIpv6
  split at h
  · simp only [bind, Except.bind, pure, Except.pure] at h
    -- every way to a prefix length ends in truncating a prefix of the address
    repeat' split at h
    all_goals cases h
    all_goals exact Net.IpNet.isV6_trunc_of_make? ‹_›
  · cases h

/-- The endpoint a network asks for: its MAC address when that is not empty; no fixed address
on a dynamic network; on a manual network its address, written canonically, in the field of
its family and not in the other. -/
structure EndpointFor (n : DirectorNetwork) (e : EndpointSettings) : Prop where
  mac : e.macAddress? = n.mac.filter (!·.isEmpty)
  dynamic : n.isDynamic = true → "IPAMConfig" ∉ e.fields.map (·.1)
  manual : n.isDynamic = false → ∃ a, Net.IpAddr.parse? n.ip = some a ∧
    e.ipv4Address? = (if a.isV6 then none else some a.render) ∧
    e.ipv6Address? = (if a.isV6 then some a.render else none)

theorem endpoint_for {e : EndpointSettings} (h : n.endpoint name = .ok e) : EndpointFor n e := by
  unfold endpoint at h
  by_cases hdyn : n.isDynamic = true
  · rw [if_pos hdyn] at h
    cases h
    exact ⟨by simp, fun _ => EndpointSettings.ipamConfig_not_mem_ofAddresses,
      fun h => by simp [hdyn] at h⟩
  · rw [if_neg hdyn] at h
    unfold address at h
    -- a manual network's endpoint needs its address
    rcases ha : Net.IpAddr.parse? n.ip with _ | a
    · simp only [ha] at h
      cases h
    simp only [ha, bind, Except.bind] at h
    -- the address goes in the field of its family
    split at h <;> rename_i hv6 <;> cases h <;>
      exact ⟨by simp, fun hd => absurd hd hdyn, fun _ => ⟨a, ha, by simp [hv6], by simp [hv6]⟩⟩

/-- Whether a network is IPv6: a manual network by its address, a dynamic one when its cloud
properties enable IPv6. -/
def onIpv6 (n : DirectorNetwork) (name : String) : Bool :=
  if n.isDynamic then (n.netProps name).toOption.any (·.enableIpv6) else n.isIpv6

end DirectorNetwork

namespace Networking

variable {h h' : MemoryHost} {name N : String} {n : DirectorNetwork} {v : Bool}

theorem runOp_liftSpec_eq_ok {α : Type} {r : Except SpecError α} {a : α}
    (hrun : runOp (liftSpec r) h = (.ok a, h')) : r = .ok a ∧ h' = h := by
  rw [runOp_liftSpec] at hrun
  cases r with
  | error e => cases hrun
  | ok b =>
    cases hrun
    exact ⟨rfl, rfl⟩

theorem enableNetwork_ipv6 (hrun : runOp (enableNetwork backend name n) h = (.ok (N, v), h')) :
    v = n.onIpv6 name := by
  unfold enableNetwork at hrun
  unfold DirectorNetwork.onIpv6
  split at hrun
  · rename_i hdyn
    obtain ⟨p, hp, -, -, hv, -⟩ := enableDynamic_eq_ok hrun
    rw [if_pos hdyn, hp, hv]
    rfl
  · rename_i hman
    obtain ⟨p, S, -, hS, hv, -⟩ := enableManual_eq_ok hrun
    rw [if_neg hman, hv, DirectorNetwork.subnet_isV6 hS]

/-- Network `q` joined engine network `j.1` with endpoint `j.2`: the endpoint it asks for, on
the network its cloud properties name, when they name one. -/
structure Joined (q : String × DirectorNetwork) (j : String × EndpointSettings) : Prop where
  endpoint : q.2.EndpointFor j.2
  named : ∀ p, q.2.netProps q.1 = .ok p → p.name ≠ "" → j.1 = p.name

/-- Enabling networks in order marks each preconfigured, adds one endpoint per network, in
order, to the endpoints so far, and keeps whether all networks so far are IPv6. -/
theorem enableAll_eq_ok {rest : Networks} {setup : NetworkSetup} {b : Bool}
    {out : NetworkSetup × Bool × Networks}
    (hrun : runOp (enableAll backend rest setup b) h = (.ok out, h')) :
    out.2.2 = rest.map (fun q => (q.1, { q.2 with preconfigured := true })) ∧
    out.2.1 = (b && rest.all fun q => q.2.onIpv6 q.1) ∧
    ∃ js, List.Forall₂ Joined rest js ∧
      out.1.endpoints = js.foldl (fun acc j => SortedMap.insert j.1 j.2 acc) setup.endpoints := by
  induction rest generalizing setup b h out with
  | nil =>
    unfold enableAll at hrun
    rw [runOp_pure] at hrun
    cases hrun
    exact ⟨rfl, by simp, [], .nil, rfl⟩
  | cons q rest ih =>
    obtain ⟨name, n⟩ := q
    unfold enableAll at hrun
    obtain ⟨⟨N, v⟩, h₁, hstep, hrun₁⟩ := runOp_bind_eq_ok hrun
    obtain ⟨ep, h₂, hlift, hrun₂⟩ := runOp_bind_eq_ok hrun₁
    obtain ⟨hep, rfl⟩ := runOp_liftSpec_eq_ok hlift
    obtain ⟨out', h₃, hrest, hfin⟩ := runOp_bind_eq_ok hrun₂
    rw [runOp_pure] at hfin
    cases hfin
    obtain ⟨hmarked, hipv6, js, hjs, hends⟩ := ih hrest
    -- the marked network asks for what the network asks for
    have hjoined : Joined (name, n) (N, ep) :=
      ⟨DirectorNetwork.endpoint_for hep, fun p hp hnamed => enableNetwork_named hp hnamed hstep⟩
    refine ⟨by rw [hmarked]; rfl, ?_, (N, ep) :: js, .cons hjoined hjs, hends⟩
    rw [hipv6, enableNetwork_ipv6 hstep, List.all_cons, Bool.and_assoc]
    rfl

/-- What enabling a VM's networks gives, when it succeeds: every network marked preconfigured;
one endpoint per network, in order, each the endpoint the network asks for, on the engine
network its cloud properties name when they name one; the endpoints kept by engine network, so
that the entry of an engine network is the endpoint of the last network that joined it, and
there is one entry per network when no two join the same engine network; and the IPv4
addresses stripped exactly when every network is IPv6. -/
theorem enable_result_shape {networks marked : Networks} {setup : NetworkSetup}
    (hrun : runOp (enable backend networks) h = (.ok (setup, marked), h')) :
    marked = networks.map (fun q => (q.1, { q.2 with preconfigured := true })) ∧
    ∃ js : List (String × EndpointSettings), List.Forall₂ Joined networks js ∧
      setup.endpoints = SortedMap.ofList js ∧
      (∀ k, SortedMap.get? setup.endpoints k = (js.reverse.find? (·.1 == k)).map (·.2)) ∧
      ((js.map (·.1)).Nodup → setup.endpoints.Perm js) ∧
      setup.initScript =
        if networks.all (fun q => q.2.onIpv6 q.1) then stripIpv4Script else noopScript := by
  unfold enable at hrun
  split at hrun
  · cases hrun
  · obtain ⟨⟨out, ipv6Only, enabled⟩, h₁, hall, hfin⟩ := runOp_bind_eq_ok hrun
    rw [runOp_pure] at hfin
    cases hfin
    -- enabling starts from no endpoints, with every network so far IPv6
    obtain ⟨hmarked, hipv6, js, hjs, hends⟩ := enableAll_eq_ok hall
    have hof : out.endpoints = SortedMap.ofList js := hends
    refine ⟨hmarked, js, hjs, hof, fun k => ?_, fun hnames => ?_, ?_⟩
    · rw [hof, SortedMap.get?_ofList]
    · rw [hof]
      exact SortedMap.perm_ofList hnames
    · rw [show ipv6Only = _ from hipv6, Bool.true_and]

theorem enable_endpoints_ascending {networks marked : Networks} {setup : NetworkSetup}
    (hrun : runOp (enable backend networks) h = (.ok (setup, marked), h')) :
    SortedMap.Ascending setup.endpoints := by
  unfold enable at hrun
  split at hrun
  · cases hrun
  · obtain ⟨⟨out, ipv6Only, enabled⟩, h₁, hall, hfin⟩ := runOp_bind_eq_ok hrun
    rw [runOp_pure] at hfin
    cases hfin
    -- enabling inserts every endpoint into an empty map
    obtain ⟨-, -, js, -, hends⟩ := enableAll_eq_ok hall
    rw [show out.endpoints = SortedMap.ofList js from hends]
    exact SortedMap.ascending_ofList js

/-- A manual IPv6 network with a MAC address. -/
def ipv6Manual : DirectorNetwork :=
  { kind := none, ip := "fd00::5", netmask := "64", gateway := "", dns := [], default := [],
    mac := some "02:00:00:00:00:01", preconfigured := false, cloudProperties := [] }

/-- A dynamic network on `net6`, asking for IPv6. -/
def ipv6Dynamic : DirectorNetwork :=
  { kind := some "dynamic", ip := "", netmask := "", gateway := "", dns := [], default := [],
    mac := none, preconfigured := false,
    cloudProperties := [("name", .string "net6"), ("enable_ipv6", .bool true)] }

/-- A manual and a dynamic IPv6 network join the subnet's network and `net6`, and the VM strips
its IPv4 addresses. -/
theorem enable_result_shape_ipv6_only :
    ∃ setup marked h', runOp (enable backend [("a", ipv6Manual), ("b", ipv6Dynamic)]) emptyHost =
        (.ok (setup, marked), h') ∧
      setup.endpoints.map (·.1) = ["fd00::/64", "net6"] ∧ setup.initScript = stripIpv4Script ∧
      (marked = [("a", ipv6Manual), ("b", ipv6Dynamic)].map
          (fun q => (q.1, { q.2 with preconfigured := true })) ∧
        ∃ js : List (String × EndpointSettings),
          List.Forall₂ Joined [("a", ipv6Manual), ("b", ipv6Dynamic)] js ∧
          setup.endpoints = SortedMap.ofList js ∧
          (∀ k, SortedMap.get? setup.endpoints k = (js.reverse.find? (·.1 == k)).map (·.2)) ∧
          ((js.map (·.1)).Nodup → setup.endpoints.Perm js) ∧
          setup.initScript = if [("a", ipv6Manual), ("b", ipv6Dynamic)].all
            (fun q => q.2.onIpv6 q.1) then stripIpv4Script else noopScript) := by
  have hseen : ((runOp (enable backend [("a", ipv6Manual), ("b", ipv6Dynamic)])
      emptyHost).1.toOption.map fun o => (o.1.endpoints.map (·.1), o.1.initScript)) =
        some (["fd00::/64", "net6"], stripIpv4Script) := by
    decide +kernel
  generalize hrun : runOp (enable backend [("a", ipv6Manual), ("b", ipv6Dynamic)]) emptyHost = R
    at hseen ⊢
  obtain ⟨_ | ⟨setup, marked⟩, h'⟩ := R
  · cases hseen
  · obtain ⟨hkeys, hscript⟩ := Prod.mk.inj (Option.some.inj hseen)
    exact ⟨setup, marked, h', rfl, hkeys, hscript, enable_result_shape hrun⟩

/-- A dynamic network on `net1`, with the given MAC address. -/
def onNet1 (mac : Option String) : DirectorNetwork :=
  { kind := some "dynamic", ip := "", netmask := "", gateway := "", dns := [], default := [],
    mac := mac, preconfigured := false, cloudProperties := [("name", .string "net1")] }

/-- Two networks on the same engine network give one endpoint, the second's: the first
network's MAC address is lost. -/
theorem shared_network_keeps_one_endpoint :
    ((runOp (enable backend [("a", onNet1 (some "02:00:00:00:00:01")), ("b", onNet1 none)])
        emptyHost).1.toOption.map fun o => o.1.endpoints.map fun q => (q.1, q.2.macAddress?)) =
      some [("net1", none)] := by
  decide

end Networking

end ContainerCpi
