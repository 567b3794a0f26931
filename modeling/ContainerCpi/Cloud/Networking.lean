import ContainerCpi.Cloud.Monad
import ContainerCpi.Director.Network
import ContainerCpi.Data.Sorted

/-!
# Director networks on the engine

Every director network becomes an engine network the VM joins:

* a *dynamic* network (no netmask) names its engine network in its cloud properties; the
  network is created, or reused when it exists or is predefined;
* a *manual* network is created for its subnet, named by its cloud properties or else by
  the subnet's text, with IPv6 enabled for IPv6 subnets or when asked, and its gateway.
  When the engine refuses because another network has an overlapping subnet, that
  network is adopted, unless the cloud properties asked for a different name.

Networks are enabled in name order and all marked preconfigured.  Each gives the VM an
endpoint on its engine network: the MAC address when given, and for manual networks the
fixed address.  When every network is IPv6, the VM's init strips IPv4 addresses from its
interfaces.
-/

namespace ContainerCpi

namespace Networking

/-- The init command that flushes global IPv4 addresses from every interface but `lo`. -/
def stripIpv4Script : String :=
  "for i in $(ls /sys/class/net); do if [ \"$i\" != \"lo\" ]; then ip -4 addr flush dev \"$i\" scope global; fi; done"

/-- The init command that does nothing. -/
def noopScript : String := "true"

/-- The words before the existing network's name in an overlap refusal. -/
def conflictLead : List Char := "conflicts with network ".toList

/-- The words after the existing network's bridge in an overlap refusal. -/
def overlapWords : List Char := "): networks have overlapping IPv".toList

/-- Whether the overlap words and an address family start the text. -/
def overlapAt (cs : List Char) : Bool :=
  overlapWords.isPrefixOf cs &&
    match cs.drop overlapWords.length with
    | '4' :: _ | '6' :: _ => true
    | _ => false

/-- Whether at least one character, then the overlap words, follow on the same line. -/
def overlapFollows : List Char → Bool
  | [] => false
  | c :: rest => c != '\n' && (overlapAt rest || overlapFollows rest)

/-- The existing network an overlap refusal names, looking at the first place the refusal's
words fit: the non-blank word after `conflicts with network `, then ` (`, then the rest of
a line ending in `): networks have overlapping IPv4` or `IPv6`. -/
def conflictIn : List Char → Option String
  | [] => none
  | c :: rest =>
    let here :=
      if conflictLead.isPrefixOf (c :: rest) then
        let after := (c :: rest).drop conflictLead.length
        let name := after.takeWhile fun x => !Text.isSpace x
        let more := after.drop name.length
        if !name.isEmpty && more.take 2 == [' ', '('] && overlapFollows (more.drop 2) then
          some (String.ofList name)
        else none
      else none
    match here with
    | some n => some n
    | none => conflictIn rest

/-- The network an engine's overlap refusal names, if the message is one. -/
def subnetConflict? (message : String) : Option String := conflictIn message.toList

end Networking

namespace DirectorNetwork

/-- The endpoint a VM gets on the network: its MAC address when given, and the fixed
address of a manual network. -/
def endpoint (n : DirectorNetwork) (name : String) : Except SpecError EndpointSettings := do
  let mac := n.mac.filter (!·.isEmpty)
  if n.isDynamic then return EndpointSettings.ofAddresses mac none none
  let a ← n.address name
  if a.isV6 then return EndpointSettings.ofAddresses mac none (some a.render)
  return EndpointSettings.ofAddresses mac (some a.render) none

end DirectorNetwork

/-- What enabling networks gives a VM. -/
structure NetworkSetup where
  /-- The command the VM's init runs for its network. -/
  initScript : String
  /-- Endpoints by engine network. -/
  endpoints : List (String × EndpointSettings)
  deriving Inhabited

namespace Networking

variable {m : Type → Type} [Monad m] (b : Backend m)

/-- Create or reuse the engine network of a dynamic network: its name and whether it
has IPv6. -/
def enableDynamic (name : String) (n : DirectorNetwork) : CloudM m (String × Bool) := do
  let props ← liftSpec (n.netProps name)
  if props.name.isEmpty then
    throw (.validation s!"Expected dynamic network '{name}' to specify 'name'")
  let request : NetworkRequest := ⟨props.name, props.driver, props.enableIpv6, none, none⟩
  match ← b.ask (.createNetwork request) with
  | .ok () => pure ()
  | .error e =>
    if e.isAlreadyExists || e.isPredefinedNetwork then pure ()
    else throw (.engine .enableNetworks e)
  pure (props.name, props.enableIpv6)

/-- Create, reuse or adopt the engine network of a manual network: its name and whether it
is IPv6. -/
def enableManual (name : String) (n : DirectorNetwork) : CloudM m (String × Bool) := do
  let props ← liftSpec (n.netProps name)
  let subnet ← liftSpec (n.subnet name)
  let ipv6 := subnet.addr.isV6
  let engineName := if props.name.isEmpty then subnet.render else props.name
  let gateway := if n.gateway.isEmpty then none else some n.gateway
  let request : NetworkRequest := ⟨engineName, props.driver, ipv6 || props.enableIpv6, some subnet, gateway⟩
  match ← b.ask (.createNetwork request) with
  | .ok () => pure (engineName, ipv6)
  | .error e =>
    if e.isAlreadyExists then pure (engineName, ipv6)
    else
      match subnetConflict? e.message with
      | none => throw (.engine .enableNetworks e)
      | some existing =>
        if !props.name.isEmpty && props.name != existing then
          throw (.networkConflict props.name existing subnet.render)
        else pure (existing, ipv6)

/-- Create, reuse or adopt the engine network of a director network: its name and whether it
is IPv6. -/
def enableNetwork (name : String) (n : DirectorNetwork) : CloudM m (String × Bool) :=
  if n.isDynamic then enableDynamic b name n else enableManual b name n

/-- Enable networks in order, collecting endpoints and whether all are IPv6. -/
def enableAll : Networks → NetworkSetup → Bool → CloudM m (NetworkSetup × Bool × Networks)
  | [], setup, ipv6Only => pure (setup, ipv6Only, [])
  | (name, n) :: rest, setup, ipv6Only => do
    let n := { n with preconfigured := true }
    let (engineName, ipv6) ← enableNetwork b name n
    let endpoint ← liftSpec (n.endpoint name)
    let setup := { setup with endpoints := SortedMap.insert engineName endpoint setup.endpoints }
    let (setup, ipv6Only, rest) ← enableAll rest setup (ipv6Only && ipv6)
    pure (setup, ipv6Only, (name, n) :: rest)

/-- Enable a VM's networks: the setup and the networks marked preconfigured. -/
def enable (networks : Networks) : CloudM m (NetworkSetup × Networks) := do
  if networks.isEmpty then throw (.validation "Expected at least one network; received zero")
  let (setup, ipv6Only, networks) ← enableAll b networks ⟨"", []⟩ true
  pure ({ setup with initScript := if ipv6Only then stripIpv4Script else noopScript }, networks)

end Networking

end ContainerCpi
