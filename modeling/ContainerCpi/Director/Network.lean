import ContainerCpi.Director.Error
import ContainerCpi.Json.Decode
import ContainerCpi.Net.Prefix

/-!
# Director networks

The director describes each network a VM joins by an address, a netmask, a gateway and
engine-side cloud properties.  A network without a netmask is *dynamic*: the engine picks
the address.  Otherwise its subnet is the address truncated to the netmask's prefix
length; the netmask is a prefix length in decimal (an optional `+`, leading zeros allowed,
at most 255) or a contiguous mask of the address's family.

Networks are written with empty fields left out, except `preconfigured`.
-/

namespace ContainerCpi

/-- One network as the director describes it. -/
structure DirectorNetwork where
  kind : Option String
  ip : String
  netmask : String
  gateway : String
  dns : List String
  default : List String
  mac : Option String
  preconfigured : Bool
  cloudProperties : List (String × Json)
  deriving Inhabited

/-- The director's networks, keyed by name in sorted order. -/
abbrev Networks := List (String × DirectorNetwork)

/-- Engine-side properties of a network. -/
structure NetProps where
  /-- Engine network name; empty means "derive one". -/
  name : String
  driver : String
  /-- Dynamic networks carry no subnet, so IPv6 intent is explicit here. -/
  enableIpv6 : Bool
  deriving DecidableEq, Repr

namespace NetProps

/-- Properties of a network that states none. -/
def default : NetProps := ⟨"", "bridge", false⟩

/-- Decoding cloud properties: `name` (or `Name`), `driver` (or `Driver`), `enable_ipv6`. -/
def decoder : Decoder NetProps :=
  Decoder.record "NetProps"
    [Decoder.fieldAka "name" ["Name"] Decoder.string,
     Decoder.fieldAka "driver" ["Driver"] Decoder.string,
     Decoder.field "enable_ipv6" Decoder.bool]
    fun f => do
      let name ← f.opt "name" Decoder.string ""
      let driver ← f.opt "driver" Decoder.string "bridge"
      let enableIpv6 ← f.opt "enable_ipv6" Decoder.bool false
      return ⟨name, driver, enableIpv6⟩

/-- The properties as written. -/
def toJson (p : NetProps) : Json :=
  .object [("name", .string p.name), ("driver", .string p.driver), ("enable_ipv6", .bool p.enableIpv6)]

end NetProps

namespace DirectorNetwork

/-- Decoding a network; every field may be absent. -/
def decoder : Decoder DirectorNetwork :=
  Decoder.record "Network"
    [Decoder.field "type" (Decoder.option Decoder.string),
     Decoder.field "ip" Decoder.string,
     Decoder.field "netmask" Decoder.string,
     Decoder.field "gateway" Decoder.string,
     Decoder.field "dns" (Decoder.list Decoder.string),
     Decoder.field "default" (Decoder.list Decoder.string),
     Decoder.field "mac" (Decoder.option Decoder.string),
     Decoder.field "preconfigured" Decoder.bool,
     Decoder.field "cloud_properties" Decoder.objectMap]
    fun f => do
      let kind ← f.opt "type" (Decoder.option Decoder.string) none
      let ip ← f.opt "ip" Decoder.string ""
      let netmask ← f.opt "netmask" Decoder.string ""
      let gateway ← f.opt "gateway" Decoder.string ""
      let dns ← f.opt "dns" (Decoder.list Decoder.string) []
      let default ← f.opt "default" (Decoder.list Decoder.string) []
      let mac ← f.opt "mac" (Decoder.option Decoder.string) none
      let preconfigured ← f.opt "preconfigured" Decoder.bool false
      let cloudProperties ← f.opt "cloud_properties" Decoder.objectMap []
      return ⟨kind, ip, netmask, gateway, dns, default, mac, preconfigured, cloudProperties⟩

/-- The network as written: empty fields left out, `preconfigured` always present. -/
def toJson (n : DirectorNetwork) : Json :=
  let present {α : Type} (key : String) (v : Option α) (f : α → Json) : List (String × Json) :=
    match v with
    | some a => [(key, f a)]
    | none => []
  let text (key v : String) : List (String × Json) := if v.isEmpty then [] else [(key, .string v)]
  let strs (key : String) (v : List String) : List (String × Json) :=
    if v.isEmpty then [] else [(key, Json.strings v)]
  .object <|
    present "type" n.kind .string ++ text "ip" n.ip ++ text "netmask" n.netmask ++
    text "gateway" n.gateway ++ strs "dns" n.dns ++ strs "default" n.default ++
    present "mac" n.mac .string ++ [("preconfigured", .bool n.preconfigured)] ++
    (if n.cloudProperties.isEmpty then [] else [("cloud_properties", .object n.cloudProperties)])

/-- A network without a netmask gets its address from the engine. -/
def isDynamic (n : DirectorNetwork) : Bool := n.netmask.isEmpty

/-- Whether the address is an IPv6 address. -/
def isIpv6 (n : DirectorNetwork) : Bool :=
  match Net.IpAddr.parse? n.ip with
  | some a => a.isV6
  | none => false

/-- The network's address. -/
def address (n : DirectorNetwork) (name : String) : Except SpecError Net.IpAddr :=
  match Net.IpAddr.parse? n.ip with
  | some a => .ok a
  | none =>
    let ip := n.ip
    .error (.invalidNetwork name s!"'{ip}' is not an IP address")

/-- A prefix length written in decimal: an optional `+`, then at least one digit, at most
255. -/
def prefixLength? (s : String) : Option Nat :=
  let digits := match s.toList with
    | '+' :: ds => ds
    | ds => ds
  if digits.isEmpty || !digits.all Char.isDigit then none
  else
    let v := digits.foldl (fun acc c => acc * 10 + (c.toNat - 48)) 0
    if v ≤ 255 then some v else none

/-- The prefix length the netmask gives the address `addr`: a decimal length, or else the
length of a contiguous netmask of the address's family. -/
def maskLength (n : DirectorNetwork) (name : String) (addr : Net.IpAddr) : Except SpecError Nat :=
  let ip := n.ip
  let mask := n.netmask
  let invalid (reason : String) : SpecError := .invalidNetwork name reason
  match prefixLength? mask with
  | some len => pure len
  | none =>
    match Net.IpAddr.parse? mask with
    | none => throw (invalid s!"'{mask}' is not a netmask")
    | some m =>
      if m.isV6 != addr.isV6 then
        throw (invalid s!"address '{ip}' and netmask '{mask}' differ in family")
      else
        match Net.prefixOfMask? m.width m.bits with
        | some len => pure len
        | none => throw (invalid s!"'{mask}' is not contiguous")

/-- The subnet: the address truncated to the netmask's prefix length. -/
def subnet (n : DirectorNetwork) (name : String) : Except SpecError Net.IpNet := do
  let addr ← n.address name
  let len ← n.maskLength name addr
  match Net.IpNet.make? addr len with
  | some net => pure net.trunc
  | none => throw (.invalidNetwork name s!"prefix length {len} out of range")

/-- The engine-side properties from the cloud properties. -/
def netProps (n : DirectorNetwork) (name : String) : Except SpecError NetProps :=
  match Decoder.run NetProps.decoder (.object n.cloudProperties) with
  | .ok p => .ok p
  | .error e => .error (.networkProperties name e)

end DirectorNetwork

namespace Networks

/-- Decoding a map of networks. -/
def decoder : Decoder Networks := Decoder.map DirectorNetwork.decoder

/-- The networks as written. -/
def toJson (ns : Networks) : Json := .object (ns.map fun (k, n) => (k, n.toJson))

end Networks

end ContainerCpi
