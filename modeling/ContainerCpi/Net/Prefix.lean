import ContainerCpi.Net.Address

/-!
# Network prefixes

A prefix is an address with a prefix length no larger than its family's width
(`IpNet`).  A netmask is contiguous when its set bits form one run from the top; its prefix
length is then the length of that run (`prefixOfMask?`).  Truncation clears the host bits,
and one prefix contains an address when they share the prefix's leading bits.
-/

namespace ContainerCpi.Net

/-- An address with a prefix length. -/
structure IpNet where
  addr : IpAddr
  prefixLen : Nat
  deriving DecidableEq, Repr

namespace IpNet

/-- The prefix, if the length fits the family. -/
def make? (addr : IpAddr) (len : Nat) : Option IpNet :=
  if len ≤ addr.width then some ⟨addr, len⟩ else none

/-- The mask of a prefix length in a family of `width` bits. -/
def maskBits (width len : Nat) : Nat := (Nat.pow 2 len - 1) * Nat.pow 2 (width - len)

/-- The network address: host bits cleared. -/
def network (n : IpNet) : IpAddr :=
  let w := n.addr.width
  n.addr.withBits (n.addr.bits / Nat.pow 2 (w - n.prefixLen) * Nat.pow 2 (w - n.prefixLen))

/-- The same prefix with host bits cleared. -/
def trunc (n : IpNet) : IpNet := ⟨n.network, n.prefixLen⟩

/-- Whether `a` falls in the prefix (never across families). -/
def contains (n : IpNet) (a : IpAddr) : Bool :=
  n.addr.isV6 == a.isV6 &&
    let w := n.addr.width
    a.bits / Nat.pow 2 (w - n.prefixLen) == n.addr.bits / Nat.pow 2 (w - n.prefixLen)

/-- `address/length`. -/
def render (n : IpNet) : String :=
  let len := n.prefixLen
  n.addr.render ++ "/" ++ s!"{len}"

/-- Read `address/length`, the length in decimal without sign. -/
def parse? (s : String) : Option IpNet :=
  match s.splitOn "/" with
  | [a, l] =>
    match IpAddr.parse? a, Parse.number 10 3 true l.toList with
    | some addr, some (len, []) => make? addr len
    | _, _ => none
  | _ => none

end IpNet

/-- The prefix length of a contiguous netmask of `width` bits. -/
def prefixOfMask? (width mask : Nat) : Option Nat :=
  let len := (List.range (width + 1)).reverse.find? fun l =>
    mask / Nat.pow 2 (width - l) == Nat.pow 2 l - 1
  match len with
  | some l => if mask % Nat.pow 2 (width - l) == 0 then some l else none
  | none => none

end ContainerCpi.Net
