/-!
# IP addresses

IPv4 and IPv6 addresses as numbers of 32 and 128 bits, read and written in their standard
text forms.

Reading is strict: an IPv4 address is four decimal octets of one to three digits each, none
above 255 and none with a leading zero; an IPv6 address is up to eight groups of one to
four hex digits with at most one `::` standing for one or more zero groups, and its last two
groups may be written as an IPv4 address.  Nothing may surround the address (no blanks, no
brackets, no zone).

Writing an IPv6 address compresses the longest run of two or more zero groups (the first
of equally long runs) to `::`, writes groups in lower-case hex without leading zeros, and
writes an IPv4-mapped address (`::ffff:a.b.c.d`) with its IPv4 part dotted.
-/

namespace ContainerCpi.Net

/-- An IP address. -/
inductive IpAddr where
  /-- An IPv4 address as a 32-bit number. -/
  | v4 (bits : Nat)
  /-- An IPv6 address as a 128-bit number. -/
  | v6 (bits : Nat)
  deriving DecidableEq, Repr

namespace IpAddr

/-- Number of bits of the address family. -/
def width : IpAddr → Nat
  | .v4 _ => 32
  | .v6 _ => 128

/-- The address as a number. -/
def bits : IpAddr → Nat
  | .v4 b => b
  | .v6 b => b

/-- Whether the address is IPv6. -/
def isV6 : IpAddr → Bool
  | .v4 _ => false
  | .v6 _ => true

/-- An address of the same family with other bits. -/
def withBits (a : IpAddr) (b : Nat) : IpAddr :=
  match a with
  | .v4 _ => .v4 b
  | .v6 _ => .v6 b

end IpAddr

/-! ## Reading -/

namespace Parse

/-- The value of a digit in base 10, or in base 16 with letters of either case. -/
def digitValue? (radix : Nat) (c : Char) : Option Nat :=
  if c.isDigit then some (c.toNat - 48)
  else if radix = 16 ∧ 'a' ≤ c ∧ c ≤ 'f' then some (c.toNat - 87)
  else if radix = 16 ∧ 'A' ≤ c ∧ c ≤ 'F' then some (c.toNat - 55)
  else none

/-- Read a decimal number of at most `maxDigits` digits; more than one digit may not start
with zero unless `zeroPrefix`.  Returns the value and the rest. -/
def number (radix maxDigits : Nat) (zeroPrefix : Bool) (cs : List Char) : Option (Nat × List Char) :=
  let rec go : List Char → Nat → Nat → Option (Nat × Nat × List Char)
    | [], n, v => some (n, v, [])
    | c :: r, n, v =>
      match digitValue? radix c with
      | some d => if n + 1 > maxDigits then none else go r (n + 1) (v * radix + d)
      | none => some (n, v, c :: r)
  match go cs 0 0 with
  | none => none
  | some (0, _, _) => none
  | some (n, v, rest) =>
    if !zeroPrefix && cs.head? == some '0' && n > 1 then none else some (v, rest)

/-- Read a dotted IPv4 address. -/
def ipv4 (cs : List Char) : Option (Nat × List Char) := do
  let (a, r) ← number 10 3 false cs
  let r ← match r with | '.' :: r => some r | _ => none
  let (b, r) ← number 10 3 false r
  let r ← match r with | '.' :: r => some r | _ => none
  let (c, r) ← number 10 3 false r
  let r ← match r with | '.' :: r => some r | _ => none
  let (d, r) ← number 10 3 false r
  if a < 256 ∧ b < 256 ∧ c < 256 ∧ d < 256 then
    some (((a * 256 + b) * 256 + c) * 256 + d, r)
  else none

/-- Read up to `limit` colon-separated groups (the first without a leading colon); the last
two groups may be an IPv4 address.  Returns the groups, whether an IPv4 part ended them,
and the rest. -/
def groups (limit : Nat) : Nat → List Char → List Nat → List Nat × Bool × List Char
  | 0, cs, acc => (acc.reverse, false, cs)
  | fuel + 1, cs, acc =>
    let i := acc.length
    if i ≥ limit then (acc.reverse, false, cs)
    else
      let afterSep : Option (List Char) :=
        if i = 0 then some cs else match cs with | ':' :: r => some r | _ => none
      match afterSep with
      | none => (acc.reverse, false, cs)
      | some r =>
        let v4 := if i + 1 < limit then ipv4 r else none
        match v4 with
        | some (v, rest) => ((v % 65536 :: v / 65536 :: acc).reverse, true, rest)
        | none =>
          match number 16 4 true r with
          | some (g, rest) => groups limit fuel rest (g :: acc)
          | none => (acc.reverse, false, cs)

/-- The number whose 16-bit groups are `gs`, most significant first. -/
def ofGroups (gs : List Nat) : Nat := gs.foldl (fun acc g => acc * 65536 + g) 0

/-- Read an IPv6 address. -/
def ipv6 (cs : List Char) : Option (Nat × List Char) :=
  let (head, headV4, r) := groups 8 9 cs []
  if head.length = 8 then some (ofGroups head, r)
  else if headV4 then none
  else
    match r with
    | ':' :: ':' :: r =>
      let (tail, _, r) := groups (8 - (head.length + 1)) 9 r []
      let zeros := List.replicate (8 - head.length - tail.length) 0
      some (ofGroups (head ++ zeros ++ tail), r)
    | _ => none

end Parse

/-- Read an address: IPv4 if the whole text is one, else IPv6. -/
def IpAddr.parse? (s : String) : Option IpAddr :=
  let cs := s.toList
  match Parse.ipv4 cs with
  | some (v, []) => some (.v4 v)
  | _ =>
    match Parse.ipv6 cs with
    | some (v, []) => some (.v6 v)
    | _ => none

/-! ## Writing -/

namespace Render

/-- Dotted text of a 32-bit number. -/
def ipv4 (b : Nat) : String :=
  let a := b / Nat.pow 2 24 % 256
  let c := b / Nat.pow 2 16 % 256
  let d := b / Nat.pow 2 8 % 256
  let e := b % 256
  s!"{a}.{c}.{d}.{e}"

/-- Lower-case hex without leading zeros. -/
def hex (n : Nat) : String := String.ofList (Nat.toDigits 16 n)

/-- The eight 16-bit groups of a 128-bit number. -/
def groupsOf (b : Nat) : List Nat :=
  (List.range 8).map fun i => b / Nat.pow 2 (16 * (7 - i)) % 65536

/-- One group of the search for zero runs: the best run so far, the current run and the
index of the group, each run as its start and length. -/
def zeroRunStep (st : (Nat × Nat) × (Nat × Nat) × Nat) (g : Nat) :
    (Nat × Nat) × (Nat × Nat) × Nat :=
  let ((bs, bl), (cs, cl), i) := st
  if g = 0 then
    let cur := if cl = 0 then (i, 1) else (cs, cl + 1)
    let best := if cur.2 > bl then cur else (bs, bl)
    (best, cur, i + 1)
  else ((bs, bl), (0, 0), i + 1)

/-- Start and length of the longest run of zero groups (the first of equal runs). -/
def longestZeroRun (gs : List Nat) : Nat × Nat :=
  (gs.foldl zeroRunStep ((0, 0), (0, 0), 0)).1

/-- Colon-separated hex groups. -/
def joinGroups (gs : List Nat) : String := ":".intercalate (gs.map hex)

/-- Text of a 128-bit number. -/
def ipv6 (b : Nat) : String :=
  if b / Nat.pow 2 32 = 0xffff then "::ffff:" ++ ipv4 (b % Nat.pow 2 32)
  else
    let gs := groupsOf b
    let (start, len) := longestZeroRun gs
    if len > 1 then joinGroups (gs.take start) ++ "::" ++ joinGroups (gs.drop (start + len))
    else joinGroups gs

end Render

/-- Standard text of an address. -/
def IpAddr.render : IpAddr → String
  | .v4 b => Render.ipv4 b
  | .v6 b => Render.ipv6 b

end ContainerCpi.Net
