import ContainerCpi.Net.Address
import ContainerCpi.Text.Utf8

/-!
# Hosts and ports of web addresses

An HTTP client names its endpoint by a web address `scheme://authority/path`, which it reads
by the rules of the URL standard for the special schemes (`http`, `https`).  Only the
authority matters for reaching an endpoint, and reading it can fail:

* Tabs and line breaks anywhere are ignored, and any run of `/` and `\` after the scheme
  starts the authority.
* Credentials end at the last `@` before the first `/`, `\`, `?` or `#`; a bare `@` right
  before one of those leaves the host empty.
* The host runs to the first `:` outside brackets or the first `/`, `\`, `?`, `#`, and may
  not be empty.  A host in brackets is an IPv6 address (`ipv6`).  Any other host is
  percent-decoded and must be UTF-8 text; a domain name may not hold controls, blanks or any
  of `% # / : < > ? @ [ \ ] ^ |`, and is written in lower case (`domainName`).  A name
  whose last label (before a final dot) reads as a number is an IPv4 address (`ipv4`).
* A port after `:` is decimal digits up to 65535, followed by nothing or a `/`, `\`, `?` or
  `#`; no digits means no port.

IPv4 hosts are lenient: one to four numbers separated by dots, each decimal, octal after a
leading `0` or hexadecimal after `0x`; the last number fills the bytes the others leave.
-/

namespace ContainerCpi.Net

/-- Why a web address cannot be read. -/
inductive UrlError where
  | emptyHost
  | domainName
  | domainCharacter
  | invalidPort
  | invalidIpv4
  | invalidIpv6
  deriving DecidableEq, Repr

/-- The wording of each failure. -/
def UrlError.message : UrlError → String
  | .emptyHost => "empty host"
  | .domainName => "invalid international domain name"
  | .domainCharacter => "invalid domain character"
  | .invalidPort => "invalid port number"
  | .invalidIpv4 => "invalid IPv4 address"
  | .invalidIpv6 => "invalid IPv6 address"

/-- The host of a web address: a domain name in lower case, or an IP address. -/
inductive UrlHost where
  | domain (name : String)
  | ip (addr : IpAddr)
  deriving DecidableEq, Repr

namespace Url

/-- The value of a digit in a radix of at most 16. -/
def digitIn (radix : Nat) (c : Char) : Option Nat :=
  let d := if c.isDigit then c.toNat - 48
    else if 'a' ≤ c ∧ c ≤ 'f' then c.toNat - 87
    else if 'A' ≤ c ∧ c ≤ 'F' then c.toNat - 55
    else 16
  if d < radix then some d else none

/-- The value of digits in a radix, all of which are digits of it. -/
def valueIn (radix : Nat) (digits : List Char) : Nat :=
  digits.foldl (fun acc c => acc * radix + (digitIn radix c).getD 0) 0

/-! ## IPv4 hosts -/

/-- A number of an IPv4 host: decimal, octal after a leading `0`, or hexadecimal after `0x`
or `0X` (nothing after the prefix is zero).  `some none` is a number of 2^32 or more, and
`none` no number at all. -/
def ipv4Number (s : List Char) : Option (Option Nat) :=
  if s.isEmpty then none
  else
    let (radix, digits) := match s with
      | '0' :: 'x' :: ds => (16, ds)
      | '0' :: 'X' :: ds => (16, ds)
      | '0' :: d :: ds => (8, d :: ds)
      | ds => (10, ds)
    if digits.all fun c => (digitIn radix c).isSome then
      let n := valueIn radix digits
      some (if n < Nat.pow 2 32 then some n else none)
    else none

/-- Whether a host reads as an IPv4 address: its last label, or the one before a final dot,
is decimal digits or an IPv4 number. -/
def endsInNumber (host : String) : Bool :=
  let last := match (host.splitOn ".").reverse with
    | "" :: label :: _ => some label
    | [""] => none
    | label :: _ => some label
    | [] => none
  match last with
  | none => false
  | some label => (!label.isEmpty && label.all Char.isDigit) || (ipv4Number label.toList).isSome

/-- Read an IPv4 host: at most four numbers (a final empty label dropped), the last filling
the bytes the others leave and the others below 256. -/
def ipv4 (host : String) : Except UrlError Nat := do
  let labels := host.splitOn "."
  let labels := if labels.getLast? == some "" then labels.dropLast else labels
  if labels.length > 4 then throw .invalidIpv4
  let numbers ← labels.mapM fun label =>
    match ipv4Number label.toList with
    | some (some n) => pure n
    | _ => throw .invalidIpv4
  match numbers.reverse with
  | [] => throw .invalidIpv4
  | last :: earlier =>
    let front := earlier.reverse
    if last ≥ Nat.pow 256 (4 - front.length) then throw .invalidIpv4
    if front.any (· > 255) then throw .invalidIpv4
    return front.zipIdx.foldl (fun acc (n, i) => acc + n * Nat.pow 256 (3 - i)) last

/-! ## IPv6 hosts -/

/-- The embedded IPv4 part of an IPv6 host: four decimal numbers below 256 without leading
zeros, separated by dots, as two groups. -/
def dottedGroups (cs : List Char) : Option (List Nat) :=
  let parts := cs.splitOn '.'
  let number (p : List Char) : Option Nat :=
    if p.isEmpty || !p.all Char.isDigit || (p.length > 1 && p.head? == some '0') then none
    else
      let v := valueIn 10 p
      if v > 255 then none else some v
  match parts.mapM number with
  | some [a, b, c, d] => some [a * 256 + b, c * 256 + d]
  | _ => none

/-- Read the groups of an IPv6 host after its start, at most `fuel` steps: the groups so
far (a `::` takes a slot of its own, holding zero) and the slot count where `::` stood.
Each group is one to four hex digits followed by a `:` that is not last, or by the end; the
last two groups may be an embedded IPv4 part. -/
def groups : Nat → List Nat → Option Nat → List Char → Option (List Nat × Option Nat)
  | _, pieces, compress, [] => some (pieces, compress)
  | 0, _, _, _ :: _ => none
  | fuel + 1, pieces, compress, c :: rest =>
    if pieces.length == 8 then none
    else if c == ':' then
      if compress.isSome then none
      else groups fuel (pieces ++ [0]) (some (pieces.length + 1)) rest
    else
      let digits := ((c :: rest).take 4).takeWhile fun d => (digitIn 16 d).isSome
      let value := valueIn 16 digits
      match (c :: rest).drop digits.length with
      | [] => some (pieces ++ [value], compress)
      | '.' :: _ =>
        if digits.isEmpty || pieces.length > 6 then none
        else (dottedGroups (c :: rest)).map fun gs => (pieces ++ gs, compress)
      | ':' :: more =>
        if more.isEmpty then none else groups fuel (pieces ++ [value]) compress more
      | _ => none

/-- Read an IPv6 host without its brackets, as a 128-bit number: eight groups, or fewer
with a `::` standing for the missing ones. -/
def ipv6 (cs : List Char) : Except UrlError Nat :=
  let start := match cs with
    | ':' :: ':' :: rest => some ([0], some 1, rest)
    | ':' :: _ => none
    | _ => some ([], none, cs)
  let read := if cs.length < 2 then none
    else start.bind fun (pieces, compress, rest) => groups (rest.length + 1) pieces compress rest
  match read with
  | some (pieces, none) =>
    if pieces.length == 8 then .ok (Parse.ofGroups pieces) else .error .invalidIpv6
  | some (pieces, some slot) =>
    .ok (Parse.ofGroups
      (pieces.take slot ++ List.replicate (8 - pieces.length) 0 ++ pieces.drop slot))
  | none => .error .invalidIpv6

/-! ## Domain names -/

/-- Decode `%XX` escapes (hex digits in either case); a `%` without two hex digits after it
stays as it is. -/
def percentDecode : List UInt8 → List UInt8
  | 37 :: h :: l :: rest =>
    match digitIn 16 (Char.ofNat h.toNat), digitIn 16 (Char.ofNat l.toNat) with
    | some a, some b => (a * 16 + b).toUInt8 :: percentDecode rest
    | _, _ => 37 :: percentDecode (h :: l :: rest)
  | b :: rest => b :: percentDecode rest
  | [] => []

/-- A character of a domain name as it is written: full-width forms as their ASCII letters,
the ideographic full stops as `.`, ASCII letters in lower case; none for a control
character beyond ASCII or the replacement character. -/
def mapDomainChar (c : Char) : Option Char :=
  let n := c.toNat
  if 0xFF01 ≤ n ∧ n ≤ 0xFF5E then some (Char.ofNat (n - 0xFEE0)).toLower
  else if n == 0x3002 || n == 0xFF61 then some '.'
  else if (0x80 ≤ n ∧ n ≤ 0x9F) || n == 0xFFFD then none
  else some c.toLower

/-- Whether a character may not stand in a domain name: controls, the blank, delete and
`% # / : < > ? @ [ \ ] ^ |`. -/
def deniedInDomain (c : Char) : Bool :=
  c.toNat ≤ 0x20 || c.toNat == 0x7F || "%#/:<>?@[\\]^|".toList.contains c

/-- The domain name a host stands for: percent-decoded, UTF-8, each character mapped, and
none denied. -/
def domainName (host : String) : Except UrlError String :=
  match Utf8.strict? (percentDecode (Utf8.encode host)) with
  | none => .error .domainName
  | some text =>
    match text.toList.mapM mapDomainChar with
    | none => .error .domainName
    | some cs => if cs.any deniedInDomain then .error .domainName else .ok (String.ofList cs)

/-- Whether a character may not stand in a host that is not an IPv6 address. -/
def forbiddenInHost (c : Char) : Bool :=
  c.toNat ≤ 0x20 || c.toNat == 0x7F || "#%/:<>?@[\\]^|".toList.contains c

/-! ## Authorities -/

/-- Read a host: an IPv6 address in brackets, an IPv4 address, or a domain name. -/
def host (text : String) : Except UrlError UrlHost :=
  match text.toList with
  | '[' :: rest =>
    if rest.getLast? != some ']' then .error .invalidIpv6
    else (ipv6 rest.dropLast).map fun bits => .ip (.v6 bits)
  | _ => do
    let name ← domainName text
    if name.isEmpty then throw .emptyHost
    if name.any forbiddenInHost then throw .domainCharacter
    if endsInNumber name then return .ip (.v4 (← ipv4 name))
    return .domain name

/-- Whether a character ends an authority. -/
def endsAuthority (c : Char) : Bool := c == '/' || c == '\\' || c == '?' || c == '#'

/-- Split off the host text: up to the first `:` outside brackets or the end of the
authority. -/
def hostText : Bool → List Char → List Char × List Char
  | _, [] => ([], [])
  | inside, c :: cs =>
    if (c == ':' && !inside) || endsAuthority c then ([], c :: cs)
    else
      let inside := if c == '[' then true else if c == ']' then false else inside
      let (h, r) := hostText inside cs
      (c :: h, r)

/-- Read a port after `:`: decimal digits up to 65535 and then the end of the authority;
none without digits. -/
def port (cs : List Char) : Except UrlError (Option Nat) :=
  let digits := cs.takeWhile Char.isDigit
  let value := valueIn 10 digits
  if value > 65535 then .error .invalidPort
  else
    match cs.drop digits.length with
    | c :: _ => if endsAuthority c then .ok (if digits.isEmpty then none else some value)
      else .error .invalidPort
    | [] => .ok (if digits.isEmpty then none else some value)

/-- The host and port of a web address with a special scheme, read from what follows
`scheme:`. -/
def authority (afterScheme : String) : Except UrlError (UrlHost × Option Nat) := do
  let cs := (afterScheme.toList.filter fun c => c != '\t' && c != '\n' && c != '\r').dropWhile
    fun c => c == '/' || c == '\\'
  let span := cs.takeWhile fun c => !endsAuthority c
  let atSigns := (List.range span.length).filter fun i => span[i]? == some '@'
  let hostPart ← match atSigns.getLast? with
    | none => pure cs
    | some 0 =>
      match cs.drop 1 with
      | c :: _ => if endsAuthority c then throw .emptyHost else pure (cs.drop 1)
      | [] => pure []
    | some i => pure (cs.drop (i + 1))
  let (text, rest) := hostText false hostPart
  if text.isEmpty then throw .emptyHost
  let h ← host (String.ofList text)
  match rest with
  | ':' :: more => return (h, ← port more)
  | _ => return (h, none)

end Url

end ContainerCpi.Net
