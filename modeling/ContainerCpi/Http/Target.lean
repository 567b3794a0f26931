import ContainerCpi.Text.Utf8

/-!
# Request targets

A client names the target of a request by writing the engine's address and a path as one
URL, which a URL parser then reads; what reaches the engine is the parsed path.  So a path
written with odd characters is not sent as written:

* ASCII tabs and line breaks are dropped wherever they are, and blanks and control
  characters at the end;
* the path ends at the first `?`, after which comes a query, or `#`, after which comes a
  fragment, which is never sent;
* of the `/`-separated segments, a `.` is dropped and a `..` drops the segment before it; a
  `.` or `..` at the end leaves the path ending in `/`.  A `%2e` counts as a dot;
* in the segments that stay, control characters, blanks, `"`, `<`, `>`, a backquote, braces
  and every character beyond ASCII are written as `%` and two upper-case hexadecimal digits
  per byte of their UTF-8 form.

A call's own query parameters replace the query the path carries.  A call without any sends
the path's query, which the engine reads as `&`-separated `name=value` pairs, with `+` read
as a blank and `%` escapes decoded.
-/

namespace ContainerCpi

namespace Http

/-- Whether a character is written percent-encoded in a path segment. -/
def escapedInPath (c : Char) : Bool :=
  c.toNat < 0x20 || c.toNat ≥ 0x7F || " \"<>`\x7b\x7d".toList.contains c

/-- Upper-case hexadecimal digit. -/
def upperHex (n : Nat) : Char := if n < 10 then Char.ofNat (48 + n) else Char.ofNat (55 + n)

/-- A path segment with the characters that need it percent-encoded. -/
def encodeSegment (segment : List Char) : List Char :=
  segment.flatMap fun c =>
    if escapedInPath c then
      (Utf8.encode (String.singleton c)).flatMap fun b =>
        ['%', upperHex (b.toNat / 16), upperHex (b.toNat % 16)]
    else [c]

/-- Whether a segment is a single dot, `.` or `%2e`. -/
def isDot (segment : List Char) : Bool :=
  segment == ['.'] || (segment.map Char.toLower) == ['%', '2', 'e']

/-- Whether a segment is a double dot: two single dots in a row, each `.` or `%2e`. -/
def isDoubleDot (segment : List Char) : Bool :=
  let s := segment.map Char.toLower
  s == ['.', '.'] || s == ['.', '%', '2', 'e'] || s == ['%', '2', 'e', '.'] ||
    s == ['%', '2', 'e', '%', '2', 'e']

/-- Resolve the segments after the leading `/`, left to right, onto the segments kept so
far (the last kept first). -/
def resolveSegments : List (List Char) → List (List Char) → List (List Char)
  | [], kept => kept
  | [s], kept =>
    if isDoubleDot s then [] :: kept.drop 1
    else if isDot s then [] :: kept
    else encodeSegment s :: kept
  | s :: rest, kept =>
    if isDoubleDot s then resolveSegments rest (kept.drop 1)
    else if isDot s then resolveSegments rest kept
    else resolveSegments rest (encodeSegment s :: kept)

/-- Drop trailing blanks and control characters. -/
def dropTrailingControls (cs : List Char) : List Char :=
  (cs.reverse.dropWhile fun c => c.toNat ≤ 0x20).reverse

/-- The path a path written as text resolves to, and the query it carries, if any. -/
def resolvePath (written : String) : String × Option String :=
  let cs := dropTrailingControls (written.toList.filter fun c => c != '\t' && c != '\n' && c != '\r')
  let beforeFragment := cs.takeWhile (· != '#')
  let pathPart := beforeFragment.takeWhile (· != '?')
  let query := match beforeFragment.drop pathPart.length with
    | '?' :: q => some (String.ofList q)
    | _ => none
  let segments := match pathPart with
    | '/' :: rest => rest.splitOn '/'
    | other => other.splitOn '/'
  let kept := (resolveSegments segments []).reverse
  (String.ofList ('/' :: (kept.intersperse ['/']).flatten), query)

/-- Value of a hexadecimal digit. -/
def hexValue? (c : Char) : Option Nat :=
  if c.isDigit then some (c.toNat - 48)
  else if 'a' ≤ c ∧ c ≤ 'f' then some (c.toNat - 87)
  else if 'A' ≤ c ∧ c ≤ 'F' then some (c.toNat - 55)
  else none

/-- The byte a `%` escape stands for: its two characters read as an unsigned hexadecimal
numeral, which is two digits or a `+` sign and one digit. -/
def escapedByte (h l : UInt8) : Option UInt8 :=
  match hexValue? (Char.ofNat h.toNat), hexValue? (Char.ofNat l.toNat) with
  | some x, some y => some (x * 16 + y).toUInt8
  | none, some y => if h == 43 then some y.toUInt8 else none
  | _, _ => none

/-- Decode one component of a form in a single pass: a `%` followed by a numeral stands for
its byte, a `+` outside an escape for a blank, and every other byte for itself. -/
def formDecode : List UInt8 → List UInt8
  | [] => []
  | b :: h :: l :: rest =>
    match (if b == 37 then escapedByte h l else none) with
    | some x => x :: formDecode rest
    | none => (if b == 43 then 32 else b) :: formDecode (h :: l :: rest)
  | b :: more => (if b == 43 then 32 else b) :: formDecode more
termination_by bytes => bytes.length

/-- One component of a query as the engine reads it. -/
def formComponent (text : String) : String :=
  Utf8.lossy (formDecode (Utf8.encode text))

/-- The pairs of a query: its `&`-separated pieces that are not empty, each split at its
first `=` (a piece without one is a name with an empty value). -/
def formPairs (query : String) : List (String × String) :=
  ((query.splitOn "&").filter (!·.isEmpty)).map fun piece =>
    match piece.toList.idxOf? '=' with
    | some i => (formComponent (String.ofList (piece.toList.take i)),
        formComponent (String.ofList (piece.toList.drop (i + 1))))
    | none => (formComponent piece, "")

/-- A query read as a map: each name once, where it first appears, with the value of its
last pair. -/
def lastWins (pairs : List (String × String)) : List (String × String) :=
  pairs.foldl (fun seen (k, v) =>
    if seen.any (·.1 == k) then seen.map fun (n, w) => (n, if n == k then v else w)
    else seen ++ [(k, v)]) []

/-- The path and query parameters that reach the engine for a path written as text and the
call's own parameters. -/
def target (written : String) (params : List (String × String)) : String × List (String × String) :=
  let (path, query) := resolvePath written
  (path, if params.isEmpty then lastWins ((query.map formPairs).getD []) else params)

end Http

end ContainerCpi
