/-!
# Text helpers

Whitespace in the Unicode sense (the `White_Space` property), trimming by it, line splitting
that also drops a carriage return before each line feed, and substring search.  Messages
from the engine and text printed inside a VM are matched with these, so they follow the
Unicode definitions rather than the ASCII ones.
-/

namespace ContainerCpi.Text

/-- The Unicode `White_Space` characters. -/
def isSpace (c : Char) : Bool :=
  let n := c.toNat
  (0x09 ≤ n && n ≤ 0x0D) || n == 0x20 || n == 0x85 || n == 0xA0 || n == 0x1680 ||
    (0x2000 ≤ n && n ≤ 0x200A) || n == 0x2028 || n == 0x2029 || n == 0x202F ||
    n == 0x205F || n == 0x3000

/-- Characters with leading whitespace removed. -/
def dropSpace (cs : List Char) : List Char := cs.dropWhile isSpace

/-- The text without leading and trailing whitespace. -/
def trim (s : String) : String :=
  String.ofList (dropSpace (dropSpace s.toList).reverse).reverse

/-- The text without leading whitespace. -/
def trimStart (s : String) : String := String.ofList (dropSpace s.toList)

/-- The text without trailing whitespace. -/
def trimEnd (s : String) : String := String.ofList (dropSpace s.toList.reverse).reverse

/-- Whether `needle` occurs in `hay` as a contiguous run. -/
def containsList (hay needle : List Char) : Bool :=
  match hay with
  | [] => needle.isEmpty
  | c :: rest => needle.isPrefixOf (c :: rest) || containsList rest needle

/-- Whether `needle` occurs in `s`. -/
def contains (s needle : String) : Bool := containsList s.toList needle.toList

/-- Split at line feeds; a carriage return right before a line feed is dropped with it, and
a final empty line (after a closing line feed, or in the empty text) is not a line. -/
def lines (s : String) : List String :=
  let stripCr (l : String) : String :=
    if l.endsWith "\r" then String.ofList l.toList.dropLast else l
  let parts := s.splitOn "\n"
  match parts.getLast? with
  | some last =>
    let ended := parts.dropLast.map stripCr
    if last.isEmpty then ended else ended ++ [last]
  | none => []

/-- The text up to the first `sep` and the rest after it. -/
def splitOnce (s : String) (sep : Char) : Option (String × String) :=
  let cs := s.toList
  match cs.idxOf? sep with
  | some i => some (String.ofList (cs.take i), String.ofList (cs.drop (i + 1)))
  | none => none

/-- The text up to the last `sep` and the rest after it. -/
def splitLast (s : String) (sep : Char) : Option (String × String) :=
  let cs := s.toList.reverse
  match cs.idxOf? sep with
  | some i => some (String.ofList (cs.drop (i + 1)).reverse, String.ofList (cs.take i).reverse)
  | none => none

/-- Drop every leading and trailing `c`. -/
def trimChar (s : String) (c : Char) : String :=
  String.ofList (((s.toList.dropWhile (· == c)).reverse.dropWhile (· == c)).reverse)

/-- Drop every trailing `c`. -/
def trimEndChar (s : String) (c : Char) : String :=
  String.ofList ((s.toList.reverse.dropWhile (· == c)).reverse)

/-- Drop every leading `c`. -/
def trimStartChar (s : String) (c : Char) : String :=
  String.ofList (s.toList.dropWhile (· == c))

/-- The text after a leading `pre`, if it starts with it. -/
def stripPrefix? (s pre : String) : Option String :=
  if pre.toList.isPrefixOf s.toList then some (String.ofList (s.toList.drop pre.length)) else none

/-- The text with the first occurrence of `pat` (not empty) removed, wherever it stands. -/
def removeFirst (s pat : String) : String :=
  match s.splitOn pat with
  | before :: after => before ++ pat.intercalate after
  | [] => s

end ContainerCpi.Text
