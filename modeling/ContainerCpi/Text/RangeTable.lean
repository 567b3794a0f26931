/-!
# Tables of code point ranges

A property of characters that the Unicode character database defines by listing code points
is kept as text: blank-separated hexadecimal ranges (`300-36F`) and single points (`AD`), in
increasing order and disjoint.  The text is read once into an array of inclusive ranges.  A
code point is looked up by halving the array: the last range that starts at or before the
point is the only one that can hold it, because the ranges are ordered and disjoint.
-/

namespace ContainerCpi.Text

/-- Inclusive ranges of code points, ordered by their first point and disjoint. -/
structure RangeTable where
  ranges : Array (Nat × Nat)

namespace RangeTable

/-- Value of a hexadecimal numeral (upper-case digits), `0` for the empty one. -/
def hexValue (s : String) : Nat :=
  s.foldl (fun acc c => 16 * acc + (if c.isDigit then c.toNat - 48 else c.toNat - 55)) 0

/-- One entry of the text as an inclusive range. -/
def entry (text : String) : Nat × Nat :=
  match text.splitOn "-" with
  | [lo, hi] => (hexValue lo, hexValue hi)
  | _ => (hexValue text, hexValue text)

/-- The table written as text. -/
def ofText (text : String) : RangeTable :=
  ⟨((text.splitOn " ").filter (· ≠ "")).toArray.map entry⟩

/-- Index of the first range in `[lo, hi)` that starts after `n`, by halving the interval at
most `fuel` times. -/
def after (t : RangeTable) (n : Nat) : Nat → Nat → Nat → Nat
  | 0, lo, _ => lo
  | fuel + 1, lo, hi =>
    if lo < hi then
      let mid := lo + (hi - lo) / 2
      if (t.ranges.getD mid (0, 0)).1 ≤ n then t.after n fuel (mid + 1) hi
      else t.after n fuel lo mid
    else lo

/-- Whether a code point lies in one of the ranges: the last range that starts at or before
it is the only one that can hold it. -/
def contains (t : RangeTable) (n : Nat) : Bool :=
  match t.after n (Nat.log2 t.ranges.size + 1) 0 t.ranges.size with
  | 0 => false
  | i + 1 => let r := t.ranges.getD i (0, 0); r.1 ≤ n && n ≤ r.2

end RangeTable

end ContainerCpi.Text
