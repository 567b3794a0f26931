/-!
# Similarity of words

The Jaro similarity of two words, used to suggest the word someone probably meant.  Two
characters match when they are equal and no further apart than half the longer word's
length less one, each character matching at most once, the earliest possible partner first.
With `m` matches, of which `t` are out of order when the matched characters of both words
are read in order (counted in halves, rounded down), the similarity is
`(m/|a| + m/|b| + (m - t)/m) / 3`, or 0 without matches (1 for two empty words).

The similarity is computed in double precision, term by term as the formula is written,
and the threshold is the double nearest to 0.7: the rounding decides the words that sit on
the threshold (`pemxt` is `pretty` by seven tenths exactly, and the rounded sum lies just
above the threshold).
-/

namespace ContainerCpi

namespace Similarity

/-- The positions of `a` and of `b` that match, in order of `a`'s positions. -/
def matchedPairs (a b : List Char) : List (Nat × Nat) :=
  let range := max a.length b.length / 2 - 1
  let step (found : List (Nat × Nat)) (entry : Char × Nat) : List (Nat × Nat) :=
    let (c, i) := entry
    let candidates := (List.range (min b.length (i + range + 1))).filter fun j =>
      i - range ≤ j && b[j]? == some c && !found.any (·.2 == j)
    match candidates.head? with
    | some j => found ++ [(i, j)]
    | none => found
  a.zipIdx.foldl step []

/-- The Jaro similarity of two words. -/
def jaro (a b : List Char) : Float :=
  if a.isEmpty && b.isEmpty then 1
  else if a.isEmpty || b.isEmpty then 0
  else
    let ms := matchedPairs a b
    let m := ms.length
    if m = 0 then 0
    else
      let fromA := ms.map fun (i, _) => a[i]?
      let fromB := ((ms.map (·.2)).mergeSort (· ≤ ·)).map fun j => b[j]?
      let t := ((fromA.zip fromB).filter fun (x, y) => x != y).length / 2
      let ratio (p q : Nat) : Float := Float.ofNat p / Float.ofNat q
      (ratio m a.length + ratio m b.length + ratio (m - t) m) / 3

/-- The candidate most similar to `word` among those more than 70% similar; of equally
similar ones the last. -/
def suggest (word : String) (candidates : List String) : Option String :=
  let scored := candidates.filterMap fun c =>
    let s := jaro word.toList c.toList
    if s > 0.7 then some (c, s) else none
  (scored.foldl (fun best (c, s) =>
    match best with
    | some (_, b) => if b ≤ s then some (c, s) else best
    | none => some (c, s)) none).map (·.1)

end Similarity

end ContainerCpi
