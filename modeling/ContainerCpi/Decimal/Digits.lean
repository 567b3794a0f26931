/-!
# Decimal digits of a double

Two exact conversions from the binary value of a double to decimal digits, both in `Nat`
arithmetic on the bits (`Float.toBits`), so no step depends on a runtime's printer:

* `Binary.shortest`: the fewest significant digits that read back as the same double, and
  of those the ones nearest to the exact value (an exact tie goes to the even digit string).
  A double `m · 2^e` rounds from the reals strictly between its two midpoints; both
  midpoints belong to it when `m` is even (ties go to even when reading).
* `Binary.roundScaled`: the value times `10^places`, rounded to the nearest integer with
  ties to even; this gives fixed-point text with a given number of places.

The other way, a natural number rounds to the nearest double (`roundToDouble`), and a
product of two such roundings overflows exactly when its exact value reaches
`overflowBound` (`productOverflows`): that is when the rounded product is infinite.
-/

namespace ContainerCpi.Decimal

/-- A finite double as `±mantissa · 2^exponent`; `gapBelowHalved` marks a power of two
whose lower neighbour is half as far as the upper one. -/
structure Binary where
  negative : Bool
  mantissa : Nat
  exponent : Int
  gapBelowHalved : Bool

/-- Whether a double is neither infinite nor NaN. -/
def isFinite (f : Float) : Bool :=
  (f.toBits.toNat >>> 52) % 2048 != 2047

/-- The binary value of a finite double (NaN and the infinities read as their bit fields). -/
def Binary.ofFloat (f : Float) : Binary :=
  let bits := f.toBits.toNat
  let field := (bits >>> 52) % 2048
  let frac := bits % Nat.pow 2 52
  if field = 0 then
    ⟨bits >>> 63 = 1, frac, -1074, false⟩
  else
    ⟨bits >>> 63 = 1, frac + Nat.pow 2 52, (field : Int) - 1075, frac = 0 && field > 1⟩

/-- `10^k` for an integer `k ≥ 0`. -/
def pow10 (k : Nat) : Nat := Nat.pow 10 k

/-- Compare `a · 10^p` with `b · 2^q` exactly. -/
def compareScaled (a : Nat) (p : Int) (b : Nat) (q : Int) : Ordering :=
  let lhs := a * Nat.pow 10 p.toNat * Nat.pow 2 (-q).toNat
  let rhs := b * Nat.pow 2 q.toNat * Nat.pow 10 (-p).toNat
  compare lhs rhs

/-- Number of binary digits of `n`. -/
def bitLength (n : Nat) : Nat := (Nat.log2 n) + 1

namespace Binary

variable (b : Binary)

/-- The largest `k` with `10^k ≤ |value|`, for a nonzero value. -/
def decimalExponent : Int :=
  let top : Int := b.exponent + bitLength b.mantissa - 1
  let est : Int := (top * 78913) / 262144
  -- the estimate is off by at most one either way
  let up (k : Int) : Int := if compareScaled 1 (k + 1) b.mantissa b.exponent != .gt then k + 1 else k
  let down (k : Int) : Int := if compareScaled 1 k b.mantissa b.exponent == .gt then k - 1 else k
  up (up (down (down est)))

/-- Whether `c · 10^k` lies in the interval of reals that read back as this double. -/
def roundsBack (c : Nat) (k : Int) : Bool :=
  let inclusive := b.mantissa % 2 == 0
  -- midpoints, scaled by `2^(exponent - 2)`
  let low := if b.gapBelowHalved then 4 * b.mantissa - 1 else 4 * b.mantissa - 2
  let high := 4 * b.mantissa + 2
  let e := b.exponent - 2
  let aboveLow := match compareScaled c k low e with
    | .gt => true
    | .eq => inclusive
    | .lt => false
  let belowHigh := match compareScaled c k high e with
    | .lt => true
    | .eq => inclusive
    | .gt => false
  aboveLow && belowHigh

/-- `|value| / 10^k` as quotient, remainder and divisor. -/
def divPow10 (k : Int) : Nat × Nat × Nat :=
  let num := b.mantissa * Nat.pow 2 b.exponent.toNat * Nat.pow 10 (-k).toNat
  let den := Nat.pow 2 (-b.exponent).toNat * Nat.pow 10 k.toNat
  (num / den, num % den, den)

/-- The best `n`-digit candidate that reads back, if there is one. -/
def candidate (n : Nat) : Option (Nat × Int) :=
  let k := b.decimalExponent - n + 1
  let (t, r, den) := b.divPow10 k
  let lowOk := b.roundsBack t k
  let highOk := b.roundsBack (t + 1) k
  if lowOk && highOk then
    if 2 * r < den then some (t, k)
    else if 2 * r > den then some (t + 1, k)
    else if t % 2 == 0 then some (t, k) else some (t + 1, k)
  else if lowOk then some (t, k)
  else if highOk then some (t + 1, k)
  else none

/-- Drop trailing zero digits, raising the exponent. -/
def trimZeros : Nat → Nat → Int → Nat × Int
  | 0, c, k => (c, k)
  | fuel + 1, c, k => if c % 10 == 0 && c != 0 then trimZeros fuel (c / 10) (k + 1) else (c, k)

/-- The shortest digits `(d, k)` with `|value| ≈ d · 10^k` that read back as this double;
`(0, 0)` for zero. -/
def shortest : Nat × Int :=
  if b.mantissa = 0 then (0, 0)
  else
    match (List.range 17).findSome? (fun i => b.candidate (i + 1)) with
    | some (c, k) => trimZeros 20 c k
    | none => trimZeros 20 (b.divPow10 (b.decimalExponent - 16)).1 (b.decimalExponent - 16)

/-- `|value| · 10^places` rounded to the nearest integer, ties to even. -/
def roundScaled (places : Nat) : Nat :=
  let num := b.mantissa * Nat.pow 2 b.exponent.toNat * Nat.pow 10 places
  let den := Nat.pow 2 (-b.exponent).toNat
  let q := num / den
  let r := num % den
  if 2 * r > den then q + 1
  else if 2 * r == den then q + q % 2
  else q

end Binary

/-- `n` rounded to at most 53 significant bits, ties to even: the value of the double
nearest to `n`. -/
def roundToDouble (n : Nat) : Nat :=
  let drop := bitLength n - 53
  let unit := Nat.pow 2 drop
  let q := n / unit
  let r := n % unit
  let up := 2 * r > unit || (2 * r == unit && q % 2 == 1)
  (if up then q + 1 else q) * unit

/-- The least magnitude that rounds to infinity: halfway between the largest double,
`(2^53 - 1) · 2^971`, and `2^1024`, where a tie goes to the even `2^1024`. -/
def overflowBound : Nat := Nat.pow 2 1024 - Nat.pow 2 970

/-- Whether the double product of `a` and `b`, each first rounded to the nearest double,
rounds to infinity. -/
def productOverflows (a b : Nat) : Bool := overflowBound ≤ roundToDouble a * roundToDouble b

/-- Decimal digits of a natural number. -/
def digitsOf (n : Nat) : String := toString n

/-- `n` zeros. -/
def zeros (n : Nat) : String := String.ofList (List.replicate n '0')

/-- Fixed-point text with `places` digits after the point; the exact value is rounded to
the nearest, ties to even, and a negative value keeps its sign even when it rounds to zero. -/
def fixed (f : Float) (places : Nat) : String :=
  let b := Binary.ofFloat f
  let n := b.roundScaled places
  let whole := n / Nat.pow 10 places
  let frac := digitsOf (n % Nat.pow 10 places)
  let sign := if b.negative then "-" else ""
  if places = 0 then sign ++ digitsOf whole
  else sign ++ digitsOf whole ++ "." ++ zeros (places - frac.length) ++ frac

end ContainerCpi.Decimal
