import ContainerCpi.Json.Basic
import ContainerCpi.Decimal.Digits

/-!
# Writing JSON text

Compact text: no blanks, fields in the order the value holds them.  A string escapes only
the quote, the backslash and the control characters below U+0020 (the five with a short
form use it, the rest are `\u00xx` with lower-case hex); everything else is written as is.

A double is written with its shortest round-trip digits (`Decimal.Binary.shortest`) in the
layout fixed by `DoubleLayout.standard`: positional while the decimal point falls within
the first sixteen places, always with a fractional part, scientific (`1e16`, `1.5e-7`)
otherwise.  A double that is not finite is written as `null`.
-/

namespace ContainerCpi

/-- Where a double's text switches between positional and scientific notation. -/
structure DoubleLayout where
  /-- Largest count of integer digits written positionally. -/
  maxIntegerDigits : Nat
  /-- Largest count of zeros between the point and the first digit written positionally. -/
  maxLeadingZeros : Nat
  /-- Whether a non-negative exponent is written with a plus sign (`1e+16`). -/
  signedExponent : Bool

/-- The layout of this library's JSON text. -/
def DoubleLayout.standard : DoubleLayout := ⟨16, 4, false⟩

/-- The layout of the numbers quoted in decoding errors: the standard one with a signed
exponent. -/
def DoubleLayout.quoted : DoubleLayout := ⟨16, 4, true⟩

namespace Json

/-- Text of the decimal `d · 10^k` (`d > 0`) in a layout. -/
def layoutDigits (layout : DoubleLayout) (d : Nat) (k : Int) : String :=
  let ds := toString d
  let n : Int := ds.length
  let kk := n + k
  if 0 ≤ k ∧ kk ≤ layout.maxIntegerDigits then
    ds ++ Decimal.zeros k.toNat ++ ".0"
  else if 0 < kk ∧ kk ≤ layout.maxIntegerDigits then
    String.ofList (ds.toList.take kk.toNat) ++ "." ++ String.ofList (ds.toList.drop kk.toNat)
  else if -((layout.maxLeadingZeros : Int) + 1) < kk ∧ kk ≤ 0 then
    "0." ++ Decimal.zeros (-kk).toNat ++ ds
  else
    let exponent := kk - 1
    let e := (if layout.signedExponent ∧ 0 ≤ exponent then "+" else "") ++ toString exponent
    match ds.toList with
    | [c] => String.ofList [c] ++ "e" ++ e
    | c :: rest => String.ofList [c] ++ "." ++ String.ofList rest ++ "e" ++ e
    | [] => "0e" ++ e

/-- Text of a finite double: shortest round-trip digits in a layout. -/
def doubleTextIn (layout : DoubleLayout) (f : Float) : String :=
  let b := Decimal.Binary.ofFloat f
  let sign := if b.negative then "-" else ""
  if b.mantissa = 0 then sign ++ "0.0"
  else
    let (d, k) := b.shortest
    sign ++ layoutDigits layout d k

/-- Text of a finite double in the standard layout. -/
def doubleText (f : Float) : String :=
  doubleTextIn DoubleLayout.standard f

/-- Text of a number. -/
def numberText : Number → String
  | .unsigned n => toString n
  | .negative n => toString n
  | .double f => if Decimal.isFinite f then doubleText f else "null"

/-- Lower-case hexadecimal digit. -/
def hexDigit (n : Nat) : Char :=
  if n < 10 then Char.ofNat (48 + n) else Char.ofNat (87 + n)

/-- The escaped form of one character inside a string. -/
def escapeChar (c : Char) : List Char :=
  if c = '"' then ['\\', '"']
  else if c = '\\' then ['\\', '\\']
  else if c.toNat < 32 then
    match c.toNat with
    | 8 => ['\\', 'b']
    | 9 => ['\\', 't']
    | 10 => ['\\', 'n']
    | 12 => ['\\', 'f']
    | 13 => ['\\', 'r']
    | n => ['\\', 'u', '0', '0', hexDigit (n / 16), hexDigit (n % 16)]
  else [c]

/-- A string literal. -/
def quote (s : String) : String :=
  String.ofList ('"' :: (s.toList.flatMap escapeChar ++ ['"']))

/-- Compact text of a value. -/
def render : Json → String
  | .null => "null"
  | .bool true => "true"
  | .bool false => "false"
  | .number n => numberText n
  | .string s => quote s
  | .array xs => "[" ++ renderItems xs ++ "]"
  | .object fs => "\x7b" ++ renderFields fs ++ "\x7d"
where
  renderItems : List Json → String
    | [] => ""
    | [x] => render x
    | x :: xs => render x ++ "," ++ renderItems xs
  renderFields : List (String × Json) → String
    | [] => ""
    | [(k, v)] => quote k ++ ":" ++ render v
    | (k, v) :: fs => quote k ++ ":" ++ render v ++ "," ++ renderFields fs

end Json

end ContainerCpi
