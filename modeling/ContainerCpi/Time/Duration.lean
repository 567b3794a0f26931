/-!
# Durations

A span of time in nanoseconds, and its diagnostic text: the largest unit among seconds,
milliseconds, microseconds and nanoseconds in which the whole part is non-zero, followed by
the exact remainder as decimal fraction digits without trailing zeros (`1.5s`, `150ms`,
`30s`, `1.000001s`).
-/

namespace ContainerCpi

/-- A span of time. -/
structure Duration where
  nanos : Nat
  deriving DecidableEq, Repr, Inhabited

namespace Duration

/-- A span of whole seconds. -/
def ofSecs (s : Nat) : Duration := ⟨s * 1000000000⟩

/-- A span of whole milliseconds. -/
def ofMillis (ms : Nat) : Duration := ⟨ms * 1000000⟩

/-- The span in whole milliseconds, rounded down. -/
def millis (d : Duration) : Nat := d.nanos / 1000000

/-- `whole` followed by the fraction `frac / unit` as decimal digits, trailing zeros dropped
(no point when the fraction is zero). -/
def decimal (whole frac unit : Nat) : String :=
  let pad := (Nat.toDigits 10 (frac + unit)).drop 1
  let digits := (pad.reverse.dropWhile (· == '0')).reverse
  if digits.isEmpty then s!"{whole}" else s!"{whole}." ++ String.ofList digits

/-- The diagnostic text of a span. -/
def debug (d : Duration) : String :=
  let n := d.nanos
  if n ≥ 1000000000 then decimal (n / 1000000000) (n % 1000000000) 1000000000 ++ "s"
  else if n ≥ 1000000 then decimal (n / 1000000) (n % 1000000) 1000000 ++ "ms"
  else if n ≥ 1000 then decimal (n / 1000) (n % 1000) 1000 ++ "µs"
  else s!"{n}ns"

end Duration

end ContainerCpi
