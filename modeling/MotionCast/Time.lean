/-! Times and durations as whole nanoseconds. A duration has at most sixty-four bits of seconds, so
sums and products may have no value. -/

namespace MotionCast

/-- A duration, or a point in time, in nanoseconds. -/
abbrev Nanos := Nat

namespace Nanos

/-- A number of microseconds. -/
def micros (n : Nat) : Nanos := n * 1000

/-- A number of milliseconds. -/
def millis (n : Nat) : Nanos := n * 1000000

/-- A number of seconds. -/
def seconds (n : Nat) : Nanos := n * 1000000000

/-- The first number of nanoseconds that is no duration. -/
def bound : Nat := 0x10000000000000000 * 1000000000

/-- The sum of two durations, if it is one. -/
def add? (a b : Nanos) : Option Nanos := if a + b < bound then some (a + b) else none

/-- A multiple of a duration, if it is one. -/
def mul? (a : Nanos) (k : Nat) : Option Nanos := if a * k < bound then some (a * k) else none

/-- The duration in seconds as a double: its whole seconds plus its rest, each rounded. -/
def toSeconds (n : Nanos) : Float :=
  Float.ofNat (n / 1000000000) + Float.ofNat (n % 1000000000) / 1000000000

/-- Digits without the zeros at their end. -/
def dropTrailingZeros (digits : List Char) : List Char :=
  (digits.reverse.dropWhile (· = '0')).reverse

/-- A number of units, each of ten to the `places` nanoseconds, with the shortest exact fraction. -/
def inUnits (n : Nanos) (places : Nat) (unit : String) : String :=
  let scale := Nat.pow 10 places
  let whole := toString (n / scale)
  let rest := Nat.toDigits 10 (n % scale)
  let fraction := dropTrailingZeros (List.replicate (places - rest.length) '0' ++ rest)
  if fraction.isEmpty then whole ++ unit else whole ++ "." ++ String.ofList fraction ++ unit

/-- A duration in the largest unit of which it has at least one. -/
def toText (n : Nanos) : String :=
  if n ≥ seconds 1 then inUnits n 9 "s"
  else if n ≥ millis 1 then inUnits n 6 "ms"
  else if n ≥ micros 1 then inUnits n 3 "µs"
  else toString n ++ "ns"

end Nanos

end MotionCast
