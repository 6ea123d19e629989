/-! Numbers in scientific notation with a fixed count of digits: the exact value of a double is
rounded to the nearest such number, and half way to the even one. -/

namespace MotionCast.Scientific

/-- The quotient of two numbers rounded to the nearest whole number, a half to the even one. -/
def roundDiv (num den : Nat) : Nat :=
  let quotient := num / den
  let twice := 2 * (num % den)
  if den < twice ∨ (twice = den ∧ quotient % 2 = 1) then quotient + 1 else quotient

/-- A power of ten. -/
def pow10 (n : Nat) : Nat := Nat.pow 10 n

/-- A power of two. -/
def pow2 (n : Nat) : Nat := Nat.pow 2 n

/-- The exponent of the first digit of a positive fraction: the `k` with `10 ^ k ≤ num / den` and
`num / den < 10 ^ (k + 1)`. -/
def decimalExponent (num den : Nat) : Int :=
  if den ≤ num then ((Nat.toDigits 10 (num / den)).length : Int) - 1
  else -((Nat.toDigits 10 ((den + num - 1) / num - 1)).length : Int)

/-- The digits of a positive fraction as a whole number of `places + 1` digits, and the exponent of
the first. -/
def digits (num den places : Nat) : Nat × Int :=
  let k := decimalExponent num den
  let shift := (places : Int) - k
  let rounded := roundDiv (num * pow10 shift.toNat) (den * pow10 (-shift).toNat)
  if rounded = pow10 (places + 1) then (pow10 places, k + 1) else (rounded, k)

/-- One digit, a point, the other digits, and the exponent without padding. -/
def layout (negative : Bool) (significand : Nat) (exponent : Int) (places : Nat) : String :=
  let all := Nat.toDigits 10 significand
  let padded := all ++ List.replicate (places + 1 - all.length) '0'
  let sign := if negative then "-" else ""
  sign ++ String.ofList (padded.take 1) ++ "." ++ String.ofList (padded.drop 1) ++ "e" ++
    toString exponent

/-- A finite double with `places` digits after the point. -/
def ofFloat (x : Float) (places : Nat) : String :=
  let bits := x.toBits.toNat
  let negative := bits / pow2 63 = 1
  let field := bits / pow2 52 % 2048
  let fraction := bits % pow2 52
  let significand := if field = 0 then fraction else pow2 52 + fraction
  let power := max field 1
  if significand = 0 then layout negative 0 0 places
  else
    let (d, k) := digits (significand * pow2 (power - 1075)) (pow2 (1075 - power)) places
    layout negative d k places

end MotionCast.Scientific
