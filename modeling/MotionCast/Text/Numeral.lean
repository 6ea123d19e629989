import MotionCast.Text.Hex

/-! Reading of whole numbers: digits of some base after an optional sign, and nothing else. -/

namespace MotionCast.Numeral

/-- The value of a digit below a base of at most sixteen. -/
def digit? (base : Nat) (c : Char) : Option Nat := (Hex.digit? c).filter (· < base)

/-- The number that digits stand for, the highest first. No digits stand for no number. -/
def digits? (base : Nat) (text : List Char) : Option Nat :=
  if text.isEmpty then none
  else text.foldl (fun n c => do return (← n) * base + (← digit? base c)) (some 0)

/-- A number of at least zero and below a bound, with an optional plus sign. -/
def unsigned? (base bound : Nat) (text : List Char) : Option Nat :=
  (digits? base (if text.head? = some '+' then text.tail else text)).filter (· < bound)

/-- A number with an optional sign, from `low` to `high`. -/
def signed? (low high : Int) (text : List Char) : Option Int :=
  let n : Option Int :=
    if text.head? = some '-' then (digits? 10 text.tail).map fun n => -(n : Int)
    else (digits? 10 (if text.head? = some '+' then text.tail else text)).map Int.ofNat
  n.filter fun n => low ≤ n && n ≤ high

end MotionCast.Numeral
