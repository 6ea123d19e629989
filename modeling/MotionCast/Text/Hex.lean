import MotionCast.Bytes

/-! Hexadecimal text: two digits a byte, and numbers in base sixteen with a least width. -/

namespace MotionCast.Hex

/-- The value of a hexadecimal digit of either case. -/
def digit? (c : Char) : Option Nat :=
  if '0' ≤ c ∧ c ≤ '9' then some (c.toNat - '0'.toNat)
  else if 'a' ≤ c ∧ c ≤ 'f' then some (c.toNat - 'a'.toNat + 10)
  else if 'A' ≤ c ∧ c ≤ 'F' then some (c.toNat - 'A'.toNat + 10)
  else none

/-- The bytes written by pairs of digits. An odd count of digits or any other character has none. -/
def decode? : List Char → Option Bytes
  | [] => some []
  | [_] => none
  | high :: low :: rest => do
    let h ← digit? high
    let l ← digit? low
    return UInt8.ofNat (16 * h + l) :: (← decode? rest)

/-- The lower-case digits of a number, at least `width` of them. -/
def ofNat (width n : Nat) : String :=
  let digits := Nat.toDigits 16 n
  String.ofList (List.replicate (width - digits.length) '0' ++ digits)

/-- The upper-case digits of a number, without leading zeros. -/
def upper (n : Nat) : String :=
  String.ofList ((Nat.toDigits 16 n).map Char.toUpper)

/-- Two lower-case digits for each byte. -/
def encode (b : Bytes) : String :=
  String.join (b.map fun byte => ofNat 2 byte.toNat)

end MotionCast.Hex
