import MotionCast.Text.Numeral

/-! Endpoints: the host and the port from which a datagram comes or to which it goes. Several forms
of an endpoint are read, and one of them is written. -/

namespace MotionCast

/-- A host, by its address. -/
inductive Host where
  /-- Four bytes. -/
  | v4 (a b c d : UInt8)
  /-- Eight words, and the scope within which they count, or zero. -/
  | v6 (words : Vector UInt16 8) (scope : UInt32)
deriving DecidableEq, Inhabited

/-- A host and a port. -/
structure Endpoint where
  host : Host
  port : UInt16
deriving DecidableEq, Inhabited

namespace Host

/-- Four bytes as they are written: in decimal, with dots between them. -/
def bytesText (bytes : List Nat) : String := ".".intercalate (bytes.map toString)

/-- The longest run of zeros in a list, and the first of several: its place and its length. -/
def zeroRun (words : List UInt16) : Nat × Nat :=
  (List.range words.length).foldl
    (fun best place =>
      let count := ((words.drop place).takeWhile (· = 0)).length
      if best.2 < count then (place, count) else best)
    (0, 0)

/-- Words as they are written: in base sixteen, with colons between them. -/
def wordsText (words : List UInt16) : String :=
  ":".intercalate (words.map fun word => Hex.ofNat 1 word.toNat)

/-- The text of a host. The longest run of two or more zero words is left out, and four bytes in the
place reserved for them are written as such. -/
def toText : Host → String
  | v4 a b c d => bytesText [a.toNat, b.toNat, c.toNat, d.toNat]
  | v6 words _ =>
    match words.toList with
    | [0, 0, 0, 0, 0, 0xFFFF, high, low] =>
      let (high, low) := (high.toNat, low.toNat)
      "::ffff:" ++ bytesText [high / 256, high % 256, low / 256, low % 256]
    | words =>
      let (place, count) := zeroRun words
      if count < 2 then wordsText words
      else wordsText (words.take place) ++ "::" ++ wordsText (words.drop (place + count))

end Host

namespace Endpoint

/-- The text of an endpoint. Brackets hold a host of words and its scope, if it has one. -/
def toText (e : Endpoint) : String :=
  let host :=
    match e.host with
    | .v4 .. => e.host.toText
    | .v6 _ scope =>
      "[" ++ e.host.toText ++ (if scope = 0 then "" else "%" ++ toString scope.toNat) ++ "]"
  host ++ ":" ++ toString e.port.toNat

/-- The text after a character that it starts with. -/
def after? (c : Char) : List Char → Option (List Char)
  | [] => none
  | first :: rest => if first = c then some rest else none

/-- How a number is written: its base, a bound that it stays below, the most digits, and if zeros
may come first. -/
structure NumberForm where
  base : Nat
  bound : Nat
  longest : Option Nat := none
  zerosFirst : Bool := true

/-- A byte of a host. -/
def byteForm : NumberForm := { base := 10, bound := 256, longest := some 3, zerosFirst := false }

/-- A word of a host. -/
def wordForm : NumberForm := { base := 16, bound := 65536, longest := some 4 }

/-- A port. -/
def portForm : NumberForm := { base := 10, bound := 65536 }

/-- A scope. -/
def scopeForm : NumberForm := { base := 10, bound := 4294967296 }

/-- Reads a number with all the digits that come: the number and the text after it. -/
def number? (form : NumberForm) (text : List Char) : Option (Nat × List Char) := do
  let digits := text.takeWhile fun c => (Numeral.digit? form.base c).isSome
  let n ← Numeral.digits? form.base digits
  let tooLong := form.longest.any (· < digits.length)
  let zeroFirst := digits.head? = some '0' && 1 < digits.length
  if tooLong || (zeroFirst && !form.zerosFirst) || form.bound ≤ n then none
  else some (n, text.drop digits.length)

/-- Reads the four bytes of a host. -/
def bytes? (text : List Char) : Option ((UInt8 × UInt8 × UInt8 × UInt8) × List Char) := do
  let (a, rest) ← number? byteForm text
  let (b, rest) ← number? byteForm (← after? '.' rest)
  let (c, rest) ← number? byteForm (← after? '.' rest)
  let (d, rest) ← number? byteForm (← after? '.' rest)
  return ((UInt8.ofNat a, UInt8.ofNat b, UInt8.ofNat c, UInt8.ofNat d), rest)

/-- Reads words with colons between them, at most `limit` of them: the words, if the last two were
written as bytes, which ends them, and the text after them. -/
def words (first : Bool) : (limit : Nat) → List Char → List UInt16 × Bool × List Char
  | 0, text => ([], false, text)
  | limit + 1, text =>
    match if first then some text else after? ':' text with
    | none => ([], false, text)
    | some rest =>
      match if limit = 0 then none else bytes? rest with
      | some ((a, b, c, d), rest) =>
        let word (high low : UInt8) := UInt16.ofNat (high.toNat * 256 + low.toNat)
        ([word a b, word c d], true, rest)
      | none =>
        match number? wordForm rest with
        | none => ([], false, text)
        | some (n, rest) =>
          let (others, asBytes, rest) := words false limit rest
          (UInt16.ofNat n :: others, asBytes, rest)

/-- Eight words from a list that holds as many. -/
def eight? (words : List UInt16) : Option (Vector UInt16 8) :=
  if h : words.toArray.size = 8 then some ⟨words.toArray, h⟩ else none

/-- Reads a host of words. Two colons stand for the zeros that are left out. -/
def wordHost? (text : List Char) : Option (Vector UInt16 8 × List Char) := do
  let (head, asBytes, rest) := words true 8 text
  if head.length = 8 then return (← eight? head, rest)
  if asBytes then none
  else
    let (tail, _, rest) := words true (7 - head.length) (← after? ':' (← after? ':' rest))
    let zeros := List.replicate (8 - head.length - tail.length) 0
    return (← eight? (head ++ zeros ++ tail), rest)

/-- Reads the host of an endpoint. -/
def host? (text : List Char) : Option (Host × List Char) :=
  match bytes? text with
  | some ((a, b, c, d), rest) => some (.v4 a b c d, rest)
  | none => do
    let (words, rest) ← wordHost? (← after? '[' text)
    let (scope, rest) := ((after? '%' rest).bind (number? scopeForm)).getD (0, rest)
    return (.v6 words (UInt32.ofNat scope), ← after? ']' rest)

/-- The endpoint that a text names. -/
def parse? (text : String) : Option Endpoint := do
  let (host, rest) ← host? text.toList
  let (port, rest) ← number? portForm (← after? ':' rest)
  if rest.isEmpty then some ⟨host, UInt16.ofNat port⟩ else none

end Endpoint

end MotionCast
