/-! Lines of text: where a text breaks into lines, and numbers in it that are left out. -/

namespace MotionCast.Lines

/-- The pieces of a text between its line feeds. There is always one. -/
def pieces : List Char → List (List Char)
  | [] => [[]]
  | c :: rest =>
    if c = '\n' then [] :: pieces rest
    else
      match pieces rest with
      | [] => [[c]]
      | piece :: others => (c :: piece) :: others

/-- A line without the carriage return at its end, if it has one. -/
def trimReturn (line : List Char) : List Char :=
  if line.getLast? = some '\r' then line.dropLast else line

/-- The lines in which a message appears when a line feed follows it. -/
def ofMessage (message : String) : List String :=
  (pieces message.toList).map fun line => String.ofList (trimReturn line)

/-- The text with a word in the place of each number that comes right after a mark. -/
def hideNumbers (mark word text : String) : String :=
  let hide (piece : String) : String :=
    let rest := piece.toList.dropWhile Char.isDigit
    if rest.length = piece.length then piece else word ++ String.ofList rest
  match text.splitOn mark with
  | [] => text
  | first :: others => String.join (first :: others.map fun piece => mark ++ hide piece)

end MotionCast.Lines
