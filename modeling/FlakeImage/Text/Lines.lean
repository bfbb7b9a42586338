import FlakeImage.Text.Blank

/-! # Lines

A line ends with a line feed, which may follow one carriage return; both belong to the ending. What
follows the last line feed is a line if it is not empty, and keeps its carriage returns. -/

namespace FlakeImage.Text

/-- `s`, written backwards, without a carriage return at its end. -/
def dropCarriageReturn : List Char → List Char
  | '\r' :: s => s
  | s => s

/-- The lines of a text that goes on from `line`, an unfinished line written backwards. -/
def linesFrom (line : List Char) : List Char → List (List Char)
  | [] => if line.isEmpty then [] else [line.reverse]
  | '\n' :: s => (dropCarriageReturn line).reverse :: linesFrom [] s
  | c :: s => linesFrom (c :: line) s

/-- The lines of a text, without their endings. -/
def lines (s : List Char) : List (List Char) := linesFrom [] s

def isLineEnd (c : Char) : Bool := c == '\r' || c == '\n'

/-- `s` without the line endings at its end. -/
def chomp (s : List Char) : List Char := dropEndWhile isLineEnd s

end FlakeImage.Text
