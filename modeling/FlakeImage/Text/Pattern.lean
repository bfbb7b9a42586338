import FlakeImage.Text.Ranges

/-! # Patterns

A pattern describes pieces of text, and says which of several is preferred: an earlier branch rather than a
later one, and more repetitions rather than fewer if the pattern is greedy. The conditions on spots take a
text byte by byte, so that there are spots within a character; words are ASCII. -/

namespace FlakeImage.Text

/-- A spot in a text: the character before it, if there is one, and the text after it. At a spot within a
character that character is on both sides. -/
structure Spot where
  before : Option Char
  after : List Char
  deriving DecidableEq, Repr

/-- A condition on a spot. The ends of lines are line feeds; if `returns` is set, carriage returns are too. -/
inductive Look
  | textStart
  | textEnd
  | lineStart (returns : Bool)
  | lineEnd (returns : Bool)
  | wordBorder
  | noWordBorder
  | wordStart
  | wordEnd
  deriving DecidableEq, Repr

/-- A description of pieces of text. -/
inductive Pattern
  | empty
  /-- These characters. -/
  | literal (chars : List Char)
  /-- One character of a set, which is written as a set of any characters or as one of ASCII. -/
  | one (unicode : Bool) (set : Ranges)
  /-- Nothing, at a spot of this kind. -/
  | look (l : Look)
  /-- One after the other. -/
  | seq (a b : Pattern)
  /-- One of both, rather the first. -/
  | either (a b : Pattern)
  /-- The pattern or nothing; if it is not greedy, rather nothing. -/
  | optional (greedy : Bool) (p : Pattern)
  /-- The pattern once or more; if it is not greedy, as few times as possible. -/
  | repeated (greedy : Bool) (p : Pattern)
  /-- The pattern any number of times; if it is not greedy, as few times as possible. -/
  | any (greedy : Bool) (p : Pattern)
  /-- A group, which has a number of its own. -/
  | group (number : Nat) (p : Pattern)
  deriving DecidableEq, Repr

/-- The least number of characters that a pattern takes; none if there is a set without characters in it. -/
def Pattern.least : Pattern → Option Nat
  | empty => some 0
  | literal chars => some chars.length
  | one _ set => if set.isEmpty then none else some 1
  | look _ => some 0
  | seq a b => a.least.bind fun m => b.least.map (m + ·)
  | either a b => a.least.bind fun m => b.least.map (min m)
  | optional _ p => p.least.map fun _ => 0
  | repeated _ p => p.least
  | any _ p => p.least.map fun _ => 0
  | group _ p => p.least

def isWordChar (c : Char) : Bool := c.isAlphanum || c == '_'

namespace Look

/-- A line starts at the spot. Between a carriage return and a line feed none does. -/
def isLineStart (returns : Bool) (s : Spot) : Bool :=
  match s.before with
  | none => true
  | some c => c == '\n' || (returns && c == '\r' && s.after.head? != some '\n')

/-- A line ends at the spot. -/
def isLineEnd (returns : Bool) (s : Spot) : Bool :=
  match s.after with
  | [] => true
  | c :: _ => if returns then c == '\r' || (c == '\n' && s.before != some '\r') else c == '\n'

/-- The condition holds at the spot. -/
def holds (l : Look) (s : Spot) : Bool :=
  let left := s.before.any isWordChar
  let right := s.after.head?.any isWordChar
  match l with
  | textStart => s.before.isNone
  | textEnd => s.after.isEmpty
  | lineStart returns => isLineStart returns s
  | lineEnd returns => isLineEnd returns s
  | wordBorder => left != right
  | noWordBorder => left == right
  | wordStart => !left && right
  | wordEnd => left && !right

end Look

end FlakeImage.Text
