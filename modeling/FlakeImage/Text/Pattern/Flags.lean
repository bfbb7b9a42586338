import FlakeImage.Text.Blank
import FlakeImage.Text.Pattern

/-! # Flags of patterns

How a pattern is to be read. Small and large letters are known of ASCII alone, so no character can be read with
its case ignored while `unicode` is set. -/

namespace FlakeImage.Text.Pattern

/-- How a part of a pattern is read. -/
structure Flags where
  ignoreCase : Bool := false
  /-- `^` and `$` stand for the ends of lines. -/
  multiLine : Bool := false
  /-- `.` stands for the end of a line too. -/
  dotAll : Bool := false
  /-- Repetitions are greedy if they are marked, and not otherwise. -/
  swapGreed : Bool := false
  /-- Sets may hold all characters, not ASCII alone. -/
  unicode : Bool := true
  /-- Carriage returns end lines too. -/
  returns : Bool := false
  /-- White space and comments are left out. -/
  spaced : Bool := false
  deriving DecidableEq, Repr

namespace Flags

/-- The flags with the one of a letter set or cleared. -/
def set? (f : Flags) (letter : Char) (value : Bool) : Option Flags :=
  match letter with
  | 'i' => some { f with ignoreCase := value }
  | 'm' => some { f with multiLine := value }
  | 's' => some { f with dotAll := value }
  | 'U' => some { f with swapGreed := value }
  | 'u' => some { f with unicode := value }
  | 'R' => some { f with returns := value }
  | 'x' => some { f with spaced := value }
  | _ => none

/-- Reads letters, after those in `seen`: the flags that they set, or clear after a minus sign, if a colon ends
them, and what follows. Each may be there once, and a minus sign not last. -/
def read (f : Flags) (seen : List Char) : List Char → Option (Flags × Bool × List Char)
  | [] => none
  | ':' :: r => if seen.head? = some '-' then none else some (f, true, r)
  | ')' :: r => if seen.head? = some '-' then none else some (f, false, r)
  | c :: r =>
    if seen.contains c then none
    else if c = '-' then read f (c :: seen) r
    else (f.set? c (!seen.contains '-')).bind fun f => read f (c :: seen) r

/-- The pattern without white space and comments in front, after a comment up to its end if one has begun. -/
def skipFrom (inComment : Bool) : List Char → List Char
  | [] => []
  | c :: r =>
    if inComment then skipFrom (c != '\n') r
    else if isBlank c then skipFrom false r
    else if c = '#' then skipFrom true r
    else c :: r

/-- The pattern without what is left out in front. -/
def skip (f : Flags) (s : List Char) : List Char := if f.spaced then skipFrom false s else s

/-- The other form of a letter. -/
def otherCase (c : Char) : Char := if c.isUpper then c.toLower else c.toUpper

/-- The set as it is read: with both forms of each letter if case is ignored, and not beyond ASCII without
`unicode`. -/
def charSet? (f : Flags) (set : Ranges) : Option Ranges :=
  if !f.ignoreCase then if f.unicode || set.isAscii then some set else none
  else if f.unicode then if set.isEmpty then some set else none
  else if set.isAscii then
    some (set ++ (((List.range 0x80).map Char.ofNat).filter set.holds).flatMap (Ranges.single ∘ otherCase))
  else none

end Flags

end FlakeImage.Text.Pattern
