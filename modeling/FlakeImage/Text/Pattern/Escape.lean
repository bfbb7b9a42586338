import FlakeImage.Text.Pattern.Flags

/-! # Escapes in patterns

What a backslash makes of the characters after it: a character, a set of characters, or a condition. -/

namespace FlakeImage.Text.Pattern

/-- The smallest part of a pattern. -/
inductive Item
  /-- A character, which may be written as a single byte. -/
  | char (c : Char) (byte : Bool)
  | set (ranges : Ranges)
  | look (l : Look)
  deriving DecidableEq, Repr

/-- The value of a digit in base sixteen. -/
def hexValue? (c : Char) : Option Nat :=
  if c.isDigit then some (c.toNat - 48)
  else if 'a' ≤ c ∧ c ≤ 'f' then some (c.toNat - 87)
  else if 'A' ≤ c ∧ c ≤ 'F' then some (c.toNat - 55)
  else none

/-- The number that `count` digits in base sixteen write after those of `n`, and what follows. -/
def hexDigits? (f : Flags) (n : Nat) : Nat → List Char → Option (Nat × List Char)
  | 0, s => some (n, s)
  | count + 1, s =>
    match f.skip s with
    | [] => none
    | c :: r => (hexValue? c).bind fun d => hexDigits? f (16 * n + d) count r

/-- The character with a number in `count` digits, and what follows. -/
def hexChar? (f : Flags) (count : Nat) (s : List Char) : Option (Item × List Char) :=
  (hexDigits? f 0 count s).bind fun x =>
    if x.1.isValidChar then some (.char (Char.ofNat x.1) (count == 2), x.2) else none

/-- The digits, the white space and the characters of words. -/
def classes : List (Char × Ranges) := [
  ('d', [(0x30, 0x39)]),
  ('s', [(0x09, 0x0D), (0x20, 0x20)]),
  ('w', [(0x30, 0x39), (0x41, 0x5A), (0x5F, 0x5F), (0x61, 0x7A)])]

def controls : List (Char × Char) :=
  [('a', '\x07'), ('f', '\x0c'), ('t', '\t'), ('n', '\n'), ('r', '\r'), ('v', '\x0b')]

/-- The conditions on the ends of the text. -/
def textEnds : List (Char × Look) := [('A', .textStart), ('z', .textEnd)]

/-- The conditions on words. -/
def wordLooks : List (Char × Look) :=
  [('b', .wordBorder), ('B', .noWordBorder), ('<', .wordStart), ('>', .wordEnd)]

/-- What a letter or one of the signs `<` and `>` means after a backslash. The sets and the conditions on words
know ASCII only. -/
def letterItem? (f : Flags) (c : Char) : Option Item :=
  match controls.lookup c with
  | some c => some (.char c false)
  | none =>
    match textEnds.lookup c with
    | some l => some (.look l)
    | none =>
      if f.unicode then none
      else
        match wordLooks.lookup c with
        | some l => some (.look l)
        | none => (classes.lookup c).map .set

/-- What a backslash makes of the text after it, and what follows. -/
def escape? (f : Flags) : List Char → Option (Item × List Char)
  | [] => none
  | 'x' :: r => hexChar? f 2 r
  | 'u' :: r => hexChar? f 4 r
  | 'U' :: r => hexChar? f 8 r
  | c :: r =>
    if c.isAlpha || c == '<' || c == '>' then (letterItem? f c).map (·, r)
    else if c.isDigit || 0x7F < c.toNat then none
    else some (.char c false, r)

end FlakeImage.Text.Pattern
