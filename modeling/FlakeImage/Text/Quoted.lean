import FlakeImage.Text.Hidden
import FlakeImage.Text.Utf8

/-! # Quoted text

Quoting shows any text on one line between two quotes: a character that would not be seen as
itself is written as an escape, and a backslash stands only in escapes. -/

namespace FlakeImage.Text

/-- The digit for a number below sixteen, with small letters. -/
def hexDigit (n : Nat) : Char :=
  if n < 10 then Char.ofNat (48 + n) else Char.ofNat (87 + n)

/-- `n` in base sixteen, without leading zeros. -/
def hex (n : Nat) : List Char :=
  if n < 16 then [hexDigit n] else hex (n / 16) ++ [hexDigit (n % 16)]

/-- A character as it stands in quoted text. -/
def escape (c : Char) : List Char :=
  if c = '"' then ['\\', '"']
  else if c = '\\' then ['\\', '\\']
  else if c = '\n' then ['\\', 'n']
  else if c = '\r' then ['\\', 'r']
  else if c = '\t' then ['\\', 't']
  else if c = '\x00' then ['\\', '0']
  else if isJoining c || isHidden c then ['\\', 'u', '\x7b'] ++ hex c.toNat ++ ['\x7d']
  else [c]

/-- The text between two quotes, with escapes. -/
def quoted (s : List Char) : List Char := '"' :: (s.flatMap escape ++ ['"'])

/-- The quoted form of a text. -/
def quote (s : String) : String := String.ofList (quoted s.toList)

/-- A byte that is part of no character, as two digits with large letters. -/
def escapeByte (b : UInt8) : List Char :=
  '\\' :: 'x' :: [(hexDigit (b.toNat / 16)).toUpper, (hexDigit (b.toNat % 16)).toUpper]

/-- A piece of a byte string in quotes. -/
def escapePiece : Utf8.Piece → List Char
  | .char c => escape c
  | .broken bytes => bytes.flatMap escapeByte

/-- The quoted form of a byte string. -/
def quoteBytes (b : Bytes) : String :=
  String.ofList ('"' :: ((Utf8.pieces b).flatMap escapePiece ++ ['"']))

end FlakeImage.Text
