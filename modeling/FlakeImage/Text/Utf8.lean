/-! # UTF-8

`pieces` cuts a byte string into characters and maximal broken runs: where the bytes from some
point on begin no character, the run is the longest beginning of a character found there, or else
one byte. Every reading of bytes as text in this library is a view of `pieces`: `text` accepts a
string without broken runs, `lossy` shows each broken run as one replacement character. -/

namespace FlakeImage

/-- A byte string, as files, streams and programs hold it. -/
abbrev Bytes := List UInt8

namespace Utf8

/-- One character, or a run of bytes that is part of none. -/
inductive Piece
  | char (c : Char)
  | broken (bytes : Bytes)
  deriving DecidableEq, Repr

/-- How many bytes a character takes that begins with `a`; zero if none does. -/
def width (a : UInt8) : Nat :=
  if a < 0x80 then 1
  else if a < 0xC2 then 0
  else if a < 0xE0 then 2
  else if a < 0xF0 then 3
  else if a < 0xF5 then 4
  else 0

/-- The second byte of a character: the bounds leave out overlong forms, surrogates and numbers
beyond the last character. -/
def isSecond (a b : UInt8) : Bool :=
  (if a = 0xE0 then 0xA0 else if a = 0xF0 then 0x90 else 0x80) ≤ b &&
    b ≤ (if a = 0xED then 0x9F else if a = 0xF4 then 0x8F else 0xBF)

/-- Every byte of a character after its second. -/
def isTail (b : UInt8) : Bool := 0x80 ≤ b && b ≤ 0xBF

/-- The six bits that a byte after the first carries. -/
def low (b : UInt8) : Nat := b.toNat - 0x80

/-- The character of two bytes. -/
def char₂ (a b : UInt8) : Char := Char.ofNat ((a.toNat - 0xC0) * 64 + low b)

/-- The character of three bytes. -/
def char₃ (a b c : UInt8) : Char := Char.ofNat (((a.toNat - 0xE0) * 64 + low b) * 64 + low c)

/-- The character of four bytes. -/
def char₄ (a b c d : UInt8) : Char :=
  Char.ofNat ((((a.toNat - 0xF0) * 64 + low b) * 64 + low c) * 64 + low d)

/-- What a byte makes of the characters' beginnings before it. -/
inductive Extension
  | whole (c : Char)
  | begun (bytes : Bytes)
  | refused
  deriving DecidableEq, Repr

/-- The byte `b` after `begun`, the beginning of a character: it completes the character, goes on
with it, or cannot be part of it. -/
def extend : Bytes → UInt8 → Extension
  | [], b =>
    if width b = 1 then .whole (Char.ofNat b.toNat) else if width b = 0 then .refused else .begun [b]
  | [a], b =>
    if !isSecond a b then .refused else if width a = 2 then .whole (char₂ a b) else .begun [a, b]
  | [a, b], c =>
    if !isTail c then .refused else if width a = 3 then .whole (char₃ a b c) else .begun [a, b, c]
  | [a, b, c], d => if !isTail d then .refused else .whole (char₄ a b c d)
  | _, _ => .refused

/-- The pieces for a byte that is not in the middle of a character, and what is begun after it. -/
def start (b : UInt8) : List Piece × Bytes :=
  match extend [] b with
  | .whole c => ([.char c], [])
  | .begun m => ([], m)
  | .refused => ([.broken [b]], [])

/-- The pieces that are complete with the byte `b`, and what is begun after it. -/
def step (begun : Bytes) (b : UInt8) : List Piece × Bytes :=
  match extend begun b with
  | .whole c => ([.char c], [])
  | .begun m => ([], m)
  | .refused => if begun.isEmpty then start b else (.broken begun :: (start b).1, (start b).2)

/-- The pieces of the bytes that come after `begun`, the beginning of a character. -/
def piecesFrom (begun : Bytes) : Bytes → List Piece
  | [] => if begun.isEmpty then [] else [.broken begun]
  | b :: r => (step begun b).1 ++ piecesFrom (step begun b).2 r

/-- The characters and broken runs of a byte string, in order. -/
def pieces (b : Bytes) : List Piece := piecesFrom [] b

/-- The character that stands where bytes could not be read. -/
def replacement : Char := '\uFFFD'

/-- The pieces of a text that is known. -/
def Piece.ofText (s : List Char) : List Piece := s.map .char

def Piece.shown : Piece → Char
  | .char c => c
  | .broken _ => replacement

/-- The characters shown for a byte string. -/
def shown (b : Bytes) : List Char := (pieces b).map Piece.shown

/-- The text shown for a byte string: one replacement character for each broken run. -/
def lossy (b : Bytes) : String := String.ofList (shown b)

def encodeChar (c : Char) : Bytes :=
  let n := c.toNat
  if n < 0x80 then [.ofNat n]
  else if n < 0x800 then [.ofNat (0xC0 + n / 64), .ofNat (0x80 + n % 64)]
  else if n < 0x10000 then
    [.ofNat (0xE0 + n / 4096), .ofNat (0x80 + n / 64 % 64), .ofNat (0x80 + n % 64)]
  else
    [.ofNat (0xF0 + n / 262144), .ofNat (0x80 + n / 4096 % 64), .ofNat (0x80 + n / 64 % 64),
      .ofNat (0x80 + n % 64)]

/-- The bytes of a text. -/
def encode (s : String) : Bytes := s.toList.flatMap encodeChar

/-- How many bytes a piece stands for. -/
def Piece.size : Piece → Nat
  | .char c => (encodeChar c).length
  | .broken bytes => bytes.length

/-- Where a byte string stops to be text: so many bytes are text, and the broken run after them has so many
bytes, or else ends with the string and might have become a character. -/
structure Flaw where
  index : Nat
  size : Option Nat
  deriving DecidableEq, Repr

/-- The bytes are the beginning of a character. -/
def opens : Bytes → Bool
  | [] => false
  | a :: _ => width a != 0

/-- The flaw of a broken run at an index, which may be the last piece. -/
def Flaw.ofRun (index : Nat) (run : Bytes) (isLast : Bool) : Flaw :=
  ⟨index, if isLast && opens run then none else some run.length⟩

/-- The flaw in words. -/
def Flaw.message (f : Flaw) : String :=
  let start :=
    match f.size with
    | some n => "invalid utf-8 sequence of " ++ toString n ++ " bytes"
    | none => "incomplete utf-8 byte sequence"
  start ++ " from index " ++ toString f.index

/-- The characters of pieces after so many bytes, if no run is broken. -/
def soundFrom (index : Nat) : List Piece → Except Flaw (List Char)
  | [] => .ok []
  | .char c :: r => (soundFrom (index + (Piece.char c).size) r).map (c :: ·)
  | .broken run :: r => .error (.ofRun index run r.isEmpty)

/-- The text that the bytes spell, or their first flaw. -/
def text (b : Bytes) : Except Flaw String := (soundFrom 0 (pieces b)).map String.ofList

end Utf8

end FlakeImage
