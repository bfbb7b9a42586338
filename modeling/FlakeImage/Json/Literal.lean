import FlakeImage.Json.Value
import FlakeImage.Number.Decimal
import FlakeImage.Text.Utf8

/-! # JSON literals

Numbers and strings as they are written in JSON text. Reading takes a literal off the front of the
text, or tells whether the text is `malformed` there or `truncated`. -/

namespace FlakeImage.Json

/-- Text to be read: the characters and broken runs of a byte string. -/
abbrev Input := List Utf8.Piece

/-- Why a text could not be read: it is wrong at some place, or ends too early. -/
inductive Fault
  | malformed
  | truncated
  deriving DecidableEq, Repr

/-- What a reader took off the front of a text, and the rest of it. -/
structure Taken (α : Type) where
  value : α
  rest : Input

/-- The same taken off, seen through `f`. -/
def Taken.map {α β : Type} (f : α → β) (t : Taken α) : Taken β := ⟨f t.value, t.rest⟩

/-- The text after the characters `w`. -/
def expect : List Char → Input → Except Fault Input
  | [], s => .ok s
  | _ :: _, [] => .error .truncated
  | c :: w, .char d :: s => if c = d then expect w s else .error .malformed
  | _ :: _, .broken _ :: _ => .error .malformed

/-! ## Numbers -/

/-- The digits of a number as they are written. -/
structure NumberText where
  negative : Bool
  whole : List Nat
  fraction : List Nat
  exponent : Option (Bool × List Nat)
  deriving Repr

/-- The digits in front of a text. -/
def digits : Input → Taken (List Nat)
  | .char c :: s =>
    match Number.digit? c with
    | some d => (digits s).map (d :: ·)
    | none => ⟨[], .char c :: s⟩
  | s => ⟨[], s⟩

/-- One or more digits. -/
def digits₁ (s : Input) : Except Fault (Taken (List Nat)) :=
  match s with
  | [] => .error .truncated
  | _ =>
    let r := digits s
    if r.value.isEmpty then .error .malformed else .ok r

/-- The digits before the point: no further digit follows a leading zero. -/
def wholeDigits (s : Input) : Except Fault (Taken (List Nat)) := do
  let r ← digits₁ s
  match r.value with
  | 0 :: _ :: _ => .error .malformed
  | _ => .ok r

/-- The digits after a point, if there is one. -/
def fractionDigits (s : Input) : Except Fault (Taken (List Nat)) :=
  match s with
  | .char '.' :: s => digits₁ s
  | s => .ok ⟨[], s⟩

/-- The sign and digits of an exponent: true for a minus sign. -/
def exponentDigits (s : Input) : Except Fault (Taken (Bool × List Nat)) :=
  match s with
  | .char '+' :: s => (digits₁ s).map (·.map (false, ·))
  | .char '-' :: s => (digits₁ s).map (·.map (true, ·))
  | s => (digits₁ s).map (·.map (false, ·))

def exponent? (s : Input) : Except Fault (Taken (Option (Bool × List Nat))) :=
  match s with
  | .char 'e' :: s => (exponentDigits s).map (·.map some)
  | .char 'E' :: s => (exponentDigits s).map (·.map some)
  | s => .ok ⟨none, s⟩

/-- A number after its sign. -/
def numberText (negative : Bool) (s : Input) : Except Fault (Taken NumberText) := do
  let w ← wholeDigits s
  let f ← fractionDigits w.rest
  let e ← exponent? f.rest
  .ok ⟨⟨negative, w.value, f.value, e.value⟩, e.rest⟩

namespace NumberText

/-- The number that digits write, as long as it stays within 64 bits, and the digits left over. -/
def significant (n : Nat) : List Nat → Nat × List Nat
  | [] => (n, [])
  | d :: r => if 10 * n + d ≤ Number.max64 then significant (10 * n + d) r else (n, d :: r)

/-- The number that digits write. -/
def ofDigits (l : List Nat) : Nat := l.foldl (fun n d => 10 * n + d) 0

/-- A double with a sign. -/
def real (negative : Bool) (x : Nat × Int) : Num := .real ⟨negative, x.1, x.2⟩

/-- The number for a significand and an exponent of ten. -/
def scaled (negative : Bool) (significand : Nat) (e : Int) : Option Num :=
  (Number.Double.scale? significand e).map (real negative)

/-- A whole number of 64 bits, or the double nearest to it; minus zero is a double. -/
def whole64 (negative : Bool) (n : Nat) : Num :=
  if !negative then .integer n
  else if n = 0 ∨ Nat.pow 2 63 < n then real true (Number.Double.nearest n 1)
  else .integer (-n)

/-- The number that is written. Digits beyond 64 bits count only by their place: a whole number as long
as that, or with a fraction or an exponent, is a double. There is none beyond the largest double. -/
def num? (t : NumberText) : Option Num :=
  let w := significant 0 t.whole
  if t.fraction.isEmpty ∧ t.exponent.isNone ∧ w.2.isEmpty then some (whole64 t.negative w.1)
  else
    let f := significant w.1 t.fraction
    let places : Int := (w.2.length : Int) - ((t.fraction.length : Int) - f.2.length)
    match t.exponent with
    | none => scaled t.negative f.1 places
    | some (down, e) =>
      scaled t.negative f.1 (if down then places - ofDigits e else places + ofDigits e)

end NumberText

/-! ## Strings -/

/-- The value of a hexadecimal digit. -/
def hexDigit? (c : Char) : Option Nat :=
  if '0' ≤ c ∧ c ≤ '9' then some (c.toNat - 48)
  else if 'a' ≤ c ∧ c ≤ 'f' then some (c.toNat - 87)
  else if 'A' ≤ c ∧ c ≤ 'F' then some (c.toNat - 55)
  else none

/-- The number of four hexadecimal digits. -/
def hex₄? : Utf8.Piece → Utf8.Piece → Utf8.Piece → Utf8.Piece → Option Nat
  | .char a, .char b, .char c, .char d => do
    let a ← hexDigit? a
    let b ← hexDigit? b
    let c ← hexDigit? c
    let d ← hexDigit? d
    some (((a * 16 + b) * 16 + c) * 16 + d)
  | _, _, _, _ => none

/-- What a text lacks that should go on with four digits and does not: it ends too early if it has
fewer than four bytes left. -/
def shortHex (s : Input) : Fault :=
  if (s.take 4).foldl (fun n p => n + p.size) 0 < 4 then .truncated else .malformed

/-- The character of an escape with one letter. -/
def simpleEscape? : Char → Option Char
  | '"' => some '"'
  | '\\' => some '\\'
  | '/' => some '/'
  | 'b' => some '\x08'
  | 'f' => some '\x0c'
  | 'n' => some '\n'
  | 'r' => some '\r'
  | 't' => some '\t'
  | _ => none

/-- The number is the first half of a surrogate pair. -/
def isHighSurrogate (n : Nat) : Bool := 0xD800 ≤ n && n ≤ 0xDBFF

/-- The number is the second half of a surrogate pair. -/
def isLowSurrogate (n : Nat) : Bool := 0xDC00 ≤ n && n ≤ 0xDFFF

/-- The character of a surrogate pair. -/
def ofSurrogates (high low : Nat) : Char :=
  Char.ofNat ((high - 0xD800) * 1024 + (low - 0xDC00) + 0x10000)

/-- The characters of a string so far, backwards, or nothing once a part of it denotes none. -/
abbrev Seen := Option (List Char)

/-- A unit that is no second half of a pair: a character, the first half of a pair to come, or a second
half that stands alone. -/
def addSingle (strict : Bool) (seen : Seen) (n : Nat) : Except Fault (Seen × Option Nat) :=
  if isHighSurrogate n then .ok (seen, some n)
  else if !isLowSurrogate n then .ok (seen.map (Char.ofNat n :: ·), none)
  else if strict then .error .malformed
  else .ok (none, none)

/-- An escaped unit after `high`, the first half of a pair if one is open. -/
def addUnit (strict : Bool) (seen : Seen) (high : Option Nat) (n : Nat) :
    Except Fault (Seen × Option Nat) :=
  match high with
  | none => addSingle strict seen n
  | some h =>
    if isLowSurrogate n then .ok (seen.map (ofSurrogates h n :: ·), none)
    else if strict then .error .malformed
    else addSingle strict none n

/-- What is seen where no second half follows: a first half that is open denotes nothing. -/
def unpaired (strict : Bool) (seen : Seen) (high : Option Nat) : Except Fault Seen :=
  if high.isNone then .ok seen else if strict then .error .malformed else .ok none

/-- The rest of a string up to its closing quote. A strict reading stops at half a surrogate pair, and at
the closing quote if a run before it is broken. -/
def stringFrom (strict : Bool) (seen : Seen) (high : Option Nat) :
    Input → Except Fault (Taken (Option String))
  | [] => .error .truncated
  | .char '"' :: s => do
    let seen ← unpaired strict seen high
    if strict && seen.isNone then .error .malformed
    else .ok ⟨seen.map fun l => String.ofList l.reverse, s⟩
  | [.char '\\'] => .error .truncated
  | .char '\\' :: .char 'u' :: a :: b :: c :: d :: s =>
    match hex₄? a b c d with
    | none => .error .malformed
    | some n => do
      let r ← addUnit strict seen high n
      stringFrom strict r.1 r.2 s
  | .char '\\' :: .char 'u' :: s => .error (shortHex s)
  | .char '\\' :: .char c :: s =>
    match simpleEscape? c with
    | none => .error .malformed
    | some c => do
      let seen ← unpaired strict seen high
      stringFrom strict (seen.map (c :: ·)) none s
  | .char '\\' :: .broken _ :: _ => .error .malformed
  | .char c :: s =>
    if c.toNat < 0x20 then .error .malformed
    else do
      let seen ← unpaired strict seen high
      stringFrom strict (seen.map (c :: ·)) none s
  | .broken _ :: s => do
    let _ ← unpaired strict seen high
    stringFrom strict none none s

/-- A string after its opening quote. -/
def stringText (strict : Bool) (s : Input) : Except Fault (Taken (Option String)) :=
  stringFrom strict (some []) none s

end FlakeImage.Json
