import FlakeImage.Text.Pattern.Escape
import FlakeImage.Text.Pattern.Nesting

/-! # Sets of characters in patterns

A set stands in brackets: characters, ranges of them, sets with names and sets in brackets of their own, all
together, and such unions may be combined by operations, from the left to the right. -/

namespace FlakeImage.Text.Pattern

/-- How two sets are combined. -/
inductive SetOp
  | inter
  | diff
  | symmDiff
  deriving DecidableEq, Repr

/-- The combined set. -/
def SetOp.apply : SetOp → Ranges → Ranges → Ranges
  | inter, s, t => s.inter t
  | diff, s, t => s.diff t
  | symmDiff, s, t => s.symmDiff t

/-- A set that is being read: what stands before the last operation, and the union after it. -/
structure OpenClass where
  negated : Bool
  operand : Option (Written Ranges × SetOp) := none
  union : List (Written Ranges) := []
  deriving DecidableEq, Repr

/-- The sets with names. -/
def namedClasses : List (String × Ranges) := [
  ("alnum", [(0x30, 0x39), (0x41, 0x5A), (0x61, 0x7A)]),
  ("alpha", [(0x41, 0x5A), (0x61, 0x7A)]),
  ("ascii", [(0x00, 0x7F)]),
  ("blank", [(0x09, 0x09), (0x20, 0x20)]),
  ("cntrl", [(0x00, 0x1F), (0x7F, 0x7F)]),
  ("digit", [(0x30, 0x39)]),
  ("graph", [(0x21, 0x7E)]),
  ("lower", [(0x61, 0x7A)]),
  ("print", [(0x20, 0x7E)]),
  ("punct", [(0x21, 0x2F), (0x3A, 0x40), (0x5B, 0x60), (0x7B, 0x7E)]),
  ("space", [(0x09, 0x0D), (0x20, 0x20)]),
  ("upper", [(0x41, 0x5A)]),
  ("word", [(0x30, 0x39), (0x41, 0x5A), (0x5F, 0x5F), (0x61, 0x7A)]),
  ("xdigit", [(0x30, 0x39), (0x41, 0x46), (0x61, 0x66)])]

namespace OpenClass

/-- The set with one more item in the union. -/
def add (o : OpenClass) (item : Written Ranges) : OpenClass := { o with union := o.union ++ [item] }

/-- The union as one set. -/
def items (o : OpenClass) : Written Ranges := ⟨o.union.flatMap (·.value), rowDepth (o.union.map (·.depth))⟩

/-- What has been read, the last operation carried out. -/
def combined? (f : Flags) (o : OpenClass) : Option (Written Ranges) :=
  let t := o.items
  match o.operand with
  | none => some t
  | some (s, op) =>
    (f.charSet? s.value).bind fun a =>
      (f.charSet? t.value).map fun b => ⟨op.apply a b, rowDepth [s.depth, t.depth]⟩

/-- An operation begins. -/
def combine? (f : Flags) (o : OpenClass) (op : SetOp) : Option OpenClass :=
  (o.combined? f).map fun s => { o with operand := some (s, op), union := [] }

/-- A set as it is read, or its complement. -/
def finished? (f : Flags) (negated : Bool) (set : Ranges) : Option Ranges :=
  (f.charSet? set).bind fun s =>
    let s := if negated then s.complement else s
    if f.unicode || s.isAscii then some s else none

/-- The whole set. -/
def close? (f : Flags) (o : OpenClass) : Option (Written Ranges) :=
  (o.combined? f).bind fun w => (finished? f o.negated w.value).map w.within

end OpenClass

/-- Minus signs that begin a set, and what follows them. -/
def readDashes (f : Flags) (o : OpenClass) : List Char → OpenClass × List Char
  | '-' :: r => readDashes f (o.add ⟨Ranges.single '-', 0⟩) r
  | c :: r => if f.spaced && isBlank c then readDashes f o r else (o, c :: r)
  | [] => (o, [])

/-- The beginning of a set: a sign for the complement, minus signs, and a bracket that closes nothing yet. -/
def openClass (f : Flags) (s : List Char) : OpenClass × List Char :=
  let x : OpenClass × List Char :=
    match f.skip s with
    | '^' :: r => ({ negated := true }, f.skip r)
    | s => ({ negated := false }, s)
  let y := readDashes f x.1 x.2
  match y.1.union, y.2 with
  | [], ']' :: r => (y.1.add ⟨Ranges.single ']', 0⟩, r)
  | _, _ => y

/-- A set with a name, after its first bracket, and what follows. -/
def named? (f : Flags) (s : List Char) : Option (Option Ranges × List Char) :=
  match s with
  | ':' :: s =>
    let negated := s.head? == some '^'
    let s := if negated then s.tail else s
    let name := s.takeWhile (· != ':')
    match s.drop name.length with
    | ':' :: ']' :: r =>
      (namedClasses.lookup (String.ofList name)).map fun set => (OpenClass.finished? f negated set, r)
    | _ => none
  | _ => none

/-- A character or an escape, and what follows. -/
def classItem? (f : Flags) : List Char → Option (Item × List Char)
  | [] => none
  | '\\' :: r => escape? f r
  | c :: r => some (.char c false, r)

/-- The number of a character that can stand in a set. -/
def classChar? (f : Flags) : Item → Option Nat
  | .char c _ => if f.unicode || c.toNat < 0x80 then some c.toNat else none
  | _ => none

/-- The set of an item by itself. -/
def itemSet? (f : Flags) : Item → Option Ranges
  | .set ranges => some ranges
  | item => (classChar? f item).map fun n => [(n, n)]

/-- A range of characters or one item, and what follows. -/
def classRange? (f : Flags) (s : List Char) : Option (Ranges × List Char) :=
  (classItem? f s).bind fun (first, r) =>
    match f.skip r with
    | [] => none
    | '-' :: r' =>
      match f.skip r' with
      | [] => none
      | ']' :: _ => (itemSet? f first).map (·, '-' :: r')
      | '-' :: _ => (itemSet? f first).map (·, '-' :: r')
      | r'' =>
        (classItem? f r'').bind fun (second, rest) =>
          match classChar? f first, classChar? f second with
          | some a, some b => if a ≤ b then some ([(a, b)], rest) else none
          | _, _ => none
    | r' => (itemSet? f first).map (·, r')

/-- Reads a set up to the bracket that closes it, within the sets `outer`, in at most `n` steps; gives the set
and what follows. -/
def readClass (f : Flags) : Nat → List OpenClass → OpenClass → List Char → Option (Written Ranges × List Char)
  | 0, _, _, _ => none
  | n + 1, outer, o, s =>
    match f.skip s with
    | [] => none
    | '[' :: r =>
      match named? f r with
      | some (set, rest) => set.bind fun set => readClass f n outer (o.add ⟨set, 0⟩) rest
      | none => readClass f n (o :: outer) (openClass f r).1 (openClass f r).2
    | ']' :: r =>
      (o.close? f).bind fun set =>
        match outer with
        | [] => some (set, r)
        | p :: outer => readClass f n outer (p.add set) r
    | '&' :: '&' :: r => (o.combine? f .inter).bind fun o => readClass f n outer o r
    | '-' :: '-' :: r => (o.combine? f .diff).bind fun o => readClass f n outer o r
    | '~' :: '~' :: r => (o.combine? f .symmDiff).bind fun o => readClass f n outer o r
    | s => (classRange? f s).bind fun (set, rest) => readClass f n outer (o.add ⟨set, 0⟩) rest

/-- The set after an opening bracket, and what follows. -/
def class? (f : Flags) (s : List Char) : Option (Written Ranges × List Char) :=
  readClass f (s.length + 1) [] (openClass f s).1 (openClass f s).2

end FlakeImage.Text.Pattern
