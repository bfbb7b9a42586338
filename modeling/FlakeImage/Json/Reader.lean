import FlakeImage.Json.Literal
import FlakeImage.Json.Tree

/-! # Reading JSON text

`Tree.read` reads a text of which it takes every part to be a value. A strict reading refuses, where they
stand, literals that denote nothing and nesting beyond `maxDepth`; a loose one lets both pass. -/

namespace FlakeImage.Json

/-- The white space of JSON text. -/
def isSpace (c : Char) : Bool := c == ' ' || c == '\n' || c == '\t' || c == '\r'

/-- The text after its leading white space. -/
def skipSpace : Input → Input
  | .char c :: s => if isSpace c then skipSpace s else .char c :: s
  | s => s

/-- A reader of one value. -/
abbrev ItemReader := Input → Except Fault (Taken Tree)

/-- The items of an array from its first on, up to the closing bracket. `room` bounds their number. -/
def itemsFrom (item : ItemReader) : Nat → Input → Except Fault (Taken (List Tree))
  | 0, _ => .error .malformed
  | room + 1, s => do
    let v ← item s
    match skipSpace v.rest with
    | [] => .error .truncated
    | .char ']' :: s => .ok ⟨[v.value], s⟩
    | .char ',' :: s => (itemsFrom item room s).map (·.map (v.value :: ·))
    | _ => .error .malformed

/-- The items of an array after its opening bracket. -/
def items (room : Nat) (item : ItemReader) (s : Input) : Except Fault (Taken (List Tree)) :=
  match skipSpace s with
  | [] => .error .truncated
  | .char ']' :: s => .ok ⟨[], s⟩
  | s => itemsFrom item room s

/-- A member after the opening quote of its name. -/
def member (strict : Bool) (item : ItemReader) (s : Input) :
    Except Fault (Taken (Option String × Tree)) := do
  let name ← stringText strict s
  match skipSpace name.rest with
  | [] => .error .truncated
  | .char ':' :: s => (item s).map (·.map (name.value, ·))
  | _ => .error .malformed

/-- The members of an object after the opening quote of the first name, up to the closing brace. `room`
bounds their number. -/
def membersFrom (strict : Bool) (item : ItemReader) :
    Nat → Input → Except Fault (Taken (List (Option String × Tree)))
  | 0, _ => .error .malformed
  | room + 1, s => do
    let v ← member strict item s
    match skipSpace v.rest with
    | [] => .error .truncated
    | .char '\x7d' :: s => .ok ⟨[v.value], s⟩
    | .char ',' :: s =>
      match skipSpace s with
      | [] => .error .truncated
      | .char '"' :: s => (membersFrom strict item room s).map (·.map (v.value :: ·))
      | _ => .error .malformed
    | _ => .error .malformed

/-- The members of an object after its opening brace. -/
def members (strict : Bool) (room : Nat) (item : ItemReader) (s : Input) :
    Except Fault (Taken (List (Option String × Tree))) :=
  match skipSpace s with
  | [] => .error .truncated
  | .char '\x7d' :: s => .ok ⟨[], s⟩
  | .char '"' :: s => membersFrom strict item room s
  | _ => .error .malformed

/-- A number after its sign, as a tree. -/
def numberTree (strict : Bool) (negative : Bool) (s : Input) : Except Fault (Taken Tree) := do
  let r ← numberText negative s
  match strict, r.value.num? with
  | true, none => .error .malformed
  | _, n => .ok ⟨.number n, r.rest⟩

/-- A value whose items and members are read by `inner`; without it, one that has none. No array and no
object in it has more than `room` of them. -/
def valueWith (strict : Bool) (room : Nat) (inner : Option ItemReader) (s : Input) :
    Except Fault (Taken Tree) :=
  match skipSpace s with
  | [] => .error .truncated
  | .char 'n' :: s => (expect ['u', 'l', 'l'] s).map fun s => ⟨.null, s⟩
  | .char 't' :: s => (expect ['r', 'u', 'e'] s).map fun s => ⟨.bool true, s⟩
  | .char 'f' :: s => (expect ['a', 'l', 's', 'e'] s).map fun s => ⟨.bool false, s⟩
  | .char '"' :: s => (stringText strict s).map (·.map .string)
  | .char '-' :: s => numberTree strict true s
  | .char '[' :: s =>
    match inner with
    | none => .error .malformed
    | some item => (items room item s).map (·.map .array)
  | .char '\x7b' :: s =>
    match inner with
    | none => .error .malformed
    | some item => (members strict room item s).map (·.map .object)
  | .char c :: s =>
    if (Number.digit? c).isSome then numberTree strict false (.char c :: s) else .error .malformed
  | .broken _ :: _ => .error .malformed

/-- A value whose arrays and objects are nested at most `depth` deep. -/
def valueWithin (strict : Bool) (room : Nat) : Nat → ItemReader
  | 0 => valueWith strict room none
  | depth + 1 => valueWith strict room (some (valueWithin strict room depth))

/-- A text that holds one value and white space. The length of the text is room enough. -/
def wholeText (strict : Bool) (depth : Nat) (s : Input) : Except Fault Tree := do
  let r ← valueWithin strict (s.length + 1) depth s
  if (skipSpace r.rest).isEmpty then .ok r.value else .error .malformed

/-- How deep arrays and objects may be nested. -/
def maxDepth : Nat := 127

namespace Tree

/-- The tree of a text, where every literal denotes something. -/
def readStrict (s : Input) : Except Fault Tree := wholeText true maxDepth s

/-- The tree of a text by its shape alone. -/
def readLoose (s : Input) : Except Fault Tree := wholeText false s.length s

end Tree

/-- The value of a text. -/
def Value.read (s : Input) : Except Fault Value := do
  let t ← Tree.readStrict s
  match t.value? with
  | some v => .ok v
  | none => .error .malformed

/-- The value of a byte string. -/
def Value.ofBytes (b : Bytes) : Except Fault Value := Value.read (Utf8.pieces b)

end FlakeImage.Json
