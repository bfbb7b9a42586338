import FlakeImage.Json.Printer

/-! # Decoding JSON values

A decoder turns a value into something of a type, or says in words what was found where something else
was expected. A record is an object with its fields as members, looked at in the order of their names,
or an array of its fields in order; members that are no fields are passed over. -/

namespace FlakeImage.Json

/-- A decoder: what went wrong, or the result. -/
abbrev Decoder (α : Type) := Value → Except String α

namespace Value

/-- What a value is, in words. -/
def describe : Value → String
  | .null => "null"
  | .bool true => "boolean `true`"
  | .bool false => "boolean `false`"
  | .number (.integer i) => "integer `" ++ toString i ++ "`"
  | .number (.real d) => "floating point `" ++ d.text ++ "`"
  | .string s => "string " ++ Text.quote s
  | .array _ => "sequence"
  | .object _ => "map"

/-- A value of another type than expected. -/
def mismatch (v : Value) (expected : String) : String :=
  "invalid type: " ++ v.describe ++ ", expected " ++ expected

def outOfRange (v : Value) (expected : String) : String :=
  "invalid value: " ++ v.describe ++ ", expected " ++ expected

end Value

def missingField (name : String) : String := "missing field `" ++ name ++ "`"

/-- A list of the wrong length. -/
def wrongLength (n : Nat) (expected : String) : String :=
  "invalid length " ++ toString n ++ ", expected " ++ expected

/-- A number of things with their noun. -/
def counted (n : Nat) : String := if n = 1 then "1 element" else toString n ++ " elements"

namespace Decoder

/-- A truth value. -/
def bool : Decoder Bool
  | .bool b => .ok b
  | v => .error (v.mismatch "a boolean")

/-- A text, which an error calls `expected`. -/
def textAs (expected : String) : Decoder String
  | .string s => .ok s
  | v => .error (v.mismatch expected)

def text : Decoder String := textAs "a string"

/-- A text or null. -/
def text? : Decoder (Option String)
  | .null => .ok none
  | v => (text v).map some

/-- A whole number from zero to `max`; an error calls its type `name`. -/
def natural (max : Nat) (name : String) : Decoder Nat
  | .number (.integer i) =>
    if 0 ≤ i ∧ i ≤ max then .ok i.toNat
    else .error ((Value.number (.integer i)).outOfRange name)
  | v => .error (v.mismatch name)

def field? {α : Type} (members : Members) (name : String) (d : Decoder α) :
    Except String (Option α) :=
  match Members.get? members name with
  | none => .ok none
  | some v => (d v).map some

/-- A field that has to be there. -/
def required {α : Type} (name : String) : Option α → Except String α
  | some a => .ok a
  | none => .error (missingField name)

/-- The item at a place of an array that has to have it; the array stands for a record that an error
calls `expected`. -/
def item {α : Type} (items : List Value) (i : Nat) (expected : String) (d : Decoder α) :
    Except String α :=
  match items[i]? with
  | some v => d v
  | none => .error (wrongLength i expected)

/-- The array has no more than `n` items. -/
def atMost (items : List Value) (n : Nat) : Except String Unit :=
  if items.length ≤ n then .ok () else .error (wrongLength items.length "fewer elements in array")

end Decoder

end FlakeImage.Json
