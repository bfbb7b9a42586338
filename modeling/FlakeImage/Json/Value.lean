import FlakeImage.Number.Double

/-! # JSON values

A value as programs exchange it: an object is a finite map, kept as its members sorted by name. Whole
numbers of 64 bits stay whole; every other number is a double. -/

namespace FlakeImage.Json

/-- A number as JSON text can write it. -/
inductive Num
  | integer (i : Int)
  | real (d : Number.Double)
  deriving DecidableEq, Repr

/-- A JSON value. -/
inductive Value
  | null
  | bool (b : Bool)
  | number (n : Num)
  | string (s : String)
  | array (items : List Value)
  | object (members : List (String × Value))
  deriving Repr

/-- The members of an object, sorted by name, each name once. -/
abbrev Members := List (String × Value)

namespace Members

/-- The members with `name` set to `v`. -/
def insert (name : String) (v : Value) : Members → Members
  | [] => [(name, v)]
  | (n, w) :: r =>
    if name < n then (name, v) :: (n, w) :: r
    else if name = n then (name, v) :: r
    else (n, w) :: insert name v r

def get? (members : Members) (name : String) : Option Value := members.lookup name

/-- The map with these members, the last of several with one name. -/
def ofList (l : List (String × Value)) : Members :=
  l.foldl (fun m x => insert x.1 x.2 m) []

end Members

namespace Value

/-- A natural number. -/
def ofNat (n : Nat) : Value := .number (.integer n)

/-- An object with these members. -/
def ofMembers (l : List (String × Value)) : Value := .object (Members.ofList l)

/-- A text or nothing. -/
def ofText? : Option String → Value
  | some s => .string s
  | none => .null

/-- The member of an object; nothing for any other value. -/
def get? (v : Value) (name : String) : Option Value :=
  match v with
  | .object members => Members.get? members name
  | _ => none

def text? : Value → Option String
  | .string s => some s
  | _ => none

end Value

end FlakeImage.Json
