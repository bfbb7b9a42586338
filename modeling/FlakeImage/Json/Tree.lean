import FlakeImage.Json.Value

/-! # JSON text as a tree

The shape of a JSON text before it becomes a value: members in the order written, with repeated names.
A literal that is well formed but denotes nothing stands as `none`: a number beyond the doubles, a
string with half a surrogate pair. -/

namespace FlakeImage.Json

/-- A JSON text by its shape. -/
inductive Tree
  | null
  | bool (b : Bool)
  | number (n : Option Num)
  | string (s : Option String)
  | array (items : List Tree)
  | object (members : List (Option String × Tree))
  deriving Repr

mutual

/-- The value of a tree all of whose literals denote something. -/
def Tree.value? : Tree → Option Value
  | .null => some .null
  | .bool b => some (.bool b)
  | .number n => n.map .number
  | .string s => s.map .string
  | .array items => (Tree.values? items).map .array
  | .object members => (Tree.members? members).map fun l => .object (Members.ofList l)

def Tree.values? : List Tree → Option (List Value)
  | [] => some []
  | t :: r => t.value?.bind fun v => (Tree.values? r).map (v :: ·)

/-- The values of members, in the order written. -/
def Tree.members? : List (Option String × Tree) → Option (List (String × Value))
  | [] => some []
  | (name, t) :: r =>
    name.bind fun n => t.value?.bind fun v => (Tree.members? r).map ((n, v) :: ·)

end

end FlakeImage.Json
