import FlakeImage.Json.Value
import FlakeImage.Number.Shortest
import FlakeImage.Text.Quoted

/-! # Writing JSON text

The compact text of a value, and one laid out over lines with two spaces of indentation. In strings only
quotes, backslashes and controls are escaped. -/

namespace FlakeImage.Json

/-- A character of a string as it is written. -/
def escapeChar (c : Char) : List Char :=
  if c = '"' then ['\\', '"']
  else if c = '\\' then ['\\', '\\']
  else if c = '\x08' then ['\\', 'b']
  else if c = '\t' then ['\\', 't']
  else if c = '\n' then ['\\', 'n']
  else if c = '\x0c' then ['\\', 'f']
  else if c = '\r' then ['\\', 'r']
  else if c.toNat < 0x20 then
    ['\\', 'u', '0', '0', Text.hexDigit (c.toNat / 16), Text.hexDigit (c.toNat % 16)]
  else [c]

def writeString (s : String) : List Char := '"' :: (s.toList.flatMap escapeChar ++ ['"'])

/-- The decimal text of a number. -/
def Num.text : Num → String
  | .integer i => toString i
  | .real d => d.text

/-- Texts with a separator between them. -/
def separated (sep : List Char) : List (List Char) → List Char
  | [] => []
  | [x] => x
  | x :: r => x ++ sep ++ separated sep r

mutual

/-- The compact text of a value. -/
def Value.write : Value → List Char
  | .null => ['n', 'u', 'l', 'l']
  | .bool true => ['t', 'r', 'u', 'e']
  | .bool false => ['f', 'a', 'l', 's', 'e']
  | .number n => n.text.toList
  | .string s => writeString s
  | .array items => '[' :: (separated [','] (Value.writeItems items) ++ [']'])
  | .object members => '\x7b' :: (separated [','] (Value.writeMembers members) ++ ['\x7d'])

/-- The compact texts of values. -/
def Value.writeItems : List Value → List (List Char)
  | [] => []
  | v :: r => v.write :: Value.writeItems r

/-- The compact texts of members. -/
def Value.writeMembers : List (String × Value) → List (List Char)
  | [] => []
  | (name, v) :: r => (writeString name ++ ':' :: v.write) :: Value.writeMembers r

end

/-- The start of a line that is `depth` levels deep. -/
def newline (depth : Nat) : List Char := '\n' :: List.replicate (2 * depth) ' '

/-- The contents of a bracket, each on a line of its own. -/
def block (depth : Nat) (contents : List (List Char)) : List Char :=
  if contents.isEmpty then []
  else newline (depth + 1) ++ separated (',' :: newline (depth + 1)) contents ++ newline depth

mutual

/-- The text of a value over lines, `depth` levels deep. -/
def Value.writeAt (depth : Nat) : Value → List Char
  | .array items => '[' :: (block depth (Value.writeItemsAt (depth + 1) items) ++ [']'])
  | .object members =>
    '\x7b' :: (block depth (Value.writeMembersAt (depth + 1) members) ++ ['\x7d'])
  | v => v.write

/-- The texts of values over lines. -/
def Value.writeItemsAt (depth : Nat) : List Value → List (List Char)
  | [] => []
  | v :: r => v.writeAt depth :: Value.writeItemsAt depth r

/-- The texts of members over lines. -/
def Value.writeMembersAt (depth : Nat) : List (String × Value) → List (List Char)
  | [] => []
  | (name, v) :: r =>
    (writeString name ++ ':' :: ' ' :: v.writeAt depth) :: Value.writeMembersAt depth r

end

/-- The compact text of a value. -/
def Value.compact (v : Value) : String := String.ofList v.write

/-- The text of a value over lines. -/
def Value.pretty (v : Value) : String := String.ofList (v.writeAt 0)

end FlakeImage.Json
