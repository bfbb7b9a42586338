import FlakeImage.Json.Reader
import FlakeImage.Text.Blank

/-! # Frames of a load response

A line of a response is plain text, or a message of the container engine: a JSON object with the text in the
member `stream` or `status`, or with an error in `error` or in the member `message` of `errorDetail`. A line
that is no such object is plain text, whatever it looks like. -/

namespace FlakeImage

open Json

/-- What a line of a response says. -/
inductive Frame
  | text (s : String)
  | error (message : String)
  deriving DecidableEq, Repr

/-- A message of the container engine. -/
structure EngineMessage where
  stream : Option String := none
  status : Option String := none
  error : Option String := none
  detail : Option String := none
  deriving DecidableEq, Repr

namespace EngineMessage

/-- The members of an object, names repeated, in order. -/
abbrev TreeMembers := List (Option String × Tree)

/-- The only member of a name, if there is one; nothing if there are several. -/
def only? (members : TreeMembers) (name : String) : Option (Option Tree) :=
  match members.filter (·.1 == some name) with
  | [] => some none
  | [m] => some (some m.2)
  | _ => none

/-- A text or null. -/
def text? : Tree → Option (Option String)
  | .null => some none
  | .string (some s) => some (some s)
  | _ => none

/-- The text of a member, which may be missing or null. -/
def textMember? (members : TreeMembers) (name : String) : Option (Option String) :=
  (only? members name).bind fun
    | none => some none
    | some t => text? t

/-- The name of every member denotes something. -/
def named (members : TreeMembers) : Bool := members.all (·.1.isSome)

/-- The message of an error's details: an object, or an array with the message alone. -/
def detail? : Tree → Option (Option String)
  | .null => some none
  | .object members => if named members then textMember? members "message" else none
  | .array [t] => text? t
  | _ => none

/-- The message of a member with an error's details. -/
def detailMember? (members : TreeMembers) : Option (Option String) :=
  (only? members "errorDetail").bind fun
    | none => some none
    | some t => detail? t

/-- The message that an object is. A member that the message has is there at most once and of its type;
other members are of any shape. -/
def ofMembers? (members : TreeMembers) : Option EngineMessage := do
  guard (named members)
  let stream ← textMember? members "stream"
  let status ← textMember? members "status"
  let error ← textMember? members "error"
  let detail ← detailMember? members
  some { stream, status, error, detail }

def ofLine? (line : String) : Option EngineMessage :=
  match Tree.readLoose (Utf8.Piece.ofText line.toList) with
  | .ok (.object members) => ofMembers? members
  | _ => none

/-- What a message says: an error before any text. -/
def frame (m : EngineMessage) : Frame :=
  match m.error.or m.detail with
  | some error => .error error
  | none => .text ((m.stream.or m.status).getD "")

end EngineMessage

/-- A line may be a message of the engine: its first character but for white space is a brace. -/
def looksLikeMessage (line : String) : Bool := (Text.trimStart line.toList).head? == some '\x7b'

/-- What a line says. -/
def Frame.ofLine (line : String) : Frame :=
  if looksLikeMessage line then
    match EngineMessage.ofLine? line with
    | some m => m.frame
    | none => .text line
  else .text line

end FlakeImage
