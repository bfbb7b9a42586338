import FlakeImage.Number.Decimal
import FlakeImage.Progress
import FlakeImage.Text.Alphanumeric
import FlakeImage.Text.Blank
import FlakeImage.Text.Pattern.Automaton
import FlakeImage.Text.Pattern.Reader
import FlakeImage.Text.Utf8

/-! # Directives

A directive says how much of the log is shown: everywhere, for sources whose names begin with a target, or
within spans of work that have a name or a field. It is written `target[span{field=value}]=verbosity`, and all
but one part may be left out. -/

namespace FlakeImage.CommandLine

/-- How many levels are shown, the most important first: none of them, up to all five. -/
abbrev Verbosity := Nat

inductive FieldValue
  /-- A truth value or a number, which no text is. -/
  | literal
  /-- A text in which the first match of a pattern reaches the end. -/
  | pattern (text : String)
  deriving DecidableEq, Repr

/-- A field that there has to be, and its value if that counts. -/
structure FieldTest where
  name : String
  value : Option FieldValue
  deriving DecidableEq, Repr

structure Directive where
  target : Option String := none
  /-- The name of the span of work that it is for. -/
  span : Option String := none
  field : Option FieldTest := none
  verbosity : Verbosity
  deriving DecidableEq, Repr

namespace Verbosity

/-- The words for how much is shown. -/
def names : List (String × Verbosity) :=
  [("off", 0), ("error", 1), ("warn", 2), ("info", 3), ("debug", 4), ("trace", 5)]

/-- A verbosity as a number or a word, in small or large letters. -/
def ofText? (s : List Char) : Option Verbosity :=
  match Number.natural? 5 s with
  | some n => some n
  | none => names.lookup (String.ofList (s.map Char.toLower))

/-- All levels. -/
def all : Verbosity := 5

end Verbosity

namespace FieldValue

/-- The value that a text writes. A pattern must be well formed. -/
def ofText? (s : List Char) : Option FieldValue :=
  let text := String.ofList s
  if text == "true" || text == "false" || Number.isNumeral s then some literal
  else (Text.Pattern.ofText? text).map fun _ => pattern text

/-- A text is such a value. -/
def accepts (v : FieldValue) (s : String) : Bool :=
  match v with
  | literal => false
  | pattern text => (Text.Pattern.ofText? text).any (·.reachesEnd s)

end FieldValue

namespace FieldTest

/-- The test that a text writes: a name, and after an equals sign a value, which a second one ends. -/
def ofText? (s : List Char) : Option FieldTest :=
  let name := String.ofList (s.takeWhile (· != '='))
  match s.dropWhile (· != '=') with
  | [] => some ⟨name, none⟩
  | _ :: r => (FieldValue.ofText? (r.takeWhile (· != '='))).map fun v => ⟨name, some v⟩

/-- The test holds of fields. -/
def accepts (t : FieldTest) (fields : List (String × String)) : Bool :=
  match fields.lookup t.name, t.value with
  | none, _ => false
  | some _, none => true
  | some s, some v => v.accepts s

end FieldTest

/-- Which part of a directive is being read, and where it begins. -/
inductive Draft.Stage
  | start
  | name (first : Nat)
  | span (first : Nat)
  | field (first : Nat)
  | fieldEnd
  | spanEnd
  | verbosity (first : Nat)
  deriving DecidableEq, Repr

/-- A directive of which a part has been read. -/
structure Draft where
  directive : Directive := { verbosity := Verbosity.all }
  stage : Draft.Stage := .start
  deriving DecidableEq, Repr

namespace Draft

/-- The text of a part: some of the bytes, which have to be text by themselves. -/
def cut? (text : Bytes) (first stop : Nat) : Option String :=
  (Utf8.text ((text.drop first).take (stop - first))).toOption

/-- A directive can begin with the character. -/
def isStart (c : Char) : Bool := c == '-' || c == ':' || c == '_' || Text.isAlphanumeric c

/-- Reads one character, whose first byte has the number `i`. -/
def step? (text : Bytes) (d : Draft) (i : Nat) (c : Char) : Option Draft :=
  match d.stage with
  | .start =>
    if c = '[' then some { d with stage := .span (i + 1) }
    else if isStart c then some { d with stage := .name i }
    else none
  | .name first =>
    if c = '=' || c = '[' then
      (cut? text first i).map fun target =>
        { directive := { d.directive with target := some target }
          stage := if c = '=' then .verbosity (i + 1) else .span (i + 1) }
    else some d
  | .span first =>
    if c = ']' then
      (cut? text first i).map fun span => ⟨{ d.directive with span := some span }, .spanEnd⟩
    else if c = '\x7b' then
      (cut? text first i).map fun span =>
        ⟨{ d.directive with span := if span.isEmpty then none else some span }, .field (i + 1)⟩
    else some d
  | .field first =>
    if c = '\x7d' then
      (cut? text first i).bind fun field =>
        if field.isEmpty then none
        else (FieldTest.ofText? field.toList).map fun t => ⟨{ d.directive with field := some t }, .fieldEnd⟩
    else some d
  | .fieldEnd => if c = ']' then some { d with stage := .spanEnd } else none
  | .spanEnd => if c = '=' then some { d with stage := .verbosity (i + 1) } else none
  | .verbosity _ => some d

/-- Reads characters, the first byte of which has the number `i`. -/
def run? (text : Bytes) : Nat → Draft → List Char → Option Draft
  | _, d, [] => some d
  | i, d, c :: r => (d.step? text i c).bind fun d => run? text (i + c.utf8Size) d r

/-- A directive that is a single word: a verbosity or else a target, of which all is shown. -/
def ofWord (word : String) : Directive :=
  match Verbosity.ofText? word.toList with
  | some verbosity => { verbosity }
  | none => { target := some word, verbosity := Verbosity.all }

/-- The directive, if a part that can be the last has been read. -/
def finish? (text : Bytes) (d : Draft) : Option Directive :=
  match d.stage with
  | .name first => (cut? text first text.length).map ofWord
  | .verbosity first =>
    (cut? text first text.length).bind fun word =>
      if word.isEmpty then some d.directive
      else (Verbosity.ofText? word.toList).map fun verbosity => { d.directive with verbosity }
  | .spanEnd => some d.directive
  | _ => none

end Draft

namespace Directive

/-- The directive that a text writes. White space around it does not end a part, but it takes the place of the
first characters: the places of the parts are found in the text without it. -/
def ofText? (s : List Char) : Option Directive :=
  let text := s.flatMap Utf8.encodeChar
  (Draft.run? text 0 {} (Text.trim s)).bind (Draft.finish? text)

def concerns (d : Directive) (source : LogSource) : Bool :=
  match d.target with
  | none => true
  | some target => target.toList.isPrefixOf source.name.toList

end Directive

end FlakeImage.CommandLine
