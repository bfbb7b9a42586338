import FlakeImage.Text.Quoted

/-! # Arguments by their form

An argument of a command line is the mark `--`, an option by its long name, a group of options by their
letters, or a plain word. -/

namespace FlakeImage.CommandLine

/-- An argument by its form. -/
inductive Token
  /-- The mark after which every argument is a word. -/
  | mark
  /-- `--name` or `--name=value`. -/
  | long (name : String) (value : Option String)
  /-- A hyphen and letters. -/
  | letters (l : List Char)
  | word (s : String)
  deriving DecidableEq, Repr

namespace Token

/-- The text before the first equals sign and the text after it. -/
def splitValue : List Char → List Char × Option (List Char)
  | [] => ([], none)
  | '=' :: s => ([], some s)
  | c :: s =>
    let r := splitValue s
    (c :: r.1, r.2)

/-- The form of an argument. A hyphen alone is a word. -/
def ofArgument (a : String) : Token :=
  match a.toList with
  | ['-', '-'] => .mark
  | '-' :: '-' :: s =>
    let r := splitValue s
    .long (String.ofList r.1) (r.2.map String.ofList)
  | '-' :: c :: s => .letters (c :: s)
  | _ => .word a

end Token

end FlakeImage.CommandLine
