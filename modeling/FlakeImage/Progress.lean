/-! # Progress lines

What a build tells about its progress: lines with a level, a message and named values. -/

namespace FlakeImage

/-- How important a line is. -/
inductive Level
  | trace
  | debug
  | info
  | warn
  | error
  deriving DecidableEq, Repr

namespace Level

def name : Level → String
  | .trace => "TRACE"
  | .debug => "DEBUG"
  | .info => "INFO"
  | .warn => "WARN"
  | .error => "ERROR"

/-- The place of a level among all, the most important first. -/
def rank : Level → Nat
  | .error => 1
  | .warn => 2
  | .info => 3
  | .debug => 4
  | .trace => 5

end Level

/-- A line about the progress of a build. -/
structure Progress where
  level : Level
  message : String
  fields : List (String × String)
  deriving DecidableEq, Repr

namespace Progress

/-- Fields as text: for each a space, its name, an equals sign and its value. -/
def renderFields (fields : List (String × String)) : String :=
  fields.foldl (fun s f => s ++ " " ++ f.1 ++ "=" ++ f.2) ""

/-- The line as one text. -/
def render (p : Progress) : String := p.message ++ renderFields p.fields

/-- The value of a field, the first of several with one name. -/
def field? (p : Progress) (key : String) : Option String := p.fields.lookup key

end Progress

/-- The part of the program that a log message comes from. -/
inductive LogSource
  | program
  | settings
  | progress
  | buildTool
  | runtime
  | builder
  deriving DecidableEq, Repr

/-- The name by which messages are chosen for the log. -/
def LogSource.name : LogSource → String
  | .program => "nix_image"
  | .settings => "nix_image_builder::config"
  | .progress => "nix_image_builder::output"
  | .buildTool => "nix_image_builder::nix"
  | .runtime => "nix_image_builder::docker"
  | .builder => "nix_image_builder::builder"

/-- A log message, which may belong to a stream of output. -/
structure LogLine where
  source : LogSource
  level : Level
  message : String
  stream : Option String := none
  deriving DecidableEq, Repr

/-- The names of the fields of a log message. -/
def LogLine.fieldNames (l : LogLine) : List String := "message" :: (l.stream.map fun _ => "stream").toList

/-- What a build tells: lines about its progress and lines of other programs' output. -/
inductive Report
  | progress (line : Progress)
  | output (line : String)
  deriving DecidableEq, Repr

namespace Report

/-- The progress line, if it is one. -/
def progress? : Report → Option Progress
  | .progress line => some line
  | .output _ => none

/-- The line of output, if it is one. -/
def output? : Report → Option String
  | .progress _ => none
  | .output line => some line

/-- The report as a log message. -/
def log : Report → LogLine
  | .progress line => ⟨.progress, line.level, line.render, none⟩
  | .output line => ⟨.progress, .info, line, some "stdout"⟩

end Report

/-- Everything told in the course of a build, in order. -/
abbrev Transcript := List Report

namespace Transcript

def lines (t : Transcript) : List Progress := t.filterMap Report.progress?

/-- The lines of output. -/
def output (t : Transcript) : List String := t.filterMap Report.output?

/-- The progress lines of one level. -/
def atLevel (t : Transcript) (level : Level) : List Progress := (lines t).filter (·.level == level)

/-- The first progress line with a message. -/
def find? (t : Transcript) (message : String) : Option Progress :=
  (lines t).find? (·.message == message)

end Transcript

end FlakeImage
