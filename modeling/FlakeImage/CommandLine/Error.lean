import FlakeImage.CommandLine.Arguments
import FlakeImage.Error

/-! # Errors of commands

Why a command failed, and the report about it: the error in the first line, and then its causes, each on
lines of its own. -/

namespace FlakeImage.CommandLine

/-- Why a command failed. -/
inductive CommandError
  /-- The configuration file could not be read. -/
  | unreadable (path : Path) (source : SystemError)
  /-- The configuration file holds no JSON. -/
  | malformed (path : Path) (source : JsonError)
  /-- The configuration file holds no configuration. -/
  | invalid (path : Path) (source : BuildError)
  /-- The configuration forbids the build. -/
  | disabled
  /-- There is no directory with the sources. -/
  | noSource (path : Path) (source : SystemError)
  | buildFailed (plan : String) (source : BuildError)
  | purgeFailed (plan : String) (source : BuildError)
  deriving DecidableEq, Repr

namespace CommandError

/-- The text of an error. Unlike the texts of a build's errors it does not tell the cause. -/
def message : CommandError → String
  | .unreadable path _ => "Failed to read config file " ++ path.quoted
  | .malformed path _ => "Failed to parse config file " ++ path.quoted ++ " as JSON"
  | .invalid path _ => "Invalid builder configuration in " ++ path.quoted
  | .disabled => "docker:nix builder is disabled in this configuration (enabled = false)"
  | .noSource path _ => "Plan source directory " ++ path.quoted ++ " not found"
  | .buildFailed plan _ => "Build of plan '" ++ plan ++ "' failed"
  | .purgeFailed plan _ => "Purge of plan '" ++ plan ++ "' failed"

def causes : CommandError → List String
  | .unreadable _ source => source.message :: source.causes
  | .malformed _ source => [source.message]
  | .invalid _ source => source.message :: source.causes
  | .disabled => []
  | .noSource _ source => source.message :: source.causes
  | .buildFailed _ source => source.message :: source.causes
  | .purgeFailed _ source => source.message :: source.causes

/-! ## Reports -/

/-- A text with `gap` after each line feed in it. -/
def indentLines (gap : List Char) (s : List Char) : List Char :=
  s.flatMap fun c => if c = '\n' then '\n' :: gap else [c]

/-- `n`, written at the end of five places. -/
def place (n : Nat) : List Char :=
  let digits := (toString n).toList
  List.replicate (5 - digits.length) ' ' ++ digits

/-- One of several causes. -/
def numbered (n : Nat) (cause : String) : List Char :=
  '\n' :: (place n ++ [':', ' '] ++ indentLines (List.replicate 7 ' ') cause.toList)

/-- The causes from the number `n` on. -/
def numberedFrom (n : Nat) : List String → List Char
  | [] => []
  | cause :: r => numbered n cause ++ numberedFrom (n + 1) r

/-- The causes; a single one has no number. -/
def causeLines : List String → List Char
  | [cause] => '\n' :: (List.replicate 4 ' ' ++ indentLines (List.replicate 4 ' ') cause.toList)
  | causes => numberedFrom 0 causes

def reportOf (message : String) (causes : List String) : String :=
  let tail := if causes.isEmpty then "" else "\n\nCaused by:" ++ String.ofList (causeLines causes)
  "Error: " ++ message ++ tail ++ "\n"

def report (e : CommandError) : String := reportOf e.message e.causes

end CommandError

end FlakeImage.CommandLine
