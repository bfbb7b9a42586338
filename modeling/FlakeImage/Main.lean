import FlakeImage.CommandLine.Session

/-! # The program

The session is settled by what is read here beforehand: the variables, the configuration file and the path of
the sources. Programs are not started from here: each start is refused. -/

namespace FlakeImage.Main

open CommandLine

/-- An error of the system as it is reported here. -/
def systemError : IO.Error → SystemError
  | .noFileOrDirectory .. => .notFound
  | .permissionDenied .. => .denied
  | .inappropriateType .. => .isDirectory
  | e => .text (toString e)

/-- The result of an action, or what the system reports. -/
def attempt {α : Type} (act : IO α) : IO (Except SystemError α) := do
  try
    let a ← act
    return .ok a
  catch e =>
    return .error (systemError e)

/-- The contents of a file. -/
def readFile (path : Path) : IO (Except SystemError Bytes) :=
  attempt do
    let contents ← IO.FS.readBinFile path.display
    return contents.toList

/-- The path of a file from the root. -/
def canonical (path : Path) : IO (Except SystemError Path) :=
  attempt do
    let real ← IO.FS.realPath path.display
    return .ofString real.toString

/-- The variables that the program looks at. -/
def variableNames : List String := [
  "NIX_IMAGE_NIX_BIN", "NIX_IMAGE_DOCKER_BIN", "NIX_IMAGE_LOAD_ATTEMPTS", "NIX_IMAGE_LOAD_DELAY_MS",
  "NIX_IMAGE_PRE_DELAY_MS", "RUST_LOG"]

/-- The values of the variables that are set. -/
def readVariables : List String → IO (List (String × String))
  | [] => return []
  | name :: r => do
    let value ← IO.getEnv name
    let rest ← readVariables r
    return match value with
      | some value => (name, value) :: rest
      | none => rest

/-- What the system tells in a file. -/
def readFact (file : String) : IO String := do
  match ← readFile (.ofString file) with
  | .ok contents => return String.ofList (Text.trim (Utf8.shown contents))
  | .error _ => return "unknown"

/-- The configuration file and the sources of a command. -/
def filesOf : Command → Option Path × Option Path
  | .build c => (c.config, some c.source)
  | _ => (none, none)

/-- What the session is told of a file. -/
def told {α : Type} (path : Option Path) (find : Path → IO (Except SystemError α)) :
    IO (Except SystemError α) :=
  match path with
  | some path => find path
  | none => return .error .notFound

/-- The surroundings of a session. -/
def surroundings (command : Command) : IO (Surroundings Unit) := do
  let environment ← readVariables variableNames
  let hostArch ← readFact "/proc/sys/kernel/arch"
  let buildId ← readFact "/proc/sys/kernel/random/uuid"
  let config ← told (filesOf command).1 readFile
  let source ← told (filesOf command).2 canonical
  return {
    environment := fun name => environment.lookup name
    hostArch
    buildId
    read := fun _ => config
    canonical := fun _ => source
    programs := ⟨fun _ _ _ => .error (.code 95)⟩
    openFile := fun _ _ _ => .error .notFound }

/-- A log message as JSON. -/
def entryValue (e : LogEntry) : Json.Value :=
  .ofMembers [("level", .string e.line.level.name), ("message", .string e.line.message),
    ("stream", .ofText? e.line.stream), ("plan", .ofText? e.plan)]

/-- A log message as a line. -/
def entryText (json : Bool) (e : LogEntry) : String :=
  if json then (entryValue e).compact else e.line.level.name ++ " " ++ e.line.message

/-- The output of a session; its exit code is the result. -/
def finish (json : Bool) (o : Outcome Unit) : IO UInt32 := do
  for e in o.log do
    IO.eprintln (entryText json e)
  IO.print o.stdout
  IO.eprint o.stderr
  return UInt32.ofNat (o.exitCode.getD 1)

/-- A session of the program with these arguments. -/
def session (arguments : List String) : IO UInt32 := do
  match Invocation.ofArguments arguments with
  | .error e => finish false (Session.refused e ())
  | .ok i =>
    let s ← surroundings i.command
    finish i.log.json (Session.invoke s none i ())

end FlakeImage.Main

/-- The program. -/
def main (arguments : List String) : IO UInt32 := FlakeImage.Main.session arguments
