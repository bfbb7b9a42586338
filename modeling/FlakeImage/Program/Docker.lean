import FlakeImage.Build.Host
import FlakeImage.Program.Basic

/-! # The container runtime `docker`

Archives are fed to `docker load`, images are looked up by `docker images` and tagged by `docker tag`. -/

namespace FlakeImage.Docker

variable {σ : Type}

/-- The command as it is shown. -/
def commandLine (program : String) (arguments : List String) : String :=
  program ++ " " ++ " ".intercalate arguments

/-- The output of a command that ended with success. -/
def outputOf (program : String) (arguments : List String) (f : Finished) :
    Except RuntimeError Bytes :=
  if f.status.isSuccess then .ok f.stdout
  else .error (.command (commandLine program arguments) f.status.text (Utf8.lossy f.stderr))

/-- What a command gives that takes no input. -/
def queryResult (program : String) (arguments : List String) (c : Completion) :
    Except RuntimeError Bytes :=
  match c.ended with
  | .error e => .error (.spawn program e)
  | .ok f => outputOf program arguments f

/-- What a load gives: the status of the command counts before the feeding of its input. -/
def loadResult (program : String) (c : Completion) : Except RuntimeError Stream :=
  match c.ended with
  | .error e => .error (.system e)
  | .ok f =>
    match outputOf program ["load"] f with
    | .error e => .error e
    | .ok stdout =>
      match c.fed with
      | .error e => .error (.system e)
      | .ok () => .ok (.ofBytes stdout)

/-- The message about a command that begins. -/
def running (program : String) (arguments : List String) : Note :=
  .log ⟨.runtime, .debug, "Running " ++ commandLine program arguments, none⟩

/-- Runs a command, after notes. -/
def runCommand {α : Type} (programs : Programs σ) (launch : Launch) (notes : List Note)
    (result : Completion → Except RuntimeError α) : Service σ (Except RuntimeError α) :=
  fun now world =>
    match programs.start launch now world with
    | .error e => { world, notes, outcome := some (0, .error (.spawn launch.program e)) }
    | .ok reply =>
      { reply.map result with notes := notes ++ .start launch :: reply.notes }

/-- Runs a command that takes no input. -/
def query {α : Type} (programs : Programs σ) (program : String) (arguments : List String)
    (result : Bytes → α) : Service σ (Except RuntimeError α) :=
  runCommand programs { program, arguments } [running program arguments] fun c =>
    (queryResult program arguments c).map result

/-- The id in the output of a lookup: its first line that is not blank. -/
def firstId (stdout : Bytes) : Option ImageId :=
  (((Text.lines (Utf8.shown stdout)).map Text.trim).find? fun l => !l.isEmpty).map fun l =>
    ⟨String.ofList l⟩

def lookupArguments (reference : String) : List String := ["images", "--no-trunc", "--quiet", reference]

/-- The runtime that runs a program of this name. -/
def runtime (programs : Programs σ) (program : String) : ContainerRuntime σ where
  load archive :=
    runCommand programs { program, arguments := ["load"], input := some archive } [] (loadResult program)
  imageId reference := query programs program (lookupArguments reference) firstId
  tag image tag := query programs program ["tag", image.text, tag] fun _ => ()

end FlakeImage.Docker
