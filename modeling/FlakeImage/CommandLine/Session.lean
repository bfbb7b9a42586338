import FlakeImage.Build.Builder
import FlakeImage.CommandLine.Configuration
import FlakeImage.CommandLine.LogFilter
import FlakeImage.CommandLine.Usage
import FlakeImage.Program.Docker
import FlakeImage.Program.Nix

/-! # Sessions

One run of the program, from its arguments to its exit code. A build that gave an image prints the image's id,
also if the image could not be tagged; only a build without any failure ends with exit code zero. -/

namespace FlakeImage.CommandLine

variable {σ : Type}

/-- What the program needs of the world. -/
structure Surroundings (σ : Type) where
  environment : Variables
  hostArch : String
  /-- What the build is called in the log. -/
  buildId : String
  read : FileReader
  /-- The path of a file from the root and without detours. -/
  canonical : Path → Except SystemError Path
  programs : Programs σ
  openFile : Path → Time → σ → Except SystemError Archive

/-- A signal that comes during a build. -/
inductive Interrupt
  | keyboard
  | termination
  /-- Any other, which ends the program at once. -/
  | fatal
  deriving DecidableEq, Repr

/-- The message about a signal that cancels a build. -/
def Interrupt.message? : Interrupt → Option String
  | .keyboard => some "Received SIGINT (Ctrl+C), cancelling build"
  | .termination => some "Received SIGTERM, cancelling build"
  | .fatal => none

/-- A signal and when it comes. -/
structure Stop where
  interrupt : Interrupt
  time : Time
  deriving DecidableEq, Repr

/-- When a build is cancelled. -/
def Stop.cancel (s : Stop) : Cancel := if s.interrupt = .fatal then .never else .later s.time

/-- When the program is ended. -/
def Stop.death (s : Stop) : Deadline := if s.interrupt = .fatal then some s.time else none

/-- A log message, and the plan if it is a part of the work for one. -/
structure LogEntry where
  line : LogLine
  plan : Option String := none
  deriving DecidableEq, Repr

/-- What a session leaves. -/
structure Outcome (σ : Type) where
  /-- The exit code; none if the program does not end by itself. -/
  exitCode : Option Nat
  stdout : String := ""
  stderr : String := ""
  log : List LogEntry := []
  /-- What happened in the course of the command. -/
  journal : Journal := []
  world : σ

namespace Surroundings

/-- The builder that runs the programs of the settings. -/
def builder (s : Surroundings σ) (settings : Settings) : Builder σ where
  host :=
    { tool := Nix.tool s.programs settings.nixProgram
      runtime := Docker.runtime s.programs settings.dockerProgram
      openFile := s.openFile }
  strategy := settings.load
  hostArch := s.hostArch

/-- What a command asks of the builder. -/
def request (s : Surroundings σ) (c : BuildCommand) : Except CommandError Request :=
  match loadConfig s.read c.config c.name c.system with
  | .error e => .error e
  | .ok config =>
    match s.canonical c.source with
    | .error e => .error (.noSource c.source e)
    | .ok source => .ok ⟨c.plan, source, config⟩

end Surroundings

namespace Session

/-- The log messages of a journal. -/
def logOf (plan : Option String) (j : Journal) : List LogEntry :=
  j.filterMap fun e => e.event.log?.map (⟨·, plan⟩)

/-- The message about a signal that came before the end. -/
def stopLog (stop : Option Stop) (ended : Time) : List LogEntry :=
  match stop with
  | none => []
  | some x =>
    if x.time ≤ ended then
      x.interrupt.message?.toList.map fun text => ⟨⟨.program, .info, text, none⟩, none⟩
    else []

/-- The log of a build: all but the report of its failure is a part of the work for the plan. -/
def buildLog (plan : String) (stop : Option Stop) (r : Run σ BuildError ImageId) : List LogEntry :=
  match r.ending with
  | .failure _ =>
    logOf (some plan) r.journal.dropLast ++ stopLog stop r.time ++ logOf none r.journal.getLast?.toList
  | _ => logOf (some plan) r.journal

/-- The image of a build, if it gave one. -/
def image? : Ending BuildError ImageId → Option ImageId
  | .value image => some image
  | .failure e => e.partialImage?
  | .unfinished => none

/-- What is printed about an image. -/
def printed (image : Option ImageId) : String := (image.map fun i => i.text ++ "\n").getD ""

def failed (e : CommandError) (world : σ) : Outcome σ :=
  { exitCode := some 1, stderr := e.report, world }

def buildOutcome (plan : String) (stop : Option Stop) (r : Run σ BuildError ImageId) : Outcome σ :=
  { exitCode :=
      match r.ending with
      | .value _ => some 0
      | .failure _ => some 1
      | .unfinished => none
    stdout := printed (image? r.ending)
    stderr :=
      match r.ending with
      | .failure e => (CommandError.buildFailed plan e).report
      | _ => ""
    log := buildLog plan stop r
    journal := r.journal
    world := r.world }

def build (s : Surroundings σ) (settings : Settings) (stop : Option Stop) (c : BuildCommand) (world : σ) :
    Outcome σ :=
  match s.request c with
  | .error e => failed e world
  | .ok request =>
    let work := (s.builder (c.load.settings settings)).build ((stop.map Stop.cancel).getD .never) request
    buildOutcome c.plan stop (work (stop.bind Stop.death) 0 world)

def purge (plan : String) (world : σ) : Outcome σ :=
  let r := Builder.purge plan none 0 world
  match r.ending with
  | .failure e =>
    { failed (.purgeFailed plan e) r.world with
      log := logOf none r.journal
      journal := r.journal }
  | _ => { exitCode := some 0, world := r.world }

/-- The configuration of a build that has no file for it. -/
def shownConfig : Json.Value := .ofMembers (("builder", .string builderId) :: defaultConfig.members)

/-- The command that shows the configuration. -/
def config (world : σ) : Outcome σ :=
  { exitCode := some 0, stdout := shownConfig.pretty ++ "\n", world }

def command (s : Surroundings σ) (settings : Settings) (stop : Option Stop) (world : σ) :
    Command → Outcome σ
  | .build c => build s settings stop c world
  | .purge plan => purge plan world
  | .config => config world

def buildSpan (buildId plan : String) : WorkSpan :=
  ⟨"docker_nix.build", .builder, .info, [("build_id", buildId), ("plan", plan)]⟩

/-- The plans of a log, and how much is shown in the work for each, if that is shown. -/
def plans (f : LogFilter) (buildId : String) (log : List LogEntry) : List (String × Option Verbosity) :=
  (log.filterMap (·.plan)).eraseDups.map fun plan => (plan, f.within? (buildSpan buildId plan))

/-- An entry as the filter shows it: with the plan only if the work for it is shown. -/
def filtered? (f : LogFilter) (plans : List (String × Option Verbosity)) (e : LogEntry) : Option LogEntry :=
  match e.plan.bind fun plan => (plans.lookup plan).join with
  | some verbosity => if f.showsWithin verbosity e.line then some e else none
  | none => if f.shows e.line then some { e with plan := none } else none

/-- A log as the filter shows it. -/
def filteredLog (f : LogFilter) (buildId : String) (log : List LogEntry) : List LogEntry :=
  log.filterMap (filtered? f (plans f buildId log))

/-- The filter that a variable sets, or else the flag. -/
def filter (environment : Variables) (verbose : Bool) : LogFilter :=
  ((environment "RUST_LOG").bind LogFilter.ofText?).getD (.uniform (if verbose then 4 else 3))

/-- The warnings about variables. -/
def warnings (texts : List String) : List LogEntry :=
  texts.map fun text => ⟨⟨.settings, .warn, text, none⟩, none⟩

/-- An invocation of the program. -/
def invoke (s : Surroundings σ) (stop : Option Stop) (i : Invocation) (world : σ) : Outcome σ :=
  let settings := Settings.ofVariables s.environment
  let r := command s settings.1 stop world i.command
  let f := filter s.environment i.log.verbose
  { r with log := filteredLog f s.buildId (warnings settings.2 ++ r.log) }

/-- The outcome for arguments that give no command. -/
def refused (e : UsageError) (world : σ) : Outcome σ :=
  { exitCode := some e.exitCode, stdout := e.stdout, stderr := e.stderr, world }

def run (s : Surroundings σ) (stop : Option Stop) (arguments : List String) (world : σ) : Outcome σ :=
  match Invocation.ofArguments arguments with
  | .error e => refused e world
  | .ok i => invoke s stop i world

end Session

end FlakeImage.CommandLine
