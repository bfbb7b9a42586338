import FlakeImage.CommandLine.Flag
import FlakeImage.Number.Decimal
import FlakeImage.Path

/-! # The arguments of the program

The commands of the program and their flags. The flags for the log may stand before the command and after
it. -/

namespace FlakeImage.CommandLine

/-- The flags of every command. -/
structure LogFlags where
  verbose : Bool := false
  json : Bool := false
  deriving DecidableEq, Repr

/-- The flags that change the load strategy. -/
structure Overrides where
  attempts : Option Nat := none
  retryDelay : Option Nat := none
  preDelay : Option Nat := none
  deriving DecidableEq, Repr

structure BuildFlags where
  log : LogFlags := {}
  plan : Option String := none
  source : Option Path := none
  config : Option Path := none
  name : Option String := none
  system : Option String := none
  load : Overrides := {}
  deriving DecidableEq, Repr

structure PurgeFlags where
  log : LogFlags := {}
  plan : Option String := none
  deriving DecidableEq, Repr

/-- A request to build the image of a plan. -/
structure BuildCommand where
  plan : String
  source : Path
  config : Option Path
  name : Option String
  system : Option String
  load : Overrides
  deriving DecidableEq, Repr

/-- A command with all that it needs. -/
inductive Command
  | build (c : BuildCommand)
  | purge (plan : String)
  | config
  deriving DecidableEq, Repr

/-- What a command line asks for. -/
structure Invocation where
  command : Command
  log : LogFlags
  deriving DecidableEq, Repr

/-! ## Values -/

/-- A path, which must not be empty. -/
def path (v : String) : Except UsageError Path :=
  if v.isEmpty then .error .noValue else .ok (.ofString v)

/-- A number of 32 bits, also with a sign. -/
def number32 (v : String) : Except UsageError Nat :=
  match Number.integer? v.toList with
  | some i => if 0 ≤ i ∧ i ≤ Number.max32 then .ok i.toNat else .error .badNumber
  | none => .error .badNumber

/-- A number of 64 bits. -/
def number64 (v : String) : Except UsageError Nat :=
  match Number.natural? Number.max64 v.toList with
  | some n => .ok n
  | none => .error .badNumber

/-! ## Flags -/

def helpFlag {α : Type} : Flag α := ⟨"help", some 'h', .help⟩

/-- The flags for the log, in a record that has them as a part. -/
def logFlags {α : Type} (get : α → LogFlags) (set : LogFlags → α → α) : List (Flag α) := [
  ⟨"verbose", some 'v', .switch (fun o => (get o).verbose) fun o => set { get o with verbose := true } o⟩,
  ⟨"json", none, .switch (fun o => (get o).json) fun o => set { get o with json := true } o⟩]

/-- The flags before the command. -/
def topFlags : List (Flag LogFlags) :=
  helpFlag :: ⟨"version", some 'V', .version⟩ :: logFlags id fun l _ => l

def buildFlags : List (Flag BuildFlags) := [
  helpFlag,
  ⟨"plan", some 'p', .value (·.plan.isSome) fun v o => .ok { o with plan := some v }⟩,
  ⟨"source", some 's', .value (·.source.isSome) fun v o =>
    (path v).map fun p => { o with source := some p }⟩,
  ⟨"config", some 'c', .value (·.config.isSome) fun v o =>
    (path v).map fun p => { o with config := some p }⟩,
  ⟨"name", none, .value (·.name.isSome) fun v o => .ok { o with name := some v }⟩,
  ⟨"system", none, .value (·.system.isSome) fun v o => .ok { o with system := some v }⟩,
  ⟨"attempts", none, .value (·.load.attempts.isSome) fun v o =>
    (number32 v).map fun n => { o with load.attempts := some n }⟩,
  ⟨"retry-delay-ms", none, .value (·.load.retryDelay.isSome) fun v o =>
    (number64 v).map fun n => { o with load.retryDelay := some n }⟩,
  ⟨"pre-delay-ms", none, .value (·.load.preDelay.isSome) fun v o =>
    (number64 v).map fun n => { o with load.preDelay := some n }⟩] ++
  logFlags (·.log) fun l o => { o with log := l }

def purgeFlags : List (Flag PurgeFlags) :=
  helpFlag :: ⟨"plan", some 'p', .value (·.plan.isSome) fun v o => .ok { o with plan := some v }⟩ ::
    logFlags (·.log) fun l o => { o with log := l }

/-- The flags of the command that shows the configuration. -/
def configFlags : List (Flag LogFlags) := helpFlag :: logFlags id fun l _ => l

/-! ## Commands -/

/-- A flag that has to be there. -/
def required {α : Type} : Option α → Except UsageError α
  | some a => .ok a
  | none => .error .missingFlag

/-- The directory with the sources of a plan if none is named. -/
def defaultSource : Path := .ofString "."

/-- The flags for the log from before the command and after it. -/
def LogFlags.or (a b : LogFlags) : LogFlags := ⟨a.verbose || b.verbose, a.json || b.json⟩

/-- A build with these arguments. -/
def readBuild (log : LogFlags) (arguments : List String) : Except UsageError Invocation := do
  let o ← Filling.run buildFlags { record := {} } arguments
  let plan ← required o.plan
  .ok ⟨.build ⟨plan, o.source.getD defaultSource, o.config, o.name, o.system, o.load⟩, log.or o.log⟩

/-- A purge with these arguments. -/
def readPurge (log : LogFlags) (arguments : List String) : Except UsageError Invocation := do
  let o ← Filling.run purgeFlags { record := {} } arguments
  let plan ← required o.plan
  .ok ⟨.purge plan, log.or o.log⟩

/-- The command that shows the configuration. -/
def readConfig (log : LogFlags) (arguments : List String) : Except UsageError Invocation := do
  let o ← Filling.run configFlags { record := {} } arguments
  .ok ⟨.config, log.or o⟩

def commandNames : List String := ["build", "purge", "config", "help"]

/-- The command for help, which may name another one. -/
def readHelp : List String → UsageError
  | [] => .help
  | [name] => if commandNames.contains name then .help else .unknownCommand
  | _ => .unknownCommand

def readCommand (log : LogFlags) (name : String) (arguments : List String) :
    Except UsageError Invocation :=
  if name = "build" then readBuild log arguments
  else if name = "purge" then readPurge log arguments
  else if name = "config" then readConfig log arguments
  else if name = "help" then .error (readHelp arguments)
  else .error .unknownCommand

/-- A command line that ends without a command. -/
def withoutCommand (log : LogFlags) : UsageError := if log = {} then .empty else .noCommand

/-- What arguments ask for, after the flags in front. -/
def readFrom (x : Filling LogFlags) : List String → Except UsageError Invocation
  | [] => .error (withoutCommand x.record)
  | a :: r =>
    match Token.ofArgument a with
    | .mark =>
      match r with
      | [] => .error (withoutCommand x.record)
      | name :: _ => .error (if commandNames.contains name then .unknownArgument else .unknownCommand)
    | .long name value => do
      let x ← x.long topFlags name value
      readFrom x r
    | .letters l => do
      let x ← x.letters topFlags l
      readFrom x r
    | .word name => readCommand x.record name r

/-- What the arguments of the program ask for. -/
def Invocation.ofArguments (arguments : List String) : Except UsageError Invocation :=
  readFrom { record := {} } arguments

end FlakeImage.CommandLine
