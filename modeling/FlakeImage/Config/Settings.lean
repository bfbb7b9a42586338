import FlakeImage.Config.Strategy
import FlakeImage.Text.Blank
import FlakeImage.Text.Quoted

/-! # Settings of the process

The programs to run and the load strategy, from variables of the environment. A variable that should be
a number and is none is passed over with a warning. -/

namespace FlakeImage

open Json

/-- What is set once for a process. -/
structure Settings where
  nixProgram : String := "nix"
  dockerProgram : String := "docker"
  load : LoadStrategy := default
  deriving DecidableEq, Repr

/-- Variables by name. -/
abbrev Variables := String → Option String

namespace Settings

/-- The number in the text of a variable, with white space around it. -/
def number? (max : Nat) (raw : String) : Option Nat := Number.natural? max (Text.trim raw.toList)

/-- The warning about a variable that is no number. -/
def ignored (name raw : String) : String :=
  "Ignoring " ++ name ++ "=" ++ Text.quote raw ++ ": not a valid number"

/-- The number of a variable, and the warning if it has none. -/
def readNumber (vars : Variables) (name : String) (max : Nat) : Option Nat × List String :=
  match vars name with
  | none => (none, [])
  | some raw =>
    match number? max raw with
    | some n => (some n, [])
    | none => (none, [ignored name raw])

/-- The strategy that variables choose, and the warnings. -/
def readStrategy (vars : Variables) : LoadStrategy × List String :=
  match readNumber vars "NIX_IMAGE_PRE_DELAY_MS" Number.max64 with
  | (some delay, warnings) => (.preDelay delay, warnings)
  | (none, warnings) =>
    let attempts := readNumber vars "NIX_IMAGE_LOAD_ATTEMPTS" Number.max32
    let delay := readNumber vars "NIX_IMAGE_LOAD_DELAY_MS" Number.max64
    (.retry (attempts.1.getD LoadStrategy.defaultAttempts) (delay.1.getD LoadStrategy.defaultDelay),
      warnings ++ attempts.2 ++ delay.2)

/-- The settings that variables choose, and the warnings. -/
def ofVariables (vars : Variables) : Settings × List String :=
  let strategy := readStrategy vars
  (⟨(vars "NIX_IMAGE_NIX_BIN").getD "nix", (vars "NIX_IMAGE_DOCKER_BIN").getD "docker", strategy.1⟩,
    strategy.2)

/-- What an error calls the array of settings. -/
def expected : String := "struct BuilderSettings with 3 elements"

/-- Settings from an object or an array. -/
def decode : Decoder Settings
  | .object members => do
    let docker ← Decoder.field? members "docker_program" Decoder.text
    let load ← Decoder.field? members "load" LoadStrategy.decode
    let nix ← Decoder.field? members "nix_program" Decoder.text
    let nix ← Decoder.required "nix_program" nix
    let docker ← Decoder.required "docker_program" docker
    let load ← Decoder.required "load" load
    .ok ⟨nix, docker, load⟩
  | .array items => do
    let nix ← Decoder.item items 0 expected Decoder.text
    let docker ← Decoder.item items 1 expected Decoder.text
    let load ← Decoder.item items 2 expected LoadStrategy.decode
    let _ ← Decoder.atMost items 3
    .ok ⟨nix, docker, load⟩
  | v => .error (v.mismatch "struct BuilderSettings")

/-- The JSON value of settings. -/
def encode (s : Settings) : Value :=
  .ofMembers [("nix_program", .string s.nixProgram), ("docker_program", .string s.dockerProgram),
    ("load", s.load.encode)]

end Settings

end FlakeImage
