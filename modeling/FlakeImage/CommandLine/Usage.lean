import FlakeImage.CommandLine.Flag

/-! # Usage

What the program prints when it is given no command to carry out. -/

namespace FlakeImage.CommandLine

def programName : String := "nix-image"

/-- The version of the program. -/
def versionText : String := programName ++ " 0.3.1\n"

def helpLines : List String := [
  "Build Nix flake images into Docker (docker:nix builder)",
  "",
  "Usage: nix-image [OPTIONS] <COMMAND>",
  "",
  "Commands:",
  "  build   Build a plan's image and load it into Docker",
  "  purge   Remove artifacts built for a plan",
  "  config  Print the default builder configuration",
  "  help    Print this message",
  "",
  "Options of every command:",
  "  -v, --verbose  Enable verbose output",
  "      --json     Emit JSON-formatted log lines",
  "  -h, --help     Print help",
  "",
  "Options of build:",
  "  -p, --plan <PLAN>          Test plan name",
  "  -s, --source <SOURCE>      Plan source directory containing the flake [default: .]",
  "  -c, --config <CONFIG>      Builder configuration file (JSON)",
  "      --name <NAME>          Flake attribute to build (default: <plan>-image)",
  "      --system <SYSTEM>      Nix system, e.g. x86_64-linux (default: derived from the host CPU)",
  "      --attempts <N>         Maximum load attempts",
  "      --retry-delay-ms <MS>  Delay between load attempts in milliseconds",
  "      --pre-delay-ms <MS>    Wait this long once, then load a single time (overrides retries)",
  "",
  "Options of purge:",
  "  -p, --plan <PLAN>  Test plan name"]

def helpText : String := "\n".intercalate helpLines ++ "\n"

namespace UsageError

/-- What is wrong with a command line. -/
def message : UsageError → String
  | .help => "help requested"
  | .version => "version requested"
  | .empty => "no arguments given"
  | .noCommand => "no command given"
  | .missingFlag => "a required option is missing"
  | .unknownArgument => "unexpected argument"
  | .unknownCommand => "unrecognized command"
  | .repeated => "an option is given more than once"
  | .noValue => "an option lacks its value"
  | .badNumber => "the value of an option is not a valid number"
  | .surplusValue => "an option takes no value"

/-- The exit code: help and version are no errors. -/
def exitCode : UsageError → Nat
  | .help | .version => 0
  | _ => 2

/-- What is printed on the standard output. -/
def stdout : UsageError → String
  | .help => helpText
  | .version => versionText
  | _ => ""

/-- What is printed on the standard error. -/
def stderr (e : UsageError) : String :=
  if e.exitCode = 0 then "" else "error: " ++ e.message ++ "\n\n" ++ helpText

end UsageError

end FlakeImage.CommandLine
