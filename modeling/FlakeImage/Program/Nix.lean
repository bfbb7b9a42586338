import FlakeImage.Build.Host
import FlakeImage.Program.Basic

/-! # The build tool `nix`

A target is built by `nix build`, which prints the path of the archive. -/

namespace FlakeImage.Nix

variable {σ : Type}

/-- The message about a build that begins. -/
def spawning (program : String) (target : Target) : Note :=
  .log ⟨.buildTool, .debug, "Spawning " ++ program ++ " build " ++ target.display, none⟩

/-- The program is started for a target. -/
def launch (program : String) (target : Target) : Launch := { program, arguments := target.arguments }

/-- What a program that ended has built. -/
def result (c : Completion) : Except BuildError Path :=
  match c.ended with
  | .error e => .error (.system e)
  | .ok f =>
    if f.status.isSuccess then outputPath f.stdout
    else .error (.toolFailed f.status.text (Utf8.lossy f.stderr))

/-- The build tool that runs a program of this name. The program is started even if the build has been
cancelled; then it is not waited for. -/
def tool (programs : Programs σ) (program : String) : BuildTool σ where
  build target cancel now world :=
    match programs.start (launch program target) now world with
    | .error e =>
      { world, notes := [spawning program target], outcome := some (0, .error (.toolSpawn program e)) }
    | .ok reply =>
      let notes := spawning program target :: .start (launch program target) :: reply.notes
      { reply.map result with notes }.racing .cancelled cancel now

end FlakeImage.Nix
