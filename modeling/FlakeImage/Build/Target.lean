import FlakeImage.Config.Image
import FlakeImage.Text.Lines

/-! # Build targets

The flake output to build, how the build tool is asked for it, and how its answer names the archive. -/

namespace FlakeImage

/-- An output of a flake. -/
structure Target where
  source : Path
  system : String
  name : String
  deriving DecidableEq, Repr

namespace Target

def ofConfig (source : Path) (c : ResolvedConfig) : Target := ⟨source, c.system, c.name⟩

/-- The target as it is shown and passed to the build tool. -/
def display (t : Target) : String :=
  t.source.display ++ "#legacyPackages." ++ t.system ++ "." ++ t.name

/-- The arguments that make the build tool build the target and print where it is. -/
def arguments (t : Target) : List String := ["build", t.display, "--no-link", "--print-out-paths"]

end Target

/-- The archive that the build tool's output names: all of it but the line endings at its end. -/
def outputPath (stdout : Bytes) : Except BuildError Path :=
  let path := Text.chomp (Utf8.shown stdout)
  if path.isEmpty then .error .noOutput else .ok (.ofString (String.ofList path))

end FlakeImage
