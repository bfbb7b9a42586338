import FlakeImage.Build.Builder
import FlakeImage.Program.Docker
import FlakeImage.Program.Nix
import FlakeImage.Rehearsal.Engine
import FlakeImage.Rehearsal.Store
import FlakeImage.Rehearsal.Tool
import FlakeImage.Rehearsal.Troupe

/-! # Rehearsals

A stage has files that change at times laid down beforehand, and all stand-ins. A build rehearsed on it uses
some of them for its tool and its runtime. -/

namespace FlakeImage.Rehearsal

/-- The world of a rehearsal. -/
structure Stage where
  files : Files
  tool : Tool := { manner := .hang }
  store : Store := {}
  engine : Engine := {}
  troupe : Troupe := {}
  deriving Repr

/-- Which build tool is used: the stand-in, or `nix` as a program of this name. -/
inductive ToolChoice
  | standIn
  | program (name : String)
  deriving DecidableEq, Repr

/-- Which runtime is used: a stand-in, or `docker` as a program of this name. -/
inductive RuntimeChoice
  | store
  | engine
  | program (name : String)
  deriving DecidableEq, Repr

namespace Stage

def programs : Programs Stage :=
  Troupe.programs Stage.files ⟨Stage.troupe, fun t s => { s with troupe := t }⟩

/-- The build tool that is chosen. -/
def buildTool : ToolChoice → BuildTool Stage
  | .standIn => Tool.buildTool ⟨Stage.tool, fun t s => { s with tool := t }⟩
  | .program name => Nix.tool programs name

/-- The runtime that is chosen. -/
def runtime : RuntimeChoice → ContainerRuntime Stage
  | .store => Store.runtime ⟨Stage.store, fun t s => { s with store := t }⟩
  | .engine => Engine.runtime ⟨Stage.engine, fun t s => { s with engine := t }⟩
  | .program name => Docker.runtime programs name

def openFile (path : Path) (now : Time) (s : Stage) : Except SystemError Archive :=
  (s.files.diskAt now).openArchive path

/-- What a build needs of the world, as it is chosen. -/
def host (tool : ToolChoice) (runtimeChoice : RuntimeChoice) : Host Stage where
  tool := buildTool tool
  runtime := runtime runtimeChoice
  openFile := openFile

/-- How long a rehearsal waits for an end: thirty days. -/
def patience : Time := 2592000000

/-- The stage with changes to its files to come. -/
def prepare (s : Stage) (upcoming : List (Time × Change)) : Stage :=
  { s with files := { s.files with upcoming } }

/-- A run of some work. What happens to the files after its end is left out. -/
def perform {ε α : Type} (s : Stage) (work : Work Stage ε α) : Run Stage ε α :=
  let r := work (some patience) 0 s
  { r with world := { r.world with files := r.world.files.settle r.time } }

end Stage

end FlakeImage.Rehearsal
