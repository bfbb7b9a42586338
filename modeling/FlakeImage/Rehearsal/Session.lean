import FlakeImage.CommandLine.Session
import FlakeImage.Rehearsal.Stage

/-! # Rehearsed sessions

The program as it runs on a stage, with the stage's files and programs. -/

namespace FlakeImage.Rehearsal.Stage

open CommandLine

/-- What every rehearsed build is called. -/
def buildId : String := "00000000-0000-4000-8000-000000000000"

/-- The stage as the surroundings of the program. -/
def surroundings (s : Stage) (environment : Variables) (hostArch : String) : Surroundings Stage where
  environment := environment
  hostArch := hostArch
  buildId := buildId
  read := s.files.disk.read
  canonical := s.files.disk.canonical
  programs := programs
  openFile := openFile

end FlakeImage.Rehearsal.Stage
