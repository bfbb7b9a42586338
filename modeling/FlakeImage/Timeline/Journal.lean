import FlakeImage.Build.Target
import FlakeImage.Progress

/-! # Journals

What happens in a run, in order and each with its time: calls to the world outside, what the run reports,
and what a call notes down when it begins. -/

namespace FlakeImage

/-- A moment of a run, in milliseconds from its start. -/
abbrev Time := Nat

/-- An image archive that has been opened: its bytes up to its end, or up to a failure to read on. -/
structure Archive where
  bytes : Bytes
  failure : Option SystemError := none
  deriving DecidableEq, Repr

/-- A program that is started with arguments; an archive may be fed to its standard input, which is
empty otherwise. -/
structure Launch where
  program : String
  arguments : List String
  input : Option Archive := none
  deriving DecidableEq, Repr

/-- A call to the world outside. -/
inductive Call
  /-- The build tool builds a target. -/
  | build (target : Target)
  /-- An attempt to load an archive is made ready. -/
  | attempt (number : Nat)
  /-- A file is opened as an archive. -/
  | openArchive (path : Path)
  /-- The runtime takes an archive. -/
  | load (archive : Archive)
  /-- The runtime is asked for the image behind a reference. -/
  | imageId (reference : String)
  /-- The runtime gives an image a tag. -/
  | tag (image : ImageId) (tag : String)
  deriving DecidableEq, Repr

/-- What a call notes down when it begins. -/
inductive Note
  | log (line : LogLine)
  | start (launch : Launch)
  deriving DecidableEq, Repr

/-- What can happen in a run. -/
inductive Event
  | call (c : Call)
  | report (r : Report)
  | note (n : Note)
  deriving DecidableEq, Repr

/-- An event with its time. -/
structure Entry where
  time : Time
  event : Event
  deriving DecidableEq, Repr

/-- Everything that happens in a run, in order. -/
abbrev Journal := List Entry

namespace Event

def call? : Event → Option Call
  | .call c => some c
  | _ => none

def report? : Event → Option Report
  | .report r => some r
  | _ => none

/-- What a log shows of the event. -/
def log? : Event → Option LogLine
  | .report r => some r.log
  | .note (.log line) => some line
  | _ => none

/-- The log message that a call notes down. -/
def noted? : Event → Option LogLine
  | .note (.log line) => some line
  | _ => none

end Event

namespace Journal

def calls (j : Journal) : List (Time × Call) := j.filterMap fun e => e.event.call?.map (e.time, ·)

/-- What the run reports. -/
def transcript (j : Journal) : Transcript := j.filterMap (·.event.report?)

/-- The log messages that calls note down. -/
def noted (j : Journal) : List LogLine := j.filterMap (·.event.noted?)

end Journal

end FlakeImage
