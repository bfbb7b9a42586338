import FlakeImage.Build.Host
import FlakeImage.Rehearsal.Cue

/-! # A stand-in for the container runtime, in memory

The store answers loads as scripted, each of which takes a whole archive, and knows some images by their
references. -/

namespace FlakeImage.Rehearsal

/-- How a load ends. -/
inductive LoadCue
  | respond (text : String)
  | fail (text : String)
  deriving DecidableEq, Repr

/-- What a load cue answers; without one the answer is empty. -/
def LoadCue.answer : Option LoadCue → Except RuntimeError Stream
  | some (.respond text) => .ok (.ofBytes (Utf8.encode text))
  | some (.fail text) => .error (.unavailable text)
  | none => .ok (.ofBytes [])

/-- A container runtime in memory, with a record of the calls to it. -/
structure Store where
  loads : List LoadCue := []
  /-- Images by reference; of several with one reference the last counts. -/
  images : List (String × ImageId) := []
  /-- Why images cannot be tagged, if they cannot. -/
  tagFailure : Option String := none
  loadCalls : Nat := 0
  loadedSizes : List Nat := []
  idQueries : List String := []
  tags : List (ImageId × String) := []
  deriving Repr

namespace Store

/-- A load. An archive that cannot be read to its end takes no cue. -/
def load (archive : Archive) : Service Store (Except RuntimeError Stream) := fun _ s =>
  let called := { s with loadCalls := s.loadCalls + 1 }
  match archive.failure with
  | some e => .now called (.error (.system e))
  | none =>
    .now { called with loadedSizes := s.loadedSizes ++ [archive.bytes.length], loads := s.loads.tail }
      (LoadCue.answer s.loads.head?)

/-- The image behind a reference. -/
def find? (s : Store) (reference : String) : Option ImageId := s.images.reverse.lookup reference

/-- A query for an image. -/
def imageId (reference : String) : Service Store (Except RuntimeError (Option ImageId)) := fun _ s =>
  .now { s with idQueries := s.idQueries ++ [reference] } (.ok (s.find? reference))

def tag (image : ImageId) (tag : String) : Service Store (Except RuntimeError Unit) := fun _ s =>
  match s.tagFailure with
  | some text => .now s (.error (.unavailable text))
  | none => .now { s with tags := s.tags ++ [(image, tag)] } (.ok ())

/-- The store in a world of which it is a part. -/
def runtime {σ : Type} (part : Part σ Store) : ContainerRuntime σ where
  load archive := part.lift (load archive)
  imageId reference := part.lift (imageId reference)
  tag image t := part.lift (tag image t)

end Store

end FlakeImage.Rehearsal
