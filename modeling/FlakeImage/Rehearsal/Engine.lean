import FlakeImage.Build.Host
import FlakeImage.Rehearsal.Cue

/-! # A stand-in for the container runtime, by cues

Each call to the engine ends as the next cue for its kind says, after a wait if need be. -/

namespace FlakeImage.Rehearsal

/-- A call as the engine records it. -/
inductive EngineCall
  | load (size : Nat)
  | imageId (reference : String)
  | tag (image : ImageId) (tag : String)
  deriving DecidableEq, Repr

/-- A container runtime that follows cues. -/
structure Engine where
  loads : List (Cue (Except RuntimeError Stream)) := []
  ids : List (Cue (Except RuntimeError (Option ImageId))) := []
  tags : List (Cue (Except RuntimeError Unit)) := []
  calls : List EngineCall := []
  deriving Repr

namespace Engine

/-- A load, which is recorded once the archive has been read to its end. Without a cue the response is
empty. -/
def load (archive : Archive) : Service Engine (Except RuntimeError Stream) := fun _ e =>
  match archive.failure with
  | some failure => .now e (.error (.system failure))
  | none =>
    (Cue.first { answer := .ok (.ofBytes []) } e.loads).reply
      { e with loads := e.loads.tail, calls := e.calls ++ [.load archive.bytes.length] }

/-- A query for an image. Without a cue there is none. -/
def imageId (reference : String) : Service Engine (Except RuntimeError (Option ImageId)) := fun _ e =>
  (Cue.first { answer := .ok none } e.ids).reply
    { e with ids := e.ids.tail, calls := e.calls ++ [.imageId reference] }

/-- A tag for an image. Without a cue it is set. -/
def tag (image : ImageId) (tag : String) : Service Engine (Except RuntimeError Unit) := fun _ e =>
  (Cue.first { answer := .ok () } e.tags).reply
    { e with tags := e.tags.tail, calls := e.calls ++ [.tag image tag] }

/-- The engine in a world of which it is a part. -/
def runtime {σ : Type} (part : Part σ Engine) : ContainerRuntime σ where
  load archive := part.lift (load archive)
  imageId reference := part.lift (imageId reference)
  tag image t := part.lift (tag image t)

end Engine

end FlakeImage.Rehearsal
