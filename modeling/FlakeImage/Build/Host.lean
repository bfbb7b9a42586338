import FlakeImage.Load.Response

/-! # What a build needs of the world

A tool that builds targets, a container runtime, and files that can be opened as archives. Each answers calls
in a world that the calls may change; nothing else is known of them. -/

namespace FlakeImage

variable {σ : Type}

/-- A tool that builds targets. It is told when the build is cancelled, and stops waiting by itself. -/
structure BuildTool (σ : Type) where
  build : Target → Cancel → Service σ (Except BuildError Path)

structure ContainerRuntime (σ : Type) where
  /-- Takes an archive and answers with lines. -/
  load : Archive → Service σ (Except RuntimeError Stream)
  /-- The image behind a reference, if there is one. -/
  imageId : String → Service σ (Except RuntimeError (Option ImageId))
  /-- Gives an image one more tag. -/
  tag : ImageId → String → Service σ (Except RuntimeError Unit)

/-- What a build needs of the world. -/
structure Host (σ : Type) where
  tool : BuildTool σ
  runtime : ContainerRuntime σ
  /-- A file as it is at some time. -/
  openFile : Path → Time → σ → Except SystemError Archive

namespace Host

/-- The tool builds a target. -/
def build (h : Host σ) (cancel : Cancel) (target : Target) : Work σ BuildError Path :=
  Work.request (.build target) (h.tool.build target cancel)

/-- A file is opened. That takes no time, but is waited for. -/
def openArchive (h : Host σ) (path : Path) : Work σ SystemError Archive :=
  Work.request (.openArchive path) fun now world =>
    { Reply.now world (h.openFile path now world) with isAwaited := true }

/-- The runtime takes an archive. -/
def load (h : Host σ) (archive : Archive) : Work σ RuntimeError Stream :=
  Work.request (.load archive) (h.runtime.load archive)

/-- The runtime is asked for an image. -/
def imageId (h : Host σ) (reference : String) : Work σ RuntimeError (Option ImageId) :=
  Work.request (.imageId reference) (h.runtime.imageId reference)

/-- The runtime tags an image. -/
def tag (h : Host σ) (image : ImageId) (tag : String) : Work σ RuntimeError Unit :=
  Work.request (.tag image tag) (h.runtime.tag image tag)

/-- One attempt to load the archive at a path. The result is the tag that the runtime gives it. -/
def loadArchive (h : Host σ) (path : Path) : Work σ LoadError String := do
  let archive ← (h.openArchive path).mapError (.unreadable path)
  let response ← (h.load archive).mapError .ingestion
  let last ← Response.relay response
  Work.ofExcept (defaultTag last)

/-- The image behind a tag, which has to be there. -/
def resolveImage (h : Host σ) (cancel : Cancel) (tag : String) : Work σ BuildError ImageId := do
  let r ← Work.guard cancel (h.imageId tag)
  match r with
  | .error e => Work.fail (.runtime e)
  | .ok none => Work.fail (.unknownTag tag)
  | .ok (some image) => pure image

/-- Tags an image. If that fails the error tells of the image, which is there all the same. -/
def applyTag (h : Host σ) (cancel : Cancel) (image : ImageId) (tag : String) :
    Work σ BuildError ImageId := do
  let r ← Work.guard cancel (h.tag image tag)
  match r with
  | .error e => Work.fail (.tagFailed image tag e)
  | .ok () => pure image

end Host

end FlakeImage
