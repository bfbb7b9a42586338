import FlakeImage.Build.Host
import FlakeImage.Load.Retry

/-! # The builder

A build goes through five steps, one after the other: settle the configuration, build the target, load the
archive into the runtime, ask for the image's id, tag the image for the plan. Each failure ends it and is
reported in one last line. -/

namespace FlakeImage

variable {σ : Type}

/-- A request to build the image of a plan. -/
structure Request where
  plan : String
  source : Path
  config : BuildConfig
  deriving Repr

/-- A builder: what it needs of the world, how it loads archives, and the processor it builds for. -/
structure Builder (σ : Type) where
  host : Host σ
  strategy : LoadStrategy
  hostArch : String

namespace Builder

/-- The target of a request: one for this builder with a system that is known. -/
def target (b : Builder σ) (r : Request) : Except BuildError Target :=
  match r.config with
  | .other builder _ => .error (.otherBuilder builder)
  | .image c => (c.resolve r.plan b.hostArch).map (Target.ofConfig r.source)

/-- The line that shows what a failed build tool has written. -/
def toolReport : BuildError → Option Event
  | .toolFailed _ stderr =>
    some (.report (.progress ⟨.error, "nix build fail result", [("stderr", stderr)]⟩))
  | _ => none

/-- The steps of a build. -/
def run (b : Builder σ) (cancel : Cancel) (r : Request) : Work σ BuildError ImageId := do
  let target ← Work.ofExcept (b.target r)
  let started ← Work.time
  Work.check cancel
  Work.tell .info "nix build" [("target", target.display)]
  let path ← (b.host.build cancel target).onFailure toolReport
  Work.tell .info "nix build completed" [("path", path.display)]
  let tag ← Retry.run b.strategy cancel fun _ => b.host.loadArchive path
  let loaded ← Work.time
  Work.tell .info "build completed"
    [("default_tag", tag), ("took_ms", toString (loaded - started))]
  let image ← b.host.resolveImage cancel tag
  Work.tell .info "got docker image id" [("image_id", image.text)]
  Work.tell .info "tagging image" [("image_id", image.text), ("tag", planTag r.plan image)]
  b.host.applyTag cancel image (planTag r.plan image)

/-- The last line of a build that failed. -/
def failureLine (plan : String) (e : BuildError) : Progress :=
  ⟨.error, "docker:nix build failed", [("plan", plan), ("error", e.message)]⟩

/-- A build. Its result is the id of the image. -/
def build (b : Builder σ) (cancel : Cancel) (r : Request) : Work σ BuildError ImageId :=
  (b.run cancel r).onFailure fun e => some (.report (.progress (failureLine r.plan e)))

/-- The removal of what has been built for a plan, which no build supports. -/
def purge (plan : String) : Work σ BuildError Unit := do
  let e := BuildError.purgeUnsupported builderId
  Work.tell .error "purge failed" [("plan", plan), ("error", e.message)]
  Work.fail e

end Builder

end FlakeImage
