import FlakeImage.Build.Host
import FlakeImage.Program.Basic
import FlakeImage.Rehearsal.Cue

/-! # A stand-in for the build tool -/

namespace FlakeImage.Rehearsal

/-- How the build tool behaves. -/
inductive Manner
  /-- Every target is found at a path. -/
  | succeed (path : Path)
  /-- Every build ends with status 1 after such messages. -/
  | fail (stderr : String)
  /-- No build ever ends. -/
  | hang
  /-- Each build ends as its cue says; when there is none left, at an empty path. -/
  | scripted (cues : List (Cue (Except BuildError Path)))
  deriving Repr

/-- A build tool and the targets it has been asked for. -/
structure Tool where
  manner : Manner
  targets : List Target := []
  deriving Repr

namespace Tool

def cue : Manner → Cue (Except BuildError Path)
  | .succeed path => { answer := .ok path }
  | .fail stderr => { answer := .error (.toolFailed (ExitStatus.code 1).text stderr) }
  | .hang => { pace := .never, answer := .error .cancelled }
  | .scripted cues => Cue.first { answer := .ok ⟨[]⟩ } cues

/-- How the tool behaves after a build. -/
def after : Manner → Manner
  | .scripted cues => .scripted cues.tail
  | manner => manner

/-- The tool looks out for a cancellation. What ends without a wait in any case does not. -/
def isAttentive : Manner → Bool
  | .succeed _ => false
  | .fail _ => false
  | .hang => true
  | .scripted _ => true

/-- A build. The target is recorded even if the build is cancelled. -/
def respond (target : Target) (cancel : Cancel) : Service Tool (Except BuildError Path) :=
  fun now tool =>
    let c := cue tool.manner
    let t : Tool := { manner := after tool.manner, targets := tool.targets ++ [target] }
    if isAttentive tool.manner then c.replyUntil .cancelled cancel now t else c.reply t

/-- The tool in a world of which it is a part. -/
def buildTool {σ : Type} (part : Part σ Tool) : BuildTool σ where
  build target cancel := part.lift (respond target cancel)

end Tool

end FlakeImage.Rehearsal
