import FlakeImage.Load.Frame
import FlakeImage.Load.Tag
import FlakeImage.Timeline.Work

/-! # Load responses

The runtime answers a load with a stream of bytes, delivered in chunks. `cut` turns it into lines, however
the bytes are divided into chunks; `relay` passes on every line that is not blank until one reports an error
or cannot be read, and keeps the last one. -/

namespace FlakeImage

/-- Some bytes of a stream, that come so many milliseconds after what is before them. -/
structure Chunk where
  after : Nat := 0
  bytes : Bytes
  deriving DecidableEq, Repr

/-- How a stream ends. -/
inductive StreamEnd
  | complete (after : Nat)
  | broken (after : Nat) (source : SystemError)
  | stalled
  deriving DecidableEq, Repr

/-- A stream of bytes. -/
structure Stream where
  chunks : List Chunk
  ending : StreamEnd := .complete 0
  deriving DecidableEq, Repr

namespace Stream

def ofBytes (b : Bytes) : Stream := { chunks := [⟨0, b⟩] }

end Stream

namespace Response

/-- The byte that ends a line. -/
def lineFeed : UInt8 := 10

/-- The byte that may stand before it. -/
def carriageReturn : UInt8 := 13

/-- A line, written backwards, without a carriage return at its end. -/
def finish : Bytes → Bytes
  | [] => []
  | b :: r => (if b = carriageReturn then r else b :: r).reverse

/-- The lines that are complete with the given bytes, and the line begun after them. `line` is the one begun
before them; lines begun are written backwards. -/
def cut (line : Bytes) : Bytes → List Bytes × Bytes
  | [] => ([], line)
  | b :: r =>
    if b = lineFeed then
      let rest := cut [] r
      (finish line :: rest.1, rest.2)
    else cut (b :: line) r

/-- The lines of a text that are relayed: those that are not blank. -/
def relayed (text : String) : List String :=
  ((Text.lines text.toList).filter fun l => !Text.isBlankText l).map String.ofList

/-- What a line makes the reader relay, and the last line relayed so far or why reading ends. The line is without its
ending when it is checked to be text, so a character broken off right before that is an incomplete one. -/
def readLine (last : String) (line : Bytes) : List String × Except LoadError String :=
  match Utf8.text line with
  | .error flaw => ([], .error (.response (.text flaw.message)))
  | .ok line =>
    match Frame.ofLine line with
    | .error message => ([message], .error (.rejected message))
    | .text text =>
      let parts := relayed text
      (parts, .ok (parts.getLast?.getD last))

variable {σ : Type}

/-- Lines of output. -/
def relayAll : List String → Work σ LoadError Unit
  | [] => pure ()
  | line :: r => do
    Work.report (.output line)
    relayAll r

/-- Relays lines, and gives the last one relayed. -/
def relayLines (last : String) : List Bytes → Work σ LoadError String
  | [] => pure last
  | line :: r => do
    let x := readLine last line
    relayAll x.1
    let last ← Work.ofExcept x.2
    relayLines last r

/-- Relays the lines of a stream as they come, after the line begun before; gives the line begun at its end
and the last one relayed. -/
def relayChunks (line : Bytes) (last : String) : List Chunk → Work σ LoadError (Bytes × String)
  | [] => pure (line, last)
  | c :: r => do
    Work.wait c.after
    let x := cut line c.bytes
    let last ← relayLines last x.1
    relayChunks x.2 last r

/-- Relays a response, and gives the last line relayed. A line begun when the stream is complete is a line;
when it breaks, it is lost. -/
def relay (s : Stream) : Work σ LoadError String := do
  let x ← relayChunks [] "" s.chunks
  match s.ending with
  | .complete after => do
    Work.wait after
    relayLines x.2 (if x.1.isEmpty then [] else [x.1.reverse])
  | .broken after source => do
    Work.wait after
    Work.fail (.response source)
  | .stalled => Work.stall

end Response

end FlakeImage
