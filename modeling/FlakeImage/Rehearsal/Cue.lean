import FlakeImage.Timeline.Work

/-! # Scripted answers

A rehearsal runs a build with stand-ins for the world outside. What they answer is laid down beforehand, call
by call; each stand-in records how it is called. -/

namespace FlakeImage.Rehearsal

/-- How long an answer takes. -/
inductive Pace
  | atOnce
  | after (ms : Nat)
  | never
  deriving DecidableEq, Repr

/-- The length of a wait, if it ends. -/
def Pace.length? : Pace → Option Nat
  | .atOnce => some 0
  | .after ms => some ms
  | .never => none

/-- An answer and how long it takes. -/
structure Cue (α : Type) where
  pace : Pace := .atOnce
  answer : α
  deriving Repr

namespace Cue

variable {σ α : Type}

/-- The answer to a call, that leaves the world like this. -/
def reply (c : Cue α) (world : σ) : Reply σ α :=
  { world, outcome := c.pace.length?.map (·, c.answer) }

/-- The answer to a call that also stops waiting when it is cancelled, or does not begin to if it has been. -/
def replyUntil {ε : Type} (c : Cue (Except ε α)) (stopped : ε) (cancel : Cancel) (now : Time)
    (world : σ) : Reply σ (Except ε α) :=
  (c.reply world).racing stopped cancel now

/-- The first cue, or one that stands for a script that has come to its end. -/
def first (exhausted : Cue α) (cues : List (Cue α)) : Cue α := cues.head?.getD exhausted

/-- Work that does what the cue says. -/
def perform {ε : Type} (c : Cue (Except ε α)) : Work σ ε α :=
  match c.pace with
  | .atOnce => Work.ofExcept c.answer
  | .after ms => do
    Work.wait ms
    Work.ofExcept c.answer
  | .never => Work.stall

end Cue

/-- A part of a world that a stand-in has for itself. -/
structure Part (σ τ : Type) where
  get : σ → τ
  set : τ → σ → σ

namespace Part

variable {σ τ α : Type}

def lift (p : Part σ τ) (service : Service τ α) : Service σ α := fun now world =>
  let r := service now (p.get world)
  { world := p.set r.world world, notes := r.notes, outcome := r.outcome, isAwaited := r.isAwaited }

end Part

end FlakeImage.Rehearsal
