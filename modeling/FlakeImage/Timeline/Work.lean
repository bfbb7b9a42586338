import FlakeImage.Timeline.Journal

/-! # Work

Work takes time. It runs from some time on in a state of the world outside, and may be dropped at a
deadline, while it waits: what is not done by then is not done, and what is done stays. `guard` is the race
between work and a request for cancellation, which the request wins if both come at the same time. -/

namespace FlakeImage

/-- A time that may never come. -/
abbrev Deadline := Option Time

namespace Deadline

/-- The time has come. -/
def passed (d : Deadline) (now : Time) : Bool :=
  match d with
  | none => false
  | some t => t ≤ now

/-- The earlier of two. -/
def earlier (a b : Deadline) : Deadline :=
  match a, b with
  | none, b => b
  | a, none => a
  | some s, some t => some (min s t)

end Deadline

/-- When work is cancelled. -/
inductive Cancel
  | never
  /-- Before the work begins. -/
  | already
  /-- By a request from elsewhere at a time. -/
  | later (t : Time)
  deriving DecidableEq, Repr

namespace Cancel

/-- The work knows that it is cancelled. A request from elsewhere it can only get to know while it waits. -/
def noticed (c : Cancel) (now : Time) : Bool :=
  match c with
  | never => false
  | already => true
  | later t => t < now

/-- The time of the request. -/
def deadline : Cancel → Deadline
  | never => none
  | already => some 0
  | later t => some t

end Cancel

/-- How work stands when it is left. -/
inductive Ending (ε α : Type)
  | value (a : α)
  | failure (e : ε)
  | unfinished

/-- A run of some work: how and when it ended, in which world, and what happened. -/
structure Run (σ ε α : Type) where
  ending : Ending ε α
  time : Time
  world : σ
  journal : Journal

/-- Work in a world `σ` that gives an `α` or fails with an `ε`. It is given the time at which it is dropped,
the time at which it begins, and the world. -/
def Work (σ ε α : Type) : Type := Deadline → Time → σ → Run σ ε α

/-- What a call answers: the world after the call has begun, what it notes down then, and, unless it
never ends, how long it takes and its result. -/
structure Reply (σ α : Type) where
  world : σ
  notes : List Note := []
  outcome : Option (Nat × α)
  /-- The result is waited for even if it takes no time. -/
  isAwaited : Bool := false

/-- A call as the world outside offers it. -/
abbrev Service (σ α : Type) : Type := Time → σ → Reply σ α

namespace Reply

variable {σ α β : Type}

/-- An answer without delay. -/
def now (world : σ) (a : α) : Reply σ α := { world, outcome := some (0, a) }

/-- The answer with its result seen through `f`. -/
def map (f : α → β) (r : Reply σ α) : Reply σ β :=
  { world := r.world
    notes := r.notes
    outcome := r.outcome.map fun x => (x.1, f x.2)
    isAwaited := r.isAwaited }

/-- A result that takes so long is still waited for at the deadline. -/
def misses (r : Reply σ α) (deadline : Deadline) (now : Time) (ms : Nat) : Bool :=
  (r.isAwaited || 0 < ms) && deadline.passed (now + ms)

/-- The answer of a call made at time `now` that stops waiting when it is cancelled. -/
def racing {ε : Type} (stopped : ε) (cancel : Cancel) (now : Time) (r : Reply σ (Except ε α)) :
    Reply σ (Except ε α) :=
  if cancel.noticed now then { r with outcome := some (0, .error stopped) }
  else
    match cancel.deadline, r.outcome with
    | none, _ => r
    | some c, none => { r with outcome := some (c - now, .error stopped) }
    | some c, some (ms, _) =>
      if r.misses (some c) now ms then { r with outcome := some (c - now, .error stopped) } else r

end Reply

namespace Work

variable {σ ε ε' α β : Type}

def dropped (deadline : Deadline) (now : Time) (world : σ) (journal : Journal) : Run σ ε α :=
  ⟨.unfinished, deadline.getD now, world, journal⟩

/-- Work that is done at once. -/
def pure (a : α) : Work σ ε α := fun _ now world => ⟨.value a, now, world, []⟩

/-- Some work, then more that depends on its result. -/
def bind (x : Work σ ε α) (f : α → Work σ ε β) : Work σ ε β := fun deadline now world =>
  let r := x deadline now world
  match r.ending with
  | .value a =>
    let s := f a deadline r.time r.world
    { s with journal := r.journal ++ s.journal }
  | .failure e => ⟨.failure e, r.time, r.world, r.journal⟩
  | .unfinished => ⟨.unfinished, r.time, r.world, r.journal⟩

instance : Monad (Work σ ε) where
  pure := pure
  bind := bind

/-- Work that fails at once. -/
def fail (e : ε) : Work σ ε α := fun _ now world => ⟨.failure e, now, world, []⟩

/-- A result or a failure. -/
def ofExcept : Except ε α → Work σ ε α
  | .ok a => pure a
  | .error e => fail e

/-- Work with its failures seen through `f`. -/
def mapError (f : ε → ε') (x : Work σ ε α) : Work σ ε' α := fun deadline now world =>
  let r := x deadline now world
  match r.ending with
  | .value a => ⟨.value a, r.time, r.world, r.journal⟩
  | .failure e => ⟨.failure (f e), r.time, r.world, r.journal⟩
  | .unfinished => ⟨.unfinished, r.time, r.world, r.journal⟩

def time : Work σ ε Time := fun _ now world => ⟨.value now, now, world, []⟩

/-- An event that happens now. -/
def happen (e : Event) : Work σ ε Unit := fun _ now world => ⟨.value (), now, world, [⟨now, e⟩]⟩

def report (r : Report) : Work σ ε Unit := happen (.report r)

/-- A progress line. -/
def tell (level : Level) (message : String) (fields : List (String × String)) : Work σ ε Unit :=
  report (.progress ⟨level, message, fields⟩)

/-- A pause. -/
def wait (ms : Nat) : Work σ ε Unit := fun deadline now world =>
  if 0 < ms ∧ deadline.passed (now + ms) then dropped deadline now world []
  else ⟨.value (), now + ms, world, []⟩

/-- A pause without end. -/
def stall : Work σ ε α := fun deadline now world => dropped deadline now world []

/-- A call to the world outside. -/
def request (c : Call) (service : Service σ (Except ε α)) : Work σ ε α := fun deadline now world =>
  let r := service now world
  let journal : Journal := ⟨now, .call c⟩ :: r.notes.map (⟨now, .note ·⟩)
  match r.outcome with
  | none => dropped deadline now r.world journal
  | some (ms, x) =>
    if r.misses deadline now ms then dropped deadline now r.world journal
    else
      match x with
      | .ok a => ⟨.value a, now + ms, r.world, journal⟩
      | .error e => ⟨.failure e, now + ms, r.world, journal⟩

/-- The failure of a cancelled build, if it is known to be one. -/
def check (cancel : Cancel) : Work σ BuildError Unit := fun _ now world =>
  if cancel.noticed now then ⟨.failure .cancelled, now, world, []⟩ else ⟨.value (), now, world, []⟩

/-- Work that is dropped when cancellation comes first. It is not begun once it is known to be cancelled. -/
def guard (cancel : Cancel) (x : Work σ ε α) : Work σ BuildError (Except ε α) :=
  fun deadline now world =>
    if cancel.noticed now then ⟨.failure .cancelled, now, world, []⟩
    else
      let r := x (cancel.deadline.earlier deadline) now world
      match r.ending, cancel.deadline with
      | .value a, _ => ⟨.value (.ok a), r.time, r.world, r.journal⟩
      | .failure e, _ => ⟨.value (.error e), r.time, r.world, r.journal⟩
      | .unfinished, none => ⟨.unfinished, r.time, r.world, r.journal⟩
      | .unfinished, some c =>
        if deadline.passed c then ⟨.unfinished, r.time, r.world, r.journal⟩
        else ⟨.failure .cancelled, c, r.world, r.journal⟩

/-- A pause that ends early with cancellation. -/
def sleep (cancel : Cancel) (ms : Nat) : Work σ BuildError Unit := do
  let _ ← guard cancel (wait ms : Work σ BuildError Unit)

/-- Work, and perhaps an event at its end if it fails. -/
def onFailure (f : ε → Option Event) (x : Work σ ε α) : Work σ ε α := fun deadline now world =>
  let r := x deadline now world
  match r.ending with
  | .failure e => { r with journal := r.journal ++ (f e).toList.map (⟨r.time, ·⟩) }
  | _ => r

end Work

end FlakeImage
