import FlakeImage.Timeline.Work

/-! # Cancellation signals

Signals by which work is cancelled. Clones of a signal are one signal: they share a class, and cancelling one
cancels all, now or at a time to come. A class once cancelled stays so. A cancellation that is to come is
carried out elsewhere, while an operation waits; so even one that is due at once comes only then. -/

namespace FlakeImage

/-- Signals, each by its class, and for each class the first time at which it is cancelled. -/
structure Signals where
  classes : List Nat
  cancelAt : List Deadline
  now : Time
  /-- The classes that are cancelled as soon as an operation waits. -/
  due : List Nat := []
  deriving Repr

namespace Signals

/-- One signal, not cancelled. -/
def initial : Signals := { classes := [0], cancelAt := [none], now := 0 }

def classOf (s : Signals) (i : Nat) : Nat := s.classes.getD i s.cancelAt.length

/-- When a signal is cancelled. -/
def deadline (s : Signals) (i : Nat) : Deadline := s.cancelAt.getD (s.classOf i) none

def isCancelled (s : Signals) (i : Nat) : Bool := (s.deadline i).passed s.now

/-- A new signal, in a class of its own. -/
def add (s : Signals) : Signals :=
  { s with classes := s.classes ++ [s.cancelAt.length], cancelAt := s.cancelAt ++ [none] }

def clone (s : Signals) (i : Nat) : Signals := { s with classes := s.classes ++ [s.classOf i] }

def cancelClass (s : Signals) (c : Nat) (t : Time) : Signals :=
  { s with cancelAt := s.cancelAt.modify c fun d => d.earlier (some t) }

/-- Cancels a signal now. -/
def cancel (s : Signals) (i : Nat) : Signals := s.cancelClass (s.classOf i) s.now

/-- Has a signal cancelled some time from now. -/
def cancelAfter (s : Signals) (i ms : Nat) : Signals :=
  if ms = 0 then { s with due := s.classOf i :: s.due } else s.cancelClass (s.classOf i) (s.now + ms)

/-- The state when an operation waits: what is due is cancelled. -/
def waiting (s : Signals) : Signals := s.due.foldl (·.cancelClass · s.now) { s with due := [] }

/-- What is done to signals and with them. -/
inductive Op
  | new
  | clone (i : Nat)
  | cancel (i : Nat)
  | cancelAfter (i ms : Nat)
  | isCancelled (i : Nat)
  | check (i : Nat)
  /-- Waits for the cancellation. -/
  | cancelled (i : Nat)
  /-- Work that takes so long, or never ends, unless the signal is cancelled. -/
  | guard (i : Nat) (length : Option Nat)
  | wait (ms : Nat)
  deriving DecidableEq, Repr

/-- What an operation gives. -/
inductive Answer
  | done
  | index (i : Nat)
  | flag (b : Bool)
  | passed
  | cancelled
  /-- It does not end within the time given. -/
  | pending
  deriving DecidableEq, Repr

/-- The state at a later time. -/
def moveTo (s : Signals) (t : Time) : Signals := { s with now := t }

/-- What happens first from now on: the end of work, if it ends, or the cancellation that stops it, which wins
if both come at once. -/
def race (s : Signals) (i : Nat) (length : Option Nat) : Option (Time × Answer) :=
  let finished := length.map (s.now + ·)
  match s.deadline i, finished with
  | none, none => none
  | none, some t => some (t, .passed)
  | some c, none => some (max s.now c, .cancelled)
  | some c, some t => if c ≤ t then some (max s.now c, .cancelled) else some (t, .passed)

/-- Goes to the time of an answer, or no farther than `limit` from now. -/
def settle (s : Signals) (limit : Nat) : Option (Time × Answer) → Signals × Answer
  | some (t, a) => if t < s.now + limit then (s.moveTo t, a) else (s.moveTo (s.now + limit), .pending)
  | none => (s.moveTo (s.now + limit), .pending)

/-- An answer that comes without a wait. -/
def atOnce? (s : Signals) (answer : Option (Time × Answer)) : Option Answer :=
  answer.bind fun (t, a) => if t = s.now then some a else none

/-- Waits for what `answer` says of the state, unless that comes at once. -/
def await (s : Signals) (limit : Nat) (answer : Signals → Option (Time × Answer)) : Signals × Answer :=
  match s.atOnce? (answer s) with
  | some a => (s, a)
  | none => s.waiting.settle limit (answer s.waiting)

def cancellation (s : Signals) (i : Nat) : Option (Time × Answer) :=
  (s.deadline i).map fun c => (max s.now c, .passed)

/-- One operation. Waiting for a signal or for work is given up after `limit` milliseconds; a plain wait ends
by itself and takes its time. -/
def step (limit : Nat) (s : Signals) : Op → Signals × Answer
  | .new => (s.add, .index s.classes.length)
  | .clone i => (s.clone i, .index s.classes.length)
  | .cancel i => (s.cancel i, .done)
  | .cancelAfter i ms => (s.cancelAfter i ms, .done)
  | .isCancelled i => (s, .flag (s.isCancelled i))
  | .check i => (s, if s.isCancelled i then .cancelled else .passed)
  | .cancelled i => s.await limit (·.cancellation i)
  | .guard i length => s.await limit (·.race i length)
  | .wait ms => if ms = 0 then (s, .done) else (s.waiting.moveTo (s.now + ms), .done)

/-- The answers to operations, each with the time after it. -/
def run (limit : Nat) (s : Signals) : List Op → List (Answer × Time)
  | [] => []
  | op :: r =>
    let x := s.step limit op
    (x.2, x.1.now) :: run limit x.1 r

end Signals

end FlakeImage
