import FlakeImage.Config.Strategy
import FlakeImage.Timeline.Work

/-! # Repeated attempts

A load is attempted as often as the strategy allows, with pauses, until an attempt succeeds. Cancellation ends
it in an attempt as well as in a pause. -/

namespace FlakeImage.Retry

variable {σ α : Type}

/-- The line about an attempt that is followed by another one. -/
def retrying (strategy : LoadStrategy) (number : Nat) (e : LoadError) : Progress :=
  ⟨.warn, "image archive load failed, retrying",
    [("attempt", toString number), ("max_attempts", toString strategy.maxAttempts),
      ("delay_ms", toString strategy.delay), ("error", e.message)]⟩

/-- The line about a success after failures. -/
def loaded (number : Nat) : Progress :=
  ⟨.info, "image archive loaded", [("attempt", toString number)]⟩

/-- One attempt, and what comes after its failure. -/
def once (cancel : Cancel) (attempt : Nat → Work σ LoadError α) (number : Nat)
    (otherwise : LoadError → Work σ BuildError α) : Work σ BuildError α := do
  Work.check cancel
  Work.happen (.call (.attempt number))
  let r ← Work.guard cancel (attempt number)
  match r with
  | .ok a => do
    if 1 < number then Work.report (.progress (loaded number))
    pure a
  | .error e => otherwise e

/-- The attempts from `number` on, after which `left` more are allowed. -/
def attemptsFrom (strategy : LoadStrategy) (cancel : Cancel) (attempt : Nat → Work σ LoadError α) :
    Nat → Nat → Work σ BuildError α
  | 0, number => once cancel attempt number fun e => Work.fail (.loadExhausted number e)
  | left + 1, number => once cancel attempt number fun e => do
    Work.report (.progress (retrying strategy number e))
    Work.sleep cancel strategy.delay
    attemptsFrom strategy cancel attempt left (number + 1)

/-- The result of the first attempt that succeeds. -/
def run (strategy : LoadStrategy) (cancel : Cancel) (attempt : Nat → Work σ LoadError α) :
    Work σ BuildError α := do
  match strategy.initialDelay? with
  | some ms => Work.sleep cancel ms
  | none => pure ()
  attemptsFrom strategy cancel attempt (strategy.maxAttempts - 1) 1

end FlakeImage.Retry
