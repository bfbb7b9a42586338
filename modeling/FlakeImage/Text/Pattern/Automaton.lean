import FlakeImage.Text.Pattern

/-! # Automata

A pattern is searched for by an automaton that reads a text once. At each spot it is in several states, the
preferred one first. A state is entered once at a spot: only its first place in the order counts. When the end
of the pattern is entered, all states that are less preferred are dropped, and with them all matches that would
begin later. `reachesEnd` asks if the preferred match goes to the end of the text. -/

namespace FlakeImage.Text

/-- What happens in a state of an automaton; states are known by their numbers. -/
inductive State
  /-- A character of a set is read. -/
  | read (set : Ranges) (next : Nat)
  /-- It goes on at spots of this kind. -/
  | look (l : Look) (next : Nat)
  /-- It goes on in two ways, rather the first. -/
  | fork (first second : Nat)
  /-- The end of the pattern. -/
  | finish
  deriving DecidableEq, Repr

/-- States, and the first of them. -/
structure Automaton where
  states : Array State
  start : Nat
  deriving Repr

/-- The states that are entered at a spot. -/
structure Front where
  entered : Array Bool
  /-- Those that wait for a character, with the state that is next; the preferred one last. -/
  waiting : List (Ranges × Nat) := []
  /-- The end of the pattern has been entered. -/
  finished : Bool := false
  deriving Repr

/-- How far a search has come at a spot. -/
structure Search where
  /-- What waits for a character, the preferred one first. -/
  waiting : List (Ranges × Nat)
  /-- A match can still begin. -/
  begins : Bool
  /-- The preferred match ends here, as far as it can be told. -/
  ends : Bool
  deriving Repr

namespace State

/-- It is gone on with, or it is left; both are possible, and which is preferred depends on greed. -/
def choice (greedy : Bool) (on off : Nat) : State := if greedy then fork on off else fork off on

end State

namespace Automaton

/-- The automaton with one more state, which is the first. -/
def push (a : Automaton) (s : State) : Automaton := ⟨a.states.push s, a.states.size⟩

/-- The automaton that reads characters before it goes on. -/
def pushLiteral (chars : List Char) (a : Automaton) : Automaton :=
  chars.foldr (fun c a => a.push (.read (Ranges.single c) a.start)) a

/-- The automaton that goes through a pattern before it goes on. What is repeated leads to a state that leads
back to it. If that may be left out it begins with this state, or, as a pattern that may take nothing would
come back to it too early, with one more. -/
def before : Pattern → Automaton → Automaton
  | .empty, a => a
  | .literal chars, a => pushLiteral chars a
  | .one _ set, a => a.push (.read set a.start)
  | .look l, a => a.push (.look l a.start)
  | .seq p q, a => before p (before q a)
  | .either p q, a =>
    let y := before q a
    let x := before p { y with start := a.start }
    x.push (.fork x.start y.start)
  | .optional greedy p, a =>
    let x := before p a
    x.push (.choice greedy x.start a.start)
  | .repeated greedy p, a => turns greedy (before p (a.push .finish)) a
  | .any greedy p, a =>
    let x := turns greedy (before p (a.push .finish)) a
    if p.least.any (0 < ·) then { x with start := a.states.size }
    else x.push (.choice greedy x.start a.start)
  | .group _ p, a => before p a
where
  /-- The automaton `x`, whose state after those of `a` now leads back to its start or on to `a`. -/
  turns (greedy : Bool) (x a : Automaton) : Automaton :=
    { x with states := x.states.setIfInBounds a.states.size (.choice greedy x.start a.start) }

def ofPattern (p : Pattern) : Automaton := before p ⟨#[.finish], 0⟩

/-- Enters a state at a spot, and those to which it leads without a character. As each is entered once, no way
is longer than the number of states. -/
def enter (a : Automaton) (s : Spot) : Nat → Nat → Front → Front
  | 0, _, f => f
  | n + 1, i, f =>
    if f.finished || f.entered.getD i true then f
    else
      let f := { f with entered := f.entered.setIfInBounds i true }
      match a.states[i]? with
      | some (.read set next) => { f with waiting := (set, next) :: f.waiting }
      | some (.look l next) => if l.holds s then enter a s n next f else f
      | some (.fork first second) => enter a s n second (enter a s n first f)
      | some .finish => { f with finished := true }
      | none => f

/-- The search at a spot that is reached in some states, the preferred one first; a match that begins here is
the least preferred. -/
def arrive (a : Automaton) (s : Spot) (reached : List Nat) (begins : Bool) : Search :=
  let f := (if begins then reached ++ [a.start] else reached).foldl (fun f i => a.enter s a.states.size i f)
    { entered := Array.replicate a.states.size false }
  ⟨f.waiting.reverse, begins && !f.finished, f.finished⟩

/-- A match that takes nothing begins and ends within the character. -/
def endsWithin (a : Automaton) (c : Char) (rest : List Char) : Bool :=
  0x80 ≤ c.toNat && (a.arrive ⟨some c, c :: rest⟩ [] true).ends

/-- The search after one more character. -/
def step (a : Automaton) (x : Search) (c : Char) (rest : List Char) : Search :=
  a.arrive ⟨some c, rest⟩ ((x.waiting.filter (·.1.holds c)).map (·.2)) (x.begins && !a.endsWithin c rest)

/-- The preferred match goes to the end of the text. -/
def run (a : Automaton) (x : Search) : List Char → Bool
  | [] => x.ends
  | c :: r => run a (a.step x c r) r

end Automaton

/-- The preferred of the first matches in the text goes to the end of the text. -/
def Pattern.reachesEnd (p : Pattern) (s : String) : Bool :=
  let a := Automaton.ofPattern p
  a.run (a.arrive ⟨none, s.toList⟩ [] true) s.toList

end FlakeImage.Text
