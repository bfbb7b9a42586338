import FlakeImage.Text.Pattern

/-! # Patterns in their simplest form

Patterns are put together without needless parts: nothing stands in a row, rows and branches are flat,
neighbouring characters are one literal, and branches of one character each are one set. What all branches
begin with is taken out of them; as this can change which piece of text is preferred, it is a part of what a
pattern means. -/

namespace FlakeImage.Text.Pattern

/-- One character of a set; a single one is a literal. -/
def ofSet (unicode : Bool) (set : Ranges) : Pattern :=
  match set.normal with
  | [] => one false []
  | [(a, b)] => if a = b then literal [Char.ofNat a] else one unicode [(a, b)]
  | s => one unicode s

/-- The pattern is one of spots alone. A set, be it empty, is of characters. -/
def takesNothing : Pattern → Bool
  | empty => true
  | literal _ => false
  | one _ _ => false
  | look _ => true
  | seq a b => a.takesNothing && b.takesNothing
  | either a b => a.takesNothing && b.takesNothing
  | optional _ p => p.takesNothing
  | repeated _ _ => false
  | any _ _ => false
  | group _ p => p.takesNothing

/-- The pattern once or more. What takes nothing is not repeated. -/
def onceOrMore (greedy : Bool) (p : Pattern) : Pattern := if p.takesNothing then p else repeated greedy p

/-- The pattern any number of times. What takes nothing is there at most once. -/
def anyTimes (greedy : Bool) (p : Pattern) : Pattern :=
  if p.takesNothing then optional greedy p else any greedy p

/-- The parts of a row. -/
def elements : Pattern → List Pattern
  | empty => []
  | seq a b => a :: b.elements
  | p => [p]

/-- A row of parts. -/
def ofElements : List Pattern → Pattern
  | [] => empty
  | [p] => p
  | p :: l => seq p (ofElements l)

/-- A part before others, joined to the first of them if both are literals. -/
def join : Pattern → List Pattern → List Pattern
  | literal s, literal t :: l => literal (s ++ t) :: l
  | p, l => p :: l

/-- Patterns one after the other. -/
def inRow (l : List Pattern) : Pattern := ofElements ((l.flatMap elements).foldr join [])

def branches : Pattern → List Pattern
  | either a b => a :: b.branches
  | p => [p]

def ofBranches : List Pattern → Pattern
  | [] => one false []
  | [p] => p
  | p :: l => either p (ofBranches l)

/-- The character of a literal that has no other. -/
def char? : Pattern → Option Char
  | literal [c] => some c
  | _ => none

def set? : Pattern → Option Ranges
  | one _ set => some set
  | _ => none

/-- A pattern with branches, or a set if all of them are characters or all of them sets. -/
def merged (l : List Pattern) : Pattern :=
  match l with
  | [p] => p
  | l =>
    match l.mapM char? with
    | some chars => ofSet true (chars.flatMap Ranges.single)
    | none =>
      match l.mapM set? with
      | some sets => ofSet true sets.flatten
      | none => ofBranches l

/-- What two rows begin with. -/
def sharedStart : List Pattern → List Pattern → List Pattern
  | a :: l, b :: m => if a = b then a :: sharedStart l m else []
  | _, _ => []

/-- The parts of a row of at least two. -/
def row : Pattern → List Pattern
  | seq a b => (seq a b).elements
  | _ => []

/-- What all branches begin with, if they are rows. -/
def commonStart : List Pattern → List Pattern
  | [] => []
  | p :: l => l.foldl (fun s q => sharedStart s q.row) p.row

/-- One of several patterns, an earlier one rather than a later one. -/
def anyOf (l : List Pattern) : Pattern :=
  let l := l.flatMap branches
  match commonStart l with
  | [] => merged l
  | s => inRow (s ++ [merged ((l.map fun p => inRow (p.elements.drop s.length)).flatMap branches)])

end FlakeImage.Text.Pattern
