import FlakeImage.Text.Alphanumeric
import FlakeImage.Text.Pattern.CharClass
import FlakeImage.Text.Pattern.Simple

/-! # The writing of patterns

A pattern is read from the left to the right. What has been read of each open group is kept: the branches
before its last bar and the parts after it. There is no way to write a number of repetitions. -/

namespace FlakeImage.Text.Pattern

/-- What has been read of a group: the branches before the last bar, and the parts after it, the last one
first. Where flags have been changed there is a part that nothing can be done to. -/
structure Branches where
  before : List (Written Pattern) := []
  parts : List (Option (Written Pattern)) := []
  deriving DecidableEq, Repr

namespace Branches

/-- The parts after the last bar as one pattern. -/
def latest (b : Branches) : Written Pattern :=
  let l := b.parts.reverse
  ⟨inRow ((l.filterMap id).map (·.value)), rowDepth (l.map fun p => (p.map (·.depth)).getD 0)⟩

def whole (b : Branches) : Written Pattern :=
  match b.before with
  | [] => b.latest
  | l =>
    let l := l ++ [b.latest]
    ⟨anyOf (l.map (·.value)), rowDepth (l.map (·.depth))⟩

/-- One more part. -/
def add (b : Branches) (part : Option (Written Pattern)) : Branches := { b with parts := part :: b.parts }

/-- A bar ends the branch. -/
def bar (b : Branches) : Branches := { before := b.before ++ [b.latest] }

/-- The last part with something done to it. -/
def modifyLast? (b : Branches) (change : Pattern → Pattern) : Option Branches :=
  match b.parts with
  | some p :: l => some { b with parts := some (p.within (change p.value)) :: l }
  | _ => none

end Branches

/-- What is around an open group: the flags before it, what has been read there, and the group's number if it
has one. -/
structure Enclosing where
  flags : Flags
  branches : Branches
  number : Option Nat
  deriving DecidableEq, Repr

/-- The state of reading: what is around the current group, how many groups have a number, and the names in
use. -/
structure Reading where
  flags : Flags := {}
  outer : List Enclosing := []
  current : Branches := {}
  numbered : Nat := 0
  names : List String := []
  deriving DecidableEq, Repr

/-- The name of a group can have the character, also in front if `first` is set. -/
def isNameChar (first : Bool) (c : Char) : Bool :=
  c == '_' || isAlphanumeric c && !(first && c.isDigit) || !first && (c == '.' || c == '[' || c == ']')

/-- The name of a group up to its end, and what follows. -/
def groupName? (s : List Char) : Option (String × List Char) :=
  let name := s.takeWhile (· != '>')
  match name, s.drop name.length with
  | c :: l, _ :: r =>
    if isNameChar true c && l.all (isNameChar false) then some (String.ofList name, r) else none
  | _, _ => none

def charPattern? (f : Flags) (c : Char) (byte : Bool) : Option Pattern :=
  if f.unicode || c.toNat < 0x80 then (f.charSet? (Ranges.single c)).map (ofSet f.unicode)
  else if byte then none
  else some (literal [c])

def Item.pattern? (f : Flags) : Item → Option Pattern
  | .char c byte => charPattern? f c byte
  | .set ranges => (f.charSet? ranges).map (ofSet f.unicode)
  | .look l => some (.look l)

/-- What a dot stands for. -/
def dot? (f : Flags) : Option Pattern :=
  if !f.unicode then none
  else if f.dotAll then some (ofSet true (Ranges.complement []))
  else if f.returns then some (ofSet true (Ranges.complement [(0x0A, 0x0A), (0x0D, 0x0D)]))
  else some (ofSet true (Ranges.complement [(0x0A, 0x0A)]))

namespace Reading

/-- One more part of the current group. -/
def addWritten (g : Reading) (p : Written Pattern) : Reading := { g with current := g.current.add (some p) }

/-- One more part that is not nested. -/
def add (g : Reading) (p : Pattern) : Reading := g.addWritten ⟨p, 0⟩

/-- A group without a number begins, with these flags in it. -/
def enter (g : Reading) (flags : Flags) : Reading :=
  { g with flags, outer := ⟨g.flags, g.current, none⟩ :: g.outer, current := {} }

/-- A group with a number begins. -/
def enterNumbered (g : Reading) : Reading :=
  { g with
    outer := ⟨g.flags, g.current, some g.numbered⟩ :: g.outer
    current := {}
    numbered := g.numbered + 1 }

/-- A group with a name begins; no two may have the same. -/
def enterNamed? (g : Reading) (s : List Char) : Option (Reading × List Char) :=
  (groupName? s).bind fun (name, r) =>
    if g.names.contains name then none else some ({ g.enterNumbered with names := name :: g.names }, r)

/-- Flags, for a group that begins or for the rest of the current one. -/
def changeFlags? (g : Reading) (s : List Char) : Option (Reading × List Char) :=
  (g.flags.read [] s).bind fun (flags, isGroup, r) =>
    if isGroup then some (g.enter flags, r)
    else if s.head? = some ')' then none
    else some ({ g with flags, current := g.current.add none }, r)

/-- What follows an opening bracket. -/
def open? (g : Reading) (s : List Char) : Option (Reading × List Char) :=
  match g.flags.skip s with
  | '?' :: '<' :: '!' :: _ => none
  | '?' :: 'P' :: '<' :: r => g.enterNamed? r
  | '?' :: '<' :: r => g.enterNamed? r
  | '?' :: r => g.changeFlags? r
  | r => some (g.enterNumbered, r)

/-- A group ends: it is a part of the one around it. -/
def close? (g : Reading) : Option Reading :=
  match g.outer with
  | [] => none
  | e :: outer =>
    let w := g.current.whole
    let p := match e.number with
      | none => w.value
      | some n => group n w.value
    some { g with flags := e.flags, outer, current := e.branches.add (some (w.within p)) }

/-- The last part is repeated as `change` says; a question mark that follows makes the greedy sparing. -/
def repeat? (g : Reading) (change : Bool → Pattern → Pattern) (s : List Char) : Option (Reading × List Char) :=
  let sparing := s.head? == some '?'
  (g.current.modifyLast? (change (sparing == g.flags.swapGreed))).map fun current =>
    ({ g with current }, if sparing then s.tail else s)

/-- The start of the text, or of a line. -/
def startLook (f : Flags) : Look := if f.multiLine then .lineStart f.returns else .textStart

/-- The end of the text, or of a line. -/
def endLook (f : Flags) : Look := if f.multiLine then .lineEnd f.returns else .textEnd

/-- Reads a character and what belongs to it; gives what follows. -/
def step? (g : Reading) (c : Char) (s : List Char) : Option (Reading × List Char) :=
  match c with
  | '(' => g.open? s
  | ')' => g.close?.map (·, s)
  | '|' => some ({ g with current := g.current.bar }, s)
  | '[' =>
    (class? g.flags s).map fun (set, r) => (g.addWritten ⟨ofSet g.flags.unicode set.value, set.depth⟩, r)
  | '?' => g.repeat? optional s
  | '*' => g.repeat? anyTimes s
  | '+' => g.repeat? onceOrMore s
  | '\x7b' => none
  | '.' => (dot? g.flags).map fun p => (g.add p, s)
  | '^' => some (g.add (.look (startLook g.flags)), s)
  | '$' => some (g.add (.look (endLook g.flags)), s)
  | '\\' => (escape? g.flags s).bind fun (item, r) => (item.pattern? g.flags).map fun p => (g.add p, r)
  | c => (charPattern? g.flags c false).map fun p => (g.add p, s)

/-- Reads a text to its end, in at most `n` steps; all groups have to be closed. -/
def run? : Nat → Reading → List Char → Option (Written Pattern)
  | 0, _, _ => none
  | n + 1, g, s =>
    match g.flags.skip s with
    | [] => if g.outer.isEmpty then some g.current.whole else none
    | c :: r => (g.step? c r).bind fun (g, r) => run? n g r

end Reading

/-- The pattern that a text writes, unless it is nested too deeply. -/
def ofText? (s : String) : Option Pattern :=
  (Reading.run? (s.length + 1) {} s.toList).bind fun w => if w.depth ≤ deepest then some w.value else none

end FlakeImage.Text.Pattern
