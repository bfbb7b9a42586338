import FlakeImage.CommandLine.Directive

/-! # Which log messages are shown

A filter is a list of directives. Those without a span and without a value are for messages, wherever they
come from: of the ones that are for a message the most specific counts. Those with a span or a field are for
spans of work: within a span, they show all that one of them shows whose test the span passes. A directive with
a field alone is of both kinds. -/

namespace FlakeImage.CommandLine

/-- The directives of a filter, in the order in which they are written. -/
structure LogFilter where
  directives : List Directive
  deriving DecidableEq, Repr

/-- A span of work: its name, where it comes from, how important it is, and its fields. -/
structure WorkSpan where
  name : String
  source : LogSource
  level : Level
  fields : List (String × String)
  deriving DecidableEq, Repr

namespace Directive

/-- The directive tests the value of a field. -/
def hasValue (d : Directive) : Bool := d.field.any (·.value.isSome)

def isForMessages (d : Directive) : Bool := d.span.isNone && !d.hasValue

def isForSpans (d : Directive) : Bool := d.span.isSome || d.field.isSome

/-- How specific the target is. -/
def rank (d : Directive) : Nat :=
  match d.target with
  | none => 0
  | some target => target.utf8ByteSize + 1

/-- Of two directives for a message, the second counts: its target or its field is more specific, or comes
later in the alphabet, or both directives are for the same. -/
def yieldsTo (a b : Directive) : Bool :=
  if a.rank ≠ b.rank then a.rank < b.rank
  else
    match a.field, b.field with
    | none, _ => true
    | some _, none => false
    | some s, some t => !(t.name < s.name)

/-- The directive is for messages with these fields. -/
def namesFieldOf (d : Directive) (fields : List String) : Bool := d.field.all (fields.contains ·.name)

/-- Both directives are for the same spans, and test the same. -/
def isLike (a b : Directive) : Bool := a.target == b.target && a.span == b.span && a.field == b.field

/-- The directive is for a span, by its target, its name and the names of its fields. -/
def concernsSpan (d : Directive) (w : WorkSpan) : Bool :=
  d.concerns w.source && d.span.all (· == w.name) && d.namesFieldOf (w.fields.map (·.1))

/-- A span passes the directive's test. -/
def admits (d : Directive) (w : WorkSpan) : Bool := d.field.all (·.accepts w.fields)

def highest (l : List Directive) : Verbosity := l.foldl (fun n d => max n d.verbosity) 0

/-- The directives without those that are like a later one. -/
def latest : List Directive → List Directive
  | [] => []
  | d :: l => if l.any d.isLike then latest l else d :: latest l

end Directive

namespace LogFilter

/-- A filter with the same verbosity everywhere. -/
def uniform (verbosity : Verbosity) : LogFilter := ⟨[{ verbosity }]⟩

/-- The directives between commas. -/
def parts (s : List Char) : List (List Char) := (s.splitOnP (· == ',')).filter (!·.isEmpty)

/-- The filter that a text writes; one without directives shows nothing. -/
def ofText? (s : String) : Option LogFilter := ((parts s.toList).mapM Directive.ofText?).map LogFilter.mk

/-- Of the directives so far and one more, the one that counts. -/
def counting (a : Option Directive) (d : Directive) : Option Directive :=
  match a with
  | none => some d
  | some a => if a.yieldsTo d then some d else some a

/-- How much of a source is shown, by the most specific of the directives for messages that satisfy `p`. -/
def verbosity (f : LogFilter) (source : LogSource) (p : Directive → Bool) : Verbosity :=
  let l := f.directives.filter fun d => d.isForMessages && d.concerns source && p d
  ((l.foldl counting none).map (·.verbosity)).getD 0

/-- A message is shown wherever it comes. -/
def shows (f : LogFilter) (l : LogLine) : Bool :=
  l.level.rank ≤ f.verbosity l.source (·.namesFieldOf l.fieldNames)

def directivesFor (f : LogFilter) (w : WorkSpan) : List Directive :=
  (Directive.latest (f.directives.filter Directive.isForSpans)).filter (·.concernsSpan w)

/-- How much can be shown at all: everything, if values count that are not known beforehand. -/
def reach (f : LogFilter) : Verbosity :=
  if f.directives.any Directive.hasValue then Verbosity.all else Directive.highest f.directives

/-- How much is shown within a span, whatever the source. -/
def spanVerbosity (f : LogFilter) (w : WorkSpan) : Verbosity :=
  Directive.highest ((f.directivesFor w).filter (·.admits w))

/-- A span is shown with the messages in it. For a span as such, the fields of directives for messages do not
count. -/
def showsSpan (f : LogFilter) (w : WorkSpan) : Bool :=
  (w.level.rank ≤ f.reach && !(f.directivesFor w).isEmpty) || w.level.rank ≤ f.verbosity w.source fun _ => true

/-- How much is shown within a span, if the span is shown. -/
def within? (f : LogFilter) (w : WorkSpan) : Option Verbosity :=
  if f.showsSpan w then some (f.spanVerbosity w) else none

/-- A message is shown within a span in which so much is shown. -/
def showsWithin (f : LogFilter) (verbosity : Verbosity) (l : LogLine) : Bool :=
  f.shows l || l.level.rank ≤ verbosity

end LogFilter

end FlakeImage.CommandLine
