/-! # Nesting

How deeply the writing of a pattern is nested: groups, repetitions, sets in brackets, and what stands side by
side each make one level. -/

namespace FlakeImage.Text.Pattern

/-- Something with the depth of its writing. -/
structure Written (α : Type) where
  value : α
  depth : Nat := 0
  deriving DecidableEq, Repr

/-- Something that is written with one level more. -/
def Written.within {α β : Type} (w : Written α) (value : β) : Written β := ⟨value, w.depth + 1⟩

/-- The depth of parts side by side; a part alone makes no level. -/
def rowDepth : List Nat → Nat
  | [] => 0
  | [d] => d
  | l => l.foldl max 0 + 1

/-- How deeply a pattern may be nested. -/
def deepest : Nat := 250

end FlakeImage.Text.Pattern
