/-! # Ranges of characters

A set of characters as a table: the first and the last number of each range. In a normal table the ranges are
in order and do not meet; every set has one, and so the empty set can be told from others. -/

namespace FlakeImage.Text

/-- The first and the last number of each range. -/
abbrev Ranges := List (Nat × Nat)

namespace Ranges

/-- The character lies in one of the ranges. -/
def holds (ranges : Ranges) (c : Char) : Bool :=
  ranges.any fun r => r.1 ≤ c.toNat && c.toNat ≤ r.2

theorem holds_of_mem {ranges : Ranges} {r : Nat × Nat} {c : Char} (h : r ∈ ranges) (h₁ : r.1 ≤ c.toNat)
    (h₂ : c.toNat ≤ r.2) : ranges.holds c = true := by
  simp only [holds, List.any_eq_true, Bool.and_eq_true, decide_eq_true_eq]
  exact ⟨r, h, h₁, h₂⟩

def single (c : Char) : Ranges := [(c.toNat, c.toNat)]

/-- The number of the last character. -/
def last : Nat := 0x10FFFF

/-- A range before others that begin no earlier, with those that it meets joined to it. -/
def joinFrom (r : Nat × Nat) : Ranges → Ranges
  | [] => [r]
  | q :: l => if q.1 ≤ r.2 + 1 then joinFrom (r.1, max r.2 q.2) l else r :: joinFrom q l

/-- The same set, in order and without ranges that meet. -/
def normal (s : Ranges) : Ranges :=
  match s.mergeSort fun x y => x.1 ≤ y.1 with
  | [] => []
  | r :: l => joinFrom r l

/-- The gaps of a normal table from a number on. -/
def gapsFrom (start : Nat) : Ranges → Ranges
  | [] => if start ≤ last then [(start, last)] else []
  | r :: l => if start < r.1 then (start, r.1 - 1) :: gapsFrom (r.2 + 1) l else gapsFrom (r.2 + 1) l

/-- The gaps of a set. -/
def gaps (s : Ranges) : Ranges := gapsFrom 0 s.normal

/-- The first number after those that no character has. -/
def afterSurrogates (n : Nat) : Nat := if 0xD800 ≤ n ∧ n ≤ 0xDFFF then 0xE000 else n

/-- The last number before those that no character has. -/
def beforeSurrogates (n : Nat) : Nat := if 0xD800 ≤ n ∧ n ≤ 0xDFFF then 0xD7FF else n

/-- The set with ranges that begin and end with characters. -/
def trimmed (s : Ranges) : Ranges :=
  (s.map fun r => (afterSurrogates r.1, beforeSurrogates r.2)).filter fun r => r.1 ≤ r.2

/-- All other characters. If there are none between two ranges, but numbers, it is the characters on both sides
of these. -/
def complement (s : Ranges) : Ranges :=
  s.gaps.map fun r =>
    let a := afterSurrogates r.1
    let b := beforeSurrogates r.2
    (min a b, max a b)

/-- The characters in both sets. -/
def inter (s t : Ranges) : Ranges := trimmed (gaps (s.gaps ++ t.gaps))

/-- The characters in the first set and not in the second. -/
def diff (s t : Ranges) : Ranges := trimmed (gaps (s.gaps ++ t))

/-- The characters in one of the sets only. -/
def symmDiff (s t : Ranges) : Ranges := s.diff t ++ t.diff s

/-- All characters of the set are ASCII. -/
def isAscii (s : Ranges) : Bool := s.all (·.2 < 0x80)

end Ranges

end FlakeImage.Text
