/-!
# Sets of characters

A set of characters given by ranges of code points, in ascending order. Properties of the Unicode
standard are written down in this form.
-/

namespace CommandShell

/-- A set of characters: the ranges of its code points, first and last of each, in ascending
order. -/
structure CharSet where
  /-- First and last code point of each range. -/
  ranges : List (Nat × Nat)

namespace CharSet

/-- A character belongs to the set when its code point lies in one of the ranges. -/
def contains (s : CharSet) (c : Char) : Bool :=
  s.ranges.any fun r => r.1 ≤ c.toNat && c.toNat ≤ r.2

end CharSet

end CommandShell
