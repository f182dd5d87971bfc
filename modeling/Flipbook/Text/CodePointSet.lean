/-!
# Sets of code points

A set of characters given by intervals of code points, as the properties of the Unicode standard
are tabulated.
-/

namespace Flipbook.Text

/-- Intervals of code points, both ends included, ascending and disjoint. -/
abbrev CodePointSet := Array (Nat × Nat)

namespace CodePointSet

/-- Membership in one of the intervals. -/
def contains (s : CodePointSet) (c : Char) : Bool :=
  s.any fun r => r.1 ≤ c.toNat && c.toNat ≤ r.2

end CodePointSet

end Flipbook.Text
