/-!
# The stack of origins

Nested coordinate systems: the top is the current one, the others wait below it.  There is always
a top, so a stack of one entry has nothing to go back to.
-/

namespace Flipbook

/-- A stack that is never empty. -/
structure OriginStack (M : Type) where
  /-- The current coordinate system. -/
  top : M
  /-- The coordinate systems around it, the nearest first. -/
  below : List M
  deriving DecidableEq, Repr

namespace OriginStack

variable {M : Type}

/-- The stack with a single entry. -/
def single (m : M) : OriginStack M := ⟨m, []⟩

/-- The number of entries. -/
def depth (s : OriginStack M) : Nat := s.below.length + 1

/-- Enters a coordinate system that starts as a copy of the current one. -/
def push (s : OriginStack M) : OriginStack M := ⟨s.top, s.top :: s.below⟩

/-- Goes back to the coordinate system around the current one, if there is one. -/
def pop? (s : OriginStack M) : Option (OriginStack M) :=
  match s.below with
  | [] => none
  | m :: ms => some ⟨m, ms⟩

/-- Replaces the top. -/
def setTop (s : OriginStack M) (m : M) : OriginStack M := { s with top := m }

/-- Composes the top with a further transformation on its right. -/
def transform [Mul M] (s : OriginStack M) (m : M) : OriginStack M := s.setTop (s.top * m)

end OriginStack

end Flipbook
