/-!
# Sets of code points

A property of characters is given by the places where it starts and stops to hold. A code point has
the property iff an odd number of these boundaries are at most it, so one ascending list is the
whole definition and its complement is the list with a zero put in front or taken away.

It is a compact form for properties that hold of long runs. Membership counts boundaries and does
not search for them, so nothing has to be known of the list for it to be defined; that it ascends is
a matter of what the set means.
-/

namespace Testbed

/-- A set of code points, given by its boundaries in ascending order: it starts at the first,
stops at the second, and so on. -/
structure CodePointSet where
  /-- The boundaries. -/
  boundaries : Array Nat

namespace CodePointSet

/-- The number of boundaries at most `n`. All of them are looked at. -/
def rank (s : CodePointSet) (n : Nat) : Nat :=
  s.boundaries.foldl (fun count b => if b ≤ n then count + 1 else count) 0

/-- Whether a character is in the set. An odd number means that a run has started and not stopped
yet. -/
def mem (s : CodePointSet) (c : Char) : Bool := s.rank c.toNat % 2 = 1

end CodePointSet

end Testbed
