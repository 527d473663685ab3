/-!
# Character classes given by boundaries

A class of code points is stored as the increasing list of the points where membership changes:
the first entry is the first member, the second the first non-member after it, and so on. A code
point belongs to the class exactly when the number of boundaries at or below it is odd.
-/

namespace Switchboard.Text

/-- A set of code points, as the increasing list of points where membership changes. -/
structure CharClass where
  boundaries : Array Nat

namespace CharClass

/-- How many of the boundaries from `lo` up to `hi` lie at or below `point`, found by halving. -/
def rank (bounds : Array Nat) (point : Nat) : Nat → Nat → Nat → Nat
  | 0, lo, _ => lo
  | fuel + 1, lo, hi =>
      if lo < hi then
        let mid := (lo + hi) / 2
        if bounds.getD mid 0 ≤ point then rank bounds point fuel (mid + 1) hi
        else rank bounds point fuel lo mid
      else lo

/-- Membership: an odd number of boundaries stands at or below the code point. -/
def contains (cls : CharClass) (point : Nat) : Bool :=
  rank cls.boundaries point 32 0 cls.boundaries.size % 2 == 1

end CharClass

end Switchboard.Text
