/-!
# Sets of characters given by ranges

A set of characters is listed as ranges of code points, both ends included.
-/

namespace Rulebook.Text

/-- Ranges of code points, both ends included. -/
abbrev Ranges := List (Nat × Nat)

/-- A code point is in the set when it lies between the ends of some range. -/
def Ranges.has (rs : Ranges) (n : Nat) : Bool :=
  rs.any fun r => r.1 ≤ n && n ≤ r.2

end Rulebook.Text
