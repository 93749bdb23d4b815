/-!
Sets of characters given by ranges of code points, in ascending order. The Unicode property
tables of this library are such sets, and hold only what lies beyond ASCII.
-/

namespace Testbook.Text

/-- A set of code points: pairs of a first and a last member, in ascending order. -/
abbrev Ranges := List (Nat × Nat)

/-- Whether a character lies in one of the ranges. -/
def Ranges.contains (ranges : Ranges) (c : Char) : Bool :=
  ranges.any fun r => r.1 ≤ c.toNat && c.toNat ≤ r.2

end Testbook.Text
