/-!
# Tables of characters

A class of characters is a list of closed intervals of code points.
-/

namespace BuildCondition.Text

/-- Closed intervals of code points, in ascending order. -/
abbrev Ranges := List (Nat × Nat)

/-- A character is in a table when one of its intervals holds the code point. -/
def inRanges (table : Ranges) (c : Char) : Bool :=
  table.any fun r => r.1 ≤ c.toNat && c.toNat ≤ r.2

end BuildCondition.Text
