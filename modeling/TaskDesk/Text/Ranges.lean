/-!
# Ranges of characters

A class of characters is given by the ranges of their numbers, in order.
-/

namespace TaskDesk.Text

/-- Whether a character lies in one of some ranges. -/
def within (ranges : List (Nat × Nat)) (c : Char) : Bool :=
  ranges.any fun (low, high) => low ≤ c.toNat && c.toNat ≤ high

end TaskDesk.Text
