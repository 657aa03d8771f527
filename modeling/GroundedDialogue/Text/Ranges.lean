import GroundedDialogue.Text.Basic

/-!
# Sets of code points

A property of code points is a list of inclusive ranges in ascending order.
-/

namespace GroundedDialogue

/-- Inclusive ranges of code points, ascending. -/
abbrev RuneRanges := List (Nat × Nat)

/-- Whether one of the ranges holds the code point. The search stops at the first range that ends at
or after it. -/
def RuneRanges.contains (r : Rune) : RuneRanges → Bool
  | [] => false
  | (first, last) :: rest => if r.val ≤ last then first ≤ r.val else contains r rest

end GroundedDialogue
