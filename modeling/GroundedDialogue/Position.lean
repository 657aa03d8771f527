import GroundedDialogue.Number.Power
import GroundedDialogue.Text.Basic

/-!
# Positions

Positions in a sequence, and limits on its length, are signed numbers of 64 bits. Other numbers are
refused before the sequence is looked at.
-/

namespace GroundedDialogue.Position

/-- The least number that is too large for a position. -/
def bound : Nat := 2 ^ 63

/-- Whether a number can be a position. A negative one may count from the end. -/
def fits (n : Int) : Bool := -(bound : Int) ≤ n && n < bound

theorem fits_of_nonneg {n : Int} (hn : 0 ≤ n) (hbound : n < 2 ^ 63) : fits n = true := by
  rw [fits, Bool.and_eq_true, decide_eq_true_iff, decide_eq_true_iff, bound]
  omega

/-- What is said about a number that cannot be a position. -/
def misfit : Text := "cannot fit 'int' into an index-sized integer"

end GroundedDialogue.Position
