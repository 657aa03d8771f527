import GroundedDialogue.Fault
import GroundedDialogue.Number.Binary32
import GroundedDialogue.Number.Power

/-!
# The platform

What the program leaves to the machine that it runs on and to the array library that it is linked with:
how much fits into memory, for which sizes there is a type of records, and the order in which the products
of two vectors are summed up. The program only relies on what is stated here.
-/

namespace GroundedDialogue

class Platform where
  /-- Whether so many elements of this size, in bytes, fit into memory at once. -/
  holds (count size : Nat) : Bool
  /-- What the array library says about records of these sizes, if it cannot make them. -/
  refusal? (embedSize maxText : Nat) : Option Fault
  /-- The sum of the products of the components of two vectors of one length. -/
  dot (a b : List Binary32) : Binary32
  holds_zero (size : Nat) : holds 0 size = true
  holds_of_le {count n size : Nat} (hn : holds n size = true) (hcount : count ≤ n) : holds count size = true
  /-- The bytes of what fits into memory can be counted. -/
  mul_lt_of_holds {count size : Nat} (h : holds count size = true) : count * size < 2 ^ 63
  refusal?_eq_none {embedSize maxText : Nat} (h : 4 * embedSize + maxText < 2 ^ 31) :
    refusal? embedSize maxText = none
  isNaN_dot {a b : List Binary32} (hlength : a.length = b.length)
    (h : ∃ product ∈ List.zipWith Binary32.mul a b, product.isNaN = true) : (dot a b).isNaN = true

end GroundedDialogue
