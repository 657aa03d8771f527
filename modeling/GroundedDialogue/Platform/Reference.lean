import GroundedDialogue.Platform

/-!
# A platform

A machine with addresses of 47 bits, and an array library that counts the bytes of a vector, and those of
a text, by a signed number of 32 bits. Products are summed up from left to right.
-/

namespace GroundedDialogue.Platform

/-- The product of a single pair stands for itself. -/
def sumOfProducts (a b : List Binary32) : Binary32 :=
  match List.zipWith Binary32.mul a b with
  | [product] => product
  | products => products.foldl Binary32.add Binary32.zero

theorem isNaN_foldl_add {products : List Binary32} {start : Binary32}
    (h : start.isNaN = true ∨ ∃ product ∈ products, product.isNaN = true) :
    (products.foldl Binary32.add start).isNaN = true := by
  induction products generalizing start with
  | nil => simpa using h
  | cons product rest ih =>
    apply ih
    rcases h with h | ⟨other, hmem, h⟩
    · exact Or.inl (Binary32.isNaN_add (Or.inl h))
    · rcases List.mem_cons.mp hmem with rfl | hmem
      · exact Or.inl (Binary32.isNaN_add (Or.inr h))
      · exact Or.inr ⟨other, hmem, h⟩

theorem isNaN_sumOfProducts {a b : List Binary32}
    (h : ∃ product ∈ List.zipWith Binary32.mul a b, product.isNaN = true) :
    (sumOfProducts a b).isNaN = true := by
  unfold sumOfProducts
  split
  case h_1 product hproduct =>
    obtain ⟨other, hmem, hnan⟩ := h
    rw [hproduct, List.mem_singleton] at hmem
    rwa [hmem] at hnan
  case h_2 => exact isNaN_foldl_add (Or.inr h)

/-- The number of bytes that is too large for a vector, or a text, of a record. -/
def recordBound : Nat := 2 ^ 31

def memoryBound : Nat := 2 ^ 47

/-- The dimension of the vector is looked at before its bytes, and the vector before the text. -/
def refuseRecord (embedSize maxText : Nat) : Option Fault :=
  if recordBound ≤ embedSize then some .recordDimension
  else if recordBound ≤ 4 * embedSize then some .recordBytes
  else if recordBound ≤ maxText then some (.recordText maxText)
  else none

instance reference : Platform where
  holds count size := count * size < memoryBound
  refusal? := refuseRecord
  dot := sumOfProducts
  holds_zero size := by simp [memoryBound]
  holds_of_le hn hcount :=
    decide_eq_true (Nat.lt_of_le_of_lt (Nat.mul_le_mul_right _ hcount) (of_decide_eq_true hn))
  mul_lt_of_holds h := by
    have hlt := of_decide_eq_true h
    rw [memoryBound] at hlt
    omega
  refusal?_eq_none h := by
    rw [refuseRecord, recordBound, if_neg (by omega), if_neg (by omega), if_neg (by omega)]
  isNaN_dot _ := isNaN_sumOfProducts

end GroundedDialogue.Platform
