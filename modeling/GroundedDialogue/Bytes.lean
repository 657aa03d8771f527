import GroundedDialogue.Number.Power

/-!
# Bytes

Byte sequences, numbers written with their least byte first, and the cutting of a sequence into parts
of one width.
-/

namespace GroundedDialogue

/-- A byte sequence, as read from or written to a file. -/
abbrev Bytes := List UInt8

namespace Bytes

/-- The number whose bytes these are, least byte first. -/
def toNat (b : Bytes) : Nat := b.foldr (fun byte n => byte.toNat + 256 * n) 0

/-- The last `width` bytes of a number, least byte first. -/
def ofNat : (width : Nat) → Nat → Bytes
  | 0, _ => []
  | width + 1, n => UInt8.ofNat (n % 256) :: ofNat width (n / 256)

/-- The first `count` parts of this width. -/
def parts (width : Nat) : (count : Nat) → Bytes → List Bytes
  | 0, _ => []
  | count + 1, b => b.take width :: parts width count (b.drop width)

end Bytes

end GroundedDialogue
