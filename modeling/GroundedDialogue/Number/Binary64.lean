import GroundedDialogue.Number.BinaryFormat
import GroundedDialogue.Number.Binary32

/-!
# Double-precision numbers

Sampling parameters and logged values. They are read, compared and printed, never computed with.
-/

namespace GroundedDialogue

/-- A double-precision number, given by its bits. -/
structure Binary64 where
  bits : UInt64
  deriving DecidableEq, Repr

namespace Binary64

abbrev format : BinaryFormat := .double

def ofNatBits (n : Nat) : Binary64 := ⟨UInt64.ofNat n⟩

def unpack (x : Binary64) : Unpacked := format.unpack x.bits.toNat

def pack (u : Unpacked) : Binary64 := ofNatBits (format.pack u)

def ofDecimal (negative : Bool) (m : Nat) (e : Int) : Binary64 :=
  ofNatBits (format.roundDecimal negative m e)

def ofInt (n : Int) : Binary64 := ofDecimal (n < 0) n.natAbs 0

def zero : Binary64 := ⟨0⟩

def one : Binary64 := ofInt 1

instance : Inhabited Binary64 := ⟨zero⟩

def isNaN (x : Binary64) : Bool := x.unpack = .nan

def isFinite (x : Binary64) : Bool :=
  match x.unpack with
  | .finite .. => true
  | _ => false

/-- The place of a number in numeric order; both zeros stand at 0. -/
def rank (x : Binary64) : Int :=
  let n := x.bits.toNat
  if n < 2 ^ 63 then n else -((n - 2 ^ 63 : Nat) : Int)

/-- Whether a number is below another. Nothing is below or above an undefined number. -/
def lt (x y : Binary64) : Bool := !x.isNaN && !y.isNaN && x.rank < y.rank

/-- Whether a number is not above another. -/
def le (x y : Binary64) : Bool := !x.isNaN && !y.isNaN && x.rank ≤ y.rank

def toInt? (x : Binary64) : Option Int :=
  match x.unpack with
  | .finite negative m e =>
    let (n, d) := (if e < 0 then (m, 2 ^ e.natAbs) else (m * 2 ^ e.toNat, 1) : Nat × Nat)
    if n % d = 0 then some (if negative then -((n / d : Nat) : Int) else (n / d : Nat)) else none
  | _ => none

/-- The single-precision number nearest to this one. -/
def toBinary32 (x : Binary64) : Binary32 := Binary32.pack x.unpack

end Binary64

end GroundedDialogue
