import GroundedDialogue.Number.BinaryFormat

/-!
# Single-precision numbers

The components of an embedding. A number is its bits, so that what a file holds is kept exactly,
whatever the number means. The operations are correctly rounded.
-/

namespace GroundedDialogue

/-- A single-precision number, given by its bits. -/
structure Binary32 where
  bits : UInt32
  deriving DecidableEq, Repr

namespace Binary32

abbrev format : BinaryFormat := .single

def ofNatBits (n : Nat) : Binary32 := ⟨UInt32.ofNat n⟩

def unpack (x : Binary32) : Unpacked := format.unpack x.bits.toNat

def pack (u : Unpacked) : Binary32 := ofNatBits (format.pack u)

def zero : Binary32 := ⟨0⟩

def nan : Binary32 := pack .nan

instance : Inhabited Binary32 := ⟨zero⟩

def isNaN (x : Binary32) : Bool := x.unpack = .nan

theorem isNaN_iff {x : Binary32} : x.isNaN = true ↔ x.unpack = .nan := by
  simp [isNaN]

theorem isNaN_nan : nan.isNaN = true := by decide

def ofQuotient (negative : Bool) (num den : Nat) : Binary32 :=
  ofNatBits (format.withSign negative (format.roundQuotient num den))

def ofInt (n : Int) : Binary32 := ofQuotient (n < 0) n.natAbs 1

/-- The sum of two finite numbers. A sum of zero is negative only if both numbers are. -/
def addFinite (s : Bool) (m : Nat) (e : Int) (s' : Bool) (m' : Nat) (e' : Int) : Binary32 :=
  let least := min e e'
  let signed (s : Bool) (m : Nat) (e : Int) : Int :=
    (if s then -1 else 1) * ((m * 2 ^ (e - least).toNat : Nat) : Int)
  let sum := signed s m e + signed s' m' e'
  if sum = 0 then pack (.finite (s && s') 0 0) else pack (.finite (sum < 0) sum.natAbs least)

def add (x y : Binary32) : Binary32 :=
  match x.unpack, y.unpack with
  | .nan, _ | _, .nan => nan
  | .infinite s, .infinite s' => if s = s' then x else nan
  | .infinite _, .finite .. => x
  | .finite .., .infinite _ => y
  | .finite s m e, .finite s' m' e' => addFinite s m e s' m' e'

def mul (x y : Binary32) : Binary32 :=
  match x.unpack, y.unpack with
  | .nan, _ | _, .nan => nan
  | .infinite s, .infinite s' => pack (.infinite (s != s'))
  | .infinite s, .finite s' m _ | .finite s m _, .infinite s' =>
    if m = 0 then nan else pack (.infinite (s != s'))
  | .finite s m e, .finite s' m' e' => pack (.finite (s != s') (m * m') (e + e'))

theorem isNaN_add {x y : Binary32} (h : x.isNaN = true ∨ y.isNaN = true) : (x.add y).isNaN = true := by
  simp only [isNaN_iff] at h
  unfold add
  rcases h with h | h
  · rw [h]
    exact isNaN_nan
  · rw [h]
    cases x.unpack <;> exact isNaN_nan

theorem isNaN_mul {x y : Binary32} (h : x.isNaN = true ∨ y.isNaN = true) : (x.mul y).isNaN = true := by
  simp only [isNaN_iff] at h
  unfold mul
  rcases h with h | h
  · rw [h]
    exact isNaN_nan
  · rw [h]
    cases x.unpack <;> exact isNaN_nan

def div (x y : Binary32) : Binary32 :=
  match x.unpack, y.unpack with
  | .nan, _ | _, .nan => nan
  | .infinite _, .infinite _ => nan
  | .infinite s, .finite s' _ _ => pack (.infinite (s != s'))
  | .finite s _ _, .infinite s' => pack (.finite (s != s') 0 0)
  | .finite s m e, .finite s' m' e' =>
    if m' = 0 then (if m = 0 then nan else pack (.infinite (s != s')))
    else
      let (n, d) := BinaryFormat.inUnits m m' (e' - e)
      ofQuotient (s != s') n d

theorem isNaN_div_left {x y : Binary32} (h : x.isNaN = true) : (x.div y).isNaN = true := by
  unfold div
  rw [isNaN_iff.mp h]
  exact isNaN_nan

/-- The square root. The integer root is taken of a number with so many bits that one more bit, set
when the root is not exact, decides the rounding. -/
def sqrt (x : Binary32) : Binary32 :=
  match x.unpack with
  | .nan => nan
  | .infinite s => if s then nan else x
  | .finite s m e =>
    if m = 0 then x
    else if s then nan
    else
      let shift := 64 + (e % 2).toNat
      let radicand := m * 2 ^ shift
      let root := Nat.sqrt radicand
      let sticky := if root * root = radicand then 0 else 1
      pack (.finite false (2 * root + sticky) ((e - shift) / 2 - 1))

/-- The place of a number in numeric order; both zeros stand at 0. -/
def rank (x : Binary32) : Int :=
  let n := x.bits.toNat
  if n < 2 ^ 31 then n else -((n - 2 ^ 31 : Nat) : Int)

/-- Whether a number is below another. Nothing is below or above an undefined number. -/
def lt (x y : Binary32) : Bool := !x.isNaN && !y.isNaN && x.rank < y.rank

/-- Negative infinity, below every other number. -/
def negInfinity : Binary32 := pack (.infinite true)

end Binary32

end GroundedDialogue
