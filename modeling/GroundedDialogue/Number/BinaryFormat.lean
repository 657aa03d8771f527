import GroundedDialogue.Number.Power

/-!
# Binary floating-point formats

A format is given by its precision and the width of its exponent field; single and double precision
are two values of it. A number is taken apart into a sign, a whole mantissa and a power of two, and an
exact quotient of naturals is rounded once, to the nearest number of the format, a tie going to the
even mantissa. Everything is computed on naturals and integers.
-/

namespace GroundedDialogue

/-- The sign, mantissa and exponent of a floating-point number: `mantissa * 2 ^ exponent`. -/
inductive Unpacked where
  | nan
  | infinite (negative : Bool)
  | finite (negative : Bool) (mantissa : Nat) (exponent : Int)
  deriving DecidableEq, Repr

/-- An interchange format. The leading bit counts to the precision and is not stored. -/
structure BinaryFormat where
  precision : Nat
  exponentWidth : Nat

namespace BinaryFormat

def single : BinaryFormat := ⟨24, 8⟩

def double : BinaryFormat := ⟨53, 11⟩

def fractionWidth (f : BinaryFormat) : Nat := f.precision - 1

/-- The exponent of the last place of the smallest numbers. -/
def leastExponent (f : BinaryFormat) : Int := 3 - 2 ^ (f.exponentWidth - 1) - f.precision

/-- The bits of positive infinity. -/
def infinity (f : BinaryFormat) : Nat := (2 ^ f.exponentWidth - 1) * 2 ^ f.fractionWidth

def signBit (f : BinaryFormat) : Nat := 2 ^ (f.exponentWidth + f.fractionWidth)

def withSign (f : BinaryFormat) (negative : Bool) (magnitude : Nat) : Nat :=
  if negative then f.signBit + magnitude else magnitude

/-- The bits of the number that stands for every undefined result. -/
def nan (f : BinaryFormat) : Nat := f.infinity + 2 ^ (f.fractionWidth - 1)

/-- Takes the bits of a number apart. -/
def unpack (f : BinaryFormat) (bits : Nat) : Unpacked :=
  let negative := f.signBit ≤ bits
  let magnitude := bits % f.signBit
  if f.infinity < magnitude then .nan
  else if magnitude = f.infinity then .infinite negative
  else
    let biased := magnitude / 2 ^ f.fractionWidth
    let fraction := magnitude % 2 ^ f.fractionWidth
    if biased = 0 then .finite negative fraction f.leastExponent
    else .finite negative (2 ^ f.fractionWidth + fraction) (f.leastExponent + (biased - 1 : Nat))

/-- The whole number nearest to a quotient; a half goes to the even neighbour. -/
def roundHalfEven (num den : Nat) : Nat :=
  let q := num / den
  let twice := 2 * (num % den)
  if den < twice || (twice = den && q % 2 = 1) then q + 1 else q

/-- Numerator and denominator of `num / den` measured in units of `2 ^ e`. -/
def inUnits (num den : Nat) (e : Int) : Nat × Nat :=
  if e < 0 then (num * 2 ^ e.natAbs, den) else (num, den * 2 ^ e.toNat)

/-- The exponent of the last place for a quotient: it leaves `precision` bits before the point, or
fewer for the smallest numbers. -/
def lastPlace (f : BinaryFormat) (num den : Nat) : Int :=
  let low : Int := (num.log2 : Int) - den.log2 - f.precision
  let (n, d) := inUnits num den low
  let e := if d * 2 ^ f.precision ≤ n then low + 1 else low
  max e f.leastExponent

/-- The bits of the magnitude nearest to `num / den`, infinity when it is too large. A carry out of
the mantissa runs into the exponent field by itself. -/
def roundQuotient (f : BinaryFormat) (num den : Nat) : Nat :=
  if num = 0 then 0
  else
    let e := f.lastPlace num den
    let (n, d) := inUnits num den e
    min f.infinity ((e - f.leastExponent).toNat * 2 ^ f.fractionWidth + roundHalfEven n d)

/-- The bits of the number nearest to `± m * 2 ^ e`. -/
def roundScaled (f : BinaryFormat) (negative : Bool) (m : Nat) (e : Int) : Nat :=
  f.withSign negative <|
    if e < 0 then f.roundQuotient m (2 ^ e.natAbs) else f.roundQuotient (m * 2 ^ e.toNat) 1

/-- The bits of the number nearest to `± m * 10 ^ e`. What is far beyond the range of both formats is
settled by the size of the exponent. -/
def roundDecimal (f : BinaryFormat) (negative : Bool) (m : Nat) (e : Int) : Nat :=
  f.withSign negative <|
    if m = 0 || e + (m.log2 / 3 : Nat) < -500 then 0
    else if e > 500 then f.infinity
    else if e < 0 then f.roundQuotient m (10 ^ e.natAbs)
    else f.roundQuotient (m * 10 ^ e.toNat) 1

/-- The bits of the number that was taken apart, rounded to this format. -/
def pack (f : BinaryFormat) : Unpacked → Nat
  | .nan => f.nan
  | .infinite negative => f.withSign negative f.infinity
  | .finite negative m e => f.roundScaled negative m e

end BinaryFormat

end GroundedDialogue
