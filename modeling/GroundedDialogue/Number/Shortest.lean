import GroundedDialogue.Number.Binary64
import GroundedDialogue.Text.Basic

/-!
# Decimal text of a number

The fewest digits that read back as the number, and a fixed number of places. The search for the
fewest digits tries decimal grids from coarse to fine and looks at the two neighbours of the number
on each; the interval of values that round to the number decides.
-/

namespace GroundedDialogue

/-- A positive number `digits * 10 ^ exponent`. -/
structure DecimalDigits where
  digits : Nat
  exponent : Int
  deriving DecidableEq, Repr

namespace DecimalDigits

/-- A fraction in the place of a real number. -/
structure Fraction where
  num : Nat
  den : Nat

namespace Fraction

/-- The fraction `m * 2 ^ e`. -/
def ofScaled (m : Nat) (e : Int) : Fraction :=
  if e < 0 then ⟨m, 2 ^ e.natAbs⟩ else ⟨m * 2 ^ e.toNat, 1⟩

def inTens (x : Fraction) (k : Int) : Fraction :=
  if k < 0 then ⟨x.num * 10 ^ k.natAbs, x.den⟩ else ⟨x.num, x.den * 10 ^ k.toNat⟩

end Fraction

/-- The values between two bounds, which belong to it or not. -/
structure Interval where
  low : Fraction
  high : Fraction
  isClosed : Bool

/-- Whether the natural number lies in the interval measured in units of `10 ^ k`. -/
def Interval.containsTens (i : Interval) (k : Int) (n : Nat) : Bool :=
  let low := i.low.inTens k
  let high := i.high.inTens k
  if i.isClosed then low.num ≤ n * low.den && n * high.den ≤ high.num
  else low.num < n * low.den && n * high.den < high.num

/-- The values that round to the double `m * 2 ^ e`: half a unit of the last place on either side,
a quarter below a power of two. The bounds themselves round to it when the mantissa is even. -/
def roundingInterval (m : Nat) (e : Int) : Interval :=
  let below := if m = 2 ^ 52 && e > BinaryFormat.double.leastExponent then 1 else 2
  ⟨.ofScaled (4 * m - below) (e - 2), .ofScaled (4 * m + 2) (e - 2), m % 2 = 0⟩

/-- The exponent of the first decimal digit of a positive fraction. -/
def firstPlace (x : Fraction) : Int :=
  if x.den ≤ x.num then ((Nat.toDigits 10 (x.num / x.den)).length : Int) - 1
  else
    let places := (Nat.toDigits 10 (x.den / x.num)).length
    if x.den ≤ x.num * 10 ^ (places - 1) then -((places : Int) - 1) else -(places : Int)

/-- The neighbour of the number on a grid that reads back, the nearer one if both do. On an exact tie
the even one is taken. -/
def onGrid? (x : Fraction) (i : Interval) (k : Int) : Option Nat :=
  let scaled := x.inTens k
  let below := scaled.num / scaled.den
  let nearest := BinaryFormat.roundHalfEven scaled.num scaled.den
  let other := if nearest = below then below + 1 else below
  if i.containsTens k nearest then some nearest
  else if i.containsTens k other then some other
  else none

/-- Tries grids of `count`, `count + 1`, … digits. -/
def search (x : Fraction) (i : Interval) (first : Int) : (tries count : Nat) → DecimalDigits
  | 0, count => ⟨(x.inTens (first + 1 - count)).num / (x.inTens (first + 1 - count)).den, first + 1 - count⟩
  | tries + 1, count =>
    let k := first + 1 - (count : Int)
    match onGrid? x i k with
    | some n => ⟨n, k⟩
    | none => search x i first tries (count + 1)

/-- The fewest digits that read back as the positive double `m * 2 ^ e`. -/
def shortest (m : Nat) (e : Int) : DecimalDigits :=
  let x := Fraction.ofScaled m e
  search x (roundingInterval m e) (firstPlace x) 17 1

end DecimalDigits

/-- How decimal digits are laid out. -/
structure NumberLayout where
  /-- The first exponent of the leading digit that is written positionally. -/
  positionalFrom : Int
  /-- The first exponent of the leading digit that is no longer written positionally. -/
  positionalBelow : Int
  /-- The least number of digits of an exponent. -/
  exponentDigits : Nat

namespace NumberLayout

/-- Decimal digits with at least so many of them. -/
def padded (width n : Nat) : Text :=
  let digits := Text.ofNat n
  List.replicate (width - digits.length) (Rune.ofChar '0') ++ digits

/-- The text of a positive decimal number. -/
def positive (layout : NumberLayout) (d : DecimalDigits) : Text :=
  let written := Text.ofNat d.digits
  let digits := written.trimEnd (· = Rune.ofChar '0')
  let first : Int := d.exponent + written.length - 1
  let point : Text := "."
  if layout.positionalFrom ≤ first && first < layout.positionalBelow then
    if first < 0 then
      "0." ++ List.replicate (first.natAbs - 1) (Rune.ofChar '0') ++ digits
    else
      let whole := first.toNat + 1
      let padding := List.replicate (whole - digits.length) (Rune.ofChar '0')
      let fraction := digits.drop whole
      digits.take whole ++ padding ++ point ++ (if fraction.isEmpty then ("0" : Text) else fraction)
  else
    let sign : Text := if first < 0 then "-" else "+"
    let fraction := digits.drop 1
    digits.take 1 ++ (if fraction.isEmpty then [] else point ++ fraction) ++ "e" ++ sign
      ++ padded layout.exponentDigits first.natAbs

def text (layout : NumberLayout) (x : Binary64) : Text :=
  match x.unpack with
  | .nan => "nan"
  | .infinite negative => if negative then "-inf" else "inf"
  | .finite negative m e =>
    (if negative then ("-" : Text) else [])
      ++ (if m = 0 then ("0.0" : Text) else layout.positive (DecimalDigits.shortest m e))

/-- Logged numbers have at least one place behind the point, are written positionally from 0.0001 up
to 16 digits before the point, and otherwise have an exponent of at least two digits. -/
def logged : NumberLayout := ⟨-4, 16, 2⟩

end NumberLayout

/-- The text of a finite number with a fixed number of places; half a unit of the last place goes to
the even neighbour. -/
def Binary64.fixed (places : Nat) (x : Binary64) : Text :=
  match x.unpack with
  | .finite negative m e =>
    let f := DecimalDigits.Fraction.ofScaled m e
    let units := BinaryFormat.roundHalfEven (f.num * 10 ^ places) f.den
    (if negative then ("-" : Text) else []) ++ Text.ofNat (units / 10 ^ places) ++ "."
      ++ NumberLayout.padded places (units % 10 ^ places)
  | .infinite negative => if negative then "-inf" else "inf"
  | .nan => "nan"

end GroundedDialogue
