import GroundedDialogue.Number.Binary64
import GroundedDialogue.Text.Lowercase

/-!
# Reading numbers

A number is written with a sign if it has one, digits with at most one point among them, and an
exponent after the letter e. At least one digit stands before the exponent. Infinity and the
undefined number are written as words.
-/

namespace GroundedDialogue

namespace Text

def isDigit (r : Rune) : Bool := 48 ≤ r.val && r.val ≤ 57

def digitsToNat (t : Text) : Nat := t.foldl (fun n r => n * 10 + (r.val - 48)) 0

/-- A sign, if one stands at the start, and what follows. -/
def splitPlusMinus (t : Text) : Bool × Text :=
  match Text.after? "-" t with
  | some rest => (true, rest)
  | none => (false, (Text.after? "+" t).getD t)

end Text

namespace Binary64

/-- The power of ten after a mantissa. Nothing stands for the zeroth. -/
def exponentOfText? (t : Text) : Option Int :=
  match t with
  | [] => some 0
  | r :: rest =>
    if r = Rune.ofChar 'e' || r = Rune.ofChar 'E' then
      let (negative, digits) := Text.splitPlusMinus rest
      if digits = [] || !digits.all Text.isDigit then none
      else some (if negative then -(Text.digitsToNat digits : Int) else Text.digitsToNat digits)
    else none

/-- The number without a sign that digits, a point and an exponent stand for. -/
def decimalOfText? (negative : Bool) (t : Text) : Option Binary64 := do
  let whole := t.takeWhile Text.isDigit
  let rest := t.dropWhile Text.isDigit
  let afterPoint := (Text.after? "." rest).getD []
  let fraction := afterPoint.takeWhile Text.isDigit
  let tail := if (Text.after? "." rest).isSome then afterPoint.dropWhile Text.isDigit else rest
  if whole ++ fraction = [] then none
  else
    let exponent ← exponentOfText? tail
    return ofDecimal negative (Text.digitsToNat (whole ++ fraction)) (exponent - fraction.length)

def ofText? (t : Text) : Option Binary64 :=
  let (negative, t) := Text.splitPlusMinus t
  let word := Text.lower t
  if word = "inf" || word = "infinity" then some (pack (.infinite negative))
  else if word = "nan" then some (pack .nan)
  else decimalOfText? negative t

end Binary64

end GroundedDialogue
