import GroundedDialogue.Text.DecimalDigit
import GroundedDialogue.Text.WhiteSpace
import GroundedDialogue.Text.Quoted

/-!
# Reading integers

A whole number is written with decimal digits of any script, with single low lines between digits
and an optional sign, and with white space around it. The control characters U+001C to U+001F do not
count as white space here.
-/

namespace GroundedDialogue.Text

/-- Why a text is not read as an integer. -/
inductive IntegerError where
  | malformed (source : Text)
  | tooManyDigits (digits : Nat)
  deriving DecidableEq, Repr

/-- The most digits that are read. -/
def integerDigitLimit : Nat := 4300

/-- The message that goes with a text that is not read; a long text is cut. -/
def IntegerError.message : IntegerError → Text
  | .malformed source => "invalid literal for int() with base 10: " ++ source.quoted.take 200
  | .tooManyDigits digits =>
    "Exceeds the limit (" ++ Text.ofNat integerDigitLimit ++ " digits) for integer string conversion: value has "
      ++ Text.ofNat digits ++ " digits; use sys.set_int_max_str_digits() to increase the limit"

/-- White space around a number. -/
def isNumberPadding (r : Rune) : Bool := r.isWhiteSpace && !(0x1C ≤ r.val && r.val ≤ 0x1F)

/-- The low line, which may stand between two digits. -/
def lowLine : Rune := Rune.ofChar '_'

/-- The value of a run of digits in which low lines stand only between digits, together with the
number of digits. -/
def digitRun? : (value digits : Nat) → (mayStop : Bool) → Text → Option (Nat × Nat)
  | value, digits, mayStop, [] => if mayStop then some (value, digits) else none
  | value, digits, mayStop, r :: t =>
    if r = lowLine then if mayStop then digitRun? value digits false t else none
    else match r.digitValue? with
      | some d => digitRun? (value * 10 + d) (digits + 1) true t
      | none => none

/-- A sign, if one stands at the start of a number, and what follows. -/
def splitSign (t : Text) : Bool × Text :=
  match t with
  | [] => (false, [])
  | r :: rest =>
    if r = Rune.ofChar '-' then (true, rest)
    else if r = Rune.ofChar '+' then (false, rest)
    else (false, t)

/-- Reads an integer. The length of the leading run of digits is looked at before what stands after
it. -/
def parseInt (source : Text) : Except IntegerError Int :=
  let (negative, t) := splitSign (source.trim isNumberPadding)
  let run := t.takeWhile fun r => r = lowLine || r.digitValue?.isSome
  match digitRun? 0 0 false run with
  | none => .error (.malformed source)
  | some (value, digits) =>
    if integerDigitLimit < digits then .error (.tooManyDigits digits)
    else if run.length < t.length then .error (.malformed source)
    else .ok (if negative then -value else value)

end GroundedDialogue.Text
