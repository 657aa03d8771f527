import GroundedDialogue.Model.Entry
import GroundedDialogue.Number.Reading
import GroundedDialogue.Text.Integer

/-!
# Fields of a model entry

A field is given as a value of any kind and read as the kind that the entry holds. Numbers may come as
text, as truth values, and integers as numbers without a fraction. What cannot be read is refused with
the reason.
-/

namespace GroundedDialogue

/-- A value that is given for a field. -/
inductive FieldValue where
  | scalar (v : Scalar)
  /-- A value with parts. -/
  | composite
  deriving DecidableEq

/-- Why the value of a field is refused. -/
inductive FieldProblem where
  | missing
  | notText
  | notInteger
  | unreadableInteger
  | integerTooLarge
  | fraction
  | notFinite
  | notNumber
  | unreadableNumber
  /-- The text holds a surrogate. -/
  | unreadableText
  | notStyle
  | blank
  | notPositive
  | negativeTemperature
  | notProbability
  deriving DecidableEq, Repr

namespace FieldProblem

def kind : FieldProblem → Text
  | missing => "missing"
  | notText => "string_type"
  | notInteger => "int_type"
  | unreadableInteger => "int_parsing"
  | integerTooLarge => "int_parsing_size"
  | fraction => "int_from_float"
  | notFinite => "finite_number"
  | notNumber => "float_type"
  | unreadableNumber => "float_parsing"
  | unreadableText => "string_unicode"
  | notStyle => "enum"
  | blank | notPositive | negativeTemperature | notProbability => "value_error"

def message : FieldProblem → Text
  | missing => "Field required"
  | notText => "Input should be a valid string"
  | notInteger => "Input should be a valid integer"
  | unreadableInteger => "Input should be a valid integer, unable to parse string as an integer"
  | integerTooLarge => "Unable to parse input string as an integer, exceeded maximum size"
  | fraction => "Input should be a valid integer, got a number with a fractional part"
  | notFinite => "Input should be a finite number"
  | notNumber => "Input should be a valid number"
  | unreadableNumber => "Input should be a valid number, unable to parse string as a number"
  | unreadableText => "Input should be a valid string, unable to parse raw data as a unicode string"
  | notStyle => "Input should be 'plain', 'chat' or 'instruction'"
  | blank => "Value error, must not be empty"
  | notPositive => "Value error, must be > 0"
  | negativeTemperature => "Value error, temperature must be >= 0"
  | notProbability => "Value error, must be between 0 and 1"

end FieldProblem

namespace FieldValue

/-! ## Texts and styles -/

/-- Only a text is read as a text. -/
def readText : FieldValue → Except FieldProblem Text
  | scalar (.words t) => .ok t
  | _ => .error .notText

def readStyle : FieldValue → Except FieldProblem PromptStyle
  | scalar (.words t) =>
    if t.any Rune.isSurrogate then .error .unreadableText
    else (PromptStyle.ofName? t).elim (.error .notStyle) .ok
  | _ => .error .notStyle

/-! ## Integers -/

/-- Whether a code point is a digit other than zero. -/
def isPositiveDigit (r : Rune) : Bool := 49 ≤ r.val && r.val ≤ 57

/-- An unsigned integer after the zeros in front of it. Low lines may stand among these zeros, and a
minus sign may follow them. The last of them is kept when a point or nothing at all follows. -/
def withoutLeadingZeros? : Text → Option Text
  | [] => none
  | r :: rest =>
    if r = Rune.ofChar '0' then
      let isZero (r : Rune) : Bool := r = Rune.ofChar '0' || r = Text.lowLine
      let last := (rest.takeWhile isZero).getLastD r
      match rest.dropWhile isZero with
      | [] => some [last]
      | s :: more =>
        if s = Rune.ofChar '.' then some (last :: s :: more)
        else if isPositiveDigit s || s = Rune.ofChar '-' then some (s :: more)
        else none
    else if isPositiveDigit r then some (r :: rest)
    else none

/-- An integer without the point and the zeros behind it. A point with nothing behind it stays. -/
def withoutZeroFraction (t : Text) : Text :=
  let whole := t.takeWhile (· ≠ Rune.ofChar '.')
  let fraction := t.drop (whole.length + 1)
  if fraction ≠ [] && fraction.all (· = Rune.ofChar '0') then whole else t

/-- Whether low lines stand by themselves, with something before and after each. -/
def lowLinesFit (t : Text) : Bool :=
  t.head? ≠ some Text.lowLine && t.getLast? ≠ some Text.lowLine
    && (Text.find? [Text.lowLine, Text.lowLine] t).isNone

/-- A number without its low lines, if they fit. -/
def withoutLowLines (t : Text) : Text := if lowLinesFit t then t.filter (· ≠ Text.lowLine) else t

/-- The integer that plain digits stand for, with a minus sign in front of a negative one. The length
of the leading run of digits is looked at before what stands after it. -/
def integerOfDigits (t : Text) : Except FieldProblem Int :=
  let (negative, unsigned) := match Text.after? "-" t with
    | some unsigned => (true, unsigned)
    | none => (false, t)
  let run := unsigned.takeWhile Text.isDigit
  if run.length > 1 && run.head? = some (Rune.ofChar '0') then .error .unreadableInteger
  else if run.length > Text.integerDigitLimit then .error .integerTooLarge
  else if run = [] || run.length < unsigned.length then .error .unreadableInteger
  else .ok (if negative then -(Text.digitsToNat run : Int) else Text.digitsToNat run)

/-- The integer that a text stands for. Zeros in front of it, a fraction of zeros and low lines within
it are taken off between the sign and the digits. -/
def integerOfText (t : Text) : Except FieldProblem Int :=
  let (negative, unsigned) := Text.splitPlusMinus (t.trim Text.isNumberPadding)
  match withoutLeadingZeros? unsigned with
  | none => .error .unreadableInteger
  | some body =>
    let digits := withoutLowLines (withoutZeroFraction body)
    integerOfDigits (if negative then Rune.ofChar '-' :: digits else digits)

/-- The integer that a number is. Numbers from 2 to the power of 63 on are refused. -/
def integerOfNumber (x : Binary64) : Except FieldProblem Int :=
  if !x.isFinite then .error .notFinite
  else match x.toInt? with
    | none => .error .fraction
    | some n => if n.natAbs < 2 ^ 63 then .ok n else .error .integerTooLarge

def readInteger : FieldValue → Except FieldProblem Int
  | scalar (.whole n) => .ok n
  | scalar (.flag b) => .ok (if b then 1 else 0)
  | scalar (.number x) => integerOfNumber x
  | scalar (.words t) => if t.any Rune.isSurrogate then .error .unreadableText else integerOfText t
  | scalar .missing | composite => .error .notInteger

/-! ## Numbers -/

/-- The number that a text stands for, with padding around it or with low lines in it. -/
def numberOfText? (t : Text) : Option Binary64 :=
  match Binary64.ofText? (t.trim Text.isNumberPadding) with
  | some x => some x
  | none => if lowLinesFit t then Binary64.ofText? (t.filter (· ≠ Text.lowLine)) else none

def readNumber : FieldValue → Except FieldProblem Binary64
  | scalar (.number x) => .ok x
  | scalar (.flag b) => .ok (if b then Binary64.one else Binary64.zero)
  | scalar (.whole n) => if (Binary64.ofInt n).isFinite then .ok (Binary64.ofInt n) else .error .notNumber
  | scalar (.words t) =>
    if t.any Rune.isSurrogate then .error .unreadableText
    else (numberOfText? t).elim (.error .unreadableNumber) .ok
  | scalar .missing | composite => .error .notNumber

end FieldValue

end GroundedDialogue
