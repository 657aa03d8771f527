import GroundedDialogue.Text.Printable

/-!
# Quoted text

How a text is shown inside quotation marks, in log details and in messages that name a value. Code
points that cannot be shown are written as escapes of two, four or eight hexadecimal digits.
-/

namespace GroundedDialogue.Text

def hexDigit (n : Nat) : Rune := if n < 10 then Rune.ofNat (48 + n) else Rune.ofNat (87 + n)

def hexDigits : (width : Nat) → Nat → Text
  | 0, _ => []
  | width + 1, n => hexDigits width (n / 16) ++ [hexDigit (n % 16)]

/-- The mark around a quoted text: an apostrophe, or double quotes when the text holds apostrophes
and no double quotes. -/
def quotationMark (t : Text) : Rune :=
  if t.contains Rune.apostrophe && !t.contains Rune.doubleQuote then Rune.doubleQuote else Rune.apostrophe

/-- One code point as it stands between quotation marks. -/
def escapeRune (mark r : Rune) : Text :=
  if r = mark || r = .backslash then [.backslash, r]
  else if r = 10 then [.backslash, Rune.ofChar 'n']
  else if r = 9 then [.backslash, Rune.ofChar 't']
  else if r = 13 then [.backslash, Rune.ofChar 'r']
  else if r.isPrintable then [r]
  else if r.val < 0x100 then .backslash :: Rune.ofChar 'x' :: hexDigits 2 r.val
  else if r.val < 0x10000 then .backslash :: Rune.ofChar 'u' :: hexDigits 4 r.val
  else .backslash :: Rune.ofChar 'U' :: hexDigits 8 r.val

/-- The text between quotation marks. -/
def quoted (t : Text) : Text :=
  let mark := quotationMark t
  mark :: t.flatMap (escapeRune mark) ++ [mark]

end GroundedDialogue.Text
