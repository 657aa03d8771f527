import GroundedDialogue.Text.Ranges

/-!
# White space

The code points that separate words and make a line blank: the separators of the Unicode standard
together with the control characters that act as separators, the four information separators
U+001C to U+001F among them.
-/

namespace GroundedDialogue

namespace Rune

def whiteSpaceRanges : RuneRanges :=
  [(0x9, 0xD), (0x1C, 0x20), (0x85, 0x85), (0xA0, 0xA0), (0x1680, 0x1680), (0x2000, 0x200A),
   (0x2028, 0x2029), (0x202F, 0x202F), (0x205F, 0x205F), (0x3000, 0x3000)]

def isWhiteSpace (r : Rune) : Bool := whiteSpaceRanges.contains r

def newline : Rune := 10

def carriageReturn : Rune := 13

end Rune

namespace Text

def strip (t : Text) : Text := t.trim Rune.isWhiteSpace

def isBlank (t : Text) : Bool := t.all Rune.isWhiteSpace

end Text

end GroundedDialogue
