import GroundedDialogue.Text.WhiteSpace

/-!
# Lines

A line ends at a line feed, at a carriage return, or at a carriage return and a line feed together.
The terminators are not part of the lines. A terminator at the end of the text starts no further line.
-/

namespace GroundedDialogue.Text

/-- The lines of a text, given the start of the first one in reverse. -/
def linesFrom (line : Text) : Text → List Text
  | [] => if line.isEmpty then [] else [line.reverse]
  | r :: t =>
    if r = Rune.newline then line.reverse :: linesFrom [] t
    else if r = Rune.carriageReturn then
      match t with
      | [] => [line.reverse]
      | s :: t' =>
        if s = Rune.newline then line.reverse :: linesFrom [] t' else line.reverse :: linesFrom [] (s :: t')
    else linesFrom (r :: line) t

/-- The lines of a text, without their terminators. -/
def lines (t : Text) : List Text := linesFrom [] t

/-- The text with every line terminator replaced by a line feed. -/
def unifyLines : Text → Text
  | [] => []
  | r :: t =>
    if r = Rune.carriageReturn then
      match t with
      | [] => [Rune.newline]
      | s :: t' =>
        if s = Rune.newline then Rune.newline :: unifyLines t' else Rune.newline :: unifyLines (s :: t')
    else r :: unifyLines t

end GroundedDialogue.Text
