import GroundedDialogue.Text.DecimalDigit
import GroundedDialogue.Text.WhiteSpace

/-!
# Pieces of a text

A text is split into pieces of the size of tokens: a line feed by itself, or a word together with the
white space in front of it. White space that no word follows on its line belongs to no piece.
-/

namespace GroundedDialogue.Text

/-- The pieces of what follows, given in reverse the white space, or the word with it, that has been
read and is not yet part of a piece. -/
def piecesFrom (hasWord : Bool) (pending : Text) : Text → List Text
  | [] => if hasWord then [pending.reverse] else []
  | r :: t =>
    if r.isWhiteSpace then
      let done := if hasWord then [pending.reverse] else []
      if r = Rune.newline then done ++ [r] :: piecesFrom false [] t
      else done ++ piecesFrom false (if hasWord then [r] else r :: pending) t
    else piecesFrom true (r :: pending) t

/-- The pieces of a text, in order. -/
def pieces (t : Text) : List Text := piecesFrom false [] t

end GroundedDialogue.Text

namespace GroundedDialogue.Snippet

/-- What stands in front of the number of a snippet. -/
def label : Text := "Snippet "

/-- The rest of the line after a snippet heading, if the text starts with one: the label, a number in
digits of any script, a colon and a line feed. -/
def lineAfterHeading? (t : Text) : Option Text := do
  let numbered ← Text.after? label t
  let rest := numbered.dropWhile fun r => r.digitValue?.isSome
  if rest.length = numbered.length then none
  else
    let body ← Text.after? ":\n" rest
    return body.takeWhile (· ≠ Rune.newline)

/-- The first line of the first snippet of a text. -/
def firstLine? : Text → Option Text
  | [] => none
  | r :: t => match lineAfterHeading? (r :: t) with
    | some line => some line
    | none => firstLine? t

def ignorance : Text := "I don't know."

/-- The best snippet of a prompt as an answer, in the shape of a generated text. -/
def reply (prompt : Text) : Text :=
  let line := ((firstLine? prompt).getD []).strip
  Rune.ofChar ' ' :: (if line = [] then ignorance else line)

end GroundedDialogue.Snippet
