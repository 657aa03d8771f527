import GroundedDialogue.Text.WhiteSpace

/-!
# Stop markers

Texts that end a reply where they first occur. Of several markers the earliest occurrence counts; a
marker without code points never occurs.
-/

namespace GroundedDialogue.StopMarker

/-- The markers that end a reply unless others are given. -/
def defaults : List Text :=
  ["\n", "</s>", "<system-reminder>", "<system", "<|", "###", "System:", "User:", "Assistant:"]

/-- The position of the earliest occurrence of a marker, or the length of the text. -/
def earliest (markers : List Text) (t : Text) : Nat :=
  ((markers.filter (!·.isEmpty)).filterMap fun marker => Text.find? marker t).foldl min t.length

end GroundedDialogue.StopMarker
