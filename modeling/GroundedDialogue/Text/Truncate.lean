import GroundedDialogue.Text.Utf8

/-!
# Truncation to a number of bytes

A text is cut so that its encoding fits. The cut is made in the bytes; only a character that the cut
splits is dropped as a whole, and foreign bytes before it stay as they are.
-/

namespace GroundedDialogue.Text

/-- The bytes before a cut, without the start of a character that the cut splits: at most three
continuation bytes and a lead byte that announces more than what is left of it. -/
def dropSplit (kept : Bytes) : Bytes :=
  let reversed := kept.reverse
  let tail := ((reversed.take 3).takeWhile isContinuation).length
  match reversed.drop tail with
  | lead :: before =>
    if 0xC0 ≤ lead && tail + 1 < announcedLength lead then before.reverse else kept
  | [] => kept

/-- The number of bytes that a limit keeps. A negative limit leaves off that many from the end. -/
def keptLength (limit : Int) (length : Nat) : Nat :=
  if limit < 0 then length - limit.natAbs else limit.toNat

/-- The text cut to at most `limit` bytes. -/
def truncate (limit : Int) (t : Text) : Except Unencodable Text := do
  let bytes ← encode? t
  if (bytes.length : Int) ≤ limit then return t
  return decode (dropSplit (bytes.take (keptLength limit bytes.length)))

end GroundedDialogue.Text
