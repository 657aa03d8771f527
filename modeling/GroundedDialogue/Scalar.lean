import GroundedDialogue.Number.Shortest
import GroundedDialogue.Text.Quoted

/-!
# Single values

A value that callers hand in without a fixed type: in the details of a log entry, as an error code to
be described, as the field of a model entry.
-/

namespace GroundedDialogue

/-- A value without parts. -/
inductive Scalar where
  | missing
  | flag (b : Bool)
  | whole (n : Int)
  | number (x : Binary64)
  | words (t : Text)
  deriving DecidableEq

namespace Scalar

/-- The text of a value on its own. -/
def text : Scalar → Text
  | missing => "None"
  | flag b => if b then "True" else "False"
  | whole n => Text.ofInt n
  | number x => NumberLayout.logged.text x
  | words t => t

def quoted : Scalar → Text
  | words t => t.quoted
  | v => v.text

/-- The integer that the value equals, if any: truth values are zero and one, and a number without a
fraction is an integer. -/
def toInt? : Scalar → Option Int
  | missing => none
  | flag b => some (if b then 1 else 0)
  | whole n => some n
  | number x => x.toInt?
  | words _ => none

end Scalar

end GroundedDialogue
