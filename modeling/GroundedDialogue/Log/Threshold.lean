import GroundedDialogue.Log.Entry
import GroundedDialogue.Text.Uppercase

/-!
# The threshold of the log

Entries below the threshold are not kept. A threshold is named; the name `NOTSET` leaves the choice
to the environment, which keeps warnings and errors.
-/

namespace GroundedDialogue.Log

/-- The least severity that is kept. -/
structure Threshold where
  severity : Nat
  deriving DecidableEq

structure UnknownLevel where
  name : Text
  deriving DecidableEq

def UnknownLevel.message (e : UnknownLevel) : Text := "Unknown level: " ++ e.name.quoted

namespace Threshold

/-- The thresholds by name. -/
def named : List (Text × Nat) :=
  [("CRITICAL", 50), ("FATAL", 50), ("ERROR", 40), ("WARN", 30), ("WARNING", 30), ("INFO", 20),
    ("DEBUG", 10), ("NOTSET", 30)]

/-- The threshold with this name, in any case. -/
def ofName (name : Text) : Except UnknownLevel Threshold :=
  match named.lookup name.upper with
  | some severity => .ok ⟨severity⟩
  | none => .error ⟨name.upper⟩

def info : Threshold := ⟨Level.info.severity⟩

def debug : Threshold := ⟨Level.debug.severity⟩

def keeps (t : Threshold) (level : Level) : Bool := t.severity ≤ level.severity

def filter (t : Threshold) (j : Journal) : Journal := j.filter (t.keeps ·.level)

end Threshold

end GroundedDialogue.Log
