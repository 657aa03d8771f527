import GroundedDialogue.Position
import GroundedDialogue.Text.Truncate

/-!
# The history of a dialogue

The most recent turns, oldest first. A turn keeps the beginning of what was said on both sides. When
the history is full, the oldest turn makes room for a new one.
-/

namespace GroundedDialogue.Dialogue

/-- What was said and what was replied. -/
structure Turn where
  prompt : Text
  response : Text
  deriving DecidableEq

namespace Turn

/-- The most bytes that are kept of what was said. -/
def promptLimit : Int := 127

/-- The most bytes that are kept of a reply. -/
def responseLimit : Int := 255

/-- A turn with the beginning of both texts. -/
def ofTexts (prompt response : Text) : Except Text.Unencodable Turn := do
  return ⟨← Text.truncate promptLimit prompt, ← Text.truncate responseLimit response⟩

end Turn

structure History where
  limit : Nat
  turns : List Turn
  deriving DecidableEq

inductive LimitError where
  /-- There is no room for a turn. -/
  | tooSmall (given : Int)
  /-- The last turn would have no position. -/
  | tooLarge
  deriving DecidableEq, Repr

def LimitError.message : LimitError → Text
  | tooSmall given => "maxlen must be >= 1, got " ++ Text.ofInt given
  | tooLarge => Position.misfit

/-- A position at which there is no turn. -/
inductive TurnError where
  | notAPosition
  | outOfRange
  deriving DecidableEq, Repr

def TurnError.message : TurnError → Text
  | notAPosition => Position.misfit
  | outOfRange => "deque index out of range"

namespace History

def defaultLimit : Int := 16

def create (limit : Int := defaultLimit) : Except LimitError History :=
  if limit < 1 then .error (.tooSmall limit)
  else if !Position.fits limit then .error .tooLarge
  else .ok ⟨limit.toNat, []⟩

/-- Adds a turn at the end; turns beyond the limit go, oldest first. -/
def push (h : History) (turn : Turn) : History :=
  let turns := h.turns ++ [turn]
  { h with turns := turns.drop (turns.length - h.limit) }

def append (h : History) (prompt response : Text) : Except Text.Unencodable (Turn × History) := do
  let turn ← Turn.ofTexts prompt response
  return (turn, h.push turn)

def clear (h : History) : History := { h with turns := [] }

def length (h : History) : Nat := h.turns.length

def get (h : History) (index : Int) : Except TurnError Turn :=
  let position := if index < 0 then index + h.length else index
  if !Position.fits index then .error .notAPosition
  else if position < 0 then .error .outOfRange
  else match h.turns[position.toNat]? with
    | some turn => .ok turn
    | none => .error .outOfRange

end History

end GroundedDialogue.Dialogue
