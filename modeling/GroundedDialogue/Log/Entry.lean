import GroundedDialogue.Log.Details

/-!
# Log entries

Every operation hands back what it logged, in order. An entry of an operation names the operation,
its status and its details. The level follows from the kind of operation and its status.
-/

namespace GroundedDialogue.Log

inductive Level where
  | debug
  | info
  | warning
  | error
  deriving DecidableEq, Repr

/-- Levels as numbers, so that a threshold can lie above all of them. -/
def Level.severity : Level → Nat
  | debug => 10
  | info => 20
  | warning => 30
  | error => 40

def Level.name : Level → Text
  | debug => "DEBUG"
  | info => "INFO"
  | warning => "WARNING"
  | error => "ERROR"

/-- A logged message. -/
structure Entry where
  level : Level
  message : Text
  deriving DecidableEq

/-- What was logged, in order. -/
abbrev Journal := List Entry

namespace Entry

/-- An operation with its status. No details are written when there are none. -/
def operation (name status : Text) (details : Details) (level : Level := .info) : Entry :=
  ⟨level, "Operation: " ++ name ++ ", Status: " ++ status
    ++ (if details.isEmpty then [] else (", Details: " ++ details.text : Text))⟩

def success : Text := "success"

/-- The status of an operation that did not. -/
def failed : Text := "failed"

/-- Anything but success is worth a warning. -/
def warnUnlessSuccess (status : Text) : Level := if status = success then .info else .warning

/-- An operation on the document with this ordinal. -/
def document (name : Text) (ordinal : Int) (details : Details) (status : Text := success) : Entry :=
  operation ("vector." ++ name) status (Details.extend [("ordinal", .whole ordinal)] details)
    (warnUnlessSuccess status)

def persistence (name path : Text) (details : Details) (status : Text := success) : Entry :=
  operation ("vdb." ++ name) status (Details.extend [("path", .words path)] details)
    (if status = failed then .error else .info)

def corpus (path : Text) (added skipped failed : Int) (status : Text := success) : Entry :=
  operation "corpus.load" status
    [("path", .words path), ("added", .whole added), ("skipped_blank", .whole skipped),
      ("failed", .whole failed)]

/-- At most `limit` code points of a text, with dots when some are left out. -/
def preview (limit : Nat) (t : Text) : Text := if t.length > limit then t.take limit ++ "..." else t

/-- The outcome of one token loop. The text is shown in part, or not at all. -/
def generation (model : Text) (tokens : Int) (stopReason : Text) (text : Option Text)
    (status : Text := success) : Entry :=
  operation "generation" status
    (([("model", .words model), ("tokens", .whole tokens), ("stop_reason", .words stopReason)] : Details)
      ++ (text.map fun t => (("text", .words (preview 50 t)) : Text × Scalar)).toList)
    (warnUnlessSuccess status)

end Entry

end GroundedDialogue.Log
