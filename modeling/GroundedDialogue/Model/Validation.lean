import GroundedDialogue.Model.Field
import GroundedDialogue.Text.WhiteSpace

/-!
# Validation of model entries

An entry is made from named values. Every field is looked at, in the order of the entry, and all that
is wrong is reported at once. Names that are no field are passed over.
-/

namespace GroundedDialogue

/-- A field with what is wrong with its value. -/
structure FieldError where
  field : Text
  problem : FieldProblem
  deriving DecidableEq, Repr

/-- A value, or all that is wrong with the fields that it depends on. -/
inductive Checked (α : Type) where
  | valid (value : α)
  | invalid (errors : List FieldError)
  deriving DecidableEq

namespace Checked

/-- Applies a function to a value; what is wrong with either is reported. -/
def apply {α β : Type} : Checked (α → β) → Checked α → Checked β
  | valid f, valid x => valid (f x)
  | valid _, invalid e | invalid e, valid _ => invalid e
  | invalid e, invalid e' => invalid (e ++ e')

instance : Applicative Checked where
  pure := valid
  seq f x := apply f (x ())

end Checked

namespace ModelEntry

/-- Named values. -/
abbrev Fields := List (Text × FieldValue)

/-! ## What a value must satisfy -/

def checkNotBlank (t : Text) : Except FieldProblem Text := if t.isBlank then .error .blank else .ok t

def checkPositive (n : Int) : Except FieldProblem Int := if n ≤ 0 then .error .notPositive else .ok n

/-- An undefined temperature is not below zero. -/
def checkTemperature (x : Binary64) : Except FieldProblem Binary64 :=
  if x.lt Binary64.zero then .error .negativeTemperature else .ok x

def checkProbability (x : Binary64) : Except FieldProblem Binary64 :=
  if Binary64.zero.le x && x.le Binary64.one then .ok x else .error .notProbability

/-! ## The entry -/

/-- The value of a field: read and checked if it is given, else the default, if there is one. -/
def field {α : Type} (fields : Fields) (name : Text) (default : Option α)
    (read : FieldValue → Except FieldProblem α) : Checked α :=
  let result := match fields.lookup name with
    | some v => read v
    | none => default.elim (.error .missing) .ok
  match result with
  | .ok value => .valid value
  | .error problem => .invalid [⟨name, problem⟩]

/-- The entry with these fields. -/
def ofFields (fields : Fields) : Checked ModelEntry :=
  let base := ofTag [] []
  let text (name : Text) (default : Option Text) (check : Text → Except FieldProblem Text) :=
    field fields name default fun v => v.readText.bind check
  let integer (name : Text) (default : Int) (check : Int → Except FieldProblem Int) :=
    field fields name (some default) fun v => v.readInteger.bind check
  let number (name : Text) (default : Binary64) (check : Binary64 → Except FieldProblem Binary64) :=
    field fields name (some default) fun v => v.readNumber.bind check
  ModelEntry.mk <$> text "name" none checkNotBlank
    <*> text "model" none checkNotBlank
    <*> text "embed_model" (some base.embedModel) .ok
    <*> integer "n_ctx" base.contextSize checkPositive
    <*> integer "n_batch" base.batchSize checkPositive
    <*> integer "n_predict" base.predict .ok
    <*> number "temperature" base.temperature checkTemperature
    <*> number "min_p" base.minP checkProbability
    <*> integer "top_k" base.topK .ok
    <*> number "top_p" base.topP checkProbability
    <*> integer "repeat_last_n" base.repeatLast .ok
    <*> number "repeat_penalty" base.repeatPenalty .ok
    <*> number "freq_penalty" base.frequencyPenalty .ok
    <*> number "presence_penalty" base.presencePenalty .ok
    <*> integer "seed" base.seed .ok
    <*> field fields "prompt_style" (some base.style) FieldValue.readStyle

end ModelEntry

end GroundedDialogue
