import GroundedDialogue.Embedding.Vector
import GroundedDialogue.Fault

/-!
# Embedding providers

A provider turns texts into vectors. It may fail, and it may change with every call: it may have a
server behind it, or a script of answers.
-/

namespace GroundedDialogue

/-- What turns a text into a vector. A call leaves a provider behind that answers the next one. -/
class EmbeddingProvider (E : Type) where
  embed : E → Text → Except Fault Embedding × E

/-- The answers that a scripted service has left. -/
abbrev Script (α : Type) := List (Except Fault α)

/-- Takes the next answer of a script; when there is none left, every call fails in the same way. -/
def Script.nextOr (afterwards : Fault) (s : Script α) : Except Fault α × Script α :=
  match s with
  | [] => (.error afterwards, [])
  | answer :: rest => (answer, rest)

/-- Takes the next answer of a script. -/
def Script.next (s : Script α) : Except Fault α × Script α := s.nextOr .scriptExhausted

end GroundedDialogue
