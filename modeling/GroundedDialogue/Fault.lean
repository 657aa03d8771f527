import GroundedDialogue.Position

/-!
# Faults of the services

What an embedding or generation service can answer instead of a result, and what the program makes of
it. A fault is kept as its cause; its kind and its message are computed from it.
-/

namespace GroundedDialogue

/-- The kinds of fault. Which of them a caller handles depends on the kind alone. -/
inductive FaultKind where
  /-- No vector could be produced. -/
  | embedding
  /-- The generator could not decode, sample or produce text. -/
  | generation
  | memory
  | connection
  | value
  | runtime
  | system
  /-- The server answered with an error status. -/
  | response (status : Int)
  | arithmetic
  /-- A number is too large to count with. -/
  | overflow
  /-- The description of a type is not understood. -/
  | malformed
  deriving DecidableEq, Repr

/-- A fault, by its cause. -/
inductive Fault where
  /-- A service reported it with these words. -/
  | reported (kind : FaultKind) (message : Text)
  /-- A scripted service has no answer left. -/
  | scriptExhausted
  /-- No model server can be reached. -/
  | noConnection
  /-- The library for sentence encoders is not there. -/
  | encoderMissing
  /-- A word holds a surrogate, which has no bytes. -/
  | unwritableWord
  /-- A word has no bucket to fall into. -/
  | zeroDimension
  | negativeDimension
  /-- The dimension is no position. -/
  | uncountableDimension
  /-- The bytes of a vector have no positions. -/
  | vectorTooLarge
  /-- More slots were asked for than there are positions. -/
  | uncountableSlots
  /-- More slots were asked for than fit into memory. -/
  | slotsBeyondMemory
  /-- There is no type for records with a vector of so many components, or of so many bytes. -/
  | recordDimension
  | recordBytes
  /-- There is no type for texts of so many bytes. -/
  | recordText (size : Nat)
  /-- The bytes of the records of a file have no positions. -/
  | uncountableBytes
  | recordsBeyondMemory
  /-- The scripted failure of a decode call, counted from one. -/
  | scriptedDecode (call : Nat)
  /-- The generation server refused the model or the request. -/
  | modelRefused (cause : Fault)
  | requestFailed (cause : Fault)
  | streamFailed (cause : Fault)
  /-- The embedding server refused a text or could not be reached. -/
  | embeddingRefused (model : Text) (cause : Fault)
  | nothingEmbedded (model : Text)
  | encodingFailed (cause : Fault)
  /-- A provider failed in a way that is no embedding fault. -/
  | providerFailed (cause : Fault)
  /-- A vector of the wrong dimension. -/
  | wrongDimension (found expected : Nat)
  deriving DecidableEq, Repr

namespace Fault

def kind : Fault → FaultKind
  | reported kind _ => kind
  | scriptExhausted | encoderMissing => .runtime
  | noConnection => .connection
  | zeroDimension => .arithmetic
  | unwritableWord | negativeDimension | uncountableDimension | vectorTooLarge | recordDimension
  | recordBytes => .value
  | uncountableSlots | uncountableBytes => .overflow
  | slotsBeyondMemory | recordsBeyondMemory => .memory
  | recordText _ => .malformed
  | scriptedDecode _ | modelRefused _ | requestFailed _ | streamFailed _ => .generation
  | embeddingRefused .. | nothingEmbedded _ | encodingFailed _ | providerFailed _
  | wrongDimension .. => .embedding

/-- The words of a fault. A server's error names its status after them. -/
def message : Fault → Text
  | reported (.response status) words => words ++ " (status code: " ++ Text.ofInt status ++ ")"
  | reported _ words => words
  | scriptExhausted => "script exhausted"
  | noConnection => "no model server can be reached"
  | encoderMissing => "No module named 'sentence_transformers'"
  | unwritableWord => "surrogates not allowed"
  | zeroDimension => "integer modulo by zero"
  | negativeDimension => "negative dimensions are not allowed"
  | uncountableDimension => "Maximum allowed dimension exceeded"
  | vectorTooLarge =>
    "array is too big; `arr.size * arr.dtype.itemsize` is larger than the maximum possible size."
  | uncountableSlots | uncountableBytes => Position.misfit
  | slotsBeyondMemory | recordsBeyondMemory => []
  | recordDimension => "invalid shape in fixed-type tuple: dimension does not fit into a C int."
  | recordBytes => "invalid shape in fixed-type tuple: dtype size in bytes must fit into a C int."
  | recordText size => "data type 'S" ++ Text.ofNat size ++ "' not understood"
  | scriptedDecode call => "scripted decode failure at call " ++ Text.ofNat call
  | modelRefused cause => "Ollama model error: " ++ cause.message
  | requestFailed cause => "Ollama request failed: " ++ cause.message
  | streamFailed cause => "Ollama stream failed: " ++ cause.message
  | embeddingRefused model cause => "Ollama embedding failed for " ++ model ++ ": " ++ cause.message
  | nothingEmbedded model => "No embedding returned from Ollama model " ++ model
  | encodingFailed cause => "sentence-transformers encode failed: " ++ cause.message
  | providerFailed cause => "Embedding provider failed: " ++ cause.message
  | wrongDimension found expected =>
    "Embedding dimension " ++ Text.ofNat found ++ " does not match expected dimension " ++ Text.ofNat expected

def isResponse (f : Fault) : Bool :=
  match f.kind with
  | .response _ => true
  | _ => false

end Fault

end GroundedDialogue
