import GroundedDialogue.Fault

/-!
# Text generators

A generator is driven one token at a time. A prompt is split into tokens; decoding them starts a
sequence, which is referred to by a handle; sampling gives the next token, which is decoded in turn.
Every call may fail and leaves behind the generator that answers the next one.
-/

namespace GroundedDialogue

/-- What can be driven one token at a time. -/
class TextGenerator (G : Type) (T H : outParam Type) where
  /-- The name of the model, as it is logged. -/
  modelName : G → Text
  tokenize : G → Text → Except Fault (List T) × G
  /-- Decodes tokens, at the start of a sequence or within the one with this handle. -/
  decode : G → List T → Option H → Except Fault H × G
  sample : G → H → Except Fault T × G
  /-- The text of a sampled token. -/
  tokenText : G → T → Except Fault Text
  /-- Whether a token ends the sequence. -/
  isEnd : G → T → Bool
  /-- Ends the sequence with this handle. -/
  release : G → H → G
  /-- Ends the generator itself. -/
  close : G → G

/-- A piece of a streamed reply. -/
structure Chunk where
  response : Option Text
  done : Bool
  deriving DecidableEq

/-- The tokens of the generators of this library. -/
inductive Token where
  | words (t : Text)
  | scriptEnd
  | chunk (c : Chunk)
  deriving DecidableEq

namespace Token

def text : Token → Text
  | words t => t
  | scriptEnd => []
  | chunk c => c.response.getD []

/-- A chunk that is done and has no text ends the stream; one that still has text is taken first. -/
def isEnd : Token → Bool
  | words _ => false
  | scriptEnd => true
  | chunk c => c.done && c.response.getD [] = []

end Token

end GroundedDialogue
