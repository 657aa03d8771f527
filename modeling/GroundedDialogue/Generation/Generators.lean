import GroundedDialogue.Generation.Scripted
import GroundedDialogue.Generation.Streamed

/-!
# The generators

The generators that can be chosen: scripted ones and those behind a model server.
-/

namespace GroundedDialogue

inductive Generator where
  | scripted (g : ScriptedGenerator)
  | streamed (g : StreamedGenerator)

namespace Generator

def modelName : Generator → Text
  | scripted g => TextGenerator.modelName g
  | streamed g => TextGenerator.modelName g

def tokenize : Generator → Text → Except Fault (List Token) × Generator
  | scripted g, prompt => let (r, g) := TextGenerator.tokenize g prompt; (r, scripted g)
  | streamed g, prompt => let (r, g) := TextGenerator.tokenize g prompt; (r, streamed g)

def decode : Generator → List Token → Option Unit → Except Fault Unit × Generator
  | scripted g, tokens, h => let (r, g) := TextGenerator.decode g tokens h; (r, scripted g)
  | streamed g, tokens, h => let (r, g) := TextGenerator.decode g tokens h; (r, streamed g)

def sample : Generator → Unit → Except Fault Token × Generator
  | scripted g, h => let (r, g) := TextGenerator.sample g h; (r, scripted g)
  | streamed g, h => let (r, g) := TextGenerator.sample g h; (r, streamed g)

def release : Generator → Unit → Generator
  | scripted g, h => scripted (TextGenerator.release g h)
  | streamed g, h => streamed (TextGenerator.release g h)

def close : Generator → Generator
  | scripted g => scripted (TextGenerator.close g)
  | streamed g => streamed (TextGenerator.close g)

instance : TextGenerator Generator Token Unit where
  modelName := modelName
  tokenize := tokenize
  decode := decode
  sample := sample
  tokenText _ token := .ok token.text
  isEnd _ token := token.isEnd
  release := release
  close := close

def dropSequence : Generator → Generator
  | scripted g => scripted g
  | streamed g => streamed g.dropStream

/-- What a generator says about itself. -/
structure Status where
  kind : Text
  modelName : Text
  style : Option PromptStyle
  available : Option Bool
  deriving DecidableEq

/-- The status of a generator. Only a model server can be out of reach. -/
def status : Generator → Status
  | scripted g => ⟨"ScriptedGenerator", g.name, none, none⟩
  | streamed g => ⟨"OllamaGenerator", g.entry.model, some g.entry.style, some g.isAvailable⟩

end Generator

end GroundedDialogue
