import GroundedDialogue.Scalar

/-!
# Model entries

An entry of the model table pairs the tag under which a server knows a model with its sampling
parameters and with the style of prompt that it was tuned on.
-/

namespace GroundedDialogue

inductive PromptStyle where
  | plain
  | chat
  | instruction
  deriving DecidableEq, Repr

namespace PromptStyle

def name : PromptStyle → Text
  | plain => "plain"
  | chat => "chat"
  | instruction => "instruction"

def all : List PromptStyle := [plain, chat, instruction]

def ofName? (t : Text) : Option PromptStyle := all.find? fun style => style.name = t

def ofScalar? : Scalar → Option PromptStyle
  | .words t => ofName? t
  | _ => none

def notAStyle (v : Scalar) : Text := v.quoted ++ " is not a valid PromptStyle"

end PromptStyle

/-- A model with its sampling parameters. -/
structure ModelEntry where
  name : Text
  /-- The tag under which a server knows the model. -/
  model : Text
  embedModel : Text
  contextSize : Int
  batchSize : Int
  predict : Int
  temperature : Binary64
  minP : Binary64
  topK : Int
  topP : Binary64
  repeatLast : Int
  repeatPenalty : Binary64
  frequencyPenalty : Binary64
  presencePenalty : Binary64
  seed : Int
  style : PromptStyle
  deriving DecidableEq

namespace ModelEntry

/-- The seed that leaves the choice to the server. -/
def anySeed : Int := 0xFFFFFFFF

/-- The parameters of an entry that names only its model. -/
def ofTag (name model : Text) : ModelEntry where
  name := name
  model := model
  embedModel := "nomic-embed-text"
  contextSize := 2048
  batchSize := 4096
  predict := 128
  temperature := Binary64.ofDecimal false 7 (-1)
  minP := Binary64.ofDecimal false 5 (-2)
  topK := 40
  topP := Binary64.ofDecimal false 9 (-1)
  repeatLast := 64
  repeatPenalty := Binary64.ofDecimal false 11 (-1)
  frequencyPenalty := Binary64.zero
  presencePenalty := Binary64.zero
  seed := anySeed
  style := .plain

/-- The sampling options of a request. Cutting off by rank is asked for only with a positive rank,
cutting off by cumulated probability only strictly between zero and one, and a seed only when one is
set. -/
def options (m : ModelEntry) : List (Text × Scalar) :=
  let topP := if Binary64.zero.lt m.topP && m.topP.lt Binary64.one then m.topP else Binary64.one
  let minP := if Binary64.zero.lt m.minP then m.minP else Binary64.zero
  let always : List (Text × Scalar) :=
    [("num_ctx", .whole m.contextSize), ("num_batch", .whole m.batchSize),
      ("num_predict", .whole m.predict), ("temperature", .number m.temperature),
      ("repeat_last_n", .whole m.repeatLast), ("repeat_penalty", .number m.repeatPenalty),
      ("frequency_penalty", .number m.frequencyPenalty),
      ("presence_penalty", .number m.presencePenalty), ("top_p", .number topP), ("min_p", .number minP)]
  let rank : List (Text × Scalar) := if m.topK > 0 then [("top_k", .whole m.topK)] else []
  let seeded : List (Text × Scalar) := if m.seed ≠ anySeed then [("seed", .whole m.seed)] else []
  always ++ rank ++ seeded

end ModelEntry

end GroundedDialogue
