import GroundedDialogue.Model.Entry

/-!
# The model table

The models that can be chosen by name.
-/

namespace GroundedDialogue.ModelTable

def entries : List ModelEntry :=
  [{ ModelEntry.ofTag "qwen3" "qwen3:0.6b" with
      temperature := Binary64.ofDecimal false 6 (-1), style := .chat },
    ModelEntry.ofTag "tinyllama-1.1b" "tinyllama:1.1b",
    ModelEntry.ofTag "tinyllama-1" "tinyllama:1.1b-chat-v1-q2_K",
    { ModelEntry.ofTag "flan-t5-small" "flan-t5-small" with
      contextSize := 512, batchSize := 512, temperature := Binary64.ofDecimal false 2 (-1)
      style := .instruction },
    { ModelEntry.ofTag "phi-4-mini-instruct" "phi4-mini" with
      contextSize := 4096, temperature := Binary64.ofDecimal false 6 (-1), style := .chat }]

def find? (name : Text) : Option ModelEntry := entries.find? fun entry => entry.name = name

def names : List Text := entries.map ModelEntry.name

/-- The table as it is listed, line by line. -/
def listing : List Text :=
  "Model list:" :: entries.map fun entry =>
    " - " ++ entry.name ++ " [ctx: " ++ Text.ofInt entry.contextSize ++ ", temp: "
      ++ entry.temperature.fixed 6 ++ "]"

end GroundedDialogue.ModelTable
