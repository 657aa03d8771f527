import GroundedDialogue.Model.Entry

/-!
# Prompts

The retrieved texts are numbered as snippets and put into a prompt together with the system text and
the question. The labels of the sections depend on the style of the model, and every prompt ends in
the cue for the answer.
-/

namespace GroundedDialogue.Prompt

/-- The texts as numbered snippets, counted from `first`. -/
def snippetsFrom (first : Nat) : List Text → Text
  | [] => []
  | t :: rest => "Snippet " ++ Text.ofNat first ++ ":\n" ++ t ++ "\n" ++ snippetsFrom (first + 1) rest

def context (texts : List Text) : Text := snippetsFrom 1 texts

def systemLabel : Text := "System:"

/-- A system text without the label that files written by hand put in front of it. -/
def withoutSystemLabel (t : Text) : Text :=
  match Text.after? systemLabel t with
  | some rest => rest.trimStart fun r => r = 32 || r = 13 || r = 10
  | none => t

/-- The line that names the speaker, if one is named, and the snippets. -/
def body (speaker context : Option Text) : Text :=
  (match speaker with
    | none | some [] => []
    | some name => "NPC Name: " ++ name ++ "\n")
  ++ context.getD []

/-- The whole prompt. What is missing is left empty. -/
def build (style : PromptStyle) (system speaker context question : Option Text) : Text :=
  let system := system.getD []
  let question := question.getD []
  let body := body speaker context
  match style with
  | .instruction =>
    "instruction: " ++ system ++ "\nquestion: " ++ question ++ "\ncontext:\n" ++ body ++ "\nanswer:"
  | .chat =>
    "System:\n" ++ system ++ "\nUser:\nContext:\n" ++ body ++ "\nQuestion:\n" ++ question ++ "\nAssistant:"
  | .plain =>
    "System:\n" ++ system ++ "\nContext:\n" ++ body ++ "\nQuestion:\n" ++ question ++ "\nAnswer:"

end GroundedDialogue.Prompt
