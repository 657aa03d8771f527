import GroundedDialogue.Dialogue.History
import GroundedDialogue.Generation.Budget
import GroundedDialogue.Store.Basic
import GroundedDialogue.Text.Integer

/-!
# Settings

What can be set from the environment: which services embed and generate, the sizes of stores, and the
limits of replies and histories. Every setting has a default. Settings are read without judging them;
`issues` says what is wrong with them.
-/

namespace GroundedDialogue

structure Settings where
  embedProvider : Text
  embedModel : Text
  embedDimension : Int
  maxDocuments : Int
  topK : Int
  generatorProvider : Text
  /-- The address of the model server, if it is not the usual one. -/
  host : Option Text
  defaultModel : Text
  predictCeiling : Int
  historyLimit : Int
  deriving DecidableEq

/-- What is wrong with settings. -/
inductive SettingsIssue where
  | embedProvider (name : Text)
  | generatorProvider (name : Text)
  | embedDimension
  | maxDocuments
  | predictCeiling
  | topK
  | historyLimit
  deriving DecidableEq

def SettingsIssue.message : SettingsIssue → Text
  | embedProvider name => "Invalid EMBED_PROVIDER: " ++ name
  | generatorProvider name => "Invalid GENERATOR_PROVIDER: " ++ name
  | embedDimension => "EMBED_DIM must be >= 1"
  | maxDocuments => "VDB_MAX_DOCS must be >= 0"
  | predictCeiling => "N_PREDICT_CEILING must be >= 1"
  | topK => "RETRIEVAL_TOP_K must be >= 1"
  | historyLimit => "DIALOG_HISTORY_MAX must be >= 1"

namespace Settings

/-- The settings in an empty environment. -/
def defaults : Settings where
  embedProvider := "hash"
  embedModel := "nomic-embed-text"
  embedDimension := Store.defaultEmbedSize
  maxDocuments := Store.defaultCapacity
  topK := 5
  generatorProvider := "ollama"
  host := none
  defaultModel := "qwen3"
  predictCeiling := Budget.defaultCeiling
  historyLimit := Dialogue.History.defaultLimit

abbrev Environment := List (Text × Text)

def integer (environment : Environment) (name : Text) (default : Int) : Except Text.IntegerError Int :=
  match environment.lookup name with
  | some value => Text.parseInt value
  | none => .ok default

/-- The settings in an environment. The first variable that should hold an integer and does not is the
error. -/
def ofEnvironment (environment : Environment) : Except Text.IntegerError Settings := do
  let text (name default : Text) : Text := (environment.lookup name).getD default
  let embedDimension ← integer environment "EMBED_DIM" defaults.embedDimension
  let maxDocuments ← integer environment "VDB_MAX_DOCS" defaults.maxDocuments
  let topK ← integer environment "RETRIEVAL_TOP_K" defaults.topK
  let predictCeiling ← integer environment "N_PREDICT_CEILING" defaults.predictCeiling
  let historyLimit ← integer environment "DIALOG_HISTORY_MAX" defaults.historyLimit
  return {
    embedProvider := text "EMBED_PROVIDER" defaults.embedProvider
    embedModel := text "EMBED_MODEL_NAME" defaults.embedModel
    embedDimension := embedDimension
    maxDocuments := maxDocuments
    topK := topK
    generatorProvider := text "GENERATOR_PROVIDER" defaults.generatorProvider
    host := environment.lookup ("OLLAMA_HOST" : Text)
    defaultModel := text "DEFAULT_MODEL" defaults.defaultModel
    predictCeiling := predictCeiling
    historyLimit := historyLimit }

def embedProviders : List Text := ["hash", "sentence_transformers", "ollama"]

def generatorProviders : List Text := ["ollama", "mock"]

/-- Everything that is wrong with settings. -/
def issues (s : Settings) : List SettingsIssue :=
  let check (fine : Bool) (issue : SettingsIssue) : List SettingsIssue := if fine then [] else [issue]
  check (embedProviders.contains s.embedProvider) (.embedProvider s.embedProvider)
    ++ check (generatorProviders.contains s.generatorProvider) (.generatorProvider s.generatorProvider)
    ++ check (1 ≤ s.embedDimension) .embedDimension
    ++ check (0 ≤ s.maxDocuments) .maxDocuments
    ++ check (1 ≤ s.predictCeiling) .predictCeiling
    ++ check (1 ≤ s.topK) .topK
    ++ check (1 ≤ s.historyLimit) .historyLimit

def createStore (s : Settings) : Except SizeError Store :=
  Store.create s.maxDocuments s.embedDimension

end Settings

end GroundedDialogue
