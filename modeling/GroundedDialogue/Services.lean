import GroundedDialogue.Model.Entry
import GroundedDialogue.Settings

/-!
# The choice of services

Settings name the service that embeds and the one that generates; a caller may name others. A choice
says what is needed to connect to the service and is made before anything is connected.
-/

namespace GroundedDialogue

inductive EmbedderChoice where
  | hashed (dimension : Int)
  /-- A sentence encoder that runs locally. -/
  | encoder (model : Text)
  | served (model : Text) (host : Option Text)
  deriving DecidableEq

inductive GeneratorChoice where
  | offline
  | streamed (entry : ModelEntry) (host : Option Text)
  deriving DecidableEq

/-- A name that is that of no service. -/
inductive UnknownProvider where
  | embedding (name : Text)
  | generator (name : Text)
  deriving DecidableEq

def UnknownProvider.message : UnknownProvider → Text
  | embedding name =>
    "Unknown embedding provider: " ++ name.quoted ++ ". Supported: " ++ Text.join ", "
      (Settings.embedProviders.map Text.quoted)
  | generator name =>
    "Unknown generator provider: " ++ name.quoted ++ ". Supported: " ++ Text.join ", "
      (Settings.generatorProviders.map Text.quoted)

namespace Settings

/-- The name that is given, unless it is empty, else the one that is set. -/
def orElse (given : Option Text) (setting : Text) : Text :=
  match given with
  | none | some [] => setting
  | some name => name

/-- The service that embeds, with a provider and a model that may be given. -/
def chooseEmbedder (s : Settings) (provider model : Option Text) : Except UnknownProvider EmbedderChoice :=
  let provider := orElse provider s.embedProvider
  let model := orElse model s.embedModel
  if provider = "sentence_transformers" then .ok (.encoder model)
  else if provider = "ollama" then .ok (.served model s.host)
  else if provider = "hash" then .ok (.hashed s.embedDimension)
  else .error (.embedding provider)

/-- The service that generates for a model entry, with a provider that may be given. -/
def chooseGenerator (s : Settings) (entry : ModelEntry) (provider : Option Text) :
    Except UnknownProvider GeneratorChoice :=
  let provider := orElse provider s.generatorProvider
  if provider = "ollama" then .ok (.streamed entry s.host)
  else if provider = "mock" then .ok .offline
  else .error (.generator provider)

/-- The embedding model that goes with a model entry. Only a server has a model for each entry. -/
def embedModelFor (s : Settings) (entry : ModelEntry) : Option Text :=
  if s.embedProvider = "ollama" then some entry.embedModel else none

end Settings

/-- How choices are turned into services. -/
structure Services (G E : Type) where
  embedder : EmbedderChoice → E
  generator : GeneratorChoice → G

end GroundedDialogue
