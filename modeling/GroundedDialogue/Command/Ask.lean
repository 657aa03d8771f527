import GroundedDialogue.Command.Run

/-!
# The command that asks a question

Loads a store, asks one question and prints the answer. The generator is closed whether there is an
answer or not.
-/

namespace GroundedDialogue.Command.Ask

open Disk

inductive Key where
  | model
  | embedModel
  | prompt
  | context
  | list
  | verbose
  | systemFile
  | speaker
  | raw
  deriving DecidableEq

def specs : List (OptionSpec Key) :=
  [⟨some .model, some (Rune.ofChar 'm'), "model", true⟩,
    ⟨some .embedModel, some (Rune.ofChar 'e'), "embed-model", true⟩,
    ⟨some .prompt, some (Rune.ofChar 'p'), "prompt", true⟩,
    ⟨some .context, some (Rune.ofChar 'c'), "context", true⟩,
    ⟨some .list, some (Rune.ofChar 'l'), "list", false⟩,
    ⟨some .verbose, some (Rune.ofChar 'v'), "verbose", false⟩,
    ⟨some .systemFile, none, "system-file", true⟩,
    ⟨some .speaker, none, "speaker", true⟩,
    ⟨some .raw, none, "raw", false⟩]

def storeEnding : Text := ".vdb"

structure Plan where
  question : Text
  context : Text
  speaker : Option Text
  pipeline : Pipeline
  embedder : EmbedderChoice
  store : Store

def requireStoreFile (path : Option Text) : Attempt Text := do
  let path ← require path "Context .vdb file must be provided. Exiting..."
  if path.endsWith storeEnding then return path
  else throw (.logged "Context file must be a .vdb vector database")

def readSystemPrompt (t : Tree) (path : Text) : Attempt Text :=
  match t.read (Path.ofText path).text with
  | .error (.system e) => .error (.logged ("Unable to read system prompt " ++ path ++ ": " ++ e.message))
  | .error (.invalid e) => .error (.unhandled (.invalidPath e))
  | .ok content =>
    match Text.decodeStrict? content with
    | none => .error (.unhandled .undecodable)
    | some text => .ok (Prompt.withoutSystemLabel text.unifyLines)

def systemPrompt (t : Tree) (path : Option Text) : Attempt Text :=
  match nonEmpty? path with
  | none => .ok Pipeline.characterPrompt
  | some path => readSystemPrompt t path

/-- Checks the options, in the order in which hindrances are reported. -/
def plan (s : Settings) (t : Tree) (given : Given Key) : Attempt Plan := do
  let question ← require (given.value? .prompt) "Prompt must be provided. Exiting..."
  let context ← requireStoreFile (given.value? .context)
  let entry ← findModel (Settings.orElse (given.value? .model) s.defaultModel)
  let instruction ← systemPrompt t (given.value? .systemFile)
  let embedModel := (nonEmpty? (given.value? .embedModel)) <|> s.embedModelFor entry
  let embedder ← chooseEmbedder s embedModel
  let raw := given.has .raw
  let speaker := given.value? .speaker
  return {
    question := question
    context := context
    speaker := speaker
    pipeline := { pipeline s entry with
      systemPrompt := instruction
      scanStops := !raw
      cleanReplies := !raw
      includeSpeaker := speaker.isSome }
    embedder := embedder
    store := ← createStore s }

def loadHindrance (path : Text) (e : LoadError) : Hindrance :=
  match e.code? with
  | some code => .logged ("Failed to load vector database " ++ path ++ ": " ++ code.description)
  | none => .unhandled (.loading path e)

variable {G T H E : Type} [TextGenerator G T H] [EmbeddingProvider E] [Platform]

/-- Asks the question and closes the generator. -/
def ask (services : Services G E) (p : Plan) (store : Store) (g : G) (r : Run G) : Run G :=
  let outcome := p.pipeline.answer g (some (services.embedder p.embedder)) p.question (some store)
    p.speaker none
  let r := { r.note outcome.log with generator := some (TextGenerator.close outcome.generator) }
  match outcome.result with
  | .error f => r.hinder (.unhandled (.generation f))
  | .ok answer =>
    { r.print (printed [answer.text]) with ending := .returned (if answer.usedFallback then 1 else 0) }

def carryOut (services : Services G E) (s : Settings) (p : Plan) (r : Run G) : Run G :=
  let load := p.store.load r.tree .none p.context
  let r := r.note load.log
  match load.result with
  | .error e => r.hinder (loadHindrance p.context e)
  | .ok () =>
    match chooseGenerator s p.pipeline.entry with
    | .error h => r.hinder h
    | .ok choice => ask services p load.store (services.generator choice) r

def run (services : Services G E) (s : Settings) (t : Tree) (arguments : List Text) : Run G :=
  match Arguments.parse specs arguments with
  | .error refusal => .refuse t refusal
  | .ok given =>
    let r : Run G := .start (thresholdFor (given.has .verbose)) t
    if given.has .list then r.print modelList
    else match plan s t given with
      | .error h => r.hinder h
      | .ok p => carryOut services s p r

end GroundedDialogue.Command.Ask
