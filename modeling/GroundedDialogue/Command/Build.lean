import GroundedDialogue.Command.Run

/-!
# The command that builds a store

Reads a corpus, embeds its lines and saves the store that they make. A store that is full before the
corpus ends is saved all the same.
-/

namespace GroundedDialogue.Command.Build

open Disk

inductive Key where
  | model
  | input
  | output
  | list
  | verbose
  | atomic
  deriving DecidableEq

def specs : List (OptionSpec Key) :=
  [⟨some .model, some (Rune.ofChar 'm'), "model", true⟩,
    ⟨some .input, some (Rune.ofChar 'i'), "in", true⟩,
    ⟨some .output, some (Rune.ofChar 'o'), "out", true⟩,
    ⟨some .list, some (Rune.ofChar 'l'), "list", false⟩,
    ⟨some .verbose, some (Rune.ofChar 'v'), "verbose", false⟩,
    ⟨some .atomic, none, "atomic", false⟩]

structure Plan where
  input : Text
  output : Text
  embedder : EmbedderChoice
  store : Store

/-- The model entry whose embedding model is used: the one that is named, else the first. -/
def modelFor (name : Option Text) : Attempt ModelEntry :=
  match nonEmpty? name with
  | some name => findModel name
  | none => .ok (ModelTable.entries.headD (ModelEntry.ofTag [] []))

/-- Checks the options, in the order in which hindrances are reported. -/
def plan (s : Settings) (given : Given Key) : Attempt Plan := do
  let input ← require (given.value? .input) "Input context file must be provided. Exiting..."
  let output ← require (given.value? .output) "Output vector context file must be provided. Exiting..."
  let entry ← modelFor (given.value? .model)
  let embedder ← chooseEmbedder s (s.embedModelFor entry)
  return ⟨input, output, embedder, ← createStore s⟩

def corpusHindrance (path : Text) : Corpus.Error → Hindrance
  | .access (.system e) => .logged ("Unable to open context file " ++ path ++ ": " ++ e.message)
  | e => .unhandled (.corpus e)

def saveHindrance (path : Text) (e : SaveError) : Hindrance :=
  if e.code?.isSome then .logged ("Something went wrong saving file " ++ path ++ ": " ++ e.message)
  else .unhandled (.saving e)

def capacityLog (s : Store) (report : Corpus.Report) : Log.Journal :=
  if report.cutShort then
    [⟨.warning, "Store capacity " ++ Text.ofNat s.capacity ++ " reached; corpus was cut short"⟩]
  else []

def summary (path : Text) (report : Corpus.Report) : Text :=
  "Context vector database file " ++ path ++ " successfully written (" ++ Text.ofNat report.added
    ++ " documents, " ++ Text.ofNat report.skippedBlank ++ " blank, " ++ Text.ofNat report.failed ++ " failed)"

variable {G E : Type} [EmbeddingProvider E] [Platform]

def carryOut (services : Services G E) (p : Plan) (atomic : Bool) (r : Run G) : Run G :=
  let ingestion := Corpus.load r.tree p.input p.store (some (services.embedder p.embedder))
  let r := r.note ingestion.log
  match ingestion.result with
  | .error e => r.hinder (corpusHindrance p.input e)
  | .ok report =>
    let r := r.note (capacityLog p.store report)
    let path := Path.ofText p.output
    let saving := ingestion.store.save r.tree .none path atomic
    let r := { r.note (ingestion.store.saveLog path atomic saving.result) with tree := saving.tree }
    match saving.result with
    | .error e => r.hinder (saveHindrance p.output e)
    | .ok () => r.print (printed [summary p.output report])

def run (services : Services G E) (s : Settings) (t : Tree) (arguments : List Text) : Run G :=
  match Arguments.parse specs arguments with
  | .error refusal => .refuse t refusal
  | .ok given =>
    let r : Run G := .start (thresholdFor (given.has .verbose)) t
    if given.has .list then r.print modelList
    else match plan s given with
      | .error h => r.hinder h
      | .ok p => carryOut services p (given.has .atomic) r

end GroundedDialogue.Command.Build
