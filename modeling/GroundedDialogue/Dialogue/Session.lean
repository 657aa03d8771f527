import GroundedDialogue.Answer
import GroundedDialogue.Dialogue.History
import GroundedDialogue.Dialogue.Profile
import GroundedDialogue.Store.Load

/-!
# Dialogue sessions

A session with a set of characters. Every character has a store, if its file could be loaded, and a
history. A character without a store still answers, with its canned reply.
-/

namespace GroundedDialogue.Dialogue

open Disk

/-- What gives the answers of a session. -/
inductive AnswerSource (G : Type) where
  | pipeline (p : Pipeline) (g : G)
  /-- Every answer is this text. -/
  | fixed (text : Text)

/-- The sizes that the stores of a session are made with. -/
structure StoreSizes where
  capacity : Int
  embedSize : Int
  deriving DecidableEq

structure Session (G E : Type) where
  source : AnswerSource G
  embedder : Option E
  profiles : List Profile
  baseDirectory : Option Path
  sizes : StoreSizes
  stores : List (Option Store)
  histories : List History

/-- Why the stores of a session are not loaded at all. -/
inductive LoadFailure where
  | sizes (e : SizeError)
  /-- An error that is not one of the store's own. -/
  | file (path : Text) (e : LoadError)
  deriving DecidableEq

/-- Why a session is not opened. -/
inductive OpenError where
  | limit (e : LimitError)
  | load (e : LoadFailure)
  deriving DecidableEq

/-- Why a text gets no reply. -/
inductive SubmitError where
  | noCharacter (index : Int)
  | fault (f : Fault)
  /-- The reply was given but cannot be remembered. -/
  | unencodable (e : Text.Unencodable)
  deriving DecidableEq

namespace Session

variable {G T H E : Type} [TextGenerator G T H] [EmbeddingProvider E] [Platform]

def storePath (base : Option Path) (profile : Profile) : Path :=
  let path := Path.ofText profile.storePath
  match base with
  | some directory => Path.below directory path
  | none => path

/-- Loads the store of one character, under the faults of the access to its file. -/
def loadStoreUnder (f : Faults) (t : Tree) (sizes : StoreSizes) (base : Option Path) (profile : Profile) :
    Except LoadFailure (Option Store) × Log.Journal :=
  match Store.create sizes.capacity sizes.embedSize with
  | .error e => (.error (.sizes e), [])
  | .ok s =>
    let path := (storePath base profile).text
    let load := s.load t f path
    match load.result with
    | .ok () => (.ok (some load.store), load.log)
    | .error e =>
      match e.code? with
      | some code =>
        (.ok none, load.log ++ [⟨.error, "Failed to load vector db for " ++ profile.name ++ " (" ++ path
          ++ "): " ++ code.description⟩])
      | none => (.error (.file path e), load.log)

def loadStore (t : Tree) (sizes : StoreSizes) (base : Option Path) (profile : Profile) :
    Except LoadFailure (Option Store) × Log.Journal :=
  loadStoreUnder .none t sizes base profile

/-- Loads the stores of the characters from a position on, in order, up to the first failure. The file
of each character is accessed under faults of its own. -/
def loadFrom (faults : Nat → Faults) (t : Tree) (sizes : StoreSizes) (base : Option Path)
    (stores : List (Option Store)) (position : Nat) :
    List Profile → Option LoadFailure × List (Option Store) × Log.Journal
  | [] => (none, stores, [])
  | profile :: rest =>
    match loadStoreUnder (faults position) t sizes base profile with
    | (.error e, log) => (some e, stores, log)
    | (.ok store, log) =>
      let (failure, stores, more) :=
        loadFrom faults t sizes base (stores.set position store) (position + 1) rest
      (failure, stores, log ++ more)

/-- What loading the stores leaves behind. The result is the number of stores that were loaded. -/
structure Reload (G E : Type) where
  result : Except LoadFailure Nat
  session : Session G E
  log : Log.Journal

/-- Loads the stores of all characters, under the faults of the accesses to their files. -/
def reloadUnder (faults : Nat → Faults) (s : Session G E) (t : Tree) : Reload G E :=
  let (failure, stores, log) := loadFrom faults t s.sizes s.baseDirectory s.stores 0 s.profiles
  let s := { s with stores := stores }
  match failure with
  | some e => ⟨.error e, s, log⟩
  | none =>
    let loaded := stores.countP Option.isSome
    ⟨.ok loaded, s, log ++ [.operation "dialog.load_stores" Log.Entry.success
      [("loaded", .whole loaded), ("npcs", .whole s.profiles.length)]]⟩

/-- Loads the stores of all characters, again or for the first time. -/
def reload (s : Session G E) (t : Tree) : Reload G E := reloadUnder (fun _ => .none) s t

def start (source : AnswerSource G) (embedder : Option E) (profiles : List Profile)
    (base : Option Path) (sizes : StoreSizes) (historyLimit : Int) (t : Tree) :
    Except OpenError (Session G E) × Log.Journal :=
  let histories := profiles.mapM fun _ => History.create historyLimit
  match histories with
  | .error e => (.error (.limit e), [])
  | .ok histories =>
    let s : Session G E :=
      { source := source, embedder := embedder, profiles := profiles, baseDirectory := base
        sizes := sizes, stores := profiles.map fun _ => none, histories := histories }
    let r := s.reload t
    (match r.result with
      | .ok _ => .ok r.session
      | .error e => .error (.load e), r.log)

def isLoaded (s : Session G E) (index : Int) : Bool :=
  0 ≤ index && (s.stores[index.toNat]?.join).isSome

def history? (s : Session G E) (index : Int) : Option History :=
  if index < 0 then none else s.histories[index.toNat]?

structure Exchange (G E : Type) where
  result : Except SubmitError (Option Text)
  session : Session G E
  log : Log.Journal

def ask (s : Session G E) (profile : Profile) (store : Option Store) (text fallback : Text) :
    Except Fault Text × Session G E × Log.Journal :=
  match s.source with
  | .fixed text => (.ok text, s, [])
  | .pipeline p g =>
    let outcome := p.answer g s.embedder text store (some profile.name) (some fallback)
    (outcome.result.map Answer.text,
      { s with source := .pipeline p outcome.generator, embedder := outcome.embedder }, outcome.log)

/-- The reply to show for an answer: cleaned once more, because canned replies carry the name of the
speaker, and replaced by the canned reply when nothing is left. -/
def shown (profile : Profile) (answer canned : Text) : Text :=
  match Reply.clean answer (some profile.name) with
  | [] => canned
  | reply => reply

/-- What a character says when nothing else can be said. -/
def cannedReply (profile : Profile) : Text :=
  match profile.reply with
  | [] => Pipeline.demoReply
  | reply => reply

/-- Hands a text to the character at a position and remembers the turn. Nothing happens for an empty
text. -/
def submit (s : Session G E) (index : Int) (text : Text) : Exchange G E :=
  if text = [] then ⟨.ok none, s, []⟩
  else if index < 0 then ⟨.error (.noCharacter index), s, []⟩
  else match s.profiles[index.toNat]?, s.histories[index.toNat]? with
    | some profile, some history =>
      let canned := cannedReply profile
      match s.ask profile (s.stores[index.toNat]?.join) text canned with
      | (.error f, s, log) => ⟨.error (.fault f), s, log⟩
      | (.ok answer, s, log) =>
        let reply := shown profile answer canned
        match history.append text reply with
        | .error e => ⟨.error (.unencodable e), s, log⟩
        | .ok (_, history) =>
          ⟨.ok (some reply), { s with histories := s.histories.set index.toNat history }, log⟩
    | _, _ => ⟨.error (.noCharacter index), s, []⟩

end Session

end GroundedDialogue.Dialogue
