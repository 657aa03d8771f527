import GroundedDialogue.Command.Arguments
import GroundedDialogue.Corpus
import GroundedDialogue.Dialogue.Session
import GroundedDialogue.Log.Threshold
import GroundedDialogue.Model.Table
import GroundedDialogue.Platform.Reference
import GroundedDialogue.Services
import GroundedDialogue.Store.Save

/-!
# Runs of commands

A command reads its arguments, works on the directory tree and leaves behind what it printed and
logged. It ends with a number: zero when it did what it should, one when something kept it from doing
so, and then it has logged what. A fault that no command deals with ends it at once.
-/

namespace GroundedDialogue.Command

open Disk

/-- A fault that no command deals with. -/
inductive Unhandled where
  | sizes (e : SizeError)
  | corpus (e : Corpus.Error)
  | saving (e : SaveError)
  | loading (path : Text) (e : LoadError)
  /-- The path of a file that is read as a text. -/
  | invalidPath (e : InvalidPath)
  /-- A file that is read as a text is not valid UTF-8. -/
  | undecodable
  /-- An option for a directory has no value. -/
  | noDirectory
  /-- An option for a name has no value. -/
  | noName
  | session (e : Dialogue.OpenError)
  | submission (e : Dialogue.SubmitError)
  | generation (f : Fault)
  deriving DecidableEq

def accessMessage : AccessError → Text
  | .system e => e.message
  | .invalid e => e.message

def loadMessage (path : Text) (e : LoadError) : Text :=
  match e.code? with
  | some code => code.explain (some (e.detail path))
  | none => e.remark

def Unhandled.message : Unhandled → Text
  | sizes e => e.message
  | corpus (.access e) => accessMessage e
  | corpus (.add e) => e.message
  | saving e => e.message
  | loading path e => loadMessage path e
  | invalidPath e => e.message
  | undecodable => "the system prompt is not valid UTF-8"
  | noDirectory => "no directory is named"
  | noName => "no name is given"
  | session (.limit e) => e.message
  | session (.load (.sizes e)) => e.message
  | session (.load (.file path e)) => loadMessage path e
  | submission (.noCharacter index) => "no NPC at index " ++ Text.ofInt index
  | submission (.fault f) => f.message
  | submission (.unencodable _) => "surrogates not allowed"
  | generation f => f.message

/-- How a run ends. -/
inductive Ending where
  | returned (code : Int)
  /-- The arguments did not lead to a run. -/
  | refused (r : Refusal)
  | raised (e : Unhandled)
  deriving DecidableEq

structure Run (G : Type) where
  ending : Ending
  output : Text
  log : Log.Journal
  /-- The least severity that is logged. -/
  threshold : Log.Threshold
  tree : Tree
  /-- The generator that was made, if one was, as the run has left it. -/
  generator : Option G

/-- What keeps a command from going on: something that it logs before it ends with one, or a fault
that it does not deal with. -/
inductive Hindrance where
  | logged (message : Text)
  | unhandled (e : Unhandled)
  deriving DecidableEq

/-- What a command has found out before something may keep it from going on. -/
abbrev Attempt (α : Type) := Except Hindrance α

def Hindrance.ending : Hindrance → Ending
  | logged _ => .returned 1
  | unhandled e => .raised e

def Hindrance.log : Hindrance → Log.Journal
  | logged message => [⟨.error, message⟩]
  | unhandled _ => []

namespace Run

variable {G : Type}

def start (threshold : Log.Threshold) (t : Tree) : Run G := ⟨.returned 0, [], [], threshold, t, none⟩

/-- A run that arguments did not lead to. -/
def refuse (t : Tree) (r : Refusal) : Run G := { start .info t with ending := .refused r }

def note (r : Run G) (log : Log.Journal) : Run G := { r with log := r.log ++ log }

def print (r : Run G) (text : Text) : Run G := { r with output := r.output ++ text }

/-- Ends a run at a hindrance. -/
def hinder (r : Run G) (h : Hindrance) : Run G := { r.note h.log with ending := h.ending }

end Run

/-- Lines as they are printed. -/
def printed (lines : List Text) : Text := lines.flatMap fun line => line ++ [Rune.newline]

def modelList : Text := printed ModelTable.listing

/-- The threshold of a run. -/
def thresholdFor (verbose : Bool) : Log.Threshold := if verbose then .debug else .info

def nonEmpty? (t : Option Text) : Option Text := t.filter (· ≠ [])

/-- Refuses to go on without a value. -/
def require (value : Option Text) (message : Text) : Attempt Text :=
  match nonEmpty? value with
  | some t => .ok t
  | none => .error (.logged message)

def findModel (name : Text) : Attempt ModelEntry :=
  match ModelTable.find? name with
  | some entry => .ok entry
  | none => .error (.logged ("Unknown model '" ++ name ++ "'"))

/-- An empty store of the sizes that are set. -/
def createStore (s : Settings) : Attempt Store := s.createStore.mapError fun e => .unhandled (.sizes e)

/-- The service that embeds, for a model that may be given. -/
def chooseEmbedder (s : Settings) (model : Option Text) : Attempt EmbedderChoice :=
  (s.chooseEmbedder none model).mapError fun e => .logged ("Unable to load embedding model: " ++ e.message)

/-- The service that generates for a model entry. -/
def chooseGenerator (s : Settings) (entry : ModelEntry) : Attempt GeneratorChoice :=
  (s.chooseGenerator entry none).mapError fun e => .logged e.message

/-- How questions are answered under settings. -/
def pipeline (s : Settings) (entry : ModelEntry) : Pipeline :=
  { Pipeline.ofEntry entry s.predictCeiling with topK := s.topK }

end GroundedDialogue.Command
