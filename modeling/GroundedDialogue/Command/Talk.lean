import GroundedDialogue.Command.Run
import GroundedDialogue.Text.Lowercase

/-!
# The command that talks to the characters

Reads lines and answers each as the character that is talked to. Lines that begin with a slash change
the character, show the history or leave. The talk ends at the end of the input or with an interrupt;
from its beginning to its end, whatever happens, the generator is there to be closed.
-/

namespace GroundedDialogue.Command.Talk

open Disk Dialogue

inductive Key where
  | model
  | baseDirectory
  | character
  | verbose
  deriving DecidableEq

def specs : List (OptionSpec Key) :=
  [⟨some .model, some (Rune.ofChar 'm'), "model", true⟩,
    ⟨some .baseDirectory, some (Rune.ofChar 'd'), "base-dir", true⟩,
    ⟨some .character, some (Rune.ofChar 'n'), "npc", true⟩,
    ⟨some .verbose, some (Rune.ofChar 'v'), "verbose", false⟩]

structure Plan where
  entry : ModelEntry
  embedder : EmbedderChoice
  generator : GeneratorChoice

/-- What stands for the name of a model when the option for it has no value. No model has this name. -/
def namelessModel : Text := "[]"

/-- Checks the options, in the order in which hindrances are reported. -/
def plan (s : Settings) (given : Given Key) : Attempt Plan := do
  let entry ← findModel (((given.last? .model).getD (some s.defaultModel)).getD namelessModel)
  let embedder ← (s.chooseEmbedder none none).mapError fun e => Hindrance.logged e.message
  return ⟨entry, embedder, ← chooseGenerator s entry⟩

/-- The position of the first character with this name, in any case. -/
def find? (profiles : List Profile) (name : Text) : Option Nat :=
  profiles.findIdx? fun profile => Text.lower profile.name = Text.lower name

structure State (G E : Type) where
  session : Session G E
  /-- The position of the character that is talked to. -/
  current : Nat
  run : Run G

/-- Whether a talk goes on after a line. -/
inductive Verdict where
  | goOn
  | leave
  | fail (e : SubmitError)
  deriving DecidableEq

namespace State

variable {G T H E : Type} [TextGenerator G T H] [EmbeddingProvider E] [Platform]

def name (s : State G E) : Text := ((s.session.profiles[s.current]?).map Profile.name).getD []

def print (s : State G E) (text : Text) : State G E := { s with run := s.run.print text }

def invitation (s : State G E) : Text := "[" ++ s.name ++ "] You: "

def historyLines (s : State G E) : List Text :=
  let turns := ((s.session.history? s.current).map History.turns).getD []
  turns.flatMap fun turn => ["  You: " ++ turn.prompt, "  " ++ s.name ++ ": " ++ turn.response]

def turnTo (s : State G E) (name : Text) : State G E :=
  match find? s.session.profiles name with
  | some position => { s with current := position }
  | none => s.print (printed ["No NPC named " ++ name.quoted])

def submit (s : State G E) (line : Text) : Verdict × State G E :=
  let x := s.session.submit s.current line
  let s := { s with session := x.session, run := s.run.note x.log }
  match x.result with
  | .error e => (.fail e, s)
  | .ok none => (.goOn, s)
  | .ok (some reply) => (.goOn, s.print (printed [s.name ++ ": " ++ reply]))

def hear (s : State G E) (line : Text) : Verdict × State G E :=
  let line := line.strip
  if line = "/quit" || line = "/exit" then (.leave, s)
  else if line = "/history" then (.goOn, s.print (printed s.historyLines))
  else match Text.after? "/npc " line with
    | some name => (.goOn, s.turnTo name.strip)
    | none => s.submit line

def converse (s : State G E) : List Text → Option SubmitError × State G E
  | [] => (none, s.print (s.invitation ++ [Rune.newline]))
  | line :: rest =>
    match (s.print s.invitation).hear line with
    | (.goOn, s) => converse s rest
    | (.leave, s) => (none, s)
    | (.fail e, s) => (some e, s)

/-- Ends a talk: the generator is closed. -/
def finish (s : State G E) (failure : Option SubmitError) : Run G :=
  let generator := match s.session.source with
    | .pipeline _ g => some (TextGenerator.close g)
    | .fixed _ => none
  let r := { s.run with generator := generator }
  match failure with
  | none => r
  | some e => r.hinder (.unhandled (.submission e))

end State

/-- The lines of an input. Only a line feed ends a line. -/
def linesOf (input : Text) : List Text :=
  let parts := input.splitOn Rune.newline
  if parts.getLast? = some [] then parts.dropLast else parts

variable {G T H E : Type} [TextGenerator G T H] [EmbeddingProvider E] [Platform]

/-- The directory that store files are looked for in. -/
def baseDirectory (given : Given Key) : Except Unhandled Path :=
  match (given.last? .baseDirectory).getD (some here) with
  | some base => .ok (.ofText base)
  | none => .error .noDirectory

/-- The position of the character that the talk begins with. -/
def firstCharacter (profiles : List Profile) (given : Given Key) : Attempt Nat :=
  match (given.last? .character).getD (Profile.defaults.map Profile.name).head? with
  | none => .error (.unhandled .noName)
  | some name =>
    match find? profiles name with
    | none => .error (.logged ("Unknown NPC '" ++ name ++ "'"))
    | some position => .ok position

/-- Opens the session. The run already has the generator, which nothing closes before the talk
begins. -/
def start (services : Services G E) (s : Settings) (p : Plan) (given : Given Key) (r : Run G) :
    Except (Run G) (State G E) :=
  let g := services.generator p.generator
  let r := { r with generator := some g }
  match baseDirectory given with
  | .error e => .error (r.hinder (.unhandled e))
  | .ok base =>
    let (opened, log) := Session.start (.pipeline (pipeline s p.entry) g)
      (some (services.embedder p.embedder)) Profile.defaults (some base)
      ⟨s.maxDocuments, s.embedDimension⟩ s.historyLimit r.tree
    let r := r.note log
    match opened with
    | .error e => .error (r.hinder (.unhandled (.session e)))
    | .ok session =>
      match firstCharacter session.profiles given with
      | .error h => .error (r.hinder h)
      | .ok position => .ok ⟨session, position, r⟩

/-- Reads the arguments and opens the session. -/
def prepare (services : Services G E) (s : Settings) (t : Tree) (arguments : List Text) :
    Except (Run G) (State G E) :=
  match Arguments.parse specs arguments with
  | .error refusal => .error (.refuse t refusal)
  | .ok given =>
    let r : Run G := .start (thresholdFor (given.has .verbose)) t
    match plan s given with
    | .error h => .error (r.hinder h)
    | .ok p => start services s p given r

def run (services : Services G E) (s : Settings) (t : Tree) (arguments : List Text) (input : Text) : Run G :=
  match prepare services s t arguments with
  | .error r => r
  | .ok state =>
    let (failure, state) := state.converse (linesOf input)
    state.finish failure

end GroundedDialogue.Command.Talk
