import GroundedDialogue.Command.Ask
import GroundedDialogue.Command.Build
import GroundedDialogue.Command.Talk
import GroundedDialogue.Embedding.Embedder
import GroundedDialogue.Generation.Generators

/-!
# The program

`build`, `ask` and `talk` as one program. The commands themselves are functions of a directory tree;
here the files that the arguments name are read into such a tree, and what a command has changed is
written back. Lines of a talk are read one by one.

There is no connection to a model server: requests to one fail as they do when it is out of reach.
-/

namespace GroundedDialogue.Program

open Disk Command

def services : Services Generator Embedder where
  embedder
    | .hashed dimension => .hashed dimension
    | .encoder model => .encoder (.unavailable model)
    | .served model host => .served (.unreachable model host)
  generator
    | .offline => .scripted .offline
    | .streamed entry host => .streamed (.unreachable entry host)

/-- The variables that hold settings. -/
def variableNames : List String :=
  ["EMBED_PROVIDER", "EMBED_MODEL_NAME", "EMBED_DIM", "VDB_MAX_DOCS", "RETRIEVAL_TOP_K",
    "GENERATOR_PROVIDER", "OLLAMA_HOST", "DEFAULT_MODEL", "N_PREDICT_CEILING", "DIALOG_HISTORY_MAX"]

def readEnvironment : IO Settings.Environment := do
  let found ← variableNames.filterMapM fun name => do
    return (← IO.getEnv name).map fun value => (Text.ofString name, Text.ofString value)
  return found

/-- A command with its arguments. -/
inductive Invocation where
  | build (arguments : List Text)
  | ask (arguments : List Text)
  | talk (arguments : List Text)

/-- The values of some options. -/
def values {κ : Type} [BEq κ] (specs : List (OptionSpec κ)) (keys : List κ) (arguments : List Text) :
    List Text :=
  match Arguments.parse specs arguments with
  | .error _ => []
  | .ok given => keys.filterMap given.value?

/-- The paths of the files that a command may read or write. -/
def Invocation.paths : Invocation → List Text
  | build arguments => values Build.specs [.input, .output] arguments
  | ask arguments => values Ask.specs [.context, .systemFile] arguments
  | talk arguments =>
    let base := (values Talk.specs [.baseDirectory] arguments).headD here
    Dialogue.Profile.defaults.map fun profile =>
      (Path.below (.ofText base) (.ofText profile.storePath)).text

/-- What stands at a path. What cannot be read counts as not there. -/
def nodeAt (path : Text) : IO (Option Node) := do
  try
    let place ← IO.FS.realPath path.toString
    if ← place.isDir then return some .directory
    else return some (.file (← IO.FS.readBinFile place).toList)
  catch _ => return none

/-- Adds what stands at a path, and the directory around it, to a tree. -/
def snapshot (t : Tree) (path : Text) : IO Tree := do
  let tidy := Path.ofText path
  let t := match ← nodeAt tidy.parent.text with
    | some .directory => t.makeDirectories tidy.parent.location
    | _ => t
  match ← nodeAt path with
  | some .directory => return t.makeDirectories tidy.location
  | some (.file content) => return (t.put tidy content).toOption.getD t
  | none => return t

/-- What stands at a path in a tree, if it is a file. -/
def contentOf (t : Tree) (path : Text) : Option Bytes := (t.read path).toOption

/-- Writes a file where a tree has changed. A new content takes the place of the old one at once. -/
def writeBack (before after : Tree) (path : Text) : IO Unit := do
  match contentOf after path with
  | none => return
  | some content =>
    if contentOf before path ≠ some content then
      let target := path.toString
      let temporary := target ++ ".new"
      IO.FS.writeBinFile temporary (ByteArray.mk content.toArray)
      IO.FS.rename temporary target

def report {G : Type} (r : Run G) : IO Unit := do
  for entry in r.threshold.filter r.log do
    IO.eprintln (Text.toString (entry.level.name ++ " - " ++ entry.message))
  IO.print r.output.toString
  (← IO.getStdout).flush

/-- The number with which the program ends. -/
def exitCode {G : Type} (r : Run G) : IO UInt32 := do
  match r.ending with
  | .returned code => return UInt32.ofNat code.toNat
  | .refused .help =>
    IO.println "usage: (build | ask | talk) options"
    return 0
  | .refused refusal =>
    IO.eprintln "usage: (build | ask | talk) options"
    return UInt32.ofNat refusal.code.toNat
  | .raised e =>
    IO.eprintln e.message.toString
    return 1

/-- The talk after what it has reported so far. -/
def afterReport {G E : Type} (s : Talk.State G E) : Talk.State G E :=
  { s with run := { s.run with output := [], log := [] } }

/-- Reads lines and answers them until the talk ends. -/
partial def converse (input : IO.FS.Stream) (s : Talk.State Generator Embedder) :
    IO (Option Dialogue.SubmitError × Talk.State Generator Embedder) := do
  report (s.print s.invitation).run
  let line ← input.getLine
  if line.isEmpty then return (none, (afterReport s).print [Rune.newline])
  let (verdict, s) := (afterReport s).hear (Text.ofString line)
  match verdict with
  | .goOn => converse input s
  | .leave => return (none, s)
  | .fail e => return (some e, s)

def runTalk (settings : Settings) (t : Tree) (arguments : List Text) : IO (Run Generator) := do
  match Talk.prepare services settings t arguments with
  | .error r => return r
  | .ok state =>
    let (failure, state) ← converse (← IO.getStdin) state
    return state.finish failure

/-- Runs a command on a tree of the files that it names. -/
def perform (settings : Settings) (invocation : Invocation) : IO UInt32 := do
  let paths := invocation.paths
  let before ← paths.foldlM snapshot Tree.empty
  let r ← match invocation with
    | .build arguments => pure (Build.run services settings before arguments)
    | .ask arguments => pure (Ask.run services settings before arguments)
    | .talk arguments => runTalk settings before arguments
  report r
  for path in paths do
    writeBack before r.tree path
  exitCode r

end GroundedDialogue.Program

open GroundedDialogue in
/-- The first argument names the command. -/
def main (arguments : List String) : IO UInt32 := do
  let rest := (arguments.drop 1).map Text.ofString
  let invocation? : Option Program.Invocation := match arguments.head? with
    | some "build" => some (.build rest)
    | some "ask" => some (.ask rest)
    | some "talk" => some (.talk rest)
    | _ => none
  match Settings.ofEnvironment (← Program.readEnvironment), invocation? with
  | .error e, _ =>
    IO.eprintln e.message.toString
    return 1
  | .ok _, none =>
    IO.eprintln "usage: (build | ask | talk) options"
    return 2
  | .ok settings, some invocation => Program.perform settings invocation
