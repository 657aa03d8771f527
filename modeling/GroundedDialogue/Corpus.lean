import GroundedDialogue.Disk.Tree
import GroundedDialogue.Store.Basic
import GroundedDialogue.Text.Lines

/-!
# Reading a corpus

A corpus is a text file with one document on every line that is not blank. A line without an
embedding is logged and left out. The first line that finds the store full ends the reading.
-/

namespace GroundedDialogue.Corpus

open Disk

/-- How many lines became what. -/
structure Report where
  added : Nat
  skippedBlank : Nat
  failed : Nat
  cutShort : Bool
  deriving DecidableEq

namespace Report

def empty : Report := ⟨0, 0, 0, false⟩

def linesRead (r : Report) : Nat := r.added + r.skippedBlank + r.failed

/-- The status under which a report is logged. -/
def status (r : Report) : Text := if r.cutShort then "truncated" else Log.Entry.success

end Report

/-- Why reading a corpus ends without a report. -/
inductive Error where
  | access (e : AccessError)
  | add (e : AddError)
  deriving DecidableEq

variable {E : Type} [EmbeddingProvider E]

/-- Where the reading of a corpus stands. -/
structure Progress (E : Type) where
  report : Report
  store : Store
  embedder : Option E
  log : Log.Journal

/-- Whether the reading goes on after a line, ends with it, or fails. -/
inductive Verdict where
  | goOn
  | cutShort
  | fail (e : AddError)

/-- Where in the file an entry belongs. -/
def mark (path : Text) (number : Nat) : Text := path ++ ":" ++ Text.ofNat number ++ ": "

/-- Deals with one line. -/
def readLine (path : Text) (p : Progress E) (number : Nat) (line : Text) : Verdict × Progress E :=
  if line.isBlank then (.goOn, { p with report.skippedBlank := p.report.skippedBlank + 1 })
  else
    let addition := p.store.add p.embedder line
    let p := { p with
      store := addition.store, embedder := addition.embedder, log := p.log ++ addition.log }
    let say (level : Log.Level) (message : Text) : Log.Journal :=
      p.log ++ [⟨level, mark path number ++ message⟩]
    match addition.result with
    | .ok _ => (.goOn, { p with report.added := p.report.added + 1 })
    | .error e =>
      match e with
      | .full _ =>
        (.cutShort,
          { p with report.cutShort := true, log := say .warning (e.message ++ "; remaining lines ignored") })
      | .embed (.fault f) =>
        (.goOn,
          { p with
            report.failed := p.report.failed + 1
            log := say .error ("skipping line: " ++ f.message) })
      | _ => (.fail e, p)

def readLines (path : Text) (p : Progress E) (number : Nat) : List Text → Option AddError × Progress E
  | [] => (none, p)
  | line :: rest =>
    match readLine path p number line with
    | (.goOn, p) => readLines path p (number + 1) rest
    | (.cutShort, p) => (none, p)
    | (.fail e, p) => (some e, p)

/-- What reading a corpus leaves behind. -/
structure Ingestion (E : Type) where
  result : Except Error Report
  store : Store
  embedder : Option E
  log : Log.Journal

/-- Adds the lines of a file to a store. Foreign bytes in the file are kept. -/
def load (t : Tree) (path : Text) (s : Store) (embedder : Option E) : Ingestion E :=
  match t.read path with
  | .error e => ⟨.error (.access e), s, embedder, []⟩
  | .ok content =>
    let (failure, p) := readLines path ⟨Report.empty, s, embedder, []⟩ 1 (Text.decode content).lines
    match failure with
    | some e => ⟨.error (.add e), p.store, p.embedder, p.log⟩
    | none =>
      let r := p.report
      ⟨.ok r, p.store, p.embedder,
        p.log ++ [.corpus path r.added r.skippedBlank r.failed r.status]⟩

end GroundedDialogue.Corpus
