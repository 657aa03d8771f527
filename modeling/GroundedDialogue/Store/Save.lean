import GroundedDialogue.Disk.Device
import GroundedDialogue.Store.Record

/-!
# Saving a store

A store is laid out in memory and then written in steps: open, header, records, close. An atomic save
does this in a temporary file beside the path and renames it in the end, so that readers see the old
file or the new one. The first step that fails ends the save; what was opened is closed, and a
temporary file that was not renamed is removed.
-/

namespace GroundedDialogue

open Disk

/-- What went wrong with a write. -/
inductive WriteProblem where
  | failed (e : SystemError)
  /-- Fewer bytes were taken than given, or more. -/
  | short (taken : Int) (size : Nat)
  deriving DecidableEq

def WriteProblem.message : WriteProblem → Text
  | failed e => e.message
  | short taken size => "wrote " ++ Text.ofInt taken ++ " of " ++ Text.ofNat size ++ " bytes"

/-- Why a store is not saved. The path is that of the file being written. -/
inductive SaveError where
  /-- A number of the header does not fit in four bytes. -/
  | headerOverflow
  /-- There is no room for the records. -/
  | records (f : Fault)
  | invalidPath (e : InvalidPath)
  | opening (path : Text) (e : SystemError)
  | headerWrite (path : Text) (p : WriteProblem)
  | recordWrite (path : Text) (p : WriteProblem)
  | closing (path : Text) (e : SystemError)
  | replacing (path : Text) (e : SystemError)
  deriving DecidableEq

namespace SaveError

def code? : SaveError → Option ErrorCode
  | headerOverflow | records _ | invalidPath _ => none
  | opening .. => some .opening
  | headerWrite .. => some .headerWrite
  | recordWrite .. => some .recordWrite
  | closing .. | replacing .. => some .closing

def detail : SaveError → Text
  | headerOverflow | invalidPath _ => []
  | records f => f.message
  | opening path e | closing path e => path ++ ": " ++ e.message
  | headerWrite path p | recordWrite path p => path ++ ": " ++ p.message
  | replacing path e => path ++ ": rename failed: " ++ e.message

def message (e : SaveError) : Text :=
  match e.code? with
  | some code => code.explain (some e.detail)
  | none => e.detail

end SaveError

/-- The steps of a save. -/
inductive SaveStep where
  | makeTemporary
  /-- The header and the records are laid out. -/
  | pack
  | openFile
  | writeHeader
  | writeRecords
  | close
  | rename
  | removeTemporary
  deriving DecidableEq, Repr

/-- What a save leaves behind: its result, the directory tree and the steps that were taken. -/
structure Saving where
  result : Except SaveError Unit
  tree : Tree
  steps : List SaveStep

namespace Saving

/-- Opens a file for writing. The place is missing when nothing that is written will be stored. -/
def openFile (f : Faults) (t : Tree) (path : Text) : Except AccessError (Option Location × Tree) :=
  match f.opening with
  | some message => .error (.system (.reported message))
  | none => if f.stores then (t.create path).map fun (l, t) => (some l, t) else .ok (none, t)

/-- Writes bytes as the `i`-th write. What is taken is stored, if there is a place for it. -/
def write (f : Faults) (t : Tree) (place : Option Location) (i : Nat) (bytes : Bytes) :
    Except WriteProblem Unit × Tree :=
  let store (n : Nat) : Tree :=
    match place with
    | some l => t.append l (bytes.take n)
    | none => t
  match f.writeAnswer i with
  | .failed message => (.error (.failed (.reported message)), t)
  | .all => (.ok (), store bytes.length)
  | .took n =>
    (if n = bytes.length then .ok () else .error (.short n bytes.length), store n.toNat)

/-- Writes a header and records to a file, if they can be laid out. -/
def writeFile (f : Faults) (t : Tree) (path : Text) (content : Except SaveError (Bytes × Bytes)) : Saving :=
  match content with
  | .error e => ⟨.error e, t, [.pack]⟩
  | .ok (header, records) =>
    match openFile f t path with
    | .error (.invalid e) => ⟨.error (.invalidPath e), t, [.pack, .openFile]⟩
    | .error (.system e) => ⟨.error (.opening path e), t, [.pack, .openFile]⟩
    | .ok (place, t) =>
      match write f t place 0 header with
      | (.error p, t) => ⟨.error (.headerWrite path p), t, [.pack, .openFile, .writeHeader, .close]⟩
      | (.ok (), t) =>
        match write f t place 1 records with
        | (.error p, t) =>
          ⟨.error (.recordWrite path p), t, [.pack, .openFile, .writeHeader, .writeRecords, .close]⟩
        | (.ok (), t) =>
          let result := match f.closing with
            | some message => .error (.closing path (.reported message))
            | none => .ok ()
          ⟨result, t, [.pack, .openFile, .writeHeader, .writeRecords, .close]⟩

/-- Makes the temporary file of an atomic save. -/
def makeTemporary (f : Faults) (t : Tree) (p : Path) : Except AccessError (Location × Tree) :=
  match f.makingTemporary with
  | some message => .error (.system (.reported message))
  | none => t.createTemporary p

def rename (f : Faults) (t : Tree) (temporary : Location) (p : Path) : Except SystemError Tree :=
  match f.replacing with
  | some message => .error (.reported message)
  | none => t.rename temporary p

/-- Writes a file through a temporary one. -/
def writeAtomically (f : Faults) (t : Tree) (p : Path) (content : Except SaveError (Bytes × Bytes)) : Saving :=
  match makeTemporary f t p with
  | .error (.invalid e) => ⟨.error (.invalidPath e), t, [.makeTemporary]⟩
  | .error (.system e) => ⟨.error (.opening p.text e), t, [.makeTemporary]⟩
  | .ok (temporary, t) =>
    let written := writeFile f t (Location.text temporary) content
    let steps := .makeTemporary :: written.steps
    match written.result with
    | .error e => ⟨.error e, written.tree.erase temporary, steps ++ [.removeTemporary]⟩
    | .ok () =>
      match rename f written.tree temporary p with
      | .error e =>
        ⟨.error (.replacing p.text e), written.tree.erase temporary, steps ++ [.rename, .removeTemporary]⟩
      | .ok t => ⟨.ok (), t, steps ++ [.rename]⟩

end Saving

namespace Store

def pack [Platform] (s : Store) : Except SaveError (Bytes × Bytes) := do
  let header ← (Header.ofLayout s.layout s.length).bytes?.elim (.error .headerOverflow) .ok
  (Record.makeRoom .vectorTooLarge s.layout s.length).mapError .records
  return (header, Record.bytesOf s.layout s.documents)

def save [Platform] (s : Store) (t : Tree) (f : Faults) (p : Path) (atomic : Bool) : Saving :=
  if atomic then Saving.writeAtomically f t p s.pack else Saving.writeFile f t p.text s.pack

/-- What is logged about a save. Errors that are not the store's own are not logged here. -/
def saveLog (s : Store) (p : Path) (atomic : Bool) (result : Except SaveError Unit) : Log.Journal :=
  let details : Log.Details := [("count", .whole s.length), ("atomic", .flag atomic)]
  match result with
  | .ok () => [.persistence "save" p.text details]
  | .error e =>
    match e.code? with
    | some code =>
      [.persistence "save" p.text (details.set "error" (.words code.name)) Log.Entry.failed]
    | none => []

end Store

end GroundedDialogue
