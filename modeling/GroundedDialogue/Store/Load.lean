import GroundedDialogue.Disk.Device
import GroundedDialogue.Store.Record

/-!
# Loading a store

A file is checked from front to back: header, magic number, version, sizes, number of documents,
records. Bytes after the records are not looked at. Only when everything is in order do the documents
of the file replace those of the store.
-/

namespace GroundedDialogue

open Disk

/-- What went wrong with a read. -/
inductive ReadProblem where
  | failed (e : SystemError)
  | short (given size : Nat)
  deriving DecidableEq

def ReadProblem.message (things : Text) : ReadProblem → Text
  | failed e => e.message
  | short given size =>
    "read " ++ Text.ofNat given ++ " of " ++ Text.ofNat size ++ " " ++ things ++ " bytes"

/-- Why a file is not loaded. -/
inductive LoadError where
  | invalidPath (e : InvalidPath)
  | opening (e : SystemError)
  | headerRead (p : ReadProblem)
  | badMagic (found : Nat)
  | badVersion (found : Nat)
  | layoutMismatch (embedSize maxText : Nat) (expected : Layout)
  | tooManyDocuments (count capacity : Nat)
  /-- There is no room for the records. -/
  | records (f : Fault)
  | recordRead (p : ReadProblem)
  /-- The file could not be closed, whatever else went wrong before. -/
  | closing (e : SystemError)
  deriving DecidableEq

namespace LoadError

@[match_pattern] abbrev outOfMemory : LoadError := .records .recordsBeyondMemory

/-- The families of the store's own errors. -/
inductive Family where
  /-- The file could not be opened or read. -/
  | access
  /-- What the file holds is broken, or does not suit the store. -/
  | format
  deriving DecidableEq, Repr

/-- The family of an error, if it is one of the store's own. -/
def family? : LoadError → Option Family
  | invalidPath _ | records _ | closing _ => none
  | opening _ | headerRead _ | recordRead _ => some .access
  | badMagic _ | badVersion _ | layoutMismatch .. | tooManyDocuments .. => some .format

def code? : LoadError → Option ErrorCode
  | invalidPath _ | records _ | closing _ => none
  | opening _ => some .opening
  | headerRead _ => some .headerRead
  | badMagic _ => some .badMagic
  | badVersion _ => some .badVersion
  | layoutMismatch .. => some .layoutMismatch
  | tooManyDocuments .. => some .tooManyDocuments
  | recordRead _ => some .recordRead

/-- What an error says about the file. -/
def remark : LoadError → Text
  | invalidPath _ => []
  | records f => f.message
  | opening e | closing e => e.message
  | headerRead p => p.message "header"
  | badMagic found => "magic 0x" ++ Text.hexDigits 8 found
  | badVersion found =>
    "version " ++ Text.ofNat found ++ ", expected " ++ Text.ofNat Header.currentVersion
  | layoutMismatch embedSize maxText expected =>
    "file has embed_size=" ++ Text.ofNat embedSize ++ " max_text=" ++ Text.ofNat maxText
      ++ ", store expects embed_size=" ++ Text.ofNat expected.embedSize
      ++ " max_text=" ++ Text.ofNat expected.maxText
  | tooManyDocuments count capacity =>
    Text.ofNat count ++ " documents, capacity " ++ Text.ofNat capacity
  | recordRead p => p.message "record"

def detail (path : Text) (e : LoadError) : Text := path ++ ": " ++ e.remark

end LoadError

namespace Loading

/-- Opens a file for reading and gives what can be read from it. -/
def openFile (f : Faults) (t : Tree) (path : Text) : Except AccessError Bytes :=
  match f.opening, f.device with
  | some message, _ => .error (.system (.reported message))
  | none, some device => .ok device.content
  | none, none => t.read path

/-- Reads so many bytes as the `i`-th read, and gives them with what is left. -/
def read (f : Faults) (i : Nat) (size : Nat) (content : Bytes) : Except ReadProblem (Bytes × Bytes) :=
  let give (n : Nat) : Except ReadProblem (Bytes × Bytes) :=
    let given := content.take n
    if given.length = size then .ok (given, content.drop n) else .error (.short given.length size)
  match f.readAnswer i with
  | .failed message => .error (.failed (.reported message))
  | .all => give size
  | .atMost n => give (min size n)

/-- Checks a header against a store, in the order of its numbers. -/
def checkHeader (s : Store) (h : Header) : Except LoadError Unit :=
  if h.magic ≠ Header.magicNumber then .error (.badMagic h.magic)
  else if h.version ≠ Header.currentVersion then .error (.badVersion h.version)
  else if h.embedSize ≠ s.layout.embedSize || h.maxText ≠ s.layout.maxText then
    .error (.layoutMismatch h.embedSize h.maxText s.layout)
  else if s.capacity < h.count then .error (.tooManyDocuments h.count s.capacity)
  else .ok ()

/-- Reads the documents of a file. Without documents, no record is read. -/
def readDocuments [Platform] (f : Faults) (s : Store) (content : Bytes) : Except LoadError (List Document) := do
  let (start, rest) ← (read f 0 Header.size content).mapError .headerRead
  let header := Header.ofBytes start
  checkHeader s header
  if header.count = 0 then return []
  (Record.makeRoom .uncountableBytes s.layout header.count).mapError .records
  let (records, _) ← (read f 1 (header.count * Record.size s.layout) rest).mapError .recordRead
  return Record.documents s.layout header.count records

end Loading

namespace Store

variable [Platform]

/-- The documents of a file, checked against the store. The file is closed in the end; if that fails,
the failure takes the place of whatever came before it. -/
def documentsOf (s : Store) (t : Tree) (f : Faults) (path : Text) : Except LoadError (List Document) :=
  match Loading.openFile f t path with
  | .error (.invalid e) => .error (.invalidPath e)
  | .error (.system e) => .error (.opening e)
  | .ok content =>
    let result := Loading.readDocuments f s content
    match f.leaving with
    | some message => .error (.closing (.reported message))
    | none => result

/-- What is logged about a load. Errors that are not the store's own are not logged. -/
def loadLog (path : Text) (result : Except LoadError (List Document)) : Log.Journal :=
  match result with
  | .ok ds => [.persistence "load" path [("count", .whole ds.length)]]
  | .error e =>
    match e.code? with
    | some code => [.persistence "load" path [("error", .words code.name)] Log.Entry.failed]
    | none => []

structure Load where
  result : Except LoadError Unit
  store : Store
  log : Log.Journal

/-- Replaces the documents of the store by those of a file, if it can be loaded. -/
def load (s : Store) (t : Tree) (f : Faults) (path : Text) : Load :=
  let documents := s.documentsOf t f path
  let log := loadLog path documents
  match documents with
  | .ok ds => ⟨.ok (), { s with documents := ds }, log⟩
  | .error e => ⟨.error e, s, log⟩

end Store

end GroundedDialogue
