import GroundedDialogue.Embedding.Provider
import GroundedDialogue.Log.Entry
import GroundedDialogue.Position
import GroundedDialogue.Store.ErrorCode
import GroundedDialogue.Text.Truncate

/-!
# The document store

An ordered collection of documents with a fixed capacity. A document is a text of bounded size with
the embedding that a provider gave it. The provider does not belong to the store: it is handed in and
handed back with every call, and only adding and querying need one.
-/

namespace GroundedDialogue

/-- The sizes that every document of a store, and every record of its file, is made to. -/
structure Layout where
  embedSize : Nat
  maxText : Nat
  embedSize_pos : 0 < embedSize := by omega
  maxText_pos : 0 < maxText := by omega
  deriving DecidableEq

/-- A stored text with its embedding. -/
structure Document where
  embedding : Embedding
  text : Text
  deriving DecidableEq

/-- Documents in the order in which they were added. -/
structure Store where
  capacity : Nat
  layout : Layout
  documents : List Document
  deriving DecidableEq

/-- Sizes that no store can have. -/
inductive SizeError where
  | capacity (given : Int)
  | embedSize (given : Int)
  | maxText (given : Int)
  deriving DecidableEq, Repr

def SizeError.message : SizeError → Text
  | capacity given => "capacity must be >= 0, got " ++ Text.ofInt given
  | embedSize given => "embed_size must be >= 1, got " ++ Text.ofInt given
  | maxText given => "max_text must be >= 1, got " ++ Text.ofInt given

/-- Why a text has no embedding. -/
inductive EmbedError where
  | noEmbedder
  | fault (f : Fault)
  deriving DecidableEq

def EmbedError.message : EmbedError → Text
  | noEmbedder => ErrorCode.noEmbedder.description
  | fault f => f.message

/-- Why a text is not added. -/
inductive AddError where
  | full (capacity : Nat)
  | unencodable (position : Nat)
  | embed (e : EmbedError)
  deriving DecidableEq

/-- What a full store says beyond the description of its code. -/
def AddError.fullDetail (capacity : Text) : Text := "capacity " ++ capacity

def AddError.message : AddError → Text
  | full capacity => ErrorCode.storeFull.explain (some (fullDetail (Text.ofNat capacity)))
  | unencodable position =>
    "Document text is not encodable as UTF-8 at position " ++ Text.ofNat position
  | embed e => e.message

/-- A document that is not there. -/
inductive IndexError where
  | negative (index : Int)
  | notAPosition
  | outOfRange
  deriving DecidableEq, Repr

def IndexError.message : IndexError → Text
  | negative index => "document index " ++ Text.ofInt index ++ " is a sentinel or negative"
  | notAPosition => Position.misfit
  | outOfRange => "list index out of range"

namespace Store

def defaultCapacity : Nat := 1000

def defaultEmbedSize : Nat := 768

def defaultMaxText : Nat := 1024

def create (capacity : Int := defaultCapacity) (embedSize : Int := defaultEmbedSize)
    (maxText : Int := defaultMaxText) : Except SizeError Store :=
  if capacity < 0 then .error (.capacity capacity)
  else if he : embedSize < 1 then .error (.embedSize embedSize)
  else if hm : maxText < 1 then .error (.maxText maxText)
  else .ok ⟨capacity.toNat, ⟨embedSize.toNat, maxText.toNat, by omega, by omega⟩, []⟩

def length (s : Store) : Nat := s.documents.length

def isFull (s : Store) : Bool := s.capacity ≤ s.length

def get (s : Store) (index : Int) : Except IndexError Document :=
  if index < 0 then .error (.negative index)
  else if !Position.fits index then .error .notAPosition
  else match s.documents[index.toNat]? with
    | some d => .ok d
    | none => .error .outOfRange

variable {E : Type} [EmbeddingProvider E]

/-- The embedding of a text, of the size that the layout asks for. A fault of another kind is taken
for a failure of the provider. -/
def embed (l : Layout) (embedder : Option E) (t : Text) : Except EmbedError Embedding × Option E :=
  match embedder with
  | none => (.error .noEmbedder, none)
  | some e =>
    let (answer, e) := EmbeddingProvider.embed e t
    let answer := match answer with
      | .error f => .error (.fault (if f.kind = .embedding then f else .providerFailed f))
      | .ok v =>
        if v.length = l.embedSize then .ok v
        else .error (.fault (.wrongDimension v.length l.embedSize))
    (answer, some e)

/-- What an attempt to add a text leaves behind. The result is the ordinal of the new document,
counted from one. -/
structure Addition (E : Type) where
  result : Except AddError Nat
  store : Store
  embedder : Option E
  log : Log.Journal

/-- A text ends before its first null. -/
def untilNull (t : Text) : Text := t.takeWhile (· ≠ 0)

/-- The most bytes of a text that are stored; one byte of a record ends it. -/
def textLimit (l : Layout) : Int := l.maxText - 1

/-- Adds a text at the end. A full store and a text that cannot be written are refused before the
provider is asked. -/
def add (s : Store) (embedder : Option E) (t : Text) : Addition E :=
  if s.isFull then
    { result := .error (.full s.capacity), store := s, embedder := embedder
      log := [.document "add" (s.length + 1) [("capacity", .whole s.capacity)] "store_full"] }
  else match Text.truncate (textLimit s.layout) (untilNull t) with
    | .error e => ⟨.error (.unencodable e.position), s, embedder, []⟩
    | .ok kept =>
      match embed s.layout embedder (untilNull t) with
      | (.error e, embedder) => ⟨.error (.embed e), s, embedder, []⟩
      | (.ok v, embedder) =>
        let ordinal := s.length + 1
        { result := .ok ordinal
          store := { s with documents := s.documents ++ [⟨v, kept⟩] }
          embedder := embedder
          log := [.document "add" ordinal
            [("message", .words ("Embedding doc " ++ Text.ofNat ordinal ++ "..."))]] }

end Store

end GroundedDialogue
