import GroundedDialogue.Embedding.Hashed

/-!
# The embedders

The providers that can be chosen: the hashed bag of words, a model server, a local encoder, a counter
of four place words and a script of answers. The server and the encoder are seen from their boundary:
each call takes the next of the answers that they will give.
-/

namespace GroundedDialogue

/-- An embedding model behind a server. It keeps the texts that were sent and the dimension of the
last vector; for models of a known dimension, that dimension until a vector has come. -/
structure ServedEmbedder where
  model : Text
  host : Option Text
  answers : Script (List Embedding)
  /-- What every call fails with once there are no more answers. -/
  afterwards : Fault
  sent : List Text
  dimension : Option Nat

namespace ServedEmbedder

/-- The dimensions of the models that are known by name. -/
def knownDimensions : List (Text × Nat) :=
  [("nomic-embed-text", 768), ("mxbai-embed-large", 1024), ("all-minilm", 384)]

/-- A model by its tag, which may name a version after a colon. -/
def ofModel (model : Text) (host : Option Text) (answers : Script (List Embedding)) : ServedEmbedder where
  model := model
  host := host
  answers := answers
  afterwards := .scriptExhausted
  sent := []
  dimension := knownDimensions.lookup (model.takeWhile (· ≠ Rune.ofChar ':'))

/-- A model behind a server that cannot be reached. -/
def unreachable (model : Text) (host : Option Text) : ServedEmbedder :=
  { ofModel model host [] with afterwards := .noConnection }

/-- Sends a text. The first vector of the answer counts. Only what the server refuses and a lost
connection become embedding faults. -/
def embed (s : ServedEmbedder) (t : Text) : Except Fault Embedding × ServedEmbedder :=
  let (answer, rest) := s.answers.nextOr s.afterwards
  let s := { s with answers := rest, sent := s.sent ++ [t] }
  match answer with
  | .error f =>
    let refused := f.isResponse || f.kind = .connection
    (.error (if refused then .embeddingRefused s.model f else f), s)
  | .ok [] => (.error (.nothingEmbedded s.model), s)
  | .ok (v :: _) => (.ok v, { s with dimension := some v.length })

/-- The text that is sent to find out a dimension. -/
def probe : Text := "dimension probe"

/-- The dimension of the vectors, found out with a probe when it is not known. -/
def askDimension (s : ServedEmbedder) : Except Fault Nat × ServedEmbedder :=
  match s.dimension with
  | some n => (.ok n, s)
  | none =>
    let (answer, s) := s.embed probe
    (answer.map List.length, s)

end ServedEmbedder

/-- A sentence encoder that runs locally. Its model is loaded when it is first needed. -/
structure LocalEncoder where
  model : Text
  answers : Script Embedding
  /-- What every call fails with once there are no more answers. -/
  afterwards : Fault
  modelDimension : Option Int
  loads : Nat
  dimension : Option Int

namespace LocalEncoder

def ofModel (model : Text) (dimension : Option Int) (answers : Script Embedding) : LocalEncoder :=
  ⟨model, answers, .scriptExhausted, dimension, 0, none⟩

/-- An encoder whose model cannot be loaded, because the library for it is missing. -/
def unavailable (model : Text) : LocalEncoder :=
  { ofModel model none [] with afterwards := .encoderMissing }

def load (e : LocalEncoder) : LocalEncoder := { e with loads := 1 }

/-- Encodes a text. Every fault becomes an embedding fault. -/
def embed (e : LocalEncoder) (_ : Text) : Except Fault Embedding × LocalEncoder :=
  let (answer, rest) := e.answers.nextOr e.afterwards
  (answer.mapError .encodingFailed, { e.load with answers := rest })

def askDimension (e : LocalEncoder) : Option Int × LocalEncoder :=
  match e.dimension with
  | some n => (some n, e)
  | none => (e.modelDimension, { e.load with dimension := e.modelDimension })

end LocalEncoder

namespace KeywordCount

/-- The words that are counted, each in its component. -/
def keywords : List Text := ["ruins", "well", "marsh", "bridge"]

/-- A text with this word in it is refused. -/
def refusedWord : Text := "explode"

/-- The counts in the lower-cased text. -/
def embed (t : Text) : Except Fault Embedding :=
  if (Text.find? refusedWord t).isSome then .error (.reported .embedding ("cannot embed " ++ t))
  else .ok (keywords.map fun word => Binary32.ofInt (Text.count word t.lower))

end KeywordCount

/-- An embedding provider. -/
inductive Embedder where
  | hashed (dimension : Int)
  | keywordCount
  | scripted (answers : Script Embedding)
  | served (s : ServedEmbedder)
  | encoder (e : LocalEncoder)

namespace Embedder

def embed : Embedder → Text → Except Fault Embedding × Embedder
  | hashed dimension, t => (Hashed.embed dimension t, hashed dimension)
  | keywordCount, t => (KeywordCount.embed t, keywordCount)
  | scripted answers, _ => let (answer, rest) := answers.next; (answer, scripted rest)
  | served s, t => let (answer, s) := s.embed t; (answer, served s)
  | encoder e, t => let (answer, e) := e.embed t; (answer, encoder e)

def askDimension : Embedder → Except Fault (Option Int) × Embedder
  | hashed dimension => (.ok (some dimension), hashed dimension)
  | keywordCount => (.ok (some KeywordCount.keywords.length), keywordCount)
  | scripted answers => (.ok none, scripted answers)
  | served s => let (answer, s) := s.askDimension; (answer.map fun n => some n, served s)
  | encoder e => let (answer, e) := e.askDimension; (.ok answer, encoder e)

instance : EmbeddingProvider Embedder := ⟨embed⟩

end Embedder

end GroundedDialogue
