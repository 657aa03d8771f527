import GroundedDialogue.Generation.Generator
import GroundedDialogue.Model.Entry

/-!
# Streamed generators

A generator behind a model server. The first decode sends the whole prompt in one request, and every
chunk of the answer counts as one sampled token; later decodes send nothing, because the server
already holds what it has sampled. The server is seen from its boundary: what it answers is part of
the state.
-/

namespace GroundedDialogue

/-- A request for a completion of a prompt as it is. -/
structure StreamRequest where
  model : Text
  prompt : Text
  options : List (Text × Scalar)
  deriving DecidableEq

/-- A model that a server lists, under either of two names. -/
structure ListedModel where
  model : Option Text
  name : Option Text
  deriving DecidableEq

/-- The name that counts: the first that is not empty. -/
def ListedModel.tag (m : ListedModel) : Text :=
  match m.model.getD [] with
  | [] => m.name.getD []
  | tag => tag

/-- An answer that is being streamed. -/
structure ChunkStream where
  rest : List (Except Fault Chunk)
  started : Bool
  finished : Bool

structure StreamedGenerator where
  entry : ModelEntry
  host : Option Text
  /-- What the server answers to a request: a refusal, or these chunks and faults in order. -/
  requestFault : Option Fault
  chunks : List (Except Fault Chunk)
  /-- What the server answers when it is asked for its models. -/
  listed : Except Fault (List ListedModel)
  requests : List StreamRequest
  stream : Option ChunkStream
  /-- The number of streams that were started and have come to an end. -/
  streamsClosed : Nat
  /-- How many times the connection was closed. -/
  closed : Nat

namespace StreamedGenerator

def ofEntry (entry : ModelEntry) (host : Option Text) (requestFault : Option Fault)
    (chunks : List (Except Fault Chunk)) (listed : Except Fault (List ListedModel)) : StreamedGenerator :=
  ⟨entry, host, requestFault, chunks, listed, [], none, 0, 0⟩

def unreachable (entry : ModelEntry) (host : Option Text) : StreamedGenerator :=
  ofEntry entry host (some .noConnection) [] (.error .noConnection)

/-- The prompt travels as a single token. -/
def tokenize (g : StreamedGenerator) (prompt : Text) : Except Fault (List Token) × StreamedGenerator :=
  (.ok [.words prompt], g)

/-- A fault of the server in the words of this generator. -/
def serverFault (other : Fault → Fault) (f : Fault) : Fault :=
  if f.isResponse then .modelRefused f else other f

/-- Ends the stream, if there is one. A stream that was never started ends unnoticed. -/
def endStream (g : StreamedGenerator) : StreamedGenerator :=
  match g.stream with
  | none => g
  | some s =>
    { g with
      stream := some { s with rest := [], finished := true }
      streamsClosed := g.streamsClosed + (if s.started && !s.finished then 1 else 0) }

def dropStream (g : StreamedGenerator) : StreamedGenerator := { g.endStream with stream := none }

def decode (g : StreamedGenerator) (tokens : List Token) (started : Option Unit) :
    Except Fault Unit × StreamedGenerator :=
  match started with
  | some () => (.ok (), g)
  | none =>
    let request : StreamRequest := ⟨g.entry.model, (tokens.map Token.text).flatten, g.entry.options⟩
    let g := { g with requests := g.requests ++ [request] }
    match g.requestFault with
    | some f => (.error (serverFault .requestFailed f), g)
    | none => (.ok (), { g.dropStream with stream := some ⟨g.chunks, false, false⟩ })

/-- Takes the next chunk. A stream that ends without saying so counts as done. -/
def sample (g : StreamedGenerator) (_ : Unit) : Except Fault Token × StreamedGenerator :=
  match g.stream with
  | none => (.ok (.chunk ⟨some [], true⟩), g)
  | some s =>
    if s.finished then (.ok (.chunk ⟨some [], true⟩), g)
    else
      let started := { g with stream := some { s with started := true } }
      match s.rest with
      | [] => (.ok (.chunk ⟨some [], true⟩), started.endStream)
      | .error f :: _ => (.error (serverFault .streamFailed f), started.endStream)
      | .ok c :: rest => (.ok (.chunk c), { g with stream := some ⟨rest, true, false⟩ })

def release (g : StreamedGenerator) (_ : Unit) : StreamedGenerator := g.endStream

def close (g : StreamedGenerator) : StreamedGenerator := { g with closed := g.closed + 1 }

/-- Whether the server can be reached and has the model. -/
def isAvailable (g : StreamedGenerator) : Bool :=
  match g.listed with
  | .error _ => false
  | .ok models => models.any fun m => m.tag = g.entry.model

instance : TextGenerator StreamedGenerator Token Unit where
  modelName g := g.entry.model
  tokenize := tokenize
  decode := decode
  sample := sample
  tokenText _ token := .ok token.text
  isEnd _ token := token.isEnd
  release := release
  close := close

end StreamedGenerator

end GroundedDialogue
