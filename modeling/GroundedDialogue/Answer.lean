import GroundedDialogue.Generation.TokenLoop
import GroundedDialogue.Prompt
import GroundedDialogue.Reply.Cleanup
import GroundedDialogue.Reply.Overlap
import GroundedDialogue.Store.Ranking

/-!
# Answers from a store

A question is answered in one flow: its embedding finds the best documents of a store, they are put
into a prompt, a reply is generated and cleaned. Whatever goes wrong on the way, there is an answer: a
fallback takes the place of the reply, with the reason.
-/

namespace GroundedDialogue

/-- Why a fallback was given. -/
inductive FallbackReason where
  | noStore
  | retrievalFailed (message : Text)
  | noOverlap
  | generationFailed (message : Text)
  | emptyGeneration
  | cleanedAway
  deriving DecidableEq

def FallbackReason.message : FallbackReason → Text
  | noStore => "no store loaded"
  | retrievalFailed message => "retrieval failed: " ++ message
  | noOverlap => "no lexical overlap"
  | generationFailed message => "generation failed: " ++ message
  | emptyGeneration => "empty generation"
  | cleanedAway => "reply sanitized to nothing"

/-- An answer with what led to it. -/
structure Answer where
  text : Text
  hits : List Hit
  prompt : Option Text
  generation : Option Generation
  /-- The reason for a fallback; nothing for a generated answer. -/
  reason : Option FallbackReason
  deriving DecidableEq

def Answer.usedFallback (a : Answer) : Bool := a.reason.isSome

/-- How questions are answered. -/
structure Pipeline where
  entry : ModelEntry
  systemPrompt : Text
  topK : Int
  /-- The number of tokens asked for. -/
  predict : Int
  /-- The most tokens that are given. -/
  ceiling : Int
  scanStops : Bool
  cleanReplies : Bool
  includeSpeaker : Bool
  requireOverlap : Bool
  fallback : Text
  deriving DecidableEq

namespace Pipeline

/-- The instruction that characters speak by. -/
def characterPrompt : Text :=
  Text.ofString ("You are a helpful NPC. Speak in first person. "
    ++ "Use only the provided context. If the context does not contain the answer, say \x22I don't know.\x22 "
    ++ "If asked your name, answer with the NPC Name from the context. "
    ++ "Do not mention context, system messages, or prompts. Reply with one short sentence.")

/-- The fallback when none is given. -/
def demoReply : Text := "Demo reply: The old ruins are north of here."

/-- The usual way to answer with a model. -/
def ofEntry (entry : ModelEntry) (ceiling : Int) : Pipeline where
  entry := entry
  systemPrompt := characterPrompt
  topK := Store.defaultTopK
  predict := Budget.clamp entry.predict ceiling
  ceiling := ceiling
  scanStops := true
  cleanReplies := true
  includeSpeaker := true
  requireOverlap := false
  fallback := demoReply

/-- The same with another number of tokens to ask for. -/
def withPredict (p : Pipeline) (requested : Int) : Pipeline :=
  { p with predict := Budget.clamp requested p.ceiling }

def prompt (p : Pipeline) (question : Text) (hits : List Hit) (speaker : Option Text) : Text :=
  Prompt.build p.entry.style (some p.systemPrompt) (if p.includeSpeaker then speaker else none)
    (some (Prompt.context (hits.map Hit.text))) (some question)

/-- The reply as it is shown. -/
def display (p : Pipeline) (raw : Text) (speaker : Option Text) : Text :=
  if p.cleanReplies then Reply.clean raw speaker else raw

def fallbackLog (reason : FallbackReason) : Log.Entry :=
  .operation "pipeline.answer" "fallback" [("reason", .words reason.message)]

def successLog (hits : List Hit) (r : Generation) : Log.Entry :=
  .operation "pipeline.answer" Log.Entry.success
    [("hits", .whole hits.length), ("stop_reason", .words r.reason.name)]

/-- What answering a question leaves behind. Only a number of slots that cannot be made and a fault
that generation does not deal with keep an answer from being given. -/
structure Outcome (G E : Type) where
  result : Except Fault Answer
  generator : G
  embedder : Option E
  log : Log.Journal

variable {G T H E : Type} [TextGenerator G T H] [EmbeddingProvider E] [Platform]

/-- Why no documents are found for a question. -/
inductive RetrievalError where
  | embed (e : EmbedError)
  | query (e : QueryError)
  deriving DecidableEq

def RetrievalError.message : RetrievalError → Text
  | embed e => e.message
  | query e => e.message

def RetrievalError.fault? : RetrievalError → Option Fault
  | query (.slots f) => some f
  | _ => none

/-- The best documents for a question. -/
def retrieve (p : Pipeline) (embedder : Option E) (s : Store) (question : Text) :
    Except RetrievalError (List Hit) × Option E :=
  match Store.embed s.layout embedder question with
  | (.error e, embedder) => (.error (.embed e), embedder)
  | (.ok query, embedder) => ((s.hits query p.topK).mapError .query, embedder)

/-- The answer to a question after the documents for it were found. -/
def answerFrom (p : Pipeline) (g : G) (question : Text) (hits : List Hit) (speaker : Option Text)
    (fallback : Text) : Except Fault Answer × G × Log.Journal :=
  let degraded (reason : FallbackReason) (prompt : Option Text) (generation : Option Generation) : Answer :=
    ⟨fallback, hits, prompt, generation, some reason⟩
  if p.requireOverlap
      && !Overlap.shares Overlap.leastLength Overlap.commonWords question
        (Text.join " " (hits.map Hit.text)) then
    (.ok (degraded .noOverlap none none), g, [fallbackLog .noOverlap])
  else
    let prompt := p.prompt question hits speaker
    let announced : Log.Entry := ⟨.debug, ">> " ++ prompt⟩
    let scanner := StopScanner.ofMarkers StopMarker.defaults p.scanStops
    let outcome := TokenLoop.generate g prompt p.predict p.ceiling scanner
    let log := announced :: outcome.log
    match outcome.result with
    | .error f =>
      if f.kind = .generation || f.kind = .memory then
        let reason := FallbackReason.generationFailed f.message
        (.ok (degraded reason (some prompt) none), outcome.generator,
          log ++ [⟨.error, "Generation failed: " ++ f.message⟩, fallbackLog reason])
      else (.error f, outcome.generator, log)
    | .ok r =>
      if r.text = [] then
        (.ok (degraded .emptyGeneration (some prompt) (some r)), outcome.generator,
          log ++ [fallbackLog .emptyGeneration])
      else
        let text := p.display r.text speaker
        if text = [] then
          (.ok (degraded .cleanedAway (some prompt) (some r)), outcome.generator,
            log ++ [fallbackLog .cleanedAway])
        else
          (.ok ⟨text, hits, some prompt, some r, none⟩, outcome.generator, log ++ [successLog hits r])

def contextLog (hits : List Hit) : Log.Journal :=
  hits.zipIdx.map fun (hit, slot) => ⟨.debug, "[npc] context[" ++ Text.ofNat slot ++ "]: " ++ hit.text⟩

/-- Answers a question from a store. The fallback of the call, if there is one, goes before that of
the pipeline. -/
def answer (p : Pipeline) (g : G) (embedder : Option E) (question : Text) (store : Option Store)
    (speaker fallback : Option Text) : Outcome G E :=
  let fallback := fallback.getD p.fallback
  match store with
  | none =>
    ⟨.ok ⟨fallback, [], none, none, some .noStore⟩, g, embedder, [fallbackLog .noStore]⟩
  | some s =>
    let asked : Log.Entry := ⟨.debug, "[npc] question: " ++ question⟩
    match p.retrieve embedder s question with
    | (.error e, embedder) =>
      match e.fault? with
      | some f => ⟨.error f, g, embedder, [asked]⟩
      | none =>
        let reason := FallbackReason.retrievalFailed e.message
        ⟨.ok ⟨fallback, [], none, none, some reason⟩, g, embedder,
          [asked, ⟨.error, "Retrieval failed: " ++ e.message⟩, fallbackLog reason]⟩
    | (.ok hits, embedder) =>
      let (result, g, log) := p.answerFrom g question hits speaker fallback
      ⟨result, g, embedder, asked :: contextLog hits ++ log⟩

end Pipeline

end GroundedDialogue
