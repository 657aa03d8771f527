import GroundedDialogue.Generation.Budget
import GroundedDialogue.Generation.Generator
import GroundedDialogue.Generation.Scanner
import GroundedDialogue.Log.Entry

/-!
# The token loop

A reply is generated token by token until a marker, the end of the sequence or the budget stops it. A
fault of the generator ends the reply early and is noted with what was kept so far; any other fault is
passed on. A sequence that was started is released in every case.
-/

namespace GroundedDialogue

inductive StopReason where
  | stopMarker
  | endOfSequence
  | maxTokens
  | decodeError
  | allocationError
  deriving DecidableEq, Repr

/-- The name of a reason, as it is logged. -/
def StopReason.name : StopReason → Text
  | stopMarker => "stop_marker"
  | endOfSequence => "end_of_sequence"
  | maxTokens => "max_tokens"
  | decodeError => "decode_error"
  | allocationError => "allocation_error"

structure Generation where
  text : Text
  tokens : Nat
  reason : StopReason
  /-- What went wrong, if the reply ended early. -/
  error : Option Text
  deriving DecidableEq

namespace TokenLoop

variable {G T H : Type} [TextGenerator G T H]

/-- How the loop ended. -/
structure Ending (G H : Type) where
  generator : G
  /-- The handle of the last successful decode. -/
  handle : Option H
  sampled : Nat
  scanner : StopScanner
  cause : Except Fault StopReason

/-- Goes on for at most `budget` tokens. -/
def run (g : G) (handle : Option H) (batch : List T) (sampled : Nat) (scanner : StopScanner) :
    (budget : Nat) → Ending G H
  | 0 => ⟨g, handle, sampled, scanner, .ok .maxTokens⟩
  | budget + 1 =>
    match TextGenerator.decode g batch handle with
    | (.error f, g) => ⟨g, handle, sampled, scanner, .error f⟩
    | (.ok h, g) =>
      match TextGenerator.sample g h with
      | (.error f, g) => ⟨g, some h, sampled, scanner, .error f⟩
      | (.ok token, g) =>
        if TextGenerator.isEnd g token then ⟨g, some h, sampled + 1, scanner, .ok .endOfSequence⟩
        else match TextGenerator.tokenText g token with
          | .error f => ⟨g, some h, sampled + 1, scanner, .error f⟩
          | .ok chunk =>
            let (contribution, scanner) := scanner.feed chunk
            if contribution.stops then ⟨g, some h, sampled + 1, scanner, .ok .stopMarker⟩
            else run g (some h) [token] (sampled + 1) scanner budget

/-- Releases the sequence of a loop that has ended. -/
def Ending.release (e : Ending G H) : G :=
  match e.handle with
  | some h => TextGenerator.release e.generator h
  | none => e.generator

/-- The reply that a loop ended with. Only faults of generation and of memory are turned into one. -/
def Ending.generation (e : Ending G H) : Except Fault Generation :=
  match e.cause with
  | .ok reason => .ok ⟨e.scanner.text, e.sampled, reason, none⟩
  | .error f =>
    match f.kind with
    | .generation => .ok ⟨e.scanner.text, e.sampled, .decodeError, some f.message⟩
    | .memory =>
      .ok ⟨e.scanner.text, e.sampled, .allocationError, some ("out of memory while streaming: " ++ f.message)⟩
    | _ => .error f

def log (model : Text) (r : Generation) : Log.Journal :=
  .generation model r.tokens r.reason.name (some r.text)
      (if r.error.isNone then Log.Entry.success else Log.Entry.failed)
    :: match r.error with
      | none | some [] => []
      | some error => [⟨.warning, "Generation stopped early: " ++ error⟩]

structure Outcome (G : Type) where
  result : Except Fault Generation
  generator : G
  log : Log.Journal

/-- Generates one reply to a prompt. The scanner starts afresh. -/
def generate (g : G) (prompt : Text) (requested ceiling : Int) (scanner : StopScanner) : Outcome G :=
  match TextGenerator.tokenize g prompt with
  | (.error f, g) => ⟨.error f, g, []⟩
  | (.ok batch, g) =>
    let ending := run g none batch 0 scanner.reset (Budget.clamp requested ceiling).toNat
    let g := ending.release
    match ending.generation with
    | .error f => ⟨.error f, g, []⟩
    | .ok r => ⟨.ok r, g, log (TextGenerator.modelName g) r⟩

end TokenLoop

end GroundedDialogue
