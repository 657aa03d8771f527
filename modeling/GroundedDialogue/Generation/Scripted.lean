import GroundedDialogue.Generation.Generator
import GroundedDialogue.Generation.Pieces

/-!
# Scripted generators

A generator that needs no model: it replays fixed pieces, or the pieces of an answer that a responder
makes from the prompt. Faults can be written into the script.
-/

namespace GroundedDialogue

/-- Where the replay of a sequence stands. -/
structure ScriptCursor where
  pieces : List Text
  position : Nat
  decoded : Nat
  prompt : Text
  /-- The tokens that were fed back, in order. -/
  seen : List Text
  deriving DecidableEq

/-- A generator that follows a script. -/
structure ScriptedGenerator where
  name : Text
  pieces : List Text
  responder : Option (Text → Text)
  /-- Decode calls fail from this one on, counted from one. -/
  failDecodeAt : Option Int
  tokenizeFault : Option Fault
  /-- Sampling fails while the replay stands at this position. -/
  sampleFault : Option (Int × Fault)
  prompts : List Text
  released : Nat
  /-- The sequence that was started last. -/
  cursor : Option ScriptCursor

namespace ScriptedGenerator

/-- A generator that replays these pieces. -/
def ofPieces (pieces : List Text) : ScriptedGenerator :=
  ⟨"scripted", pieces, none, none, none, none, [], 0, none⟩

/-- A generator that answers with what a responder makes of the prompt. -/
def ofResponder (name : Text) (responder : Text → Text) : ScriptedGenerator :=
  { ofPieces [] with name := name, responder := some responder }

/-- A generator that answers with the best snippet of the prompt. -/
def offline : ScriptedGenerator := ofResponder "offline" Snippet.reply

def tokenize (g : ScriptedGenerator) (prompt : Text) : Except Fault (List Token) × ScriptedGenerator :=
  match g.tokenizeFault with
  | some f => (.error f, g)
  | none => (.ok [.words prompt], { g with prompts := g.prompts ++ [prompt] })

/-- The pieces of the reply to a prompt. -/
def replyTo (g : ScriptedGenerator) (prompt : Text) : List Text :=
  match g.responder with
  | some responder => (responder prompt).pieces
  | none => g.pieces

/-- The sequence after one more decode call. -/
def advance (g : ScriptedGenerator) (tokens : List Token) (started : Bool) : ScriptCursor :=
  let texts := tokens.map Token.text
  match started, g.cursor with
  | true, some c => { c with decoded := c.decoded + 1, seen := c.seen ++ texts }
  | _, _ =>
    let prompt := texts.flatten
    ⟨g.replyTo prompt, 0, 1, prompt, []⟩

def decode (g : ScriptedGenerator) (tokens : List Token) (started : Option Unit) :
    Except Fault Unit × ScriptedGenerator :=
  let c := g.advance tokens started.isSome
  let fails : Bool := g.failDecodeAt.any fun n => n ≤ (c.decoded : Int)
  (if fails then .error (.scriptedDecode c.decoded) else .ok (), { g with cursor := some c })

def sample (g : ScriptedGenerator) (_ : Unit) : Except Fault Token × ScriptedGenerator :=
  match g.cursor with
  | none => (.ok .scriptEnd, g)
  | some c =>
    match g.sampleFault with
    | some (position, f) =>
      if position = c.position then (.error f, g) else next g c
    | none => next g c
where
  /-- Takes the next piece. -/
  next (g : ScriptedGenerator) (c : ScriptCursor) : Except Fault Token × ScriptedGenerator :=
    match c.pieces[c.position]? with
    | some piece => (.ok (.words piece), { g with cursor := some { c with position := c.position + 1 } })
    | none => (.ok .scriptEnd, g)

def release (g : ScriptedGenerator) (_ : Unit) : ScriptedGenerator := { g with released := g.released + 1 }

instance : TextGenerator ScriptedGenerator Token Unit where
  modelName := name
  tokenize := tokenize
  decode := decode
  sample := sample
  tokenText _ token := .ok token.text
  isEnd _ token := token.isEnd
  release := release
  close := id

end ScriptedGenerator

end GroundedDialogue
