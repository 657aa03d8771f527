import GroundedDialogue.Generation.Scripted
import GroundedDialogue.Proofs.Generation.Flow

/-!
# Generators that replay pieces

Many generators come down to a list of pieces that they say one after another, however they keep it. If
every turn either says the next piece or, when there is none left, ends the sequence (`Replays`), then
what is said within a budget depends on the pieces alone (`flow_of_replays`). A scripted generator
without faults is of this kind, be its pieces fixed or made from the prompt
(`ScriptedGenerator.flowFor_eq_replay`).
-/

namespace GroundedDialogue.TokenLoop

/-- What is said within a budget by a generator that has these pieces. -/
def Flow.replay (pieces : List Text) (budget : Nat) : Flow where
  chunks := pieces.take budget
  silent := if pieces.length < budget then 1 else 0
  cause := .ok (if pieces.length < budget then .endOfSequence else .maxTokens)

theorem replay_zero (pieces : List Text) : Flow.replay pieces 0 = ⟨[], 0, .ok .maxTokens⟩ := by
  simp [Flow.replay]

theorem replay_nil (budget : Nat) : Flow.replay [] (budget + 1) = ⟨[], 1, .ok .endOfSequence⟩ := by
  simp [Flow.replay]

theorem replay_cons (piece : Text) (rest : List Text) (budget : Nat) :
    Flow.replay (piece :: rest) (budget + 1)
      = { Flow.replay rest budget with chunks := piece :: (Flow.replay rest budget).chunks } := by
  simp [Flow.replay]

variable {G T H : Type} [TextGenerator G T H]

/-- A generator that is about to decode this batch has these pieces left. -/
structure Replays (left : List Text → G → Option H → List T → Prop) : Prop where
  spoken {g : G} {handle : Option H} {batch : List T} (h : left [] g handle batch) :
    ∃ g' handle', turn g handle batch = .ends g' handle' 1 (.ok .endOfSequence)
  speaks {piece : Text} {rest : List Text} {g : G} {handle : Option H} {batch : List T}
    (h : left (piece :: rest) g handle batch) :
    ∃ g' h token, turn g handle batch = .speaks g' h token piece ∧ left rest g' (some h) [token]

theorem flow_of_replays {left : List Text → G → Option H → List T → Prop} (hleft : Replays left)
    {pieces : List Text} {g : G} {handle : Option H} {batch : List T} (h : left pieces g handle batch)
    (budget : Nat) : flow g handle batch budget = .replay pieces budget := by
  induction budget generalizing pieces g handle batch with
  | zero => rw [flow, replay_zero]
  | succ budget ih =>
    rw [flow]
    cases pieces with
    | nil =>
      obtain ⟨g', handle', hturn⟩ := hleft.spoken h
      rw [hturn, replay_nil]
    | cons piece rest =>
      obtain ⟨g', h', token, hturn, hrest⟩ := hleft.speaks h
      rw [hturn, replay_cons]
      dsimp only
      rw [ih hrest]

theorem exists_reply_replay (pieces : List Text) (budget : Nat) (s : StopScanner) :
    ∃ r, ((Flow.replay pieces budget).hear s).reply = .ok r ∧
      r.tokens = ((Flow.replay pieces budget).hear s).tokens ∧
      r.text = ((Flow.replay pieces budget).hear s).scanner.text := by
  rw [Flow.hear]
  cases s.stop? (Flow.replay pieces budget).chunks with
  | some i => exact ⟨_, rfl, rfl, rfl⟩
  | none => exact ⟨_, rfl, rfl, rfl⟩

theorem tokens_hear_replay_pos_iff (pieces : List Text) (budget : Nat) (s : StopScanner) :
    0 < ((Flow.replay pieces budget).hear s).tokens ↔ 0 < budget := by
  cases budget with
  | zero => simp [replay_zero, Flow.hear, StopScanner.stop?]
  | succ budget =>
    rw [Flow.hear]
    cases s.stop? (Flow.replay pieces (budget + 1)).chunks with
    | some i => simp
    | none =>
      dsimp only
      -- a first piece, or the token that ends an empty list of them
      cases pieces with
      | nil => simp [replay_nil]
      | cons piece rest =>
        rw [replay_cons, List.length_cons]
        omega

end GroundedDialogue.TokenLoop

namespace GroundedDialogue.ScriptedGenerator

open TokenLoop

/-- A script without faults that goes on with these pieces once the batch is decoded. -/
structure Left (pieces : List Text) (g : ScriptedGenerator) (handle : Option Unit) (batch : List Token) :
    Prop where
  failDecodeAt : g.failDecodeAt = none
  sampleFault : g.sampleFault = none
  pieces : (g.advance batch handle.isSome).pieces.drop (g.advance batch handle.isSome).position = pieces

variable {pieces : List Text} {g : ScriptedGenerator} {handle : Option Unit} {batch : List Token}

theorem Left.turn_eq (h : Left pieces g handle batch) :
    turn g handle batch =
      match (g.advance batch handle.isSome).pieces[(g.advance batch handle.isSome).position]? with
      | some piece =>
        .speaks { g with cursor := some { g.advance batch handle.isSome with
          position := (g.advance batch handle.isSome).position + 1 } } () (.words piece) piece
      | none => .ends { g with cursor := some (g.advance batch handle.isSome) } (some ()) 1 (.ok .endOfSequence) := by
  have hdecode : TextGenerator.decode g batch handle
      = (.ok (), { g with cursor := some (g.advance batch handle.isSome) }) := by
    show decode g batch handle = _
    rw [decode, h.failDecodeAt]
    rfl
  have hsample : ∀ c, TextGenerator.sample { g with cursor := some c } ()
      = sample.next { g with cursor := some c } c := by
    intro c
    show sample _ () = _
    rw [sample]
    dsimp only
    rw [h.sampleFault]
  rw [turn, hdecode]
  dsimp only
  rw [hsample, sample.next]
  cases (g.advance batch handle.isSome).pieces[(g.advance batch handle.isSome).position]? with
  | none => rfl
  | some piece => rfl

theorem replays : Replays Left where
  spoken {g handle batch} h := by
    have hnone := List.getElem?_eq_none (List.drop_eq_nil_iff.mp h.pieces)
    rw [h.turn_eq, hnone]
    exact ⟨_, _, rfl⟩
  speaks {piece rest g handle batch} h := by
    have hfirst := congrArg List.head? h.pieces
    rw [List.head?_drop, List.head?_cons] at hfirst
    rw [h.turn_eq, hfirst]
    refine ⟨_, _, _, rfl, h.failDecodeAt, h.sampleFault, ?_⟩
    -- decoding the token notes it and does not move the position
    show (g.advance batch handle.isSome).pieces.drop ((g.advance batch handle.isSome).position + 1) = rest
    rw [← List.tail_drop, h.pieces, List.tail_cons]

theorem flowFor_eq_replay (hdecode : g.failDecodeAt = none) (hsample : g.sampleFault = none)
    (htokenize : g.tokenizeFault = none) (prompt : Text) (requested ceiling : Int) :
    flowFor g prompt requested ceiling
      = .ok (.replay (g.replyTo prompt) (Budget.clamp requested ceiling).toNat) := by
  have htokens : TextGenerator.tokenize g prompt
      = (.ok [.words prompt], { g with prompts := g.prompts ++ [prompt] }) := by
    show tokenize g prompt = _
    rw [tokenize, htokenize]
  have hstart : Left (g.replyTo prompt) { g with prompts := g.prompts ++ [prompt] } none [.words prompt] := by
    refine ⟨hdecode, hsample, ?_⟩
    have hprompt : ([Token.words prompt].map Token.text).flatten = prompt := List.append_nil prompt
    show replyTo { g with prompts := g.prompts ++ [prompt] } ([Token.words prompt].map Token.text).flatten = _
    rw [hprompt]
    rfl
  rw [flowFor, htokens]
  exact congrArg Except.ok (flow_of_replays replays hstart _)

end GroundedDialogue.ScriptedGenerator
