import GroundedDialogue.Generation.Streamed
import GroundedDialogue.Proofs.Generation.Replay

/-!
# Streams replay their pieces

A stream ends in one of three ways (`StreamedGenerator.Says`): it has no chunk left, or a chunk without
text says that it is done, or the last chunk with text says so itself. None of them can be told from the
others by the reply, nor from a script with the same pieces (`streamed_like_scripted`): the chunk that
says too early that it is done has its text taken first, and the end is made up by the sample after it.

A reply with a budget takes one request, and leaves its stream closed.
-/

namespace GroundedDialogue

namespace StreamedGenerator

open TokenLoop

/-- A stream of chunks says these pieces and then ends. -/
inductive Says : List Text → List (Except Fault Chunk) → Prop where
  | ends : Says [] []
  | done {c : Chunk} (hdone : c.done = true) (hempty : c.response.getD [] = []) : Says [] [.ok c]
  | last {piece : Text} (hpiece : piece ≠ []) : Says [piece] [.ok ⟨some piece, true⟩]
  | piece {c : Chunk} {piece : Text} {pieces : List Text} {chunks : List (Except Fault Chunk)}
    (hdone : c.done = false) (hpiece : c.response.getD [] = piece) (hrest : Says pieces chunks) :
    Says (piece :: pieces) (.ok c :: chunks)

/-- A generator that is about to decode a batch has these pieces left to stream. -/
inductive Left (pieces : List Text) (g : StreamedGenerator) : Option Unit → List Token → Prop where
  | start {batch : List Token} (hrequest : g.requestFault = none) (hpieces : Says pieces g.chunks) :
    Left pieces g none batch
  | underway {batch : List Token} {chunks : List (Except Fault Chunk)} {started : Bool}
    (hstream : g.stream = some ⟨chunks, started, false⟩) (hpieces : Says pieces chunks) :
    Left pieces g (some ()) batch

variable {pieces : List Text} {g : StreamedGenerator} {handle : Option Unit} {batch : List Token}

/-! ## The pieces -/

theorem Left.decode (h : Left pieces g handle batch) :
    ∃ g' chunks started, TextGenerator.decode g batch handle = (.ok (), g') ∧
      g'.stream = some ⟨chunks, started, false⟩ ∧ Says pieces chunks := by
  cases h with
  | start hrequest hpieces =>
    have hcall : TextGenerator.decode g batch none = StreamedGenerator.decode g batch none := rfl
    rw [hcall, StreamedGenerator.decode]
    dsimp only
    rw [hrequest]
    exact ⟨_, g.chunks, false, rfl, rfl, hpieces⟩
  | underway hstream hpieces => exact ⟨g, _, _, rfl, hstream, hpieces⟩

theorem turn_of_sample {g' g'' : StreamedGenerator} {c : Chunk}
    (hdecode : TextGenerator.decode g batch handle = (.ok (), g'))
    (hsample : sample g' () = (.ok (.chunk c), g'')) :
    turn g handle batch =
      if c.done && c.response.getD [] = [] then .ends g'' (some ()) 1 (.ok .endOfSequence)
      else .speaks g'' () (.chunk c) (c.response.getD []) := by
  have hcall : TextGenerator.sample g' () = (.ok (.chunk c), g'') := hsample
  rw [turn, hdecode]
  dsimp only
  rw [hcall]
  rfl

theorem sample_cons {c : Chunk} {rest : List (Except Fault Chunk)} {started : Bool}
    (h : g.stream = some ⟨.ok c :: rest, started, false⟩) :
    sample g () = (.ok (.chunk c), { g with stream := some ⟨rest, true, false⟩ }) := by
  rw [sample, h]
  rfl

theorem sample_nil {started : Bool} (h : g.stream = some ⟨[], started, false⟩) :
    ∃ g', sample g () = (.ok (.chunk ⟨some [], true⟩), g') := by
  rw [sample, h]
  exact ⟨_, rfl⟩

theorem replays : Replays Left where
  spoken {g handle batch} h := by
    obtain ⟨g', chunks, started, hdecode, hstream, hpieces⟩ := h.decode
    cases hpieces with
    | ends =>
      obtain ⟨g'', hsample⟩ := sample_nil hstream
      exact ⟨g'', _, turn_of_sample hdecode hsample⟩
    | done hdone hempty =>
      rw [turn_of_sample hdecode (sample_cons hstream), hdone, hempty]
      exact ⟨_, _, rfl⟩
  speaks {piece rest g handle batch} h := by
    obtain ⟨g', chunks, started, hdecode, hstream, hpieces⟩ := h.decode
    cases hpieces with
    | last hpiece =>
      -- the text is taken first; the stream has nothing after it
      have hnot : ¬(true && ((some piece).getD [] = [] : Bool)) = true := by simpa using hpiece
      rw [turn_of_sample hdecode (sample_cons hstream), if_neg hnot]
      exact ⟨_, _, _, rfl, .underway rfl .ends⟩
    | piece hdone hpiece hrest =>
      rw [turn_of_sample hdecode (sample_cons hstream), hdone, hpiece]
      exact ⟨_, _, _, rfl, .underway rfl hrest⟩

theorem flowFor_eq_replay (hrequest : g.requestFault = none) (hpieces : Says pieces g.chunks) (prompt : Text)
    (requested ceiling : Int) :
    flowFor g prompt requested ceiling = .ok (.replay pieces (Budget.clamp requested ceiling).toNat) :=
  congrArg Except.ok (flow_of_replays replays (.start hrequest hpieces) _)

/-! ## The request and the stream -/

/-- A stream is open, or was, and with its end so many streams will have been closed. -/
def Opened (closed : Nat) (g : StreamedGenerator) : Prop :=
  ∃ s, g.stream = some s ∧ (s.finished = true → s.started = true) ∧
    g.streamsClosed + (if s.finished then 0 else 1) = closed

/-- The first chunk of the stream was asked for. -/
def Started (g : StreamedGenerator) : Prop := ∃ s, g.stream = some s ∧ s.started = true

theorem sample_requests (g : StreamedGenerator) : (sample g ()).2.requests = g.requests := by
  rw [sample]
  cases hstream : g.stream with
  | none => rfl
  | some s =>
    dsimp only
    split_ifs
    · rfl
    · cases s.rest with
      | nil => rfl
      | cons answer rest => cases answer <;> rfl

theorem sample_opened {closed : Nat} (h : g.Opened closed) :
    (sample g ()).2.Opened closed ∧ (sample g ()).2.Started := by
  obtain ⟨s, hstream, hstarted, hclosed⟩ := h
  rw [sample, hstream]
  dsimp only
  split_ifs with hfinished
  · exact ⟨⟨s, hstream, hstarted, hclosed⟩, s, hstream, hstarted hfinished⟩
  · rw [if_neg hfinished] at hclosed
    cases s.rest with
    | nil =>
      refine ⟨⟨_, rfl, fun _ => rfl, ?_⟩, _, rfl, rfl⟩
      simpa [endStream, hfinished] using hclosed
    | cons answer rest =>
      cases answer with
      | error f =>
        refine ⟨⟨_, rfl, fun _ => rfl, ?_⟩, _, rfl, rfl⟩
        simpa [endStream, hfinished] using hclosed
      | ok c => exact ⟨⟨_, rfl, fun _ => rfl, hclosed⟩, _, rfl, rfl⟩

theorem endStream_opened {closed : Nat} (h : g.Opened closed) (hstarted : g.Started) :
    g.endStream.streamsClosed = closed ∧
      ∃ s, g.endStream.stream = some s ∧ s.started = true ∧ s.finished = true := by
  obtain ⟨s, hstream, -, hclosed⟩ := h
  obtain ⟨s', hstream', hstarted⟩ := hstarted
  obtain rfl : s = s' := Option.some.inj (hstream.symm.trans hstream')
  rw [endStream, hstream]
  refine ⟨?_, _, rfl, hstarted, rfl⟩
  dsimp only
  rw [← hclosed, hstarted]
  cases s.finished <;> rfl

/-- What a reply has come to after a turn: a request was sent and its stream was started. -/
structure Underway (requests : List StreamRequest) (closed : Nat) (g : StreamedGenerator)
    (handle : Option Unit) : Prop where
  handle : handle = some ()
  requests : g.requests = requests
  opened : g.Opened closed
  started : g.Started

theorem turn_underway {g' : StreamedGenerator} {closed : Nat}
    (hdecode : TextGenerator.decode g batch handle = (.ok (), g')) (hopened : g'.Opened closed) :
    (turn g handle batch).Leaves (Underway g'.requests closed) := by
  obtain ⟨hopened, hstarted⟩ := sample_opened hopened
  have hleft : Underway g'.requests closed (sample g' ()).2 (some ()) :=
    ⟨rfl, sample_requests g', hopened, hstarted⟩
  have hcall : TextGenerator.sample g' () = sample g' () := rfl
  rw [turn, hdecode]
  dsimp only
  rw [hcall]
  rcases hsample : sample g' () with ⟨f | token, g''⟩ <;> rw [hsample] at hleft
  · exact hleft
  · dsimp only
    split_ifs
    · exact hleft
    · exact hleft

theorem decode_start (hrequest : g.requestFault = none) (prompt : Text) :
    ∃ g', TextGenerator.decode g [.words prompt] none = (.ok (), g') ∧
      g'.Opened (g.endStream.streamsClosed + 1) ∧
      g'.requests = g.requests ++ [⟨g.entry.model, prompt, g.entry.options⟩] := by
  have hprompt : ([Token.words prompt].map Token.text).flatten = prompt := List.append_nil prompt
  have hcall : TextGenerator.decode g [.words prompt] none = decode g [.words prompt] none := rfl
  rw [hcall, decode, hprompt]
  dsimp only
  rw [hrequest]
  refine ⟨_, rfl, ⟨_, rfl, nofun, ?_⟩, ?_⟩
  · rw [dropStream, endStream, endStream]
    cases g.stream <;> rfl
  · rw [dropStream, endStream]
    cases g.stream <;> rfl

theorem generator_generate_of_pos (hrequest : g.requestFault = none) (prompt : Text)
    {requested ceiling : Int} (hbudget : 0 < Budget.clamp requested ceiling) (scanner : StopScanner) :
    (generate g prompt requested ceiling scanner).generator.requests
        = g.requests ++ [⟨g.entry.model, prompt, g.entry.options⟩] ∧
      (generate g prompt requested ceiling scanner).generator.streamsClosed = g.endStream.streamsClosed + 1 ∧
      ∃ s, (generate g prompt requested ceiling scanner).generator.stream = some s ∧ s.started = true ∧
        s.finished = true := by
  obtain ⟨budget, hbudget⟩ : ∃ n, (Budget.clamp requested ceiling).toNat = n + 1 :=
    ⟨(Budget.clamp requested ceiling).toNat - 1, by omega⟩
  obtain ⟨g', hdecode, hopened, hrequests⟩ := decode_start hrequest prompt
  have hlater : ∀ g₁ h (batch : List Token), Underway g'.requests (g.endStream.streamsClosed + 1) g₁ (some h) →
      (turn g₁ (some h) batch).Leaves (Underway g'.requests (g.endStream.streamsClosed + 1)) := by
    intro g₁ h batch hleft
    have hdecode : TextGenerator.decode g₁ batch (some h) = (.ok (), g₁) := rfl
    rw [← hleft.requests]
    exact turn_underway hdecode hleft.opened
  have hleft := run_leaves hlater (turn_underway hdecode hopened) 0 scanner.reset budget
  rw [← hbudget] at hleft
  have hrelease : (generate g prompt requested ceiling scanner).generator
      = (run g none [.words prompt] 0 scanner.reset (Budget.clamp requested ceiling).toNat).release := by
    have htokens : TextGenerator.tokenize g prompt = (.ok [.words prompt], g) := rfl
    rw [generate, htokens]
    dsimp only
    split <;> rfl
  rw [hrelease, Ending.release, hleft.handle]
  show (endStream _).requests = _ ∧ _
  obtain ⟨hclosed, hstream⟩ := endStream_opened hleft.opened hleft.started
  refine ⟨?_, hclosed, hstream⟩
  rw [endStream, ← hrequests, ← hleft.requests]
  split <;> rfl

theorem generator_generate_of_not_pos (g : StreamedGenerator) (prompt : Text) {requested ceiling : Int}
    (hbudget : ¬0 < Budget.clamp requested ceiling) (scanner : StopScanner) :
    (generate g prompt requested ceiling scanner).generator = g := by
  have htokens : TextGenerator.tokenize g prompt = (.ok [.words prompt], g) := rfl
  have hnone : (Budget.clamp requested ceiling).toNat = 0 := by omega
  rw [generate, htokens]
  dsimp only
  rw [hnone]
  rfl

/-- **A stream and a script with the same pieces give the same reply.** A reply with a budget takes one
request and leaves the stream of its answer closed; without a budget nothing is asked of the server. -/
theorem streamed_like_scripted (hrequest : g.requestFault = none) (hpieces : Says pieces g.chunks)
    (prompt : Text) (requested ceiling : Int) (scanner : StopScanner) :
    ∃ r, (generate g prompt requested ceiling scanner).result = .ok r ∧
      (generate (ScriptedGenerator.ofPieces pieces) prompt requested ceiling scanner).result = .ok r ∧
      (0 < r.tokens ↔ 0 < Budget.clamp requested ceiling) ∧
      if 0 < Budget.clamp requested ceiling then
        (generate g prompt requested ceiling scanner).generator.requests
            = g.requests ++ [⟨g.entry.model, prompt, g.entry.options⟩] ∧
          (generate g prompt requested ceiling scanner).generator.streamsClosed
            = g.endStream.streamsClosed + 1 ∧
          ∃ s, (generate g prompt requested ceiling scanner).generator.stream = some s ∧
            s.started = true ∧ s.finished = true
      else (generate g prompt requested ceiling scanner).generator = g := by
  have hscripted : flowFor (ScriptedGenerator.ofPieces pieces) prompt requested ceiling
      = .ok (.replay pieces (Budget.clamp requested ceiling).toNat) :=
    ScriptedGenerator.flowFor_eq_replay rfl rfl rfl prompt requested ceiling
  obtain ⟨r, hreply, htokens, -⟩ :=
    exists_reply_replay pieces (Budget.clamp requested ceiling).toNat scanner.reset
  refine ⟨r, ?_, ?_, ?_, ?_⟩
  · rw [generate_result, flowFor_eq_replay hrequest hpieces]
    exact hreply
  · rw [generate_result, hscripted]
    exact hreply
  · rw [htokens, tokens_hear_replay_pos_iff]
    omega
  · split_ifs with hbudget
    · exact generator_generate_of_pos hrequest prompt hbudget scanner
    · exact generator_generate_of_not_pos g prompt hbudget scanner

/-- A stream with a chunk that has no text, and with an end that is said together with the last text. -/
def northward : StreamedGenerator :=
  ofEntry (.ofTag "qwen3" "qwen3:latest") none none
    [.ok ⟨some " north", false⟩, .ok ⟨none, false⟩, .ok ⟨some " east", true⟩] (.ok [])

theorem northward_like_scripted :
    northward.requestFault = none ∧ Says [" north", [], " east"] northward.chunks ∧
      (generate northward "p" 8 64 ⟨StopMarker.defaults, true, []⟩).result
        = .ok ⟨" north east", 4, .endOfSequence, none⟩ ∧
      (generate northward "p" 8 64 ⟨StopMarker.defaults, true, []⟩).generator.streamsClosed = 1 := by
  have hpieces : Says [" north", [], " east"] northward.chunks :=
    .piece rfl rfl (.piece rfl rfl (.last (by decide)))
  obtain ⟨r, hstreamed, hscripted, -, -, hclosed, -⟩ :=
    streamed_like_scripted (g := northward) rfl hpieces "p" 8 64 ⟨StopMarker.defaults, true, []⟩
  have hreply : (generate (ScriptedGenerator.ofPieces [" north", [], " east"]) "p" 8 64
      ⟨StopMarker.defaults, true, []⟩).result = .ok ⟨" north east", 4, .endOfSequence, none⟩ := by rfl
  rw [hreply] at hscripted
  rw [← hscripted] at hstreamed
  exact ⟨rfl, hpieces, hstreamed, hclosed⟩

end StreamedGenerator

end GroundedDialogue
