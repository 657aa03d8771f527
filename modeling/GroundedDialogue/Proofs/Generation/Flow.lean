import GroundedDialogue.Generation.TokenLoop
import GroundedDialogue.Proofs.Generation.Scanner

/-!
# What a generator says when nothing stops it

The scanner never touches the generator: all that it does is to end the loop. So a run of the loop is
two things put together. The flow of a generator is what it says token by token within its budget, and
how that ends (`TokenLoop.flow`); hearing a flow is what a scanner makes of it (`Flow.hear`). The reply
is what is heard of the flow (`generate_result`), and nothing else about the generator matters for it.

`run_succ` is the one place that opens the loop: a turn either ends the reply or says a chunk.
-/

namespace GroundedDialogue.TokenLoop

variable {G T H : Type} [TextGenerator G T H]

/-- What one turn of the loop comes to. -/
inductive Turn (G T H : Type) where
  /-- The reply ends, with so many tokens more. -/
  | ends (g : G) (handle : Option H) (silent : Nat) (cause : Except Fault StopReason)
  | speaks (g : G) (handle : H) (token : T) (chunk : Text)

/-- Decodes a batch and samples the next token. -/
def turn (g : G) (handle : Option H) (batch : List T) : Turn G T H :=
  match TextGenerator.decode g batch handle with
  | (.error f, g) => .ends g handle 0 (.error f)
  | (.ok h, g) =>
    match TextGenerator.sample g h with
    | (.error f, g) => .ends g (some h) 0 (.error f)
    | (.ok token, g) =>
      if TextGenerator.isEnd g token then .ends g (some h) 1 (.ok .endOfSequence)
      else match TextGenerator.tokenText g token with
        | .error f => .ends g (some h) 1 (.error f)
        | .ok chunk => .speaks g h token chunk

/-- What is said in some turns. -/
structure Flow where
  chunks : List Text
  /-- The tokens after the last chunk: at most one, which says nothing. -/
  silent : Nat
  cause : Except Fault StopReason

/-- What a generator says in at most so many turns. -/
def flow (g : G) (handle : Option H) (batch : List T) : (budget : Nat) → Flow
  | 0 => ⟨[], 0, .ok .maxTokens⟩
  | budget + 1 =>
    match turn g handle batch with
    | .ends _ _ silent cause => ⟨[], silent, cause⟩
    | .speaks g h token chunk =>
      let rest := flow g (some h) [token] budget
      { rest with chunks := chunk :: rest.chunks }

/-- What a scanner has made of a flow. -/
structure Hearing where
  tokens : Nat
  scanner : StopScanner
  cause : Except Fault StopReason

/-- Hears a flow up to the first chunk that ends the reply. -/
def Flow.hear (w : Flow) (s : StopScanner) : Hearing :=
  match s.stop? w.chunks with
  | some i => ⟨i + 1, s.after (w.chunks.take (i + 1)), .ok .stopMarker⟩
  | none => ⟨w.chunks.length + w.silent, s.after w.chunks, w.cause⟩

/-- The reply that a hearing comes to. -/
def Hearing.reply (x : Hearing) : Except Fault Generation :=
  Ending.generation (G := Unit) (H := Unit) ⟨(), none, x.tokens, x.scanner, x.cause⟩

/-- What a generator says in answer to a prompt. -/
def flowFor (g : G) (prompt : Text) (requested ceiling : Int) : Except Fault Flow :=
  match TextGenerator.tokenize g prompt with
  | (.error f, _) => .error f
  | (.ok batch, g) => .ok (flow g none batch (Budget.clamp requested ceiling).toNat)

/-! ## The loop -/

theorem run_succ (g : G) (handle : Option H) (batch : List T) (sampled : Nat) (scanner : StopScanner)
    (budget : Nat) :
    run g handle batch sampled scanner (budget + 1) =
      match turn g handle batch with
      | .ends g handle silent cause => ⟨g, handle, sampled + silent, scanner, cause⟩
      | .speaks g h token chunk =>
        if (scanner.feed chunk).1.stops then
          ⟨g, some h, sampled + 1, (scanner.feed chunk).2, .ok .stopMarker⟩
        else run g (some h) [token] (sampled + 1) (scanner.feed chunk).2 budget := by
  rw [run, turn]
  rcases TextGenerator.decode g batch handle with ⟨f | h, g⟩
  · rfl
  · dsimp only
    rcases TextGenerator.sample g h with ⟨f | token, g⟩
    · rfl
    · dsimp only
      split_ifs
      · rfl
      · cases TextGenerator.tokenText g token with
        | error f => rfl
        | ok chunk => rfl

/-- The generator that a turn leaves behind, with the handle of its sequence, is of this kind. -/
def Turn.Leaves (P : G → Option H → Prop) : Turn G T H → Prop
  | .ends g handle _ _ => P g handle
  | .speaks g h _ _ => P g (some h)

theorem run_succ_leaves {P : G → Option H → Prop} {g : G} {handle : Option H} {batch : List T}
    {scanner : StopScanner} {sampled budget : Nat} (hfirst : (turn g handle batch).Leaves P)
    (hrest : ∀ g' h (token : T) sampled scanner, P g' (some h) →
      P (run g' (some h) [token] sampled scanner budget).generator
        (run g' (some h) [token] sampled scanner budget).handle) :
    P (run g handle batch sampled scanner (budget + 1)).generator
      (run g handle batch sampled scanner (budget + 1)).handle := by
  rw [run_succ]
  cases hnext : turn g handle batch with
  | ends g' handle' silent cause =>
    rw [hnext] at hfirst
    exact hfirst
  | speaks g' h token chunk =>
    rw [hnext] at hfirst
    dsimp only
    split_ifs
    · exact hfirst
    · exact hrest g' h token _ _ hfirst

theorem run_leaves {P : G → Option H → Prop}
    (hturn : ∀ g h (batch : List T), P g (some h) → (turn g (some h) batch).Leaves P) {g : G}
    {handle : Option H} {batch : List T} (hfirst : (turn g handle batch).Leaves P) (sampled : Nat)
    (scanner : StopScanner) (budget : Nat) :
    P (run g handle batch sampled scanner (budget + 1)).generator
      (run g handle batch sampled scanner (budget + 1)).handle := by
  induction budget generalizing g handle batch sampled scanner with
  | zero => exact run_succ_leaves hfirst fun _ _ _ _ _ hleft => hleft
  | succ budget ih =>
    exact run_succ_leaves hfirst fun g' h token sampled scanner hleft =>
      ih (hturn g' h [token] hleft) sampled scanner

theorem hear_cons (w : Flow) (chunk : Text) (s : StopScanner) :
    { w with chunks := chunk :: w.chunks : Flow }.hear s =
      if (s.feed chunk).1.stops then ⟨1, (s.feed chunk).2, .ok .stopMarker⟩
      else { w.hear (s.feed chunk).2 with tokens := (w.hear (s.feed chunk).2).tokens + 1 } := by
  rw [Flow.hear, StopScanner.stop?_cons]
  split_ifs with hstops
  · rfl
  · rw [Flow.hear]
    cases (s.feed chunk).2.stop? w.chunks with
    | some i => rfl
    | none =>
      simp only [Option.map_none, StopScanner.after_cons, List.length_cons, Hearing.mk.injEq, and_true]
      omega

theorem scanner_hear (w : Flow) (s : StopScanner) :
    (w.hear s).scanner = s.after (w.chunks.take (w.hear s).tokens) := by
  rw [Flow.hear]
  cases s.stop? w.chunks with
  | some i => rfl
  | none =>
    dsimp only
    rw [List.take_of_length_le (Nat.le_add_right _ _)]

/-- Chunks that no marker crosses into are heard as the text that they make up. -/
theorem text_hear {chunks : List Text} (silent : Nat) (cause : Except Fault StopReason) {s : StopScanner}
    (hs : s.scanning = true) (h : ∀ chunk ∈ chunks, StopMarker.BeginsOutside s.markers chunk) :
    ((Flow.mk chunks silent cause).hear s).scanner.text
      = s.text ++ StopMarker.cut s.markers chunks.flatten := by
  induction chunks generalizing s with
  | nil =>
    rw [List.flatten_nil, StopMarker.cut_nil, List.append_nil]
    rfl
  | cons chunk chunks ih =>
    obtain ⟨hchunk, hchunks⟩ := List.forall_mem_cons.mp h
    have hrest := StopMarker.BeginsOutside.flatten hchunks
    rw [hear_cons ⟨chunks, silent, cause⟩ chunk s, List.flatten_cons]
    split_ifs with hstops
    · obtain ⟨-, hcontains, -⟩ := (s.stops_feed_iff chunk).mp hstops
      rw [StopMarker.cut_append_of_contains hrest hcontains, StopScanner.feed_snd, StopScanner.part, if_pos hs]
    · have hnone : ¬StopMarker.Contains s.markers chunk := fun hcontains =>
        hstops ((s.stops_feed_iff chunk).mpr ⟨hs, hcontains, StopScanner.not_drops hchunk⟩)
      have hfeed : (s.feed chunk).2 = { s with text := s.text ++ chunk } := by
        rw [StopScanner.feed_snd, StopScanner.part, if_pos hs, StopMarker.cut_eq_self_of_not_contains hnone]
      have hlater := @ih { s with text := s.text ++ chunk } hs hchunks
      rw [hfeed, StopMarker.cut_append_of_not_contains hrest hnone, ← List.append_assoc]
      exact hlater

/-- A run of the loop hears the flow of the generator. -/
theorem run_hear (g : G) (handle : Option H) (batch : List T) (sampled : Nat) (scanner : StopScanner)
    (budget : Nat) :
    (run g handle batch sampled scanner budget).sampled
        = sampled + ((flow g handle batch budget).hear scanner).tokens ∧
      (run g handle batch sampled scanner budget).scanner
        = ((flow g handle batch budget).hear scanner).scanner ∧
      (run g handle batch sampled scanner budget).cause
        = ((flow g handle batch budget).hear scanner).cause := by
  -- the scanner is generalized as well: the rest of the flow is heard by what this chunk made of it
  induction budget generalizing g handle batch sampled scanner with
  | zero => exact ⟨rfl, rfl, rfl⟩
  | succ budget ih =>
    rw [run_succ, flow]
    cases turn g handle batch with
    | ends g handle silent cause => exact ⟨by simp [Flow.hear, StopScanner.stop?], rfl, rfl⟩
    | speaks g h token chunk =>
      dsimp only
      rw [hear_cons]
      split_ifs
      · exact ⟨rfl, rfl, rfl⟩
      · obtain ⟨hsampled, hscanner, hcause⟩ := ih g (some h) [token] (sampled + 1) (scanner.feed chunk).2
        refine ⟨?_, hscanner, hcause⟩
        rw [hsampled]
        dsimp only
        omega

theorem generate_result (g : G) (prompt : Text) (requested ceiling : Int) (scanner : StopScanner) :
    (generate g prompt requested ceiling scanner).result =
      (flowFor g prompt requested ceiling).bind fun w => (w.hear scanner.reset).reply := by
  rw [generate, flowFor]
  rcases TextGenerator.tokenize g prompt with ⟨f | batch, g⟩
  · rfl
  · obtain ⟨hsampled, hscanner, hcause⟩ :=
      run_hear g none batch 0 scanner.reset (Budget.clamp requested ceiling).toNat
    dsimp only [Except.bind]
    have hreply : (run g none batch 0 scanner.reset (Budget.clamp requested ceiling).toNat).generation
        = ((flow g none batch (Budget.clamp requested ceiling).toNat).hear scanner.reset).reply := by
      rw [Hearing.reply, Ending.generation, Ending.generation, hsampled, hscanner, hcause, Nat.zero_add]
    rw [hreply]
    cases ((flow g none batch (Budget.clamp requested ceiling).toNat).hear scanner.reset).reply with
    | error f => rfl
    | ok r => rfl

theorem generation_eq_ok {e : Ending G H} {r : Generation} (h : e.generation = .ok r) :
    r.text = e.scanner.text ∧ r.tokens = e.sampled := by
  rw [Ending.generation] at h
  split at h
  · cases h
    exact ⟨rfl, rfl⟩
  · split at h
    · cases h
      exact ⟨rfl, rfl⟩
    · cases h
      exact ⟨rfl, rfl⟩
    · cases h

theorem text_of_generate {g : G} {prompt : Text} {requested ceiling : Int} {scanner : StopScanner}
    {r : Generation} (h : (generate g prompt requested ceiling scanner).result = .ok r) :
    ∃ w, flowFor g prompt requested ceiling = .ok w ∧
      r.text = ((w.chunks.take r.tokens).map scanner.part).flatten := by
  rw [generate_result] at h
  cases hflow : flowFor g prompt requested ceiling with
  | error f =>
    rw [hflow] at h
    cases h
  | ok w =>
    rw [hflow] at h
    obtain ⟨htext, htokens⟩ := generation_eq_ok h
    refine ⟨w, rfl, ?_⟩
    rw [htext, htokens, scanner_hear, StopScanner.after_eq]
    rfl

end GroundedDialogue.TokenLoop
