import GroundedDialogue.Proofs.Answer
import GroundedDialogue.Proofs.Generation.Memoryless
import GroundedDialogue.Proofs.Generation.Replay
import GroundedDialogue.Proofs.Prompt

/-!
# Answers without a model

The offline generator finds the best of the retrieved texts again in the prompt and says its first line,
piece by piece. No piece ends within a marker, since no marker but the line feed holds white space; so the
pieces are cut as the text that they make up would be. What is shown is the line itself, unless the budget
is short or something in the line is cut or cleaned away (`answer_offline`).
-/

namespace GroundedDialogue

theorem StopMarker.beginsOutside_defaults {t : Text} (hspace : t.BeginsWithSpace) (hline : Rune.newline ∉ t) :
    BeginsOutside defaults t := by
  have hmarkers : (defaults.all fun marker => marker.all fun r => !r.isWhiteSpace || r = Rune.newline) = true :=
    rfl
  intro r hr marker hmarker hmem
  have hnewline := List.all_eq_true.mp (List.all_eq_true.mp hmarkers marker hmarker) r hmem
  rw [hspace r hr, Bool.not_true, Bool.false_or, decide_eq_true_eq] at hnewline
  rw [hnewline] at hr
  exact hline (List.mem_of_mem_head? hr)

namespace Reply

theorem isPadding_eq_false {r : Rune} (h : r.isWhiteSpace = false) : isPadding r = false := by
  rw [Bool.eq_false_iff]
  intro hpadding
  simp only [isPadding, Bool.or_eq_true, decide_eq_true_eq] at hpadding
  rcases hpadding with ((rfl | rfl) | rfl) | rfl <;> revert h <;> decide

theorem clean_cons_of_isPadding {r : Rune} (hr : isPadding r = true) (t : Text) (speaker : Option Text) :
    clean (r :: t) speaker = clean t speaker := by
  have htrim : Text.trimStart isPadding (r :: t) = Text.trimStart isPadding t := List.dropWhile_cons_of_pos hr
  rw [clean, clean, withoutLabels_eq, withoutLabels_eq, htrim]

theorem clean_getD (t : Text) (speaker : Option Text) : clean t speaker = clean t (some (speaker.getD [])) := by
  cases speaker <;> rfl

theorem clean_spoken {t : Text} {speaker : Option Text}
    (hmarkers : ¬StopMarker.Contains StopMarker.defaults (Snippet.line t))
    (hstrips : ¬Strips (speaker.getD []) (Snippet.line t)) :
    clean (Snippet.spoken t) speaker = Snippet.line t := by
  obtain ⟨hbegin, hend⟩ := Snippet.line_flush t
  have htags : cutTags ⊆ StopMarker.defaults := by decide
  rw [Snippet.spoken, clean_cons_of_isPadding (by decide), clean_getD, clean_eq_self_iff (Snippet.line_ne_nil t)]
  refine ⟨fun r hr => isPadding_eq_false (hbegin r hr), ?_, ?_, hstrips⟩
  · refine List.rdropWhile_eq_self_iff.mpr fun hne => ?_
    rw [isPadding_eq_false (hend _ (List.getLast?_eq_some_getLast hne))]
    exact Bool.false_ne_true
  · rintro ⟨tag, htag, hne, hinfix⟩
    exact hmarkers ⟨tag, htags htag, hne, hinfix⟩

end Reply

namespace ScriptedGenerator

variable {g : ScriptedGenerator}

theorem flowFor_offline (hg : g.script = offline) (prompt : Text) (requested ceiling : Int) :
    TokenLoop.flowFor g prompt requested ceiling
      = .ok (.replay (Snippet.reply prompt).pieces (Budget.clamp requested ceiling).toNat) := by
  have hdecode : g.failDecodeAt = none := congrArg failDecodeAt hg
  have hsample : g.sampleFault = none := congrArg sampleFault hg
  have htokenize : g.tokenizeFault = none := congrArg tokenizeFault hg
  have hresponder : g.responder = some Snippet.reply := congrArg responder hg
  rw [flowFor_eq_replay hdecode hsample htokenize, replyTo, hresponder]

theorem exists_reply_spoken (t : Text) (budget : Nat) :
    ∃ r, ((TokenLoop.Flow.replay (Snippet.spoken t).pieces budget).hear
        (StopScanner.ofMarkers StopMarker.defaults true)).reply = .ok r ∧
      r.text = StopMarker.cut StopMarker.defaults ((Snippet.spoken t).pieces.take budget).flatten := by
  have hline := Snippet.newline_not_mem_spoken t
  obtain ⟨r, hr, -, htext⟩ := TokenLoop.exists_reply_replay (Snippet.spoken t).pieces budget
    (StopScanner.ofMarkers StopMarker.defaults true)
  refine ⟨r, hr, ?_⟩
  rw [htext]
  refine (TokenLoop.text_hear _ _ rfl ?_).trans (List.nil_append _)
  intro piece hpiece
  have hmem := List.mem_of_mem_take hpiece
  have hspace := Text.beginsWithSpace_of_mem_pieces hline (Snippet.beginsWithSpace_spoken t) piece hmem
  refine StopMarker.beginsOutside_defaults hspace fun hnewline => hline ?_
  rw [← Snippet.flatten_pieces_spoken]
  exact List.mem_flatten_of_mem hmem hnewline

end ScriptedGenerator

namespace Request

section

variable [Platform] {E : Type} [EmbeddingProvider E] {q : Request E} {hit : Hit} {hits : List Hit}

theorem answer_of_reply {G T H : Type} [TextGenerator G T H] {g : G} (h : q.Reaches hits)
    (hcleans : q.pipeline.cleanReplies = true) {r : Generation} (hresult : (q.outcome g hits).result = .ok r) :
    ∃ a, (q.answer g).result = .ok a ∧ a.generation = some r ∧
      (a.usedFallback = true ↔ Reply.clean r.text q.speaker = []) ∧
      a.text = if Reply.clean r.text q.speaker = [] then q.fallback.getD q.pipeline.fallback
        else Reply.clean r.text q.speaker := by
  have hanswer := (answer_of_retrieves h.1 g).1.trans (answerFrom_of_overlaps h.2 g).2
  have hdisplay : q.pipeline.display r.text q.speaker = Reply.clean r.text q.speaker := by
    rw [Pipeline.display, if_pos hcleans]
  rw [hresult] at hanswer
  dsimp only at hanswer
  rw [hdisplay] at hanswer
  by_cases htext : r.text = []
  · have hcleaned : Reply.clean r.text q.speaker = [] := by
      rw [htext]
      exact List.infix_nil.mp (Reply.clean_isInfix [] q.speaker)
    rw [if_pos htext] at hanswer
    refine ⟨_, hanswer, rfl, ?_⟩
    simp [hcleaned, degraded, Answer.usedFallback]
  · rw [if_neg htext] at hanswer
    by_cases hcleaned : Reply.clean r.text q.speaker = []
    · rw [if_pos hcleaned] at hanswer
      refine ⟨_, hanswer, rfl, ?_⟩
      simp [hcleaned, degraded, Answer.usedFallback]
    · rw [if_neg hcleaned] at hanswer
      refine ⟨_, hanswer, rfl, ?_⟩
      simp [hcleaned, Answer.usedFallback]

/-- **Without a model, the first line of the best text is the answer**, as far as the budget goes, up to
the first marker in it, and cleaned like every reply. -/
theorem answer_offline {g : ScriptedGenerator} (hg : g.script = ScriptedGenerator.offline)
    (h : q.Retrieves (hit :: hits))
    (hscans : q.pipeline.scanStops = true) (hcleans : q.pipeline.cleanReplies = true)
    (hoverlap : q.pipeline.requireOverlap = false) (hsystem : ¬Snippet.label <:+: q.pipeline.systemPrompt)
    (hspeaker : ∀ name ∈ q.speaker, ¬Snippet.label <:+: name)
    (hquestion : q.pipeline.entry.style = .instruction → ¬Snippet.label <:+: q.question) :
    let pieces := (Snippet.spoken hit.text).pieces
    let budget := Budget.clamp q.pipeline.predict q.pipeline.ceiling
    ∃ a r, (q.answer g).result = .ok a ∧ a.generation = some r ∧
      r.text = StopMarker.cut StopMarker.defaults (pieces.take budget.toNat).flatten ∧
      (a.usedFallback = true ↔ Reply.clean r.text q.speaker = []) ∧
      a.text = (if Reply.clean r.text q.speaker = [] then q.fallback.getD q.pipeline.fallback
        else Reply.clean r.text q.speaker) ∧
      (pieces.length ≤ budget → ¬StopMarker.Contains StopMarker.defaults (Snippet.line hit.text) →
        ¬Reply.Strips (q.speaker.getD []) (Snippet.line hit.text) →
        a.text = Snippet.line hit.text ∧ a.usedFallback = false) := by
  dsimp only
  obtain ⟨r, hreply, htext⟩ := ScriptedGenerator.exists_reply_spoken hit.text
    (Budget.clamp q.pipeline.predict q.pipeline.ceiling).toNat
  have hprompt : Snippet.reply (q.prompt (hit :: hits)) = Snippet.spoken hit.text := by
    rw [prompt, Pipeline.prompt]
    refine Snippet.reply_build hsystem ?_ hquestion hit.text (hits.map Hit.text)
    split_ifs
    · exact hspeaker
    · simp
  have hresult : (q.outcome g (hit :: hits)).result = .ok r := by
    rw [outcome, TokenLoop.generate_result, ScriptedGenerator.flowFor_offline hg, hprompt, hscans]
    exact hreply
  have hoverlaps : q.Overlaps (hit :: hits) := by
    intro hrequired
    rw [hoverlap] at hrequired
    contradiction
  obtain ⟨a, ha, hgeneration, hfallback, hshown⟩ := answer_of_reply ⟨h, hoverlaps⟩ hcleans hresult
  refine ⟨a, r, ha, hgeneration, htext, hfallback, hshown, fun hbudget hmarkers hstrips => ?_⟩
  -- the whole line is said, no marker cuts it, and cleaning leaves it alone
  have hnone := StopMarker.not_contains_cons (StopMarker.beginsOutside_defaults
    (Snippet.beginsWithSpace_spoken hit.text) (Snippet.newline_not_mem_spoken hit.text)) hmarkers
  have hall : r.text = Snippet.spoken hit.text := by
    rw [htext, List.take_of_length_le (by omega), Snippet.flatten_pieces_spoken]
    exact StopMarker.cut_eq_self_of_not_contains hnone
  have hcleaned : Reply.clean r.text q.speaker = Snippet.line hit.text := by
    rw [hall]
    exact Reply.clean_spoken hmarkers hstrips
  have hne := Snippet.line_ne_nil hit.text
  rw [hcleaned, if_neg hne] at hshown
  rw [hcleaned] at hfallback
  exact ⟨hshown, Bool.eq_false_iff.mpr fun hused => hne (hfallback.mp hused)⟩

end

/-- A question about a text of two lines, asked of somebody whose name is in the second one. -/
def aboutGate : Request Embedder where
  pipeline := { (aboutRuins 1).pipeline with systemPrompt := "Be brief." }
  embedder := some Embedder.keywordCount
  question := "Is the gate open?"
  store := (aboutRuins 1).store.map fun s =>
    { s with documents := [⟨[.ofInt 1, .zero, .zero, .zero], " The gate is shut.\nAsk Bromm."⟩] }
  speaker := some "Bromm"
  fallback := none

theorem answer_offline_gate :
    ∃ a, (aboutGate.answer ScriptedGenerator.offline).result = .ok a ∧ a.text = "The gate is shut." ∧
      a.usedFallback = false := by
  have hhits : aboutGate.Retrieves [⟨0, .zero, " The gate is shut.\nAsk Bromm."⟩] :=
    ⟨_, _, rfl, rfl, by decide +kernel⟩
  obtain ⟨a, r, ha, -, -, -, -, hline⟩ := answer_offline (g := ScriptedGenerator.offline) rfl hhits rfl rfl
    rfl (by decide) (by decide) (by decide)
  have hmarkers :
      ¬StopMarker.Contains StopMarker.defaults (Snippet.line " The gate is shut.\nAsk Bromm.") := by
    rw [← StopMarker.earliest_lt_length_iff]
    decide
  have hstrips : ¬Reply.Strips "Bromm" (Snippet.line " The gate is shut.\nAsk Bromm.") := by
    rw [Reply.not_strips_iff]
    refine ⟨?_, by decide, by decide, by decide⟩
    rintro r ⟨⟩
    decide
  exact ⟨a, ha, hline (by decide) hmarkers hstrips⟩

end Request

end GroundedDialogue
