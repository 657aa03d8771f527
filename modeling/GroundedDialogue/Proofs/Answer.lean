import GroundedDialogue.Answer
import GroundedDialogue.Embedding.Embedder
import GroundedDialogue.Proofs.Generation.Failures
import GroundedDialogue.Proofs.Generation.Recorded
import GroundedDialogue.Proofs.Store.Adding
import GroundedDialogue.Proofs.Store.Ranking

/-!
# What becomes of a question

A question is answered by a fallback for one of the reasons in `Request.Degrades`, and by a generated
reply when there is none. The generator has no part in it before the documents are found and overlap
with the question, and then it is given the prompt once.

There is one way not to be answered at all (`answered_iff`): more documents are asked for than
there is memory for slots. That failure is not among those that retrieval gives way to, and it goes
through to the caller (`unanswered`).
-/

namespace GroundedDialogue

namespace Store

theorem exists_hits [Platform] {s : Store} {query : Embedding} (hquery : query.length = s.layout.embedSize)
    {k : Int} (h : 0 < k → Platform.holds k.toNat slotSize = true) : ∃ hits, s.hits query k = .ok hits := by
  by_cases hk : 0 < k
  · exact ⟨_, (search_of_holds hquery hk (h hk)).2⟩
  · exact ⟨[], if_pos (by omega)⟩

end Store

/-- A question that is put to a pipeline. -/
structure Request (E : Type) where
  pipeline : Pipeline
  embedder : Option E
  question : Text
  store : Option Store
  speaker : Option Text
  fallback : Option Text

namespace Request

section

variable {G T H E : Type} [TextGenerator G T H] [EmbeddingProvider E] [Platform]

def answer (q : Request E) (g : G) : Pipeline.Outcome G E :=
  q.pipeline.answer g q.embedder q.question q.store q.speaker q.fallback

def embedding (q : Request E) (s : Store) : Except EmbedError Embedding :=
  (Store.embed s.layout q.embedder q.question).1

/-- These documents are found. -/
def Retrieves (q : Request E) (hits : List Hit) : Prop :=
  ∃ s v, q.store = some s ∧ q.embedding s = .ok v ∧ s.hits v q.pipeline.topK = .ok hits

/-- The documents have a word in common with the question, if they need to. -/
def Overlaps (q : Request E) (hits : List Hit) : Prop :=
  q.pipeline.requireOverlap = true →
    Overlap.shares Overlap.leastLength Overlap.commonWords q.question (Text.join " " (hits.map Hit.text)) = true

/-- The generator is asked with these documents. -/
def Reaches (q : Request E) (hits : List Hit) : Prop := q.Retrieves hits ∧ q.Overlaps hits

def prompt (q : Request E) (hits : List Hit) : Text := q.pipeline.prompt q.question hits q.speaker

def outcome (q : Request E) (g : G) (hits : List Hit) : TokenLoop.Outcome G :=
  TokenLoop.generate g (q.prompt hits) q.pipeline.predict q.pipeline.ceiling
    (StopScanner.ofMarkers StopMarker.defaults q.pipeline.scanStops)

/-- More slots are asked for than fit into memory, and nothing before that goes wrong. -/
def Overfull (q : Request E) : Prop :=
  (∃ s v, q.store = some s ∧ q.embedding s = .ok v) ∧ 0 < q.pipeline.topK ∧
    ¬Platform.holds q.pipeline.topK.toNat Store.slotSize = true

/-- Why there is no reply to show. -/
inductive Degrades (q : Request E) (g : G) : FallbackReason → Prop
  | noStore (h : q.store = none) : Degrades q g .noStore
  | retrievalFailed {s : Store} {e : EmbedError} (hstore : q.store = some s) (h : q.embedding s = .error e) :
    Degrades q g (.retrievalFailed e.message)
  | noOverlap {hits : List Hit} (hretrieves : q.Retrieves hits) (h : ¬q.Overlaps hits) :
    Degrades q g .noOverlap
  | generationFailed {hits : List Hit} {f : Fault} (hreaches : q.Reaches hits)
    (h : (TextGenerator.tokenize g (q.prompt hits)).1 = .error f) :
    Degrades q g (.generationFailed f.message)
  | emptyGeneration {hits : List Hit} {r : Generation} (hreaches : q.Reaches hits)
    (hresult : (q.outcome g hits).result = .ok r) (h : r.text = []) : Degrades q g .emptyGeneration
  | cleanedAway {hits : List Hit} {r : Generation} (hreaches : q.Reaches hits)
    (hresult : (q.outcome g hits).result = .ok r) (hsome : r.text ≠ [])
    (hcleans : q.pipeline.cleanReplies = true) (h : Reply.clean r.text q.speaker = []) :
    Degrades q g .cleanedAway

/-- There is a reply to show. -/
structure Generates (q : Request E) (g : G) (hits : List Hit) (r : Generation) : Prop where
  reaches : q.Reaches hits
  result : (q.outcome g hits).result = .ok r
  some_text : r.text ≠ []
  some_shown : q.pipeline.display r.text q.speaker ≠ []

def degraded (q : Request E) (hits : List Hit) (prompt : Option Text) (generation : Option Generation)
    (reason : FallbackReason) : Answer :=
  ⟨q.fallback.getD q.pipeline.fallback, hits, prompt, generation, some reason⟩

/-! ## Retrieval -/

variable {q : Request E} {s : Store} {hits : List Hit}

theorem answer_of_noStore (h : q.store = none) (g : G) :
    (q.answer g).result = .ok (q.degraded [] none none .noStore) ∧ (q.answer g).generator = g := by
  rw [answer, h, Pipeline.answer]
  exact ⟨rfl, rfl⟩

/-- The documents for the question, or why there are none. -/
def found (q : Request E) (s : Store) : Except Pipeline.RetrievalError (List Hit) :=
  (q.pipeline.retrieve q.embedder s q.question).1

theorem found_of_embedError {e : EmbedError} (h : q.embedding s = .error e) :
    q.found s = .error (.embed e) := by
  rw [embedding] at h
  rw [found, Pipeline.retrieve]
  rcases hcall : Store.embed s.layout q.embedder q.question with ⟨result, embedder⟩
  rw [hcall] at h
  subst h
  rfl

theorem found_of_embedding {v : Embedding} (h : q.embedding s = .ok v) :
    q.found s = (s.hits v q.pipeline.topK).mapError .query := by
  rw [embedding] at h
  rw [found, Pipeline.retrieve]
  rcases hcall : Store.embed s.layout q.embedder q.question with ⟨result, embedder⟩
  rw [hcall] at h
  subst h
  rfl

theorem answer_of_notFound (hstore : q.store = some s) {e : Pipeline.RetrievalError}
    (h : q.found s = .error e) (g : G) :
    ((q.answer g).result = match e.fault? with
      | some f => .error f
      | none => .ok (q.degraded [] none none (.retrievalFailed e.message))) ∧
      (q.answer g).generator = g := by
  rw [found] at h
  rw [answer, hstore, Pipeline.answer]
  rcases hcall : q.pipeline.retrieve q.embedder s q.question with ⟨result, embedder⟩
  rw [hcall] at h
  subst h
  dsimp only
  cases e.fault? with
  | some f => exact ⟨rfl, rfl⟩
  | none => exact ⟨rfl, rfl⟩

def answerFrom (q : Request E) (g : G) (hits : List Hit) : Except Fault Answer × G × Log.Journal :=
  q.pipeline.answerFrom g q.question hits q.speaker (q.fallback.getD q.pipeline.fallback)

theorem answer_of_retrieves (h : q.Retrieves hits) (g : G) :
    (q.answer g).result = (q.answerFrom g hits).1 ∧ (q.answer g).generator = (q.answerFrom g hits).2.1 := by
  obtain ⟨s, v, hstore, hv, hhits⟩ := h
  have hfound := found_of_embedding hv
  rw [hhits, found] at hfound
  rw [answer, hstore, Pipeline.answer]
  rcases hcall : q.pipeline.retrieve q.embedder s q.question with ⟨result, embedder⟩
  rw [hcall] at hfound
  subst hfound
  exact ⟨rfl, rfl⟩

/-! ## Generation -/

omit [EmbeddingProvider E] [Platform] in
theorem answerFrom_of_not_overlaps (h : ¬q.Overlaps hits) (g : G) :
    (q.answerFrom g hits).1 = .ok (q.degraded hits none none .noOverlap) ∧ (q.answerFrom g hits).2.1 = g := by
  have hmissing : (q.pipeline.requireOverlap && !Overlap.shares Overlap.leastLength Overlap.commonWords
      q.question (Text.join " " (hits.map Hit.text))) = true := by
    simpa [Overlaps] using h
  rw [answerFrom, Pipeline.answerFrom, if_pos hmissing]
  exact ⟨rfl, rfl⟩

omit [EmbeddingProvider E] [Platform] in
theorem answerFrom_of_overlaps (h : q.Overlaps hits) (g : G) :
    (q.answerFrom g hits).2.1 = (q.outcome g hits).generator ∧
      (q.answerFrom g hits).1 = match (q.outcome g hits).result with
        | .error f =>
          if f.kind = .generation || f.kind = .memory then
            .ok (q.degraded hits (some (q.prompt hits)) none (.generationFailed f.message))
          else .error f
        | .ok r =>
          if r.text = [] then .ok (q.degraded hits (some (q.prompt hits)) (some r) .emptyGeneration)
          else if q.pipeline.display r.text q.speaker = [] then
            .ok (q.degraded hits (some (q.prompt hits)) (some r) .cleanedAway)
          else .ok ⟨q.pipeline.display r.text q.speaker, hits, some (q.prompt hits), some r, none⟩ := by
  have hmissing : ¬(q.pipeline.requireOverlap && !Overlap.shares Overlap.leastLength Overlap.commonWords
      q.question (Text.join " " (hits.map Hit.text))) = true := by
    simpa [Overlaps] using h
  rw [answerFrom, Pipeline.answerFrom, if_neg hmissing]
  dsimp only
  rw [← prompt, ← outcome]
  cases (q.outcome g hits).result with
  | error f => dsimp only; split_ifs <;> exact ⟨rfl, rfl⟩
  | ok r => dsimp only; split_ifs <;> exact ⟨rfl, rfl⟩

/-! ## Answers -/

variable {g : G}

theorem exists_of_overfull (h : q.Overfull) (g : G) : ∃ f, (q.answer g).result = .error f := by
  obtain ⟨⟨s, v, hstore, hv⟩, hpos, hmemory⟩ := h
  obtain ⟨f, -, hf⟩ := Store.search_of_not_holds (Store.length_of_embed (Prod.ext hv rfl)) hpos hmemory
  have hfound : q.found s = .error (.query (.slots f)) := by
    rw [found_of_embedding hv, hf]
    rfl
  exact ⟨f, (answer_of_notFound hstore hfound g).1⟩

theorem result_of_generates {r : Generation} (h : q.Generates g hits r) :
    (q.answer g).result
      = .ok ⟨q.pipeline.display r.text q.speaker, hits, some (q.prompt hits), some r, none⟩ := by
  rw [(answer_of_retrieves h.reaches.1 g).1, (answerFrom_of_overlaps h.reaches.2 g).2, h.result]
  dsimp only
  rw [if_neg h.some_text, if_neg h.some_shown]

theorem generator_of_reaches (h : q.Reaches hits) (g : G) :
    (q.answer g).generator = (q.outcome g hits).generator := by
  rw [(answer_of_retrieves h.1 g).2, (answerFrom_of_overlaps h.2 g).1]

/-- The generator has no part in what comes of a question that does not reach it. If that is an answer
at all, it is a fallback. -/
theorem answer_of_not_reaches (h : ¬∃ hits, q.Reaches hits) :
    ∃ result : Except Fault Answer, (∀ a, result = .ok a → a.reason ≠ none) ∧
      ∀ {G T H : Type} [TextGenerator G T H] (g : G),
        (q.answer g).result = result ∧ (q.answer g).generator = g := by
  have hdegraded : ∀ hits reason a, 
      (.ok (q.degraded hits none none reason) : Except Fault Answer) = .ok a → a.reason ≠ none := by
    intro hits reason a ha
    cases ha
    exact Option.some_ne_none reason
  cases hstore : q.store with
  | none => exact ⟨_, hdegraded _ _, fun g => answer_of_noStore hstore g⟩
  | some s =>
    cases hv : q.embedding s with
    | error e => exact ⟨_, hdegraded _ _, fun g => answer_of_notFound hstore (found_of_embedError hv) g⟩
    | ok v =>
      have hfound := found_of_embedding hv
      cases hhits : s.hits v q.pipeline.topK with
      | error e =>
        rw [hhits] at hfound
        refine ⟨_, ?_, fun g => answer_of_notFound hstore hfound g⟩
        intro a ha
        split at ha
        · cases ha
        · exact hdegraded _ _ a ha
      | ok hits =>
        have hretrieves : q.Retrieves hits := ⟨s, v, hstore, hv, hhits⟩
        have hoverlaps : ¬q.Overlaps hits := fun hoverlaps => h ⟨hits, hretrieves, hoverlaps⟩
        refine ⟨_, hdegraded hits .noOverlap, fun g => ?_⟩
        rw [(answer_of_retrieves hretrieves g).1, (answer_of_retrieves hretrieves g).2]
        exact answerFrom_of_not_overlaps hoverlaps g

theorem generator_of_not_reaches (h : ¬∃ hits, q.Reaches hits) (g : G) : (q.answer g).generator = g := by
  obtain ⟨result, -, hanswer⟩ := answer_of_not_reaches h
  exact (hanswer g).2

theorem generates_of_reason_eq_none {a : Answer} (ha : (q.answer g).result = .ok a) (h : a.reason = none) :
    ∃ hits r, q.Generates g hits r ∧ a.generation = some r ∧
      a.text = q.pipeline.display r.text q.speaker := by
  by_cases hreaches : ∃ hits, q.Reaches hits
  · obtain ⟨hits, hreaches⟩ := hreaches
    rw [(answer_of_retrieves hreaches.1 g).1, (answerFrom_of_overlaps hreaches.2 g).2] at ha
    cases hresult : (q.outcome g hits).result with
    | error f =>
      rw [hresult] at ha
      dsimp only at ha
      split_ifs at ha
      · cases ha
        cases h
    | ok r =>
      rw [hresult] at ha
      dsimp only at ha
      split_ifs at ha with htext hshown <;> cases ha
      · cases h
      · cases h
      · exact ⟨hits, r, ⟨hreaches, hresult, htext, hshown⟩, rfl, rfl⟩
  · obtain ⟨result, hfallback, hanswer⟩ := answer_of_not_reaches hreaches
    rw [(hanswer g).1] at ha
    exact absurd h (hfallback a ha)

/-- To record the generator changes nothing about the answer. If it is reached at all, it is first asked
to tokenize the prompt, and never again. -/
theorem answer_record (h : q.Reaches hits) (g : G) :
    (q.answer (Recorded.mk g [])).result = (q.answer g).result ∧
      ∃ rest, (q.answer (Recorded.mk g [])).generator.calls = .tokenize (q.prompt hits) :: rest ∧
        ∀ prompt, .tokenize prompt ∉ rest := by
  obtain ⟨calls, n, hrecord, hcalls, -⟩ := TokenLoop.generate_record (Recorded.mk g []) (q.prompt hits)
    q.pipeline.predict q.pipeline.ceiling (StopScanner.ofMarkers StopMarker.defaults q.pipeline.scanStops)
  rw [← outcome, ← outcome] at hrecord
  refine ⟨?_, calls, ?_, hcalls.not_tokenize⟩
  · rw [(answer_of_retrieves h.1 (Recorded.mk g [])).1, (answerFrom_of_overlaps h.2 (Recorded.mk g [])).2,
      (answer_of_retrieves h.1 g).1, (answerFrom_of_overlaps h.2 g).2, hrecord]
    rfl
  · rw [generator_of_reaches h, hrecord]
    rfl

theorem result_record (q : Request E) (g : G) : (q.answer (Recorded.mk g [])).result = (q.answer g).result := by
  by_cases h : ∃ hits, q.Reaches hits
  · obtain ⟨hits, h⟩ := h
    exact (answer_record h g).1
  · obtain ⟨result, -, hanswer⟩ := answer_of_not_reaches h
    rw [(hanswer g).1, (hanswer (Recorded.mk g [])).1]

section

variable {good : G → Prop} (hgood : FailsGently good) (hg : good g)

include hgood hg

theorem result_of_tokenizeFault
    (h : q.Reaches hits) {f : Fault} (hf : (TextGenerator.tokenize g (q.prompt hits)).1 = .error f) :
    (q.answer g).result = .ok (q.degraded hits (some (q.prompt hits)) none (.generationFailed f.message)) := by
  have hresult : (q.outcome g hits).result = .error f :=
    (TokenLoop.result_generate_eq_error hgood hg _ _ _ _ f).mpr hf
  have hkind : (f.kind = .generation || f.kind = .memory) = true := by
    simpa [Fault.EndsReply] using (hgood.tokenize _ hg).2 f hf
  rw [(answer_of_retrieves h.1 g).1, (answerFrom_of_overlaps h.2 g).2, hresult]
  exact if_pos hkind

theorem result_of_degrades
    {reason : FallbackReason} (h : q.Degrades g reason) :
    ∃ hits prompt generation, (q.answer g).result = .ok (q.degraded hits prompt generation reason) := by
  cases h with
  | noStore h => exact ⟨[], none, none, (answer_of_noStore h g).1⟩
  | retrievalFailed hstore h =>
    exact ⟨[], none, none, (answer_of_notFound hstore (found_of_embedError h) g).1⟩
  | @noOverlap hits hretrieves h =>
    rw [(answer_of_retrieves hretrieves g).1, (answerFrom_of_not_overlaps h g).1]
    exact ⟨hits, none, none, rfl⟩
  | @generationFailed hits f hreaches h =>
    exact ⟨hits, _, none, result_of_tokenizeFault hgood hg hreaches h⟩
  | @emptyGeneration hits r hreaches hresult h =>
    rw [(answer_of_retrieves hreaches.1 g).1, (answerFrom_of_overlaps hreaches.2 g).2, hresult]
    dsimp only
    rw [if_pos h]
    exact ⟨hits, _, _, rfl⟩
  | @cleanedAway hits r hreaches hresult hsome hcleans h =>
    have hshown : q.pipeline.display r.text q.speaker = [] := by rw [Pipeline.display, if_pos hcleans, h]
    rw [(answer_of_retrieves hreaches.1 g).1, (answerFrom_of_overlaps hreaches.2 g).2, hresult]
    dsimp only
    rw [if_neg hsome, if_pos hshown]
    exact ⟨hits, _, _, rfl⟩

theorem degrades_or_generates
    (h : q.Reaches hits) : (∃ reason, q.Degrades g reason) ∨ ∃ r, q.Generates g hits r := by
  cases hresult : (q.outcome g hits).result with
  | error f =>
    have htokenize := (TokenLoop.result_generate_eq_error hgood hg _ _ _ _ f).mp hresult
    exact Or.inl ⟨_, .generationFailed h htokenize⟩
  | ok r =>
    by_cases htext : r.text = []
    · exact Or.inl ⟨_, .emptyGeneration h hresult htext⟩
    · by_cases hshown : q.pipeline.display r.text q.speaker = []
      · rw [Pipeline.display] at hshown
        split_ifs at hshown with hcleans
        -- a text that is shown as it is cannot vanish
        · exact Or.inl ⟨_, .cleanedAway h hresult htext hcleans hshown⟩
        · exact absurd hshown htext
      · exact Or.inr ⟨r, h, hresult, htext, hshown⟩

theorem overfull_or_degrades_or_generates
    (q : Request E) :
    q.Overfull ∨ (∃ reason, q.Degrades g reason) ∨ ∃ hits r, q.Generates g hits r := by
  -- the stages in their order; each gives a reason or hands on to the next
  cases hstore : q.store with
  | none => exact Or.inr (Or.inl ⟨_, .noStore hstore⟩)
  | some s =>
    cases hv : q.embedding s with
    | error e => exact Or.inr (Or.inl ⟨_, .retrievalFailed hstore hv⟩)
    | ok v =>
      by_cases hroom : 0 < q.pipeline.topK → Platform.holds q.pipeline.topK.toNat Store.slotSize = true
      · obtain ⟨hits, hhits⟩ := Store.exists_hits (Store.length_of_embed (Prod.ext hv rfl)) hroom
        have hretrieves : q.Retrieves hits := ⟨s, v, hstore, hv, hhits⟩
        by_cases hoverlaps : q.Overlaps hits
        · rcases degrades_or_generates hgood hg ⟨hretrieves, hoverlaps⟩ with hdegrades | hgenerates
          · exact Or.inr (Or.inl hdegrades)
          · exact Or.inr (Or.inr ⟨hits, hgenerates⟩)
        · exact Or.inr (Or.inl ⟨_, .noOverlap hretrieves hoverlaps⟩)
      · rw [Classical.not_imp] at hroom
        exact Or.inl ⟨⟨s, v, hstore, hv⟩, hroom.1, hroom.2⟩

theorem answer_of_degrades {a : Answer}
    (ha : (q.answer g).result = .ok a) {reason : FallbackReason} (h : q.Degrades g reason) :
    a.reason = some reason ∧ a.text = q.fallback.getD q.pipeline.fallback := by
  obtain ⟨hits, prompt, generation, hresult⟩ := result_of_degrades hgood hg h
  rw [ha] at hresult
  cases hresult
  exact ⟨rfl, rfl⟩

theorem answer_cases {a : Answer} (ha : (q.answer g).result = .ok a) :
    (∃ reason, q.Degrades g reason ∧ a.reason = some reason) ∨
      ∃ hits r, q.Generates g hits r ∧
        a = ⟨q.pipeline.display r.text q.speaker, hits, some (q.prompt hits), some r, none⟩ := by
  rcases overfull_or_degrades_or_generates hgood hg q with h | ⟨reason, h⟩ | ⟨hits, r, h⟩
  · obtain ⟨f, hf⟩ := exists_of_overfull h g
    rw [ha] at hf
    contradiction
  · exact Or.inl ⟨reason, h, (answer_of_degrades hgood hg ha h).1⟩
  · refine Or.inr ⟨hits, r, h, ?_⟩
    have hresult := result_of_generates h
    rw [ha] at hresult
    exact Except.ok.inj hresult

theorem reason_iff {a : Answer} (ha : (q.answer g).result = .ok a) (reason : FallbackReason) :
    a.reason = some reason ↔ q.Degrades g reason := by
  refine ⟨fun hreason => ?_, fun h => (answer_of_degrades hgood hg ha h).1⟩
  rcases answer_cases hgood hg ha with ⟨reason', h, hreason'⟩ | ⟨hits, r, -, rfl⟩
  · rw [hreason] at hreason'
    cases hreason'
    exact h
  · contradiction

theorem usedFallback_iff {a : Answer} (ha : (q.answer g).result = .ok a) :
    a.usedFallback = true ↔ ∃ reason, q.Degrades g reason := by
  rw [Answer.usedFallback, Option.isSome_iff_exists]
  exact exists_congr (reason_iff hgood hg ha)

theorem generates_of_not_usedFallback {a : Answer} (ha : (q.answer g).result = .ok a)
    (h : ¬a.usedFallback = true) :
    ∃ hits r, q.Generates g hits r ∧ a.generation = some r ∧
      a.text = q.pipeline.display r.text q.speaker := by
  rcases answer_cases hgood hg ha with ⟨reason, -, hreason⟩ | ⟨hits, r, hgenerates, rfl⟩
  · rw [Answer.usedFallback, hreason] at h
    exact absurd rfl h
  · exact ⟨hits, r, hgenerates, rfl, rfl⟩

theorem exists_answer (h : ¬q.Overfull) : ∃ a, (q.answer g).result = .ok a := by
  rcases overfull_or_degrades_or_generates hgood hg q with hfull | ⟨reason, hdegrades⟩ | ⟨hits, r, hgenerates⟩
  · exact absurd hfull h
  · obtain ⟨hits, prompt, generation, hresult⟩ := result_of_degrades hgood hg hdegrades
    exact ⟨_, hresult⟩
  · exact ⟨_, result_of_generates hgenerates⟩

theorem prompt_of_reaches (h : q.Reaches hits) :
    ∃ a, (q.answer g).result = .ok a ∧ a.prompt = some (q.prompt hits) := by
  cases hresult : (q.outcome g hits).result with
  | error f =>
    have htokenize := (TokenLoop.result_generate_eq_error hgood hg _ _ _ _ f).mp hresult
    exact ⟨_, result_of_tokenizeFault hgood hg h htokenize, rfl⟩
  | ok r =>
    rw [(answer_of_retrieves h.1 g).1, (answerFrom_of_overlaps h.2 g).2, hresult]
    dsimp only
    split_ifs <;> exact ⟨_, rfl, rfl⟩

theorem good_answer (q : Request E) :
    good (q.answer g).generator := by
  by_cases h : ∃ hits, q.Reaches hits
  · obtain ⟨hits, h⟩ := h
    rw [generator_of_reaches h]
    exact TokenLoop.good_generate hgood hg _ _ _ _
  · rw [generator_of_not_reaches h]
    exact hg

/-- **Every question is answered that does not ask for more documents than memory has slots for.** -/
theorem answered_iff (q : Request E) :
    ((∃ f, (q.answer g).result = .error f) ↔ q.Overfull) ∧
      (∀ a, (q.answer g).result = .ok a →
        (a.usedFallback = true ↔ ∃ reason, q.Degrades g reason) ∧
          (∀ reason, a.reason = some reason ↔ q.Degrades g reason) ∧
          if a.usedFallback then a.text = q.fallback.getD q.pipeline.fallback
          else ∃ hits r, q.Reaches hits ∧ (q.outcome g hits).result = .ok r ∧ a.generation = some r ∧
            a.text ≠ [] ∧ a.text = if q.pipeline.cleanReplies then Reply.clean r.text q.speaker else r.text) ∧
      (q.answer (Recorded.mk g [])).result = (q.answer g).result ∧
      ((q.answer (Recorded.mk g [])).generator.calls ≠ [] ↔ ∃ hits, q.Reaches hits) ∧
      (∀ hits, q.Reaches hits → ∃ a rest, (q.answer g).result = .ok a ∧ a.prompt = some (q.prompt hits) ∧
        (q.answer (Recorded.mk g [])).generator.calls = .tokenize (q.prompt hits) :: rest ∧
        ∀ prompt, .tokenize prompt ∉ rest) ∧
      good (q.answer g).generator := by
  refine ⟨⟨?_, fun h => exists_of_overfull h g⟩, ?_, result_record q g, ⟨?_, ?_⟩, ?_, good_answer hgood hg q⟩
  · rintro ⟨f, hf⟩
    rcases overfull_or_degrades_or_generates hgood hg q with h | ⟨reason, h⟩ | ⟨hits, r, h⟩
    · exact h
    · obtain ⟨hits, prompt, generation, hresult⟩ := result_of_degrades hgood hg h
      rw [hf] at hresult
      contradiction
    · have hresult := result_of_generates h
      rw [hf] at hresult
      contradiction
  · intro a ha
    refine ⟨usedFallback_iff hgood hg ha, reason_iff hgood hg ha, ?_⟩
    by_cases hused : a.usedFallback = true
    · rw [if_pos hused]
      obtain ⟨reason, h⟩ := (usedFallback_iff hgood hg ha).mp hused
      exact (answer_of_degrades hgood hg ha h).2
    · rw [if_neg hused]
      obtain ⟨hits, r, h, hgeneration, htext⟩ := generates_of_not_usedFallback hgood hg ha hused
      exact ⟨hits, r, h.reaches, h.result, hgeneration, htext ▸ h.some_shown, htext⟩
  · intro hcalls
    by_contra h
    exact hcalls (congrArg Recorded.calls (generator_of_not_reaches h (Recorded.mk g [])))
  · rintro ⟨hits, h⟩ hnil
    obtain ⟨-, rest, hcalls, -⟩ := answer_record h g
    rw [hcalls] at hnil
    contradiction
  · intro hits h
    obtain ⟨a, ha, hprompt⟩ := prompt_of_reaches hgood hg h
    obtain ⟨-, rest, hcalls, hrest⟩ := answer_record h g
    exact ⟨a, rest, ha, hprompt, hcalls, hrest⟩

end

end

/-- A question for so many documents of a store with a single one. -/
def aboutRuins (topK : Int) : Request Embedder where
  pipeline := { Pipeline.ofEntry (.ofTag "qwen3" "qwen3:latest") 64 with topK := topK }
  embedder := some Embedder.keywordCount
  question := "ruins"
  store := some ⟨4, ⟨4, 64, Nat.succ_pos 3, Nat.succ_pos 63⟩,
    [⟨[.ofInt 1, .zero, .zero, .zero], "The old ruins are north."⟩]⟩
  speaker := none
  fallback := none

/-- A generator that fails after the first of its pieces. -/
def interrupted : ScriptedGenerator :=
  { ScriptedGenerator.ofPieces [" north", " east"] with failDecodeAt := some 2 }

theorem answered_interrupted :
    ∃ a, ((aboutRuins 1).answer interrupted).result = .ok a ∧ a.text = "north" ∧
      (a.generation.bind Generation.error).isSome = true ∧
      ¬∃ reason, (aboutRuins 1).Degrades interrupted reason := by
  have hgentle : interrupted.Gentle := ⟨nofun, nofun⟩
  obtain ⟨-, hanswers, -⟩ := answered_iff ScriptedGenerator.failsGently hgentle (aboutRuins 1)
  have hused : ∀ a, ((aboutRuins 1).answer interrupted).result = .ok a → a.usedFallback = false →
      ¬∃ reason, (aboutRuins 1).Degrades interrupted reason := by
    intro a ha hfalse
    rw [← (hanswers a ha).1, hfalse]
    decide
  exact ⟨_, rfl, rfl, rfl, hused _ rfl rfl⟩

/-- No answer is given if more documents are asked for than a sequence has positions. -/
theorem unanswered :
    (ScriptedGenerator.ofPieces ["ok"]).Gentle ∧
      ((aboutRuins (2 ^ 63)).answer (ScriptedGenerator.ofPieces ["ok"])).result = .error .uncountableSlots :=
  ⟨⟨nofun, nofun⟩, rfl⟩

end Request

end GroundedDialogue
