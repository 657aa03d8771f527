import GroundedDialogue.Proofs.Dialogue.Opening

/-!
# Who gets an answer

In a session whose generator fails gently, a text is lost in three ways only (`Session.Lost`): more
documents are asked for than there is memory for slots, or the text or the reply to it cannot be written
as bytes. Any other text is answered, and the character remembers one turn more
(`Session.submit_answers`). The last two losses come after the reply was made, when the turn is cut for
the history (`Session.submit_surrogate`).

A generated answer is cleaned a second time on its way to the player, which changes it if the first
cleaning has laid bare another label (`Session.submit_generated`, `Session.submit_relabelled`).
-/

namespace GroundedDialogue.Dialogue

theorem History.turns_push {h : History} (hlimit : 0 < h.limit) (turn : Turn) :
    ∃ kept, (h.push turn).turns = kept ++ [turn] ∧ kept <:+ h.turns := by
  have hdrop : h.turns.length + 1 - h.limit ≤ h.turns.length := by omega
  refine ⟨h.turns.drop (h.turns.length + 1 - h.limit), ?_, List.drop_suffix _ _⟩
  rw [History.push]
  dsimp only
  rw [List.length_append, List.length_singleton, List.drop_append_of_le_length hdrop]

namespace Session

variable {G T H E : Type} [TextGenerator G T H] [EmbeddingProvider E] {good : G → Prop}
  {s : Session G E} {p : Pipeline} {g : G} {profile : Profile} {history : History} {i : Nat} {text : Text}

/-! ## Sessions that serve -/

section

variable [Platform]

/-- Every character can be talked to and remembers at least one turn, and the generator is good. -/
structure Serves (good : G → Prop) (s : Session G E) : Prop where
  histories : s.histories.length = s.profiles.length
  room : ∀ h ∈ s.histories, 0 < h.limit
  source : ∃ p g, s.source = .pipeline p g ∧ good g

omit [EmbeddingProvider E] in
theorem serves_start {embedder : Option E} {profiles : List Profile} {base : Option Disk.Path}
    {sizes : StoreSizes} {limit : Int} {t : Disk.Tree} (hg : good g)
    (h : (start (.pipeline p g) embedder profiles base sizes limit t).1 = .ok s) : s.Serves good := by
  obtain ⟨hlimit, -, rfl⟩ := start_eq_ok_iff.mp h
  refine ⟨by simp, ?_, p, g, rfl, hg⟩
  intro history hhistory
  obtain ⟨profile, hprofile, rfl⟩ := List.mem_map.mp hhistory
  have hroom := (hlimit (List.ne_nil_of_mem hprofile)).1
  dsimp only
  omega

omit [EmbeddingProvider E] [TextGenerator G T H] [Platform] in
theorem Serves.exists_has (hs : s.Serves good) (hi : i < s.profiles.length) :
    ∃ profile history, s.Has i profile history ∧ 0 < history.limit := by
  have hhistory : i < s.histories.length := by rw [hs.histories]; exact hi
  exact ⟨s.profiles[i], s.histories[i], ⟨List.getElem?_eq_getElem hi, List.getElem?_eq_getElem hhistory⟩,
    hs.room _ (List.getElem_mem hhistory)⟩

theorem Serves.asked (hgood : FailsGently good) (hs : s.Serves good) (profile : Profile) (i : Nat)
    (text : Text) : (s.asked profile i text).Serves good := by
  obtain ⟨hprofiles, -, hhistories⟩ := asked_characters s profile i text
  obtain ⟨p, g, hsource, hg⟩ := hs.source
  refine ⟨?_, ?_, ?_⟩
  · rw [hhistories, hprofiles]
    exact hs.histories
  · rw [hhistories]
    exact hs.room
  · rw [asked_pipeline hsource]
    exact ⟨p, _, rfl, Request.good_answer hgood hg _⟩

omit [EmbeddingProvider E] [TextGenerator G T H] [Platform] in
theorem Serves.set (hs : s.Serves good) (h : 0 < history.limit) (i : Nat) :
    { s with histories := s.histories.set i history : Session G E }.Serves good := by
  refine ⟨?_, ?_, hs.source⟩
  · dsimp only
    rw [List.length_set]
    exact hs.histories
  · intro h' hh'
    rcases List.mem_or_eq_of_mem_set hh' with hmem | rfl
    · exact hs.room h' hmem
    · exact h

/-! ## Lost texts -/

/-- Why a text gets no reply. -/
inductive Lost (q : Request E) (g : G) (profile : Profile) : Prop
  | overfull (h : q.Overfull) : Lost q g profile
  | prompt (h : q.question.isEncodable = false) : Lost q g profile
  | reply {a : Answer} (ha : (q.answer g).result = .ok a) (h : (reply profile a.text).isEncodable = false) :
    Lost q g profile

theorem lost_iff (hgood : FailsGently good) (hg : good g) (hsource : s.source = .pipeline p g) :
    Lost (s.request p profile i text) g profile ↔
      (∃ f, s.answerOf profile i text = .error f) ∨
        ∃ answer e, s.answerOf profile i text = .ok answer ∧
          Turn.ofTexts text (reply profile answer) = .error e := by
  rw [answerOf_pipeline hsource]
  constructor
  · intro h
    by_cases hfull : (s.request p profile i text).Overfull
    · obtain ⟨f, hf⟩ := Request.exists_of_overfull hfull g
      rw [hf]
      exact Or.inl ⟨f, rfl⟩
    · obtain ⟨a, ha⟩ := Request.exists_answer hgood hg hfull
      have hnot : text.isEncodable = false ∨ (reply profile a.text).isEncodable = false := by
        rcases h with h | h | ⟨ha', h⟩
        · exact absurd h hfull
        · exact Or.inl h
        · rw [ha] at ha'
          cases ha'
          exact Or.inr h
      obtain ⟨e, he⟩ := Turn.exists_error_iff.mpr hnot
      rw [ha]
      exact Or.inr ⟨a.text, e, rfl, he⟩
  · rintro (⟨f, hf⟩ | ⟨answer, e, hanswer, hturn⟩)
    · refine .overfull (by_contra fun hfull => ?_)
      obtain ⟨a, ha⟩ := Request.exists_answer hgood hg hfull
      rw [ha] at hf
      cases hf
    · cases ha : ((s.request p profile i text).answer g).result with
      | error f =>
        rw [ha] at hanswer
        cases hanswer
      | ok a =>
        rw [ha] at hanswer
        cases hanswer
        rcases Turn.exists_error_iff.mp ⟨e, hturn⟩ with h | h
        · exact .prompt h
        · exact .reply ha h

/-- **Every text is answered and remembered that is not lost.** -/
theorem submit_answers (hgood : FailsGently good) (hs : s.Serves good) (hi : i < s.profiles.length)
    (htext : text ≠ []) :
    ∃ p g profile history, s.source = .pipeline p g ∧ s.Has i profile history ∧
      ((∃ e, (s.submit i text).result = .error e) ↔ Lost (s.request p profile i text) g profile) ∧
      (∀ e, (s.submit i text).result = .error e → (s.submit i text).session.histories = s.histories) ∧
      (∀ r, (s.submit i text).result = .ok r → ∃ words turn kept, r = some words ∧ words ≠ [] ∧
        Turn.ofTexts text words = .ok turn ∧
        (s.submit i text).session.histories = s.histories.set i (history.push turn) ∧
        (history.push turn).turns = kept ++ [turn] ∧ kept <:+ history.turns) ∧
      (s.submit i text).session.Serves good := by
  obtain ⟨profile, history, hhas, hroom⟩ := hs.exists_has hi
  obtain ⟨p, g, hsource, hg⟩ := hs.source
  have hasked := hs.asked hgood profile i text
  have hhistories := (asked_characters s profile i text).2.2
  refine ⟨p, g, profile, history, hsource, hhas, ?_⟩
  rw [lost_iff hgood hg hsource]
  rcases submit_cases hhas htext with ⟨f, hanswer, hresult, hsession⟩ |
    ⟨answer, e, hanswer, hturn, hresult, hsession⟩ | ⟨answer, turn, hanswer, hturn, hresult, hsession⟩
  · rw [hresult, hsession]
    exact ⟨iff_of_true ⟨_, rfl⟩ (Or.inl ⟨f, hanswer⟩), fun _ _ => hhistories, nofun, hasked⟩
  · rw [hresult, hsession]
    exact ⟨iff_of_true ⟨_, rfl⟩ (Or.inr ⟨answer, e, hanswer, hturn⟩), fun _ _ => hhistories, nofun, hasked⟩
  · obtain ⟨kept, hkept, hsuffix⟩ := History.turns_push hroom turn
    have hpushed : 0 < (history.push turn).limit := hroom
    have hserves := hasked.set hpushed i
    rw [hhistories] at hserves
    rw [hresult, hsession, hanswer]
    refine ⟨iff_of_false nofun ?_, nofun, ?_, hserves⟩
    · rintro (⟨f, hf⟩ | ⟨answer', e, hanswer', he⟩)
      · cases hf
      · cases hanswer'
        rw [hturn] at he
        cases he
    · intro r hr
      cases hr
      exact ⟨_, turn, kept, rfl, reply_ne_nil profile answer, hturn, rfl, hkept, hsuffix⟩

end

def usual : Pipeline := .ofEntry (.ofTag "qwen3" "qwen3:latest") 64

def greeter : Profile := ⟨"Bromm", "Bromm: Hello.", "a.vdb"⟩

def single (store : Option Store) (pieces : List Text) : Session ScriptedGenerator Embedder where
  source := .pipeline usual (.ofPieces pieces)
  embedder := some .keywordCount
  profiles := [greeter]
  baseDirectory := none
  sizes := ⟨4, 4⟩
  stores := [store]
  histories := [⟨16, []⟩]

theorem serves_single (store : Option Store) (pieces : List Text) :
    (single store pieces).Serves ScriptedGenerator.Gentle :=
  ⟨rfl, by simp [single], _, _, rfl, nofun, nofun⟩

theorem submit_answers_greeting :
    ((single none ["ok"]).submit 0 "hi").result = .ok (some "Hello.") ∧
      ((single none ["ok"]).submit 0 "hi").session.histories = [⟨16, [⟨"hi", "Hello."⟩]⟩] := by
  have hi : 0 < (single none ["ok"]).profiles.length := by decide
  have htext : Text.ofString "hi" ≠ [] := by decide
  obtain ⟨p, g, profile, history, -, hhas, -, -, hturn, -⟩ :=
    submit_answers ScriptedGenerator.failsGently (serves_single none ["ok"]) hi htext
  have hresult : ((single none ["ok"]).submit 0 "hi").result = .ok (some "Hello.") := rfl
  obtain ⟨words, turn, kept, hwords, -, htexts, hhistories, -⟩ := hturn _ hresult
  cases hwords
  cases hhas.history
  have hpair : turn = ⟨"hi", "Hello."⟩ := by
    have hcut : Turn.ofTexts "hi" "Hello." = .ok ⟨"hi", "Hello."⟩ := rfl
    rw [htexts] at hcut
    exact Except.ok.inj hcut
  refine ⟨hresult, ?_⟩
  rw [hpair] at hhistories
  exact hhistories

/-- The answer to a text with a lone surrogate is made and then lost. -/
theorem submit_surrogate :
    (single none ["ok"]).Serves ScriptedGenerator.Gentle ∧
      (single none ["ok"]).answerOf greeter 0 [0xD800] = .ok "Bromm: Hello." ∧
      ∃ e, ((single none ["ok"]).submit 0 [0xD800]).result = .error (.unencodable e) ∧
        ((single none ["ok"]).submit 0 [0xD800]).session.histories = [⟨16, []⟩] :=
  ⟨serves_single none ["ok"], rfl, _, rfl, rfl⟩

/-! ## The second cleaning -/

/-- **A generated answer is shown as it is, if it can be written, unless it begins with something that
cleaning takes off.** -/
theorem submit_generated [Platform] (hsource : s.source = .pipeline p g) (hclean : p.cleanReplies = true)
    (hhas : s.Has i profile history) (htext : text ≠ []) {a : Answer}
    (ha : ((s.request p profile i text).answer g).result = .ok a) (hgenerated : a.usedFallback = false) :
    (s.submit i text).result = .ok (some a.text) ↔
      text.isEncodable = true ∧ a.text.isEncodable = true ∧
        (¬Reply.Strips profile.name a.text ∨
          Reply.clean a.text (some profile.name) = [] ∧ a.text = cannedReply profile) := by
  have hreason : a.reason = none := by simpa [Answer.usedFallback] using hgenerated
  obtain ⟨hits, r, hgenerates, -, hshown⟩ := Request.generates_of_reason_eq_none ha hreason
  have hsome : a.text ≠ [] := hshown ▸ hgenerates.some_shown
  have hcleaned : a.text = Reply.clean r.text (some profile.name) := by
    rw [hshown, Pipeline.display]
    exact if_pos hclean
  have hanswer : s.answerOf profile i text = .ok a.text := by
    rw [answerOf_pipeline hsource, ha]
    rfl
  have hstrips : Reply.clean a.text (some profile.name) = a.text ↔ ¬Reply.Strips profile.name a.text := by
    rw [hcleaned] at hsome ⊢
    exact Reply.clean_clean_iff hsome
  have hreply : reply profile a.text = a.text ↔ ¬Reply.Strips profile.name a.text ∨
      Reply.clean a.text (some profile.name) = [] ∧ a.text = cannedReply profile := by
    rw [reply, shown_eq, ← hstrips]
    split_ifs with hnil
    · simp [hnil, hsome.symm, eq_comm]
    · simp [hnil]
  rw [← hreply]
  rcases submit_cases hhas htext with ⟨f, hfault, -⟩ | ⟨answer, e, hok, hturn, hresult, -⟩ |
    ⟨answer, turn, hok, hturn, hresult, -⟩
  · rw [hanswer] at hfault
    cases hfault
  · rw [hanswer] at hok
    cases hok
    rw [hresult]
    constructor
    · intro h
      cases h
    · rintro ⟨htextual, hwritten, hsame⟩
      rw [hsame] at hturn
      rcases Turn.exists_error_iff.mp ⟨e, hturn⟩ with h | h
      · rw [htextual] at h
        cases h
      · rw [hwritten] at h
        cases h
  · rw [hanswer] at hok
    cases hok
    rw [hresult]
    constructor
    · intro h
      have hsame : reply profile a.text = a.text := Option.some.inj (Except.ok.inj h)
      rw [hsame] at hturn
      obtain ⟨htextual, hwritten⟩ := Turn.exists_ofTexts_iff.mp ⟨turn, hturn⟩
      exact ⟨htextual, hwritten, hsame⟩
    · rintro ⟨-, -, hsame⟩
      rw [hsame]

def guide (pieces : List Text) : Session ScriptedGenerator Embedder :=
  single (Request.aboutRuins 1).store pieces

def guideAnswer (pieces : List Text) : Except Fault Answer :=
  (((guide pieces).request usual greeter 0 "ruins").answer (ScriptedGenerator.ofPieces pieces)).result

theorem submit_generated_guide :
    ∃ a, guideAnswer ["Bromm: Go ", "north."] = .ok a ∧ a.usedFallback = false ∧ a.text = "Go north." ∧
      ((guide ["Bromm: Go ", "north."]).submit 0 "ruins").result = .ok (some a.text) := by
  have hsource : (guide ["Bromm: Go ", "north."]).source
      = .pipeline usual (.ofPieces ["Bromm: Go ", "north."]) := rfl
  have hhas : (guide ["Bromm: Go ", "north."]).Has 0 greeter ⟨16, []⟩ := ⟨rfl, rfl⟩
  have htext : Text.ofString "ruins" ≠ [] := by decide
  have hquote : ∀ r ∈ (Text.ofString "Go north.").head?, Reply.isQuote r = false := by
    rintro r ⟨⟩
    rfl
  have hplain : ¬Reply.Strips "Bromm" "Go north." :=
    Reply.not_strips_iff.mpr ⟨hquote, by decide +kernel, by decide, Or.inr (by decide +kernel)⟩
  refine ⟨_, rfl, rfl, rfl, ?_⟩
  exact (submit_generated hsource rfl hhas htext rfl rfl).mpr ⟨rfl, rfl, Or.inl hplain⟩

/-- The first cleaning takes off one of two labels, and the second one the other. -/
theorem submit_relabelled :
    ∃ a, guideAnswer [" Answer:", " Answer:", " hi"] = .ok a ∧ a.usedFallback = false ∧
      a.text = "Answer: hi" ∧
      ((guide [" Answer:", " Answer:", " hi"]).submit 0 "ruins").result = .ok (some "hi") :=
  ⟨_, rfl, rfl, rfl, rfl⟩

end Session

end GroundedDialogue.Dialogue
