import GroundedDialogue.Dialogue.Session
import GroundedDialogue.Proofs.Answer
import GroundedDialogue.Proofs.Reply.Cleanup
import GroundedDialogue.Proofs.Text.Truncate

/-!
# What comes of a text

A text that is handed to a character ends in one of three ways (`Session.submit_cases`): the source of
answers has a fault, the turn cannot be written, or there is a reply and one turn more. In none of them
does anything change about the other characters (`Session.session_submit`).
-/

namespace GroundedDialogue.Dialogue

/-! ## Turns -/

theorem Turn.ofTexts_eq_ok_iff {prompt response : Text} {turn : Turn} :
    Turn.ofTexts prompt response = .ok turn ↔
      Text.truncate promptLimit prompt = .ok turn.prompt ∧
        Text.truncate responseLimit response = .ok turn.response := by
  rw [Turn.ofTexts]
  cases hprompt : Text.truncate promptLimit prompt with
  | error e => simp [bind, Except.bind]
  | ok p =>
    cases hresponse : Text.truncate responseLimit response with
    | error e => simp [bind, Except.bind]
    | ok r =>
      constructor
      · intro h
        cases h
        exact ⟨rfl, rfl⟩
      · rintro ⟨hp, hr⟩
        cases hp
        cases hr
        rfl

theorem Turn.exists_ofTexts_iff {prompt response : Text} :
    (∃ turn, Turn.ofTexts prompt response = .ok turn) ↔
      prompt.isEncodable = true ∧ response.isEncodable = true := by
  rw [← Text.exists_truncate_iff promptLimit, ← Text.exists_truncate_iff responseLimit]
  constructor
  · rintro ⟨turn, hturn⟩
    obtain ⟨hprompt, hresponse⟩ := Turn.ofTexts_eq_ok_iff.mp hturn
    exact ⟨⟨_, hprompt⟩, ⟨_, hresponse⟩⟩
  · rintro ⟨⟨p, hprompt⟩, ⟨r, hresponse⟩⟩
    exact ⟨⟨p, r⟩, Turn.ofTexts_eq_ok_iff.mpr ⟨hprompt, hresponse⟩⟩

theorem Turn.exists_error_iff {prompt response : Text} :
    (∃ e, Turn.ofTexts prompt response = .error e) ↔
      prompt.isEncodable = false ∨ response.isEncodable = false := by
  have hiff := @Turn.exists_ofTexts_iff prompt response
  cases hturn : Turn.ofTexts prompt response with
  | error e =>
    rw [hturn] at hiff
    have hnot : ¬(prompt.isEncodable = true ∧ response.isEncodable = true) := by
      intro h
      obtain ⟨turn, hcontra⟩ := hiff.mpr h
      cases hcontra
    rw [not_and_or, Bool.not_eq_true, Bool.not_eq_true] at hnot
    exact iff_of_true ⟨e, rfl⟩ hnot
  | ok turn =>
    rw [hturn] at hiff
    have hboth := hiff.mp ⟨turn, rfl⟩
    simp [hboth]

theorem History.append_eq (h : History) (prompt response : Text) :
    h.append prompt response = (Turn.ofTexts prompt response).map fun turn => (turn, h.push turn) := by
  rw [History.append]
  cases Turn.ofTexts prompt response with
  | error e => rfl
  | ok turn => rfl

namespace Session

variable {G T H E : Type} [TextGenerator G T H] [EmbeddingProvider E]

/-! ## Replies -/

theorem cannedReply_ne_nil (profile : Profile) : cannedReply profile ≠ [] := by
  rw [cannedReply]
  cases profile.reply with
  | nil => decide
  | cons r t => exact List.cons_ne_nil r t

theorem shown_eq (profile : Profile) (answer canned : Text) :
    shown profile answer canned =
      if Reply.clean answer (some profile.name) = [] then canned
      else Reply.clean answer (some profile.name) := by
  rw [shown]
  cases Reply.clean answer (some profile.name) with
  | nil => rfl
  | cons r t => rfl

def reply (profile : Profile) (answer : Text) : Text := shown profile answer (cannedReply profile)

theorem reply_ne_nil (profile : Profile) (answer : Text) : reply profile answer ≠ [] := by
  rw [reply, shown_eq]
  split_ifs with h
  · exact cannedReply_ne_nil profile
  · exact h

variable [Platform]

/-- The source's answer to a text for the character at a position. -/
def answerOf (s : Session G E) (profile : Profile) (i : Nat) (text : Text) : Except Fault Text :=
  (s.ask profile (s.stores[i]?.join) text (cannedReply profile)).1

def asked (s : Session G E) (profile : Profile) (i : Nat) (text : Text) : Session G E :=
  (s.ask profile (s.stores[i]?.join) text (cannedReply profile)).2.1

def request (s : Session G E) (p : Pipeline) (profile : Profile) (i : Nat) (text : Text) : Request E where
  pipeline := p
  embedder := s.embedder
  question := text
  store := s.stores[i]?.join
  speaker := some profile.name
  fallback := some (cannedReply profile)

variable {s : Session G E} {p : Pipeline} {g : G} {profile : Profile} {history : History} {i : Nat}
  {text : Text}

theorem answerOf_pipeline (hsource : s.source = .pipeline p g) :
    s.answerOf profile i text = ((s.request p profile i text).answer g).result.map Answer.text := by
  rw [answerOf, ask, hsource]
  rfl

theorem asked_pipeline (hsource : s.source = .pipeline p g) :
    s.asked profile i text = { s with
      source := .pipeline p ((s.request p profile i text).answer g).generator
      embedder := ((s.request p profile i text).answer g).embedder } := by
  rw [asked, ask, hsource]
  rfl

theorem asked_characters (s : Session G E) (profile : Profile) (i : Nat) (text : Text) :
    (s.asked profile i text).profiles = s.profiles ∧ (s.asked profile i text).stores = s.stores ∧
      (s.asked profile i text).histories = s.histories := by
  rw [asked, ask]
  cases s.source with
  | pipeline p g => exact ⟨rfl, rfl, rfl⟩
  | fixed text => exact ⟨rfl, rfl, rfl⟩

/-! ## The three ways -/

/-- The character at a position, with what is remembered of it. -/
structure Has (s : Session G E) (i : Nat) (profile : Profile) (history : History) : Prop where
  profile : s.profiles[i]? = some profile
  history : s.histories[i]? = some history

theorem submit_nil (s : Session G E) (index : Int) : s.submit index [] = ⟨.ok none, s, []⟩ := if_pos rfl

theorem submit_cases (h : s.Has i profile history) (htext : text ≠ []) :
    (∃ f, s.answerOf profile i text = .error f ∧ (s.submit i text).result = .error (.fault f) ∧
        (s.submit i text).session = s.asked profile i text) ∨
      (∃ answer e, s.answerOf profile i text = .ok answer ∧
        Turn.ofTexts text (reply profile answer) = .error e ∧
        (s.submit i text).result = .error (.unencodable e) ∧
        (s.submit i text).session = s.asked profile i text) ∨
      ∃ answer turn, s.answerOf profile i text = .ok answer ∧
        Turn.ofTexts text (reply profile answer) = .ok turn ∧
        (s.submit i text).result = .ok (some (reply profile answer)) ∧
        (s.submit i text).session =
          { s.asked profile i text with histories := s.histories.set i (history.push turn) } := by
  have hhistories := (asked_characters s profile i text).2.2
  rw [asked] at hhistories
  rw [submit, answerOf, asked, if_neg htext, if_neg (by omega), Int.toNat_natCast, h.profile, h.history]
  dsimp only
  rcases hcall : s.ask profile (s.stores[i]?.join) text (cannedReply profile) with ⟨f | answer, s', log⟩ <;>
    rw [hcall] at hhistories
  · exact Or.inl ⟨f, rfl, rfl, rfl⟩
  · dsimp only at hhistories ⊢
    rw [← reply, History.append_eq]
    cases hturn : Turn.ofTexts text (reply profile answer) with
    | error e => exact Or.inr (Or.inl ⟨answer, e, rfl, hturn, rfl, rfl⟩)
    | ok turn =>
      rw [← hhistories]
      exact Or.inr (Or.inr ⟨answer, turn, rfl, hturn, rfl, rfl⟩)

/-- Whatever comes of a text, nothing has changed but the source, the embedder and the history of the
character that was meant. -/
theorem session_submit (s : Session G E) (index : Int) (text : Text) :
    (s.submit index text).session = s ∨ 0 ≤ index ∧ ∃ profile histories,
      (s.submit index text).session = { s.asked profile index.toNat text with histories := histories } ∧
        (histories = s.histories ∨ ∃ history, histories = s.histories.set index.toNat history) := by
  rw [submit]
  split_ifs with htext hindex
  · exact Or.inl rfl
  · exact Or.inl rfl
  · cases s.profiles[index.toNat]? with
    | none => exact Or.inl rfl
    | some profile =>
      cases s.histories[index.toNat]? with
      | none => exact Or.inl rfl
      | some history =>
        refine Or.inr ⟨by omega, profile, ?_⟩
        have hhistories := (asked_characters s profile index.toNat text).2.2
        rw [asked] at hhistories ⊢
        dsimp only
        rcases hcall : s.ask profile (s.stores[index.toNat]?.join) text (cannedReply profile) with
          ⟨f | answer, s', log⟩ <;> rw [hcall] at hhistories
        · exact ⟨_, rfl, Or.inl hhistories⟩
        · dsimp only at hhistories ⊢
          cases history.append text (shown profile answer (cannedReply profile)) with
          | error e => exact ⟨_, rfl, Or.inl hhistories⟩
          | ok appended => exact ⟨_, rfl, Or.inr ⟨appended.2, by rw [hhistories]⟩⟩

end Session

end GroundedDialogue.Dialogue
