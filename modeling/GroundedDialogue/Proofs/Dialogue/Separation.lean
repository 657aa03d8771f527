import GroundedDialogue.Proofs.Dialogue.Opening
import GroundedDialogue.Proofs.Generation.Memoryless

/-!
# Characters apart

When neither the generator nor the embedder has a memory, a session with many characters is many sessions
with one character each: the part of a conversation that is with one of them goes as if nothing else had
been said (`Session.part_converse`), so it is the same in any two sessions that share the character's
profile and file (`Session.characters_apart`). What a character remembers are the last turns in which it
was answered.

The characters share one thing, the opening of the session: a file that keeps it from opening takes the
other characters along (`Session.start_overlong`).
-/

namespace GroundedDialogue

namespace Request

variable {G T H K V E : Type} [TextGenerator G T H] [EmbeddingProvider E] [Platform] {core : G → K} {view : G → V}
  {g g' : G}

theorem result_answer_congr (hmem : Memoryless core view) (h : core g = core g') (q : Request E) :
    (q.answer g).result = (q.answer g').result := by
  by_cases hreaches : ∃ hits, q.Reaches hits
  · obtain ⟨hits, hreaches⟩ := hreaches
    rw [(answer_of_retrieves hreaches.1 g).1, (answerFrom_of_overlaps hreaches.2 g).2,
      (answer_of_retrieves hreaches.1 g').1, (answerFrom_of_overlaps hreaches.2 g').2,
      outcome, outcome, TokenLoop.result_generate_congr hmem h]
  · obtain ⟨result, -, hanswer⟩ := answer_of_not_reaches hreaches
    rw [(hanswer g).1, (hanswer g').1]

theorem core_answer (hmem : Memoryless core view) (q : Request E) (g : G) :
    core (q.answer g).generator = core g := by
  by_cases hreaches : ∃ hits, q.Reaches hits
  · obtain ⟨hits, hreaches⟩ := hreaches
    rw [generator_of_reaches hreaches]
    exact TokenLoop.core_generate hmem g _ _ _ _
  · rw [generator_of_not_reaches hreaches]

theorem embedder_answer {q : Request E}
    (hsteady : ∀ e ∈ q.embedder, ∀ t, (EmbeddingProvider.embed e t).2 = e) (g : G) :
    (q.answer g).embedder = q.embedder := by
  have hembed : ∀ s : Store, (Store.embed s.layout q.embedder q.question).2 = q.embedder := by
    intro s
    cases hembedder : q.embedder with
    | none => rfl
    | some e => exact congrArg some (hsteady e hembedder q.question)
  have hretrieve : ∀ s : Store, (q.pipeline.retrieve q.embedder s q.question).2 = q.embedder := by
    intro s
    have hkept := hembed s
    rw [Pipeline.retrieve]
    rcases hcall : Store.embed s.layout q.embedder q.question with ⟨e | v, embedder⟩ <;>
      rw [hcall] at hkept <;> exact hkept
  rw [answer]
  cases q.store with
  | none => rfl
  | some s =>
    have hkept := hretrieve s
    rw [Pipeline.answer]
    rcases hcall : q.pipeline.retrieve q.embedder s q.question with ⟨e | hits, embedder⟩ <;>
      rw [hcall] at hkept
    · dsimp only
      cases e.fault? <;> exact hkept
    · exact hkept

end Request

namespace Dialogue

open Disk

/-! ## The last turns -/

namespace History

theorem rtake_append {α : Type} (n : Nat) (l l' : List α) : (l.rtake n ++ l').rtake n = (l ++ l').rtake n := by
  simp only [List.rtake_eq_reverse_take_reverse, List.reverse_append, List.reverse_reverse, List.take_append,
    List.take_take]
  congr 3
  omega

theorem push_eq (h : History) (turn : Turn) : h.push turn = { h with turns := (h.turns ++ [turn]).rtake h.limit } :=
  rfl

end History

namespace Session

variable {G T H K V E : Type} [TextGenerator G T H] [EmbeddingProvider E] {core : G → K} {view : G → V}
  {s s' : Session G E} {p : Pipeline} {g g' : G} {profile : Profile} {history : History} {i j : Nat}
  {text : Text}

/-! ## One character -/

/-- What became of a text. -/
abbrev Result := Except SubmitError (Option Text)

/-- What comes of a text for a single character, given what its source answers. -/
def exchange (answer : Text → Except Fault Text) (profile : Profile) (history : History) (text : Text) :
    Result × History :=
  if text = [] then (.ok none, history)
  else match answer text with
    | .error f => (.error (.fault f), history)
    | .ok words =>
      match Turn.ofTexts text (reply profile words) with
      | .error e => (.error (.unencodable e), history)
      | .ok turn => (.ok (some (reply profile words)), history.push turn)

def converseAlone (answer : Text → Except Fault Text) (profile : Profile) (history : History) :
    List Text → List (Text × Result) × History
  | [] => ([], history)
  | text :: rest =>
    let (result, history) := exchange answer profile history text
    let (later, history) := converseAlone answer profile history rest
    ((text, result) :: later, history)

def answered (l : List (Text × Result)) : List (Text × Text) :=
  l.filterMap fun entry => match entry.2 with
    | .ok (some words) => some (entry.1, words)
    | _ => none

/-! ## Many characters -/

/-- A conversation with the characters of a session. -/
def converse [Platform] (s : Session G E) : List (Int × Text) → List (Int × Text × Result) × Session G E
  | [] => ([], s)
  | (index, text) :: rest =>
    let exchange := s.submit index text
    let (later, s) := exchange.session.converse rest
    ((index, text, exchange.result) :: later, s)

/-- The part of a conversation that is with the character at a position. -/
def part {α : Type} (i : Nat) (l : List (Int × α)) : List α :=
  l.filterMap fun entry => if entry.1 = (i : Int) then some entry.2 else none

omit [TextGenerator G T H] [EmbeddingProvider E] in
theorem Has.set (h : s.Has i profile history) (hprofiles : s'.profiles = s.profiles) (history' : History) :
    { s' with histories := s.histories.set i history' : Session G E }.Has i profile history' := by
  have hlength := (List.getElem?_eq_some_iff.mp h.history).1
  refine ⟨?_, List.getElem?_set_self hlength⟩
  dsimp only
  rw [hprofiles]
  exact h.profile

theorem Has.asked [Platform] (h : s.Has i profile history) (profile' : Profile) (j : Nat) (text : Text) :
    (s.asked profile' j text).Has i profile history := by
  obtain ⟨hprofiles, -, hhistories⟩ := asked_characters s profile' j text
  exact ⟨by rw [hprofiles]; exact h.profile, by rw [hhistories]; exact h.history⟩

theorem part_cons_self {α : Type} (i : Nat) (x : α) (l : List (Int × α)) :
    part i (((i : Int), x) :: l) = x :: part i l := by
  simp [part]

theorem part_cons_of_ne {α : Type} {i : Nat} {index : Int} (hindex : index ≠ (i : Int)) (x : α)
    (l : List (Int × α)) : part i ((index, x) :: l) = part i l := by
  simp [part, hindex]

theorem converse_cons [Platform] (s : Session G E) (index : Int) (text : Text) (rest : List (Int × Text)) :
    (s.converse ((index, text) :: rest)).1 = (index, text, (s.submit index text).result) ::
        ((s.submit index text).session.converse rest).1 ∧
      (s.converse ((index, text) :: rest)).2 = ((s.submit index text).session.converse rest).2 :=
  ⟨rfl, rfl⟩

section

variable [Platform]

theorem submit_own (h : s.Has i profile history) (text : Text) :
    (s.submit i text).result = (exchange (s.answerOf profile i) profile history text).1 ∧
      (s.submit i text).session.Has i profile (exchange (s.answerOf profile i) profile history text).2 := by
  rw [exchange]
  by_cases htext : text = []
  · subst htext
    rw [submit_nil]
    exact ⟨rfl, h⟩
  · rw [if_neg htext]
    have hprofiles := (asked_characters s profile i text).1
    rcases submit_cases h htext with ⟨f, hanswer, hresult, hsession⟩ |
      ⟨answer, e, hanswer, hturn, hresult, hsession⟩ | ⟨answer, turn, hanswer, hturn, hresult, hsession⟩
    · rw [hresult, hsession, hanswer]
      exact ⟨rfl, h.asked profile i text⟩
    · rw [hresult, hsession, hanswer]
      dsimp only
      rw [hturn]
      exact ⟨rfl, h.asked profile i text⟩
    · rw [hresult, hsession, hanswer]
      dsimp only
      rw [hturn]
      exact ⟨rfl, h.set hprofiles _⟩

theorem submit_other (h : s.Has i profile history) {index : Int} (hindex : index ≠ (i : Int)) (text : Text) :
    (s.submit index text).session.Has i profile history := by
  rcases session_submit s index text with hsession | ⟨hnonneg, profile', histories, hsession, hhistories⟩
  · rw [hsession]
    exact h
  · have hne : index.toNat ≠ i := by omega
    have hasked := h.asked profile' index.toNat text
    rw [hsession]
    refine ⟨hasked.profile, ?_⟩
    rcases hhistories with rfl | ⟨history', rfl⟩
    · exact h.history
    · dsimp only
      rw [List.getElem?_set_ne hne]
      exact h.history

/-! ## The source stays the same -/

/-- The source of a later session answers as that of an earlier one. -/
structure Follows (core : G → K) (s s' : Session G E) : Prop where
  stores : s'.stores = s.stores
  embedder : s'.embedder = s.embedder
  source : ∃ p g g', s.source = .pipeline p g ∧ s'.source = .pipeline p g' ∧ core g' = core g

theorem answerOf_congr (hmem : Memoryless core view) (hsource : s.source = .pipeline p g)
    (hsource' : s'.source = .pipeline p g') (hcore : core g = core g') (hembedder : s.embedder = s'.embedder)
    (hstore : s.stores[i]?.join = s'.stores[j]?.join) : s.answerOf profile i = s'.answerOf profile j := by
  funext text
  have hrequest : s.request p profile i text = s'.request p profile j text := by
    rw [request, request, hembedder, hstore]
  rw [answerOf_pipeline hsource, answerOf_pipeline hsource', hrequest, Request.result_answer_congr hmem hcore]

theorem Follows.answerOf (hmem : Memoryless core view) (h : Follows core s s') :
    s'.answerOf profile i = s.answerOf profile i := by
  obtain ⟨p, g, g', hsource, hsource', hcore⟩ := h.source
  exact answerOf_congr hmem hsource' hsource hcore h.embedder (by rw [h.stores])

theorem follows_submit (hmem : Memoryless core view) (hsource : s.source = .pipeline p g)
    (hsteady : ∀ e ∈ s.embedder, ∀ t, (EmbeddingProvider.embed e t).2 = e) (index : Int) (text : Text) :
    Follows core s (s.submit index text).session := by
  rcases session_submit s index text with hsession | ⟨-, profile, histories, hsession, -⟩
  · rw [hsession]
    exact ⟨rfl, rfl, p, g, g, hsource, hsource, rfl⟩
  · rw [hsession, asked_pipeline hsource]
    exact ⟨rfl, Request.embedder_answer (q := s.request p profile index.toNat text) hsteady g, p, g, _, hsource,
      rfl, Request.core_answer hmem _ g⟩

/-! ## Conversations -/

/-- The part of a conversation that is with one character goes as if there were no other. -/
theorem part_converse (hmem : Memoryless core view) (hsource : s.source = .pipeline p g)
    (hsteady : ∀ e ∈ s.embedder, ∀ t, (EmbeddingProvider.embed e t).2 = e) (h : s.Has i profile history)
    (texts : List (Int × Text)) :
    part i (s.converse texts).1 = (converseAlone (s.answerOf profile i) profile history (part i texts)).1 ∧
      (s.converse texts).2.Has i profile
        (converseAlone (s.answerOf profile i) profile history (part i texts)).2 := by
  -- the source of the session changes with every text, but it goes on answering as it did at first
  induction texts generalizing s g history with
  | nil => exact ⟨rfl, h⟩
  | cons entry rest ih =>
    obtain ⟨index, text⟩ := entry
    have hfollows := follows_submit hmem hsource hsteady index text
    obtain ⟨p', g₀, g', hsource₀, hsource', hcore⟩ := hfollows.source
    rw [hsource] at hsource₀
    cases hsource₀
    have hsteady' : ∀ e ∈ (s.submit index text).session.embedder, ∀ t, (EmbeddingProvider.embed e t).2 = e := by
      rw [hfollows.embedder]
      exact hsteady
    obtain ⟨hfirst, hsession⟩ := converse_cons s index text rest
    rw [hfirst, hsession]
    by_cases hindex : index = (i : Int)
    · subst hindex
      obtain ⟨hresult, hhas⟩ := submit_own h text
      obtain ⟨hpart, hlast⟩ := ih hsource' hsteady' hhas
      rw [hfollows.answerOf hmem] at hpart hlast
      rw [part_cons_self, part_cons_self, hpart, hresult]
      exact ⟨rfl, hlast⟩
    · obtain ⟨hpart, hlast⟩ := ih hsource' hsteady' (submit_other h hindex text)
      rw [hfollows.answerOf hmem] at hpart hlast
      rw [part_cons_of_ne hindex, part_cons_of_ne hindex]
      exact ⟨hpart, hlast⟩

end

/-! ## What is remembered -/

/-- The turn that is made of a text and the reply to it. -/
def TurnOf (said : Text × Text) (turn : Turn) : Prop := Turn.ofTexts said.1 said.2 = .ok turn

theorem exchange_cases (answer : Text → Except Fault Text) (profile : Profile) (history : History)
    (text : Text) :
    (exchange answer profile history text).2 = history ∧
        answered [(text, (exchange answer profile history text).1)] = [] ∨
      ∃ words turn, TurnOf (text, words) turn ∧
        (exchange answer profile history text).2 = history.push turn ∧
        answered [(text, (exchange answer profile history text).1)] = [(text, words)] := by
  rw [exchange]
  split_ifs
  · exact Or.inl ⟨rfl, rfl⟩
  · cases answer text with
    | error f => exact Or.inl ⟨rfl, rfl⟩
    | ok words =>
      dsimp only
      cases hturn : Turn.ofTexts text (reply profile words) with
      | error e => exact Or.inl ⟨rfl, rfl⟩
      | ok turn => exact Or.inr ⟨_, turn, hturn, rfl, rfl⟩

theorem answered_cons (entry : Text × Result) (l : List (Text × Result)) :
    answered (entry :: l) = answered [entry] ++ answered l := by
  rw [answered, answered, answered, ← List.filterMap_append]
  rfl

theorem history_converseAlone (answer : Text → Except Fault Text) (profile : Profile) (history : History)
    (hfits : history.turns.rtake history.limit = history.turns) (texts : List Text) :
    ∃ turns, List.Forall₂ TurnOf (answered (converseAlone answer profile history texts).1) turns ∧
      (converseAlone answer profile history texts).2
        = { history with turns := (history.turns ++ turns).rtake history.limit } := by
  -- a turn that is dropped on the way would not be among the last ones in the end either
  induction texts generalizing history with
  | nil =>
    refine ⟨[], .nil, ?_⟩
    rw [List.append_nil, hfits]
    rfl
  | cons text rest ih =>
    rw [converseAlone]
    dsimp only
    rw [answered_cons]
    rcases exchange_cases answer profile history text with ⟨hhistory, hanswered⟩ |
      ⟨words, turn, hturn, hhistory, hanswered⟩
    · rw [hhistory, hanswered]
      exact ih history hfits
    · rw [hhistory, hanswered]
      have hpush : (history.push turn).turns.rtake (history.push turn).limit = (history.push turn).turns := by
        have hagain := History.rtake_append history.limit (history.turns ++ [turn]) []
        rwa [List.append_nil, List.append_nil] at hagain
      obtain ⟨turns, hturns, hlast⟩ := ih (history.push turn) hpush
      refine ⟨turn :: turns, .cons hturn hturns, ?_⟩
      rw [hlast, History.push_eq]
      dsimp only
      rw [History.rtake_append, List.append_assoc]
      rfl

/-! ## Two sessions -/

section

variable [Platform] {embedder : Option E} {profiles profiles' : List Profile} {base : Option Path} {sizes : StoreSizes}
  {limit : Int} {t t' : Tree}

omit [EmbeddingProvider E] in
theorem has_start {source : AnswerSource G} (hi : profiles[i]? = some profile)
    (h : (start source embedder profiles base sizes limit t).1 = .ok s) :
    s.Has i profile ⟨limit.toNat, []⟩ ∧ s.source = source ∧ s.embedder = embedder ∧
      s.stores[i]?.join = storeOf t sizes base profile := by
  obtain ⟨-, -, rfl⟩ := start_eq_ok_iff.mp h
  refine ⟨⟨hi, ?_⟩, rfl, rfl, ?_⟩
  · rw [List.getElem?_map, hi]
    rfl
  · rw [List.getElem?_map, hi]
    rfl

omit [EmbeddingProvider E] in
theorem exists_start_iff {source : AnswerSource G} (hi : profiles[i]? = some profile) :
    (∃ s : Session G E, (start source embedder profiles base sizes limit t).1 = .ok s) ↔
      (1 ≤ limit ∧ Position.fits limit = true) ∧ ∀ profile ∈ profiles, ∃ s,
        Store.create sizes.capacity sizes.embedSize Store.defaultMaxText = .ok s ∧ ¬Blocks t base s profile := by
  have hne : profiles ≠ [] := by
    rintro rfl
    cases hi
  simp only [start_eq_ok_iff, ← loads_iff, exists_and_left, exists_eq, and_true]
  simp [hne]

/-- **What a character says and remembers depends on its own profile, its own file and the texts that are
handed to it, and it remembers the last turns in which it was answered.** A session is opened with it if
no file of any character blocks that. -/
theorem characters_apart (hmem : Memoryless core view) (hcore : core g = core g')
    (hsteady : ∀ e ∈ embedder, ∀ t, (EmbeddingProvider.embed e t).2 = e)
    (hi : profiles[i]? = some profile) (hj : profiles'[j]? = some profile)
    (hfile : t.read (storePath base profile).text = t'.read (storePath base profile).text) :
    ((∃ s : Session G E, (start (.pipeline p g) embedder profiles base sizes limit t).1 = .ok s) ↔
      (1 ≤ limit ∧ Position.fits limit = true) ∧ ∀ profile ∈ profiles, ∃ s,
        Store.create sizes.capacity sizes.embedSize Store.defaultMaxText = .ok s ∧ ¬Blocks t base s profile) ∧
    ∀ s s' : Session G E, (start (.pipeline p g) embedder profiles base sizes limit t).1 = .ok s →
      (start (.pipeline p g') embedder profiles' base sizes limit t').1 = .ok s' →
      ∀ texts texts', part i texts = part j texts' →
        part i (s.converse texts).1 = part j (s'.converse texts').1 ∧
        ∃ turns, List.Forall₂ TurnOf (answered (part i (s.converse texts).1)) turns ∧
          (s.converse texts).2.Has i profile ⟨limit.toNat, turns.rtake limit.toNat⟩ ∧
          (s'.converse texts').2.Has j profile ⟨limit.toNat, turns.rtake limit.toNat⟩ := by
  refine ⟨exists_start_iff hi, fun s s' hs hs' texts texts' htexts => ?_⟩
  obtain ⟨hhas, hsource, hembedder, hstore⟩ := has_start hi hs
  obtain ⟨hhas', hsource', hembedder', hstore'⟩ := has_start hj hs'
  have hstores : s.stores[i]?.join = s'.stores[j]?.join := by
    rw [hstore, hstore', storeOf, storeOf, loadStore_congr hfile]
  have hanswer : s.answerOf profile i = s'.answerOf profile j :=
    answerOf_congr hmem hsource hsource' hcore (hembedder.trans hembedder'.symm) hstores
  obtain ⟨hpart, hlast⟩ := part_converse hmem hsource (hembedder ▸ hsteady) hhas texts
  obtain ⟨hpart', hlast'⟩ := part_converse hmem hsource' (hembedder' ▸ hsteady) hhas' texts'
  obtain ⟨turns, hturns, hhistory⟩ :=
    history_converseAlone (s.answerOf profile i) profile ⟨limit.toNat, []⟩ (List.rtake_nil _) (part i texts)
  rw [hpart, hpart', ← hanswer, ← htexts]
  rw [hhistory] at hlast
  rw [← hanswer, ← htexts, hhistory] at hlast'
  exact ⟨rfl, turns, hturns, hlast, hlast'⟩

end

def bromm : Profile := ⟨"Bromm", "Mind the bridge.", "a.vdb"⟩

def dagna : Profile := ⟨"Dagna", "Hello.", "b.vdb"⟩

/-- Opens a session with the two. -/
def openPair (sizes : StoreSizes) (t : Tree) : Except OpenError (Session ScriptedGenerator Embedder) :=
  (start (.pipeline (Pipeline.ofEntry (.ofTag "qwen3" "qwen3:latest") 64) (.ofPieces ["ok"]))
    (some (.hashed sizes.embedSize)) [bromm, dagna] none sizes 2 t).1

def besideFile (content : Bytes) : Tree := Tree.empty.set ["work", "b.vdb"] (.file content)

theorem characters_apart_greetings :
    ∃ s s' : Session ScriptedGenerator Embedder, openPair ⟨4, 4⟩ Tree.empty = .ok s ∧
      openPair ⟨4, 4⟩ (besideFile [7]) = .ok s' ∧
      part 0 (s.converse [(0, "hi"), (0, []), (0, "ho")]).1
        = part 0 (s'.converse [(1, "hey"), (0, "hi"), (7, "who"), (0, []), (1, "hm"), (0, "ho")]).1 := by
  have hsteady : ∀ e ∈ some (Embedder.hashed 4), ∀ t, (EmbeddingProvider.embed e t).2 = e := by
    rintro e ⟨⟩ t
    rfl
  have hbromm : [bromm, dagna][0]? = some bromm := rfl
  have hfile : Tree.empty.read (storePath none bromm).text = (besideFile [7]).read (storePath none bromm).text :=
    rfl
  have hopen : openPair ⟨4, 4⟩ Tree.empty = .ok _ := rfl
  have hopen' : openPair ⟨4, 4⟩ (besideFile [7]) = .ok _ := rfl
  obtain ⟨-, happart⟩ :=
    characters_apart ScriptedGenerator.memoryless rfl hsteady hbromm hbromm hfile
  exact ⟨_, _, hopen, hopen', (happart _ _ hopen hopen' _ _ rfl).1⟩

/-- The header of a file with more documents than fit into memory. -/
def overlong : Bytes :=
  [0x56, 0x44, 0x42, 0x31, 1, 0, 0, 0, 0, 0, 0, 1, 0, 4, 0, 0, 0xFF, 0xFF, 0xFF, 0xFF]

/-- The first cannot be talked to because of the file of the second. -/
theorem start_overlong :
    Tree.empty.read (storePath none bromm).text = (besideFile overlong).read (storePath none bromm).text ∧
      (∃ s, openPair ⟨4294967295, 16777216⟩ Tree.empty = .ok s ∧
        (s.submit 0 "hi").result = .ok (some "Mind the bridge.")) ∧
      openPair ⟨4294967295, 16777216⟩ (besideFile overlong) = .error (.load (.file "b.vdb" .outOfMemory)) :=
  ⟨rfl, ⟨_, rfl, rfl⟩, rfl⟩

end Session

end Dialogue

end GroundedDialogue
