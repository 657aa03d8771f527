import GroundedDialogue.Command.Ask
import GroundedDialogue.Command.Talk
import GroundedDialogue.Embedding.Embedder
import GroundedDialogue.Generation.Scripted
import GroundedDialogue.Proofs.Dialogue.Opening

/-!
# Who closes the generator

A question that is asked closes the generator whatever comes of it, and a talk that has begun closes it
wherever it ends: whatever the lines are, none of them closes it (`Command.Talk.State.open_converse`). But a
talk makes its generator before it opens the session and looks for the character to begin with, and nothing
closes a generator whose talk does not begin (`Command.closed_iff`).
-/

namespace GroundedDialogue

variable {G T H E : Type}

/-- Closed once, and not driven after that. -/
structure Recorded.Closed (r : Recorded G) : Prop where
  once : r.calls.count .close = 1
  last : r.calls.getLast? = some .close

theorem Recorded.not_closed_of_calls_eq_nil {r : Recorded G} (h : r.calls = []) : ¬r.Closed := by
  intro hclosed
  have hlast := hclosed.last
  rw [h] at hlast
  contradiction

variable [TextGenerator G T H]

theorem Recorded.closed_close {r : Recorded G} (h : Call.close ∉ r.calls) : (TextGenerator.close r).Closed where
  once := by
    show (r.calls ++ [Call.close]).count Call.close = 1
    rw [List.count_append, List.count_eq_zero_of_not_mem h]
    rfl
  last := List.getLast?_concat

section

variable [EmbeddingProvider E] [Platform]

theorem Request.not_close_answer {r : Recorded G} (q : Request E) (h : Call.close ∉ r.calls) :
    Call.close ∉ (q.answer r).generator.calls := by
  by_cases hreaches : ∃ hits, q.Reaches hits
  · obtain ⟨hits, hreaches⟩ := hreaches
    obtain ⟨calls, n, hrecord, hcalls, -⟩ := TokenLoop.generate_record r (q.prompt hits)
      q.pipeline.predict q.pipeline.ceiling (StopScanner.ofMarkers StopMarker.defaults q.pipeline.scanStops)
    rw [generator_of_reaches hreaches, outcome, hrecord]
    show Call.close ∉ r.calls ++ .tokenize (q.prompt hits) :: calls
    simp [h, hcalls.not_close]
  · rw [generator_of_not_reaches hreaches]
    exact h

namespace Dialogue.Session

/-- The session has a generator that is not closed. -/
def Open (s : Session (Recorded G) E) : Prop := ∃ p r, s.source = .pipeline p r ∧ Call.close ∉ r.calls

theorem Open.asked {s : Session (Recorded G) E} (h : s.Open) (profile : Profile) (i : Nat) (text : Text) :
    (s.asked profile i text).Open := by
  obtain ⟨p, r, hsource, hopen⟩ := h
  rw [asked_pipeline hsource]
  exact ⟨p, _, rfl, Request.not_close_answer _ hopen⟩

theorem Open.submit {s : Session (Recorded G) E} (h : s.Open) (index : Int) (text : Text) :
    (s.submit index text).session.Open := by
  rcases session_submit s index text with hsame | ⟨-, profile, histories, hasked, -⟩
  · rw [hsame]
    exact h
  · rw [hasked]
    exact h.asked profile index.toNat text

end Dialogue.Session

namespace Command

open Disk Dialogue

/-- The same services, with a record of what becomes of a generator. -/
def recorded (services : Services G E) : Services (Recorded G) E where
  embedder := services.embedder
  generator choice := ⟨services.generator choice, []⟩

namespace Talk

variable {services : Services G E} {s : Settings} {t : Tree} {given : Given Key} {p : Plan}

namespace State

variable {state : State (Recorded G) E}

theorem open_hear (h : state.session.Open) (line : Text) : (state.hear line).2.session.Open := by
  rw [hear]
  split_ifs
  · exact h
  · exact h
  · cases Text.after? "/npc " line.strip with
    | none =>
      dsimp only
      rw [submit]
      have hsubmit := h.submit state.current line.strip
      rcases hresult : (state.session.submit state.current line.strip).result with e | none | reply
      · exact hsubmit
      · exact hsubmit
      · exact hsubmit
    | some name =>
      dsimp only
      rw [turnTo]
      cases find? state.session.profiles name.strip with
      | none => exact h
      | some position => exact h

theorem open_converse (h : state.session.Open) (lines : List Text) :
    (state.converse lines).2.session.Open := by
  induction lines generalizing state with
  | nil => exact h
  | cons line rest ih =>
    rw [converse]
    have hopen : (state.print state.invitation).session.Open := h
    have hhear := open_hear hopen line
    rcases hheard : (state.print state.invitation).hear line with ⟨verdict, after⟩
    rw [hheard] at hhear
    cases verdict with
    | goOn => exact ih hhear
    | leave => exact hhear
    | fail e => exact hhear

omit [EmbeddingProvider E] [Platform] in
theorem closed_finish (h : state.session.Open) (failure : Option SubmitError) :
    ∃ r, (state.finish failure).generator = some r ∧ r.Closed := by
  obtain ⟨p, r, hsource, hopen⟩ := h
  refine ⟨TextGenerator.close r, ?_, Recorded.closed_close hopen⟩
  cases failure with
  | none => simp only [finish, hsource]
  | some e => simp only [finish, hsource, Run.hinder, Run.note]

end State

/-- A talk begins in a directory: there is room for turns, the files of all characters can be dealt with, and
there is the character to begin with. -/
structure Begins (s : Settings) (t : Tree) (given : Given Key) (base : Path) : Prop where
  directory : baseDirectory given = .ok base
  limit : 1 ≤ s.historyLimit ∧ Position.fits s.historyLimit = true
  loads : ∀ profile ∈ Profile.defaults, Session.Loads t ⟨s.maxDocuments, s.embedDimension⟩ (some base) profile
  character : ∃ position, firstCharacter Profile.defaults given = .ok position

omit [EmbeddingProvider E] in
/-- Either the talk begins, or it is left with a generator that nothing was done with. -/
theorem start_cases (services : Services G E) (s : Settings) (p : Plan) (given : Given Key) (r : Run (Recorded G)) :
    ((∃ base, Begins s r.tree given base) ∧
        ∃ state, start (recorded services) s p given r = .ok state ∧ state.session.Open) ∨
      (¬∃ base, Begins s r.tree given base) ∧
        ∃ r', start (recorded services) s p given r = .error r' ∧
          r'.generator = some ⟨services.generator p.generator, []⟩ := by
  rw [start]
  cases hbase : baseDirectory given with
  | error e =>
    refine Or.inr ⟨?_, _, rfl, rfl⟩
    rintro ⟨base, h⟩
    rw [h.directory] at hbase
    contradiction
  | ok base =>
    have hsame : ∀ base', Begins s r.tree given base' → base' = base := by
      intro base' h
      rw [h.directory] at hbase
      exact Except.ok.inj hbase
    have hopens := @Session.start_eq_ok_iff _ _ E r.tree ⟨s.maxDocuments, s.embedDimension⟩ (some base)
      (.pipeline (pipeline s p.entry) ((recorded services).generator p.generator))
      (some ((recorded services).embedder p.embedder)) Profile.defaults s.historyLimit
    dsimp only
    rcases hstart : Session.start (.pipeline (pipeline s p.entry) ((recorded services).generator p.generator))
      (some ((recorded services).embedder p.embedder)) Profile.defaults (some base)
      ⟨s.maxDocuments, s.embedDimension⟩ s.historyLimit r.tree with ⟨e | session, log⟩ <;>
      rw [hstart] at hopens
    · refine Or.inr ⟨?_, _, rfl, rfl⟩
      rintro ⟨base', h⟩
      cases hsame base' h
      have hok := hopens.mpr ⟨fun _ => h.limit, h.loads, rfl⟩
      contradiction
    · obtain ⟨hlimit, hloads, hsession⟩ := hopens.mp rfl
      have hprofiles : session.profiles = Profile.defaults := congrArg Session.profiles hsession
      dsimp only
      rw [hprofiles]
      cases hfirst : firstCharacter Profile.defaults given with
      | error e =>
        refine Or.inr ⟨?_, _, rfl, rfl⟩
        rintro ⟨base', h⟩
        obtain ⟨position, hposition⟩ := h.character
        rw [hfirst] at hposition
        contradiction
      | ok position =>
        refine Or.inl ⟨⟨base, hbase, hlimit (List.cons_ne_nil _ _), hloads, position, hfirst⟩, _, rfl, ?_⟩
        exact ⟨_, _, congrArg Session.source hsession, List.not_mem_nil⟩

theorem run_of_plan (services : Services G E) (s : Settings) (t : Tree) {arguments : List Text} {given : Given Key}
    {p : Plan} (hgiven : Arguments.parse specs arguments = .ok given) (hplan : plan s given = .ok p) (input : Text) :
    ∃ r, (run (recorded services) s t arguments input).generator = some r ∧
      (r.Closed ↔ ∃ base, Begins s t given base) ∧ (¬r.Closed → r.calls = []) := by
  have hprepare : prepare (recorded services) s t arguments
      = start (recorded services) s p given (.start (thresholdFor (given.has .verbose)) t) := by
    rw [prepare, hgiven]
    dsimp only
    rw [hplan]
  rw [run, hprepare]
  rcases start_cases services s p given (.start (thresholdFor (given.has .verbose)) t) with
    ⟨hbegins, state, hstart, hopen⟩ | ⟨hbegins, r, hstart, hgenerator⟩
  · rw [hstart]
    obtain ⟨r, hr, hclosed⟩ := State.closed_finish (State.open_converse hopen (linesOf input))
      (state.converse (linesOf input)).1
    exact ⟨r, hr, iff_of_true hclosed hbegins, fun h => absurd hclosed h⟩
  · rw [hstart]
    exact ⟨_, hgenerator, iff_of_false (Recorded.not_closed_of_calls_eq_nil rfl) hbegins, fun _ => rfl⟩

theorem run_of_not_plan (services : Services G E) (s : Settings) (t : Tree) {arguments : List Text} (input : Text)
    (h : ¬∃ given p, Arguments.parse specs arguments = .ok given ∧ plan s given = .ok p) :
    (run services s t arguments input).generator = none := by
  rw [run, prepare]
  cases hgiven : Arguments.parse specs arguments with
  | error refusal => rfl
  | ok given =>
    dsimp only
    cases hplan : plan s given with
    | error e => rfl
    | ok p => exact absurd ⟨given, p, hgiven, hplan⟩ h

end Talk

namespace Ask

theorem closed_ask (services : Services (Recorded G) E) (p : Plan) (store : Store) {g : Recorded G}
    (hg : Call.close ∉ g.calls) (r : Run (Recorded G)) :
    ∀ r' ∈ (ask services p store g r).generator, r'.Closed := by
  have hopen := (⟨p.pipeline, some (services.embedder p.embedder), p.question, some store, p.speaker, none⟩ :
    Request E).not_close_answer hg
  rw [Request.answer] at hopen
  rw [ask]
  generalize p.pipeline.answer g (some (services.embedder p.embedder)) p.question (some store) p.speaker none
    = outcome at hopen ⊢
  obtain ⟨f | answer, g', embedder, log⟩ := outcome
  · rintro _ ⟨⟩
    exact Recorded.closed_close hopen
  · rintro _ ⟨⟩
    exact Recorded.closed_close hopen

theorem closed_carryOut (services : Services G E) (s : Settings) (p : Plan) {r : Run (Recorded G)}
    (hr : r.generator = none) : ∀ r' ∈ (carryOut (recorded services) s p r).generator, r'.Closed := by
  have hnone : ∀ r' ∈ r.generator, r'.Closed := by
    rw [hr]
    exact nofun
  rw [carryOut]
  cases (p.store.load r.tree .none p.context).result with
  | error e => exact hnone
  | ok loaded =>
    cases chooseGenerator s p.pipeline.entry with
    | error h => exact hnone
    | ok choice => exact closed_ask (recorded services) p _ List.not_mem_nil _

theorem closed_run (services : Services G E) (s : Settings) (t : Tree) (arguments : List Text) :
    ∀ r ∈ (run (recorded services) s t arguments).generator, r.Closed := by
  rw [run]
  cases Arguments.parse specs arguments with
  | error refusal => exact nofun
  | ok given =>
    dsimp only
    split_ifs
    · exact nofun
    · cases plan s t given with
      | error h => exact nofun
      | ok p => exact closed_carryOut services s p rfl

end Ask

/-- **A generator is closed exactly once, but for that of a talk that does not begin.** A question closes
every generator that is made for it. A talk that can be planned makes one, and closes it exactly if the talk
begins; otherwise nothing at all is done with it. -/
theorem closed_iff (services : Services G E) (s : Settings) (t : Tree) (arguments : List Text) (input : Text) :
    (∀ r ∈ (Ask.run (recorded services) s t arguments).generator, r.Closed) ∧
      (∀ given p, Arguments.parse Talk.specs arguments = .ok given → Talk.plan s given = .ok p →
        ∃ r, (Talk.run (recorded services) s t arguments input).generator = some r ∧
          (r.Closed ↔ ∃ base, Talk.Begins s t given base) ∧ (¬r.Closed → r.calls = [])) ∧
      ((¬∃ given p, Arguments.parse Talk.specs arguments = .ok given ∧ Talk.plan s given = .ok p) →
        (Talk.run (recorded services) s t arguments input).generator = none) := by
  refine ⟨Ask.closed_run services s t arguments, ?_, Talk.run_of_not_plan (recorded services) s t input⟩
  intro given p hgiven hplan
  exact Talk.run_of_plan services s t hgiven hplan input

end Command

end

namespace Command

open Disk Dialogue

def localServices : Services ScriptedGenerator Embedder where
  embedder _ := .keywordCount
  generator _ := .offline

/-- The talk begins without any file, and the input ends it. -/
theorem closed_iff_dagna :
    ∃ r, (Talk.run (recorded localServices) .defaults .empty ["-n", "dagna"] "Hi\n").generator = some r ∧
      r.Closed := by
  have hbegins : Talk.Begins .defaults .empty [(.character, some "dagna")] (.ofText here) :=
    { directory := rfl
      limit := by decide
      loads := by
        intro profile hprofile
        refine ⟨none, ?_⟩
        revert profile
        decide +kernel
      character := ⟨1, by decide⟩ }
  have hgiven : Arguments.parse Talk.specs ["-n", "dagna"] = .ok [(.character, some "dagna")] := by decide +kernel
  obtain ⟨p, hplan⟩ : ∃ p, Talk.plan .defaults [(.character, some "dagna")] = .ok p := ⟨_, rfl⟩
  obtain ⟨-, htalk, -⟩ := closed_iff localServices .defaults .empty ["-n", "dagna"] "Hi\n"
  obtain ⟨r, hr, hclosed, -⟩ := htalk _ p hgiven hplan
  exact ⟨r, hr, hclosed.mpr ⟨_, hbegins⟩⟩

/-- There is no character to begin with, so the command ends, and the generator is left as it was made. -/
theorem unclosed_nobody :
    (Talk.run (recorded localServices) .defaults .empty ["-n", "Nobody"] "Hi\n").ending = .returned 1 ∧
      (Talk.run (recorded localServices) .defaults .empty ["-n", "Nobody"] "Hi\n").generator.map Recorded.calls
        = some [] := by
  decide +kernel

end Command

end GroundedDialogue
