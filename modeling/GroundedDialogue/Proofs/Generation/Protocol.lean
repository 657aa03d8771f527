import GroundedDialogue.Proofs.Generation.Recorded

/-!
# The protocol of a reply

A traced generator notes every call with its answer. The calls of one reply follow a protocol
(`TokenLoop.Talk`): a batch is decoded with the handle that was given last, the next token is sampled
with the handle that this gives, and that token alone is the next batch. `generate_protocol` says that
these are all calls of a reply, but for the prompt that is tokenized before them and the last handle, if
there is one, that is released after them, whatever fails on the way; and what a failure makes of the
reply.
-/

namespace GroundedDialogue

/-- A sampled token as its generator reads it. A token that ends the sequence says nothing. -/
structure Reading (T : Type) where
  token : T
  said : Option (Except Fault Text)

inductive Event (T H : Type) where
  | tokenize (prompt : Text) (answer : Except Fault (List T))
  | decode (batch : List T) (handle : Option H) (answer : Except Fault H)
  | sample (handle : H) (answer : Except Fault (Reading T))
  | release (handle : H)
  | close

namespace Event

variable {T H : Type}

def batch? : Event T H → Option (List T)
  | decode batch _ _ => some batch
  | _ => none

/-- The handle that a decode call gives. -/
def handle? : Event T H → Option H
  | decode _ _ (.ok h) => some h
  | _ => none

def token? : Event T H → Option T
  | sample _ (.ok x) => some x.token
  | _ => none

def chunk? : Event T H → Option Text
  | sample _ (.ok ⟨_, some (.ok chunk)⟩) => some chunk
  | _ => none

/-- What goes wrong when a batch is decoded, a token is sampled, or its text is read. -/
def fault? : Event T H → Option Fault
  | decode _ _ (.error f) => some f
  | sample _ (.error f) => some f
  | sample _ (.ok ⟨_, some (.error f)⟩) => some f
  | _ => none

/-- The handle that was given last. -/
def lastHandle? (events : List (Event T H)) : Option H := (events.filterMap handle?).getLast?

end Event

/-- A generator that notes its calls. -/
structure Traced (G T H : Type) where
  generator : G
  events : List (Event T H)

namespace Traced

variable {G T H : Type}

/-- The same notes with more events, for the generator that these left behind. -/
def extend (r : Traced G T H) (events : List (Event T H)) (g : G) : Traced G T H := ⟨g, r.events ++ events⟩

variable [TextGenerator G T H]

def reading (g : G) (token : T) : Reading T :=
  ⟨token, if TextGenerator.isEnd g token then none else some (TextGenerator.tokenText g token)⟩

instance : TextGenerator (Traced G T H) T H where
  modelName r := TextGenerator.modelName r.generator
  tokenize r prompt :=
    let (answer, g) := TextGenerator.tokenize r.generator prompt
    (answer, r.extend [.tokenize prompt answer] g)
  decode r batch handle :=
    let (answer, g) := TextGenerator.decode r.generator batch handle
    (answer, r.extend [.decode batch handle answer] g)
  sample r h :=
    let (answer, g) := TextGenerator.sample r.generator h
    (answer, r.extend [.sample h (answer.map (reading g))] g)
  tokenText r := TextGenerator.tokenText r.generator
  isEnd r := TextGenerator.isEnd r.generator
  release r h := r.extend [.release h] (TextGenerator.release r.generator h)
  close r := r.extend [.close] (TextGenerator.close r.generator)

end Traced

namespace TokenLoop

variable {G T H : Type}

/-- The calls of a reply from a decode call on, and how it ends. -/
inductive Talk : StopScanner → (budget : Nat) → Option H → List T → List (Event T H) →
    Except Fault StopReason → Prop where
  | spent {s : StopScanner} {handle : Option H} {batch : List T} :
    Talk s 0 handle batch [] (.ok .maxTokens)
  | refused {s : StopScanner} {n : Nat} {handle : Option H} {batch : List T} (f : Fault) :
    Talk s (n + 1) handle batch [.decode batch handle (.error f)] (.error f)
  | mute {s : StopScanner} {n : Nat} {handle : Option H} {batch : List T} (h : H) (f : Fault) :
    Talk s (n + 1) handle batch [.decode batch handle (.ok h), .sample h (.error f)] (.error f)
  | ended {s : StopScanner} {n : Nat} {handle : Option H} {batch : List T} (h : H) (token : T) :
    Talk s (n + 1) handle batch [.decode batch handle (.ok h), .sample h (.ok ⟨token, none⟩)]
      (.ok .endOfSequence)
  | unreadable {s : StopScanner} {n : Nat} {handle : Option H} {batch : List T} (h : H) (token : T)
    (f : Fault) :
    Talk s (n + 1) handle batch [.decode batch handle (.ok h), .sample h (.ok ⟨token, some (.error f)⟩)]
      (.error f)
  | marked {s : StopScanner} {n : Nat} {handle : Option H} {batch : List T} (h : H) (token : T)
    (chunk : Text) (hstops : (s.feed chunk).1.stops = true) :
    Talk s (n + 1) handle batch [.decode batch handle (.ok h), .sample h (.ok ⟨token, some (.ok chunk)⟩)]
      (.ok .stopMarker)
  | more {s : StopScanner} {n : Nat} {handle : Option H} {batch : List T} (h : H) (token : T)
    (chunk : Text) {rest : List (Event T H)} {cause : Except Fault StopReason}
    (hgoes : ¬(s.feed chunk).1.stops = true) (hrest : Talk (s.feed chunk).2 n (some h) [token] rest cause) :
    Talk s (n + 1) handle batch
      (.decode batch handle (.ok h) :: .sample h (.ok ⟨token, some (.ok chunk)⟩) :: rest) cause

/-! ## What the protocol implies -/

variable {s : StopScanner} {budget : Nat} {handle : Option H} {batch : List T}
  {events : List (Event T H)} {cause : Except Fault StopReason}

theorem Talk.eq_nil_iff (h : Talk s budget handle batch events cause) : events = [] ↔ budget = 0 := by
  cases h <;> simp

/-- What is decoded after the first batch are the sampled tokens, one by one and in their order. At most
the last one is missing. -/
theorem Talk.batches (h : Talk s budget handle batch events cause) :
    events.filterMap Event.batch? <+: batch :: (events.filterMap Event.token?).map (fun token => [token]) ∧
      (events.filterMap Event.token?).length ≤ (events.filterMap Event.batch?).length := by
  induction h with
  | spent => exact ⟨List.nil_prefix, Nat.le_refl _⟩
  | refused f => exact ⟨List.prefix_rfl, Nat.zero_le _⟩
  | mute h f => exact ⟨List.prefix_rfl, Nat.zero_le _⟩
  | ended h token => exact ⟨List.prefix_append [_] _, Nat.le_refl _⟩
  | unreadable h token f => exact ⟨List.prefix_append [_] _, Nat.le_refl _⟩
  | marked h token chunk => exact ⟨List.prefix_append [_] _, Nat.le_refl _⟩
  | more h token chunk hgoes hrest ih =>
    obtain ⟨hinitial, hlength⟩ := ih
    exact ⟨List.cons_prefix_cons.mpr ⟨rfl, hinitial⟩, Nat.succ_le_succ hlength⟩

theorem Talk.not_release (h : Talk s budget handle batch events cause) (h' : H) : .release h' ∉ events := by
  induction h <;> simp_all

theorem Talk.cause_eq_error_iff (h : Talk s budget handle batch events cause) (f : Fault) :
    cause = .error f ↔ ∃ e ∈ events, e.fault? = some f := by
  induction h with
  | more h token chunk hgoes hrest ih => simp [ih, Event.fault?]
  | _ => simp [Event.fault?]

theorem Talk.lastHandle?_eq_none_iff (h : Talk s budget handle batch events cause) :
    Event.lastHandle? events = none ↔ ¬∃ h' rest, events = .decode batch handle (.ok h') :: rest := by
  cases h <;> simp [Event.lastHandle?, Event.handle?]

/-! ## The calls of a reply -/

variable [TextGenerator G T H]

/-- What a turn comes to, and its calls. -/
inductive Turn.Notes (handle : Option H) (batch : List T) : Turn G T H → List (Event T H) → Prop where
  | refused (g : G) (f : Fault) :
    Notes handle batch (.ends g handle 0 (.error f)) [.decode batch handle (.error f)]
  | mute (g : G) (h : H) (f : Fault) :
    Notes handle batch (.ends g (some h) 0 (.error f)) [.decode batch handle (.ok h), .sample h (.error f)]
  | ended (g : G) (h : H) (token : T) :
    Notes handle batch (.ends g (some h) 1 (.ok .endOfSequence))
      [.decode batch handle (.ok h), .sample h (.ok ⟨token, none⟩)]
  | unreadable (g : G) (h : H) (token : T) (f : Fault) :
    Notes handle batch (.ends g (some h) 1 (.error f))
      [.decode batch handle (.ok h), .sample h (.ok ⟨token, some (.error f)⟩)]
  | speaks (g : G) (h : H) (token : T) (chunk : Text) :
    Notes handle batch (.speaks g h token chunk)
      [.decode batch handle (.ok h), .sample h (.ok ⟨token, some (.ok chunk)⟩)]

theorem turn_traced (r : Traced G T H) (handle : Option H) (batch : List T) :
    ∃ events, turn r handle batch = (turn r.generator handle batch).map (r.extend events) ∧
      (turn r.generator handle batch).Notes handle batch events := by
  rw [turn, turn]
  simp only [TextGenerator.decode, TextGenerator.sample, TextGenerator.isEnd, TextGenerator.tokenText]
  rcases TextGenerator.decode r.generator batch handle with ⟨f | h, g⟩
  · exact ⟨_, rfl, .refused g f⟩
  · dsimp only [Traced.extend]
    rcases TextGenerator.sample g h with ⟨f | token, g⟩
    · refine ⟨_, ?_, .mute g h f⟩
      rw [List.append_assoc]
      rfl
    · dsimp only [Except.map, Traced.reading]
      rw [List.append_assoc]
      split_ifs with hend
      · exact ⟨_, rfl, .ended g h token⟩
      · cases htext : TextGenerator.tokenText g token with
        | error f => exact ⟨_, rfl, .unreadable g h token f⟩
        | ok chunk => exact ⟨_, rfl, .speaks g h token chunk⟩

/-- What a loop has come to, told from its calls. -/
structure Ending.Notes (handle : Option H) (batch : List T) (sampled : Nat) (scanner : StopScanner)
    (budget : Nat) (e : Ending G H) (events : List (Event T H)) : Prop where
  talk : Talk scanner budget handle batch events e.cause
  handle : e.handle = (Event.lastHandle? events).or handle
  sampled : e.sampled = sampled + (events.filterMap Event.token?).length
  scanner : e.scanner = scanner.after (events.filterMap Event.chunk?)

omit [TextGenerator G T H] in
theorem Ending.Notes.cons {h : H} {token : T} {chunk : Text} {e : Ending G H} {sampled n : Nat}
    (hgoes : ¬(s.feed chunk).1.stops = true)
    (hrest : e.Notes (some h) [token] (sampled + 1) (s.feed chunk).2 n events) :
    e.Notes handle batch sampled s (n + 1)
      (.decode batch handle (.ok h) :: .sample h (.ok ⟨token, some (.ok chunk)⟩) :: events) where
  talk := .more h token chunk hgoes hrest.talk
  handle := by
    rw [hrest.handle]
    show (events.filterMap Event.handle?).getLast?.or (some h)
      = ((h :: events.filterMap Event.handle?).getLast?).or handle
    rw [List.getLast?_cons]
    cases (events.filterMap Event.handle?).getLast? <;> rfl
  sampled := by
    rw [hrest.sampled]
    show sampled + 1 + (events.filterMap Event.token?).length
      = sampled + (token :: events.filterMap Event.token?).length
    rw [List.length_cons]
    omega
  scanner := hrest.scanner

theorem run_traced (r : Traced G T H) (handle : Option H) (batch : List T) (sampled : Nat)
    (scanner : StopScanner) (budget : Nat) :
    ∃ events, run r handle batch sampled scanner budget
        = (run r.generator handle batch sampled scanner budget).map (r.extend events) ∧
      (run r.generator handle batch sampled scanner budget).Notes handle batch sampled scanner budget
        events := by
  induction budget generalizing r handle batch sampled scanner with
  | zero =>
    refine ⟨[], ?_, .spent, rfl, rfl, rfl⟩
    simp [run, Ending.map, Traced.extend]
  | succ budget ih =>
    obtain ⟨events, hturn, hnotes⟩ := turn_traced r handle batch
    rw [run_succ, run_succ, hturn]
    generalize turn r.generator handle batch = plain at hnotes
    cases hnotes with
    | refused g f => exact ⟨_, rfl, .refused f, rfl, rfl, rfl⟩
    | mute g h f => exact ⟨_, rfl, .mute h f, rfl, rfl, rfl⟩
    | ended g h token => exact ⟨_, rfl, .ended h token, rfl, rfl, rfl⟩
    | unreadable g h token f => exact ⟨_, rfl, .unreadable h token f, rfl, rfl, rfl⟩
    | speaks g h token chunk =>
      dsimp only [Turn.map]
      split_ifs with hstops
      · exact ⟨_, rfl, .marked h token chunk hstops, rfl, rfl, rfl⟩
      · obtain ⟨later, hrun, hlater⟩ := ih (r.extend [.decode batch handle (.ok h),
          .sample h (.ok ⟨token, some (.ok chunk)⟩)] g) (some h) [token] (sampled + 1) (scanner.feed chunk).2
        refine ⟨_, ?_, hlater.cons hstops⟩
        rw [hrun]
        simp [Ending.map, Traced.extend]

theorem release_traced (r : Traced G T H) (events : List (Event T H)) (e : Ending G H) :
    (e.map (r.extend events)).release = r.extend (events ++ e.handle.toList.map .release) e.release := by
  cases hhandle : e.handle with
  | none => simp [Ending.release, Ending.map, hhandle]
  | some h => simp [Ending.release, Ending.map, hhandle, Traced.extend, TextGenerator.release]

omit [TextGenerator G T H] in
theorem Ending.generation_of_error {e : Ending G H} {f : Fault} (hcause : e.cause = .error f) :
    e.generation =
      if f.kind = .generation then .ok ⟨e.scanner.text, e.sampled, .decodeError, some f.message⟩
      else if f.kind = .memory then
        .ok ⟨e.scanner.text, e.sampled, .allocationError,
          some ("out of memory while streaming: " ++ f.message)⟩
      else .error f := by
  rw [Ending.generation, hcause]
  cases hkind : f.kind <;> simp [hkind]

theorem generate_traced {g g' : G} {prompt : Text} {batch : List T}
    (htokenize : TextGenerator.tokenize g prompt = (.ok batch, g')) (requested ceiling : Int)
    (scanner : StopScanner) :
    ∃ (e : Ending G H) (events : List (Event T H)),
      e.Notes none batch 0 scanner.reset (Budget.clamp requested ceiling).toNat events ∧
      (generate g prompt requested ceiling scanner).result = e.generation ∧
      generate (⟨g, []⟩ : Traced G T H) prompt requested ceiling scanner
        = (generate g prompt requested ceiling scanner).map (Traced.mk ·
            (.tokenize prompt (.ok batch) :: events ++ e.handle.toList.map .release)) := by
  rw [generate, generate]
  simp only [TextGenerator.tokenize, TextGenerator.modelName, htokenize]
  let r : Traced G T H := ⟨g', [.tokenize prompt (.ok batch)]⟩
  obtain ⟨events, hrun, hnotes⟩ := run_traced r none batch 0 scanner.reset
    (Budget.clamp requested ceiling).toNat
  have htraced : (⟨g, []⟩ : Traced G T H).extend [.tokenize prompt (.ok batch)] g' = r := rfl
  rw [htraced, hrun]
  generalize run r.generator none batch 0 scanner.reset (Budget.clamp requested ceiling).toNat = e at hnotes
  refine ⟨e, events, hnotes, ?_, ?_⟩
  · cases e.generation <;> rfl
  · rw [release_traced, generation_map]
    cases e.generation <;> rfl

/-- **Every reply keeps the protocol.** After the prompt is tokenized there is a talk, and after it the
last handle is released, exactly if the first batch was decoded. What goes wrong in the talk ends the
reply with the text so far, or is passed on; the calls are the same in both cases. -/
theorem generate_protocol (g : G) (prompt : Text) (requested ceiling : Int) (scanner : StopScanner) :
    let reply := generate g prompt requested ceiling scanner
    let traced := generate (⟨g, []⟩ : Traced G T H) prompt requested ceiling scanner
    traced.result = reply.result ∧ traced.generator.generator = reply.generator ∧
      (∀ f, (TextGenerator.tokenize g prompt).1 = .error f →
        traced.generator.events = [.tokenize prompt (.error f)] ∧ reply.result = .error f) ∧
      ∀ batch, (TextGenerator.tokenize g prompt).1 = .ok batch → ∃ events cause,
        Talk scanner.reset (Budget.clamp requested ceiling).toNat none batch events cause ∧
          traced.generator.events
            = .tokenize prompt (.ok batch) :: events ++ (Event.lastHandle? events).toList.map .release ∧
          (events = [] ↔ Budget.clamp requested ceiling ≤ 0) ∧
          (events.filterMap Event.batch? <+: batch :: (events.filterMap Event.token?).map (fun token => [token]) ∧
            (events.filterMap Event.token?).length ≤ (events.filterMap Event.batch?).length) ∧
          (∀ h, .release h ∉ events) ∧
          (Event.lastHandle? events = none ↔ ¬∃ h rest, events = .decode batch none (.ok h) :: rest) ∧
          (∀ f, cause = .error f ↔ ∃ e ∈ events, e.fault? = some f) ∧
          let text := ((events.filterMap Event.chunk?).map scanner.part).flatten
          let tokens := (events.filterMap Event.token?).length
          (∀ reason, cause = .ok reason → reply.result = .ok ⟨text, tokens, reason, none⟩) ∧
          ∀ f, cause = .error f → reply.result =
            if f.kind = .generation then .ok ⟨text, tokens, .decodeError, some f.message⟩
            else if f.kind = .memory then
              .ok ⟨text, tokens, .allocationError, some ("out of memory while streaming: " ++ f.message)⟩
            else .error f := by
  dsimp only
  rcases htokenize : TextGenerator.tokenize g prompt with ⟨f | batch, g'⟩
  · rw [generate, generate]
    simp only [TextGenerator.tokenize, htokenize]
    refine ⟨trivial, rfl, ?_, by simp⟩
    rintro f' ⟨⟩
    exact ⟨rfl, rfl⟩
  · obtain ⟨e, events, hnotes, hresult, htraced⟩ := generate_traced htokenize requested ceiling scanner
    rw [htraced, hresult]
    refine ⟨hresult, rfl, by simp, ?_⟩
    rintro batch' ⟨⟩
    have hhandle : e.handle = Event.lastHandle? events := by rw [hnotes.handle, Option.or_none]
    have hsampled : e.sampled = (events.filterMap Event.token?).length := by
      rw [hnotes.sampled, Nat.zero_add]
    have htext : e.scanner.text = ((events.filterMap Event.chunk?).map scanner.part).flatten := by
      rw [hnotes.scanner, StopScanner.after_eq]
      rfl
    refine ⟨events, e.cause, hnotes.talk, by rw [← hhandle]; rfl, ?_, hnotes.talk.batches,
      hnotes.talk.not_release, hnotes.talk.lastHandle?_eq_none_iff, hnotes.talk.cause_eq_error_iff, ?_, ?_⟩
    · rw [hnotes.talk.eq_nil_iff, Int.toNat_eq_zero]
    · intro reason hcause
      rw [Ending.generation, hcause, ← htext, ← hsampled]
    · intro f hcause
      rw [Ending.generation_of_error hcause, htext, hsampled]

end TokenLoop

end GroundedDialogue
