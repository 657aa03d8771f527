import GroundedDialogue.Generation.Scripted
import GroundedDialogue.Proofs.Generation.Recorded

/-!
# Generators without a memory

A generator may keep a record of what it was asked and a place in the reply that it is giving. It has no
memory if one part of it, its core, stays the same in every call and decides all that it says in answer
to a prompt (`Memoryless`). Then a reply is a function of the core and the prompt
(`TokenLoop.result_generate_congr`), and to give one leaves the core as it was
(`TokenLoop.core_generate`). Scripted generators are of this kind (`ScriptedGenerator.memoryless`).
-/

namespace GroundedDialogue

/-- The core of a generator stays the same and decides how a reply starts; how it goes on is decided by
what is in view while it is given. -/
structure Memoryless {G T H K V : Type} [TextGenerator G T H] (core : G → K) (view : G → V) : Prop where
  core_tokenize (g : G) (prompt : Text) : core (TextGenerator.tokenize g prompt).2 = core g
  core_decode (g : G) (batch : List T) (handle : Option H) :
    core (TextGenerator.decode g batch handle).2 = core g
  core_sample (g : G) (handle : H) : core (TextGenerator.sample g handle).2 = core g
  core_release (g : G) (handle : H) : core (TextGenerator.release g handle) = core g
  tokenize {g g' : G} (h : core g = core g') (prompt : Text) :
    (TextGenerator.tokenize g prompt).1 = (TextGenerator.tokenize g' prompt).1
  start {g g' : G} (h : core g = core g') (batch : List T) :
    Prod.map id view (TextGenerator.decode g batch none) = Prod.map id view (TextGenerator.decode g' batch none)
  decode {g g' : G} (h : view g = view g') (batch : List T) (handle : H) :
    Prod.map id view (TextGenerator.decode g batch (some handle))
      = Prod.map id view (TextGenerator.decode g' batch (some handle))
  sample {g g' : G} (h : view g = view g') (handle : H) :
    Prod.map id view (TextGenerator.sample g handle) = Prod.map id view (TextGenerator.sample g' handle)
  tokenText {g g' : G} (h : view g = view g') (token : T) :
    TextGenerator.tokenText g token = TextGenerator.tokenText g' token
  isEnd {g g' : G} (h : view g = view g') (token : T) :
    TextGenerator.isEnd g token = TextGenerator.isEnd g' token

namespace TokenLoop

variable {G T H K V : Type} [TextGenerator G T H] {core : G → K} {view : G → V} {g g' : G}

/-! ## The parts of a turn -/

def afterSample (handle : H) : Except Fault T × G → Turn G T H
  | (.error f, g) => .ends g (some handle) 0 (.error f)
  | (.ok token, g) =>
    if TextGenerator.isEnd g token then .ends g (some handle) 1 (.ok .endOfSequence)
    else match TextGenerator.tokenText g token with
      | .error f => .ends g (some handle) 1 (.error f)
      | .ok chunk => .speaks g handle token chunk

def afterDecode (handle : Option H) : Except Fault H × G → Turn G T H
  | (.error f, g) => .ends g handle 0 (.error f)
  | (.ok x, g) => afterSample x (TextGenerator.sample g x)

theorem turn_eq (g : G) (handle : Option H) (batch : List T) :
    turn g handle batch = afterDecode handle (TextGenerator.decode g batch handle) := by
  rw [turn]
  rcases TextGenerator.decode g batch handle with ⟨f | x, g₁⟩
  · rfl
  · rw [afterDecode]
    dsimp only
    rcases TextGenerator.sample g₁ x with ⟨f | token, g₂⟩ <;> rfl

/-! ## The core stays the same -/

def Turn.generator : Turn G T H → G
  | .ends g _ _ _ => g
  | .speaks g _ _ _ => g

theorem generator_afterSample (handle : H) (sampled : Except Fault T × G) :
    (afterSample handle sampled).generator = sampled.2 := by
  rcases sampled with ⟨f | token, g⟩
  · rfl
  · rw [afterSample]
    split_ifs
    · rfl
    · cases TextGenerator.tokenText g token <;> rfl

theorem core_turn (hmem : Memoryless core view) (g : G) (handle : Option H) (batch : List T) :
    core (turn g handle batch).generator = core g := by
  have hdecode := hmem.core_decode g batch handle
  rw [turn_eq]
  rcases hcall : TextGenerator.decode g batch handle with ⟨f | x, g₁⟩ <;> rw [hcall] at hdecode
  · exact hdecode
  · rw [afterDecode, generator_afterSample]
    exact (hmem.core_sample g₁ x).trans hdecode

theorem core_run (hmem : Memoryless core view) (g : G) (handle : Option H) (batch : List T) (sampled : Nat)
    (scanner : StopScanner) (budget : Nat) :
    core (run g handle batch sampled scanner budget).generator = core g := by
  induction budget generalizing g handle batch sampled scanner with
  | zero => rfl
  | succ budget ih =>
    have hturn := core_turn hmem g handle batch
    rw [run_succ]
    cases hnext : turn g handle batch with
    | ends g₁ handle₁ silent cause =>
      rw [hnext] at hturn
      exact hturn
    | speaks g₁ h token chunk =>
      rw [hnext] at hturn
      dsimp only
      split_ifs
      · exact hturn
      · exact (ih _ _ _ _ _).trans hturn

theorem core_release (hmem : Memoryless core view) (e : Ending G H) : core e.release = core e.generator := by
  rw [Ending.release]
  cases e.handle with
  | none => rfl
  | some h => exact hmem.core_release e.generator h

theorem core_generate (hmem : Memoryless core view) (g : G) (prompt : Text) (requested ceiling : Int)
    (scanner : StopScanner) : core (generate g prompt requested ceiling scanner).generator = core g := by
  have htokenize := hmem.core_tokenize g prompt
  rw [generate]
  rcases hcall : TextGenerator.tokenize g prompt with ⟨f | batch, g₁⟩ <;> rw [hcall] at htokenize
  · exact htokenize
  · have hrun := core_run hmem g₁ none batch 0 scanner.reset (Budget.clamp requested ceiling).toNat
    have hkept := ((core_release hmem _).trans hrun).trans htokenize
    dsimp only
    cases (run g₁ none batch 0 scanner.reset (Budget.clamp requested ceiling).toNat).generation with
    | error f => exact hkept
    | ok r => exact hkept

/-! ## The core decides -/

theorem afterSample_congr (hmem : Memoryless core view) (handle : H) {sampled sampled' : Except Fault T × G}
    (h : Prod.map id view sampled = Prod.map id view sampled') :
    (afterSample handle sampled).map view = (afterSample handle sampled').map view := by
  obtain ⟨result, g⟩ := sampled
  obtain ⟨result', g'⟩ := sampled'
  obtain ⟨hresult, hview⟩ : result = result' ∧ view g = view g' := Prod.mk.inj h
  subst hresult
  cases result with
  | error f => simp only [afterSample, Turn.map, hview]
  | ok token =>
    rw [afterSample, afterSample, hmem.isEnd hview token, hmem.tokenText hview token]
    split_ifs
    · simp only [Turn.map, hview]
    · cases TextGenerator.tokenText g' token with
      | error f => simp only [Turn.map, hview]
      | ok chunk => simp only [Turn.map, hview]

theorem turn_congr (hmem : Memoryless core view) {handle : Option H} {batch : List T}
    (h : Prod.map id view (TextGenerator.decode g batch handle)
      = Prod.map id view (TextGenerator.decode g' batch handle)) :
    (turn g handle batch).map view = (turn g' handle batch).map view := by
  rw [turn_eq, turn_eq]
  generalize TextGenerator.decode g batch handle = decoded at h ⊢
  generalize TextGenerator.decode g' batch handle = decoded' at h ⊢
  obtain ⟨result, g₁⟩ := decoded
  obtain ⟨result', g₁'⟩ := decoded'
  obtain ⟨hresult, hview⟩ : result = result' ∧ view g₁ = view g₁' := Prod.mk.inj h
  subst hresult
  cases result with
  | error f => simp only [afterDecode, Turn.map, hview]
  | ok x => exact afterSample_congr hmem x (hmem.sample hview x)

theorem flow_congr (hmem : Memoryless core view) {handle : Option H} {batch : List T}
    (h : Prod.map id view (TextGenerator.decode g batch handle)
      = Prod.map id view (TextGenerator.decode g' batch handle)) (budget : Nat) :
    flow g handle batch budget = flow g' handle batch budget := by
  induction budget generalizing g g' handle batch with
  | zero => rfl
  | succ budget ih =>
    have hturn := turn_congr hmem h
    rw [flow, flow]
    cases hnext : turn g handle batch with
    | ends g₁ handle₁ silent cause =>
      cases hnext' : turn g' handle batch with
      | ends g₁' handle₁' silent' cause' =>
        rw [hnext, hnext'] at hturn
        obtain ⟨-, -, rfl, rfl⟩ := Turn.ends.inj hturn
        rfl
      | speaks g₁' x' token' chunk' =>
        rw [hnext, hnext'] at hturn
        cases hturn
    | speaks g₁ x token chunk =>
      cases hnext' : turn g' handle batch with
      | ends g₁' handle₁' silent' cause' =>
        rw [hnext, hnext'] at hturn
        cases hturn
      | speaks g₁' x' token' chunk' =>
        rw [hnext, hnext'] at hturn
        obtain ⟨hview, rfl, rfl, rfl⟩ := Turn.speaks.inj hturn
        dsimp only
        rw [ih (hmem.decode hview [token] x)]

theorem flowFor_congr (hmem : Memoryless core view) (h : core g = core g') (prompt : Text)
    (requested ceiling : Int) : flowFor g prompt requested ceiling = flowFor g' prompt requested ceiling := by
  have hresult := hmem.tokenize h prompt
  have hcore := ((hmem.core_tokenize g prompt).trans h).trans (hmem.core_tokenize g' prompt).symm
  rw [flowFor, flowFor]
  generalize TextGenerator.tokenize g prompt = tokenized at hresult hcore ⊢
  generalize TextGenerator.tokenize g' prompt = tokenized' at hresult hcore ⊢
  obtain ⟨result, g₁⟩ := tokenized
  obtain ⟨result', g₁'⟩ := tokenized'
  obtain rfl : result = result' := hresult
  cases result with
  | error f => rfl
  | ok batch => exact congrArg Except.ok (flow_congr hmem (hmem.start hcore batch) _)

theorem result_generate_congr (hmem : Memoryless core view) (h : core g = core g') (prompt : Text)
    (requested ceiling : Int) (scanner : StopScanner) :
    (generate g prompt requested ceiling scanner).result
      = (generate g' prompt requested ceiling scanner).result := by
  rw [generate_result, generate_result, flowFor_congr hmem h]

end TokenLoop

/-! ## Scripted generators -/

namespace ScriptedGenerator

/-- A scripted generator without its records. -/
def unrecorded (g : ScriptedGenerator) : ScriptedGenerator := { g with prompts := [], released := 0 }

def script (g : ScriptedGenerator) : ScriptedGenerator := { g.unrecorded with cursor := none }

theorem tokenize_fst (g : ScriptedGenerator) (prompt : Text) :
    (tokenize g prompt).1 = (tokenize g.script prompt).1 := by
  have hfault : g.script.tokenizeFault = g.tokenizeFault := rfl
  rw [tokenize, tokenize, hfault]
  split <;> rfl

theorem decode_script (g : ScriptedGenerator) (batch : List Token) :
    Prod.map id unrecorded (decode g batch none) = Prod.map id unrecorded (decode g.script batch none) :=
  rfl

theorem decode_unrecorded (g : ScriptedGenerator) (batch : List Token) (handle : Unit) :
    Prod.map id unrecorded (decode g batch (some handle))
      = Prod.map id unrecorded (decode g.unrecorded batch (some handle)) :=
  rfl

theorem script_next (g : ScriptedGenerator) (c : ScriptCursor) : script (sample.next g c).2 = script g := by
  rw [sample.next]
  cases c.pieces[c.position]? <;> rfl

theorem next_unrecorded (g : ScriptedGenerator) (c : ScriptCursor) :
    Prod.map id unrecorded (sample.next g c) = Prod.map id unrecorded (sample.next g.unrecorded c) := by
  rw [sample.next, sample.next]
  cases c.pieces[c.position]? <;> rfl

theorem script_sample (g : ScriptedGenerator) : script (sample g ()).2 = script g := by
  rw [sample]
  cases g.cursor with
  | none => rfl
  | some c =>
    dsimp only
    cases g.sampleFault with
    | none => exact script_next g c
    | some fault =>
      dsimp only
      split_ifs
      · rfl
      · exact script_next g c

theorem sample_unrecorded (g : ScriptedGenerator) :
    Prod.map id unrecorded (sample g ()) = Prod.map id unrecorded (sample g.unrecorded ()) := by
  have hcursor : g.unrecorded.cursor = g.cursor := rfl
  have hfault : g.unrecorded.sampleFault = g.sampleFault := rfl
  rw [sample, sample, hcursor, hfault]
  cases g.cursor with
  | none => rfl
  | some c =>
    dsimp only
    cases g.sampleFault with
    | none => exact next_unrecorded g c
    | some fault =>
      dsimp only
      split_ifs
      · rfl
      · exact next_unrecorded g c

theorem congr_of_factor {A B : Type} {f : A → B} {forget : A → A} (hf : ∀ a, f a = f (forget a)) {a a' : A}
    (h : forget a = forget a') : f a = f a' := by
  rw [hf a, hf a', h]

theorem memoryless : Memoryless script unrecorded where
  core_tokenize g prompt := by
    show script (tokenize g prompt).2 = script g
    rw [tokenize]
    split <;> rfl
  core_decode g batch handle := rfl
  core_sample g handle := script_sample g
  core_release g handle := rfl
  tokenize h prompt := congr_of_factor (fun g => tokenize_fst g prompt) h
  start h batch := congr_of_factor (fun g => decode_script g batch) h
  decode h batch handle := congr_of_factor (fun g => decode_unrecorded g batch handle) h
  sample h handle := congr_of_factor sample_unrecorded h
  tokenText h token := rfl
  isEnd h token := rfl

end ScriptedGenerator

end GroundedDialogue
