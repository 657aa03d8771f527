import GroundedDialogue.Generation.Generators
import GroundedDialogue.Proofs.Generation.Flow

/-!
# Failures of a generator

Faults of generation and of memory do not get past the token loop: once the prompt is tokenized, a
generator that fails in no other way gives a reply, however early it fails (`result_generate_eq_error`).
Which generators these are is said by a property that every call keeps (`FailsGently`).
-/

namespace GroundedDialogue

/-- The faults that end a reply early. -/
def Fault.EndsReply (f : Fault) : Prop := f.kind = .generation ∨ f.kind = .memory

instance (f : Fault) : Decidable f.EndsReply := inferInstanceAs (Decidable (_ ∨ _))

/-- Generators of which every call leaves another one behind and fails, if it does, only with faults
that end a reply. -/
structure FailsGently {G T H : Type} [TextGenerator G T H] (good : G → Prop) : Prop where
  tokenize {g : G} (prompt : Text) (h : good g) : good (TextGenerator.tokenize g prompt).2 ∧
    ∀ f, (TextGenerator.tokenize g prompt).1 = .error f → f.EndsReply
  decode {g : G} (batch : List T) (handle : Option H) (h : good g) :
    good (TextGenerator.decode g batch handle).2 ∧
      ∀ f, (TextGenerator.decode g batch handle).1 = .error f → f.EndsReply
  sample {g : G} (handle : H) (h : good g) : good (TextGenerator.sample g handle).2 ∧
    ∀ f, (TextGenerator.sample g handle).1 = .error f → f.EndsReply
  tokenText {g : G} (token : T) (h : good g) :
    ∀ f, TextGenerator.tokenText g token = .error f → f.EndsReply
  release {g : G} (handle : H) (h : good g) : good (TextGenerator.release g handle)

namespace TokenLoop

variable {G T H : Type} [TextGenerator G T H] {good : G → Prop} {g : G}

/-- A turn leaves a good generator behind and ends, if it does, with a fault that ends a reply. -/
def Turn.Gentle (good : G → Prop) : Turn G T H → Prop
  | .ends g _ _ cause => good g ∧ ∀ f, cause = .error f → f.EndsReply
  | .speaks g _ _ _ => good g

theorem turn_gentle (hgood : FailsGently good) (hg : good g) (handle : Option H) (batch : List T) :
    (turn g handle batch).Gentle good := by
  -- every call is made of the generator that the one before left behind
  have hdecode := hgood.decode batch handle hg
  rw [turn]
  rcases hcall : TextGenerator.decode g batch handle with ⟨f | h, g⟩ <;> rw [hcall] at hdecode
  · refine ⟨hdecode.1, ?_⟩
    rintro _ ⟨⟩
    exact hdecode.2 f rfl
  · have hsample := hgood.sample h hdecode.1
    dsimp only at hsample ⊢
    rcases hcall : TextGenerator.sample g h with ⟨f | token, g⟩ <;> rw [hcall] at hsample
    · refine ⟨hsample.1, ?_⟩
      rintro _ ⟨⟩
      exact hsample.2 f rfl
    · have htext := hgood.tokenText token hsample.1
      dsimp only at htext ⊢
      split_ifs
      · exact ⟨hsample.1, by simp⟩
      · cases hchunk : TextGenerator.tokenText g token with
        | error f =>
          refine ⟨hsample.1, ?_⟩
          rintro _ ⟨⟩
          exact htext f hchunk
        | ok chunk => exact hsample.1

theorem run_gentle (hgood : FailsGently good) (hg : good g) (handle : Option H) (batch : List T)
    (sampled : Nat) (scanner : StopScanner) (budget : Nat) :
    good (run g handle batch sampled scanner budget).generator ∧
      ∀ f, (run g handle batch sampled scanner budget).cause = .error f → f.EndsReply := by
  induction budget generalizing g handle batch sampled scanner with
  | zero => exact ⟨hg, nofun⟩
  | succ budget ih =>
    have hturn := turn_gentle hgood hg handle batch
    rw [run_succ]
    cases hnext : turn g handle batch with
    | ends g handle silent cause =>
      rw [hnext] at hturn
      exact hturn
    | speaks g h token chunk =>
      rw [hnext] at hturn
      dsimp only
      split_ifs
      · exact ⟨hturn, nofun⟩
      · exact ih hturn _ _ _ _

theorem good_release (hgood : FailsGently good) {e : Ending G H} (he : good e.generator) :
    good e.release := by
  rw [Ending.release]
  cases e.handle with
  | none => exact he
  | some h => exact hgood.release h he

theorem exists_generation {e : Ending G H} (h : ∀ f, e.cause = .error f → f.EndsReply) :
    ∃ r, e.generation = .ok r := by
  rw [Ending.generation]
  cases hcause : e.cause with
  | ok reason => exact ⟨_, rfl⟩
  | error f =>
    dsimp only
    rcases h f hcause with hkind | hkind
    · rw [hkind]
      exact ⟨_, rfl⟩
    · rw [hkind]
      exact ⟨_, rfl⟩

theorem good_generate (hgood : FailsGently good) (hg : good g) (prompt : Text) (requested ceiling : Int)
    (scanner : StopScanner) : good (generate g prompt requested ceiling scanner).generator := by
  have htokenize := hgood.tokenize prompt hg
  rw [generate]
  rcases hcall : TextGenerator.tokenize g prompt with ⟨f | batch, g⟩ <;> rw [hcall] at htokenize
  · exact htokenize.1
  · dsimp only at htokenize ⊢
    have hrun := run_gentle hgood htokenize.1 none batch 0 scanner.reset
      (Budget.clamp requested ceiling).toNat
    have hrelease := good_release hgood hrun.1
    cases (run g none batch 0 scanner.reset (Budget.clamp requested ceiling).toNat).generation with
    | error f => exact hrelease
    | ok r => exact hrelease

theorem result_generate_eq_error (hgood : FailsGently good) (hg : good g) (prompt : Text)
    (requested ceiling : Int) (scanner : StopScanner) (f : Fault) :
    (generate g prompt requested ceiling scanner).result = .error f ↔
      (TextGenerator.tokenize g prompt).1 = .error f := by
  have htokenize := hgood.tokenize prompt hg
  rw [generate]
  rcases hcall : TextGenerator.tokenize g prompt with ⟨f' | batch, g⟩ <;> rw [hcall] at htokenize
  · simp
  · dsimp only at htokenize ⊢
    have hrun := run_gentle hgood htokenize.1 none batch 0 scanner.reset
      (Budget.clamp requested ceiling).toNat
    obtain ⟨r, hreply⟩ := exists_generation hrun.2
    rw [hreply]
    simp

end TokenLoop

/-! ## Scripted generators -/

namespace ScriptedGenerator

/-- The faults in a script that are not about decoding end a reply. -/
def Gentle (g : ScriptedGenerator) : Prop :=
  (∀ f, g.tokenizeFault = some f → f.EndsReply) ∧ ∀ position f, g.sampleFault = some (position, f) → f.EndsReply

theorem failsGently : FailsGently Gentle where
  tokenize {g} prompt h := by
    show Gentle (tokenize g prompt).2 ∧ ∀ f, (tokenize g prompt).1 = .error f → _
    rw [tokenize]
    cases hfault : g.tokenizeFault with
    | some f =>
      refine ⟨h, ?_⟩
      rintro _ ⟨⟩
      exact h.1 f hfault
    | none => exact ⟨⟨by simp, h.2⟩, nofun⟩
  decode {g} batch handle h := by
    refine ⟨h, fun f hf => Or.inl ?_⟩
    have hdecode : (decode g batch handle).1 = .error f := hf
    rw [decode] at hdecode
    dsimp only at hdecode
    split_ifs at hdecode
    cases hdecode
    rfl
  sample {g} handle h := by
    show Gentle (sample g handle).2 ∧ ∀ f, (sample g handle).1 = .error f → _
    have hnext : ∀ c, Gentle (sample.next g c).2 ∧ ∀ f, (sample.next g c).1 = .error f → f.EndsReply := by
      intro c
      rw [sample.next]
      cases c.pieces[c.position]? with
      | none => exact ⟨h, nofun⟩
      | some piece => exact ⟨h, nofun⟩
    rw [sample]
    cases g.cursor with
    | none => exact ⟨h, nofun⟩
    | some c =>
      dsimp only
      cases hfault : g.sampleFault with
      | none => exact hnext c
      | some fault =>
        obtain ⟨position, f⟩ := fault
        dsimp only
        split_ifs
        · refine ⟨h, ?_⟩
          rintro _ ⟨⟩
          exact h.2 position f hfault
        · exact hnext c
  tokenText token h := nofun
  release handle h := h

end ScriptedGenerator

theorem Generator.failsGently_scripted :
    FailsGently fun g : Generator => ∃ script : ScriptedGenerator, g = .scripted script ∧ script.Gentle where
  tokenize := by
    rintro _ prompt ⟨script, rfl, h⟩
    obtain ⟨hgentle, hfault⟩ := ScriptedGenerator.failsGently.tokenize prompt h
    exact ⟨⟨_, rfl, hgentle⟩, hfault⟩
  decode := by
    rintro _ batch handle ⟨script, rfl, h⟩
    obtain ⟨hgentle, hfault⟩ := ScriptedGenerator.failsGently.decode batch handle h
    exact ⟨⟨_, rfl, hgentle⟩, hfault⟩
  sample := by
    rintro _ handle ⟨script, rfl, h⟩
    obtain ⟨hgentle, hfault⟩ := ScriptedGenerator.failsGently.sample handle h
    exact ⟨⟨_, rfl, hgentle⟩, hfault⟩
  tokenText token h := nofun
  release := by
    rintro _ handle ⟨script, rfl, h⟩
    exact ⟨_, rfl, ScriptedGenerator.failsGently.release handle h⟩

end GroundedDialogue
