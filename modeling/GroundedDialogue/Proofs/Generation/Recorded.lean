import GroundedDialogue.Proofs.Generation.Flow

/-!
# The calls of a generator

A recorded generator answers like the one that it stands for and keeps a list of its calls. To drive it
is to drive the other one, and what it keeps of one reply is a single call to tokenize the prompt,
followed by as many successful calls to sample as the reply counts tokens (`generate_record`).
-/

namespace GroundedDialogue

inductive Call where
  | tokenize (prompt : Text)
  | decode
  | sample (answered : Bool)
  | release
  | close
  deriving DecidableEq

/-- A generator with the calls that it was given, in order. -/
structure Recorded (G : Type) where
  generator : G
  calls : List Call

namespace Recorded

variable {G T H : Type}

/-- The same record with more calls, for the generator that these left behind. -/
def extend (r : Recorded G) (calls : List Call) (g : G) : Recorded G := ⟨g, r.calls ++ calls⟩

theorem extend_extend (r : Recorded G) (calls calls' : List Call) (g g' : G) :
    (r.extend calls g).extend calls' g' = r.extend (calls ++ calls') g' := by
  simp [extend]

instance [TextGenerator G T H] : TextGenerator (Recorded G) T H where
  modelName r := TextGenerator.modelName r.generator
  tokenize r prompt :=
    let (answer, g) := TextGenerator.tokenize r.generator prompt
    (answer, r.extend [.tokenize prompt] g)
  decode r batch handle :=
    let (answer, g) := TextGenerator.decode r.generator batch handle
    (answer, r.extend [.decode] g)
  sample r h :=
    let (answer, g) := TextGenerator.sample r.generator h
    (answer, r.extend [.sample answer.isOk] g)
  tokenText r := TextGenerator.tokenText r.generator
  isEnd r := TextGenerator.isEnd r.generator
  release r h := r.extend [.release] (TextGenerator.release r.generator h)
  close r := r.extend [.close] (TextGenerator.close r.generator)

end Recorded

namespace TokenLoop

variable {G G' T H : Type}

/-- The number of tokens that a turn samples. -/
def Turn.sampled : Turn G T H → Nat
  | .ends _ _ silent _ => silent
  | .speaks .. => 1

def Turn.map (f : G → G') : Turn G T H → Turn G' T H
  | .ends g handle silent cause => .ends (f g) handle silent cause
  | .speaks g handle token chunk => .speaks (f g) handle token chunk

def Ending.map (f : G → G') (e : Ending G H) : Ending G' H :=
  ⟨f e.generator, e.handle, e.sampled, e.scanner, e.cause⟩

def Outcome.map (f : G → G') (o : Outcome G) : Outcome G' := ⟨o.result, f o.generator, o.log⟩

/-- Calls that go on after a prompt was tokenized, with so many tokens sampled. -/
structure GoesOn (calls : List Call) (sampled : Nat) : Prop where
  not_tokenize : ∀ prompt, .tokenize prompt ∉ calls
  not_close : .close ∉ calls
  count : calls.count (.sample true) = sampled

theorem GoesOn.append {calls calls' : List Call} {m n : Nat} (h : GoesOn calls m) (h' : GoesOn calls' n) :
    GoesOn (calls ++ calls') (m + n) where
  not_tokenize prompt hmem := (List.mem_append.mp hmem).elim (h.not_tokenize prompt) (h'.not_tokenize prompt)
  not_close hmem := (List.mem_append.mp hmem).elim h.not_close h'.not_close
  count := by rw [List.count_append, h.count, h'.count]

theorem goesOn_nil : GoesOn [] 0 := ⟨by simp, by simp, rfl⟩

theorem goesOn_decode : GoesOn [.decode] 0 := ⟨by simp, by simp, by decide⟩

theorem goesOn_sample : ∀ answered, GoesOn [.decode, .sample answered] answered.toNat
  | true => ⟨by simp, by simp, by decide⟩
  | false => ⟨by simp, by simp, by decide⟩

theorem goesOn_release : GoesOn [.release] 0 := ⟨by simp, by simp, by decide⟩

variable [TextGenerator G T H]

/-! ## One reply -/

theorem turn_record (r : Recorded G) (handle : Option H) (batch : List T) :
    ∃ calls, turn r handle batch = (turn r.generator handle batch).map (r.extend calls) ∧
      GoesOn calls (turn r.generator handle batch).sampled := by
  rw [turn, turn]
  simp only [TextGenerator.decode, TextGenerator.sample, TextGenerator.isEnd, TextGenerator.tokenText]
  rcases TextGenerator.decode r.generator batch handle with ⟨f | h, g⟩
  · exact ⟨[.decode], rfl, goesOn_decode⟩
  · dsimp only [Recorded.extend]
    rcases TextGenerator.sample g h with ⟨f | token, g⟩
    · refine ⟨[.decode, .sample false], ?_, goesOn_sample false⟩
      rw [List.append_assoc]
      rfl
    · -- what follows is read off the token and is no call
      refine ⟨[.decode, .sample true], ?_⟩
      dsimp only
      rw [List.append_assoc]
      split_ifs
      · exact ⟨rfl, goesOn_sample true⟩
      · cases TextGenerator.tokenText g token with
        | error f => exact ⟨rfl, goesOn_sample true⟩
        | ok chunk => exact ⟨rfl, goesOn_sample true⟩

theorem run_record (r : Recorded G) (handle : Option H) (batch : List T) (sampled : Nat)
    (scanner : StopScanner) (budget : Nat) :
    ∃ calls n, run r handle batch sampled scanner budget
        = (run r.generator handle batch sampled scanner budget).map (r.extend calls) ∧
      GoesOn calls n ∧ (run r.generator handle batch sampled scanner budget).sampled = sampled + n := by
  induction budget generalizing r handle batch sampled scanner with
  | zero =>
    refine ⟨[], 0, ?_, goesOn_nil, rfl⟩
    simp [run, Ending.map, Recorded.extend]
  | succ budget ih =>
    obtain ⟨calls, hturn, hcalls⟩ := turn_record r handle batch
    rw [run_succ, run_succ, hturn]
    cases hplain : turn r.generator handle batch with
    | ends g handle silent cause =>
      rw [hplain] at hcalls
      exact ⟨calls, silent, rfl, hcalls, rfl⟩
    | speaks g h token chunk =>
      rw [hplain] at hcalls
      dsimp only [Turn.map]
      split_ifs
      · exact ⟨calls, 1, rfl, hcalls, rfl⟩
      · obtain ⟨later, n, hrun, hlater, hsampled⟩ :=
          ih (r.extend calls g) (some h) [token] (sampled + 1) (scanner.feed chunk).2
        refine ⟨calls ++ later, 1 + n, ?_, hcalls.append hlater, by rw [← Nat.add_assoc]; exact hsampled⟩
        rw [hrun]
        simp [Ending.map, Recorded.extend]

theorem release_record (r : Recorded G) (before : List Call) (e : Ending G H) :
    ∃ calls, (e.map (r.extend before)).release = r.extend (before ++ calls) e.release ∧
      GoesOn calls 0 := by
  cases hhandle : e.handle with
  | none =>
    refine ⟨[], ?_, goesOn_nil⟩
    simp [Ending.release, Ending.map, hhandle]
  | some h =>
    refine ⟨[.release], ?_, goesOn_release⟩
    simp [Ending.release, Ending.map, hhandle, Recorded.extend, TextGenerator.release]

theorem generation_map (f : G → G') (e : Ending G H) : (e.map f).generation = e.generation := rfl

/-- To record a generator changes nothing about the reply, and the calls are one to tokenize the prompt
and, after it, calls to decode and sample. -/
theorem generate_record (r : Recorded G) (prompt : Text) (requested ceiling : Int)
    (scanner : StopScanner) :
    ∃ calls n, generate r prompt requested ceiling scanner
        = (generate r.generator prompt requested ceiling scanner).map (r.extend (.tokenize prompt :: calls)) ∧
      GoesOn calls n ∧
      ∀ reply, (generate r.generator prompt requested ceiling scanner).result = .ok reply →
        reply.tokens = n := by
  rw [generate, generate]
  simp only [TextGenerator.tokenize, TextGenerator.modelName]
  rcases TextGenerator.tokenize r.generator prompt with ⟨f | batch, g⟩
  · exact ⟨[], 0, rfl, goesOn_nil, by simp⟩
  · dsimp only
    obtain ⟨calls, n, hrun, hcalls, hsampled⟩ := run_record (r.extend [.tokenize prompt] g) none batch 0
      scanner.reset (Budget.clamp requested ceiling).toNat
    have hgenerator : (r.extend [.tokenize prompt] g).generator = g := rfl
    rw [hgenerator] at hrun hsampled
    rw [hrun]
    generalize run g none batch 0 scanner.reset (Budget.clamp requested ceiling).toNat = e at hsampled ⊢
    obtain ⟨last, hrelease, hlast⟩ := release_record (r.extend [.tokenize prompt] g) calls e
    refine ⟨calls ++ last, n, ?_, hcalls.append hlast, ?_⟩
    · rw [hrelease, generation_map, Recorded.extend_extend]
      cases e.generation with
      | error f => rfl
      | ok reply => rfl
    · intro reply hreply
      cases hgeneration : e.generation with
      | error f => simp [hgeneration] at hreply
      | ok reply' =>
        rw [hgeneration] at hreply
        cases hreply
        rw [(generation_eq_ok hgeneration).2, hsampled, Nat.zero_add]

end TokenLoop

end GroundedDialogue
