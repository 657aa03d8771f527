import GroundedDialogue.Main
import GroundedDialogue.Proofs.Answer
import GroundedDialogue.Proofs.Embedding.Hashed
import GroundedDialogue.Proofs.Store.LoadFailures
import GroundedDialogue.Proofs.Store.Runs

/-!
# What a question ends with

The command reads two files that can hold anything, the one with the instruction and the store, and then
retrieves, generates and cleans up. With words that are hashed and the generator that needs no server, all
that can come of it is told by the files: an answer, a logged error, or a fault that the command does not
deal with (`Ask.Comes`). The faults are `Ask.Escapes`: an instruction that is not valid UTF-8, a path that
cannot be handed to the system, a store file that promises more documents than fit into memory, and more
slots than fit. Everything else that is wrong with the files is logged, and the number zero means that an
answer was printed which is not the fallback (`Ask.raised_iff`).
-/

namespace GroundedDialogue

open Disk

/-- Valid settings for runs without a server: words are hashed, and the best document is said. -/
structure Settings.Offline (s : Settings) : Prop where
  valid : s.issues = []
  embedder : s.embedProvider = "hash"
  generator : s.generatorProvider = "mock"

theorem Settings.sizes_of_issues {s : Settings} (h : s.issues = []) :
    1 ≤ s.embedDimension ∧ 0 ≤ s.maxDocuments ∧ 1 ≤ s.topK := by
  simp only [issues, List.append_eq_nil_iff, ite_eq_left_iff, List.cons_ne_nil, imp_false, not_not,
    decide_eq_true_eq] at h
  exact ⟨h.1.1.1.1.2, h.1.1.1.2, h.1.2⟩

theorem Settings.exists_createStore {s : Settings} (h : s.issues = []) : ∃ store, s.createStore = .ok store := by
  obtain ⟨hdimension, hdocuments, -⟩ := sizes_of_issues h
  rw [createStore, Store.create, if_neg (by omega), dif_neg (by omega), dif_neg (by decide)]
  exact ⟨_, rfl⟩

namespace Command

theorem chooseEmbedder_offline {s : Settings} (hs : s.Offline) (model : Option Text) :
    chooseEmbedder s model = .ok (.hashed s.embedDimension) := by
  rw [chooseEmbedder, Settings.chooseEmbedder, Settings.orElse, hs.embedder]
  rfl

theorem chooseGenerator_offline {s : Settings} (hs : s.Offline) (entry : ModelEntry) :
    chooseGenerator s entry = .ok .offline := by
  rw [chooseGenerator, Settings.chooseGenerator, Settings.orElse, hs.generator]
  rfl

namespace Ask

variable {s : Settings} {t : Tree} {given : Given Key}

/-! ## What is asked for -/

/-- A question about a store file, for a model. -/
structure Inquiry where
  question : Text
  context : Text
  entry : ModelEntry

/-- The options make this inquiry: none of them is missing, the file has the name of a store file, and the
model is known. No file is looked at for that. -/
structure Inquiry.MadeBy (i : Inquiry) (s : Settings) (given : Given Key) : Prop where
  question : nonEmpty? (given.value? .prompt) = some i.question
  context : nonEmpty? (given.value? .context) = some i.context
  ending : i.context.endsWith storeEnding = true
  entry : ModelTable.find? (Settings.orElse (given.value? .model) s.defaultModel) = some i.entry

theorem Inquiry.MadeBy.unique {i j : Inquiry} (hi : i.MadeBy s given) (hj : j.MadeBy s given) : i = j := by
  obtain ⟨question, context, entry⟩ := i
  obtain ⟨question', context', entry'⟩ := j
  cases hi.question.symm.trans hj.question
  cases hi.context.symm.trans hj.context
  cases hi.entry.symm.trans hj.entry
  rfl

def Inquiry.plan (i : Inquiry) (s : Settings) (given : Given Key) (store : Store) (instruction : Text) : Plan where
  question := i.question
  context := i.context
  speaker := given.value? .speaker
  pipeline := { pipeline s i.entry with
    systemPrompt := instruction
    scanStops := !given.has .raw
    cleanReplies := !given.has .raw
    includeSpeaker := (given.value? .speaker).isSome }
  embedder := .hashed s.embedDimension
  store := store

theorem requireStoreFile_eq {path : Option Text} : requireStoreFile path =
    match nonEmpty? path with
    | none => .error (.logged "Context .vdb file must be provided. Exiting...")
    | some path => if path.endsWith storeEnding then .ok path
      else .error (.logged "Context file must be a .vdb vector database") := by
  rw [requireStoreFile, require]
  cases nonEmpty? path with
  | none => rfl
  | some path => rfl

theorem plan_of_madeBy (hs : s.Offline) {store : Store} (hcreate : s.createStore = .ok store) {i : Inquiry}
    (hi : i.MadeBy s given) :
    plan s t given = (systemPrompt t (given.value? .systemFile)).map (i.plan s given store) := by
  have hstore : createStore s = .ok store := by rw [createStore, hcreate]; rfl
  rw [plan, require, hi.question, requireStoreFile_eq, hi.context]
  dsimp only
  rw [hi.ending, findModel, hi.entry]
  cases systemPrompt t (given.value? .systemFile) with
  | error h => rfl
  | ok instruction =>
    dsimp only [bind, Except.bind, if_true]
    rw [chooseEmbedder_offline hs, hstore]
    rfl

theorem plan_of_not_madeBy (h : ¬∃ i : Inquiry, i.MadeBy s given) :
    ∃ message, plan s t given = .error (.logged message) := by
  rw [plan, require, requireStoreFile_eq]
  cases hquestion : nonEmpty? (given.value? .prompt) with
  | none => exact ⟨_, rfl⟩
  | some question =>
    cases hcontext : nonEmpty? (given.value? .context) with
    | none => exact ⟨_, rfl⟩
    | some context =>
      dsimp only
      cases hending : context.endsWith storeEnding with
      | false => exact ⟨_, rfl⟩
      | true =>
        rw [findModel]
        cases hentry : ModelTable.find? (Settings.orElse (given.value? .model) s.defaultModel) with
        | none => exact ⟨_, rfl⟩
        | some entry => exact absurd ⟨⟨question, context, entry⟩, hquestion, hcontext, hending, hentry⟩ h

/-! ## The file with the instruction -/

/-- The instruction can be had: its file, if one is named, holds a text. -/
def InstructionUsable (t : Tree) (given : Given Key) : Prop :=
  ∀ path, nonEmpty? (given.value? .systemFile) = some path →
    ∃ content text, t.read (Path.ofText path).text = .ok content ∧ Text.decodeStrict? content = some text

/-- A file for the instruction whose defect is not dealt with. -/
inductive InstructionEscapes (t : Tree) (path : Text) : Prop
  | path {e : InvalidPath} (h : Tree.checkPath (Path.ofText path).text = .error e) : InstructionEscapes t path
  | content {content : Bytes} (hread : t.read (Path.ofText path).text = .ok content)
    (h : Text.decodeStrict? content = none) : InstructionEscapes t path

theorem readSystemPrompt_eq_ok_iff {path : Text} : (∃ instruction, readSystemPrompt t path = .ok instruction) ↔
    ∃ content text, t.read (Path.ofText path).text = .ok content ∧ Text.decodeStrict? content = some text := by
  rw [readSystemPrompt]
  cases t.read (Path.ofText path).text with
  | error e => cases e <;> simp
  | ok content =>
    dsimp only
    cases hdecode : Text.decodeStrict? content <;> simp [hdecode]

theorem instructionEscapes_iff {path : Text} : InstructionEscapes t path ↔
    (∃ e, t.read (Path.ofText path).text = .error (.invalid e)) ∨
      ∃ content, t.read (Path.ofText path).text = .ok content ∧ Text.decodeStrict? content = none := by
  simp only [Tree.read_eq_invalid_iff]
  constructor
  · rintro (h | ⟨hread, h⟩)
    · exact Or.inl ⟨_, h⟩
    · exact Or.inr ⟨_, hread, h⟩
  · rintro (⟨e, h⟩ | ⟨content, hread, h⟩)
    · exact .path h
    · exact .content hread h

theorem readSystemPrompt_unhandled_iff {path : Text} :
    (∃ e, readSystemPrompt t path = .error (.unhandled e)) ↔ InstructionEscapes t path := by
  rw [readSystemPrompt, instructionEscapes_iff]
  cases t.read (Path.ofText path).text with
  | error e => cases e <;> simp
  | ok content =>
    dsimp only
    cases hdecode : Text.decodeStrict? content <;> simp [hdecode]

theorem systemPrompt_eq_ok_iff :
    (∃ instruction, systemPrompt t (given.value? .systemFile) = .ok instruction) ↔ InstructionUsable t given := by
  rw [systemPrompt, InstructionUsable]
  cases nonEmpty? (given.value? .systemFile) with
  | none => simp
  | some path => simp [readSystemPrompt_eq_ok_iff]

theorem systemPrompt_unhandled_iff : (∃ e, systemPrompt t (given.value? .systemFile) = .error (.unhandled e)) ↔
    ∃ path, nonEmpty? (given.value? .systemFile) = some path ∧ InstructionEscapes t path := by
  rw [systemPrompt]
  cases nonEmpty? (given.value? .systemFile) with
  | none => simp
  | some path => simp [readSystemPrompt_unhandled_iff]

/-! ## The store file -/

section

variable [Platform]

/-- The file holds documents that fit into a store of the sizes that are set, and there is room for them. -/
def StoreUsable (s : Settings) (t : Tree) (path : Text) : Prop :=
  ∃ store file, s.createStore = .ok store ∧ t.read path = .ok file ∧ Loading.Acceptable store file ∧
    (Bytes.wordAt file 16 ≠ 0 → Record.HasRoom store.layout (Bytes.wordAt file 16))

/-- A store file whose defect is not dealt with. -/
inductive StoreEscapes (s : Settings) (t : Tree) (path : Text) : Prop
  | path {e : InvalidPath} (h : Tree.checkPath path = .error e) : StoreEscapes s t path
  | file {store : Store} {file : Bytes} {fault : Fault} (hcreate : s.createStore = .ok store)
    (hread : t.read path = .ok file) (h : Loading.Overlong .none store file fault) : StoreEscapes s t path

theorem load_eq_ok_iff {store : Store} (hcreate : s.createStore = .ok store) {path : Text} :
    (store.load t .none path).result = .ok () ↔ StoreUsable s t path := by
  constructor
  · intro hload
    cases hread : t.read path with
    | error e =>
      have hopen : Loading.openFile .none t path = .error e := hread
      rw [Store.load, Store.documentsOf, hopen] at hload
      cases e <;> cases hload
    | ok file =>
      have hserves : Loading.Serves .none t path file := ⟨hread, fun _ => rfl, rfl⟩
      obtain ⟨hacceptable, hroom, -⟩ := Store.load_ok hserves hload
      exact ⟨store, file, hcreate, hread, hacceptable, hroom⟩
  · rintro ⟨store', file, hcreate', hread, hacceptable, hroom⟩
    rw [hcreate] at hcreate'
    cases hcreate'
    have hserves : Loading.Serves .none t path file := ⟨hread, fun _ => rfl, rfl⟩
    exact (Store.load_of_acceptable hserves hacceptable hroom).1

theorem load_escapes_iff {store : Store} (hcreate : s.createStore = .ok store) {path : Text} :
    (∃ e, (store.load t .none path).result = .error e ∧ e.code? = none) ↔ StoreEscapes s t path := by
  simp only [Store.result_load_eq_error_iff, Store.escapes_iff]
  constructor
  · rintro ⟨e, h⟩
    cases h with
    | path hopening hdevice h => exact .path h
    | close hopen h => cases h
    | records hopen hleaving h => exact .file hcreate hopen h
  · rintro (h | ⟨hcreate', hread, h⟩)
    · exact ⟨_, .path rfl rfl h⟩
    · rw [hcreate] at hcreate'
      cases hcreate'
      exact ⟨_, .records hread rfl h⟩

/-! ## The question -/

/-- The question as it is put to the pipeline once the store was loaded. -/
def Plan.request {E : Type} (p : Plan) (e : E) (t : Tree) : Request E where
  pipeline := p.pipeline
  embedder := some e
  question := p.question
  store := some (p.store.load t .none p.context).store
  speaker := p.speaker
  fallback := none

omit [Platform] in
theorem exists_embed_hashed {dimension : Int} (hd : 1 ≤ dimension) (hfits : 4 * dimension < 2 ^ 63) {l : Layout}
    (hsize : l.embedSize = dimension.toNat) (question : Text) :
    ∃ v, (Store.embed l (some (Embedder.hashed dimension)) question).1 = .ok v := by
  obtain ⟨v, hv, hlength⟩ := Hashed.exists_embed hd hfits question
  have hanswer : EmbeddingProvider.embed (Embedder.hashed dimension) question = (.ok v, Embedder.hashed dimension) := by
    show (Hashed.embed dimension question, Embedder.hashed dimension) = _
    rw [hv]
  refine ⟨v, ?_⟩
  rw [Store.embed, hanswer]
  dsimp only
  rw [if_pos (hlength.trans hsize.symm)]

/-- A store that was loaded is of a size that every question can be embedded in. Only the slots can be too
many. -/
theorem overfull_iff (hs : s.Offline) {store : Store} (hcreate : s.createStore = .ok store) {i : Inquiry}
    {instruction : Text} (hload : (store.load t .none i.context).result = .ok ()) :
    ((i.plan s given store instruction).request (Embedder.hashed s.embedDimension) t).Overfull ↔
      ¬Platform.holds s.topK.toNat Store.slotSize = true := by
  obtain ⟨hdimension, -, hslots⟩ := Settings.sizes_of_issues hs.valid
  obtain ⟨store', file, hcreate', hread, hacceptable, -⟩ := (load_eq_ok_iff hcreate).mp hload
  rw [hcreate] at hcreate'
  cases hcreate'
  have hserves : Loading.Serves .none t i.context file := ⟨hread, fun _ => rfl, rfl⟩
  have hlayout : (store.load t .none i.context).store.layout = store.layout := by
    rw [(Store.load_ok hserves hload).2.2]
  have hsize : (store.layout.embedSize : Int) = s.embedDimension := (Store.sizes_of_create hcreate).2.1
  -- the size that is set equals a word of the file, so a vector of that size can be addressed
  have hword := Bytes.wordAt_lt file 8
  rw [hacceptable.layout.1] at hword
  obtain ⟨v, hv⟩ := exists_embed_hashed hdimension (by omega) (l := (store.load t .none i.context).store.layout)
    (by rw [hlayout]; omega) i.question
  constructor
  · rintro ⟨-, -, h⟩
    exact h
  · intro h
    refine ⟨⟨_, v, rfl, hv⟩, ?_, h⟩
    show 0 < s.topK
    omega

/-! ## What comes of it -/

/-- The files that the options name can be used. -/
structure Usable (s : Settings) (t : Tree) (given : Given Key) : Prop where
  instruction : InstructionUsable t given
  store : ∀ path, nonEmpty? (given.value? .context) = some path → StoreUsable s t path

/-- What the command does not deal with, if it comes to that. -/
inductive Escapes (s : Settings) (t : Tree) (given : Given Key) : Prop
  | instruction {i : Inquiry} {path : Text} (hi : i.MadeBy s given)
    (hpath : nonEmpty? (given.value? .systemFile) = some path) (h : InstructionEscapes t path) : Escapes s t given
  | store {i : Inquiry} (hi : i.MadeBy s given) (hinstruction : InstructionUsable t given)
    (h : StoreEscapes s t i.context) : Escapes s t given
  /-- There is no memory for the slots of the documents that are looked for. -/
  | slots {i : Inquiry} (hi : i.MadeBy s given) (hinstruction : InstructionUsable t given)
    (hstore : StoreUsable s t i.context) (h : ¬Platform.holds s.topK.toNat Store.slotSize = true) : Escapes s t given

/-- The answer to the question, if it comes to that. -/
def Answers (s : Settings) (t : Tree) (given : Given Key) (a : Answer) : Prop :=
  ∃ p, plan s t given = .ok p ∧ (p.store.load t .none p.context).result = .ok () ∧
    ((p.request (Program.services.embedder p.embedder) t).answer (Program.services.generator .offline)).result = .ok a

theorem Answers.unique {a b : Answer} (ha : Answers s t given a) (hb : Answers s t given b) : a = b := by
  obtain ⟨p, hp, -, ha⟩ := ha
  obtain ⟨p', hp', -, hb⟩ := hb
  rw [hp] at hp'
  cases hp'
  rw [ha] at hb
  exact Except.ok.inj hb

/-- The run has logged an error and done nothing else. -/
structure Refused {G : Type} (r : Run G) : Prop where
  ending : r.ending = .returned 1
  output : r.output = []
  generator : r.generator = none
  logged : ∃ message, ⟨.error, message⟩ ∈ r.threshold.filter r.log

/-- All that can come of options. An inquiry about usable files is not refused. -/
inductive Comes (s : Settings) (t : Tree) (given : Given Key) (r : Run Generator) : Prop
  | raised {e : Unhandled} (hescapes : Escapes s t given) (hnone : ∀ a, ¬Answers s t given a)
    (hending : r.ending = .raised e) : Comes s t given r
  | refused (hescapes : ¬Escapes s t given) (hunusable : ∀ i : Inquiry, i.MadeBy s given → ¬Usable s t given)
    (hnone : ∀ a, ¬Answers s t given a) (h : Refused r) : Comes s t given r
  | answered {a : Answer} (hescapes : ¬Escapes s t given) (husable : Usable s t given) (ha : Answers s t given a)
    (hending : r.ending = .returned (if a.usedFallback then 1 else 0)) (houtput : r.output = printed [a.text]) :
    Comes s t given r

theorem escapes_iff {i : Inquiry} (hi : i.MadeBy s given) : Escapes s t given ↔
    (∃ path, nonEmpty? (given.value? .systemFile) = some path ∧ InstructionEscapes t path) ∨
      InstructionUsable t given ∧ (StoreEscapes s t i.context ∨
        StoreUsable s t i.context ∧ ¬Platform.holds s.topK.toNat Store.slotSize = true) := by
  constructor
  · rintro (⟨-, hpath, h⟩ | ⟨hj, hinstruction, h⟩ | ⟨hj, hinstruction, hstore, h⟩)
    · exact Or.inl ⟨_, hpath, h⟩
    · cases hi.unique hj
      exact Or.inr ⟨hinstruction, Or.inl h⟩
    · cases hi.unique hj
      exact Or.inr ⟨hinstruction, Or.inr ⟨hstore, h⟩⟩
  · rintro (⟨path, hpath, h⟩ | ⟨hinstruction, h | ⟨hstore, h⟩⟩)
    · exact .instruction hi hpath h
    · exact .store hi hinstruction h
    · exact .slots hi hinstruction hstore h

omit [Platform] in
theorem keeps_error_thresholdFor (verbose : Bool) : (thresholdFor verbose).keeps .error = true := by
  cases verbose <;> rfl

omit [Platform] in
theorem refused_hinder {G : Type} {r : Run G} (hthreshold : r.threshold.keeps .error = true) (houtput : r.output = [])
    (hgenerator : r.generator = none) (message : Text) : Refused (r.hinder (.logged message)) where
  ending := rfl
  output := houtput
  generator := hgenerator
  logged := ⟨message, List.mem_filter.mpr ⟨List.mem_append_right _ List.mem_cons_self, hthreshold⟩⟩

theorem exists_answer_iff (q : Request Embedder) :
    (∃ a, (q.answer (Program.services.generator .offline)).result = .ok a) ↔ ¬q.Overfull := by
  have hgentle : ∃ script : ScriptedGenerator, Program.services.generator .offline = .scripted script ∧ script.Gentle :=
    ⟨ScriptedGenerator.offline, rfl, nofun, nofun⟩
  refine ⟨?_, Request.exists_answer Generator.failsGently_scripted hgentle⟩
  rintro ⟨a, ha⟩ hfull
  obtain ⟨f, hf⟩ := Request.exists_of_overfull hfull (Program.services.generator .offline)
  rw [ha] at hf
  cases hf

section

variable {G T H E : Type} [TextGenerator G T H] [EmbeddingProvider E] {services : Services G E} {p : Plan} {g : G}

theorem ask_of_error {f : Fault} (h : ((p.request (services.embedder p.embedder) t).answer g).result = .error f)
    (r : Run G) : (ask services p (p.store.load t .none p.context).store g r).ending = .raised (.generation f) := by
  rw [Request.answer, Plan.request] at h
  rw [ask]
  dsimp only at h ⊢
  rw [h]
  rfl

theorem ask_of_ok {a : Answer} (h : ((p.request (services.embedder p.embedder) t).answer g).result = .ok a)
    (r : Run G) :
    (ask services p (p.store.load t .none p.context).store g r).ending
        = .returned (if a.usedFallback then 1 else 0) ∧
      (ask services p (p.store.load t .none p.context).store g r).output = r.output ++ printed [a.text] := by
  rw [Request.answer, Plan.request] at h
  rw [ask]
  dsimp only at h ⊢
  rw [h]
  exact ⟨rfl, rfl⟩

theorem carryOut_of_error {r : Run G} {e : LoadError} (h : (p.store.load r.tree .none p.context).result = .error e) :
    carryOut services s p r
      = (r.note (p.store.load r.tree .none p.context).log).hinder (loadHindrance p.context e) := by
  rw [carryOut, h]

theorem carryOut_of_ok (hs : s.Offline) {r : Run G} (h : (p.store.load r.tree .none p.context).result = .ok ()) :
    carryOut services s p r = ask services p (p.store.load r.tree .none p.context).store
      (services.generator .offline) (r.note (p.store.load r.tree .none p.context).log) := by
  rw [carryOut, h]
  dsimp only
  rw [chooseGenerator_offline hs]

end

theorem comes_ask {p : Plan} (hplan : plan s t given = .ok p) (hload : (p.store.load t .none p.context).result = .ok ())
    (husable : Usable s t given)
    (hescapes : Escapes s t given ↔ (p.request (Program.services.embedder p.embedder) t).Overfull)
    {r : Run Generator} (houtput : r.output = []) :
    Comes s t given (ask Program.services p (p.store.load t .none p.context).store
      (Program.services.generator .offline) r) := by
  have hanswer := exists_answer_iff (p.request (Program.services.embedder p.embedder) t)
  rw [← hescapes] at hanswer
  cases hresult : ((p.request (Program.services.embedder p.embedder) t).answer
    (Program.services.generator .offline)).result with
  | error f =>
    refine .raised ?_ ?_ (ask_of_error hresult r)
    · by_contra hnot
      obtain ⟨a, ha⟩ := hanswer.mpr hnot
      rw [hresult] at ha
      cases ha
    · rintro a ⟨p', hp, -, ha⟩
      rw [hplan] at hp
      cases hp
      rw [hresult] at ha
      cases ha
  | ok a =>
    obtain ⟨hending, hprinted⟩ := ask_of_ok hresult r
    rw [houtput, List.nil_append] at hprinted
    exact .answered (hanswer.mp ⟨a, hresult⟩) husable ⟨p, hplan, hload, hresult⟩ hending hprinted

section

variable {i : Inquiry} {store : Store} {instruction : Text} (hs : s.Offline) (hcreate : s.createStore = .ok store)
  (hi : i.MadeBy s given) (hinstruction : systemPrompt t (given.value? .systemFile) = .ok instruction)

include hi hinstruction

theorem escapes_iff_of_instruction : Escapes s t given ↔
      StoreEscapes s t i.context ∨ StoreUsable s t i.context ∧ ¬Platform.holds s.topK.toNat Store.slotSize = true := by
  have husable := systemPrompt_eq_ok_iff.mp ⟨_, hinstruction⟩
  have hnone : ¬∃ path, nonEmpty? (given.value? .systemFile) = some path ∧ InstructionEscapes t path := by
    rw [← systemPrompt_unhandled_iff]
    rintro ⟨e, he⟩
    rw [hinstruction] at he
    cases he
  rw [escapes_iff hi, or_iff_right hnone, and_iff_right husable]

include hs hcreate

omit [Platform] in
theorem plan_of_instruction : plan s t given = .ok (i.plan s given store instruction) := by
  rw [plan_of_madeBy hs hcreate hi, hinstruction]
  rfl

theorem comes_of_loaded (verbose : Bool) (hload : (store.load t .none i.context).result = .ok ()) :
    Comes s t given (carryOut Program.services s (i.plan s given store instruction)
      (.start (thresholdFor verbose) t)) := by
  have hstore : StoreUsable s t i.context := (load_eq_ok_iff hcreate).mp hload
  have hsound : ¬StoreEscapes s t i.context := by
    rw [← load_escapes_iff hcreate, hload]
    rintro ⟨e, he, -⟩
    cases he
  have husable : Usable s t given := by
    refine ⟨systemPrompt_eq_ok_iff.mp ⟨_, hinstruction⟩, fun path hpath => ?_⟩
    rw [hi.context] at hpath
    cases hpath
    exact hstore
  -- both files can be used, so only the slots are left
  have hescapes := escapes_iff_of_instruction hi hinstruction
  rw [or_iff_right hsound, and_iff_right hstore, ← overfull_iff hs hcreate hload] at hescapes
  rw [carryOut_of_ok (p := i.plan s given store instruction) (r := .start (thresholdFor verbose) t) hs hload]
  exact comes_ask (plan_of_instruction hs hcreate hi hinstruction) hload husable hescapes rfl

theorem comes_of_not_loaded (verbose : Bool) {e : LoadError}
    (hload : (store.load t .none i.context).result = .error e) :
    Comes s t given (carryOut Program.services s (i.plan s given store instruction)
      (.start (thresholdFor verbose) t)) := by
  have hstore : ¬StoreUsable s t i.context := by
    rw [← load_eq_ok_iff hcreate, hload]
    exact nofun
  have hnone : ∀ a, ¬Answers s t given a := by
    rintro a ⟨p, hp, hok, -⟩
    rw [plan_of_instruction hs hcreate hi hinstruction] at hp
    cases hp
    cases hload.symm.trans hok
  have hescapes : Escapes s t given ↔ e.code? = none := by
    rw [escapes_iff_of_instruction hi hinstruction, or_iff_left fun hrest => hstore hrest.1,
      ← load_escapes_iff hcreate, hload]
    simp
  rw [carryOut_of_error (p := i.plan s given store instruction) (r := .start (thresholdFor verbose) t) hload,
    loadHindrance]
  cases hcode : e.code? with
  | none => exact .raised (hescapes.mpr hcode) hnone rfl
  | some code =>
    refine .refused ?_ ?_ hnone (refused_hinder (keeps_error_thresholdFor verbose) rfl rfl _)
    · rw [hescapes, hcode]
      exact nofun
    · rintro j - husable
      exact hstore (husable.store _ hi.context)

end

theorem comes_of_no_instruction {i : Inquiry} (hi : i.MadeBy s given) {h : Hindrance}
    (hinstruction : systemPrompt t (given.value? .systemFile) = .error h) (hnone : ∀ a, ¬Answers s t given a)
    (verbose : Bool) : Comes s t given (Run.hinder (.start (thresholdFor verbose) t) h) := by
  have hunusable : ¬InstructionUsable t given := by
    rw [← systemPrompt_eq_ok_iff, hinstruction]
    rintro ⟨instruction, hok⟩
    cases hok
  have hescapes : Escapes s t given ↔ ∃ e, h = .unhandled e := by
    rw [escapes_iff hi, or_iff_left fun hrest => hunusable hrest.1, ← systemPrompt_unhandled_iff, hinstruction]
    simp
  cases h with
  | unhandled e => exact .raised (hescapes.mpr ⟨e, rfl⟩) hnone rfl
  | logged message =>
    refine .refused ?_ ?_ hnone (refused_hinder (keeps_error_thresholdFor verbose) rfl rfl message)
    · rw [hescapes]
      rintro ⟨e, he⟩
      cases he
    · rintro j - husable
      exact hunusable husable.instruction

theorem comes_of_not_made (hmade : ¬∃ i : Inquiry, i.MadeBy s given) (hnone : ∀ a, ¬Answers s t given a)
    (verbose : Bool) (message : Text) :
    Comes s t given (Run.hinder (.start (thresholdFor verbose) t) (.logged message)) := by
  refine .refused ?_ (fun i hi => absurd ⟨i, hi⟩ hmade) hnone
    (refused_hinder (keeps_error_thresholdFor verbose) rfl rfl message)
  rintro (⟨hi, -⟩ | ⟨hi, -⟩ | ⟨hi, -⟩) <;> exact hmade ⟨_, hi⟩

theorem not_answers_of_plan {h : Hindrance} (hplan : plan s t given = .error h) (a : Answer) :
    ¬Answers s t given a := by
  rintro ⟨p, hp, -⟩
  rw [hplan] at hp
  cases hp

theorem comes_run (hs : s.Offline) {arguments : List Text} (hgiven : Arguments.parse specs arguments = .ok given)
    (hlist : given.has .list = false) : Comes s t given (run Program.services s t arguments) := by
  obtain ⟨store, hcreate⟩ := Settings.exists_createStore hs.valid
  rw [run, hgiven]
  dsimp only
  rw [hlist, if_neg Bool.false_ne_true]
  -- whether there is an inquiry is known before any file is looked at
  by_cases hmade : ∃ i : Inquiry, i.MadeBy s given
  · obtain ⟨i, hi⟩ := hmade
    cases hinstruction : systemPrompt t (given.value? .systemFile) with
    | ok instruction =>
      rw [plan_of_instruction hs hcreate hi hinstruction]
      cases hload : (store.load t .none i.context).result with
      | ok loaded => exact comes_of_loaded hs hcreate hi hinstruction _ hload
      | error e => exact comes_of_not_loaded hs hcreate hi hinstruction _ hload
    | error h =>
      have hplan : plan s t given = .error h := by
        rw [plan_of_madeBy hs hcreate hi, hinstruction]
        rfl
      rw [hplan]
      exact comes_of_no_instruction hi hinstruction (not_answers_of_plan hplan) _
  · obtain ⟨message, hplan⟩ := plan_of_not_madeBy (t := t) hmade
    rw [hplan]
    exact comes_of_not_made hmade (not_answers_of_plan hplan) _ message

/-- **Every file that cannot be used is reported, and zero means an answer**, unless something escapes. What
escapes ends the run at once. An inquiry about files that can be used is answered. -/
theorem raised_iff (hs : s.Offline) (t : Tree) {arguments : List Text}
    (hgiven : Arguments.parse specs arguments = .ok given) (hlist : given.has .list = false) :
    let r := run Program.services s t arguments
    ((∃ e, r.ending = .raised e) ↔ Escapes s t given) ∧
      (¬Escapes s t given → r.ending = .returned 0 ∨ r.ending = .returned 1) ∧
      (¬Escapes s t given → ¬Usable s t given → Refused r) ∧
      (¬Escapes s t given → Usable s t given → ∀ i : Inquiry, i.MadeBy s given → ∃ a, Answers s t given a) ∧
      (r.ending = .returned 0 ↔ ∃ a, Answers s t given a ∧ a.usedFallback = false ∧ r.output = printed [a.text]) := by
  dsimp only
  rcases comes_run (t := t) hs hgiven hlist with ⟨hescapes, hnone, hending⟩ |
    ⟨hescapes, hunusable, hnone, hrefused⟩ | @⟨a, hescapes, husable, ha, hending, houtput⟩
  · rw [hending]
    refine ⟨iff_of_true ⟨_, rfl⟩ hescapes, absurd hescapes, absurd hescapes, absurd hescapes, iff_of_false nofun ?_⟩
    rintro ⟨a, ha, -⟩
    exact hnone a ha
  · rw [hrefused.ending]
    refine ⟨iff_of_false nofun hescapes, fun _ => Or.inr rfl, fun _ _ => hrefused,
      fun _ husable i hi => absurd husable (hunusable i hi), iff_of_false nofun ?_⟩
    rintro ⟨a, ha, -⟩
    exact hnone a ha
  · rw [hending]
    refine ⟨iff_of_false nofun hescapes, fun _ => ?_, fun _ h => absurd husable h, fun _ _ _ _ => ⟨a, ha⟩, ?_⟩
    · cases a.usedFallback
      · exact Or.inl rfl
      · exact Or.inr rfl
    · constructor
      · intro hzero
        refine ⟨a, ha, ?_, houtput⟩
        cases hused : a.usedFallback with
        | false => rfl
        | true =>
          rw [hused] at hzero
          cases hzero
      · rintro ⟨b, hb, hused, -⟩
        cases ha.unique hb
        rw [hused]
        rfl

end

def tiny : Settings := { Settings.defaults with embedDimension := 1, generatorProvider := "mock" }

theorem offline_tiny : tiny.Offline := ⟨by decide, rfl, rfl⟩

def signpost : Bytes :=
  [0x56, 0x44, 0x42, 0x31, 1, 0, 0, 0, 1, 0, 0, 0, 0, 4, 0, 0, 1, 0, 0, 0, 0, 0, 0x80, 0x3F]
    ++ ("Go north." : Text).encode ++ List.replicate 1015 0

def treeWith (instruction : Bytes) : Tree :=
  (Tree.empty.set ["work", "a.vdb"] (.file signpost)).set ["work", "rules.txt"] (.file instruction)

def whither : List Text := ["-p", "Where?", "-c", "a.vdb", "--system-file", "rules.txt"]

/-- With a store file of one document the question is answered, and without any file it is refused. -/
theorem raised_iff_signpost :
    let given : Given Key := [(.prompt, some "Where?"), (.context, some "a.vdb"), (.systemFile, some "rules.txt")]
    (∃ a, Answers tiny (treeWith [0x4D, 0x65]) given a ∧ a.usedFallback = false ∧
        (run Program.services tiny (treeWith [0x4D, 0x65]) whither).output = printed [a.text]) ∧
      Refused (run Program.services tiny Tree.empty whither) := by
  intro given
  have hgiven : Arguments.parse specs whither = .ok given := by decide +kernel
  obtain ⟨-, -, -, -, hanswered⟩ := raised_iff offline_tiny (treeWith [0x4D, 0x65]) hgiven rfl
  obtain ⟨hraised, -, hrefused, -⟩ := raised_iff offline_tiny Tree.empty hgiven rfl
  refine ⟨hanswered.mp (by decide +kernel), hrefused ?_ ?_⟩
  · have hending : (run Program.services tiny Tree.empty whither).ending = .returned 1 := by decide +kernel
    rw [← hraised, hending]
    exact nofun
  · intro husable
    obtain ⟨content, text, hread, -⟩ := husable.instruction "rules.txt" rfl
    cases hread

/-- An instruction that is not valid UTF-8 ends the run. -/
theorem raised_undecodable :
    tiny.Offline ∧ (run Program.services tiny (treeWith [0xFF]) whither).ending = .raised .undecodable :=
  ⟨offline_tiny, by decide +kernel⟩

end Ask

end Command

end GroundedDialogue
