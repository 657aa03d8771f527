import GroundedDialogue.Embedding.Embedder
import GroundedDialogue.Platform.Reference
import GroundedDialogue.Proofs.Store.Adding
import GroundedDialogue.Store.Load
import GroundedDialogue.Store.Ranking
import GroundedDialogue.Store.Save

/-!
# Runs of a store

A store is used by a sequence of operations, any of which may fail. What one of them can do to the
documents is said once, by `Holder.perform_effect`: nothing, or one document more at the end, or the
documents of a file in place of all others. From that `Holder.run_sound` follows by induction: the
documents never outgrow the store, and each of them fits, with one byte less for its text if it was
added than if it was loaded.
-/

namespace GroundedDialogue

open Disk

/-- An embedding provider with the texts that it was asked for, in order. -/
structure RecordedEmbedder (E : Type) where
  embedder : E
  texts : List Text

instance {E : Type} [EmbeddingProvider E] : EmbeddingProvider (RecordedEmbedder E) where
  embed r t :=
    let (answer, e) := EmbeddingProvider.embed r.embedder t
    (answer, ⟨e, r.texts ++ [t]⟩)

namespace Store

/-- What is done with a store. -/
inductive Operation (E : Type) where
  | add (t : Text)
  | embedQuery (t : Text)
  | search (query : Embedding) (k : Int)
  | hits (query : Embedding) (k : Int)
  | save (f : Faults) (p : Path) (atomic : Bool)
  | load (f : Faults) (path : Text)
  | attach (embedder : Option E)
  /-- Something else changes the files. -/
  | change (files : Tree)

/-- What an operation answers. -/
inductive Reply where
  | ordinal (n : Nat)
  | vector (v : Embedding)
  | slots (indices : List (Option Nat))
  | found (hits : List Hit)
  | done

inductive Refusal where
  | add (e : AddError)
  | embed (e : EmbedError)
  | query (e : QueryError)
  | save (e : SaveError)
  | load (e : LoadError)

/-- A store with the provider that is attached to it and the files that it is saved to. -/
structure Holder (E : Type) where
  store : Store
  embedder : Option E
  files : Tree
  /-- The number of documents that came from a file. The others were added after them. -/
  loaded : Nat

namespace Holder

variable {E : Type}

/-- What holds of a store that began as `s`, whatever was done with it. -/
structure Sound (s : Store) (u : Holder E) : Prop where
  capacity : u.store.capacity = s.capacity
  layout : u.store.layout = s.layout
  room : u.store.length ≤ s.capacity
  loaded_le : u.loaded ≤ u.store.length
  loaded : ∀ d ∈ u.store.documents.take u.loaded, d.Fits s.layout s.layout.maxText
  added : ∀ d ∈ u.store.documents.drop u.loaded, d.Fits s.layout (s.layout.maxText - 1)

/-- What an operation can do to the documents. -/
inductive Effect (u : Holder E) : Operation E → Except Refusal Reply → Holder E → Prop where
  | unchanged {op : Operation E} {result : Except Refusal Reply} {u' : Holder E}
    (hstore : u'.store = u.store) (hloaded : u'.loaded = u.loaded)
    (hfails : ∀ t, op = .add t → ∃ e, result = .error e) : Effect u op result u'
  | added {t : Text} {d : Document} {u' : Holder E}
    (hstore : u'.store = { u.store with documents := u.store.documents ++ [d] })
    (hloaded : u'.loaded = u.loaded) (hroom : u.store.length < u.store.capacity)
    (hfits : d.Fits u.store.layout (u.store.layout.maxText - 1)) :
    Effect u (.add t) (.ok (.ordinal (u.store.length + 1))) u'
  | loaded {f : Faults} {path : Text} {ds : List Document} {u' : Holder E}
    (hstore : u'.store = { u.store with documents := ds }) (hloaded : u'.loaded = ds.length)
    (hroom : ds.length ≤ u.store.capacity) (hfits : ∀ d ∈ ds, d.Fits u.store.layout u.store.layout.maxText) :
    Effect u (.load f path) (.ok .done) u'

section

variable [EmbeddingProvider E] [Platform]

def perform (u : Holder E) : Operation E → Except Refusal Reply × Holder E
  | .add t =>
    let a := u.store.add u.embedder t
    ((a.result.map .ordinal).mapError .add, { u with store := a.store, embedder := a.embedder })
  | .embedQuery t =>
    let (answer, embedder) := embed u.store.layout u.embedder t
    ((answer.map .vector).mapError .embed, { u with embedder := embedder })
  | .search query k => (((u.store.search query k).map .slots).mapError .query, u)
  | .hits query k => (((u.store.hits query k).map .found).mapError .query, u)
  | .save f p atomic =>
    let saving := u.store.save u.files f p atomic
    ((saving.result.map fun _ => .done).mapError .save, { u with files := saving.tree })
  | .load f path =>
    let l := u.store.load u.files f path
    match l.result with
    | .error e => (.error (.load e), { u with store := l.store })
    | .ok () => (.ok .done, { u with store := l.store, loaded := l.store.length })
  | .attach embedder => (.ok .done, { u with embedder := embedder })
  | .change files => (.ok .done, { u with files := files })

def run (u : Holder E) (ops : List (Operation E)) : Holder E := ops.foldl (fun u op => (u.perform op).2) u

end

end Holder

/-! ## Loading -/

theorem count_le_of_checkHeader {s : Store} {h : Header} (hcheck : Loading.checkHeader s h = .ok ()) :
    h.count ≤ s.capacity := by
  rw [Loading.checkHeader] at hcheck
  split_ifs at hcheck with hmagic hversion hlayout hcount
  exact Nat.le_of_not_lt hcount

theorem exists_of_bind_eq_ok {ε α β : Type} {x : Except ε α} {f : α → Except ε β} {b : β}
    (h : x >>= f = .ok b) : ∃ a, x = .ok a ∧ f a = .ok b := by
  cases x with
  | error e => cases h
  | ok a => exact ⟨a, rfl, h⟩

theorem readDocuments_fits [Platform] {f : Faults} {s : Store} {content : Bytes} {ds : List Document}
    (h : Loading.readDocuments f s content = .ok ds) :
    ds.length ≤ s.capacity ∧ ∀ d ∈ ds, d.Fits s.layout s.layout.maxText := by
  -- the header, its check and the records; nothing is asked of what the reads return
  obtain ⟨⟨start, rest⟩, -, h⟩ := exists_of_bind_eq_ok h
  obtain ⟨⟨⟩, hcheck, h⟩ := exists_of_bind_eq_ok h
  dsimp only at h
  split_ifs at h
  · cases h
    exact ⟨Nat.zero_le _, nofun⟩
  · obtain ⟨⟨⟩, -, h⟩ := exists_of_bind_eq_ok h
    obtain ⟨records, -, h⟩ := exists_of_bind_eq_ok h
    cases h
    rw [Record.length_documents]
    exact ⟨count_le_of_checkHeader hcheck, fun d hd => Record.fits_of_mem_documents hd⟩

theorem load_cases [Platform] (s : Store) (t : Tree) (f : Faults) (path : Text) :
    (∃ e, (s.load t f path).result = .error e ∧ (s.load t f path).store = s) ∨
      ∃ ds, (s.load t f path).result = .ok () ∧ (s.load t f path).store = { s with documents := ds } ∧
        ds.length ≤ s.capacity ∧ ∀ d ∈ ds, d.Fits s.layout s.layout.maxText := by
  rw [load]
  cases hdocuments : s.documentsOf t f path with
  | error e => exact Or.inl ⟨e, rfl, rfl⟩
  | ok ds =>
    refine Or.inr ⟨ds, rfl, rfl, ?_⟩
    rw [documentsOf] at hdocuments
    split at hdocuments
    · cases hdocuments
    · cases hdocuments
    · dsimp only at hdocuments
      split at hdocuments
      · cases hdocuments
      · exact readDocuments_fits hdocuments

theorem sizes_of_create {capacity embedSize maxText : Int} {s : Store}
    (h : create capacity embedSize maxText = .ok s) : (s.capacity : Int) = capacity ∧
      (s.layout.embedSize : Int) = embedSize ∧ (s.layout.maxText : Int) = maxText := by
  rw [create] at h
  split_ifs at h
  cases h
  dsimp only
  omega

namespace Holder

variable {E : Type} {s : Store} {u u' : Holder E}

/-! ## One operation -/

theorem Sound.of_unchanged (h : u.Sound s) (hstore : u'.store = u.store) (hloaded : u'.loaded = u.loaded) :
    u'.Sound s := by
  constructor <;> rw [hstore] <;> try rw [hloaded]
  exacts [h.capacity, h.layout, h.room, h.loaded_le, h.loaded, h.added]

theorem Sound.of_added (h : u.Sound s) {d : Document}
    (hstore : u'.store = { u.store with documents := u.store.documents ++ [d] })
    (hloaded : u'.loaded = u.loaded) (hroom : u.store.length < u.store.capacity)
    (hfits : d.Fits u.store.layout (u.store.layout.maxText - 1)) : u'.Sound s := by
  have hlength : u'.store.length = u.store.length + 1 := by rw [hstore, length, length]; simp
  have hle : u.loaded ≤ u.store.documents.length := h.loaded_le
  refine ⟨?_, ?_, ?_, ?_, ?_, ?_⟩
  · rw [hstore, ← h.capacity]
  · rw [hstore, ← h.layout]
  · rw [hlength, ← h.capacity]
    exact hroom
  · rw [hlength, hloaded]
    exact Nat.le_succ_of_le h.loaded_le
  · rw [hstore, hloaded]
    dsimp only
    rw [List.take_append_of_le_length hle]
    exact h.loaded
  · -- the new document comes behind all that were loaded, so it counts among the added
    rw [hstore, hloaded]
    dsimp only
    rw [List.drop_append_of_le_length hle]
    intro d' hd'
    rcases List.mem_append.mp hd' with hd' | hd'
    · exact h.added d' hd'
    · rw [List.mem_singleton.mp hd', ← h.layout]
      exact hfits

theorem Sound.of_loaded (h : u.Sound s) {ds : List Document}
    (hstore : u'.store = { u.store with documents := ds }) (hloaded : u'.loaded = ds.length)
    (hroom : ds.length ≤ u.store.capacity) (hfits : ∀ d ∈ ds, d.Fits u.store.layout u.store.layout.maxText) :
    u'.Sound s := by
  refine ⟨?_, ?_, ?_, ?_, ?_, ?_⟩
  · rw [hstore, ← h.capacity]
  · rw [hstore, ← h.layout]
  · rw [hstore, ← h.capacity]
    exact hroom
  · rw [hstore, hloaded]
    exact Nat.le_refl _
  · rw [hstore, hloaded, List.take_length, ← h.layout]
    exact hfits
  · rw [hstore, hloaded, List.drop_length]
    exact nofun

theorem sound_start {capacity embedSize maxText : Int} (h : create capacity embedSize maxText = .ok s)
    (embedder : Option E) (files : Tree) : Sound s ⟨s, embedder, files, 0⟩ := by
  have hnone := documents_of_create h
  refine ⟨rfl, rfl, ?_, ?_, ?_, ?_⟩ <;> simp [length, hnone]

section

variable [EmbeddingProvider E] [Platform]

theorem perform_effect (u : Holder E) (op : Operation E) :
    u.Effect op (u.perform op).1 (u.perform op).2 := by
  cases op with
  | add t =>
    rcases u.store.add_cases u.embedder t with ⟨e, hresult, hstore⟩ | ⟨d, hresult, hstore, hroom, hfits⟩
    · refine .unchanged hstore rfl fun _ _ => ⟨.add e, ?_⟩
      rw [perform, hresult]
      rfl
    · rw [perform, hresult]
      exact .added hstore rfl hroom hfits
  | load f path =>
    rcases u.store.load_cases u.files f path with ⟨e, hresult, hstore⟩ | ⟨ds, hresult, hstore, hroom, hfits⟩
    · rw [perform, hresult]
      exact .unchanged hstore rfl (by simp)
    · rw [perform, hresult]
      exact .loaded hstore (congrArg Store.length hstore) hroom hfits
  -- the other operations do not touch the store
  | embedQuery t => exact .unchanged rfl rfl (by simp)
  | search query k => exact .unchanged rfl rfl (by simp)
  | hits query k => exact .unchanged rfl rfl (by simp)
  | save f p atomic => exact .unchanged rfl rfl (by simp)
  | attach embedder => exact .unchanged rfl rfl (by simp)
  | change files => exact .unchanged rfl rfl (by simp)

theorem Sound.perform (h : u.Sound s) (op : Operation E) : (u.perform op).2.Sound s := by
  have heffect := u.perform_effect op
  generalize (u.perform op).1 = result at heffect
  generalize (u.perform op).2 = u' at heffect
  cases heffect with
  | unchanged hstore hloaded hfails => exact h.of_unchanged hstore hloaded
  | added hstore hloaded hroom hfits => exact h.of_added hstore hloaded hroom hfits
  | loaded hstore hloaded hroom hfits => exact h.of_loaded hstore hloaded hroom hfits

omit [Platform] in
theorem embed_recorded (l : Layout) (e : E) (texts : List Text) (t : Text) :
    embed l (some (RecordedEmbedder.mk e texts)) t = ((embed l (some e) t).1,
      (embed l (some e) t).2.map fun e => ⟨e, texts ++ [t]⟩) := rfl

omit [Platform] in
/-- A provider is asked once for a text that is added, and not for one that is refused before. -/
theorem add_recorded (s : Store) (e : E) (texts : List Text) (t : Text) :
    (s.add (some (RecordedEmbedder.mk e texts)) t).result = (s.add (some e) t).result ∧
      (s.add (some (RecordedEmbedder.mk e texts)) t).embedder.map RecordedEmbedder.texts =
        some (match (s.add (some e) t).result with
          | .error (.full _) | .error (.unencodable _) => texts
          | .error (.embed _) | .ok _ => texts ++ [untilNull t]) := by
  rw [add, add]
  split_ifs
  · exact ⟨rfl, rfl⟩
  · cases Text.truncate (textLimit s.layout) (untilNull t) with
    | error e => exact ⟨rfl, rfl⟩
    | ok kept =>
      dsimp only
      rw [embed_recorded]
      obtain ⟨answer, e', hembed⟩ : ∃ answer e', embed s.layout (some e) (untilNull t) = (answer, some e') :=
        ⟨_, _, rfl⟩
      rw [hembed]
      cases answer with
      | error e => exact ⟨rfl, rfl⟩
      | ok v => exact ⟨rfl, rfl⟩

/-! ## Any number of operations -/

theorem Sound.run (h : u.Sound s) (ops : List (Operation E)) : (u.run ops).Sound s := by
  induction ops generalizing u with
  | nil => exact h
  | cons op rest ih => exact ih (h.perform op)

/-- **Whatever is done with a store, its documents have room and fit.** Only adding a text and loading a
file change them, and only when they succeed; and a provider is not asked about a text that is refused
before. -/
theorem run_sound {capacity embedSize maxText : Int} (h : create capacity embedSize maxText = .ok s)
    (embedder : Option E) (files : Tree) (ops : List (Operation E)) :
    let u := Holder.run ⟨s, embedder, files, 0⟩ ops
    ((u.store.length : Int) ≤ capacity ∧ (s.layout.embedSize : Int) = embedSize ∧
      (s.layout.maxText : Int) = maxText ∧ u.Sound s) ∧
      (∀ op e, (u.perform op).1 = .error e → (u.perform op).2.store = u.store) ∧
      (∀ t reply, (u.perform (.add t)).1 = .ok reply →
        ∃ d, (u.perform (.add t)).2.store.documents = u.store.documents ++ [d] ∧
          reply = .ordinal (u.store.documents ++ [d]).length) ∧
      (∀ op, (u.perform op).2.store.documents ≠ u.store.documents →
        (∃ reply, (u.perform op).1 = .ok reply) ∧
          ((∃ t, op = .add t) ∨ ∃ f path, op = .load f path)) ∧
      ∀ (e : E) texts t, (u.store.add (some (RecordedEmbedder.mk e texts)) t).result
          = (u.store.add (some e) t).result ∧
        (u.store.add (some (RecordedEmbedder.mk e texts)) t).embedder.map RecordedEmbedder.texts =
          some (match (u.store.add (some e) t).result with
            | .error (.full _) | .error (.unencodable _) => texts
            | .error (.embed _) | .ok _ => texts ++ [untilNull t]) := by
  intro u
  have hsound : u.Sound s := (sound_start h embedder files).run ops
  obtain ⟨hcapacity, hembed, hmax⟩ := sizes_of_create h
  have hroom := hsound.room
  refine ⟨⟨by omega, hembed, hmax, hsound⟩, ?_, ?_, ?_, fun e texts t => add_recorded u.store e texts t⟩
  · intro op e he
    have heffect := u.perform_effect op
    rw [he] at heffect
    cases heffect with
    | unchanged hstore => exact hstore
  · intro t reply hreply
    have heffect := u.perform_effect (.add t)
    rw [hreply] at heffect
    generalize (u.perform (.add t)).2 = u' at heffect
    cases heffect with
    | unchanged hstore hloaded hfails =>
      obtain ⟨e, he⟩ := hfails t rfl
      cases he
    | @added t d u' hstore =>
      refine ⟨d, by rw [hstore], ?_⟩
      rw [List.length_append]
      rfl
  · intro op hchanged
    have heffect := u.perform_effect op
    generalize (u.perform op).1 = result at heffect
    generalize (u.perform op).2 = u' at heffect hchanged
    cases heffect with
    | unchanged hstore => exact absurd (congrArg Store.documents hstore) hchanged
    | @added t => exact ⟨⟨_, rfl⟩, Or.inl ⟨t, rfl⟩⟩
    | @loaded f path => exact ⟨⟨_, rfl⟩, Or.inr ⟨f, path, rfl⟩⟩

end

def single : Store := ⟨1, ⟨1, 5, Nat.one_pos, Nat.succ_pos 4⟩, []⟩

theorem run_single :
    create 1 1 5 = .ok single ∧
      let u := Holder.run ⟨single, some (Embedder.scripted [.ok [.zero]]), Tree.empty, 0⟩ [.add "ruins"]
      u.store.documents.map Document.text = [("ruin" : Text)] ∧ u.Sound single ∧
        (u.perform (.add "well")).1 = .error (.add (.full 1)) ∧ (u.perform (.add "well")).2.store = u.store := by
  have hcreate : create 1 1 5 = .ok single := by rfl
  obtain ⟨⟨-, -, -, hsound⟩, hfails, -⟩ :=
    run_sound hcreate (some (Embedder.scripted [.ok [.zero]])) Tree.empty [.add "ruins"]
  exact ⟨hcreate, rfl, hsound, rfl, hfails (.add "well") (.add (.full 1)) rfl⟩

end Holder

end Store

end GroundedDialogue
