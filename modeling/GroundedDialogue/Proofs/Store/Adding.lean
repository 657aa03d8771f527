import GroundedDialogue.Proofs.Store.Record
import GroundedDialogue.Proofs.Text.Truncate

/-!
# Stores that only grow

`Store.add_cases` says all that an attempt to add a text can do: it fails and leaves the store as it
was, or it adds one document that fits at the end. By induction every store that is reached from an
empty one by such attempts holds only documents that fit (`Grown.fits`).
-/

namespace GroundedDialogue.Store

variable {E : Type} [EmbeddingProvider E]

theorem length_of_embed {l : Layout} {embedder embedder' : Option E} {t : Text} {v : Embedding}
    (h : embed l embedder t = (.ok v, embedder')) : v.length = l.embedSize := by
  cases embedder with
  | none => cases h
  | some e =>
    rw [embed] at h
    dsimp only at h
    have hanswer := congrArg Prod.fst h
    dsimp only at hanswer
    split at hanswer
    · cases hanswer
    · split_ifs at hanswer with hlength
      cases hanswer
      exact hlength

theorem fits_truncate {l : Layout} {t kept : Text} {v : Embedding} (hv : v.length = l.embedSize)
    (h : Text.truncate (textLimit l) (untilNull t) = .ok kept) :
    Document.Fits l (l.maxText - 1) ⟨v, kept⟩ := by
  have hpos := l.maxText_pos
  obtain ⟨-, hencodable, hinitial, hshort⟩ := Text.truncate_ok h
  refine ⟨hv, hencodable, ?_, ?_⟩
  · intro hzero
    have hnull := Text.zero_mem_encode.mp (hinitial.subset hzero)
    exact Bytes.not_mem_takeWhile_ne 0 t hnull
  · have hlimit : textLimit l = (l.maxText : Int) - 1 := rfl
    have hle := hshort (by omega)
    rw [hlimit] at hle
    dsimp only
    omega

/-- An attempt to add a text fails and changes nothing, or adds one document that fits. -/
theorem add_cases (s : Store) (embedder : Option E) (t : Text) :
    (∃ e, (s.add embedder t).result = .error e ∧ (s.add embedder t).store = s) ∨
      ∃ d, (s.add embedder t).result = .ok (s.length + 1) ∧
        (s.add embedder t).store = { s with documents := s.documents ++ [d] } ∧
        s.length < s.capacity ∧ d.Fits s.layout (s.layout.maxText - 1) := by
  rw [add]
  by_cases hfull : s.isFull = true
  · rw [if_pos hfull]
    exact Or.inl ⟨_, rfl, rfl⟩
  · rw [if_neg hfull]
    cases htruncate : Text.truncate (textLimit s.layout) (untilNull t) with
    | error e => exact Or.inl ⟨_, rfl, rfl⟩
    | ok kept =>
      dsimp only
      cases hembed : embed s.layout embedder (untilNull t) with
      | mk answer embedder' =>
        cases answer with
        | error e => exact Or.inl ⟨_, rfl, rfl⟩
        | ok v =>
          have hroom : s.length < s.capacity := by
            rw [isFull, decide_eq_true_eq] at hfull
            omega
          exact Or.inr ⟨⟨v, kept⟩, rfl, rfl, hroom, fits_truncate (length_of_embed hembed) htruncate⟩

/-! ## Any number of attempts -/

/-- A store that is reached from an empty one by attempts to add texts, each with any provider. -/
inductive Grown : Store → Prop
  | create {capacity embedSize maxText : Int} {s : Store} (h : create capacity embedSize maxText = .ok s) :
    Grown s
  | add {s : Store} (h : Grown s) {E : Type} [EmbeddingProvider E] (embedder : Option E) (t : Text) :
    Grown (s.add embedder t).store

theorem documents_of_create {capacity embedSize maxText : Int} {s : Store}
    (h : create capacity embedSize maxText = .ok s) : s.documents = [] := by
  rw [create] at h
  split_ifs at h
  cases h
  rfl

theorem Grown.fits {s : Store} (hs : Grown s) :
    ∀ d ∈ s.documents, d.Fits s.layout (s.layout.maxText - 1) := by
  induction hs with
  | create h =>
    rw [documents_of_create h]
    exact fun _ hd => nomatch hd
  | @add s _ E _ embedder t ih =>
    rcases s.add_cases embedder t with ⟨e, -, hstore⟩ | ⟨d, -, hstore, -, hd⟩
    · rw [hstore]
      exact ih
    · rw [hstore]
      intro d' hd'
      rcases List.mem_append.mp hd' with hd' | hd'
      · exact ih d' hd'
      · rw [List.mem_singleton.mp hd']
        exact hd

end GroundedDialogue.Store
