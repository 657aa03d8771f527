import GroundedDialogue.Proofs.Answer
import GroundedDialogue.Proofs.Text.Words

/-!
# Shared words, text by text

The words of texts with spaces between them are the words of each (`Overlap.contentWords_join`), and two
texts overlap when a word of one is a word of the other (`Overlap.shares_iff`). So a question overlaps with
what was found when it overlaps with one of the texts that were found, in whatever order and in whatever
groups they are put together (`Overlap.shares_join`).
-/

namespace GroundedDialogue.Overlap

variable {least : Int} {common : List Text}

theorem isWordRune_space : isWordRune (Rune.ofChar ' ') = false := by decide

theorem contentWords_join (least : Int) (common : List Text) (ts : List Text) :
    contentWords least common (Text.join " " ts) = ts.flatMap (contentWords least common) := by
  unfold contentWords
  rw [Text.runs_lower_join isWordRune_space, List.filter_flatMap]

theorem shares_iff {a b : Text} :
    shares least common a b = true ↔ ∃ word ∈ contentWords least common a, word ∈ contentWords least common b := by
  simp [shares]

theorem shares_join_iff {question : Text} {ts : List Text} :
    shares least common question (Text.join " " ts) = true ↔ ∃ t ∈ ts, shares least common question t = true := by
  simp only [shares_iff, contentWords_join, List.mem_flatMap]
  constructor
  · rintro ⟨word, hquestion, t, ht, hword⟩
    exact ⟨t, ht, word, hquestion, hword⟩
  · rintro ⟨t, ht, word, hquestion, hword⟩
    exact ⟨word, hquestion, t, ht, hword⟩

/-- **A question overlaps with texts that are put together if it overlaps with one of them.** It does not
matter in which order they come or which of them are put together first, and the question and the context
can change places. -/
theorem shares_join (least : Int) (common : List Text) :
    (∀ (question : Text) (ts : List Text),
      shares least common question (Text.join " " ts) = true ↔ ∃ t ∈ ts, shares least common question t = true) ∧
    (∀ (question : Text) (ts ts' : List Text), ts.Perm ts' →
      shares least common question (Text.join " " ts) = shares least common question (Text.join " " ts')) ∧
    (∀ (question : Text) (groups : List (List Text)),
      shares least common question (Text.join " " (groups.map (Text.join " ")))
        = shares least common question (Text.join " " groups.flatten)) ∧
    ∀ a b : Text, shares least common a b = shares least common b a := by
  refine ⟨fun question ts => shares_join_iff, ?_, ?_, ?_⟩
  · intro question ts ts' hperm
    rw [Bool.eq_iff_iff, shares_join_iff, shares_join_iff]
    constructor
    · rintro ⟨t, ht, hshares⟩
      exact ⟨t, hperm.mem_iff.mp ht, hshares⟩
    · rintro ⟨t, ht, hshares⟩
      exact ⟨t, hperm.mem_iff.mpr ht, hshares⟩
  · intro question groups
    rw [Bool.eq_iff_iff, shares_join_iff, shares_join_iff]
    constructor
    · rintro ⟨joined, hjoined, hshares⟩
      obtain ⟨group, hgroup, rfl⟩ := List.mem_map.mp hjoined
      obtain ⟨t, ht, hshares⟩ := shares_join_iff.mp hshares
      exact ⟨t, List.mem_flatten_of_mem hgroup ht, hshares⟩
    · rintro ⟨t, ht, hshares⟩
      obtain ⟨group, hgroup, ht⟩ := List.mem_flatten.mp ht
      exact ⟨_, List.mem_map_of_mem hgroup, shares_join_iff.mpr ⟨t, ht, hshares⟩⟩
  · intro a b
    rw [Bool.eq_iff_iff, shares_iff, shares_iff]
    constructor
    · rintro ⟨word, ha, hb⟩
      exact ⟨word, hb, ha⟩
    · rintro ⟨word, hb, ha⟩
      exact ⟨word, ha, hb⟩

/-- The first letter of the keeper in the question is the sign of the kelvin, which is a k in lower case. -/
theorem shares_join_keeper :
    (["The well is dry.", "A keeper guards it."] : List Text).Perm ["A keeper guards it.", "The well is dry."] ∧
      shares leastLength commonWords "Where is the \u212AEEPER?"
        (Text.join " " ["A keeper guards it.", "The well is dry."]) = true := by
  have hperm : (["The well is dry.", "A keeper guards it."] : List Text).Perm
      ["A keeper guards it.", "The well is dry."] := List.Perm.swap _ _ _
  obtain ⟨hone, horder, -⟩ := shares_join leastLength commonWords
  have hshares : shares leastLength commonWords "Where is the \u212AEEPER?"
      (Text.join " " ["The well is dry.", "A keeper guards it."]) = true :=
    (hone _ _).mpr ⟨"A keeper guards it.", by simp, by decide +kernel⟩
  exact ⟨hperm, (horder _ _ _ hperm).symm.trans hshares⟩

end GroundedDialogue.Overlap

namespace GroundedDialogue.Request

variable {E : Type} {q : Request E} {hits : List Hit}

/-- Nothing is said without evidence: where an overlap is asked for, one of the documents has it. -/
theorem overlaps_iff :
    q.Overlaps hits ↔ (q.pipeline.requireOverlap = true →
      ∃ hit ∈ hits, Overlap.shares Overlap.leastLength Overlap.commonWords q.question hit.text = true) := by
  rw [Overlaps, Overlap.shares_join_iff]
  simp only [List.mem_map, exists_exists_and_eq_and]

end GroundedDialogue.Request
