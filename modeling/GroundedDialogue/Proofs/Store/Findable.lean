import GroundedDialogue.Embedding.Embedder
import GroundedDialogue.Proofs.Store.Ranking
import Mathlib.Data.List.Count
import Mathlib.Data.List.Nodup

/-!
# Which documents are found

A search leaves a slot empty that some document could fill exactly if too few documents are rankable
(`Store.search_complete_iff`). A document is lost to a search whose score with it is no number or negative
infinity, because such a score does not beat an empty slot. It is lost to every search if a component of
its embedding is no number (`Store.not_rankable_of_isNaN`), but finite components do not save it: the
product of a document with itself can already be too large for the format (`Store.search_overflowing`).
-/

namespace GroundedDialogue

namespace Embedding

theorem isNaN_cosine [Platform] {query v : Embedding} (hlength : v.length = query.length)
    (h : ∃ x ∈ v, x.isNaN = true) : (query.cosine v).isNaN = true := by
  obtain ⟨x, hx, hnan⟩ := h
  obtain ⟨i, hi, rfl⟩ := List.getElem_of_mem hx
  have hzip : i < (List.zipWith Binary32.mul query v).length := by
    rw [List.length_zipWith]
    omega
  apply Binary32.isNaN_div_left
  apply Platform.isNaN_dot hlength.symm
  refine ⟨(List.zipWith Binary32.mul query v)[i], List.getElem_mem hzip, ?_⟩
  rw [List.getElem_zipWith]
  exact Binary32.isNaN_mul (Or.inr hnan)

end Embedding

namespace Store

/-! ## Slots that are filled -/

/-- So many slots hold as many different documents as they can, and are empty only behind all documents
of the store. -/
def Complete (s : Store) (k : Nat) (slots : List (Option Nat)) : Prop :=
  ∃ order : List Nat, order.Nodup ∧ (∀ i ∈ order, i < s.length) ∧ order.length = min k s.length ∧
    slots = order.map some ++ List.replicate (k - s.length) none

theorem mem_ranking_iff {s : Store} {score : Document → Binary32} {i : Nat} :
    i ∈ s.ranking score ↔ i < s.length ∧ s.rankable score i = true := by
  rw [(ranks_ranking s score).positions.mem_iff, List.mem_filter, List.mem_range]

theorem length_ranking (s : Store) (score : Document → Binary32) :
    (s.ranking score).length = (List.range s.length).countP (s.rankable score) := by
  rw [(ranks_ranking s score).positions.length_eq, List.countP_eq_length_filter]

theorem length_ranking_le (s : Store) (score : Document → Binary32) : (s.ranking score).length ≤ s.length := by
  have hle := List.countP_le_length (p := s.rankable score) (l := List.range s.length)
  rwa [← length_ranking, List.length_range] at hle

theorem countP_isSome_filled (order : List Nat) (n : Nat) :
    (order.map some ++ List.replicate n none).countP Option.isSome = order.length := by
  have hsome : (order.map some).countP Option.isSome = order.length := by
    rw [List.countP_map]
    exact List.countP_eq_length.mpr fun _ _ => rfl
  rw [List.countP_append, hsome, List.countP_replicate]
  simp

/-- The slots are filled as far as they can be if the rankable documents suffice for that. -/
theorem complete_topSlots_iff {s : Store} {score : Document → Binary32} {k : Nat} :
    s.Complete k (s.topSlots score k) ↔ min k s.length ≤ (s.ranking score).length := by
  have hle := length_ranking_le s score
  constructor
  · rintro ⟨order, -, -, hlength, hslots⟩
    have hfilled := congrArg (List.countP Option.isSome) hslots
    rw [topSlots, countP_isSome_filled, countP_isSome_filled, List.length_take] at hfilled
    omega
  · intro hmin
    have hempty : k - (s.ranking score).length = k - s.length := by omega
    refine ⟨(s.ranking score).take k, ?_, ?_, ?_, ?_⟩
    · exact (ranks_ranking s score).nodup.sublist (List.take_sublist _ _)
    · intro i hi
      exact (ranks_ranking s score).lt_length (List.mem_of_mem_take hi)
    · rw [List.length_take]
      omega
    · rw [topSlots, hempty]

theorem count_topSlots {s : Store} {score : Document → Binary32} {k i : Nat} (hk : s.length ≤ k) :
    (s.topSlots score k).count (some i) = 1 ↔ i < s.length ∧ s.rankable score i = true := by
  have hle := length_ranking_le s score
  have hnone : (List.replicate (k - (s.ranking score).length) (none : Option Nat)).count (some i) = 0 := by
    apply List.count_eq_zero.mpr
    simp
  rw [topSlots, List.take_of_length_le (by omega), List.count_append, hnone, Nat.add_zero,
    List.count_map_of_injective _ _ (fun _ _ => Option.some.inj), ← mem_ranking_iff]
  constructor
  · intro hone
    apply List.count_pos_iff.mp
    omega
  · intro hmem
    exact List.count_eq_one_of_mem (ranks_ranking s score).nodup hmem

section

variable [Platform] {s : Store} {query : Embedding}

theorem not_rankable_of_isNaN {i : Nat} {d : Document} (hd : s.documents[i]? = some d)
    (hlength : d.embedding.length = query.length) (hnan : ∃ x ∈ d.embedding, x.isNaN = true) :
    s.rankable (similarity query) i = false := by
  have hscore : s.scoreAt (similarity query) i = query.cosine d.embedding := by
    rw [scoreAt, scores, List.getD_eq_getElem?_getD, List.getElem?_map, hd]
    rfl
  rw [rankable, hscore, Embedding.isNaN_cosine hlength hnan]
  rfl

/-! ## Searches -/

theorem search_eq_ok_iff (hquery : query.length = s.layout.embedSize) {k : Int} (hk : 0 ≤ k)
    {slots : List (Option Nat)} : s.search query k = .ok slots ↔
      Platform.holds k.toNat slotSize = true ∧ slots = s.topSlots (similarity query) k.toNat := by
  by_cases hzero : k ≤ 0
  · have hnone : k.toNat = 0 := by omega
    have hslots : s.topSlots (similarity query) 0 = [] :=
      List.eq_nil_of_length_eq_zero (length_topSlots s (similarity query) 0)
    rw [search, if_pos hzero, hnone, hslots]
    simp [Platform.holds_zero, eq_comm]
  · by_cases hholds : Platform.holds k.toNat slotSize = true
    · rw [(search_of_holds hquery (by omega) hholds).1]
      simp [hholds, eq_comm]
    · obtain ⟨f, hf, -⟩ := search_of_not_holds hquery (by omega) hholds
      rw [hf]
      simp [hholds]

/-- **A search leaves a slot empty that a document could fill exactly if too few documents are
rankable.** Each document is in one of enough slots exactly if all of them are. A document is not rankable,
whatever the query, if a component of its embedding is no number. -/
theorem search_complete_iff (s : Store) (query : Embedding) (hquery : query.length = s.layout.embedSize) :
    let score := similarity query
    (∀ k : Int, 0 ≤ k → ((∃ slots, s.search query k = .ok slots ∧ s.Complete k.toNat slots) ↔
      Platform.holds k.toNat slotSize = true ∧
        min k.toNat s.length ≤ (List.range s.length).countP (s.rankable score))) ∧
    (∀ k : Int, s.length ≤ k →
      ((∃ slots, s.search query k = .ok slots ∧ ∀ i < s.length, slots.count (some i) = 1) ↔
        Platform.holds k.toNat slotSize = true ∧ ∀ i < s.length, s.rankable score i = true)) ∧
    ∀ (i : Nat) (d : Document), s.documents[i]? = some d → d.embedding.length = s.layout.embedSize →
      (∃ x ∈ d.embedding, x.isNaN = true) → s.rankable score i = false := by
  refine ⟨?_, ?_, ?_⟩
  · intro k hk
    simp only [search_eq_ok_iff hquery hk, ← length_ranking, ← complete_topSlots_iff]
    constructor
    · rintro ⟨slots, ⟨hholds, rfl⟩, hcomplete⟩
      exact ⟨hholds, hcomplete⟩
    · rintro ⟨hholds, hcomplete⟩
      exact ⟨_, ⟨hholds, rfl⟩, hcomplete⟩
  · intro k hk
    have hslots : s.length ≤ k.toNat := by omega
    simp only [search_eq_ok_iff hquery (Int.le_trans (Int.natCast_nonneg _) hk)]
    constructor
    · rintro ⟨slots, ⟨hholds, rfl⟩, hone⟩
      exact ⟨hholds, fun i hi => ((count_topSlots hslots).mp (hone i hi)).2⟩
    · rintro ⟨hholds, hall⟩
      exact ⟨_, ⟨hholds, rfl⟩, fun i hi => (count_topSlots hslots).mpr ⟨hi, hall i hi⟩⟩
  · intro i d hd hlength hnan
    exact not_rankable_of_isNaN hd (hlength.trans hquery.symm) hnan

end

/-- A document that points away from the query, and two without a score: one that is no number, and an
infinite one. -/
def scoreless : Store where
  capacity := 4
  layout := ⟨1, 8, Nat.one_pos, Nat.succ_pos 7⟩
  documents := [⟨[⟨0xBF800000⟩], "a"⟩, ⟨[.nan], "b"⟩, ⟨[⟨0x7F800000⟩], "c"⟩]

theorem search_scoreless :
    [(⟨0x3F800000⟩ : Binary32)].length = scoreless.layout.embedSize ∧
      (∃ slots, scoreless.search [⟨0x3F800000⟩] 1 = .ok slots ∧ scoreless.Complete 1 slots) ∧
      (¬∃ slots, scoreless.search [⟨0x3F800000⟩] 2 = .ok slots ∧ scoreless.Complete 2 slots) ∧
      scoreless.rankable (similarity [⟨0x3F800000⟩]) 1 = false := by
  have hdimension : [(⟨0x3F800000⟩ : Binary32)].length = scoreless.layout.embedSize := rfl
  have hone : (List.range scoreless.length).countP (scoreless.rankable (similarity [⟨0x3F800000⟩])) = 1 := by
    decide +kernel
  obtain ⟨hcomplete, -, hlost⟩ := search_complete_iff scoreless [⟨0x3F800000⟩] hdimension
  refine ⟨hdimension, ?_, ?_, ?_⟩
  · apply (hcomplete 1 (by decide)).mpr
    rw [hone]
    exact ⟨by decide, by decide⟩
  · intro h
    have hmin := ((hcomplete 2 (by decide)).mp h).2
    rw [hone] at hmin
    exact absurd hmin (by decide)
  · exact hlost 1 ⟨[.nan], "b"⟩ rfl rfl ⟨.nan, List.mem_singleton_self _, Binary32.isNaN_nan⟩

/-- A store with one document, whose only component is a hundred million million million. -/
def overflowing : Store :=
  (add ⟨1, ⟨1, 3, Nat.one_pos, Nat.succ_pos 2⟩, []⟩ (some (Embedder.scripted [.ok [⟨0x60AD78EC⟩]])) "a").store

/-- A document is not found by its own embedding. -/
theorem search_overflowing :
    overflowing.documents = [⟨[⟨0x60AD78EC⟩], "a"⟩] ∧
      (⟨0x60AD78EC⟩ : Binary32) = Binary32.ofInt (10 ^ 20) ∧
      overflowing.search [⟨0x60AD78EC⟩] 1 = .ok [none] ∧
      ¬∃ slots, overflowing.search [⟨0x60AD78EC⟩] 1 = .ok slots ∧ overflowing.Complete 1 slots := by
  have hnone : overflowing.search [⟨0x60AD78EC⟩] 1 = .ok [none] := by decide +kernel
  refine ⟨by decide +kernel, by decide +kernel, hnone, ?_⟩
  rintro ⟨slots, hslots, order, -, -, hlength, hfilled⟩
  rw [hnone] at hslots
  obtain rfl := Except.ok.inj hslots
  have hempty := congrArg (List.countP Option.isSome) hfilled
  rw [countP_isSome_filled, hlength] at hempty
  exact absurd hempty (by decide +kernel)

end Store

end GroundedDialogue
