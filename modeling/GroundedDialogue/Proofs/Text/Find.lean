import GroundedDialogue.Text.Basic
import Mathlib.Data.List.Infix

/-!
# First occurrences

`Text.find?` gives the least position at which a pattern starts (`find?_eq_some_iff`), and nothing
exactly when the pattern is no part of the text (`find?_eq_none_iff`).
-/

namespace GroundedDialogue.Text

theorem isInfix_iff_exists_drop {pattern t : Text} :
    pattern <:+: t ↔ ∃ i ≤ t.length, pattern <+: t.drop i := by
  constructor
  · rintro ⟨before, after, rfl⟩
    refine ⟨before.length, by simp, ?_⟩
    rw [List.append_assoc, List.drop_left]
    exact List.prefix_append _ _
  · rintro ⟨i, -, h⟩
    exact h.isInfix.trans (List.drop_suffix i t).isInfix

theorem isPrefix_of_isPrefix_append_cons {pattern x rest : Text} {r : Rune} (hr : r ∉ pattern)
    (h : pattern <+: x ++ r :: rest) : pattern <+: x := by
  by_cases hlength : pattern.length ≤ x.length
  · exact List.prefix_of_prefix_length_le h (List.prefix_append _ _) hlength
  · have hover : x ++ [r] <+: x ++ r :: rest := ⟨rest, by simp⟩
    have hpart := List.prefix_of_prefix_length_le hover h (by simp; omega)
    exact absurd (hpart.mem (by simp)) hr

theorem isInfix_of_isInfix_append {first : Rune} {pattern before t : Text} (hfirst : first ∉ before)
    (h : first :: pattern <:+: before ++ t) : first :: pattern <:+: t := by
  induction before with
  | nil => exact h
  | cons r before ih =>
    rw [List.mem_cons, not_or] at hfirst
    rw [List.cons_append, List.infix_cons_iff] at h
    rcases h with ⟨rest, hrest⟩ | h
    · exact absurd (List.cons.inj hrest).1 hfirst.1
    · exact ih hfirst.2 h

theorem find?_eq_some_iff {pattern t : Text} {i : Nat} :
    find? pattern t = some i ↔
      i ≤ t.length ∧ pattern <+: t.drop i ∧ ∀ j < i, ¬pattern <+: t.drop j := by
  induction t generalizing i with
  | nil =>
    rw [find?]
    cases pattern with
    | nil =>
      simp only [List.isEmpty_nil, if_true, List.nil_prefix, not_true_eq_false, List.length_nil]
      constructor
      · intro h
        cases h
        simp
      · rintro ⟨hi, -⟩
        rw [Nat.le_zero.mp hi]
    | cons p rest => simp
  | cons r t ih =>
    rw [find?]
    split_ifs with hstart
    · rw [List.isPrefixOf_iff_prefix] at hstart
      constructor
      · intro h
        cases h
        exact ⟨Nat.zero_le _, hstart, fun j hj => absurd hj (Nat.not_lt_zero j)⟩
      · rintro ⟨-, -, hfirst⟩
        cases i with
        | zero => rfl
        | succ i => exact absurd hstart (hfirst 0 (Nat.succ_pos i))
    · rw [List.isPrefixOf_iff_prefix] at hstart
      rw [Option.map_eq_some_iff]
      constructor
      · rintro ⟨k, hk, rfl⟩
        obtain ⟨hle, hk, hfirst⟩ := ih.mp hk
        refine ⟨Nat.succ_le_succ hle, hk, fun j hj => ?_⟩
        cases j with
        | zero => exact hstart
        | succ j => exact hfirst j (Nat.lt_of_succ_lt_succ hj)
      · rintro ⟨hle, hi, hfirst⟩
        cases i with
        | zero => exact absurd hi hstart
        | succ i =>
          refine ⟨i, ih.mpr ⟨Nat.le_of_succ_le_succ hle, hi, fun j hj => ?_⟩, rfl⟩
          exact hfirst (j + 1) (Nat.succ_lt_succ hj)

theorem find?_eq_none_iff {pattern t : Text} : find? pattern t = none ↔ ¬pattern <:+: t := by
  induction t with
  | nil => cases pattern <;> simp [find?]
  | cons r t ih =>
    rw [find?, List.infix_cons_iff]
    split_ifs with hstart
    · rw [List.isPrefixOf_iff_prefix] at hstart
      simp [hstart]
    · rw [List.isPrefixOf_iff_prefix] at hstart
      simp [hstart, ih]

end GroundedDialogue.Text
