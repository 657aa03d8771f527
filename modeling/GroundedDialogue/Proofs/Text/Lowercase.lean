import GroundedDialogue.Proofs.Text.Utf8
import GroundedDialogue.Text.Lowercase
import Mathlib.Tactic.SplitIfs

/-!
# Lower case and ASCII

No code point is lost in lower case (`Text.length_le_length_lower`). Where the lower-case form of a text
is ASCII throughout, every code point stands for itself in it, whatever is around it
(`Text.lower_eq_map`): what becomes several code points and what depends on its neighbours has a form
outside ASCII.
-/

namespace GroundedDialogue

namespace Rune

/-- Code points below 0x80. -/
def IsAscii (r : Rune) : Prop := r.val < 0x80

instance (r : Rune) : Decidable r.IsAscii := inferInstanceAs (Decidable (r.val < 0x80))

/-- The lower-case form of a code point that becomes a single one. -/
def toLower (r : Rune) : Rune := CaseMapping.single r lowercase.runs

theorem apply_lowercase (r : Rune) :
    lowercase.apply r = if r.val = 0x130 then [0x69, 0x307] else [r.toLower] := by
  unfold CaseMapping.apply
  by_cases h : r.val = 0x130
  · have hlookup : List.lookup r.val lowercase.expansions = some [0x69, 0x307] := by
      rw [h]
      rfl
    rw [hlookup, if_pos h]
  · have hlookup : List.lookup r.val lowercase.expansions = none := by
      show List.lookup r.val [(0x130, [0x69, 0x307])] = none
      rw [List.lookup_cons, beq_eq_false_iff_ne.mpr h]
      rfl
    rw [hlookup, if_neg h]
    rfl

theorem val_toLower {r : Rune} (hr : r.IsAscii) :
    r.toLower.val = if 0x41 ≤ r.val ∧ r.val ≤ 0x5A then r.val + 32 else r.val := by
  unfold IsAscii at hr
  -- the first run of the table is that of the letters, and the next one begins beyond ASCII
  have hrest : ∀ rest, CaseMapping.single r (⟨0xC0, 0xD6, 1, 32⟩ :: rest) = r := fun rest =>
    if_pos (show r.val < 0xC0 by omega)
  show (CaseMapping.single r (⟨0x41, 0x5A, 1, 32⟩ :: ⟨0xC0, 0xD6, 1, 32⟩ :: _)).val = _
  rw [CaseMapping.single, hrest]
  dsimp only
  by_cases hlow : r.val < 0x41
  · rw [if_pos hlow, if_neg (by omega)]
  by_cases hhigh : r.val ≤ 0x5A
  · rw [if_neg hlow, if_pos (by simp [hhigh, Nat.mod_one]), if_pos (by omega)]
    exact Rune.val_ofNat (by omega)
  · rw [if_neg hlow, if_neg (by simp [hhigh]), if_neg (by omega)]

theorem isAscii_toLower {r : Rune} (hr : r.IsAscii) : r.toLower.IsAscii := by
  unfold IsAscii at hr ⊢
  rw [val_toLower hr]
  split_ifs <;> omega

/-- The letters of ASCII. -/
def isAsciiLetter (r : Rune) : Bool := 0x41 ≤ r.val && r.val ≤ 0x5A || 0x61 ≤ r.val && r.val ≤ 0x7A

theorem isAsciiLetter_iff {r : Rune} :
    r.isAsciiLetter = true ↔ 0x41 ≤ r.val ∧ r.val ≤ 0x5A ∨ 0x61 ≤ r.val ∧ r.val ≤ 0x7A := by
  simp [isAsciiLetter]

theorem isAscii_of_isAsciiLetter {r : Rune} (hr : r.isAsciiLetter = true) : r.IsAscii := by
  rw [isAsciiLetter_iff] at hr
  unfold IsAscii
  omega

theorem isAsciiLetter_toLower {r : Rune} (hr : r.IsAscii) : r.toLower.isAsciiLetter = r.isAsciiLetter := by
  rw [Bool.eq_iff_iff, isAsciiLetter_iff, isAsciiLetter_iff, val_toLower hr]
  unfold IsAscii at hr
  split_ifs <;> omega

end Rune

namespace Text

/-- What a code point becomes: one that does not depend on its neighbours, or something outside ASCII. -/
theorem exists_lowerFrom_cons (afterCased : Bool) (r : Rune) (t : Text) :
    ∃ afterCased' form, lowerFrom afterCased (r :: t) = form ++ lowerFrom afterCased' t ∧
      (form = [r.toLower] ∨ ¬r.IsAscii ∧ form ≠ [] ∧ ∃ s ∈ form, ¬s.IsAscii) := by
  rw [lowerFrom, Rune.apply_lowercase]
  by_cases hsigma : r = Rune.capitalSigma
  · rw [if_pos hsigma]
    refine ⟨_, [_], rfl, Or.inr ⟨?_, by simp, _, List.mem_singleton_self _, ?_⟩⟩
    · rw [hsigma]
      decide
    · split_ifs <;> decide
  · rw [if_neg hsigma]
    refine ⟨_, _, rfl, ?_⟩
    by_cases hdotted : r.val = 0x130
    · rw [if_pos hdotted]
      refine Or.inr ⟨?_, by simp, 0x307, by simp, by decide⟩
      rw [Rune.IsAscii, hdotted]
      decide
    · rw [if_neg hdotted]
      exact Or.inl rfl

/-! ## No code point is lost -/

theorem length_le_length_lowerFrom (afterCased : Bool) (t : Text) :
    t.length ≤ (lowerFrom afterCased t).length := by
  induction t generalizing afterCased with
  | nil => exact Nat.zero_le _
  | cons r t ih =>
    obtain ⟨afterCased', form, hform, hcases⟩ := exists_lowerFrom_cons afterCased r t
    have hne : form ≠ [] := by
      rcases hcases with rfl | ⟨-, hne, -⟩
      · simp
      · exact hne
    have hpos := List.length_pos_iff.mpr hne
    have ht := ih afterCased'
    rw [hform, List.length_cons, List.length_append]
    omega

theorem length_le_length_lower (t : Text) : t.length ≤ (lower t).length := length_le_length_lowerFrom false t

theorem lower_ne_nil {t : Text} (ht : t ≠ []) : lower t ≠ [] := by
  have hlength := length_le_length_lower t
  have hpos := List.length_pos_iff.mpr ht
  exact List.length_pos_iff.mp (by omega)

/-! ## Lower case within ASCII -/

theorem lowerFrom_eq_map {afterCased : Bool} {t : Text} (h : ∀ r ∈ lowerFrom afterCased t, r.IsAscii) :
    lowerFrom afterCased t = t.map Rune.toLower := by
  induction t generalizing afterCased with
  | nil => rfl
  | cons r t ih =>
    obtain ⟨afterCased', form, hform, hcases⟩ := exists_lowerFrom_cons afterCased r t
    rw [hform] at h ⊢
    obtain ⟨hascii, hrest⟩ := List.forall_mem_append.mp h
    rcases hcases with rfl | ⟨-, -, s, hs, hnot⟩
    · rw [ih hrest]
      rfl
    · exact absurd (hascii s hs) hnot

theorem lower_eq_map {t : Text} (h : ∀ r ∈ lower t, r.IsAscii) : lower t = t.map Rune.toLower :=
  lowerFrom_eq_map h

theorem isAscii_lowerFrom (afterCased : Bool) {t : Text} (h : ∀ r ∈ t, r.IsAscii) :
    ∀ r ∈ lowerFrom afterCased t, r.IsAscii := by
  induction t generalizing afterCased with
  | nil => simp [lowerFrom]
  | cons r t ih =>
    obtain ⟨hr, ht⟩ := List.forall_mem_cons.mp h
    obtain ⟨afterCased', form, hform, hcases⟩ := exists_lowerFrom_cons afterCased r t
    rw [hform, List.forall_mem_append]
    refine ⟨?_, ih afterCased' ht⟩
    rcases hcases with rfl | ⟨hnot, -⟩
    · simpa using Rune.isAscii_toLower hr
    · exact absurd hr hnot

theorem lower_of_isAscii {t : Text} (h : ∀ r ∈ t, r.IsAscii) : lower t = t.map Rune.toLower :=
  lower_eq_map (isAscii_lowerFrom false h)

end Text

end GroundedDialogue
