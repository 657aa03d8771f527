import GroundedDialogue.Generation.StopMarker
import GroundedDialogue.Proofs.Text.Find
import Mathlib.Data.List.Basic
import Mathlib.Tactic.SplitIfs

/-!
# Where markers occur

`StopMarker.earliest` is the least position at which a marker starts, or the length of the text when
there is none (`earliest_eq_iff`). What stands in front of it holds no marker (`not_isInfix_cut`).

Parts without a marker may still make one when they are put together; it then lies across a border
between two parts (`exists_border`). Where no marker can lie across a border, a text is cut in its first
part that has a marker (`cut_append_of_contains`).
-/

namespace GroundedDialogue.StopMarker

/-- A marker starts at this position of the text. -/
def OccursAt (markers : List Text) (t : Text) (i : Nat) : Prop :=
  ∃ marker ∈ markers, marker ≠ [] ∧ marker <+: t.drop i

def cut (markers : List Text) (t : Text) : Text := t.take (earliest markers t)

/-- Whether one of the markers is part of the text. -/
def Contains (markers : List Text) (t : Text) : Prop := ∃ marker ∈ markers, marker ≠ [] ∧ marker <:+: t

/-! ## The earliest marker -/

theorem mem_offsets {markers : List Text} {t : Text} {i : Nat} :
    i ∈ ((markers.filter (!·.isEmpty)).filterMap fun marker => Text.find? marker t) ↔
      ∃ marker ∈ markers, marker ≠ [] ∧ Text.find? marker t = some i := by
  simp [List.mem_filterMap, List.mem_filter, and_assoc]

theorem earliest_eq_iff {markers : List Text} {t : Text} {n : Nat} :
    earliest markers t = n ↔
      n ≤ t.length ∧ (∀ i < n, ¬OccursAt markers t i) ∧ (n < t.length → OccursAt markers t n) := by
  have hmin := @List.min?_eq_some_iff Nat n _ _
    (t.length :: (markers.filter (!·.isEmpty)).filterMap fun marker => Text.find? marker t)
  rw [List.min?_cons', Option.some_inj] at hmin
  rw [earliest, hmin]
  simp only [List.mem_cons, forall_eq_or_imp, mem_offsets]
  constructor
  · rintro ⟨hmem, hle, hleast⟩
    refine ⟨hle, ?_, ?_⟩
    · rintro i hi ⟨marker, hmarker, hne, hstart⟩
      cases hfind : Text.find? marker t with
      | none => exact Text.find?_eq_none_iff.mp hfind (hstart.isInfix.trans (List.drop_suffix i t).isInfix)
      | some k =>
        have hk := hleast k ⟨marker, hmarker, hne, hfind⟩
        exact (Text.find?_eq_some_iff.mp hfind).2.2 i (by omega) hstart
    · intro hlt
      rcases hmem with hend | ⟨marker, hmarker, hne, hfind⟩
      · omega
      · exact ⟨marker, hmarker, hne, (Text.find?_eq_some_iff.mp hfind).2.1⟩
  · rintro ⟨hle, hnone, hstarts⟩
    refine ⟨?_, hle, ?_⟩
    · by_cases hlt : n < t.length
      · obtain ⟨marker, hmarker, hne, hstart⟩ := hstarts hlt
        refine Or.inr ⟨marker, hmarker, hne, Text.find?_eq_some_iff.mpr ⟨hle, hstart, ?_⟩⟩
        exact fun j hj hstart' => hnone j hj ⟨marker, hmarker, hne, hstart'⟩
      · exact Or.inl (by omega)
    · rintro k ⟨marker, hmarker, hne, hfind⟩
      by_contra hk
      exact hnone k (by omega) ⟨marker, hmarker, hne, (Text.find?_eq_some_iff.mp hfind).2.1⟩

theorem earliest_lt_length_iff {markers : List Text} {t : Text} :
    earliest markers t < t.length ↔ Contains markers t := by
  obtain ⟨-, hnone, hstarts⟩ := earliest_eq_iff.mp (Eq.refl (earliest markers t))
  constructor
  · intro hlt
    obtain ⟨marker, hmarker, hne, hstart⟩ := hstarts hlt
    exact ⟨marker, hmarker, hne, hstart.isInfix.trans (List.drop_suffix _ t).isInfix⟩
  · rintro ⟨marker, hmarker, hne, hinfix⟩
    obtain ⟨i, -, hstart⟩ := Text.isInfix_iff_exists_drop.mp hinfix
    have hlength := hstart.length_le
    have hpos := List.length_pos_iff.mpr hne
    rw [List.length_drop] at hlength
    by_contra hge
    exact hnone i (by omega) ⟨marker, hmarker, hne, hstart⟩

theorem not_isInfix_cut {markers : List Text} {marker : Text} (hmarker : marker ∈ markers)
    (hne : marker ≠ []) (t : Text) : ¬marker <:+: cut markers t := by
  intro hinfix
  obtain ⟨i, -, hstart⟩ := Text.isInfix_iff_exists_drop.mp hinfix
  have hlength := hstart.length_le
  have hpos := List.length_pos_iff.mpr hne
  rw [cut, List.length_drop, List.length_take] at hlength
  rw [cut, List.drop_take] at hstart
  exact (earliest_eq_iff.mp rfl).2.1 i (by omega)
    ⟨marker, hmarker, hne, hstart.trans (List.take_prefix _ _)⟩

@[simp] theorem cut_nil (markers : List Text) : cut markers [] = [] := List.take_nil

theorem earliest_eq_zero_of_isPrefix {markers : List Text} {marker t : Text} (hmarker : marker ∈ markers)
    (hne : marker ≠ []) (h : marker <+: t) : earliest markers t = 0 :=
  earliest_eq_iff.mpr ⟨Nat.zero_le _, fun i hi => absurd hi (Nat.not_lt_zero i),
    fun _ => ⟨marker, hmarker, hne, h⟩⟩

/-! ## Markers across borders -/

/-- What is no part of any of the parts, but of all of them together, has a border within it. -/
theorem exists_border {α : Type} {parts : List (List α)} {before pattern after : List α}
    (h : parts.flatten = before ++ pattern ++ after) (hne : pattern ≠ [])
    (hparts : ∀ part ∈ parts, ¬pattern <:+: part) :
    ∃ n, before.length < (parts.take n).flatten.length ∧
      (parts.take n).flatten.length < before.length + pattern.length := by
  induction parts generalizing before with
  | nil =>
    have hlength := congrArg List.length h
    have hpos := List.length_pos_iff.mpr hne
    simp only [List.flatten_nil, List.length_nil, List.length_append] at hlength
    omega
  | cons part rest ih =>
    rw [List.flatten_cons] at h
    have hpart : part <+: before ++ pattern ++ after := h ▸ List.prefix_append _ _
    by_cases hbefore : part.length ≤ before.length
    · -- the part ends in front of the pattern
      have hstart : before <+: before ++ pattern ++ after := by
        rw [List.append_assoc]
        exact List.prefix_append _ _
      obtain ⟨before', rfl⟩ := List.prefix_of_prefix_length_le hpart hstart hbefore
      simp only [List.append_assoc, List.append_cancel_left_eq] at h
      have hrest : rest.flatten = before' ++ pattern ++ after := by simp [h]
      obtain ⟨n, hlow, hhigh⟩ := ih hrest fun p hp => hparts p (List.mem_cons_of_mem _ hp)
      refine ⟨n + 1, ?_⟩
      simp only [List.take_succ_cons, List.flatten_cons, List.length_append]
      omega
    · by_cases hwithin : before.length + pattern.length ≤ part.length
      · have hcovers : before ++ pattern <+: part :=
          List.prefix_of_prefix_length_le (List.prefix_append _ _) hpart (by simp [hwithin])
        have hsuffix : pattern <:+ before ++ pattern := List.suffix_append _ _
        exact absurd (hsuffix.isInfix.trans hcovers.isInfix) (hparts part List.mem_cons_self)
      · refine ⟨1, ?_⟩
        simp
        omega

/-! ## Borders that no marker crosses -/

/-- The text begins with what is in no marker, if with anything. -/
def BeginsOutside (markers : List Text) (t : Text) : Prop := ∀ r ∈ t.head?, ∀ marker ∈ markers, r ∉ marker

variable {markers : List Text} {chunk rest : Text}

theorem BeginsOutside.flatten {parts : List Text} (h : ∀ part ∈ parts, BeginsOutside markers part) :
    BeginsOutside markers parts.flatten := by
  induction parts with
  | nil => exact fun r hr => nomatch hr
  | cons part parts ih =>
    obtain ⟨hpart, hparts⟩ := List.forall_mem_cons.mp h
    cases part with
    | nil => exact ih hparts
    | cons r part => exact hpart

theorem BeginsOutside.not_occursAt_zero (h : BeginsOutside markers chunk) : ¬OccursAt markers chunk 0 := by
  rintro ⟨marker, hmarker, hne, rest, hrest⟩
  cases marker with
  | nil => exact hne rfl
  | cons r marker =>
    rw [List.drop_zero] at hrest
    exact h r (by rw [← hrest]; rfl) _ hmarker List.mem_cons_self

theorem not_contains_cons {r : Rune} {t : Text} (h : BeginsOutside markers (r :: t))
    (hnone : ¬Contains markers t) : ¬Contains markers (r :: t) := by
  rintro ⟨marker, hmarker, hne, hinfix⟩
  rw [List.infix_cons_iff] at hinfix
  rcases hinfix with hstart | hlater
  · exact h.not_occursAt_zero ⟨marker, hmarker, hne, hstart⟩
  · exact hnone ⟨marker, hmarker, hne, hlater⟩

theorem occursAt_append_iff (h : BeginsOutside markers rest) {i : Nat} (hi : i < chunk.length) :
    OccursAt markers (chunk ++ rest) i ↔ OccursAt markers chunk i := by
  rw [OccursAt, OccursAt, List.drop_append_of_le_length hi.le]
  refine exists_congr fun marker => and_congr_right fun hmarker => and_congr_right fun _ => ⟨?_, ?_⟩
  · intro hstart
    by_cases hwithin : marker.length ≤ (chunk.drop i).length
    · exact List.prefix_of_prefix_length_le hstart (List.prefix_append _ _) hwithin
    · -- the marker would go on into the rest
      obtain ⟨later, rfl⟩ := List.prefix_of_prefix_length_le (List.prefix_append _ rest) hstart (by omega)
      rw [List.prefix_append_right_inj] at hstart
      cases later with
      | nil => simp at hwithin
      | cons r later =>
        obtain ⟨rest', rfl⟩ := hstart
        exact absurd (List.mem_append_right _ List.mem_cons_self) (h r rfl _ hmarker)
  · exact fun hstart => hstart.trans (List.prefix_append _ _)

theorem occursAt_append_length_add (i : Nat) :
    OccursAt markers (chunk ++ rest) (chunk.length + i) ↔ OccursAt markers rest i := by
  rw [OccursAt, OccursAt, List.drop_length_add_append]

theorem cut_append_of_contains (h : BeginsOutside markers rest) (hcontains : Contains markers chunk) :
    cut markers (chunk ++ rest) = cut markers chunk := by
  have hlt := earliest_lt_length_iff.mpr hcontains
  obtain ⟨-, hnone, hstarts⟩ := earliest_eq_iff.mp (Eq.refl (earliest markers chunk))
  have hearliest : earliest markers (chunk ++ rest) = earliest markers chunk := by
    rw [earliest_eq_iff, List.length_append]
    refine ⟨by omega, fun i hi => ?_, fun _ => (occursAt_append_iff h hlt).mpr (hstarts hlt)⟩
    rw [occursAt_append_iff h (by omega)]
    exact hnone i hi
  rw [cut, cut, hearliest, List.take_append_of_le_length hlt.le]

theorem cut_eq_self_of_not_contains (h : ¬Contains markers chunk) : cut markers chunk = chunk := by
  rw [← earliest_lt_length_iff, Nat.not_lt] at h
  exact List.take_of_length_le h

theorem cut_append_of_not_contains (h : BeginsOutside markers rest) (hnone : ¬Contains markers chunk) :
    cut markers (chunk ++ rest) = chunk ++ cut markers rest := by
  obtain ⟨hle, hnoneRest, hstarts⟩ := earliest_eq_iff.mp (Eq.refl (earliest markers rest))
  have hearliest : earliest markers (chunk ++ rest) = chunk.length + earliest markers rest := by
    rw [earliest_eq_iff, List.length_append]
    refine ⟨by omega, fun i hi => ?_, fun hlt => (occursAt_append_length_add _).mpr (hstarts (by omega))⟩
    by_cases hchunk : i < chunk.length
    · rw [occursAt_append_iff h hchunk]
      rintro ⟨marker, hmarker, hne, hstart⟩
      exact hnone ⟨marker, hmarker, hne, hstart.isInfix.trans (List.drop_suffix i chunk).isInfix⟩
    · obtain ⟨j, rfl⟩ := Nat.exists_eq_add_of_le (Nat.not_lt.mp hchunk)
      rw [occursAt_append_length_add]
      exact hnoneRest j (by omega)
  rw [cut, hearliest, List.take_length_add_append, ← cut]

end GroundedDialogue.StopMarker
