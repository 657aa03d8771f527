import GroundedDialogue.Disk.Path
import Mathlib.Data.List.Basic

/-!
# Splitting and joining

Parts without a separator are split again as they were joined (`Text.splitOn_join`), and what stands in
front of the first separator can be taken out of a splitting and of a joining (`Text.splitOn_append`,
`Text.join_append_cons`).
-/

namespace GroundedDialogue.Text

/-! ## Splitting -/

theorem splitOn_eq (separator : Rune) (t : Text) : t.splitOn separator = List.splitOn separator t := by
  induction t with
  | nil => rw [List.splitOn_nil, splitOn]
  | cons r t ih =>
    rw [List.splitOn_cons_eq_if_modifyHead, splitOn, ih]
    by_cases hr : r = separator
    · rw [if_pos hr, if_pos (beq_iff_eq.mpr hr)]
    · rw [if_neg hr, if_neg (by simpa using hr)]
      cases hsplit : List.splitOn separator t with
      | nil => exact absurd hsplit (List.splitOn_ne_nil separator t)
      | cons part rest => rfl

theorem splitOn_ne_nil (separator : Rune) (t : Text) : t.splitOn separator ≠ [] := by
  rw [splitOn_eq]
  exact List.splitOn_ne_nil separator t

theorem splitOn_join {separator : Rune} {ts : List Text} (hts : ts ≠ [])
    (hfree : ∀ t ∈ ts, separator ∉ t) : (join [separator] ts).splitOn separator = ts := by
  rw [splitOn_eq]
  exact List.splitOn_intercalate separator hfree hts

theorem splitOn_cons_self (separator : Rune) (t : Text) :
    splitOn separator (separator :: t) = [] :: splitOn separator t := by
  rw [splitOn, if_pos rfl]

theorem splitOn_append {separator : Rune} {a t part : Text} {rest : List Text} (ha : separator ∉ a)
    (ht : splitOn separator t = part :: rest) : splitOn separator (a ++ t) = (a ++ part) :: rest := by
  induction a with
  | nil => exact ht
  | cons r a ih =>
    rw [List.mem_cons, not_or] at ha
    rw [List.cons_append, splitOn, if_neg (Ne.symm ha.1), ih ha.2]
    rfl

theorem not_mem_of_mem_splitOn {separator : Rune} {t part : Text} (h : part ∈ t.splitOn separator) :
    separator ∉ part := by
  induction t generalizing part with
  | nil =>
    rw [splitOn, List.mem_singleton] at h
    rw [h]
    exact List.not_mem_nil
  | cons r t ih =>
    rw [splitOn] at h
    by_cases hr : r = separator
    · rw [if_pos hr] at h
      rcases List.mem_cons.mp h with rfl | h
      · exact List.not_mem_nil
      · exact ih h
    · rw [if_neg hr] at h
      cases hsplit : splitOn separator t with
      | nil =>
        rw [hsplit, List.mem_singleton] at h
        rw [h, List.mem_singleton]
        exact Ne.symm hr
      | cons first rest =>
        rw [hsplit] at h ih
        rcases List.mem_cons.mp h with rfl | h
        · rw [List.mem_cons, not_or]
          exact ⟨Ne.symm hr, ih List.mem_cons_self⟩
        · exact ih (List.mem_cons_of_mem _ h)

/-! ## Joining -/

theorem join_singleton (separator t : Text) : join separator [t] = t := List.append_nil t

theorem join_cons_cons (separator t u : Text) (us : List Text) :
    join separator (t :: u :: us) = t ++ (separator ++ join separator (u :: us)) := rfl

theorem join_append_cons (separator a t : Text) (ts : List Text) :
    join separator ((a ++ t) :: ts) = a ++ join separator (t :: ts) := by
  cases ts with
  | nil => rw [join_singleton, join_singleton]
  | cons u us => rw [join_cons_cons, join_cons_cons, List.append_assoc]

theorem join_cons (separator t : Text) (ts : List Text) :
    ∃ rest, join separator (t :: ts) = t ++ rest := by
  cases ts with
  | nil => exact ⟨[], by rw [join_singleton, List.append_nil]⟩
  | cons u us => exact ⟨separator ++ join separator (u :: us), join_cons_cons separator t u us⟩

theorem mem_join {separator : Text} {ts : List Text} {r : Rune} (h : r ∈ join separator ts) :
    r ∈ separator ∨ ∃ t ∈ ts, r ∈ t := by
  induction ts with
  | nil => cases h
  | cons t ts ih =>
    cases ts with
    | nil =>
      rw [join_singleton] at h
      exact Or.inr ⟨t, List.mem_cons_self, h⟩
    | cons u us =>
      rw [join_cons_cons, List.mem_append, List.mem_append] at h
      rcases h with h | h | h
      · exact Or.inr ⟨t, List.mem_cons_self, h⟩
      · exact Or.inl h
      · rcases ih h with h | ⟨t', ht', hr⟩
        · exact Or.inl h
        · exact Or.inr ⟨t', List.mem_cons_of_mem _ ht', hr⟩

theorem mem_join_of_mem (separator : Text) {ts : List Text} {t : Text} (ht : t ∈ ts) {r : Rune} (hr : r ∈ t) :
    r ∈ join separator ts := by
  induction ts with
  | nil => cases ht
  | cons first ts ih =>
    cases ts with
    | nil =>
      rw [List.mem_singleton.mp ht] at hr
      rwa [join_singleton]
    | cons u us =>
      rw [join_cons_cons, List.mem_append, List.mem_append]
      rcases List.mem_cons.mp ht with rfl | ht
      · exact Or.inl hr
      · exact Or.inr (Or.inr (ih ht))

end GroundedDialogue.Text
