import GroundedDialogue.Generation.Pieces
import GroundedDialogue.Proofs.Text.Splitting
import Mathlib.Data.List.Chain
import Mathlib.Data.List.DropRight
import Mathlib.Tactic.SplitIfs

/-!
# The pieces of a text

A text falls into pieces in one way (`Text.pieced_iff`): white space at the end of a line is left out, a
line feed stands by itself, and a word reaches to the next white space and takes what is in front of it on
its line. So every piece has one of two forms, the pieces put together are the text without the white space
at the ends of its lines, and that text falls into the same pieces again (`Text.pieces_faithful`).

In particular a line that does not end in white space is put together again (`Text.flatten_pieces`), and
if it begins with white space, then so does every piece of it (`Text.beginsWithSpace_of_mem_pieces`).
-/

namespace GroundedDialogue.Text

/-- The text does not end in white space. -/
def EndsInWord (t : Text) : Prop := ∀ r ∈ t.getLast?, r.isWhiteSpace = false

/-- The text begins with white space, if with anything. -/
def BeginsWithSpace (t : Text) : Prop := ∀ r ∈ t.head?, r.isWhiteSpace = true

/-- White space on one line. -/
def IsGap (t : Text) : Prop := ∀ r ∈ t, r.isWhiteSpace = true ∧ r ≠ Rune.newline

/-- Something without white space. -/
def IsWord (t : Text) : Prop := t ≠ [] ∧ ∀ r ∈ t, r.isWhiteSpace = false

/-- A line feed, or a word with the white space in front of it. -/
inductive IsPiece : Text → Prop
  | newline : IsPiece [Rune.newline]
  | word {gap word : Text} (hgap : IsGap gap) (hword : IsWord word) : IsPiece (gap ++ word)

/-- The text without the white space at the ends of its lines. -/
def trimLines (t : Text) : Text :=
  join [Rune.newline] ((t.splitOn Rune.newline).map (trimEnd Rune.isWhiteSpace))

/-- How a text falls into pieces, read from the left. -/
inductive Pieced : Text → List Text → Prop
  | gap {gap : Text} (hgap : IsGap gap) : Pieced gap []
  | line {gap t : Text} {pieces : List Text} (hgap : IsGap gap) (h : Pieced t pieces) :
    Pieced (gap ++ Rune.newline :: t) ([Rune.newline] :: pieces)
  | word {gap word t : Text} {pieces : List Text} (hgap : IsGap gap) (hword : IsWord word)
    (hborder : BeginsWithSpace t) (h : Pieced t pieces) : Pieced (gap ++ word ++ t) ((gap ++ word) :: pieces)

variable {t u gap word pending : Text} {hasWord : Bool} {r : Rune} {ps : List Text}

theorem isWhiteSpace_newline : Rune.newline.isWhiteSpace = true := by decide

theorem isGap_nil : IsGap [] := nofun

theorem IsGap.newline_not_mem (h : IsGap gap) : Rune.newline ∉ gap := fun hmem => (h _ hmem).2 rfl

theorem IsWord.newline_not_mem (h : IsWord word) : Rune.newline ∉ word := by
  intro hmem
  have hspace := h.2 _ hmem
  rw [isWhiteSpace_newline] at hspace
  contradiction

theorem IsWord.endsInWord (h : IsWord word) (gap : Text) : EndsInWord (gap ++ word) := by
  intro r hr
  rw [List.getLast?_append_of_ne_nil gap h.1] at hr
  exact h.2 r (List.mem_of_mem_getLast? hr)

theorem isWhiteSpace_of_mem_head?_strip (t : Text) : ∀ r ∈ (strip t).head?, r.isWhiteSpace = false := by
  intro r hr
  obtain ⟨rest, hrest⟩ : strip t <+: t.dropWhile Rune.isWhiteSpace := List.rdropWhile_prefix _ _
  have hhead : r ∈ (t.dropWhile Rune.isWhiteSpace).head? := by
    rw [← hrest, List.head?_append, Option.mem_def.mp hr]
    rfl
  have hnot := List.head?_dropWhile_not Rune.isWhiteSpace t
  rw [Option.mem_def.mp hhead] at hnot
  exact hnot

theorem endsInWord_strip (t : Text) : EndsInWord (strip t) := by
  intro r hr
  obtain ⟨hne, rfl⟩ := List.mem_getLast?_eq_getLast hr
  exact Bool.eq_false_iff.mpr (List.rdropWhile_last_not _ _ hne)

/-! ## One code point -/

theorem piecesFrom_word (hr : r.isWhiteSpace = false) :
    piecesFrom hasWord pending (r :: t) = piecesFrom true (r :: pending) t := by
  rw [piecesFrom, hr]
  exact if_neg Bool.false_ne_true

theorem piecesFrom_space (hr : r.isWhiteSpace = true) (hline : r ≠ Rune.newline) :
    piecesFrom hasWord pending (r :: t) =
      if hasWord then pending.reverse :: piecesFrom false [r] t else piecesFrom false (r :: pending) t := by
  rw [piecesFrom, if_pos hr, if_neg hline]
  cases hasWord <;> rfl

theorem piecesFrom_newline :
    piecesFrom hasWord pending (Rune.newline :: t) =
      if hasWord then pending.reverse :: [Rune.newline] :: pieces t else [Rune.newline] :: pieces t := by
  rw [piecesFrom, if_pos isWhiteSpace_newline, if_pos rfl]
  cases hasWord <;> rfl

/-! ## The pieces of a text are read off it -/

/-- What is held back while a text is read: white space, or a word with the white space in front of it. -/
def Held : Bool → Text → Prop
  | false, held => IsGap held
  | true, held => ∃ gap word, IsGap gap ∧ IsWord word ∧ held = gap ++ word

theorem held_nil : Held false ([] : Text).reverse := isGap_nil

theorem Held.snoc_word (h : Held hasWord t) (hr : r.isWhiteSpace = false) : Held true (t ++ [r]) := by
  cases hasWord with
  | false => exact ⟨t, [r], h, ⟨by simp, by simpa using hr⟩, rfl⟩
  | true =>
    obtain ⟨gap, word, hgap, hword, rfl⟩ := h
    refine ⟨gap, word ++ [r], hgap, ⟨by simp, ?_⟩, List.append_assoc gap word [r]⟩
    exact List.forall_mem_append.mpr ⟨hword.2, by simpa using hr⟩

theorem Held.snoc_space (h : Held false t) (hr : r.isWhiteSpace = true) (hline : r ≠ Rune.newline) :
    Held false (t ++ [r]) :=
  List.forall_mem_append.mpr ⟨h, by simpa using ⟨hr, hline⟩⟩

/-- A word that is held back is a piece when white space or the end comes. -/
theorem Held.pieced (h : Held true t) (hborder : BeginsWithSpace u) (hu : Pieced u ps) :
    Pieced (t ++ u) (t :: ps) := by
  obtain ⟨gap, word, hgap, hword, rfl⟩ := h
  exact .word hgap hword hborder hu

theorem pieced_piecesFrom (h : Held hasWord pending.reverse) (t : Text) :
    Pieced (pending.reverse ++ t) (piecesFrom hasWord pending t) := by
  induction t generalizing hasWord pending with
  | nil =>
    cases hasWord with
    | false =>
      rw [List.append_nil]
      exact .gap h
    | true => exact h.pieced nofun (.gap isGap_nil)
  | cons r t ih =>
    cases hr : r.isWhiteSpace with
    | false =>
      have hheld : Held true (r :: pending).reverse := by
        rw [List.reverse_cons]
        exact h.snoc_word hr
      have hlater := ih hheld
      rw [List.reverse_cons, List.append_assoc] at hlater
      rw [piecesFrom_word hr]
      exact hlater
    | true =>
      have hborder : BeginsWithSpace (r :: t) := by
        rintro _ ⟨⟩
        exact hr
      by_cases hline : r = Rune.newline
      · -- nothing is held back behind a line feed
        have hrest : Pieced t (pieces t) := ih held_nil
        subst hline
        rw [piecesFrom_newline]
        cases hasWord with
        | false => exact .line h hrest
        | true => exact h.pieced hborder (.line isGap_nil hrest)
      · rw [piecesFrom_space hr hline]
        cases hasWord with
        | false =>
          have hheld : Held false (r :: pending).reverse := by
            rw [List.reverse_cons]
            exact h.snoc_space hr hline
          have hlater := ih hheld
          rw [List.reverse_cons, List.append_assoc] at hlater
          exact hlater
        | true =>
          have hgap : Held false [r].reverse := by
            rintro _ hmem
            rw [List.mem_singleton.mp hmem]
            exact ⟨hr, hline⟩
          exact h.pieced hborder (ih hgap)

theorem pieced_pieces (t : Text) : Pieced t (pieces t) :=
  pieced_piecesFrom held_nil t

/-! ## There is one way to fall into pieces -/

theorem piecesFrom_gap (hgap : IsGap gap) :
    piecesFrom false pending (gap ++ t) = piecesFrom false (gap.reverse ++ pending) t := by
  induction gap generalizing pending with
  | nil => rfl
  | cons r gap ih =>
    obtain ⟨⟨hr, hline⟩, hgap⟩ := List.forall_mem_cons.mp hgap
    rw [List.cons_append, piecesFrom_space hr hline, if_neg Bool.false_ne_true, ih hgap]
    simp

theorem piecesFrom_runes (hword : ∀ r ∈ word, r.isWhiteSpace = false) :
    piecesFrom true pending (word ++ t) = piecesFrom true (word.reverse ++ pending) t := by
  induction word generalizing pending with
  | nil => rfl
  | cons r word ih =>
    obtain ⟨hr, hword⟩ := List.forall_mem_cons.mp hword
    rw [List.cons_append, piecesFrom_word hr, ih hword]
    simp

theorem piecesFrom_border (hborder : BeginsWithSpace t) :
    piecesFrom true pending t = pending.reverse :: pieces t := by
  cases t with
  | nil => rfl
  | cons r t =>
    have hr := hborder r rfl
    by_cases hline : r = Rune.newline
    · have hpieces : pieces (Rune.newline :: t) = [Rune.newline] :: pieces t := piecesFrom_newline
      rw [hline, piecesFrom_newline, if_pos rfl, hpieces]
    · have hpieces : pieces (r :: t) = piecesFrom false [r] t := piecesFrom_space hr hline
      rw [piecesFrom_space hr hline, if_pos rfl, hpieces]

theorem Pieced.eq_pieces (h : Pieced t ps) : pieces t = ps := by
  induction h with
  | @gap gap hgap =>
    rw [← List.append_nil gap, pieces, piecesFrom_gap hgap]
    rfl
  | line hgap h ih =>
    rw [pieces, piecesFrom_gap hgap, piecesFrom_newline, ih]
    rfl
  | @word gap word t ps hgap hword hborder h ih =>
    obtain ⟨r, rest, rfl⟩ := List.exists_cons_of_ne_nil hword.1
    obtain ⟨hr, hrest⟩ := List.forall_mem_cons.mp hword.2
    rw [pieces, List.append_assoc, piecesFrom_gap hgap, List.cons_append, piecesFrom_word hr,
      piecesFrom_runes hrest, piecesFrom_border hborder, ih]
    simp

theorem pieced_iff : Pieced t ps ↔ pieces t = ps :=
  ⟨Pieced.eq_pieces, fun h => h ▸ pieced_pieces t⟩

/-! ## The ends of lines -/

theorem trimEnd_append_of_endsInWord (ht : EndsInWord t) (u : Text) :
    trimEnd Rune.isWhiteSpace (t ++ u) = t ++ trimEnd Rune.isWhiteSpace u := by
  have hself : t.reverse.dropWhile Rune.isWhiteSpace = t.reverse := by
    cases hreverse : t.reverse with
    | nil => rfl
    | cons r rest =>
      have hr : r ∈ t.getLast? := by
        rw [← List.head?_reverse, hreverse]
        rfl
      rw [List.dropWhile_cons, ht r hr, if_neg Bool.false_ne_true]
  rw [trimEnd, trimEnd, List.reverse_append, List.dropWhile_append]
  split_ifs with hnil
  · rw [hself, List.isEmpty_iff.mp hnil]
    simp
  · simp

theorem trimEnd_of_isGap (hgap : IsGap gap) : trimEnd Rune.isWhiteSpace gap = [] := by
  rw [trimEnd, List.reverse_eq_nil_iff, List.dropWhile_eq_nil_iff]
  exact fun r hr => (hgap r (List.mem_reverse.mp hr)).1

theorem trimLines_of_newline_not_mem (ht : Rune.newline ∉ t) :
    trimLines t = trimEnd Rune.isWhiteSpace t := by
  have hsplit := splitOn_append (t := []) ht (splitOn.eq_1 Rune.newline)
  rw [List.append_nil] at hsplit
  rw [trimLines, hsplit]
  exact join_singleton _ _

theorem trimLines_append_newline (ht : Rune.newline ∉ t) (u : Text) :
    trimLines (t ++ Rune.newline :: u) = trimEnd Rune.isWhiteSpace t ++ Rune.newline :: trimLines u := by
  have hsplit := splitOn_append ht (splitOn_cons_self Rune.newline u)
  rw [List.append_nil] at hsplit
  obtain ⟨part, rest, hu⟩ := List.exists_cons_of_ne_nil (splitOn_ne_nil Rune.newline u)
  rw [trimLines, hsplit, trimLines, hu, List.map_cons, List.map_cons, join_cons_cons]
  rfl

theorem trimLines_append (ht : Rune.newline ∉ t) (hword : EndsInWord t) (u : Text) :
    trimLines (t ++ u) = t ++ trimLines u := by
  obtain ⟨part, rest, hu⟩ := List.exists_cons_of_ne_nil (splitOn_ne_nil Rune.newline u)
  rw [trimLines, splitOn_append ht hu, trimLines, hu, List.map_cons, List.map_cons,
    trimEnd_append_of_endsInWord hword, join_append_cons]

/-! ## What the pieces are -/

theorem Pieced.isPiece (h : Pieced t ps) : ∀ piece ∈ ps, IsPiece piece := by
  induction h with
  | gap hgap => exact nofun
  | line hgap h ih => exact List.forall_mem_cons.mpr ⟨.newline, ih⟩
  | word hgap hword hborder h ih => exact List.forall_mem_cons.mpr ⟨.word hgap hword, ih⟩

theorem Pieced.flatten_eq (h : Pieced t ps) : ps.flatten = trimLines t := by
  induction h with
  | gap hgap =>
    rw [trimLines_of_newline_not_mem hgap.newline_not_mem, trimEnd_of_isGap hgap]
    rfl
  | line hgap h ih =>
    rw [trimLines_append_newline hgap.newline_not_mem, trimEnd_of_isGap hgap, ← ih]
    rfl
  | @word gap word t ps hgap hword hborder h ih =>
    have hline : Rune.newline ∉ gap ++ word := by
      rw [List.mem_append, not_or]
      exact ⟨hgap.newline_not_mem, hword.newline_not_mem⟩
    rw [trimLines_append hline (hword.endsInWord gap), ← ih]
    rfl

theorem Pieced.beginsWithSpace (h : Pieced t ps) (ht : BeginsWithSpace t) :
    BeginsWithSpace ps.flatten ∧ ∀ piece ∈ ps.head?, BeginsWithSpace piece := by
  have hnewline : ∀ u : Text, BeginsWithSpace (Rune.newline :: u) := by
    rintro u _ ⟨⟩
    exact isWhiteSpace_newline
  cases h with
  | gap hgap => exact ⟨nofun, nofun⟩
  | line hgap h =>
    refine ⟨hnewline _, ?_⟩
    rintro _ ⟨⟩
    exact hnewline []
  | @word gap word t ps hgap hword hborder h =>
    cases gap with
    | nil =>
      obtain ⟨r, rest, rfl⟩ := List.exists_cons_of_ne_nil hword.1
      have hspace := ht r rfl
      rw [hword.2 r List.mem_cons_self] at hspace
      contradiction
    | cons r gap =>
      have hr := (hgap r List.mem_cons_self).1
      constructor
      · rintro _ ⟨⟩
        exact hr
      · rintro _ ⟨⟩ _ ⟨⟩
        exact hr

theorem Pieced.flatten (h : Pieced t ps) : Pieced ps.flatten ps := by
  induction h with
  | gap hgap => exact .gap isGap_nil
  | line hgap h ih => exact .line isGap_nil ih
  | word hgap hword hborder h ih => exact .word hgap hword (h.beginsWithSpace hborder).1 ih

theorem Pieced.isChain (h : Pieced t ps) :
    ps.IsChain fun piece next => piece = [Rune.newline] ∨ BeginsWithSpace next := by
  induction h with
  | gap hgap => exact .nil
  | line hgap h ih =>
    rw [List.isChain_cons]
    exact ⟨fun next _ => Or.inl rfl, ih⟩
  | word hgap hword hborder h ih =>
    rw [List.isChain_cons]
    exact ⟨fun next hnext => Or.inr ((h.beginsWithSpace hborder).2 next hnext), ih⟩

/-- **The pieces of a text are faithful to it.** Each is a line feed, or a word with the white space in
front of it on its line, and a word ends only where white space begins or the text ends. Put together they
are the text without the white space at the ends of its lines, and they are its pieces. -/
theorem pieces_faithful (t : Text) :
    (∀ piece ∈ pieces t, IsPiece piece) ∧
      (pieces t).IsChain (fun piece next => piece = [Rune.newline] ∨ BeginsWithSpace next) ∧
      (pieces t).flatten = trimLines t ∧ pieces (pieces t).flatten = pieces t := by
  have h := pieced_pieces t
  exact ⟨h.isPiece, h.isChain, h.flatten_eq, h.flatten.eq_pieces⟩

example : pieces " To  the\u2003ruins \n\n north " = [" To", "  the", "\u2003ruins", "\n", "\n", " north"] := by
  decide

/-! ## One line -/

theorem flatten_pieces (hline : Rune.newline ∉ t) (hend : EndsInWord t) : (pieces t).flatten = t := by
  rw [(pieced_pieces t).flatten_eq, trimLines_of_newline_not_mem hline]
  simpa [trimEnd] using trimEnd_append_of_endsInWord hend []

theorem Pieced.beginsWithSpace_of_mem (h : Pieced t ps) (hline : Rune.newline ∉ t) (ht : BeginsWithSpace t) :
    ∀ piece ∈ ps, BeginsWithSpace piece := by
  induction h with
  | gap hgap => exact nofun
  | line hgap h ih => exact absurd (List.mem_append_right _ List.mem_cons_self) hline
  | word hgap hword hborder h ih =>
    refine List.forall_mem_cons.mpr ⟨?_, ih (fun hmem => hline (List.mem_append_right _ hmem)) hborder⟩
    exact ((Pieced.word hgap hword hborder h).beginsWithSpace ht).2 _ rfl

theorem beginsWithSpace_of_mem_pieces (hline : Rune.newline ∉ t) (hbegin : BeginsWithSpace t) :
    ∀ piece ∈ pieces t, BeginsWithSpace piece :=
  (pieced_pieces t).beginsWithSpace_of_mem hline hbegin

end GroundedDialogue.Text
