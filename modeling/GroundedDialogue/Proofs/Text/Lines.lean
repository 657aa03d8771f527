import GroundedDialogue.Proofs.Text.Utf8
import GroundedDialogue.Text.Lines

/-!
# The lines of a file

The lines of a file are cut out of its bytes (`Bytes.Lines`). Since a line feed and a carriage return are
characters of one byte, it makes no difference whether the bytes are split and then read or read and then
split (`Bytes.Lines.lines_decode`), foreign bytes and all.
-/

namespace GroundedDialogue

namespace Bytes

/-- Nothing in these bytes ends a line. -/
def IsLine (line : Bytes) : Prop := 10 ∉ line ∧ 13 ∉ line

/-- The lines that bytes are split into. A line ends at a line feed, a carriage return, or both in this
order; what ends the last line starts no further one. -/
inductive Lines : Bytes → List Bytes → Prop
  | nil : Lines [] []
  | last {line : Bytes} (hline : IsLine line) (hne : line ≠ []) : Lines line [line]
  | lineFeed {line rest : Bytes} {lines : List Bytes} (hline : IsLine line) (hrest : Lines rest lines) :
    Lines (line ++ 10 :: rest) (line :: lines)
  | both {line rest : Bytes} {lines : List Bytes} (hline : IsLine line) (hrest : Lines rest lines) :
    Lines (line ++ 13 :: 10 :: rest) (line :: lines)
  | carriageReturn {line rest : Bytes} {lines : List Bytes} (hline : IsLine line)
    (halone : rest.head? ≠ some 10) (hrest : Lines rest lines) : Lines (line ++ 13 :: rest) (line :: lines)

theorem exists_isLine_append (bytes : Bytes) :
    ∃ line rest, bytes = line ++ rest ∧ IsLine line ∧
      (rest = [] ∨ (∃ later, rest = 10 :: later) ∨ ∃ later, rest = 13 :: later) := by
  induction bytes with
  | nil => exact ⟨[], [], rfl, ⟨List.not_mem_nil, List.not_mem_nil⟩, Or.inl rfl⟩
  | cons b bytes ih =>
    by_cases hfeed : b = 10
    · exact ⟨[], _, rfl, ⟨List.not_mem_nil, List.not_mem_nil⟩, Or.inr (Or.inl ⟨bytes, by rw [hfeed]⟩)⟩
    · by_cases hreturn : b = 13
      · exact ⟨[], _, rfl, ⟨List.not_mem_nil, List.not_mem_nil⟩, Or.inr (Or.inr ⟨bytes, by rw [hreturn]⟩)⟩
      · obtain ⟨line, rest, rfl, hline, hrest⟩ := ih
        refine ⟨b :: line, rest, rfl, ⟨?_, ?_⟩, hrest⟩
        · rw [List.mem_cons, not_or]
          exact ⟨Ne.symm hfeed, hline.1⟩
        · rw [List.mem_cons, not_or]
          exact ⟨Ne.symm hreturn, hline.2⟩

theorem exists_lines (bytes : Bytes) : ∃ lines, Lines bytes lines := by
  induction hlength : bytes.length using Nat.strong_induction_on generalizing bytes with
  | _ n ih =>
    obtain ⟨line, rest, rfl, hline, hrest⟩ := exists_isLine_append bytes
    rw [List.length_append] at hlength
    rcases hrest with rfl | ⟨later, rfl⟩ | ⟨later, rfl⟩
    · rw [List.append_nil]
      by_cases hne : line = []
      · rw [hne]
        exact ⟨[], .nil⟩
      · exact ⟨[line], .last hline hne⟩
    · rw [List.length_cons] at hlength
      obtain ⟨lines, hlines⟩ := ih later.length (by omega) later rfl
      exact ⟨_, .lineFeed hline hlines⟩
    · rw [List.length_cons] at hlength
      by_cases halone : later.head? = some 10
      · obtain ⟨later, rfl⟩ : ∃ rest, later = 10 :: rest := by
          cases later with
          | nil => cases halone
          | cons b rest => exact ⟨rest, by rw [Option.some.inj halone]⟩
        rw [List.length_cons] at hlength
        obtain ⟨lines, hlines⟩ := ih later.length (by omega) later rfl
        exact ⟨_, .both hline hlines⟩
      · obtain ⟨lines, hlines⟩ := ih later.length (by omega) later rfl
        exact ⟨_, .carriageReturn hline halone hlines⟩

end Bytes

namespace Text

variable {line rest pending : Text}

/-! ## One line of a text -/

theorem linesFrom_append (hfeed : Rune.newline ∉ line) (hreturn : Rune.carriageReturn ∉ line) :
    linesFrom pending (line ++ rest) = linesFrom (line.reverse ++ pending) rest := by
  induction line generalizing pending with
  | nil => rfl
  | cons r line ih =>
    rw [List.mem_cons, not_or] at hfeed hreturn
    rw [List.cons_append, linesFrom.eq_def]
    dsimp only
    rw [if_neg (Ne.symm hfeed.1), if_neg (Ne.symm hreturn.1), ih hfeed.2 hreturn.2]
    simp

theorem linesFrom_newline : linesFrom pending (Rune.newline :: rest) = pending.reverse :: lines rest := by
  rw [linesFrom.eq_def]
  exact if_pos rfl

theorem linesFrom_carriageReturn_newline :
    linesFrom pending (Rune.carriageReturn :: Rune.newline :: rest) = pending.reverse :: lines rest := by
  rw [linesFrom.eq_def]
  exact (if_neg (by decide)).trans ((if_pos rfl).trans (if_pos rfl))

theorem linesFrom_carriageReturn (halone : rest.head? ≠ some Rune.newline) :
    linesFrom pending (Rune.carriageReturn :: rest) = pending.reverse :: lines rest := by
  rw [linesFrom.eq_def]
  refine (if_neg (by decide)).trans ((if_pos rfl).trans ?_)
  cases rest with
  | nil => rfl
  | cons r rest =>
    refine if_neg ?_
    rintro rfl
    exact halone rfl

theorem linesFrom_nil (hne : pending ≠ []) : linesFrom pending [] = [pending.reverse] := by
  rw [linesFrom.eq_def]
  exact if_neg (by simpa using hne)

end Text

/-! ## Splitting and reading -/

namespace Bytes

variable {line rest bytes : Bytes} {lines : List Bytes}

theorem IsLine.linesFrom_decode (h : IsLine line) (rest : Text) :
    (Text.decode line ++ rest).lines = Text.linesFrom (Text.decode line).reverse rest := by
  have hfeed : Rune.newline ∉ Text.decode line := fun hmem =>
    h.1 ((Text.ascii_mem_decode (b := 10) (by decide)).mp hmem)
  have hreturn : Rune.carriageReturn ∉ Text.decode line := fun hmem =>
    h.2 ((Text.ascii_mem_decode (b := 13) (by decide)).mp hmem)
  rw [Text.lines, Text.linesFrom_append hfeed hreturn, List.append_nil]

theorem decode_append_lineFeed :
    Text.decode (line ++ 10 :: rest) = Text.decode line ++ Rune.newline :: Text.decode rest :=
  Text.decode_append_ascii (by decide) line rest

theorem decode_append_carriageReturn :
    Text.decode (line ++ 13 :: rest) = Text.decode line ++ Rune.carriageReturn :: Text.decode rest :=
  Text.decode_append_ascii (by decide) line rest

theorem head?_decode_ne (h : bytes.head? ≠ some 10) : (Text.decode bytes).head? ≠ some Rune.newline := by
  cases bytes with
  | nil => exact fun hhead => nomatch hhead
  | cons lead rest =>
    rw [Text.decode_cons]
    intro hhead
    have hencode := Text.encode_readRune lead rest
    rw [Option.some.inj hhead] at hencode
    exact h (congrArg List.head? hencode).symm

/-- **A file can be split into lines before it is read.** -/
theorem Lines.lines_decode (h : Lines bytes lines) :
    (Text.decode bytes).lines = lines.map Text.decode := by
  induction h with
  | nil => rfl
  | @last line hline hne =>
    have hdecode : (Text.decode line).reverse ≠ [] := by
      intro hnil
      rw [List.reverse_eq_nil_iff] at hnil
      have hencode := Text.encode_decode line
      rw [hnil] at hencode
      exact hne hencode.symm
    have hlines := hline.linesFrom_decode []
    rw [List.append_nil, Text.linesFrom_nil hdecode, List.reverse_reverse] at hlines
    exact hlines
  | lineFeed hline hrest ih =>
    rw [decode_append_lineFeed, hline.linesFrom_decode, Text.linesFrom_newline, List.reverse_reverse, ih,
      List.map_cons]
  | @both line rest lines hline hrest ih =>
    have hfeed : Text.decode (10 :: rest) = Rune.newline :: Text.decode rest :=
      Text.decode_append_ascii (by decide) [] rest
    rw [decode_append_carriageReturn, hfeed, hline.linesFrom_decode, Text.linesFrom_carriageReturn_newline,
      List.reverse_reverse, ih, List.map_cons]
  | carriageReturn hline halone hrest ih =>
    rw [decode_append_carriageReturn, hline.linesFrom_decode,
      Text.linesFrom_carriageReturn (head?_decode_ne halone), List.reverse_reverse, ih, List.map_cons]

theorem Lines.unique {lines' : List Bytes} (h : Lines bytes lines) (h' : Lines bytes lines') :
    lines = lines' := by
  have hmap : lines.map Text.decode = lines'.map Text.decode := h.lines_decode.symm.trans h'.lines_decode
  have hencode := congrArg (List.map Text.encode) hmap
  simpa [Function.comp_def, Text.encode_decode] using hencode

end Bytes

end GroundedDialogue
