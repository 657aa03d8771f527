import GroundedDialogue.Generation.Pieces
import GroundedDialogue.Prompt
import GroundedDialogue.Proofs.Bytes
import GroundedDialogue.Proofs.Reply.Cleanup
import GroundedDialogue.Proofs.Text.Pieces

/-!
# The best snippet in a prompt

The snippets of a prompt can be told from the rest of it by their headings. In front of the first one
stand only lines from outside: the system text, the name of the speaker and, in one style, the question.
Where these hold no label of a snippet, the first heading that is found is the one that the prompt was
given, and what follows it is the best of the texts (`reply_build`).
-/

namespace GroundedDialogue

namespace Snippet

/-- The text of a snippet as it is said: its first line, or that there is nothing to say. -/
def line (t : Text) : Text :=
  let line := Text.strip (t.takeWhile (· ≠ Rune.newline))
  if line = [] then ignorance else line

/-- What is said about a text: its line, as the model would say it, with a space in front. -/
def spoken (t : Text) : Text := Rune.ofChar ' ' :: line t

/-! ## The line that is said -/

theorem newline_not_mem_line (t : Text) : Rune.newline ∉ line t := by
  rw [line]
  split_ifs
  · decide
  · intro hmem
    have hpart : Text.strip (t.takeWhile (· ≠ Rune.newline)) <:+: t.takeWhile (· ≠ Rune.newline) :=
      (Reply.trimEnd_isPrefix _ _).isInfix.trans (Reply.trimStart_isSuffix _ _).isInfix
    exact Bytes.not_mem_takeWhile_ne Rune.newline t (hpart.mem hmem)

theorem line_ne_nil (t : Text) : line t ≠ [] := by
  rw [line]
  split_ifs with hline
  · decide
  · exact hline

theorem line_flush (t : Text) :
    (∀ r ∈ (line t).head?, r.isWhiteSpace = false) ∧ Text.EndsInWord (line t) := by
  rw [line]
  split_ifs
  · refine ⟨?_, ?_⟩
    · rintro r ⟨⟩
      decide
    · rintro r ⟨⟩
      decide
  · exact ⟨Text.isWhiteSpace_of_mem_head?_strip _, Text.endsInWord_strip _⟩

theorem beginsWithSpace_spoken (t : Text) : (spoken t).BeginsWithSpace := by
  rintro r ⟨⟩
  decide

theorem newline_not_mem_spoken (t : Text) : Rune.newline ∉ spoken t := by
  rw [spoken, List.mem_cons, not_or]
  exact ⟨by decide, newline_not_mem_line t⟩

theorem endsInWord_spoken (t : Text) : (spoken t).EndsInWord := by
  intro r hr
  rw [spoken, List.getLast?_cons_of_ne_nil (line_ne_nil t)] at hr
  exact (line_flush t).2 r hr

theorem flatten_pieces_spoken (t : Text) : (spoken t).pieces.flatten = spoken t :=
  Text.flatten_pieces (newline_not_mem_spoken t) (endsInWord_spoken t)

/-! ## Headings -/

theorem newline_not_mem_label : Rune.newline ∉ label := by decide

theorem not_isInfix_append {before x : Text} (hbefore : Rune.ofChar 'S' ∉ before) (hx : ¬label <:+: x) :
    ¬label <:+: before ++ x := fun hpart => hx (Text.isInfix_of_isInfix_append hbefore hpart)

theorem lineAfterHeading?_eq_none {t : Text} (h : ¬label <+: t) : lineAfterHeading? t = none := by
  have hnone : Text.after? label t = none := by
    rw [Option.eq_none_iff_forall_ne_some]
    intro rest hrest
    exact h ⟨rest, (Reply.after?_eq_some_iff.mp hrest).symm⟩
  rw [lineAfterHeading?, hnone]
  rfl

theorem firstLine?_of_heading {t found : Text} (h : lineAfterHeading? t = some found) :
    firstLine? t = some found := by
  cases t with
  | nil => cases h
  | cons r t => rw [firstLine?, h]

theorem firstLine?_cons_of_not_isPrefix {r : Rune} {t : Text} (h : ¬label <+: r :: t) :
    firstLine? (r :: t) = firstLine? t := by
  rw [firstLine?, lineAfterHeading?_eq_none h]

theorem firstLine?_append {x : Text} (hx : ¬label <:+: x) (rest : Text) :
    firstLine? (x ++ Rune.newline :: rest) = firstLine? rest := by
  induction x with
  | nil =>
    refine firstLine?_cons_of_not_isPrefix ?_
    rintro ⟨later, hlater⟩
    have hhead := congrArg List.head? hlater
    cases hhead
  | cons r x ih =>
    rw [List.infix_cons_iff, not_or] at hx
    rw [← ih hx.2]
    exact firstLine?_cons_of_not_isPrefix fun hstart =>
      hx.1 (Text.isPrefix_of_isPrefix_append_cons newline_not_mem_label hstart)

/-! ## Prompts -/

theorem lineAfterHeading?_first (t rest : Text) :
    lineAfterHeading? (label ++ (Rune.ofChar '1' :: Text.ofString ":\n" ++ (t ++ Rune.newline :: rest)))
      = some (t.takeWhile (· ≠ Rune.newline)) := by
  have hnumbered := Reply.after?_eq_some_iff.mpr
    (Eq.refl (label ++ (Rune.ofChar '1' :: Text.ofString ":\n" ++ (t ++ Rune.newline :: rest))))
  have hbody := Reply.after?_eq_some_iff.mpr (Eq.refl (Text.ofString ":\n" ++ (t ++ Rune.newline :: rest)))
  have hnumber : (Rune.ofChar '1' :: Text.ofString ":\n" ++ (t ++ Rune.newline :: rest)).dropWhile
      (fun r => r.digitValue?.isSome) = Text.ofString ":\n" ++ (t ++ Rune.newline :: rest) := rfl
  rw [lineAfterHeading?, hnumbered]
  simp only [Option.bind_eq_bind, Option.bind_some, hnumber]
  rw [if_neg (by simp), hbody]
  exact congrArg some (Bytes.takeWhile_ne_append_cons Rune.newline t rest)

theorem firstLine?_context (t : Text) (texts : List Text) (rest : Text) :
    firstLine? (Prompt.context (t :: texts) ++ rest) = some (t.takeWhile (· ≠ Rune.newline)) := by
  have hone : Text.ofNat 1 = [Rune.ofChar '1'] := rfl
  have hend : Text.ofString "\n" = [Rune.newline] := rfl
  have hcontext : Prompt.context (t :: texts) ++ rest
      = label ++ (Rune.ofChar '1' :: Text.ofString ":\n"
          ++ (t ++ Rune.newline :: (Prompt.snippetsFrom 2 texts ++ rest))) := by
    rw [Prompt.context, Prompt.snippetsFrom, hone, hend, label]
    simp only [List.append_assoc, List.cons_append, List.nil_append]
  rw [hcontext]
  exact firstLine?_of_heading (lineAfterHeading?_first t _)

variable {speaker : Option Text}

theorem firstLine?_body (hspeaker : ∀ name ∈ speaker, ¬label <:+: name) (context rest : Text) :
    firstLine? (Prompt.body speaker (some context) ++ rest) = firstLine? (context ++ rest) := by
  match speaker with
  | none => rfl
  | some [] => rfl
  | some (r :: name) =>
    have hline : Prompt.body (some (r :: name)) (some context) ++ rest
        = Text.ofString "NPC Name: " ++ (r :: name) ++ Rune.newline :: (context ++ rest) := by
      show Text.ofString "NPC Name: " ++ (r :: name) ++ [Rune.newline] ++ context ++ rest = _
      simp only [List.append_assoc, List.cons_append, List.nil_append]
    rw [hline, firstLine?_append (not_isInfix_append (by decide) (hspeaker _ rfl))]

/-- What stands in front of the speaker and the snippets, up to the line feed after each. -/
def opening (style : PromptStyle) (system question : Text) : List Text :=
  match style with
  | .instruction => ["instruction: " ++ system, "question: " ++ question, "context:"]
  | .chat => ["System:", system, "User:", "Context:"]
  | .plain => ["System:", system, "Context:"]

theorem exists_build_eq (style : PromptStyle) (system question : Text) (speaker context : Option Text) :
    ∃ closing, Prompt.build style (some system) speaker context (some question)
      = (opening style system question).foldr (fun x rest => x ++ Rune.newline :: rest)
          (Prompt.body speaker context ++ closing) := by
  cases style with
  | instruction =>
    refine ⟨"\nanswer:", ?_⟩
    simp only [Prompt.build, opening, List.foldr_cons, List.foldr_nil, Option.getD_some, List.append_assoc]
    rfl
  | chat =>
    refine ⟨"\nQuestion:\n" ++ question ++ "\nAssistant:", ?_⟩
    simp only [Prompt.build, opening, List.foldr_cons, List.foldr_nil, Option.getD_some, List.append_assoc]
    rfl
  | plain =>
    refine ⟨"\nQuestion:\n" ++ question ++ "\nAnswer:", ?_⟩
    simp only [Prompt.build, opening, List.foldr_cons, List.foldr_nil, Option.getD_some, List.append_assoc]
    rfl

theorem firstLine?_foldr {parts : List Text} (hparts : ∀ x ∈ parts, ¬label <:+: x) (rest : Text) :
    firstLine? (parts.foldr (fun x rest => x ++ Rune.newline :: rest) rest) = firstLine? rest := by
  induction parts with
  | nil => rfl
  | cons x parts ih =>
    obtain ⟨hx, hparts⟩ := List.forall_mem_cons.mp hparts
    rw [List.foldr_cons, firstLine?_append hx, ih hparts]

variable {system question : Text}

theorem not_isInfix_of_mem_opening (hsystem : ¬label <:+: system) {style : PromptStyle}
    (hquestion : style = .instruction → ¬label <:+: question) :
    ∀ x ∈ opening style system question, ¬label <:+: x := by
  cases style with
  | instruction =>
    simp only [opening, List.forall_mem_cons, List.not_mem_nil, false_implies, implies_true, and_true]
    exact ⟨not_isInfix_append (by decide) hsystem, not_isInfix_append (by decide) (hquestion rfl), by decide⟩
  | chat =>
    simp only [opening, List.forall_mem_cons, List.not_mem_nil, false_implies, implies_true, and_true]
    exact ⟨by decide, hsystem, by decide, by decide⟩
  | plain =>
    simp only [opening, List.forall_mem_cons, List.not_mem_nil, false_implies, implies_true, and_true]
    exact ⟨by decide, hsystem, by decide⟩

/-- **The best text of a prompt is what is said in answer to it.** -/
theorem reply_build (hsystem : ¬label <:+: system) (hspeaker : ∀ name ∈ speaker, ¬label <:+: name)
    {style : PromptStyle} (hquestion : style = .instruction → ¬label <:+: question) (t : Text)
    (texts : List Text) :
    reply (Prompt.build style (some system) speaker (some (Prompt.context (t :: texts))) (some question))
      = spoken t := by
  obtain ⟨closing, hbuild⟩ :=
    exists_build_eq style system question speaker (some (Prompt.context (t :: texts)))
  rw [reply, hbuild, firstLine?_foldr (not_isInfix_of_mem_opening hsystem hquestion),
    firstLine?_body hspeaker, firstLine?_context]
  rfl

end Snippet

end GroundedDialogue
