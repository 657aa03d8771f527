import GroundedDialogue.Proofs.Text.Splitting
import GroundedDialogue.Text.Lowercase
import GroundedDialogue.Text.Word
import Mathlib.Tactic.SplitIfs

/-!
# Words on both sides of a space

A space belongs to no word, and neither to the letters nor to the marks that are looked at around a
capital sigma. So what stands in front of a space and what stands behind it go into lower case and fall
into words as if each were alone (`Text.runs_lower_append_space`), and so do any number of texts with
spaces between them (`Text.runs_lower_join`). Both kinds of words, those of the hashed embedding and
those of the overlap check, are runs in this sense.
-/

namespace GroundedDialogue.Text

variable {p : Rune → Bool} {r : Rune}

/-! ## Runs -/

theorem runsFrom_append_cons (hr : p r = false) (run a b : Text) :
    runsFrom p run (a ++ r :: b) = runsFrom p run a ++ runs p b := by
  induction a generalizing run with
  | nil =>
    have hstep : runsFrom p run (r :: b) = if run.isEmpty then runs p b else run.reverse :: runs p b := by
      rw [runsFrom, hr]
      rfl
    rw [List.nil_append, hstep, runsFrom]
    cases run with
    | nil => rfl
    | cons s run => rfl
  | cons s a ih =>
    rw [List.cons_append, runsFrom, runsFrom]
    split_ifs
    · exact ih (s :: run)
    · exact ih []
    · rw [ih [], List.cons_append]

/-- A code point outside of them divides the runs. -/
theorem runs_append_cons (hr : p r = false) (a b : Text) : runs p (a ++ r :: b) = runs p a ++ runs p b :=
  runsFrom_append_cons hr [] a b

theorem forall_mem_of_mem_runsFrom {run t word : Text} (hrun : ∀ s ∈ run, p s = true)
    (hword : word ∈ runsFrom p run t) : ∀ s ∈ word, p s = true := by
  induction t generalizing run with
  | nil =>
    rw [runsFrom] at hword
    split_ifs at hword
    · cases hword
    · rw [List.mem_singleton.mp hword]
      simpa using hrun
  | cons r t ih =>
    rw [runsFrom] at hword
    split_ifs at hword with hr hnil
    · exact ih (List.forall_mem_cons.mpr ⟨hr, hrun⟩) hword
    · exact ih (by simp) hword
    · rcases List.mem_cons.mp hword with rfl | hword
      · simpa using hrun
      · exact ih (by simp) hword

theorem forall_mem_of_mem_runs {t word : Text} (hword : word ∈ runs p t) : ∀ s ∈ word, p s = true :=
  forall_mem_of_mem_runsFrom (by simp) hword

/-! ## Lower case -/

theorem continuesCased_append_cons (hignorable : r.isCaseIgnorable = false) (hcased : r.isCased = false)
    (a b : Text) : continuesCased (a ++ r :: b) = continuesCased a := by
  induction a with
  | nil => simp [continuesCased, hignorable, hcased]
  | cons s a ih =>
    rw [continuesCased, continuesCased] at *
    rw [List.cons_append, List.dropWhile_cons, List.dropWhile_cons]
    split_ifs
    · exact ih
    · rfl

theorem lowerFrom_append_space (afterCased : Bool) (a b : Text) :
    lowerFrom afterCased (a ++ Rune.ofChar ' ' :: b) = lowerFrom afterCased a ++ Rune.ofChar ' ' :: lower b := by
  have hignorable : (Rune.ofChar ' ').isCaseIgnorable = false := by decide
  have hcased : (Rune.ofChar ' ').isCased = false := by decide
  induction a generalizing afterCased with
  | nil =>
    have hstep : lowerFrom afterCased (Rune.ofChar ' ' :: b) =
        Rune.lowercase.apply (Rune.ofChar ' ') ++ lowerFrom false b := by
      rw [lowerFrom, hignorable, hcased]
      exact if_neg (by decide)
    have hself : Rune.lowercase.apply (Rune.ofChar ' ') = [Rune.ofChar ' '] := by decide
    rw [List.nil_append, hstep, hself]
    rfl
  | cons s a ih =>
    rw [List.cons_append, lowerFrom, lowerFrom, continuesCased_append_cons hignorable hcased, ih]
    split_ifs <;> simp

theorem lower_append_space (a b : Text) : lower (a ++ " " ++ b) = lower a ++ " " ++ lower b := by
  show lower (a ++ [Rune.ofChar ' '] ++ b) = lower a ++ [Rune.ofChar ' '] ++ lower b
  rw [List.append_assoc, List.append_assoc]
  exact lowerFrom_append_space false a b

/-! ## Runs of the lower-cased text -/

theorem runs_lower_append_space (hp : p (Rune.ofChar ' ') = false) (a b : Text) :
    runs p (lower (a ++ " " ++ b)) = runs p (lower a) ++ runs p (lower b) := by
  rw [lower_append_space]
  show runs p (lower a ++ [Rune.ofChar ' '] ++ lower b) = _
  rw [List.append_assoc, List.singleton_append]
  exact runs_append_cons hp _ _

theorem runs_lower_join (hp : p (Rune.ofChar ' ') = false) (ts : List Text) :
    runs p (lower (join " " ts)) = ts.flatMap fun t => runs p (lower t) := by
  induction ts with
  | nil => rfl
  | cons a ts ih =>
    cases ts with
    | nil => simp [join_singleton]
    | cons b ts =>
      rw [join_cons_cons, ← List.append_assoc, runs_lower_append_space hp, ih]
      rfl

end GroundedDialogue.Text
