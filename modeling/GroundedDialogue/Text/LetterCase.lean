import GroundedDialogue.Text.Ranges

/-!
# Letter case: the form of the tables

A case mapping moves runs of code points by one distance, either each code point of the run or every
second one. The few code points that become several have a table of their own.
-/

namespace GroundedDialogue

/-- Every `stride`-th code point from `first` to `last` is moved by `shift`. -/
structure CaseRun where
  first : Nat
  last : Nat
  stride : Nat
  shift : Int

/-- A case mapping of code points. -/
structure CaseMapping where
  runs : List CaseRun
  expansions : List (Nat × List Rune)

namespace CaseMapping

/-- The code point that a list of runs, ascending by their first code points, maps this one to. A
run of stride two may lie between the code points of another, so the search goes on past it. -/
def single (r : Rune) : List CaseRun → Rune
  | [] => r
  | run :: rest =>
    if r.val < run.first then r
    else if r.val ≤ run.last && (r.val - run.first) % run.stride = 0 then
      Rune.ofNat (r.val + run.shift).toNat
    else single r rest

/-- The code points that a code point becomes. -/
def apply (m : CaseMapping) (r : Rune) : List Rune :=
  match m.expansions.lookup r.val with
  | some rs => rs
  | none => [single r m.runs]

end CaseMapping

end GroundedDialogue
