/-!
# Token budgets

The number of tokens that a reply may take. A ceiling bounds every request; a request that is not
positive asks for as much as the ceiling allows.
-/

namespace GroundedDialogue.Budget

/-- The ceiling when none is configured. -/
def defaultCeiling : Int := 64

/-- The budget for a request under a ceiling. -/
def clamp (requested ceiling : Int) : Int := if requested ≤ 0 then ceiling else min requested ceiling

end GroundedDialogue.Budget
