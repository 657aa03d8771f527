import GroundedDialogue.Scalar

/-!
# Details of a log entry

Named values in the order in which their names first came; a name that comes again keeps its place
and takes the new value.
-/

namespace GroundedDialogue.Log

/-- Named values in order. -/
abbrev Details := List (Text × Scalar)

namespace Details

def set (name : Text) (value : Scalar) : Details → Details
  | [] => [(name, value)]
  | (name', value') :: rest =>
    if name' = name then (name, value) :: rest else (name', value') :: set name value rest

/-- Sets the values of several names, one after another. -/
def extend (d more : Details) : Details := more.foldl (fun d (name, value) => d.set name value) d

/-- Details from pairs in which a name may come more than once. -/
def ofPairs (pairs : Details) : Details := extend [] pairs

def text (d : Details) : Text :=
  "\x7b" ++ Text.join ", " (d.map fun (name, value) => name.quoted ++ ": " ++ value.quoted) ++ "\x7d"

end Details

end GroundedDialogue.Log
