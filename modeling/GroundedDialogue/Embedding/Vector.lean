import GroundedDialogue.Platform

/-!
# Embeddings and their similarity

An embedding is a vector of single-precision numbers. Two embeddings are compared by the cosine of the
angle between them. A small constant in the denominator makes a zero vector score zero.
-/

namespace GroundedDialogue

/-- A vector of single-precision numbers. -/
abbrev Embedding := List Binary32

namespace Embedding

/-- One part in a hundred million. -/
def epsilon : Binary32 := Binary32.ofQuotient false 1 100000000

variable [Platform]

def norm (a : Embedding) : Binary32 := (Platform.dot a a).sqrt

/-- The cosine similarity of two vectors of one length. -/
def cosine (a b : Embedding) : Binary32 :=
  (Platform.dot a b).div ((a.norm.mul b.norm).add epsilon)

/-- The cosine similarity, if the lengths agree. -/
def cosine? (a b : Embedding) : Option Binary32 :=
  if a.length = b.length then some (cosine a b) else none

end Embedding

end GroundedDialogue
