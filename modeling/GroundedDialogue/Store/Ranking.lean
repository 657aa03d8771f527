import GroundedDialogue.Store.Basic

/-!
# Ranking by similarity

The best documents for a query are kept in a fixed number of slots, best first. Each document in turn
goes in front of the first slot with a lower score, and the last slot falls off. So documents of one
score stay in the order in which they were added, and a slot for which there is no document stays
empty.
-/

namespace GroundedDialogue

/-- A slot holds the position of a document, if any, and the score to beat. -/
structure Slot (σ : Type) where
  index : Option Nat
  score : σ
  deriving DecidableEq

namespace Ranking

/-- Puts a document in front of the first slot that it beats. -/
def place {σ : Type} (beats : σ → σ → Bool) (new : Slot σ) : List (Slot σ) → List (Slot σ)
  | [] => []
  | slot :: rest =>
    if beats new.score slot.score then new :: (slot :: rest).dropLast
    else slot :: place beats new rest

/-- The slots after all documents. An empty slot has the score `least`. -/
def slots {σ : Type} (beats : σ → σ → Bool) (least : σ) (k : Nat) (scores : List σ) : List (Slot σ) :=
  scores.zipIdx.foldl (fun slots (score, i) => place beats ⟨some i, score⟩ slots)
    (List.replicate k ⟨none, least⟩)

end Ranking

structure Hit where
  index : Nat
  score : Binary32
  text : Text
  deriving DecidableEq

/-- Why a query is not answered. -/
inductive QueryError where
  /-- The query vector has the wrong size. -/
  | dimension (found expected : Nat)
  /-- So many slots cannot be made. -/
  | slots (f : Fault)
  deriving DecidableEq, Repr

def QueryError.message : QueryError → Text
  | dimension found expected =>
    "Query dimension " ++ Text.ofNat found ++ " does not match expected dimension " ++ Text.ofNat expected
  | slots f => f.message

namespace Store

def defaultTopK : Int := 5

/-- The number of bytes that a slot takes, half of them for its index and half for its score. -/
def slotSize : Nat := 16

variable [Platform]

/-- Whether so many slots can be made. -/
def checkSlots (k : Nat) : Except Fault Unit :=
  if !Position.fits k then .error .uncountableSlots
  else if !Platform.holds k slotSize then .error .slotsBeyondMemory
  else .ok ()

/-- The slots for documents of these scores. -/
def rankBy (s : Store) (score : Document → Binary32) (k : Nat) : Except Fault (List (Slot Binary32)) := do
  checkSlots k
  return Ranking.slots (fun a b => b.lt a) Binary32.negInfinity k (s.documents.map score)

/-- How close a document comes to a query. -/
def similarity (query : Embedding) (d : Document) : Binary32 := query.cosine d.embedding

/-- The slots for a query. -/
def rank (s : Store) (query : Embedding) (k : Nat) : Except QueryError (List (Slot Binary32)) :=
  if query.length = s.layout.embedSize then (s.rankBy (similarity query) k).mapError .slots
  else .error (.dimension query.length s.layout.embedSize)

/-- The positions of the `k` best documents; a slot without a document is `none`. -/
def search (s : Store) (query : Embedding) (k : Int) : Except QueryError (List (Option Nat)) :=
  if k ≤ 0 then .ok [] else (s.rank query k.toNat).map fun slots => slots.map Slot.index

def hit? (s : Store) (slot : Slot Binary32) : Option Hit := do
  let i ← slot.index
  let d ← s.documents[i]?
  return ⟨i, slot.score, d.text⟩

def hits (s : Store) (query : Embedding) (k : Int) : Except QueryError (List Hit) :=
  if k ≤ 0 then .ok [] else (s.rank query k.toNat).map fun slots => slots.filterMap s.hit?

end Store

end GroundedDialogue
