import GroundedDialogue.Platform.Reference
import GroundedDialogue.Store.Ranking
import Mathlib.Data.List.Basic
import Mathlib.Tactic.SplitIfs

/-!
# The slots are a stable ranking

`Store.search_ranking`: a search gives the positions of the rankable documents, the better score first
and of equal scores the earlier document first, cut to the number of slots or filled up with empty ones.
It is so for any scores (`Store.rankBy_of_holds`), and the similarity to a query is only one of them. More
slots than fit into memory are refused.

The slots after some documents are the beginning of the sorted list of those documents, followed by
empty slots (`slots_eq_filled`). One step puts the next document in front of the first one that it beats
(`place_filled`), or changes nothing when the document beats not even an empty slot
(`place_filled_of_not`). The sorted list is kept sorted by such a step because the next document was
added after all others (`pairwise_insert`). All that is asked of the scores is `Orders`; scores that are
no number beat nothing and are beaten by nothing, so they never enter the list.
-/

namespace GroundedDialogue

namespace Ranking

variable {σ : Type} {beats : σ → σ → Bool} {least : σ}

/-- What is asked of scores. Only a score above `least` need be comparable with the others. -/
structure Orders (beats : σ → σ → Bool) (least : σ) : Prop where
  trans : ∀ {a b c}, beats a b = true → beats b c = true → beats a c = true
  cotrans : ∀ {a b c}, beats b least = true → beats a c = true → beats a b = true ∨ beats b c = true

/-- A document with this score at this position comes before another one: its score is better, or not
worse and it was added earlier. -/
def Before (beats : σ → σ → Bool) (a b : σ × Nat) : Prop :=
  beats a.1 b.1 = true ∨ (beats b.1 a.1 = false ∧ a.2 < b.2)

/-- Puts a document in front of the first one that it beats. -/
def insert (beats : σ → σ → Bool) (new : σ × Nat) : List (σ × Nat) → List (σ × Nat)
  | [] => [new]
  | p :: rest => if beats new.1 p.1 then new :: p :: rest else p :: insert beats new rest

/-- The rankable scores with their positions, best first. -/
def order (beats : σ → σ → Bool) (least : σ) (scores : List σ) : List (σ × Nat) :=
  (scores.zipIdx.filter fun p => beats p.1 least).foldl (fun l p => insert beats p l) []

def slotOf (p : σ × Nat) : Slot σ := ⟨some p.2, p.1⟩

def emptySlot (least : σ) : Slot σ := ⟨none, least⟩

/-- The first `k` of the sorted documents, with empty slots behind them. -/
def filled (least : σ) (k : Nat) (l : List (σ × Nat)) : List (Slot σ) :=
  (l.map slotOf ++ List.replicate k (emptySlot least)).take k

/-! ## One document -/

theorem place_of_not_beats {new : Slot σ} {slots : List (Slot σ)}
    (h : ∀ slot ∈ slots, beats new.score slot.score = false) : place beats new slots = slots := by
  induction slots with
  | nil => rfl
  | cons slot rest ih =>
    have hslot := h slot List.mem_cons_self
    rw [place, if_neg (by rw [hslot]; exact Bool.false_ne_true),
      ih fun s hs => h s (List.mem_cons_of_mem _ hs)]

theorem dropLast_take_succ {α : Type} (l : List α) {k : Nat} (hk : k < l.length) :
    (l.take (k + 1)).dropLast = l.take k := by
  rw [List.dropLast_eq_take, List.length_take, List.take_take]
  congr 1
  omega

theorem place_take {new : σ × Nat} (hnew : beats new.1 least = true) (l : List (σ × Nat)) (n k : Nat)
    (hk : k ≤ l.length + n) :
    place beats (slotOf new) ((l.map slotOf ++ List.replicate n (emptySlot least)).take k)
      = ((insert beats new l).map slotOf ++ List.replicate n (emptySlot least)).take k := by
  induction l generalizing k with
  | nil =>
    cases k with
    | zero => rfl
    | succ k =>
      obtain ⟨n, rfl⟩ : ∃ m, n = m + 1 := ⟨n - 1, by simp at hk; omega⟩
      have hlength : k < (List.replicate (n + 1) (emptySlot least)).length := by
        rw [List.length_replicate]
        simp at hk
        omega
      have hdrop := dropLast_take_succ _ hlength
      rw [List.map_nil, List.nil_append, insert, List.map_cons, List.map_nil, List.cons_append,
        List.nil_append, List.take_succ_cons, ← hdrop]
      rw [List.replicate_succ, List.take_succ_cons, place]
      exact if_pos hnew
  | cons p rest ih =>
    cases k with
    | zero => rfl
    | succ k =>
      have hk : k ≤ rest.length + n := by
        rw [List.length_cons] at hk
        omega
      rw [List.map_cons, List.cons_append, List.take_succ_cons, place, insert]
      change (if beats new.1 p.1 then _ else _) = _
      split_ifs with hbeats
      · have hlength : k < (slotOf p :: (rest.map slotOf ++ List.replicate n (emptySlot least))).length := by
          simp
          omega
        have hdrop := dropLast_take_succ _ hlength
        rw [List.take_succ_cons] at hdrop
        rw [hdrop, List.map_cons, List.map_cons, List.cons_append, List.take_succ_cons, List.cons_append]
      · rw [ih k hk, List.map_cons, List.cons_append, List.take_succ_cons]

theorem place_filled {new : σ × Nat} (hnew : beats new.1 least = true) (l : List (σ × Nat)) (k : Nat) :
    place beats (slotOf new) (filled least k l) = filled least k (insert beats new l) :=
  place_take hnew l k k (Nat.le_add_left _ _)

theorem place_filled_of_not (hbeats : Orders beats least) {new : σ × Nat}
    (hnew : beats new.1 least = false) {l : List (σ × Nat)} (hl : ∀ p ∈ l, beats p.1 least = true)
    (k : Nat) : place beats (slotOf new) (filled least k l) = filled least k l := by
  apply place_of_not_beats
  intro slot hslot
  rcases List.mem_append.mp (List.mem_of_mem_take hslot) with hmem | hmem
  · obtain ⟨p, hp, rfl⟩ := List.mem_map.mp hmem
    cases hnp : beats new.1 p.1 with
    | false => exact hnp
    | true =>
      rw [hbeats.trans hnp (hl p hp)] at hnew
      cases hnew
  · rw [List.eq_of_mem_replicate hmem]
    exact hnew

/-! ## The sorted list -/

theorem insert_perm (new : σ × Nat) (l : List (σ × Nat)) : (insert beats new l).Perm (new :: l) := by
  induction l with
  | nil => exact List.Perm.refl _
  | cons p rest ih =>
    rw [insert]
    split_ifs
    · exact List.Perm.refl _
    · exact (ih.cons p).trans (List.Perm.swap new p rest)

/-- A document that was added after all others goes to its place. -/
theorem pairwise_insert (hbeats : Orders beats least) {new : σ × Nat} {l : List (σ × Nat)}
    (hl : ∀ p ∈ l, beats p.1 least = true) (hlater : ∀ p ∈ l, p.2 < new.2)
    (hsorted : l.Pairwise (Before beats)) : (insert beats new l).Pairwise (Before beats) := by
  induction l with
  | nil => exact List.pairwise_singleton _ _
  | cons p rest ih =>
    obtain ⟨hp, hrest⟩ := List.pairwise_cons.mp hsorted
    rw [insert]
    split_ifs with hnp
    · refine List.pairwise_cons.mpr ⟨fun q hq => Or.inl ?_, hsorted⟩
      rcases List.mem_cons.mp hq with rfl | hmem
      · exact hnp
      · rcases hp q hmem with hpq | ⟨hqp, _⟩
        · exact hbeats.trans hnp hpq
        · rcases hbeats.cotrans (hl q hq) hnp with hnq | hqp'
          · exact hnq
          · rw [hqp] at hqp'
            cases hqp'
    · refine List.pairwise_cons.mpr ⟨fun q hq => ?_, ih (fun q hq => hl q (List.mem_cons_of_mem _ hq))
        (fun q hq => hlater q (List.mem_cons_of_mem _ hq)) hrest⟩
      rcases List.mem_cons.mp ((insert_perm new rest).mem_iff.mp hq) with rfl | hmem
      · exact Or.inr ⟨Bool.eq_false_iff.mpr hnp, hlater p List.mem_cons_self⟩
      · exact hp q hmem

theorem foldl_insert_perm (pairs l : List (σ × Nat)) :
    (pairs.foldl (fun l p => insert beats p l) l).Perm (l ++ pairs) := by
  induction pairs generalizing l with
  | nil => rw [List.append_nil]; exact List.Perm.refl _
  | cons p pairs ih =>
    rw [List.foldl_cons]
    exact ((ih _).trans ((insert_perm p l).append_right pairs)).trans List.perm_middle.symm

theorem pairwise_foldl_insert (hbeats : Orders beats least) {pairs : List (σ × Nat)}
    (hpairs : ∀ p ∈ pairs, beats p.1 least = true) (hincreasing : pairs.Pairwise fun p q => p.2 < q.2)
    {l : List (σ × Nat)} (hl : ∀ p ∈ l, beats p.1 least = true)
    (hlater : ∀ p ∈ l, ∀ q ∈ pairs, p.2 < q.2) (hsorted : l.Pairwise (Before beats)) :
    (pairs.foldl (fun l p => insert beats p l) l).Pairwise (Before beats) := by
  induction pairs generalizing l with
  | nil => exact hsorted
  | cons q pairs ih =>
    obtain ⟨hq, hincreasing⟩ := List.pairwise_cons.mp hincreasing
    rw [List.foldl_cons]
    refine ih (fun p hp => hpairs p (List.mem_cons_of_mem _ hp)) hincreasing ?_ ?_
      (pairwise_insert hbeats hl (fun p hp => hlater p hp q List.mem_cons_self) hsorted)
    · intro p hp
      rcases List.mem_cons.mp ((insert_perm q l).mem_iff.mp hp) with rfl | hmem
      · exact hpairs p List.mem_cons_self
      · exact hl p hmem
    · intro p hp r hr
      rcases List.mem_cons.mp ((insert_perm q l).mem_iff.mp hp) with rfl | hmem
      · exact hq r hr
      · exact hlater p hmem r (List.mem_cons_of_mem _ hr)

theorem zipIdx_pairwise_lt (scores : List σ) (start : Nat) :
    (scores.zipIdx start).Pairwise fun p q => p.2 < q.2 := by
  have h : ((scores.zipIdx start).map Prod.snd).Pairwise (· < ·) := by
    rw [List.zipIdx_map_snd]
    exact List.pairwise_lt_range' 
  exact List.pairwise_map.mp h

theorem order_perm (beats : σ → σ → Bool) (least : σ) (scores : List σ) :
    (order beats least scores).Perm (scores.zipIdx.filter fun p => beats p.1 least) :=
  foldl_insert_perm _ []

theorem order_pairwise (hbeats : Orders beats least) (scores : List σ) :
    (order beats least scores).Pairwise (Before beats) :=
  pairwise_foldl_insert hbeats (fun _ hp => (List.mem_filter.mp hp).2)
    ((zipIdx_pairwise_lt scores 0).filter _) (fun _ hp => nomatch hp) (fun _ hp => nomatch hp)
    List.Pairwise.nil

/-! ## All documents -/

theorem foldl_place_filled (hbeats : Orders beats least) (k : Nat) (pairs : List (σ × Nat))
    {l : List (σ × Nat)} (hl : ∀ p ∈ l, beats p.1 least = true) :
    pairs.foldl (fun slots p => place beats (slotOf p) slots) (filled least k l)
      = filled least k ((pairs.filter fun p => beats p.1 least).foldl (fun l p => insert beats p l) l) := by
  induction pairs generalizing l with
  | nil => rfl
  | cons p pairs ih =>
    rw [List.foldl_cons, List.filter_cons]
    split_ifs with hp
    · rw [place_filled hp, List.foldl_cons]
      refine ih fun q hq => ?_
      rcases List.mem_cons.mp ((insert_perm p l).mem_iff.mp hq) with rfl | hmem
      · exact hp
      · exact hl q hmem
    · rw [place_filled_of_not hbeats (Bool.eq_false_iff.mpr hp) hl]
      exact ih hl

/-- **The slots hold the beginning of the sorted list**, and after it they are empty. -/
theorem slots_eq_filled (hbeats : Orders beats least) (k : Nat) (scores : List σ) :
    slots beats least k scores = filled least k (order beats least scores) := by
  have hstart : filled least k [] = List.replicate k (emptySlot least) := by
    rw [filled, List.map_nil, List.nil_append, List.take_replicate, Nat.min_self]
  have hrun := foldl_place_filled hbeats k scores.zipIdx (l := []) fun _ hp => nomatch hp
  rw [hstart] at hrun
  exact hrun

end Ranking

namespace Binary32

theorem lt_iff {x y : Binary32} :
    x.lt y = true ↔ x.isNaN = false ∧ y.isNaN = false ∧ x.rank < y.rank := by
  simp [lt, and_assoc]

theorem orders_lt : Ranking.Orders (fun a b => Binary32.lt b a) negInfinity where
  trans := by
    intro a b c hab hbc
    rw [lt_iff] at *
    exact ⟨hbc.1, hab.2.1, by omega⟩
  cotrans := by
    intro a b c hb hac
    simp only [lt_iff] at *
    by_cases h : b.rank < a.rank
    · exact Or.inl ⟨hb.2.1, hac.2.1, h⟩
    · exact Or.inr ⟨hac.1, hb.2.1, by omega⟩

end Binary32

namespace Store

/-! ## Searching a store -/

def scores (s : Store) (score : Document → Binary32) : List Binary32 :=
  s.documents.map fun d => score d

def scoreAt (s : Store) (score : Document → Binary32) (i : Nat) : Binary32 :=
  (s.scores score).getD i Binary32.negInfinity

/-- A document can be ranked when its score is a number above negative infinity. -/
def rankable (s : Store) (score : Document → Binary32) (i : Nat) : Bool :=
  !(s.scoreAt score i).isNaN && Binary32.negInfinity.lt (s.scoreAt score i)

/-- The positions of the rankable documents, each once; the better score comes first, and of equal
scores the earlier document. -/
structure Ranks (s : Store) (score : Document → Binary32) (order : List Nat) : Prop where
  positions : order.Perm ((List.range s.length).filter (s.rankable score))
  sorted : order.Pairwise fun i j =>
    (s.scoreAt score j).lt (s.scoreAt score i) = true ∨
      ((s.scoreAt score i).lt (s.scoreAt score j) = false ∧ i < j)

def ranking (s : Store) (score : Document → Binary32) : List Nat :=
  (Ranking.order (fun a b => b.lt a) Binary32.negInfinity (s.scores score)).map Prod.snd

def topSlots (s : Store) (score : Document → Binary32) (k : Nat) : List (Option Nat) :=
  ((s.ranking score).take k).map some ++ List.replicate (k - (s.ranking score).length) none

def hitAt (s : Store) (score : Document → Binary32) (i : Nat) : Option Hit :=
  s.documents[i]?.map fun d => ⟨i, score d, d.text⟩

/-- The documents in the slots; empty slots are left out. -/
def topHits (s : Store) (score : Document → Binary32) (k : Nat) : List Hit :=
  (s.topSlots score k).filterMap fun slot => slot.bind (s.hitAt score)

theorem length_scores (s : Store) (score : Document → Binary32) : (s.scores score).length = s.length := by
  rw [scores, List.length_map, length]

theorem eq_scoreAt {s : Store} {score : Document → Binary32} {p : Binary32 × Nat}
    (hp : p ∈ (s.scores score).zipIdx) : p.1 = s.scoreAt score p.2 := by
  have hget := List.mem_zipIdx_iff_getElem?.mp hp
  rw [scoreAt, List.getD_eq_getElem?_getD, hget, Option.getD_some]

theorem rankable_eq (s : Store) (score : Document → Binary32) (i : Nat) :
    s.rankable score i = Binary32.negInfinity.lt (s.scoreAt score i) := by
  rw [rankable]
  cases hlt : Binary32.negInfinity.lt (s.scoreAt score i) with
  | false => exact Bool.and_false _
  | true =>
    have hnumber := (Binary32.lt_iff.mp hlt).2.1
    rw [hnumber]
    rfl

theorem positions_candidates (s : Store) (score : Document → Binary32) :
    ((s.scores score).zipIdx.filter fun p => Binary32.negInfinity.lt p.1).map Prod.snd
      = (List.range s.length).filter (s.rankable score) := by
  have hcongr : (s.scores score).zipIdx.filter (fun p => Binary32.negInfinity.lt p.1)
      = (s.scores score).zipIdx.filter (s.rankable score ∘ Prod.snd) := by
    apply List.filter_congr
    intro p hp
    rw [Function.comp_apply, rankable_eq, ← eq_scoreAt hp]
  rw [hcongr, ← List.filter_map, List.zipIdx_map_snd, length_scores, List.range_eq_range']

theorem ranks_ranking (s : Store) (score : Document → Binary32) : s.Ranks score (s.ranking score) where
  positions := by
    rw [← positions_candidates]
    exact (Ranking.order_perm _ _ _).map Prod.snd
  sorted := by
    have hmem : ∀ p ∈ Ranking.order (fun a b => Binary32.lt b a) Binary32.negInfinity (s.scores score),
        p.1 = s.scoreAt score p.2 := fun p hp =>
      eq_scoreAt (List.mem_filter.mp ((Ranking.order_perm _ _ _).mem_iff.mp hp)).1
    refine List.pairwise_map.mpr ((Ranking.order_pairwise Binary32.orders_lt _).imp_of_mem ?_)
    intro p q hp hq hbefore
    rw [← hmem p hp, ← hmem q hq]
    exact hbefore

theorem Ranks.lt_length {s : Store} {score : Document → Binary32} {order : List Nat} (h : s.Ranks score order)
    {i : Nat} (hi : i ∈ order) : i < s.length :=
  List.mem_range.mp (List.mem_filter.mp (h.positions.mem_iff.mp hi)).1

theorem Ranks.nodup {s : Store} {score : Document → Binary32} {order : List Nat} (h : s.Ranks score order) :
    order.Nodup :=
  h.positions.nodup_iff.mpr (List.nodup_range.filter _)

theorem Ranks.unique {s : Store} {score : Document → Binary32} {order order' : List Nat} (h : s.Ranks score order)
    (h' : s.Ranks score order') : order = order' := by
  refine List.Perm.eq_of_pairwise ?_ h.sorted h'.sorted (h.positions.trans h'.positions.symm)
  rintro i j - - (hij | ⟨hij, hlt⟩) (hji | ⟨hji, hlt'⟩)
  · rw [Binary32.lt_iff] at hij hji
    omega
  · rw [hij] at hji
    cases hji
  · rw [hij] at hji
    cases hji
  · omega

/-! ## Slots and hits -/

theorem length_topSlots (s : Store) (score : Document → Binary32) (k : Nat) :
    (s.topSlots score k).length = k := by
  rw [topSlots, List.length_append, List.length_map, List.length_take, List.length_replicate]
  omega

theorem topSlots_eq_take (s : Store) (score : Document → Binary32) (k n : Nat) (hk : k ≤ n) :
    s.topSlots score k = ((s.ranking score).map some ++ List.replicate n none).take k := by
  rw [topSlots, List.take_append, List.map_take, List.length_map, List.take_replicate,
    Nat.min_eq_left (by omega)]

theorem topSlots_isPrefix (s : Store) (score : Document → Binary32) {k₁ k₂ : Nat} (hk : k₁ ≤ k₂) :
    s.topSlots score k₁ <+: s.topSlots score k₂ := by
  rw [topSlots_eq_take s score k₁ k₂ hk, topSlots_eq_take s score k₂ k₂ (Nat.le_refl _)]
  exact List.take_prefix_take_left hk

theorem topHits_eq (s : Store) (score : Document → Binary32) (k : Nat) :
    s.topHits score k = ((s.ranking score).take k).filterMap (s.hitAt score) := by
  have hempty : ∀ n, (List.replicate n none).filterMap (fun slot => slot.bind (s.hitAt score)) = [] := by
    intro n
    exact List.filterMap_replicate_of_none rfl
  rw [topHits, topSlots, List.filterMap_append, hempty, List.append_nil, List.filterMap_map]
  rfl

theorem map_index_topHits (s : Store) (score : Document → Binary32) (k : Nat) :
    (s.topHits score k).map Hit.index = (s.ranking score).take k := by
  rw [topHits_eq, List.map_filterMap]
  have hsome : ∀ i ∈ (s.ranking score).take k, (s.hitAt score i).map Hit.index = some i := by
    intro i hi
    have hlt : i < s.documents.length := (ranks_ranking s score).lt_length (List.mem_of_mem_take hi)
    rw [hitAt, List.getElem?_eq_getElem hlt]
    rfl
  rw [List.filterMap_congr hsome, List.filterMap_some]

theorem index_filled (s : Store) (score : Document → Binary32) (k : Nat) :
    (Ranking.filled Binary32.negInfinity k
        (Ranking.order (fun a b => b.lt a) Binary32.negInfinity (s.scores score))).map Slot.index
      = s.topSlots score k := by
  rw [topSlots_eq_take s score k k (Nat.le_refl _), ranking, Ranking.filled, List.map_take,
    List.map_append, List.map_map, List.map_map, List.map_replicate]
  rfl

theorem hit?_filled (s : Store) (score : Document → Binary32) (k : Nat) :
    (Ranking.filled Binary32.negInfinity k
        (Ranking.order (fun a b => b.lt a) Binary32.negInfinity (s.scores score))).filterMap s.hit?
      = s.topHits score k := by
  have hempty : ∀ n, (List.replicate n (Ranking.emptySlot Binary32.negInfinity)).filterMap s.hit? = [] := by
    intro n
    exact List.filterMap_replicate_of_none rfl
  rw [Ranking.filled, List.take_append, List.filterMap_append, List.take_replicate, hempty,
    List.append_nil, ← List.map_take, List.filterMap_map, topHits_eq, ranking, ← List.map_take,
    List.filterMap_map]
  apply List.filterMap_congr
  intro p hp
  have hmem := (Ranking.order_perm _ _ _).mem_iff.mp (List.mem_of_mem_take hp)
  have hscore := List.mem_zipIdx_iff_getElem?.mp (List.mem_filter.mp hmem).1
  rw [scores, List.getElem?_map] at hscore
  obtain ⟨d, hd, hcosine⟩ := Option.map_eq_some_iff.mp hscore
  rw [Function.comp_apply, Function.comp_apply, hitAt, hd, Option.map_some, hcosine]
  change (s.documents[p.2]?.bind fun d => some (Hit.mk p.2 p.1 d.text)) = _
  rw [hd]
  rfl

section

variable [Platform] {k : Nat}

theorem checkSlots_eq_ok_iff : checkSlots k = .ok () ↔ Platform.holds k slotSize = true := by
  rw [checkSlots]
  constructor
  · intro h
    split_ifs at h with hfits hholds
    simpa using hholds
  · intro hholds
    have hlt : k * 16 < 2 ^ 63 := Platform.mul_lt_of_holds hholds
    have hfits : Position.fits k = true := Position.fits_of_nonneg (Int.natCast_nonneg k) (by omega)
    rw [hfits, hholds]
    rfl

theorem rankBy_of_holds (s : Store) (score : Document → Binary32) (h : Platform.holds k slotSize = true) :
    ∃ slots, s.rankBy score k = .ok slots ∧ slots.map Slot.index = s.topSlots score k ∧
      slots.filterMap s.hit? = s.topHits score k := by
  refine ⟨_, ?_, index_filled s score k, hit?_filled s score k⟩
  rw [rankBy, checkSlots_eq_ok_iff.mpr h, ← Ranking.slots_eq_filled Binary32.orders_lt]
  rfl

theorem rankBy_of_not_holds (s : Store) (score : Document → Binary32) (h : ¬Platform.holds k slotSize = true) :
    ∃ f, s.rankBy score k = .error f := by
  rw [rankBy]
  cases hcheck : checkSlots k with
  | error f => exact ⟨f, rfl⟩
  | ok => exact absurd (checkSlots_eq_ok_iff.mp hcheck) h

variable {s : Store} {query : Embedding} (hquery : query.length = s.layout.embedSize) {k : Int} (hk : 0 < k)

include hquery hk

theorem search_of_holds (h : Platform.holds k.toNat slotSize = true) :
    s.search query k = .ok (s.topSlots (similarity query) k.toNat) ∧
      s.hits query k = .ok (s.topHits (similarity query) k.toNat) := by
  obtain ⟨slots, hslots, hindices, hhits⟩ := rankBy_of_holds s (similarity query) h
  rw [search, if_neg (by omega), hits, if_neg (by omega), rank, if_pos hquery, hslots, ← hindices, ← hhits]
  exact ⟨rfl, rfl⟩

theorem search_of_not_holds (h : ¬Platform.holds k.toNat slotSize = true) :
    ∃ f, s.search query k = .error (.slots f) ∧ s.hits query k = .error (.slots f) := by
  obtain ⟨f, hf⟩ := rankBy_of_not_holds s (similarity query) h
  rw [search, if_neg (by omega), hits, if_neg (by omega), rank, if_pos hquery, hf]
  exact ⟨f, rfl, rfl⟩

end

/-- **A search is a stable ranking of the rankable documents, cut to the number of slots**, if there is
memory for the slots. The slots are one for any scores, and the similarity to the query gives those of a
search. -/
theorem search_ranking [Platform] (s : Store) (query : Embedding) (hquery : query.length = s.layout.embedSize) :
    (∀ score : Document → Binary32,
      (∀ order, s.Ranks score order ↔ order = s.ranking score) ∧ (s.ranking score).Nodup ∧
      (∀ k, (s.topSlots score k).length = k ∧ (s.topHits score k).map Hit.index = (s.ranking score).take k) ∧
      (∀ k₁ k₂, k₁ ≤ k₂ → s.topSlots score k₁ <+: s.topSlots score k₂) ∧
      ∀ k, Platform.holds k slotSize = true → ∃ slots, s.rankBy score k = .ok slots ∧
        slots.map Slot.index = s.topSlots score k ∧ slots.filterMap s.hit? = s.topHits score k) ∧
    ∀ k : Int, 0 < k →
      if Platform.holds k.toNat slotSize then
        s.search query k = .ok (s.topSlots (similarity query) k.toNat) ∧
          s.hits query k = .ok (s.topHits (similarity query) k.toNat)
      else ∃ f, s.search query k = .error (.slots f) ∧ s.hits query k = .error (.slots f) := by
  constructor
  · intro score
    have hranks := ranks_ranking s score
    refine ⟨?_, hranks.nodup, ?_, ?_, ?_⟩
    · intro order
      exact ⟨fun horder => horder.unique hranks, fun horder => horder ▸ hranks⟩
    · intro k
      exact ⟨length_topSlots s score k, map_index_topHits s score k⟩
    · intro k₁ k₂ hk
      exact topSlots_isPrefix s score hk
    · intro k hholds
      exact rankBy_of_holds s score hholds
  · intro k hk
    split_ifs with hholds
    · exact search_of_holds hquery hk hholds
    · exact search_of_not_holds hquery hk hholds

/-- A zero vector, two documents of one score, and between them one whose score is no number. -/
def tied : Store where
  capacity := 4
  layout := ⟨1, 8, Nat.one_pos, by decide⟩
  documents := [⟨[.zero], []⟩, ⟨[⟨0x3F800000⟩], []⟩, ⟨[.nan], []⟩, ⟨[⟨0x3F800000⟩], []⟩]

theorem search_tied :
    [(⟨0x3F800000⟩ : Binary32)].length = tied.layout.embedSize ∧
      tied.search [⟨0x3F800000⟩] 5 = .ok (tied.topSlots (similarity [⟨0x3F800000⟩]) 5) ∧
      tied.topSlots (similarity [⟨0x3F800000⟩]) 5 = [some 1, some 3, some 0, none, none] :=
  ⟨rfl, ((search_ranking tied [⟨0x3F800000⟩] rfl).2 5 (by decide)).1, by decide +kernel⟩

/-- A list of so many slots has no last position. -/
theorem search_uncountable :
    [(⟨0x3F800000⟩ : Binary32)].length = tied.layout.embedSize ∧
      (0 : Int) < 9223372036854775808 ∧
      tied.search [⟨0x3F800000⟩] 9223372036854775808 = .error (.slots .uncountableSlots) ∧
      tied.hits [⟨0x3F800000⟩] 9223372036854775808 = .error (.slots .uncountableSlots) :=
  ⟨rfl, by decide, by decide +kernel, by decide +kernel⟩

end Store

end GroundedDialogue
