import GroundedDialogue.Embedding.Hashed
import GroundedDialogue.Proofs.Number.Binary32
import GroundedDialogue.Proofs.Text.Words
import Mathlib.Algebra.BigOperators.Group.List.Basic

/-!
# The hashed embedding is a signed bag of words

Each component of the embedding is the sum of the signs of the words that fall into it (`Hashed.total`), as
an exact integer. So the order of the words does not matter, and the embedding of two texts with a space
between them is the sum of theirs (`Hashed.embed_bag`). One more word keeps the totals (`Hashed.addWord_totals`),
and from that a run over all words does (`Hashed.foldlM_addWord`). No word holds a surrogate, so none fails to
be written.
-/

namespace GroundedDialogue

/-! ## Words can be written -/

theorem RuneRanges.exists_of_contains {r : Rune} {ranges : RuneRanges} (h : ranges.contains r = true) :
    ∃ range ∈ ranges, range.1 ≤ r.val ∧ r.val ≤ range.2 := by
  induction ranges with
  | nil => cases h
  | cons range ranges ih =>
    obtain ⟨first, last⟩ := range
    rw [contains] at h
    split_ifs at h with hlast
    · exact ⟨_, List.mem_cons_self, of_decide_eq_true h, hlast⟩
    · obtain ⟨range, hrange, hr⟩ := ih h
      exact ⟨range, List.mem_cons_of_mem _ hrange, hr⟩

theorem Rune.isSurrogate_eq_false {r : Rune} (h : r.isWordRune = true) : r.isSurrogate = false := by
  have houtside : ∀ range ∈ wordRanges, range.2 < 0xD800 ∨ 0xDFFF < range.1 := by decide +kernel
  obtain ⟨range, hrange, hfirst, hlast⟩ := RuneRanges.exists_of_contains h
  have hr := houtside range hrange
  rw [isSurrogate, Bool.and_eq_false_iff, decide_eq_false_iff_not, decide_eq_false_iff_not]
  omega

namespace Hashed

variable {d i : Nat} {dimension : Int} {t word : Text} {words rest : List Text}

theorem isWordRune_space : (Rune.ofChar ' ').isWordRune = false := by decide

theorem any_isSurrogate_of_mem_wordsOf (h : word ∈ wordsOf t) : word.any Rune.isSurrogate = false := by
  rw [List.any_eq_false]
  intro r hr
  rw [Rune.isSurrogate_eq_false (Text.forall_mem_of_mem_runs h r hr)]
  exact Bool.false_ne_true

theorem wordsOf_append_space (a b : Text) : wordsOf (a ++ " " ++ b) = wordsOf a ++ wordsOf b :=
  Text.runs_lower_append_space isWordRune_space a b

/-! ## Totals -/

/-- The component that a word falls into. -/
def bucket (d : Nat) (word : Text) : Nat := bucketNumber word % d

/-- The sum of the signs of the words that fall into a component. -/
def total (d i : Nat) (words : List Text) : Int := ((words.filter (bucket d · = i)).map sign).sum

def totals (d : Nat) (words : List Text) : Embedding :=
  (List.range d).map fun i => Binary32.ofInt (total d i words)

theorem total_nil (d i : Nat) : total d i [] = 0 := rfl

theorem natAbs_sign (word : Text) : (sign word).natAbs = 1 := by
  unfold sign
  split_ifs <;> rfl

theorem total_cons_of_eq (h : bucket d word = i) : total d i (word :: words) = sign word + total d i words := by
  rw [total, List.filter_cons_of_pos (by simpa using h), List.map_cons, List.sum_cons]
  rfl

theorem total_cons_of_ne (h : bucket d word ≠ i) : total d i (word :: words) = total d i words := by
  rw [total, List.filter_cons_of_neg (by simpa using h)]
  rfl

theorem total_append (d i : Nat) (a b : List Text) : total d i (a ++ b) = total d i a + total d i b := by
  simp only [total, List.filter_append, List.map_append, List.sum_append]

theorem total_perm {a b : List Text} (h : a.Perm b) : total d i a = total d i b :=
  ((h.filter _).map sign).sum_eq

theorem natAbs_total_le (d i : Nat) (words : List Text) : (total d i words).natAbs ≤ words.length := by
  induction words with
  | nil => rfl
  | cons word words ih =>
    rw [List.length_cons]
    by_cases h : bucket d word = i
    · have hsign := natAbs_sign word
      rw [total_cons_of_eq h]
      omega
    · rw [total_cons_of_ne h]
      omega

theorem length_totals (d : Nat) (words : List Text) : (totals d words).length = d := by simp [totals]

theorem totals_nil (d : Nat) : totals d [] = List.replicate d Binary32.zero := by
  have hnone : (fun i => Binary32.ofInt (total d i [])) = Function.const Nat Binary32.zero := by
    funext i
    exact Binary32.zero_eq_ofInt.symm
  rw [totals, hnone, List.map_const, List.length_range]

/-! ## A run over the words -/

theorem addWord_totals (hd : 0 < d) (hword : word.any Rune.isSurrogate = false) (hcount : words.length < 2 ^ 24) :
    addWord d (totals d words) word = .ok (totals d (words ++ [word])) := by
  have hmodify : (totals d words).modify (bucketNumber word % d) (·.add (Binary32.ofInt (sign word)))
      = totals d (words ++ [word]) := by
    apply List.ext_getElem
    · simp [length_totals]
    · intro i hi hi'
      have hsmall : (total d i words).natAbs < 2 ^ 24 := (natAbs_total_le d i words).trans_lt hcount
      have hsign : (sign word).natAbs < 2 ^ 24 := by
        rw [natAbs_sign]
        decide
      rw [List.getElem_modify]
      simp only [totals, List.getElem_map, List.getElem_range, total_append]
      split_ifs with hbucket
      · rw [total_cons_of_eq hbucket, total_nil, Int.add_zero, Binary32.add_ofInt hsmall hsign]
      · rw [total_cons_of_ne hbucket, total_nil, Int.add_zero]
  rw [addWord, hword, if_neg Bool.false_ne_true, if_neg hd.ne', hmodify]

/-- The words are added one by one, and what stands in the vector are the totals so far. -/
theorem foldlM_addWord (hd : 0 < d) (hrest : ∀ word ∈ rest, word.any Rune.isSurrogate = false)
    (hcount : (words ++ rest).length ≤ 2 ^ 24) :
    rest.foldlM (addWord d) (totals d words) = .ok (totals d (words ++ rest)) := by
  induction rest generalizing words with
  | nil => rw [List.append_nil]; rfl
  | cons word rest ih =>
    obtain ⟨hword, hrest⟩ := List.forall_mem_cons.mp hrest
    have hfew : words.length < 2 ^ 24 := by
      rw [List.length_append, List.length_cons] at hcount
      omega
    rw [← List.singleton_append, ← List.append_assoc] at hcount
    rw [List.foldlM_cons, addWord_totals hd hword hfew]
    show rest.foldlM (addWord d) (totals d (words ++ [word])) = _
    rw [ih hrest hcount, List.append_assoc, List.singleton_append]

theorem exists_foldlM_addWord (hd : 0 < d) (hwords : ∀ word ∈ words, word.any Rune.isSurrogate = false)
    (v : Embedding) : ∃ w, words.foldlM (addWord d) v = .ok w ∧ w.length = v.length := by
  induction words generalizing v with
  | nil => exact ⟨v, rfl, rfl⟩
  | cons word words ih =>
    obtain ⟨hword, hwords⟩ := List.forall_mem_cons.mp hwords
    have hadd : addWord d v word
        = .ok (v.modify (bucketNumber word % d) (·.add (Binary32.ofInt (sign word)))) := by
      rw [addWord, hword, if_neg Bool.false_ne_true, if_neg hd.ne']
    obtain ⟨w, hw, hlength⟩ := ih hwords (v.modify (bucketNumber word % d) (·.add (Binary32.ofInt (sign word))))
    rw [List.length_modify] at hlength
    refine ⟨w, ?_, hlength⟩
    rw [List.foldlM_cons, hadd]
    exact hw

theorem embed_eq_foldlM (hd : 1 ≤ dimension) (hfits : 4 * dimension < 2 ^ 63) (t : Text) :
    embed dimension t
      = (wordsOf t).foldlM (addWord dimension.toNat) (List.replicate dimension.toNat Binary32.zero) := by
  have hposition : Position.fits dimension = true := Position.fits_of_nonneg (by omega) (by omega)
  have hbytes : Position.fits (4 * dimension) = true := Position.fits_of_nonneg (by omega) hfits
  have hnonneg : ¬dimension < 0 := by omega
  rw [embed, hposition, hbytes, if_neg (by simp), if_neg hnonneg, if_neg (by simp)]

theorem exists_embed (hd : 1 ≤ dimension) (hfits : 4 * dimension < 2 ^ 63) (t : Text) :
    ∃ v, embed dimension t = .ok v ∧ v.length = dimension.toNat := by
  obtain ⟨v, hv, hlength⟩ := exists_foldlM_addWord (d := dimension.toNat) (by omega)
    (fun word => any_isSurrogate_of_mem_wordsOf (t := t)) (List.replicate dimension.toNat Binary32.zero)
  rw [List.length_replicate] at hlength
  exact ⟨v, (embed_eq_foldlM hd hfits t).trans hv, hlength⟩

theorem embed_eq_totals (hd : 1 ≤ dimension) (hfits : 4 * dimension < 2 ^ 63) (ht : (wordsOf t).length < 2 ^ 24) :
    embed dimension t = .ok (totals dimension.toNat (wordsOf t)) := by
  rw [embed_eq_foldlM hd hfits, ← totals_nil]
  exact foldlM_addWord (by omega) (fun word => any_isSurrogate_of_mem_wordsOf) (Nat.le_of_lt ht)

/-! ## Texts with a space between them -/

theorem totals_perm {a b : List Text} (h : a.Perm b) : totals d a = totals d b := by
  simp only [totals, total_perm h]

theorem totals_append {a b : List Text} (hcount : (a ++ b).length < 2 ^ 24) :
    totals d (a ++ b) = List.zipWith Binary32.add (totals d a) (totals d b) := by
  rw [List.length_append] at hcount
  rw [totals, totals, totals, List.zipWith_map, List.zipWith_self]
  apply List.map_congr_left
  intro i _
  have ha := natAbs_total_le d i a
  have hb := natAbs_total_le d i b
  rw [total_append, Binary32.add_ofInt (by omega) (by omega)]

theorem embed_perm {a b : Text} (hd : 1 ≤ dimension) (hfits : 4 * dimension < 2 ^ 63)
    (ha : (wordsOf a).length < 2 ^ 24) (h : (wordsOf a).Perm (wordsOf b)) : embed dimension a = embed dimension b := by
  have hb : (wordsOf b).length < 2 ^ 24 := h.length_eq ▸ ha
  rw [embed_eq_totals hd hfits ha, embed_eq_totals hd hfits hb, totals_perm h]

theorem embed_append_space {a b : Text} (hd : 1 ≤ dimension) (hfits : 4 * dimension < 2 ^ 63)
    (hcount : (wordsOf (a ++ " " ++ b)).length < 2 ^ 24) :
    embed dimension (a ++ " " ++ b)
      = .ok (List.zipWith Binary32.add (totals dimension.toNat (wordsOf a)) (totals dimension.toNat (wordsOf b))) := by
  rw [embed_eq_totals hd hfits hcount]
  rw [wordsOf_append_space] at hcount ⊢
  rw [totals_append hcount]

/-- **The hashed embedding is a signed bag of words.** As long as the dimension and the bytes of the vector
can be counted, no text of less than 2 ^ 24 words fails, and each component is exactly the sum of the signs
of the words that fall into it. So texts with the same words in another order have the same embedding, and
two texts with a space between them have the sum of theirs, whichever comes first. -/
theorem embed_bag (hd : 1 ≤ dimension) (hfits : 4 * dimension < 2 ^ 63) :
    (∀ t : Text, (wordsOf t).length < 2 ^ 24 →
      embed dimension t = .ok ((List.range dimension.toNat).map fun i =>
        Binary32.ofInt (total dimension.toNat i (wordsOf t))) ∧
      ∀ i, (Binary32.ofInt (total dimension.toNat i (wordsOf t))).value?
        = some (total dimension.toNat i (wordsOf t) : Rat)) ∧
    (∀ a b : Text, (wordsOf a).length < 2 ^ 24 → (wordsOf a).Perm (wordsOf b) →
      embed dimension a = embed dimension b) ∧
    ∀ a b : Text, (wordsOf (a ++ " " ++ b)).length < 2 ^ 24 →
      ∃ v w, embed dimension a = .ok v ∧ embed dimension b = .ok w ∧
        embed dimension (a ++ " " ++ b) = .ok (List.zipWith Binary32.add v w) ∧
        embed dimension (b ++ " " ++ a) = .ok (List.zipWith Binary32.add v w) ∧
        ∀ i, total dimension.toNat i (wordsOf (a ++ " " ++ b))
          = total dimension.toNat i (wordsOf a) + total dimension.toNat i (wordsOf b) := by
  refine ⟨?_, fun a b => embed_perm hd hfits, ?_⟩
  · intro t ht
    exact ⟨embed_eq_totals hd hfits ht, fun i => Binary32.value?_ofInt ((natAbs_total_le _ i _).trans_lt ht)⟩
  · intro a b hcount
    have hperm : (wordsOf (a ++ " " ++ b)).Perm (wordsOf (b ++ " " ++ a)) := by
      rw [wordsOf_append_space, wordsOf_append_space]
      exact List.perm_append_comm
    have hlength : (wordsOf (a ++ " " ++ b)).length = (wordsOf a).length + (wordsOf b).length := by
      rw [wordsOf_append_space, List.length_append]
    have hsum := embed_append_space hd hfits hcount
    refine ⟨_, _, embed_eq_totals hd hfits (by omega), embed_eq_totals hd hfits (by omega), hsum, ?_, ?_⟩
    · rw [← embed_perm hd hfits hcount hperm, hsum]
    · intro i
      rw [wordsOf_append_space, total_append]

/-- A surrogate divides words like a space. -/
def divided : Text := Text.ofString "The well" ++ [0xD800] ++ Text.ofString "lies NORTH of the"

/-- Five of its six words fall into the first component, and two pairs of them cancel out. -/
theorem embed_bag_divided :
    (1 : Int) ≤ 3 ∧ 4 * (3 : Int) < 2 ^ 63 ∧ (wordsOf divided).length < 2 ^ 24 ∧
      embed 3 divided = .ok [.ofInt 1, .ofInt 1, .ofInt 0] := by
  have hd : (1 : Int) ≤ 3 := by decide
  have hfits : 4 * (3 : Int) < 2 ^ 63 := by decide
  have hcount : (wordsOf divided).length < 2 ^ 24 := by decide +kernel
  obtain ⟨hvector, -⟩ := (embed_bag hd hfits).1 divided hcount
  have htotals : ((List.range (3 : Int).toNat).map fun i =>
      Binary32.ofInt (total (3 : Int).toNat i (wordsOf divided))) = [.ofInt 1, .ofInt 1, .ofInt 0] := by
    decide +kernel
  exact ⟨hd, hfits, hcount, hvector.trans (congrArg Except.ok htotals)⟩

/-- The bytes of a vector of this dimension have no positions, and no text has an embedding. -/
theorem embed_two_pow :
    (1 : Int) ≤ 2 ^ 61 ∧ (wordsOf "x").length < 2 ^ 24 ∧ embed (2 ^ 61) "x" = .error .vectorTooLarge := by
  refine ⟨by decide, by decide, ?_⟩
  rw [embed, if_neg (by decide), if_neg (by decide), if_pos (by decide)]

end Hashed

end GroundedDialogue
