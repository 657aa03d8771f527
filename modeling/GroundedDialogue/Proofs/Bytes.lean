import GroundedDialogue.Bytes
import Mathlib.Data.List.TakeWhile

/-!
# Numbers and parts of byte sequences

Writing a number and reading it back (`toNat_ofNat`), reading one and writing it again (`ofNat_toNat`),
and the parts of one width as what stands at the multiples of the width (`parts_eq_map`,
`flatMap_eq_iff`). `wordAt` is the second definition of a number of four bytes: by the positions of its
bytes.
-/

namespace GroundedDialogue.Bytes

theorem ofNat_eq {n : Nat} {b : UInt8} (h : n % 256 = b.toNat) : UInt8.ofNat n = b := by
  apply UInt8.toNat_inj.mp
  rw [UInt8.toNat_ofNat']
  exact h

/-! ## Numbers -/

@[simp] theorem toNat_nil : toNat [] = 0 := rfl

@[simp] theorem toNat_cons (b : UInt8) (bs : Bytes) : toNat (b :: bs) = b.toNat + 256 * toNat bs := rfl

@[simp] theorem length_ofNat (width n : Nat) : (ofNat width n).length = width := by
  induction width generalizing n with
  | zero => rfl
  | succ width ih => rw [ofNat, List.length_cons, ih]

theorem toNat_ofNat {width n : Nat} (hn : n < 256 ^ width) : toNat (ofNat width n) = n := by
  induction width generalizing n with
  | zero =>
    rw [Nat.pow_zero, Nat.lt_one_iff] at hn
    rw [hn]
    rfl
  | succ width ih =>
    rw [Nat.pow_succ] at hn
    rw [ofNat, toNat_cons, ih (by omega), UInt8.toNat_ofNat']
    omega

theorem toNat_lt (b : Bytes) : toNat b < 256 ^ b.length := by
  induction b with
  | nil => simp
  | cons byte rest ih =>
    have hbyte := byte.toNat_lt
    rw [toNat_cons, List.length_cons, Nat.pow_succ]
    omega

theorem ofNat_toNat (b : Bytes) : ofNat b.length (toNat b) = b := by
  induction b with
  | nil => rfl
  | cons byte rest ih =>
    have hbyte := byte.toNat_lt
    have hrest : (byte.toNat + 256 * toNat rest) / 256 = toNat rest := by omega
    rw [List.length_cons, toNat_cons, ofNat, ofNat_eq (b := byte) (by omega), hrest, ih]

/-- The number whose four bytes start at this position, least byte first. Missing bytes count as
zero. -/
def wordAt (b : Bytes) (position : Nat) : Nat :=
  (b.getD position 0).toNat + 2 ^ 8 * (b.getD (position + 1) 0).toNat
    + 2 ^ 16 * (b.getD (position + 2) 0).toNat + 2 ^ 24 * (b.getD (position + 3) 0).toNat

theorem wordAt_drop (b : Bytes) (skipped position : Nat) :
    wordAt (b.drop skipped) position = wordAt b (skipped + position) := by
  simp only [wordAt, List.getD_eq_getElem?_getD, List.getElem?_drop, Nat.add_assoc]

theorem toNat_take_four (b : Bytes) : toNat (b.take 4) = wordAt b 0 := by
  match b with
  | [] | [_] | [_, _] | [_, _, _] | _ :: _ :: _ :: _ :: _ =>
    simp [wordAt] <;> omega

theorem toNat_take_drop (b : Bytes) (position : Nat) :
    toNat ((b.drop position).take 4) = wordAt b position := by
  rw [toNat_take_four, wordAt_drop, Nat.add_zero]

theorem wordAt_lt (b : Bytes) (position : Nat) : wordAt b position < 2 ^ 32 := by
  have h0 := (b.getD position 0).toNat_lt
  have h1 := (b.getD (position + 1) 0).toNat_lt
  have h2 := (b.getD (position + 2) 0).toNat_lt
  have h3 := (b.getD (position + 3) 0).toNat_lt
  rw [wordAt]
  omega

/-! ## Parts -/

theorem take_drop_take (b : Bytes) {position width n : Nat} (h : position + width ≤ n) :
    ((b.take n).drop position).take width = (b.drop position).take width := by
  rw [List.drop_take, List.take_take, Nat.min_eq_left (by omega)]

theorem parts_eq_map (width count : Nat) (b : Bytes) :
    parts width count b = (List.range count).map fun i => (b.drop (i * width)).take width := by
  induction count generalizing b with
  | zero => rfl
  | succ count ih =>
    rw [parts, ih, List.range_succ_eq_map, List.map_cons, List.map_map]
    congr 1
    · simp
    · apply List.map_congr_left
      intro i _
      simp only [Function.comp_apply, List.drop_drop]
      rw [Nat.succ_mul, Nat.add_comm]

theorem parts_flatMap {α : Type} {width : Nat} (f : α → Bytes) (xs : List α) (rest : Bytes)
    (hf : ∀ x ∈ xs, (f x).length = width) : parts width xs.length (xs.flatMap f ++ rest) = xs.map f := by
  induction xs with
  | nil => rfl
  | cons x xs ih =>
    have hx := hf x List.mem_cons_self
    have htail := ih fun y hy => hf y (List.mem_cons_of_mem _ hy)
    rw [List.length_cons, parts, List.flatMap_cons, List.append_assoc, List.take_left' hx,
      List.drop_left' hx, htail, List.map_cons]

theorem length_flatMap_of_length_eq {α : Type} {width : Nat} (f : α → Bytes) (xs : List α)
    (hf : ∀ x ∈ xs, (f x).length = width) : (xs.flatMap f).length = xs.length * width := by
  induction xs with
  | nil => simp
  | cons x xs ih =>
    have hx := hf x List.mem_cons_self
    have htail := ih fun y hy => hf y (List.mem_cons_of_mem _ hy)
    rw [List.flatMap_cons, List.length_append, hx, htail, List.length_cons, Nat.succ_mul, Nat.add_comm]

theorem flatten_parts (width count : Nat) (b : Bytes) :
    (parts width count b).flatten = b.take (count * width) := by
  induction count generalizing b with
  | zero => simp [parts]
  | succ count ih =>
    rw [parts, List.flatten_cons, ih, Nat.succ_mul, Nat.add_comm, List.take_add]

theorem length_of_mem_parts {width count : Nat} {b part : Bytes} (hb : count * width ≤ b.length)
    (hpart : part ∈ parts width count b) : part.length = width := by
  rw [parts_eq_map] at hpart
  obtain ⟨i, hi, rfl⟩ := List.mem_map.mp hpart
  have hle : (i + 1) * width ≤ count * width := Nat.mul_le_mul_right width (List.mem_range.mp hi)
  rw [Nat.succ_mul] at hle
  rw [List.length_take, List.length_drop]
  omega

theorem flatMap_eq_iff {α : Type} {width : Nat} (f : α → Bytes) (xs : List α) (b : Bytes)
    (hf : ∀ x ∈ xs, (f x).length = width) :
    xs.flatMap f = b ↔ b.length = xs.length * width ∧ parts width xs.length b = xs.map f := by
  constructor
  · rintro rfl
    have hparts := parts_flatMap f xs [] hf
    rw [List.append_nil] at hparts
    exact ⟨length_flatMap_of_length_eq f xs hf, hparts⟩
  · rintro ⟨hlength, hparts⟩
    have hflatten := flatten_parts width xs.length b
    rw [hparts, ← hlength, List.take_length] at hflatten
    rw [List.flatMap_def, hflatten]

/-! ## What stands in front of a null -/

theorem not_mem_takeWhile_ne {α : Type} [DecidableEq α] (a : α) (xs : List α) :
    a ∉ xs.takeWhile (· ≠ a) := by
  intro h
  have hne := List.mem_takeWhile_imp h
  exact of_decide_eq_true hne rfl

theorem takeWhile_ne_eq_self_iff {α : Type} [DecidableEq α] {a : α} {xs : List α} :
    xs.takeWhile (· ≠ a) = xs ↔ a ∉ xs := by
  constructor
  · intro hself
    rw [← hself]
    exact not_mem_takeWhile_ne a xs
  · intro ha
    refine List.takeWhile_eq_self_iff.mpr fun x hx => decide_eq_true ?_
    rintro rfl
    exact ha hx

theorem takeWhile_ne_append_cons {α : Type} [DecidableEq α] (a : α) (xs rest : List α) :
    (xs ++ a :: rest).takeWhile (· ≠ a) = xs.takeWhile (· ≠ a) := by
  rw [List.takeWhile_append]
  split_ifs with hlength
  · have hall := (List.takeWhile_prefix (p := (· ≠ a)) (l := xs)).eq_of_length hlength
    rw [hall]
    simp
  · rfl

end GroundedDialogue.Bytes
