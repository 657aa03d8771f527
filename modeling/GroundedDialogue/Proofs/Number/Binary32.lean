import GroundedDialogue.Number.Binary32
import Mathlib.Algebra.Order.Field.Rat
import Mathlib.Algebra.Order.Ring.Int
import Mathlib.Tactic.SplitIfs

/-!
# Small integers in single precision

An integer of at most twenty-four bits is a number of single precision (`Binary32.value?_ofInt`), and the
sum of two of them is the number nearest to the sum of the integers (`Binary32.add_ofInt`). So sums of such
integers are exact as long as they stay as small. Both follow from what rounding makes of a whole number,
which does not depend on the unit that the number is measured in (`BinaryFormat.roundQuotient_scale`).
-/

namespace GroundedDialogue

namespace BinaryFormat

variable {f : BinaryFormat} {num den k : Nat}

/-! ## Rounding does not depend on the unit -/

theorem roundHalfEven_scale (hk : 0 < k) (num den : Nat) :
    roundHalfEven (num * k) (den * k) = roundHalfEven num den := by
  have hlt : den * k < 2 * (num % den * k) ↔ den < 2 * (num % den) := by
    rw [← Nat.mul_assoc]
    exact Nat.mul_lt_mul_right hk
  have heq : 2 * (num % den * k) = den * k ↔ 2 * (num % den) = den := by
    rw [← Nat.mul_assoc]
    exact Nat.mul_left_inj hk.ne'
  simp only [roundHalfEven, Nat.mul_div_mul_right num den hk, Nat.mul_mod_mul_right, hlt, heq]

theorem inUnits_scale (num den k : Nat) (e : Int) :
    inUnits (num * k) (den * k) e = ((inUnits num den e).1 * k, (inUnits num den e).2 * k) := by
  unfold inUnits
  split_ifs
  · rw [Nat.mul_right_comm]
  · rw [Nat.mul_right_comm]

theorem log2_mul_two_pow (hnum : num ≠ 0) (k : Nat) : (num * 2 ^ k).log2 = num.log2 + k := by
  induction k with
  | zero => simp
  | succ k ih =>
    have hscaled : num * 2 ^ k ≠ 0 := Nat.mul_ne_zero hnum (Nat.two_pow_pos k).ne'
    rw [Nat.pow_succ', Nat.mul_left_comm, Nat.log2_two_mul hscaled, ih, Nat.add_assoc]

theorem lastPlace_scale (hnum : num ≠ 0) (hden : den ≠ 0) (k : Nat) :
    f.lastPlace (num * 2 ^ k) (den * 2 ^ k) = f.lastPlace num den := by
  have hlow : ((num.log2 + k : Nat) : Int) - (den.log2 + k : Nat) - f.precision
      = (num.log2 : Int) - den.log2 - f.precision := by omega
  simp only [lastPlace, log2_mul_two_pow hnum, log2_mul_two_pow hden, hlow, inUnits_scale,
    Nat.mul_right_comm _ (2 ^ k) (2 ^ f.precision), Nat.mul_le_mul_right_iff (Nat.two_pow_pos k)]

theorem roundQuotient_scale (hnum : num ≠ 0) (hden : den ≠ 0) (k : Nat) :
    f.roundQuotient (num * 2 ^ k) (den * 2 ^ k) = f.roundQuotient num den := by
  have hpow := Nat.two_pow_pos k
  simp only [roundQuotient, lastPlace_scale hnum hden, inUnits_scale, roundHalfEven_scale hpow,
    Nat.mul_eq_zero, hnum, hpow.ne', or_self]

theorem roundHalfEven_one (num : Nat) : roundHalfEven num 1 = num := by
  simp [roundHalfEven, Nat.mod_one]

/-- A whole number of the format is not rounded. Said of any format, so that nothing unfolds the numbers of
a given one. -/
theorem roundQuotient_of_inUnits {m : Nat} (hnum : num ≠ 0)
    (hunits : inUnits num den (f.lastPlace num den) = (m, 1)) :
    f.roundQuotient num den =
      min f.infinity ((f.lastPlace num den - f.leastExponent).toNat * 2 ^ f.fractionWidth + m) := by
  rw [roundQuotient, if_neg hnum]
  simp only [hunits, roundHalfEven_one]

/-! ## Sign and magnitude -/

theorem infinity_lt_signBit : f.infinity < f.signBit := by
  rw [infinity, signBit, Nat.pow_add, Nat.sub_one_mul]
  exact Nat.sub_lt (Nat.mul_pos (Nat.two_pow_pos _) (Nat.two_pow_pos _)) (Nat.two_pow_pos _)

theorem signBit_le_withSign {negative : Bool} {magnitude : Nat} (h : magnitude < f.signBit) :
    decide (f.signBit ≤ f.withSign negative magnitude) = negative := by
  cases negative with
  | false => exact decide_eq_false (Nat.not_le.mpr h)
  | true => exact decide_eq_true (Nat.le_add_right _ _)

theorem withSign_mod {negative : Bool} {magnitude : Nat} (h : magnitude < f.signBit) :
    f.withSign negative magnitude % f.signBit = magnitude := by
  cases negative with
  | false => exact Nat.mod_eq_of_lt h
  | true => exact (Nat.add_mod_left _ _).trans (Nat.mod_eq_of_lt h)

theorem withSign_lt {negative : Bool} {magnitude : Nat} (h : magnitude < f.signBit) :
    f.withSign negative magnitude < 2 * f.signBit := by
  rw [Nat.two_mul]
  cases negative with
  | false => exact h.trans_le (Nat.le_add_left _ _)
  | true => exact Nat.add_lt_add_left h _

theorem unpack_withSign {negative : Bool} {exponent fraction : Nat}
    (hexponent : (exponent + 2) * 2 ^ f.fractionWidth ≤ f.infinity) (hfraction : fraction < 2 ^ f.fractionWidth) :
    f.unpack (f.withSign negative ((exponent + 1) * 2 ^ f.fractionWidth + fraction))
      = .finite negative (2 ^ f.fractionWidth + fraction) (f.leastExponent + exponent) := by
  have hpow := Nat.two_pow_pos f.fractionWidth
  have hmagnitude : (exponent + 1) * 2 ^ f.fractionWidth + fraction < f.infinity := by
    rw [Nat.succ_mul] at hexponent
    omega
  have hsign := hmagnitude.trans infinity_lt_signBit
  have hbiased : ((exponent + 1) * 2 ^ f.fractionWidth + fraction) / 2 ^ f.fractionWidth = exponent + 1 := by
    rw [Nat.mul_comm, Nat.mul_add_div hpow, Nat.div_eq_of_lt hfraction, Nat.add_zero]
  have hrest : ((exponent + 1) * 2 ^ f.fractionWidth + fraction) % 2 ^ f.fractionWidth = fraction := by
    rw [Nat.mul_comm, Nat.mul_add_mod, Nat.mod_eq_of_lt hfraction]
  simp only [unpack, signBit_le_withSign hsign, withSign_mod hsign, hbiased, hrest,
    if_neg hmagnitude.not_gt, if_neg hmagnitude.ne, if_neg (Nat.succ_ne_zero exponent), Nat.add_sub_cancel]

end BinaryFormat

namespace Binary32

variable {a b n : Int}

/-! ## A small integer is exact -/

theorem precision_format : format.precision = 24 := rfl

theorem leastExponent_format : format.leastExponent = -149 := by decide

theorem fractionWidth_format : format.fractionWidth = 23 := by decide

theorem infinity_format : format.infinity = 255 * 2 ^ 23 := by decide

theorem signBit_format : format.signBit = 2 ^ 31 := by decide

/-- A natural number with its leading bit moved to the front of a mantissa. -/
def mantissa (n : Nat) : Nat := n * 2 ^ (23 - n.log2)

section Mantissa

variable {n : Nat}

theorem log2_lt_of_lt (hpos : n ≠ 0) (hn : n < 2 ^ 24) : n.log2 < 24 := (Nat.log2_lt hpos).mpr hn

theorem le_mantissa (hpos : n ≠ 0) (hn : n < 2 ^ 24) : 2 ^ 23 ≤ mantissa n := by
  have hlog := log2_lt_of_lt hpos hn
  calc 2 ^ 23 = 2 ^ n.log2 * 2 ^ (23 - n.log2) := by rw [← Nat.pow_add, Nat.add_sub_cancel' (by omega)]
    _ ≤ n * 2 ^ (23 - n.log2) := Nat.mul_le_mul_right _ (Nat.log2_self_le hpos)

theorem mantissa_lt (hpos : n ≠ 0) (hn : n < 2 ^ 24) : mantissa n < 2 ^ 24 := by
  have hlog := log2_lt_of_lt hpos hn
  calc n * 2 ^ (23 - n.log2) < 2 ^ (n.log2 + 1) * 2 ^ (23 - n.log2) :=
        Nat.mul_lt_mul_of_pos_right Nat.lt_log2_self (Nat.two_pow_pos _)
    _ = 2 ^ 24 := by rw [← Nat.pow_add]; congr 1; omega

theorem inUnits_one (hpos : n ≠ 0) (hn : n < 2 ^ 24) :
    BinaryFormat.inUnits n 1 ((n.log2 : Int) - 23) = (mantissa n, 1) := by
  have hlog := log2_lt_of_lt hpos hn
  unfold BinaryFormat.inUnits
  split_ifs with hneg
  · rw [mantissa, show ((n.log2 : Int) - 23).natAbs = 23 - n.log2 by omega]
  · have hfull : n.log2 = 23 := by omega
    simp [mantissa, hfull]

theorem lastPlace_one (hpos : n ≠ 0) (hn : n < 2 ^ 24) : format.lastPlace n 1 = (n.log2 : Int) - 23 := by
  have hlog := log2_lt_of_lt hpos hn
  have hlow : (n.log2 : Int) - (1 : Nat).log2 - (24 : Nat) = (n.log2 : Int) - 24 := by
    rw [show (1 : Nat).log2 = 0 by decide, Nat.cast_zero, sub_zero]
    rfl
  have hunits : BinaryFormat.inUnits n 1 ((n.log2 : Int) - 24) = (mantissa n * 2, 1) := by
    rw [BinaryFormat.inUnits, if_pos (by omega), mantissa, Nat.mul_assoc, ← Nat.pow_succ,
      show ((n.log2 : Int) - 24).natAbs = 23 - n.log2 + 1 by omega]
  have hleading : 1 * 2 ^ 24 ≤ mantissa n * 2 := by
    have hmantissa := le_mantissa hpos hn
    omega
  simp only [BinaryFormat.lastPlace, precision_format, leastExponent_format, hlow, hunits, if_pos hleading]
  omega

/-- The bits of a whole number of at most twenty-four bits. The leading bit is not stored and counts to the
exponent instead. -/
theorem roundQuotient_one (hpos : n ≠ 0) (hn : n < 2 ^ 24) :
    format.roundQuotient n 1 = (n.log2 + 126) * 2 ^ 23 + mantissa n := by
  have hlog := log2_lt_of_lt hpos hn
  have hmantissa := mantissa_lt hpos hn
  have hplace : ((n.log2 : Int) - 23 - -149).toNat = n.log2 + 126 := by omega
  have hunits : BinaryFormat.inUnits n 1 (format.lastPlace n 1) = (mantissa n, 1) := by
    rw [lastPlace_one hpos hn, inUnits_one hpos hn]
  rw [BinaryFormat.roundQuotient_of_inUnits hpos hunits, lastPlace_one hpos hn, leastExponent_format,
    fractionWidth_format, infinity_format, hplace]
  omega

end Mantissa

theorem unpack_ofNatBits {bits : Nat} (h : bits < 2 ^ 32) : (ofNatBits bits).unpack = format.unpack bits := by
  rw [unpack, ofNatBits, UInt32.toNat_ofNat_of_lt' h]

theorem unpack_ofInt (hn : n.natAbs < 2 ^ 24) :
    ∃ k : Nat, (ofInt n).unpack = .finite (n < 0) (n.natAbs * 2 ^ k) (-(k : Int)) := by
  by_cases hzero : n = 0
  · exact ⟨149, by rw [hzero]; decide⟩
  · have hpos : n.natAbs ≠ 0 := Int.natAbs_ne_zero.mpr hzero
    have hlog := log2_lt_of_lt hpos hn
    have hleast := le_mantissa hpos hn
    have hmost := mantissa_lt hpos hn
    have hmagnitude : format.roundQuotient n.natAbs 1
        = (n.natAbs.log2 + 126 + 1) * 2 ^ format.fractionWidth + (mantissa n.natAbs - 2 ^ 23) := by
      rw [roundQuotient_one hpos hn, fractionWidth_format]
      omega
    have hexponent : (n.natAbs.log2 + 126 + 2) * 2 ^ format.fractionWidth ≤ format.infinity := by
      rw [fractionWidth_format, infinity_format]
      omega
    have hfraction : mantissa n.natAbs - 2 ^ 23 < 2 ^ format.fractionWidth := by
      rw [fractionWidth_format]
      omega
    have hbits : format.withSign (n < 0) (format.roundQuotient n.natAbs 1) < 2 ^ 32 := by
      apply BinaryFormat.withSign_lt
      rw [roundQuotient_one hpos hn, signBit_format]
      omega
    have hplace : (-149 : Int) + (n.natAbs.log2 + 126 : Nat) = -((23 - n.natAbs.log2 : Nat) : Int) := by omega
    refine ⟨23 - n.natAbs.log2, ?_⟩
    rw [ofInt, ofQuotient, unpack_ofNatBits hbits, hmagnitude, BinaryFormat.unpack_withSign hexponent hfraction,
      fractionWidth_format, leastExponent_format, Nat.add_sub_cancel' hleast, mantissa, hplace]

/-! ## Sums -/

theorem zero_eq_ofInt : zero = ofInt 0 := by decide

theorem sign_mul_natAbs (n : Int) (c : Nat) :
    (if decide (n < 0) = true then -1 else 1) * ((n.natAbs * c : Nat) : Int) = n * c := by
  rw [Nat.cast_mul, ← mul_assoc, Int.natCast_natAbs]
  congr 1
  by_cases hn : n < 0
  · rw [decide_eq_true hn, if_pos rfl, abs_of_neg hn, neg_one_mul, neg_neg]
  · rw [decide_eq_false hn, if_neg Bool.false_ne_true, abs_of_nonneg (not_lt.mp hn), one_mul]

theorem pack_scaled (hn : n ≠ 0) (k : Nat) :
    pack (.finite (n < 0) (n.natAbs * 2 ^ k) (-(k : Int))) = ofInt n := by
  have hpos : n.natAbs ≠ 0 := Int.natAbs_ne_zero.mpr hn
  rw [pack, BinaryFormat.pack, BinaryFormat.roundScaled, ofInt, ofQuotient]
  split_ifs with hneg
  · have hscale := BinaryFormat.roundQuotient_scale (f := format) hpos Nat.one_ne_zero k
    rw [Nat.one_mul] at hscale
    rw [Int.natAbs_neg, Int.natAbs_natCast, hscale]
  · have hk : k = 0 := by omega
    subst hk
    simp

theorem add_ofInt (ha : a.natAbs < 2 ^ 24) (hb : b.natAbs < 2 ^ 24) : (ofInt a).add (ofInt b) = ofInt (a + b) := by
  obtain ⟨k, hka⟩ := unpack_ofInt ha
  obtain ⟨l, hlb⟩ := unpack_ofInt hb
  have hleast : min (-(k : Int)) (-(l : Int)) = -((max k l : Nat) : Int) := by omega
  have hk : (-(k : Int) - -((max k l : Nat) : Int)).toNat = max k l - k := by omega
  have hl : (-(l : Int) - -((max k l : Nat) : Int)).toNat = max k l - l := by omega
  have hkl : 2 ^ k * 2 ^ (max k l - k) = 2 ^ max k l := by
    rw [← Nat.pow_add, Nat.add_sub_cancel' (Nat.le_max_left k l)]
  have hlk : 2 ^ l * 2 ^ (max k l - l) = 2 ^ max k l := by
    rw [← Nat.pow_add, Nat.add_sub_cancel' (Nat.le_max_right k l)]
  have hpow : 0 < ((2 ^ max k l : Nat) : Int) := Int.natCast_pos.mpr (Nat.two_pow_pos _)
  -- in the smaller one of the two units both are whole, so the mantissas are added without loss
  simp only [add, hka, hlb, addFinite, hleast, hk, hl, Nat.mul_assoc, hkl, hlk, sign_mul_natAbs, ← add_mul]
  by_cases hsum : a + b = 0
  · -- a sum of zero is the positive zero, since two numbers below zero do not cancel out
    have hsign : (decide (a < 0) && decide (b < 0)) = false := by
      rw [Bool.and_eq_false_iff, decide_eq_false_iff_not, decide_eq_false_iff_not]
      omega
    rw [hsum, zero_mul, if_pos rfl, hsign]
    decide
  · have hsign : (a + b) * ((2 ^ max k l : Nat) : Int) < 0 ↔ a + b < 0 :=
      ⟨fun h => neg_of_mul_neg_left h hpow.le, fun h => mul_neg_of_neg_of_pos h hpow⟩
    rw [if_neg (mul_ne_zero hsum hpow.ne'), Int.natAbs_mul, Int.natAbs_natCast, decide_eq_decide.mpr hsign]
    exact pack_scaled hsum _

/-! ## The number that the bits stand for -/

/-- The number that the bits stand for. -/
def value? (x : Binary32) : Option Rat :=
  match x.unpack with
  | .finite negative m e => some ((if negative then -1 else 1) * m * 2 ^ e)
  | _ => none

theorem value?_ofInt (hn : n.natAbs < 2 ^ 24) : (ofInt n).value? = some (n : Rat) := by
  obtain ⟨k, hk⟩ := unpack_ofInt hn
  have hscaled := congrArg (Int.cast : Int → Rat) (sign_mul_natAbs n (2 ^ k))
  have hpow : ((2 ^ k : Nat) : Rat) * 2 ^ (-(k : Int)) = 1 := by
    rw [Nat.cast_pow, zpow_neg, zpow_natCast]
    exact mul_inv_cancel₀ (pow_ne_zero k two_ne_zero)
  rw [Int.cast_mul, Int.cast_mul, Int.cast_natCast, Int.cast_natCast, Int.cast_ite] at hscaled
  rw [value?, hk]
  show some (_ * _ * _) = _
  rw [← Int.cast_one, ← Int.cast_neg, hscaled, mul_assoc, hpow, mul_one]

end Binary32

end GroundedDialogue
