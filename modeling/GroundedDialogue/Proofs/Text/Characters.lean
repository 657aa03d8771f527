import GroundedDialogue.Proofs.Text.Utf8

/-!
# Characters

A code point that is no surrogate is written as one byte that continues nothing and as many continuing
ones as that first byte announces (`Rune.encode_eq_cons`), and it is read back from them
(`Text.readRune_encode`). So a text without surrogates comes back as it was written
(`Text.decode_encode`).
-/

namespace GroundedDialogue

/-! ## The shape of a character -/

namespace Text

theorem not_isContinuation_iff {b : UInt8} :
    isContinuation b = false ↔ b.toNat < 0x80 ∨ 0xC0 ≤ b.toNat := by
  rw [Bool.eq_false_iff, ne_eq, isContinuation_iff]
  omega

theorem announcedLength_eq {b : UInt8} {n : Nat}
    (h : b.toNat < 0xC0 ∧ n = 1 ∨ 0xC0 ≤ b.toNat ∧ b.toNat < 0xE0 ∧ n = 2 ∨
      0xE0 ≤ b.toNat ∧ b.toNat < 0xF0 ∧ n = 3 ∨ 0xF0 ≤ b.toNat ∧ b.toNat < 0xF8 ∧ n = 4) :
    announcedLength b = n := by
  rcases announcedLength_cases b with ⟨hb, hrange⟩ | ⟨hb, hrange⟩ | ⟨hb, hrange⟩ | ⟨hb, hrange⟩ <;> omega

end Text

namespace Rune

theorem ofNat_val (r : Rune) : ofNat r.val = r := Fin.ext (val_ofNat r.isLt)

theorem toNat_ofNat_of_lt {n : Nat} (hn : n < 0x100) : (UInt8.ofNat n).toNat = n := by
  rw [UInt8.toNat_ofNat', Nat.mod_eq_of_lt hn]

/-- The bytes of a code point by their numbers. -/
inductive Written (r : Rune) : Bytes → Prop
  | one {a : UInt8} (hr : r.val < 0x80) (ha : a.toNat = r.val) : Written r [a]
  | two {a b : UInt8} (hlow : 0x80 ≤ r.val) (hhigh : r.val < 0x800) (ha : a.toNat = 0xC0 + r.val / 64)
      (hb : b.toNat = 0x80 + r.val % 64) : Written r [a, b]
  | three {a b c : UInt8} (hlow : 0x800 ≤ r.val) (hhigh : r.val < 0x10000)
      (ha : a.toNat = 0xE0 + r.val / 4096) (hb : b.toNat = 0x80 + r.val / 64 % 64)
      (hc : c.toNat = 0x80 + r.val % 64) : Written r [a, b, c]
  | four {a b c d : UInt8} (hlow : 0x10000 ≤ r.val) (ha : a.toNat = 0xF0 + r.val / 262144)
      (hb : b.toNat = 0x80 + r.val / 4096 % 64) (hc : c.toNat = 0x80 + r.val / 64 % 64)
      (hd : d.toNat = 0x80 + r.val % 64) : Written r [a, b, c, d]

theorem written_encode {r : Rune} (hr : r.isSurrogate = false) : Written r r.encode := by
  have hlt := r.isLt
  have hnot : ¬r.isSurrogate = true := by simp [hr]
  by_cases hone : r.val < 0x80
  · rw [encode_one hone]
    exact .one hone (toNat_ofNat_of_lt (by omega))
  by_cases htwo : r.val < 0x800
  · rw [encode_two (by omega) htwo]
    exact .two (by omega) htwo (toNat_ofNat_of_lt (by omega)) (toNat_ofNat_of_lt (by omega))
  by_cases hthree : r.val < 0x10000
  · rw [encode_three (by omega) hthree hnot]
    exact .three (by omega) hthree (toNat_ofNat_of_lt (by omega)) (toNat_ofNat_of_lt (by omega))
      (toNat_ofNat_of_lt (by omega))
  · rw [encode_four (by omega)]
    exact .four (by omega) (toNat_ofNat_of_lt (by omega)) (toNat_ofNat_of_lt (by omega))
      (toNat_ofNat_of_lt (by omega)) (toNat_ofNat_of_lt (by omega))

/-- A character is one byte that continues nothing, and after it as many as it announces. -/
theorem encode_eq_cons {r : Rune} (hr : r.isSurrogate = false) :
    ∃ lead following, r.encode = lead :: following ∧ Text.isContinuation lead = false ∧
      (∀ b ∈ following, Text.isContinuation b = true) ∧
      Text.announcedLength lead = following.length + 1 := by
  have hlt := r.isLt
  have hwritten := written_encode hr
  generalize r.encode = bytes at hwritten
  cases hwritten with
  | one hone ha =>
    refine ⟨_, [], rfl, Text.not_isContinuation_iff.mpr (by omega), by simp, ?_⟩
    show Text.announcedLength _ = 1
    exact Text.announcedLength_eq (by omega)
  | two hlow hhigh ha hb =>
    refine ⟨_, [_], rfl, Text.not_isContinuation_iff.mpr (by omega), ?_, ?_⟩
    · simp only [List.forall_mem_cons, Text.isContinuation_iff]
      exact ⟨by omega, by simp⟩
    · show Text.announcedLength _ = 2
      exact Text.announcedLength_eq (by omega)
  | three hlow hhigh ha hb hc =>
    refine ⟨_, [_, _], rfl, Text.not_isContinuation_iff.mpr (by omega), ?_, ?_⟩
    · simp only [List.forall_mem_cons, Text.isContinuation_iff]
      exact ⟨by omega, by omega, by simp⟩
    · show Text.announcedLength _ = 3
      exact Text.announcedLength_eq (by omega)
  | four hlow ha hb hc hd =>
    refine ⟨_, [_, _, _], rfl, Text.not_isContinuation_iff.mpr (by omega), ?_, ?_⟩
    · simp only [List.forall_mem_cons, Text.isContinuation_iff]
      exact ⟨by omega, by omega, by omega, by simp⟩
    · show Text.announcedLength _ = 4
      exact Text.announcedLength_eq (by omega)

end Rune

/-! ## Reading back -/

namespace Text

theorem readRune_encode {r : Rune} (hr : r.isSurrogate = false) {lead : UInt8} {following : Bytes}
    (h : r.encode = lead :: following) (rest : Bytes) :
    readRune lead (following ++ rest) = (r, following.length) := by
  have hlt := r.isLt
  have hwritten := Rune.written_encode hr
  rw [h] at hwritten
  cases hwritten with
  | one hone ha => rw [List.nil_append, readRune_ascii (by omega), ha, Rune.ofNat_val]; rfl
  | @two _ b hlow hhigh ha hb =>
    have hnumber : lead.toNat % 32 * 64 + b.toNat % 64 = r.val := by omega
    have hb' : isContinuation b = true := isContinuation_iff.mpr (by omega)
    have hannounced : announcedLength lead = 2 := announcedLength_eq (by omega)
    rw [readRune, if_neg (by rw [lt_ascii_iff]; omega), hannounced]
    simp [payload, hnumber, hb', hlow, Rune.ofNat_val]
  | @three _ b c hlow hhigh ha hb hc =>
    have hnumber : lead.toNat % 16 * 4096 + b.toNat % 64 * 64 + c.toNat % 64 = r.val := by omega
    have hb' : isContinuation b = true := isContinuation_iff.mpr (by omega)
    have hc' : isContinuation c = true := isContinuation_iff.mpr (by omega)
    have hannounced : announcedLength lead = 3 := announcedLength_eq (by omega)
    rw [readRune, if_neg (by rw [lt_ascii_iff]; omega), hannounced]
    simp [payload, hnumber, hb', hc', hlow, hr, Rune.ofNat_val]
  | @four _ b c d hlow ha hb hc hd =>
    have hnumber : lead.toNat % 8 * 262144 + b.toNat % 64 * 4096 + c.toNat % 64 * 64 + d.toNat % 64
        = r.val := by omega
    have hb' : isContinuation b = true := isContinuation_iff.mpr (by omega)
    have hc' : isContinuation c = true := isContinuation_iff.mpr (by omega)
    have hd' : isContinuation d = true := isContinuation_iff.mpr (by omega)
    have hannounced : announcedLength lead = 4 := announcedLength_eq (by omega)
    rw [readRune, if_neg (by rw [lt_ascii_iff]; omega), hannounced]
    simp [payload, hnumber, hb', hc', hd', hlow, Rune.ofNat_val]

theorem decodeFrom_append_length (skipped rest : Bytes) :
    decodeFrom skipped.length [] (skipped ++ rest) = decode rest := by
  induction skipped with
  | nil => rfl
  | cons b skipped ih => exact ih

theorem decode_encode_append {r : Rune} (hr : r.isSurrogate = false) (rest : Bytes) :
    decode (r.encode ++ rest) = r :: decode rest := by
  obtain ⟨lead, following, hencode, -⟩ := Rune.encode_eq_cons hr
  rw [hencode, List.cons_append, decode_cons, readRune_encode hr hencode]
  dsimp only
  rw [decodeFrom_append_length]

theorem decode_encode {t : Text} (ht : ∀ r ∈ t, r.isSurrogate = false) : decode (encode t) = t := by
  induction t with
  | nil => rfl
  | cons r t ih =>
    obtain ⟨hr, ht⟩ := List.forall_mem_cons.mp ht
    rw [encode_cons, decode_encode_append hr, ih ht]

end Text

end GroundedDialogue
