import GroundedDialogue.Proofs.Bytes
import GroundedDialogue.Text.Utf8
import Mathlib.Tactic.ByContra
import Mathlib.Tactic.SplitIfs

/-!
# Reading and writing UTF-8

`Text.encode_decode`: reading loses nothing. A character that `readRune` reads is written as exactly
the bytes that it was read from (`encode_readRune`), be they valid or foreign, and the text is read one
character after another. The other direction does not hold: two foreign bytes side by side may be one
character when they are read again. So what is stored is compared as bytes.

The code points that can be written are those with at least one byte (`Rune.isEncodable_iff`). A byte
below 0x80 is always a character of its own: it is among the bytes of a text only where the text has that
character (`Text.ascii_mem_encode`), and reading goes on afresh after it (`Text.decode_append_ascii`), as it
does at every byte that continues no character (`Text.decode_append`).
-/

namespace GroundedDialogue

namespace Rune

theorem val_ofNat {n : Nat} (hn : n < 0x110000) : (ofNat n).val = n := by
  rw [ofNat, dif_pos hn]

theorem isSurrogate_iff {r : Rune} : r.isSurrogate = true ↔ 0xD800 ≤ r.val ∧ r.val ≤ 0xDFFF := by
  simp [isSurrogate]

theorem isForeignByte_iff {r : Rune} : r.isForeignByte = true ↔ 0xDC80 ≤ r.val ∧ r.val ≤ 0xDCFF := by
  simp [isForeignByte]

/-! ## The bytes of a code point -/

theorem encode_one {r : Rune} (hr : r.val < 0x80) : r.encode = [UInt8.ofNat r.val] :=
  if_pos hr

theorem encode_two {r : Rune} (hlow : 0x80 ≤ r.val) (hhigh : r.val < 0x800) :
    r.encode = [UInt8.ofNat (0xC0 + r.val / 64), UInt8.ofNat (0x80 + r.val % 64)] := by
  simp only [encode]
  rw [if_neg (by omega), if_pos hhigh]

theorem encode_foreign {r : Rune} (hr : r.isForeignByte = true) :
    r.encode = [UInt8.ofNat (r.val - 0xDC00)] := by
  have hbounds := isForeignByte_iff.mp hr
  simp only [encode]
  rw [if_neg (by omega), if_neg (by omega), if_pos (isSurrogate_iff.mpr (by omega)), if_pos hr]

theorem encode_three {r : Rune} (hlow : 0x800 ≤ r.val) (hhigh : r.val < 0x10000)
    (hr : ¬r.isSurrogate = true) :
    r.encode = [UInt8.ofNat (0xE0 + r.val / 4096), UInt8.ofNat (0x80 + r.val / 64 % 64),
      UInt8.ofNat (0x80 + r.val % 64)] := by
  simp only [encode]
  rw [if_neg (by omega), if_neg (by omega), if_neg hr, if_pos hhigh]

theorem encode_four {r : Rune} (hlow : 0x10000 ≤ r.val) :
    r.encode = [UInt8.ofNat (0xF0 + r.val / 262144), UInt8.ofNat (0x80 + r.val / 4096 % 64),
      UInt8.ofNat (0x80 + r.val / 64 % 64), UInt8.ofNat (0x80 + r.val % 64)] := by
  have hr : ¬r.isSurrogate = true := by rw [isSurrogate_iff]; omega
  simp only [encode]
  rw [if_neg (by omega), if_neg (by omega), if_neg hr, if_neg (by omega)]

theorem encode_ofForeignByte {b : UInt8} (hb : 0x80 ≤ b.toNat) : (ofForeignByte b).encode = [b] := by
  have hlt := b.toNat_lt
  have hval : (ofForeignByte b).val = 0xDC00 + b.toNat := rfl
  rw [encode_foreign (isForeignByte_iff.mpr (by omega)), hval, Bytes.ofNat_eq (b := b) (by omega)]

theorem isEncodable_iff {r : Rune} : r.isEncodable = true ↔ r.encode ≠ [] := by
  rw [isEncodable, encode]
  split_ifs with hone htwo hsur hfor hthree
  · have hr : ¬r.isSurrogate = true := by rw [isSurrogate_iff]; omega
    simp [hr]
  · have hr : ¬r.isSurrogate = true := by rw [isSurrogate_iff]; omega
    simp [hr]
  · simp [hfor]
  · simp [hsur, hfor]
  · simp [hsur]
  · simp [hsur]

theorem high_of_mem_encode {r : Rune} (hr : 0x80 ≤ r.val) {b : UInt8} (hb : b ∈ r.encode) :
    0x80 ≤ b.toNat := by
  have hlt := r.isLt
  rw [encode, if_neg (by omega)] at hb
  split_ifs at hb with htwo hsur hfor hthree
  · simp only [List.mem_cons, List.not_mem_nil, or_false] at hb
    rcases hb with rfl | rfl <;> rw [UInt8.toNat_ofNat'] <;> omega
  · rw [isForeignByte_iff] at hfor
    rw [List.mem_singleton] at hb
    rw [hb, UInt8.toNat_ofNat']
    omega
  · simp at hb
  · simp only [List.mem_cons, List.not_mem_nil, or_false] at hb
    rcases hb with rfl | rfl | rfl <;> rw [UInt8.toNat_ofNat'] <;> omega
  · simp only [List.mem_cons, List.not_mem_nil, or_false] at hb
    rcases hb with rfl | rfl | rfl | rfl <;> rw [UInt8.toNat_ofNat'] <;> omega

/-- A byte below 0x80 is a character of its own and no part of another one. -/
theorem ascii_mem_encode {r : Rune} {b : UInt8} (hb : b.toNat < 0x80) : b ∈ r.encode ↔ r.val = b.toNat := by
  constructor
  · intro h
    have hr : r.val < 0x80 := by
      by_contra hr
      have hbyte := high_of_mem_encode (Nat.le_of_not_lt hr) h
      omega
    rw [encode_one hr, List.mem_singleton] at h
    rw [h, UInt8.toNat_ofNat', Nat.mod_eq_of_lt (by omega)]
  · intro h
    rw [encode_one (by omega), List.mem_singleton, h, UInt8.ofNat_toNat]

end Rune

namespace Text

theorem lt_ascii_iff {b : UInt8} : b < 0x80 ↔ b.toNat < 0x80 := by
  simp [UInt8.lt_iff_toNat_lt]

theorem isContinuation_iff {b : UInt8} :
    isContinuation b = true ↔ 0x80 ≤ b.toNat ∧ b.toNat < 0xC0 := by
  simp [isContinuation, UInt8.le_iff_toNat_le, UInt8.lt_iff_toNat_lt]

theorem announcedLength_cases (b : UInt8) :
    (announcedLength b = 1 ∧ (b.toNat < 0xC0 ∨ 0xF8 ≤ b.toNat)) ∨
    (announcedLength b = 2 ∧ 0xC0 ≤ b.toNat ∧ b.toNat < 0xE0) ∨
    (announcedLength b = 3 ∧ 0xE0 ≤ b.toNat ∧ b.toNat < 0xF0) ∨
    (announcedLength b = 4 ∧ 0xF0 ≤ b.toNat ∧ b.toNat < 0xF8) := by
  simp only [announcedLength, ge_iff_le, UInt8.le_iff_toNat_le, UInt8.reduceToNat]
  split_ifs <;> simp <;> omega

/-! ## Reading one character -/

theorem encode_foreign_alone {lead : UInt8} (hlow : 0x80 ≤ lead.toNat) (following : Bytes) :
    (Rune.ofForeignByte lead, 0).1.encode = lead :: following.take (Rune.ofForeignByte lead, 0).2 := by
  rw [List.take_zero]
  exact Rune.encode_ofForeignByte hlow

theorem encode_readRune (lead : UInt8) (following : Bytes) :
    (readRune lead following).1.encode = lead :: following.take (readRune lead following).2 := by
  have hlead := lead.toNat_lt
  have hlength := announcedLength_cases lead
  unfold readRune
  split
  case isTrue hascii =>
    rw [lt_ascii_iff] at hascii
    have hval : (Rune.ofNat lead.toNat).val = lead.toNat := Rune.val_ofNat (by omega)
    dsimp only
    rw [Rune.encode_one (by omega), hval, UInt8.ofNat_toNat, List.take_zero]
  case isFalse hlow =>
    rw [lt_ascii_iff] at hlow
    have hforeign := encode_foreign_alone (Nat.le_of_not_lt hlow)
    dsimp only
    split
    case h_1 a rest htwo =>
      have ha := a.toNat_lt
      split_ifs with h
      · simp only [Bool.and_eq_true, isContinuation_iff, decide_eq_true_eq] at h
        simp only [payload] at h ⊢
        have hval := Rune.val_ofNat (n := lead.toNat % 32 * 64 + a.toNat % 64) (by omega)
        rw [Rune.encode_two (by omega) (by omega), hval, Bytes.ofNat_eq (b := lead) (by omega),
          Bytes.ofNat_eq (b := a) (by omega)]
        rfl
      · exact hforeign _
    case h_2 a b rest hthree =>
      have ha := a.toNat_lt
      have hb := b.toNat_lt
      split_ifs with h
      · simp only [Bool.and_eq_true, isContinuation_iff, decide_eq_true_eq, Bool.not_eq_true'] at h
        simp only [payload] at h ⊢
        have hval := Rune.val_ofNat
          (n := lead.toNat % 16 * 4096 + a.toNat % 64 * 64 + b.toNat % 64) (by omega)
        rw [Rune.encode_three (by omega) (by omega) (by rw [h.2]; decide), hval,
          Bytes.ofNat_eq (b := lead) (by omega), Bytes.ofNat_eq (b := a) (by omega),
          Bytes.ofNat_eq (b := b) (by omega)]
        rfl
      · exact hforeign _
    case h_3 a b c rest hfour =>
      have ha := a.toNat_lt
      have hb := b.toNat_lt
      have hc := c.toNat_lt
      split_ifs with h
      · simp only [Bool.and_eq_true, isContinuation_iff, decide_eq_true_eq] at h
        simp only [payload] at h ⊢
        have hval := Rune.val_ofNat (n := lead.toNat % 8 * 262144 + a.toNat % 64 * 4096
          + b.toNat % 64 * 64 + c.toNat % 64) (by omega)
        rw [Rune.encode_four (by omega), hval, Bytes.ofNat_eq (b := lead) (by omega),
          Bytes.ofNat_eq (b := a) (by omega), Bytes.ofNat_eq (b := b) (by omega),
          Bytes.ofNat_eq (b := c) (by omega)]
        rfl
      · exact hforeign _
    case h_4 => exact hforeign _

theorem isEncodable_readRune (lead : UInt8) (following : Bytes) :
    (readRune lead following).1.isEncodable = true := by
  rw [Rune.isEncodable_iff, encode_readRune]
  exact List.cons_ne_nil _ _

/-! ## Texts -/

@[simp] theorem encode_nil : encode [] = [] := rfl

@[simp] theorem encode_cons (r : Rune) (t : Text) : encode (r :: t) = r.encode ++ encode t := by
  simp [encode]

@[simp] theorem encode_append (s t : Text) : encode (s ++ t) = encode s ++ encode t := by
  simp [encode]

theorem ascii_mem_encode {t : Text} {b : UInt8} (hb : b.toNat < 0x80) :
    b ∈ encode t ↔ Rune.ofNat b.toNat ∈ t := by
  have hval : ∀ r : Rune, r.val = b.toNat ↔ r = Rune.ofNat b.toNat := by
    intro r
    rw [Fin.ext_iff, Rune.val_ofNat (by omega)]
  simp only [encode, List.mem_flatMap, Rune.ascii_mem_encode hb, hval]
  exact exists_eq_right

theorem zero_mem_encode {t : Text} : 0 ∈ encode t ↔ 0 ∈ t := ascii_mem_encode (by decide)

theorem encode_decodeFrom (skip : Nat) (before : Text) (b : Bytes) :
    encode (decodeFrom skip before b) = encode before.reverse ++ b.drop skip := by
  induction b generalizing skip before with
  | nil => cases skip <;> simp [decodeFrom]
  | cons lead rest ih =>
    cases skip with
    | zero =>
      rw [decodeFrom]
      dsimp only
      rw [ih, List.reverse_cons, encode_append, encode_cons, encode_readRune]
      simp
    | succ skip => rw [decodeFrom, ih, List.drop_succ_cons]

/-- **Reading loses nothing**: a text that was read from bytes is written as the same bytes. -/
theorem encode_decode (b : Bytes) : encode (decode b) = b := by
  rw [decode, encode_decodeFrom]
  rfl

theorem isEncodable_cons (r : Rune) (t : Text) :
    isEncodable (r :: t) = (r.isEncodable && isEncodable t) := rfl

theorem isEncodable_decodeFrom (skip : Nat) (before : Text) (b : Bytes)
    (hbefore : isEncodable before = true) : isEncodable (decodeFrom skip before b) = true := by
  induction b generalizing skip before with
  | nil =>
    rw [isEncodable] at hbefore
    cases skip <;> simpa [decodeFrom, isEncodable] using hbefore
  | cons lead rest ih =>
    cases skip with
    | zero =>
      rw [decodeFrom]
      dsimp only
      apply ih
      rw [isEncodable_cons, isEncodable_readRune, Bool.true_and]
      exact hbefore
    | succ skip =>
      rw [decodeFrom]
      exact ih _ _ hbefore

theorem isEncodable_decode (b : Bytes) : isEncodable (decode b) = true :=
  isEncodable_decodeFrom 0 [] b rfl

theorem encode?_of_isEncodable {t : Text} (ht : isEncodable t = true) : encode? t = .ok (encode t) := by
  have hnone : t.findIdx? (!Rune.isEncodable ·) = none := by
    rw [List.findIdx?_eq_none_iff]
    intro r hr
    rw [List.all_eq_true.mp ht r hr]
    rfl
  rw [encode?, hnone]

theorem isEncodable_of_encode? {t : Text} {b : Bytes} (h : encode? t = .ok b) :
    isEncodable t = true ∧ encode t = b := by
  rw [encode?] at h
  split at h
  case h_1 => cases h
  case h_2 hnone =>
    rw [List.findIdx?_eq_none_iff] at hnone
    refine ⟨List.all_eq_true.mpr fun r hr => ?_, by cases h; rfl⟩
    simpa using hnone r hr

/-! ## Where reading starts afresh -/

theorem isContinuation_ascii {b : UInt8} (hb : b.toNat < 0x80) : isContinuation b = false := by
  rw [Bool.eq_false_iff, ne_eq, isContinuation_iff]
  omega

theorem readRune_ascii {b : UInt8} (hb : b.toNat < 0x80) (following : Bytes) :
    readRune b following = (Rune.ofNat b.toNat, 0) := if_pos (lt_ascii_iff.mpr hb)

theorem snd_readRune_le (lead : UInt8) (following : Bytes) :
    (readRune lead following).2 ≤ following.length := by
  unfold readRune
  split
  · exact Nat.zero_le _
  · dsimp only
    split <;> try split_ifs
    all_goals simp

theorem readRune_append {b : UInt8} (hb : isContinuation b = false) (lead : UInt8) (following rest : Bytes) :
    readRune lead (following ++ b :: rest) = readRune lead following := by
  unfold readRune
  split_ifs
  · rfl
  · rcases announcedLength_cases lead with ⟨h, -⟩ | ⟨h, -⟩ | ⟨h, -⟩ | ⟨h, -⟩
    · simp [h]
    · match following with
      | [] => simp [h, hb]
      | _ :: _ => simp [h]
    · match following with
      | [] => cases rest <;> simp [h, hb]
      | [_] => simp [h, hb]
      | _ :: _ :: _ => simp [h]
    · match following with
      | [] => rcases rest with _ | ⟨_, _ | _⟩ <;> simp [h, hb]
      | [_] => cases rest <;> simp [h, hb]
      | [_, _] => simp [h, hb]
      | _ :: _ :: _ :: _ => simp [h]

theorem decodeFrom_eq (skip : Nat) (before : Text) (b : Bytes) :
    decodeFrom skip before b = before.reverse ++ decodeFrom skip [] b := by
  induction b generalizing skip before with
  | nil => cases skip <;> simp [decodeFrom]
  | cons lead rest ih =>
    cases skip with
    | zero =>
      rw [decodeFrom, decodeFrom]
      dsimp only
      rw [ih, ih _ [_]]
      simp
    | succ skip => rw [decodeFrom, ih, decodeFrom]

theorem decode_cons (lead : UInt8) (rest : Bytes) :
    decode (lead :: rest) = (readRune lead rest).1 :: decodeFrom (readRune lead rest).2 [] rest := by
  rw [decode, decodeFrom]
  exact decodeFrom_eq _ [_] _

theorem decodeFrom_append {b : UInt8} (hb : isContinuation b = false) {skip : Nat} {before : Bytes}
    (hskip : skip ≤ before.length) (rest : Bytes) :
    decodeFrom skip [] (before ++ b :: rest) = decodeFrom skip [] before ++ decode (b :: rest) := by
  -- the first character ends within the bytes in front, and the rest of these is shorter
  induction before generalizing skip with
  | nil =>
    rw [List.length_nil, Nat.le_zero] at hskip
    rw [hskip]
    rfl
  | cons lead before ih =>
    cases skip with
    | zero =>
      show decode (lead :: (before ++ b :: rest)) = decode (lead :: before) ++ _
      rw [decode_cons, decode_cons lead before, readRune_append hb, ih (snd_readRune_le lead before)]
      rfl
    | succ skip => exact ih (Nat.le_of_succ_le_succ hskip)

/-- Reading starts afresh at a byte that continues no character. -/
theorem decode_append {b : UInt8} (hb : isContinuation b = false) (before rest : Bytes) :
    decode (before ++ b :: rest) = decode before ++ decode (b :: rest) :=
  decodeFrom_append hb (Nat.zero_le _) rest

theorem decode_append_ascii {b : UInt8} (hb : b.toNat < 0x80) (before rest : Bytes) :
    decode (before ++ b :: rest) = decode before ++ Rune.ofNat b.toNat :: decode rest := by
  rw [decode_append (isContinuation_ascii hb), decode_cons, readRune_ascii hb]
  rfl

theorem ascii_mem_decode {b : UInt8} (hb : b.toNat < 0x80) {bytes : Bytes} :
    Rune.ofNat b.toNat ∈ decode bytes ↔ b ∈ bytes := by
  rw [← ascii_mem_encode hb, encode_decode]

end Text

end GroundedDialogue
