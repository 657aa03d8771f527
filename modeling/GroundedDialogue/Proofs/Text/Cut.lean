import GroundedDialogue.Proofs.Text.Characters
import GroundedDialogue.Proofs.Text.Truncate

/-!
# Where a text is cut

A cut is made in the bytes, and then the bytes of a character that was started and not finished are left
out (`dropSplit_eq_self_iff`). Of a text without surrogates the longest beginning of whole characters that
fits remains (`truncate_cuts`), so a second cut at a smaller limit is the same as one cut.

A foreign byte may look like the start of a character. If it stands in front of the cut, it is left out
too, although the cut splits nothing (`truncate_at_border`).
-/

namespace GroundedDialogue.Text

/-! ## Characters that are not finished -/

/-- A first byte and fewer continuing ones than it announces. -/
structure Unfinished (lead : UInt8) (following : Bytes) : Prop where
  continues : ∀ b ∈ following, isContinuation b = true
  short : following.length + 1 < announcedLength lead

/-- The bytes end in a character that is not finished. -/
def EndsUnfinished (bytes : Bytes) : Prop :=
  ∃ before lead following, bytes = before ++ lead :: following ∧ Unfinished lead following

section

variable {lead : UInt8} {before following bytes : Bytes}

theorem Unfinished.lead_ge (h : Unfinished lead following) : 0xC0 ≤ lead.toNat := by
  have hshort := h.short
  rcases announcedLength_cases lead with ⟨hone, -⟩ | ⟨-, hlow, -⟩ | ⟨-, hlow, -⟩ | ⟨-, hlow, -⟩ <;> omega

theorem Unfinished.length_le (h : Unfinished lead following) : following.length ≤ 2 := by
  have hshort := h.short
  rcases announcedLength_cases lead with ⟨hn, -⟩ | ⟨hn, -⟩ | ⟨hn, -⟩ | ⟨hn, -⟩ <;> omega

theorem Unfinished.not_isContinuation (h : Unfinished lead following) : isContinuation lead = false :=
  not_isContinuation_iff.mpr (Or.inr h.lead_ge)

theorem takeWhile_isContinuation (hfollowing : ∀ b ∈ following, isContinuation b = true)
    (hlead : isContinuation lead = false) :
    (before ++ lead :: following).reverse.takeWhile isContinuation = following.reverse := by
  have hreversed : ∀ b ∈ following.reverse, isContinuation b = true := by simpa using hfollowing
  rw [List.reverse_append, List.reverse_cons, List.append_assoc, List.takeWhile_append_of_pos hreversed]
  simp [hlead]

theorem dropSplit_append (h : Unfinished lead following) : dropSplit (before ++ lead :: following) = before := by
  have hlead : 0xC0 ≤ lead := by
    rw [UInt8.le_iff_toNat_le]
    exact h.lead_ge
  have htail : ((before ++ lead :: following).reverse.take 3).takeWhile isContinuation = following.reverse := by
    have hlength := h.length_le
    rw [← List.take_takeWhile, takeWhile_isContinuation h.continues h.not_isContinuation]
    exact List.take_of_length_le (by simp; omega)
  rw [dropSplit, htail, List.length_reverse, List.reverse_append, List.reverse_cons, List.append_assoc,
    List.drop_left' (by simp)]
  simp [hlead, h.short]

theorem dropSplit_eq_or (bytes : Bytes) : dropSplit bytes = bytes ∨
    ∃ lead following, bytes = dropSplit bytes ++ lead :: following ∧ Unfinished lead following := by
  have hinitial : (bytes.reverse.take 3).takeWhile isContinuation <+: bytes.reverse :=
    (List.takeWhile_prefix _).trans (List.take_prefix _ _)
  have hcontinues : ∀ b ∈ (bytes.reverse.take 3).takeWhile isContinuation, isContinuation b = true :=
    fun b hb => List.mem_takeWhile_imp hb
  rw [dropSplit]
  generalize (bytes.reverse.take 3).takeWhile isContinuation = tail at hinitial hcontinues ⊢
  obtain ⟨rest, hrest⟩ := hinitial
  have hdrop : bytes.reverse.drop tail.length = rest := by rw [← hrest, List.drop_left]
  rw [hdrop]
  cases rest with
  | nil => exact Or.inl rfl
  | cons lead before =>
    have hbytes : bytes = before.reverse ++ lead :: tail.reverse := by
      rw [← List.reverse_reverse bytes, ← hrest]
      simp
    by_cases hshort : 0xC0 ≤ lead ∧ tail.length + 1 < announcedLength lead
    · refine Or.inr ⟨lead, tail.reverse, ?_, by simpa using hcontinues, by simpa using hshort.2⟩
      simpa [hshort] using hbytes
    · refine Or.inl (if_neg ?_)
      simpa using hshort

/-- What is left out is a character that was started and not finished, and nothing else. -/
theorem dropSplit_eq_self_iff : dropSplit bytes = bytes ↔ ¬EndsUnfinished bytes := by
  constructor
  · rintro h ⟨before, lead, following, rfl, hunfinished⟩
    rw [dropSplit_append hunfinished] at h
    have hlength := congrArg List.length h
    simp only [List.length_append, List.length_cons] at hlength
    omega
  · intro h
    rcases dropSplit_eq_or bytes with hwhole | ⟨lead, following, hbytes, hunfinished⟩
    · exact hwhole
    · exact absurd ⟨_, lead, following, hbytes, hunfinished⟩ h

theorem length_le_length_dropSplit (bytes : Bytes) : bytes.length ≤ (dropSplit bytes).length + 3 := by
  rcases dropSplit_eq_or bytes with hwhole | ⟨lead, following, hbytes, hunfinished⟩
  · rw [hwhole]
    omega
  · have hlength := congrArg List.length hbytes
    have hle := hunfinished.length_le
    simp only [List.length_append, List.length_cons] at hlength
    omega

end

/-! ## Whole characters -/

theorem not_endsUnfinished_encode {t : Text} (ht : ∀ r ∈ t, r.isSurrogate = false) :
    ¬EndsUnfinished (encode t) := by
  rintro ⟨before, lead, following, hencode, hunfinished⟩
  rcases List.eq_nil_or_concat t with rfl | ⟨t, r, rfl⟩
  · simp at hencode
  · obtain ⟨lead', following', hr, hlead', hcontinues', hannounced⟩ :=
      Rune.encode_eq_cons (ht r (by simp))
    simp only [List.concat_eq_append, encode_append, encode_cons, encode_nil, List.append_nil, hr] at hencode
    -- both characters start at the last byte that continues nothing
    have hfollowing := congrArg (fun bytes => bytes.reverse.takeWhile isContinuation) hencode
    simp only [takeWhile_isContinuation hcontinues' hlead',
      takeWhile_isContinuation hunfinished.continues hunfinished.not_isContinuation,
      List.reverse_inj] at hfollowing
    rw [hfollowing] at hencode hannounced
    obtain ⟨-, hlead⟩ := List.append_inj' hencode rfl
    have hshort := hunfinished.short
    rw [← (List.cons.inj hlead).1] at hshort
    omega

theorem exists_border {t : Text} {m : Nat} (h : m < (encode t).length) :
    ∃ before r after, t = before ++ r :: after ∧ (encode before).length ≤ m ∧
      m < (encode before).length + r.encode.length := by
  induction t generalizing m with
  | nil => simp at h
  | cons r t ih =>
    rw [encode_cons, List.length_append] at h
    by_cases hr : m < r.encode.length
    · exact ⟨[], r, t, rfl, by simp, by simpa using hr⟩
    · obtain ⟨before, r', after, rfl, hfits, hover⟩ := ih (m := m - r.encode.length) (by omega)
      refine ⟨r :: before, r', after, rfl, ?_, ?_⟩ <;> rw [encode_cons, List.length_append] <;> omega

theorem dropSplit_encode_append {before : Text} (hbefore : ∀ r ∈ before, r.isSurrogate = false) {r : Rune}
    (hr : r.isSurrogate = false) {k : Nat} (hk : k < r.encode.length) :
    dropSplit (encode before ++ r.encode.take k) = encode before := by
  obtain ⟨lead, following, hencode, -, hcontinues, hannounced⟩ := Rune.encode_eq_cons hr
  rw [hencode] at hk ⊢
  cases k with
  | zero =>
    rw [List.take_zero, List.append_nil]
    exact dropSplit_eq_self_iff.mpr (not_endsUnfinished_encode hbefore)
  | succ k =>
    rw [List.length_cons] at hk
    rw [List.take_succ_cons]
    refine dropSplit_append ⟨fun b hb => hcontinues b (List.mem_of_mem_take hb), ?_⟩
    rw [List.length_take]
    omega

/-! ## The longest beginning -/

/-- The longest beginning of whole characters that fits in a number of bytes. -/
structure LongestFitting (m : Nat) (t kept : Text) : Prop where
  isPrefix : kept <+: t
  fits : (encode kept).length ≤ m
  longest : ∀ p, p <+: t → (encode p).length ≤ m → p <+: kept

theorem length_encode_le_of_isPrefix {p t : Text} (h : p <+: t) : (encode p).length ≤ (encode t).length := by
  obtain ⟨rest, rfl⟩ := h
  simp

theorem LongestFitting.self {t : Text} {m : Nat} (h : (encode t).length ≤ m) : LongestFitting m t t :=
  ⟨List.prefix_rfl, h, fun _ hp _ => hp⟩

theorem longestFitting_append {before after : Text} {r : Rune} {m : Nat} (hfits : (encode before).length ≤ m)
    (hover : m < (encode before).length + r.encode.length) :
    LongestFitting m (before ++ r :: after) before := by
  refine ⟨List.prefix_append _ _, hfits, fun p hp hpfits => ?_⟩
  by_cases hlength : p.length ≤ before.length
  · exact List.prefix_of_prefix_length_le hp (List.prefix_append _ _) hlength
  · have hstart : before ++ [r] <+: before ++ r :: after := ⟨after, by simp⟩
    have hbeyond : before ++ [r] <+: p := List.prefix_of_prefix_length_le hstart hp (by simp; omega)
    have hle := length_encode_le_of_isPrefix hbeyond
    simp at hle
    omega

theorem LongestFitting.unique {t kept kept' : Text} {m : Nat} (h : LongestFitting m t kept)
    (h' : LongestFitting m t kept') : kept = kept' :=
  (h'.longest _ h.isPrefix h.fits).eq_of_length_le (h.longest _ h'.isPrefix h'.fits).length_le

theorem LongestFitting.trans {t kept kept' : Text} {m m' : Nat} (h : LongestFitting m t kept)
    (h' : LongestFitting m' kept kept') (hm : m' ≤ m) : LongestFitting m' t kept' :=
  ⟨h'.isPrefix.trans h.isPrefix, h'.fits, fun p hp hfits =>
    h'.longest p (h.longest p hp (Nat.le_trans hfits hm)) hfits⟩

/-! ## Cutting -/

theorem truncate_of_le {t : Text} (ht : isEncodable t = true) {m : Nat} (h : (encode t).length ≤ m) :
    truncate m t = .ok t := by
  rw [truncate_eq ht, if_pos (Int.ofNat_le.mpr h)]

theorem truncate_of_lt {t : Text} (ht : isEncodable t = true) {m : Nat} (h : m < (encode t).length) :
    truncate m t = .ok (decode (dropSplit ((encode t).take m))) := by
  rw [truncate_eq ht, if_neg (by omega), keptLength_of_nonneg (Int.natCast_nonneg m), Int.toNat_natCast]

theorem isEncodable_of_not_isSurrogate {t : Text} (ht : ∀ r ∈ t, r.isSurrogate = false) :
    isEncodable t = true := by
  rw [isEncodable, List.all_eq_true]
  intro r hr
  simp [Rune.isEncodable, ht r hr]

theorem longestFitting_truncate {t : Text} (ht : ∀ r ∈ t, r.isSurrogate = false) (m : Nat) :
    ∃ kept, truncate m t = .ok kept ∧ LongestFitting m t kept := by
  have hencodable := isEncodable_of_not_isSurrogate ht
  by_cases hfits : (encode t).length ≤ m
  · exact ⟨t, truncate_of_le hencodable hfits, .self hfits⟩
  · obtain ⟨before, r, after, rfl, hbefore, hover⟩ := exists_border (Nat.lt_of_not_le hfits)
    obtain ⟨hnone, hrest⟩ := List.forall_mem_append.mp ht
    have hr : r.isSurrogate = false := hrest r List.mem_cons_self
    refine ⟨before, ?_, longestFitting_append hbefore hover⟩
    have hk : m - (encode before).length < r.encode.length := by omega
    rw [truncate_of_lt hencodable (Nat.lt_of_not_le hfits), encode_append, encode_cons, List.take_append,
      List.take_of_length_le hbefore, List.take_append_of_le_length hk.le, dropSplit_encode_append hnone hr hk,
      decode_encode hnone]

theorem truncate_truncate {t kept : Text} (ht : ∀ r ∈ t, r.isSurrogate = false) {m m' : Nat} (hm : m' ≤ m)
    (hkept : LongestFitting m t kept) : truncate m' kept = truncate m' t := by
  have hsubset : ∀ r ∈ kept, r.isSurrogate = false := fun r hr => ht r (hkept.isPrefix.subset hr)
  obtain ⟨twice, htwice, hlongest⟩ := longestFitting_truncate hsubset m'
  obtain ⟨once, honce, hlongest'⟩ := longestFitting_truncate ht m'
  rw [htwice, honce, (hkept.trans hlongest hm).unique hlongest']

/-- **A text is cut to the first of its bytes, as many as fit except for at most three, and a text that
fits is left alone. Of a text without surrogates the longest beginning that fits remains, however often it
is cut.** -/
theorem truncate_cuts {t : Text} (ht : isEncodable t = true) (m : Nat) :
    ∃ kept, truncate m t = .ok kept ∧ isEncodable kept = true ∧ encode kept <+: encode t ∧
      (encode kept).length ≤ m ∧ (m < (encode t).length → m ≤ (encode kept).length + 3) ∧
      ((encode t).length ≤ m → kept = t) ∧ truncate m kept = .ok kept ∧
      ((∀ r ∈ t, r.isSurrogate = false) →
        LongestFitting m t kept ∧ ∀ m' ≤ m, truncate m' kept = truncate m' t) := by
  obtain ⟨kept, hkept⟩ := (exists_truncate_iff m t).mpr ht
  obtain ⟨-, hencodable, hinitial, hfits⟩ := truncate_ok hkept
  have hfits : (encode kept).length ≤ m := Int.ofNat_le.mp (hfits (Int.natCast_nonneg m))
  refine ⟨kept, hkept, hencodable, hinitial, hfits, ?_, ?_, truncate_of_le hencodable hfits, ?_⟩
  · intro hlt
    rw [truncate_of_lt ht hlt] at hkept
    have hlength := length_le_length_dropSplit ((encode t).take m)
    rw [← Except.ok.inj hkept, encode_decode]
    rwa [List.length_take, Nat.min_eq_left hlt.le] at hlength
  · intro hle
    rw [truncate_of_le ht hle] at hkept
    exact (Except.ok.inj hkept).symm
  · intro hnone
    obtain ⟨longest, hlongest, hspec⟩ := longestFitting_truncate hnone m
    obtain rfl := Except.ok.inj (hlongest.symm.trans hkept)
    exact ⟨hspec, fun m' hm => truncate_truncate hnone hm hspec⟩

/-- Three letters and a character of three bytes. -/
def euro : Text := "abc€"

theorem truncate_cuts_euro :
    isEncodable euro = true ∧ (∀ r ∈ euro, r.isSurrogate = false) ∧ truncate 5 euro = .ok "abc" ∧
      LongestFitting 5 euro "abc" ∧ truncate 2 "abc" = truncate 2 euro := by
  have hencodable : isEncodable euro = true := by decide
  have hall : euro.all (!·.isSurrogate) = true := by decide
  have hnone : ∀ r ∈ euro, r.isSurrogate = false := by simpa using hall
  have hcut : truncate 5 euro = .ok "abc" := by decide
  obtain ⟨kept, hkept, -, -, -, -, -, -, hlongest⟩ := truncate_cuts hencodable 5
  obtain rfl : kept = "abc" := Except.ok.inj (hkept.symm.trans hcut)
  obtain ⟨hspec, htwice⟩ := hlongest hnone
  exact ⟨hencodable, hnone, hcut, hspec, htwice 2 (by decide)⟩

/-! ## Foreign bytes before a cut -/

section

variable {lead : UInt8} {before following bytes : Bytes}

theorem readRune_of_short (h : following.length + 1 < announcedLength lead) :
    readRune lead following = (Rune.ofForeignByte lead, 0) := by
  unfold readRune
  rcases announcedLength_cases lead with ⟨hn, -⟩ | ⟨hn, hlow, -⟩ | ⟨hn, hlow, -⟩ | ⟨hn, hlow, -⟩
  all_goals rw [hn] at h
  · omega
  all_goals rw [if_neg (by rw [lt_ascii_iff]; omega), hn]
  · match following with
    | [] => rfl
  · match following with
    | [] => rfl
    | [_] => rfl
  · match following with
    | [] => rfl
    | [_] => rfl
    | [_, _] => rfl

theorem readRune_isContinuation (h : isContinuation lead = true) :
    readRune lead following = (Rune.ofForeignByte lead, 0) := by
  rw [isContinuation_iff] at h
  rw [readRune, if_neg (by rw [lt_ascii_iff]; omega), announcedLength_eq (Or.inl ⟨h.2, rfl⟩)]
  rfl

theorem decode_isContinuation (h : ∀ b ∈ following, isContinuation b = true) :
    decode following = following.map Rune.ofForeignByte := by
  induction following with
  | nil => rfl
  | cons b following ih =>
    obtain ⟨hb, hfollowing⟩ := List.forall_mem_cons.mp h
    rw [decode_cons, readRune_isContinuation hb, List.map_cons, ← ih hfollowing]
    rfl

theorem Unfinished.decode (h : Unfinished lead following) :
    Text.decode (lead :: following) = (lead :: following).map Rune.ofForeignByte := by
  rw [decode_cons, readRune_of_short h.short, List.map_cons, ← decode_isContinuation h.continues]
  rfl

/-- **Where the cut splits no character, all bytes in front of it are kept, unless they end in foreign
bytes that look like a character which is not finished. These are left out.** -/
theorem truncate_at_border {m : Nat} (hm : m < bytes.length) (hborder : isContinuation bytes[m] = false) :
    ((∃ kept, truncate m (decode bytes) = .ok kept ∧ encode kept = bytes.take m) ↔
      ¬EndsUnfinished (bytes.take m)) ∧
    ∀ before lead following, bytes.take m = before ++ lead :: following → Unfinished lead following →
      truncate m (decode bytes) = .ok (decode before) ∧
        decode bytes =
          decode before ++ (lead :: following).map Rune.ofForeignByte ++ decode (bytes.drop m) := by
  have hcut : truncate m (decode bytes) = .ok (decode (dropSplit (bytes.take m))) := by
    rw [truncate_of_lt (isEncodable_decode bytes) (by rwa [encode_decode]), encode_decode]
  refine ⟨?_, ?_⟩
  · rw [hcut, ← dropSplit_eq_self_iff]
    constructor
    · rintro ⟨kept, hkept, hencode⟩
      rw [← Except.ok.inj hkept, encode_decode] at hencode
      exact hencode
    · intro h
      exact ⟨_, rfl, by rw [h, encode_decode]⟩
  · intro before lead following htake hunfinished
    refine ⟨by rw [hcut, htake, dropSplit_append hunfinished], ?_⟩
    have hdrop : bytes.drop m = bytes[m] :: bytes.drop (m + 1) := List.drop_eq_getElem_cons hm
    calc decode bytes = decode (before ++ lead :: (following ++ bytes[m] :: bytes.drop (m + 1))) := by
          rw [← hdrop, ← List.cons_append, ← List.append_assoc, ← htake, List.take_append_drop]
      _ = decode before ++ (decode (lead :: following) ++ decode (bytes[m] :: bytes.drop (m + 1))) := by
          rw [decode_append hunfinished.not_isContinuation, ← List.cons_append, decode_append hborder]
      _ = _ := by rw [hunfinished.decode, hdrop, List.append_assoc]

end

/-- A word in an encoding of one byte for each letter; its last letter is E9. -/
def oneByteWord : Bytes := [0x63, 0x61, 0x66, 0xE9, 0x20, 0x21]

theorem truncate_at_border_oneByteWord :
    4 < oneByteWord.length ∧ isContinuation 0x20 = false ∧
      (∃ kept, truncate 5 (decode oneByteWord) = .ok kept ∧ encode kept = oneByteWord.take 5) ∧
      (¬∃ kept, truncate 4 (decode oneByteWord) = .ok kept ∧ encode kept = oneByteWord.take 4) ∧
      decode oneByteWord = decode [0x63, 0x61, 0x66] ++ [Rune.ofForeignByte 0xE9] ++ decode [0x20, 0x21] := by
  have hspace : isContinuation 0x20 = false := by decide
  have hunfinished : Unfinished 0xE9 [] := ⟨by simp, by decide⟩
  have hfour : 4 < oneByteWord.length := by decide
  have hfive : 5 < oneByteWord.length := by decide
  obtain ⟨hkept, -⟩ := truncate_at_border hfive rfl
  obtain ⟨hlost, hforeign⟩ := truncate_at_border hfour hspace
  refine ⟨hfour, hspace, ?_, ?_, (hforeign [0x63, 0x61, 0x66] 0xE9 [] rfl hunfinished).2⟩
  · exact hkept.mpr (dropSplit_eq_self_iff.mp (by decide))
  · exact fun h => hlost.mp h ⟨[0x63, 0x61, 0x66], 0xE9, [], rfl, hunfinished⟩

/-- The cut splits nothing, and the letter in front of it is lost. -/
theorem truncate_loses_letter :
    oneByteWord[4]? = some 0x20 ∧ isContinuation 0x20 = false ∧
      truncate 4 (decode oneByteWord) = .ok "caf" ∧
      ¬∃ kept, truncate 4 (decode oneByteWord) = .ok kept ∧ encode kept = oneByteWord.take 4 := by
  have hcut : truncate 4 (decode oneByteWord) = .ok "caf" := by decide
  refine ⟨by decide, by decide, hcut, ?_⟩
  rintro ⟨kept, hkept, hencode⟩
  obtain rfl := Except.ok.inj (hcut.symm.trans hkept)
  exact absurd hencode (by decide)

end GroundedDialogue.Text
