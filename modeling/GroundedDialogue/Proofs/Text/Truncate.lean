import GroundedDialogue.Proofs.Text.Utf8
import GroundedDialogue.Text.Truncate

/-!
# What a truncated text keeps

`Text.truncate_ok`: the bytes of a truncated text are the first bytes of the text, and they fit. The cut
is made in the bytes and only ever takes more away from the end (`dropSplit_isPrefix`); reading what is
left loses nothing of it.
-/

namespace GroundedDialogue.Text

theorem dropSplit_isPrefix (kept : Bytes) : dropSplit kept <+: kept := by
  rw [dropSplit]
  split
  case h_1 lead before hdrop =>
    split_ifs
    · have hsuffix : before <:+ kept.reverse := by
        refine (List.suffix_cons lead before).trans ?_
        rw [← hdrop]
        exact List.drop_suffix _ _
      have hinitial := List.reverse_prefix.mpr hsuffix
      rwa [List.reverse_reverse] at hinitial
    · exact List.prefix_rfl
  case h_2 => exact List.prefix_rfl

theorem keptLength_of_nonneg {limit : Int} (hlimit : 0 ≤ limit) (length : Nat) :
    keptLength limit length = limit.toNat := by
  rw [keptLength, if_neg (by omega)]

theorem truncate_eq {t : Text} (ht : isEncodable t = true) (limit : Int) :
    truncate limit t = .ok (if ((encode t).length : Int) ≤ limit then t
      else decode (dropSplit ((encode t).take (keptLength limit (encode t).length)))) := by
  rw [truncate, encode?_of_isEncodable ht]
  by_cases hfits : ((encode t).length : Int) ≤ limit
  · rw [if_pos hfits]
    exact if_pos hfits
  · rw [if_neg hfits]
    exact if_neg hfits

theorem exists_truncate_iff (limit : Int) (t : Text) :
    (∃ kept, truncate limit t = .ok kept) ↔ isEncodable t = true := by
  constructor
  · rintro ⟨kept, h⟩
    rw [truncate] at h
    cases hbytes : encode? t with
    | error e =>
      rw [hbytes] at h
      cases h
    | ok bytes => exact (isEncodable_of_encode? hbytes).1
  · exact fun ht => ⟨_, truncate_eq ht limit⟩

theorem truncate_ok {limit : Int} {t kept : Text} (h : truncate limit t = .ok kept) :
    isEncodable t = true ∧ isEncodable kept = true ∧ encode kept <+: encode t ∧
      (0 ≤ limit → ((encode kept).length : Int) ≤ limit) := by
  have ht := (exists_truncate_iff limit t).mp ⟨kept, h⟩
  rw [truncate_eq ht] at h
  obtain rfl := Except.ok.inj h
  split_ifs with hfits
  · exact ⟨ht, ht, List.prefix_rfl, fun _ => hfits⟩
  · have htake := List.take_prefix (keptLength limit (encode t).length) (encode t)
    have hinitial := (dropSplit_isPrefix _).trans htake
    rw [encode_decode]
    refine ⟨ht, isEncodable_decode _, hinitial, fun hlimit => ?_⟩
    rw [keptLength_of_nonneg hlimit]
    have hle := (dropSplit_isPrefix ((encode t).take limit.toNat)).length_le
    rw [List.length_take] at hle
    omega

theorem truncate_decode {limit : Int} (hlimit : 0 ≤ limit) (bytes : Bytes) :
    truncate limit (decode bytes) =
      .ok (decode (if (bytes.length : Int) ≤ limit then bytes else dropSplit (bytes.take limit.toNat))) := by
  rw [truncate_eq (isEncodable_decode bytes), encode_decode, keptLength_of_nonneg hlimit, apply_ite decode]

end GroundedDialogue.Text
