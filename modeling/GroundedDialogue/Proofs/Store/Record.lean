import GroundedDialogue.Proofs.Bytes
import GroundedDialogue.Proofs.Text.Utf8
import GroundedDialogue.Store.Record
import Mathlib.Data.List.TakeWhile

/-!
# What a store file holds

The bytes of a header and of a record, and what is read from them. A header is read back as it was
written (`Header.ofBytes_bytes`). A record has the size that the layout gives it (`Record.length_bytes`)
and ends in a null (`Record.getElem?_bytes`); what is read back is the embedding, bit by bit, and the
text cut to one byte less than its field (`Record.documents_bytesOf`). For a file from anywhere,
`Record.documentAt` says at which positions of the file a document stands.
-/

namespace GroundedDialogue

/-- A document that belongs into a store of this layout, with a text of at most so many bytes. -/
structure Document.Fits (l : Layout) (limit : Nat) (d : Document) : Prop where
  dimension : d.embedding.length = l.embedSize
  encodable : d.text.isEncodable = true
  noNull : 0 ∉ d.text.encode
  short : d.text.encode.length ≤ limit

namespace Binary32

theorem ofNatBits_bits (x : Binary32) : ofNatBits x.bits.toNat = x := by
  rw [ofNatBits, UInt32.ofNat_toNat]

end Binary32

namespace Header

/-! ## Headers -/

theorem fields_inj {g h : Header} (hfields : g.fields = h.fields) : g = h := by
  obtain ⟨m, v, e, t, c⟩ := g
  obtain ⟨m', v', e', t', c'⟩ := h
  simp only [fields, List.cons.injEq, and_true] at hfields
  obtain ⟨rfl, rfl, rfl, rfl, rfl⟩ := hfields
  rfl

theorem fields_ofBytes (b : Bytes) : (ofBytes b).fields = (Bytes.parts 4 5 b).map Bytes.toNat := by
  rw [Bytes.parts_eq_map, List.map_map]
  rfl

theorem ofBytes_take (b : Bytes) :
    ofBytes (b.take size) = ⟨Bytes.wordAt b 0, Bytes.wordAt b 4, Bytes.wordAt b 8, Bytes.wordAt b 12,
      Bytes.wordAt b 16⟩ := by
  have hfield : ∀ i, i + 4 ≤ size → Bytes.toNat (((b.take size).drop i).take 4) = Bytes.wordAt b i := by
    intro i hi
    rw [Bytes.take_drop_take b hi, Bytes.toNat_take_drop]
  simp only [ofBytes]
  rw [hfield (4 * 0) (by decide), hfield (4 * 1) (by decide), hfield (4 * 2) (by decide),
    hfield (4 * 3) (by decide), hfield (4 * 4) (by decide)]

theorem length_of_bytes? {h : Header} {b : Bytes} (hb : h.bytes? = some b) : b.length = size := by
  rw [bytes?] at hb
  split_ifs at hb
  obtain rfl := Option.some.inj hb
  rw [Bytes.length_flatMap_of_length_eq _ _ fun n _ => Bytes.length_ofNat 4 n]
  rfl

theorem ofBytes_bytes {h : Header} {b : Bytes} (hb : h.bytes? = some b) (rest : Bytes) :
    ofBytes (b ++ rest) = h := by
  rw [bytes?] at hb
  split_ifs at hb with hfit
  obtain rfl := Option.some.inj hb
  apply fields_inj
  have hparts := Bytes.parts_flatMap (Bytes.ofNat 4) h.fields rest fun n _ => Bytes.length_ofNat 4 n
  change Bytes.parts 4 5 _ = _ at hparts
  rw [fields_ofBytes, hparts, List.map_map]
  refine (List.map_congr_left fun n hn => ?_).trans (List.map_id _)
  exact Bytes.toNat_ofNat (of_decide_eq_true (List.all_eq_true.mp hfit n hn))

theorem bytes?_ofLayout {l : Layout} {count : Nat} (he : l.embedSize < 2 ^ 32)
    (hm : l.maxText < 2 ^ 32) (hcount : count < 2 ^ 32) : ((ofLayout l count).bytes?).isSome = true := by
  have hfit : (ofLayout l count).fields.all (· < 2 ^ 32) = true := by
    simp only [fields, ofLayout, List.all_cons, List.all_nil, decide_eq_true he, decide_eq_true hm,
      decide_eq_true hcount]
    decide
  rw [bytes?, if_pos hfit]
  rfl

end Header

namespace Record

/-! ## Room for records -/

section

variable [Platform] {l : Layout} {count n : Nat}

theorem hasRoom_zero_iff : HasRoom l 0 ↔ Platform.refusal? l.embedSize l.maxText = none :=
  ⟨HasRoom.type, fun htype => ⟨htype, Platform.holds_zero _⟩⟩

theorem HasRoom.of_le (h : HasRoom l n) (hcount : count ≤ n) : HasRoom l count :=
  ⟨h.type, Platform.holds_of_le h.memory hcount⟩

theorem hasRoom_of_size_lt (hsize : size l < 2 ^ 31) (hmemory : Platform.holds count (size l) = true) :
    HasRoom l count :=
  ⟨Platform.refusal?_eq_none hsize, hmemory⟩

theorem makeRoom_eq_ok_iff (uncountable : Fault) : makeRoom uncountable l count = .ok () ↔ HasRoom l count := by
  rw [makeRoom]
  constructor
  · intro h
    cases htype : Platform.refusal? l.embedSize l.maxText with
    | some f =>
      rw [htype] at h
      cases h
    | none =>
      rw [htype] at h
      dsimp only at h
      split_ifs at h with hfits hmemory
      exact ⟨htype, by simpa using hmemory⟩
  · intro h
    have hfits : Position.fits (count * size l : Nat) = true :=
      Position.fits_of_nonneg (Int.natCast_nonneg _) (by exact_mod_cast Platform.mul_lt_of_holds h.memory)
    rw [h.type]
    dsimp only
    rw [hfits, h.memory]
    rfl

theorem exists_makeRoom_eq_error_iff (uncountable : Fault) :
    (∃ f, makeRoom uncountable l count = .error f) ↔ ¬HasRoom l count := by
  rw [← makeRoom_eq_ok_iff uncountable]
  cases makeRoom uncountable l count <;> simp

end

/-! ## The bytes of a record -/

theorem size_pos (l : Layout) : 0 < size l := by
  have hm := l.maxText_pos
  rw [size]
  omega

theorem length_textField (l : Layout) (t : Text) : (textField l t).length = l.maxText := by
  have hm := l.maxText_pos
  simp only [textField, List.length_append, List.length_replicate, List.length_take]
  omega

theorem length_components (v : Embedding) :
    (v.flatMap fun x => Bytes.ofNat 4 x.bits.toNat).length = 4 * v.length := by
  rw [Bytes.length_flatMap_of_length_eq _ _ fun x _ => Bytes.length_ofNat 4 _, Nat.mul_comm]

theorem length_bytes {l : Layout} {d : Document} (hd : d.embedding.length = l.embedSize) :
    (bytes l d).length = size l := by
  rw [bytes, List.length_append, length_components, length_textField, hd, size]

theorem length_bytesOf {l : Layout} {ds : List Document}
    (hds : ∀ d ∈ ds, d.embedding.length = l.embedSize) : (bytesOf l ds).length = ds.length * size l :=
  Bytes.length_flatMap_of_length_eq _ _ fun d hd => length_bytes (hds d hd)

theorem getElem?_bytes {l : Layout} {d : Document} (hd : d.embedding.length = l.embedSize) :
    (bytes l d)[size l - 1]? = some 0 := by
  have hm := l.maxText_pos
  have hkept : (d.text.encode.take (l.maxText - 1)).length ≤ l.maxText - 1 := List.length_take_le _ _
  rw [bytes, List.getElem?_append_right (by rw [length_components, hd, size]; omega),
    length_components, hd, textField, List.getElem?_append_right (by rw [size]; omega),
    List.getElem?_replicate_of_lt (by rw [size]; omega)]

theorem take_drop_bytesOf {l : Layout} {ds : List Document}
    (hds : ∀ d ∈ ds, d.embedding.length = l.embedSize) {i : Nat} (hi : i < ds.length) :
    ((bytesOf l ds).drop (i * size l)).take (size l) = bytes l ds[i] := by
  have hparts := Bytes.parts_flatMap (bytes l) ds [] fun d hd => length_bytes (hds d hd)
  rw [List.append_nil, Bytes.parts_eq_map] at hparts
  have hpart := congrArg (fun parts => parts[i]?) hparts
  rw [List.getElem?_map, List.getElem?_range hi, List.getElem?_map, List.getElem?_eq_getElem hi] at hpart
  exact Option.some.inj hpart

theorem getElem?_bytesOf {l : Layout} {ds : List Document}
    (hds : ∀ d ∈ ds, d.embedding.length = l.embedSize) {i : Nat} (hi : i < ds.length) :
    (bytesOf l ds)[i * size l + (size l - 1)]? = some 0 := by
  have hpos := size_pos l
  have hlast := getElem?_bytes (hds ds[i] (List.getElem_mem hi))
  rw [← take_drop_bytesOf hds hi, List.getElem?_take_of_lt (by omega), List.getElem?_drop] at hlast
  exact hlast

/-! ## Reading a record back -/

/-- What is left of a document that is written and read again. -/
def stored (l : Layout) (d : Document) : Document :=
  ⟨d.embedding, Text.decode (d.text.encode.take (l.maxText - 1))⟩

theorem takeWhile_textField (l : Layout) {t : Text} (ht : 0 ∉ t.encode) :
    (textField l t).takeWhile (· ≠ 0) = t.encode.take (l.maxText - 1) := by
  have hkept : ∀ b ∈ t.encode.take (l.maxText - 1), decide (b ≠ 0) = true := by
    intro b hb
    refine decide_eq_true ?_
    rintro rfl
    exact ht (List.mem_of_mem_take hb)
  rw [textField, List.takeWhile_append_of_pos hkept, List.takeWhile_replicate]
  simp

theorem document_bytes {l : Layout} {d : Document} (hd : d.embedding.length = l.embedSize)
    (ht : 0 ∉ d.text.encode) : document l (bytes l d) = stored l d := by
  have hlength : (d.embedding.flatMap fun x => Bytes.ofNat 4 x.bits.toNat).length = 4 * l.embedSize := by
    rw [length_components, hd]
  have hparts := Bytes.parts_flatMap (fun x : Binary32 => Bytes.ofNat 4 x.bits.toNat) d.embedding
    (textField l d.text) fun x _ => Bytes.length_ofNat 4 _
  rw [hd] at hparts
  have hbits : ∀ x : Binary32, Binary32.ofNatBits (Bytes.toNat (Bytes.ofNat 4 x.bits.toNat)) = x := by
    intro x
    rw [Bytes.toNat_ofNat x.bits.toNat_lt, Binary32.ofNatBits_bits]
  rw [document, stored, bytes, hparts, List.map_map, List.drop_left' hlength,
    List.take_of_length_le (Nat.le_of_eq (length_textField l d.text)), textOfField,
    takeWhile_textField l ht]
  congr 1
  exact (List.map_congr_left fun x _ => hbits x).trans (List.map_id _)

theorem documents_bytesOf {l : Layout} {ds : List Document}
    (hds : ∀ d ∈ ds, d.embedding.length = l.embedSize ∧ 0 ∉ d.text.encode) (rest : Bytes) :
    documents l ds.length (bytesOf l ds ++ rest) = ds.map (stored l) := by
  rw [documents, bytesOf, Bytes.parts_flatMap _ _ _ fun d hd => length_bytes (hds d hd).1, List.map_map]
  exact List.map_congr_left fun d hd => document_bytes (hds d hd).1 (hds d hd).2

/-! ## Reading a record from anywhere -/

def fieldAt (l : Layout) (file : Bytes) (i : Nat) : Bytes :=
  (file.drop (Header.size + i * size l + 4 * l.embedSize)).take l.maxText

theorem length_fieldAt {l : Layout} {file : Bytes} {count i : Nat} (hi : i < count)
    (hfile : Header.size + count * size l ≤ file.length) : (fieldAt l file i).length = l.maxText := by
  have hle : (i + 1) * size l ≤ count * size l := Nat.mul_le_mul_right _ hi
  have hsize : size l = 4 * l.embedSize + l.maxText := rfl
  rw [Nat.succ_mul] at hle
  rw [fieldAt, List.length_take, List.length_drop]
  omega

/-- The document in the `i`-th record of a file, by the positions of its bytes. -/
def documentAt (l : Layout) (file : Bytes) (i : Nat) : Document where
  embedding := (List.range l.embedSize).map fun j =>
    Binary32.ofNatBits (Bytes.wordAt file (Header.size + i * size l + 4 * j))
  text := Text.decode ((fieldAt l file i).takeWhile (· ≠ 0))

theorem record_eq (l : Layout) (file : Bytes) {count i : Nat} (hi : i < count) :
    ((((file.drop Header.size).take (count * size l)).drop (i * size l)).take (size l))
      = (file.drop (Header.size + i * size l)).take (size l) := by
  have hle : (i + 1) * size l ≤ count * size l := Nat.mul_le_mul_right _ hi
  rw [Nat.succ_mul] at hle
  rw [Bytes.take_drop_take _ hle, List.drop_drop]

theorem document_take_drop (l : Layout) (file : Bytes) (i : Nat) :
    document l ((file.drop (Header.size + i * size l)).take (size l)) = documentAt l file i := by
  rw [document, documentAt, fieldAt, textOfField, Bytes.parts_eq_map, List.map_map]
  congr 1
  · apply List.map_congr_left
    intro j hj
    have hj := List.mem_range.mp hj
    have hsize : j * 4 + 4 ≤ size l := by rw [size]; omega
    rw [Function.comp_apply, Bytes.take_drop_take _ hsize, List.drop_drop, Bytes.toNat_take_drop,
      Nat.mul_comm j 4]
  · have hsize : size l - 4 * l.embedSize = l.maxText := by rw [size]; omega
    rw [List.drop_take, hsize, List.take_take, Nat.min_self, List.drop_drop]

theorem documents_take_drop (l : Layout) (file : Bytes) (count : Nat) :
    documents l count ((file.drop Header.size).take (count * size l))
      = (List.range count).map (documentAt l file) := by
  rw [documents, Bytes.parts_eq_map, List.map_map]
  apply List.map_congr_left
  intro i hi
  rw [Function.comp_apply, record_eq l file (List.mem_range.mp hi), document_take_drop]

theorem fits_document (l : Layout) (b : Bytes) : (document l b).Fits l l.maxText where
  dimension := by rw [document, List.length_map, Bytes.parts_eq_map, List.length_map, List.length_range]
  encodable := Text.isEncodable_decode _
  noNull := by
    rw [document, textOfField, Text.encode_decode]
    exact Bytes.not_mem_takeWhile_ne 0 _
  short := by
    rw [document, textOfField, Text.encode_decode]
    exact Nat.le_trans (List.takeWhile_prefix _).length_le (List.length_take_le _ _)

theorem length_documents (l : Layout) (count : Nat) (b : Bytes) : (documents l count b).length = count := by
  rw [documents, List.length_map, Bytes.parts_eq_map, List.length_map, List.length_range]

theorem fits_of_mem_documents {l : Layout} {count : Nat} {b : Bytes} {d : Document}
    (hd : d ∈ documents l count b) : d.Fits l l.maxText := by
  obtain ⟨record, -, rfl⟩ := List.mem_map.mp hd
  exact fits_document l record

theorem fits_documentAt (l : Layout) (file : Bytes) (i : Nat) : (documentAt l file i).Fits l l.maxText :=
  document_take_drop l file i ▸ fits_document l _

/-- The text in a field has room for a null behind it exactly when the field has a null. -/
theorem length_text_lt_iff {l : Layout} {file : Bytes} {i : Nat}
    (hfield : (fieldAt l file i).length = l.maxText) :
    (documentAt l file i).text.encode.length < l.maxText ↔ 0 ∈ fieldAt l file i := by
  have hinitial := List.takeWhile_prefix (fun b : UInt8 => decide (b ≠ 0)) (l := fieldAt l file i)
  have hle := hinitial.length_le
  rw [documentAt, Text.encode_decode]
  constructor
  · intro hlt
    by_contra hnull
    rw [Bytes.takeWhile_ne_eq_self_iff.mpr hnull] at hlt
    omega
  · intro hnull
    by_contra hlt
    have hself := hinitial.eq_of_length (by omega)
    exact Bytes.takeWhile_ne_eq_self_iff.mp hself hnull

end Record

end GroundedDialogue
