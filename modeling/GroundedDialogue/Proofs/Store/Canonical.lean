import GroundedDialogue.Proofs.Store.RoundTrip

/-!
# Canonical files

A store file is canonical if it ends with its last record and each of its texts is followed by nulls up
to the end of the text field. Saving a store that was loaded gives back the file that it was loaded from
exactly if that file is canonical, and gives a canonical one whenever it can be saved at all
(`Store.resave_iff`): the bits of an embedding and the bytes of a text are kept whatever they are, and
what stands behind the first null of a text field, or behind the last record, is not.

One record at a time, what is read is written as it stood (`Record.bytes_document`). A file is canonical
if that holds of all its records and nothing follows them (`Record.bytesOf_documentsIn`).
-/

namespace GroundedDialogue

open Disk

namespace Binary32

theorem toNat_bits_ofNatBits {n : Nat} (hn : n < 2 ^ 32) : (ofNatBits n).bits.toNat = n := by
  rw [ofNatBits, UInt32.toNat_ofNat', Nat.mod_eq_of_lt hn]

end Binary32

namespace Header

theorem bytes?_ofBytes {b : Bytes} (hb : size ≤ b.length) : (ofBytes b).bytes? = some (b.take size) := by
  have hpart : ∀ part ∈ Bytes.parts 4 5 b, part.length = 4 := fun part hpart =>
    Bytes.length_of_mem_parts hb hpart
  have hfit : (ofBytes b).fields.all (· < 2 ^ 32) = true := by
    rw [fields_ofBytes, List.all_eq_true]
    intro n hn
    obtain ⟨part, hmem, rfl⟩ := List.mem_map.mp hn
    have hlt := Bytes.toNat_lt part
    rw [hpart part hmem] at hlt
    exact decide_eq_true hlt
  have hflat : (ofBytes b).fields.flatMap (Bytes.ofNat 4) = (Bytes.parts 4 5 b).flatten := by
    rw [fields_ofBytes, List.flatMap_map, List.flatten_eq_flatMap]
    apply List.flatMap_congr
    intro part hmem
    have hback := Bytes.ofNat_toNat part
    rw [hpart part hmem] at hback
    exact hback
  rw [bytes?, if_pos hfit, hflat, Bytes.flatten_parts]
  rfl

end Header

namespace Record

/-! ## One record -/

/-- A text field as it is written: it has a null, and there is nothing but nulls from the first one on. -/
def Terminated (field : Bytes) : Prop := 0 ∈ field ∧ ∀ b ∈ field.dropWhile (· ≠ 0), b = 0

instance (field : Bytes) : Decidable (Terminated field) := inferInstanceAs (Decidable (_ ∧ _))

theorem terminated_append_replicate {text : Bytes} (htext : 0 ∉ text) {n : Nat} (hn : 0 < n) :
    Terminated (text ++ List.replicate n 0) := by
  have hself := Bytes.takeWhile_ne_eq_self_iff.mpr htext
  have hnone : text.dropWhile (· ≠ 0) = [] := by
    have hsplit := List.takeWhile_append_dropWhile (p := fun b : UInt8 => decide (b ≠ 0)) (l := text)
    rw [hself] at hsplit
    exact List.append_right_eq_self.mp hsplit
  constructor
  · apply List.mem_append_right
    exact List.mem_replicate.mpr ⟨by omega, rfl⟩
  · intro b hb
    rw [List.dropWhile_append, hnone] at hb
    exact List.eq_of_mem_replicate ((List.dropWhile_suffix _).mem hb)

theorem Terminated.exists_append {field : Bytes} (h : Terminated field) :
    ∃ n, 0 < n ∧ field = field.takeWhile (· ≠ 0) ++ List.replicate n 0 := by
  obtain ⟨hnull, hrest⟩ := h
  have hsplit := List.takeWhile_append_dropWhile (p := fun b : UInt8 => decide (b ≠ 0)) (l := field)
  have hnulls := List.eq_replicate_iff.mpr ⟨rfl, hrest⟩
  refine ⟨(field.dropWhile (· ≠ 0)).length, ?_, ?_⟩
  · apply List.length_pos_of_ne_nil
    intro hnil
    rw [hnil, List.append_nil] at hsplit
    exact Bytes.takeWhile_ne_eq_self_iff.mp hsplit hnull
  · rw [← hnulls]
    exact hsplit.symm

theorem textField_textOfField {l : Layout} {field : Bytes} (hfield : field.length = l.maxText) :
    textField l (textOfField field) = field ↔ Terminated field := by
  have hpos := l.maxText_pos
  have hnone := Bytes.not_mem_takeWhile_ne 0 field
  rw [textField, textOfField, Text.encode_decode]
  constructor
  · intro hsame
    rw [← hsame]
    apply terminated_append_replicate
    · exact fun hmem => hnone (List.mem_of_mem_take hmem)
    · have hkept := List.length_take_le (l.maxText - 1) (field.takeWhile (· ≠ 0))
      omega
  · intro h
    obtain ⟨n, hn, happend⟩ := h.exists_append
    have hlength := congrArg List.length happend
    rw [List.length_append, List.length_replicate, hfield] at hlength
    have hkept : (field.takeWhile (· ≠ 0)).take (l.maxText - 1) = field.takeWhile (· ≠ 0) :=
      List.take_of_length_le (by omega)
    have hnulls : l.maxText - (field.takeWhile (· ≠ 0)).length = n := by omega
    rw [hkept, hnulls]
    exact happend.symm

theorem components_document {l : Layout} {b : Bytes} (hb : 4 * l.embedSize ≤ b.length) :
    ((document l b).embedding.flatMap fun x => Bytes.ofNat 4 x.bits.toNat) = b.take (4 * l.embedSize) := by
  have hpart : ∀ part ∈ Bytes.parts 4 l.embedSize b, part.length = 4 := fun part hpart =>
    Bytes.length_of_mem_parts (by omega) hpart
  rw [document, List.flatMap_map, Nat.mul_comm, ← Bytes.flatten_parts, List.flatten_eq_flatMap]
  apply List.flatMap_congr
  intro part hmem
  have hlt := Bytes.toNat_lt part
  have hback := Bytes.ofNat_toNat part
  rw [hpart part hmem] at hlt hback
  rw [Binary32.toNat_bits_ofNatBits hlt]
  exact hback

/-- What is read of a record is written as the same bytes exactly if its text field is as it is
written. -/
theorem bytes_document {l : Layout} {b : Bytes} (hb : b.length = size l) :
    bytes l (document l b) = b ↔ Terminated ((b.drop (4 * l.embedSize)).take l.maxText) := by
  have hsize : size l = 4 * l.embedSize + l.maxText := rfl
  have hlength : (b.drop (4 * l.embedSize)).length = l.maxText := by
    rw [List.length_drop]
    omega
  have hfield := List.take_of_length_le (Nat.le_of_eq hlength)
  have hbytes : bytes l (document l b) = b.take (4 * l.embedSize) ++ textField l (textOfField (b.drop (4 * l.embedSize))) := by
    rw [bytes, components_document (by omega)]
    show _ ++ textField l (textOfField ((b.drop (4 * l.embedSize)).take l.maxText)) = _
    rw [hfield]
  rw [hbytes, hfield, ← textField_textOfField hlength]
  constructor
  · intro hsame
    have hsplit := hsame.trans (List.take_append_drop (4 * l.embedSize) b).symm
    exact List.append_cancel_left hsplit
  · intro hsame
    rw [hsame, List.take_append_drop]

/-! ## All records -/

/-- A file as it is written: it ends with its last record, and all its text fields are as they are
written. -/
structure Canonical (l : Layout) (file : Bytes) : Prop where
  ends : file.length = Header.size + Bytes.wordAt file 16 * size l
  terminated : ∀ i < Bytes.wordAt file 16, Terminated (fieldAt l file i)

theorem bytesOf_documentsIn {l : Layout} {file : Bytes}
    (hfile : Header.size + Bytes.wordAt file 16 * size l ≤ file.length) :
    bytesOf l (Loading.documentsIn l file) = file.drop Header.size ↔ Canonical l file := by
  have hdimension : ∀ d ∈ Loading.documentsIn l file, (bytes l d).length = size l := fun d hd =>
    length_bytes (Loading.fits_of_mem_documentsIn hd).dimension
  have hrecord : ∀ i < Bytes.wordAt file 16,
      (((file.drop Header.size).drop (i * size l)).take (size l) = bytes l (documentAt l file i) ↔
        Terminated (fieldAt l file i)) := by
    intro i hi
    have hle : (i + 1) * size l ≤ Bytes.wordAt file 16 * size l := Nat.mul_le_mul_right _ hi
    rw [Nat.succ_mul] at hle
    have hlength : ((file.drop (Header.size + i * size l)).take (size l)).length = size l := by
      rw [List.length_take, List.length_drop]
      omega
    have hfield : (((file.drop (Header.size + i * size l)).take (size l)).drop (4 * l.embedSize)).take l.maxText
        = fieldAt l file i := by
      have hsize : size l - 4 * l.embedSize = l.maxText := by rw [size]; omega
      rw [List.drop_take, hsize, List.take_take, Nat.min_self, List.drop_drop]
      rfl
    rw [List.drop_drop, ← document_take_drop, eq_comm, bytes_document hlength, hfield]
  rw [bytesOf, Bytes.flatMap_eq_iff _ _ _ hdimension, Loading.length_documentsIn, List.length_drop,
    Bytes.parts_eq_map, Loading.documentsIn, List.map_map, List.map_inj_left]
  constructor
  · rintro ⟨hlength, hsame⟩
    exact ⟨by omega, fun i hi => (hrecord i hi).mp (hsame i (List.mem_range.mpr hi))⟩
  · intro h
    have hends := h.ends
    exact ⟨by omega, fun i hi => (hrecord i (List.mem_range.mp hi)).mpr (h.terminated i (List.mem_range.mp hi))⟩

theorem bytes_stored (l : Layout) (d : Document) : bytes l (stored l d) = bytes l d := by
  rw [bytes, bytes, stored, textField, textField]
  dsimp only
  rw [Text.encode_decode, List.take_take, Nat.min_self]

theorem bytesOf_map_stored (l : Layout) (ds : List Document) :
    bytesOf l (ds.map (stored l)) = bytesOf l ds := by
  rw [bytesOf, bytesOf, List.flatMap_map]
  exact List.flatMap_congr fun d _ => bytes_stored l d

end Record

namespace Store

/-! ## Saving what was loaded -/

section

variable [Platform]

theorem canonical_file {s : Store} {file : Bytes} (hfile : s.file? = some file)
    (hds : ∀ d ∈ s.documents, d.embedding.length = s.layout.embedSize ∧ 0 ∉ d.text.encode) :
    Record.Canonical s.layout file := by
  obtain ⟨-, -, -, -, hcount⟩ := words_file hfile
  have hlength := length_file hfile fun d hd => (hds d hd).1
  apply (Record.bytesOf_documentsIn (by rw [hcount, hlength])).mp
  rw [documentsIn_file hfile hds, Record.bytesOf_map_stored]
  exact (header_file hfile).2.1.symm

theorem file?_map_stored {s s' : Store} (hlayout : s'.layout = s.layout) :
    file? { s' with documents := s.documents.map (Record.stored s.layout) } = s.file? := by
  have hpack : pack { s' with documents := s.documents.map (Record.stored s.layout) } = s.pack := by
    rw [pack, pack, length, length, List.length_map, hlayout, Record.bytesOf_map_stored]
  rw [file?, file?, hpack]

theorem eq_of_documentsIn_iff {s : Store} {first file : Bytes} (hfirst : Loading.Acceptable s first)
    (hfile : file? { s with documents := Loading.documentsIn s.layout first } = some file) :
    file = first ↔ Record.Canonical s.layout first := by
  obtain ⟨start, hpack, rfl⟩ := file?_eq_some_iff.mp hfile
  have hstart := (pack_eq_ok_iff.mp hpack).1
  have hheader : Header.ofLayout s.layout (Bytes.wordAt first 16) = Header.ofBytes (first.take Header.size) := by
    rw [Header.ofBytes_take, hfirst.magic, hfirst.version, hfirst.layout.1, hfirst.layout.2]
    rfl
  have htake : (first.take Header.size).length = Header.size := by
    rw [List.length_take, Nat.min_eq_left hfirst.header]
  have hbytes : start = first.take Header.size := by
    rw [length, Loading.length_documentsIn, hheader, Header.bytes?_ofBytes (Nat.le_of_eq htake.symm),
      List.take_take, Nat.min_self] at hstart
    exact (Option.some.inj hstart).symm
  rw [← Record.bytesOf_documentsIn hfirst.records, hbytes]
  constructor
  · intro hsame
    have hsplit := hsame.trans (List.take_append_drop Header.size first).symm
    exact List.append_cancel_left hsplit
  · intro hsame
    rw [hsame, List.take_append_drop]

/-- **What was loaded is saved to the file that it was loaded from exactly if that file is canonical**:
if it ends with its last record, and in each text field the first null is followed by nulls alone. The
file that is saved is canonical in any case. It is loaded into any store of the same sizes, and then
saved as it is. But for a file without documents, there need not be a type for the records, and without
one nothing is saved. -/
theorem resave_iff {s : Store} {t : Tree} {f : Faults} {path : Text} {first : Bytes}
    (hserves : Loading.Serves f t path first) (hload : (s.load t f path).result = .ok ()) :
    ((∃ file, (s.load t f path).store.file? = some file) ↔
      Platform.refusal? s.layout.embedSize s.layout.maxText = none) ∧
    ((s.load t f path).store.length ≠ 0 → Platform.refusal? s.layout.embedSize s.layout.maxText = none) ∧
    (∀ t' f' p atomic, ((s.load t f path).store.save t' f' p atomic).result = .ok () →
      ∃ file, (s.load t f path).store.file? = some file) ∧
    ∀ file, (s.load t f path).store.file? = some file → (s.load t f path).store.Leaves file ∧
      (file = first ↔ Record.Canonical s.layout first) ∧ Record.Canonical s.layout file ∧
      ∀ (s' : Store) (t' : Tree) (f' : Faults) (path' : Text), s'.layout = s.layout →
        s.capacity ≤ s'.capacity → Loading.Serves f' t' path' file →
        (s'.load t' f' path').result = .ok () ∧ (s'.load t' f' path').store.file? = some file ∧
          (s'.load t' f' path').store.Leaves file := by
  obtain ⟨hsaved, htype⟩ := type_of_loaded hserves hload
  obtain ⟨hfirst, -, hstore⟩ := load_ok hserves hload
  have hfits : ∀ d ∈ Loading.documentsIn s.layout first,
      d.embedding.length = s.layout.embedSize ∧ 0 ∉ d.text.encode := fun d hd =>
    ⟨(Loading.fits_of_mem_documentsIn hd).dimension, (Loading.fits_of_mem_documentsIn hd).noNull⟩
  refine ⟨hsaved, htype, fun _ _ _ _ => exists_file?_of_save, ?_⟩
  rw [hstore]
  intro file hfile
  have hcanonical := canonical_file (s := { s with documents := Loading.documentsIn s.layout first }) hfile hfits
  refine ⟨leaves_file hfile, eq_of_documentsIn_iff hfirst hfile, hcanonical, ?_⟩
  intro s' t' f' path' hlayout hcapacity hserves'
  have hcount : (Loading.documentsIn s.layout first).length ≤ s'.capacity := by
    rw [Loading.length_documentsIn]
    exact Nat.le_trans hfirst.count hcapacity
  obtain ⟨hresult, hreload⟩ := load_saved hfile hfits hlayout hcount hserves'
  have hstored := file?_map_stored (s := { s with documents := Loading.documentsIn s.layout first }) hlayout
  have hsame := hstored.trans hfile
  rw [hreload]
  exact ⟨hresult, hsame, leaves_file hsame⟩

end

def oneRecord : Store := ⟨1, ⟨1, 4, Nat.one_pos, Nat.add_one_pos 3⟩, []⟩

/-- One record with an embedding that is no number and a text that is no valid one, a byte behind the
null of the text, and another one behind the record. -/
def untidyFile : Bytes :=
  [0x56, 0x44, 0x42, 0x31, 1, 0, 0, 0, 1, 0, 0, 0, 4, 0, 0, 0, 1, 0, 0, 0, 1, 0, 0xC0, 0x7F,
    0xE9, 0x80, 0, 0x64, 7]

theorem resave_untidyFile :
    Loading.Serves (Loading.holding untidyFile) Tree.empty [] untidyFile ∧
      (oneRecord.load Tree.empty (Loading.holding untidyFile) []).result = .ok () ∧
      ∃ file, (oneRecord.load Tree.empty (Loading.holding untidyFile) []).store.file? = some file ∧
        file ≠ untidyFile ∧ Record.Canonical oneRecord.layout file ∧
        (oneRecord.load Tree.empty (Loading.holding file) []).store.file? = some file := by
  have hserves := Loading.serves_holding Tree.empty [] untidyFile
  have hload : (oneRecord.load Tree.empty (Loading.holding untidyFile) []).result = .ok () := by decide
  obtain ⟨hsaved, -, -, hresave⟩ := resave_iff hserves hload
  obtain ⟨file, hfile⟩ := hsaved.mpr (by decide)
  obtain ⟨-, hsame, hcanonical, hreload⟩ := hresave file hfile
  obtain ⟨-, hagain, -⟩ := hreload oneRecord Tree.empty (Loading.holding file) [] rfl (Nat.le_refl _)
    (Loading.serves_holding _ _ _)
  have huntidy : ¬Record.Canonical oneRecord.layout untidyFile := fun h => absurd h.ends (by decide)
  exact ⟨hserves, hload, file, hfile, fun h => huntidy (hsame.mp h), hcanonical, hagain⟩

def hugeHeader : Bytes := [0x56, 0x44, 0x42, 0x31, 1, 0, 0, 0, 0, 0, 0, 0x80, 4, 0, 0, 0, 0, 0, 0, 0]

/-- It is accepted, and what was loaded cannot be saved. -/
theorem resave_hugeHeader :
    ∃ loaded, unrecordable.load Tree.empty (Loading.holding hugeHeader) [] = loaded ∧
      loaded.result = .ok () ∧ loaded.store.file? = none ∧
      (loaded.store.save Tree.empty Faults.none (Path.ofText "b.vdb") false).result
        = .error (.records .recordDimension) :=
  ⟨_, rfl, by decide, by decide +kernel, by decide +kernel⟩

end Store

end GroundedDialogue
