import GroundedDialogue.Embedding.Embedder
import GroundedDialogue.Proofs.Store.Adding
import GroundedDialogue.Proofs.Store.Loading
import GroundedDialogue.Proofs.Store.SaveFailures
import Mathlib.Data.List.TakeDrop

/-!
# Saving and loading again

`Store.grown_round_trip`: what was added to a store is saved and loaded without a loss, and the loaded
store answers every query like the saved one. `Store.reload_iff` is about stores that were themselves
loaded, from a file of any origin: saving and loading such a store again keeps every document exactly
when each text field of the file has a null. A text that fills its field is read with all its bytes but
written with the last one cut off (`Store.reload_fullField`). Both need room for the records, without
which nothing is saved (`Store.round_trip_unrecordable`).

What is kept is said of the bytes of a text: different texts may have the same bytes, and bytes are what
a file holds.
-/

namespace GroundedDialogue

open Disk

/-- What there is to keep of a document: the bits of its embedding and the bytes of its text. -/
def Document.content (d : Document) : Embedding × Except Text.Unencodable Bytes :=
  (d.embedding, d.text.encode?)

/-- What a hit says, with the bytes of its text. -/
def Hit.content (h : Hit) : Nat × Binary32 × Except Text.Unencodable Bytes :=
  (h.index, h.score, h.text.encode?)

/-! ## One document -/

namespace Document

theorem content_stored (l : Layout) (d : Document) :
    (Record.stored l d).content = (d.embedding, .ok (d.text.encode.take (l.maxText - 1))) := by
  rw [content, Record.stored]
  dsimp only
  rw [Text.encode?_of_isEncodable (Text.isEncodable_decode _), Text.encode_decode]

theorem Fits.content_eq {l : Layout} {n : Nat} {d : Document} (hd : d.Fits l n) :
    d.content = (d.embedding, .ok d.text.encode) := by
  rw [content, Text.encode?_of_isEncodable hd.encodable]

/-- A document is kept exactly when a null fits behind its text. -/
theorem Fits.content_stored_iff {l : Layout} {n : Nat} {d : Document} (hd : d.Fits l n) :
    (Record.stored l d).content = d.content ↔ d.text.encode.length < l.maxText := by
  have hpos := l.maxText_pos
  rw [content_stored, hd.content_eq, Prod.mk.injEq, Except.ok.injEq, List.take_eq_self_iff]
  constructor
  · rintro ⟨-, hlength⟩
    omega
  · intro hlength
    exact ⟨rfl, by omega⟩

end Document

namespace Store

/-! ## The file of a store -/

section

variable [Platform]

theorem header_file {s : Store} {file : Bytes} (hfile : s.file? = some file) :
    Header.ofBytes (file.take Header.size) = Header.ofLayout s.layout s.length ∧
      file.drop Header.size = Record.bytesOf s.layout s.documents ∧ Header.size ≤ file.length := by
  obtain ⟨start, hpack, rfl⟩ := file?_eq_some_iff.mp hfile
  have hstart := (pack_eq_ok_iff.mp hpack).1
  have hlength := Header.length_of_bytes? hstart
  have hheader := Header.ofBytes_bytes hstart []
  rw [List.append_nil] at hheader
  rw [List.take_left' hlength, List.drop_left' hlength, List.length_append, hlength]
  exact ⟨hheader, rfl, by omega⟩

theorem words_file {s : Store} {file : Bytes} (hfile : s.file? = some file) :
    Bytes.wordAt file 0 = Header.magicNumber ∧ Bytes.wordAt file 4 = Header.currentVersion ∧
      Bytes.wordAt file 8 = s.layout.embedSize ∧ Bytes.wordAt file 12 = s.layout.maxText ∧
      Bytes.wordAt file 16 = s.length := by
  have hheader := (header_file hfile).1
  rw [Header.ofBytes_take, Header.ofLayout, Header.mk.injEq] at hheader
  exact hheader

theorem length_file {s : Store} {file : Bytes} (hfile : s.file? = some file)
    (hds : ∀ d ∈ s.documents, d.embedding.length = s.layout.embedSize) :
    file.length = Header.size + s.length * Record.size s.layout := by
  obtain ⟨-, hrecords, hheader⟩ := header_file hfile
  have hlength := congrArg List.length hrecords
  rw [List.length_drop, Record.length_bytesOf hds] at hlength
  rw [length]
  omega

theorem getLast?_fieldAt_file {s : Store} {file : Bytes} (hfile : s.file? = some file)
    (hds : ∀ d ∈ s.documents, d.embedding.length = s.layout.embedSize) {i : Nat} (hi : i < s.length) :
    (Record.fieldAt s.layout file i).getLast? = some 0 := by
  have hpos := s.layout.maxText_pos
  have hlength := Record.length_fieldAt hi (Nat.le_of_eq (length_file hfile hds).symm)
  have hlast := Record.getElem?_bytesOf hds hi
  have hoffset : Header.size + i * Record.size s.layout + 4 * s.layout.embedSize + (s.layout.maxText - 1)
      = Header.size + (i * Record.size s.layout + (Record.size s.layout - 1)) := by
    have hsize : Record.size s.layout = 4 * s.layout.embedSize + s.layout.maxText := rfl
    omega
  rw [← (header_file hfile).2.1, List.getElem?_drop] at hlast
  rw [List.getLast?_eq_getElem?, hlength, Record.fieldAt, List.getElem?_take_of_lt (by omega),
    List.getElem?_drop, hoffset]
  exact hlast

theorem acceptable_file {s s' : Store} {file : Bytes} (hfile : s.file? = some file)
    (hds : ∀ d ∈ s.documents, d.embedding.length = s.layout.embedSize) (hlayout : s'.layout = s.layout)
    (hcapacity : s.length ≤ s'.capacity) : Loading.Acceptable s' file := by
  obtain ⟨hmagic, hversion, hembed, hmax, hcount⟩ := words_file hfile
  refine ⟨(header_file hfile).2.2, hmagic, hversion, ?_, ?_, ?_⟩
  · rw [hlayout]
    exact ⟨hembed, hmax⟩
  · rw [hcount]
    exact hcapacity
  · rw [hcount, hlayout, length_file hfile hds]

theorem documentsIn_file {s : Store} {file : Bytes} (hfile : s.file? = some file)
    (hds : ∀ d ∈ s.documents, d.embedding.length = s.layout.embedSize ∧ 0 ∉ d.text.encode) :
    Loading.documentsIn s.layout file = s.documents.map (Record.stored s.layout) := by
  obtain ⟨-, -, -, -, hcount⟩ := words_file hfile
  obtain ⟨-, hrecords, -⟩ := header_file hfile
  have hlength := Record.length_bytesOf fun d hd => (hds d hd).1
  have hread := Record.documents_bytesOf hds []
  rw [List.append_nil] at hread
  rw [Loading.documentsIn, hcount, ← Record.documents_take_drop, hrecords, length,
    List.take_of_length_le (Nat.le_of_eq hlength)]
  exact hread

theorem hasRoom_of_file {s : Store} {file : Bytes} (hfile : s.file? = some file) :
    Record.HasRoom s.layout s.length := by
  obtain ⟨start, hpack, -⟩ := file?_eq_some_iff.mp hfile
  exact (pack_eq_ok_iff.mp hpack).2.1

theorem load_saved {s s' : Store} {file : Bytes} (hfile : s.file? = some file)
    (hds : ∀ d ∈ s.documents, d.embedding.length = s.layout.embedSize ∧ 0 ∉ d.text.encode)
    (hlayout : s'.layout = s.layout) (hcapacity : s.length ≤ s'.capacity) {f : Faults} {t : Tree}
    {path : Text} (hserves : Loading.Serves f t path file) :
    (s'.load t f path).result = .ok () ∧
      (s'.load t f path).store = { s' with documents := s.documents.map (Record.stored s.layout) } := by
  obtain ⟨-, -, -, -, hcount⟩ := words_file hfile
  have hacceptable := acceptable_file hfile (fun d hd => (hds d hd).1) hlayout hcapacity
  have hdocuments : Loading.documentsIn s'.layout file = s.documents.map (Record.stored s.layout) := by
    rw [hlayout, documentsIn_file hfile hds]
  rw [← hdocuments]
  apply load_of_acceptable hserves hacceptable
  intro _
  rw [hcount, hlayout]
  exact hasRoom_of_file hfile

/-! ## Stores of the same content -/

omit [Platform] in
theorem content_hit? {s : Store} (slot : Slot Binary32) :
    (s.hit? slot).map Hit.content = slot.index.bind fun i =>
      (s.documents.map Document.content)[i]?.map fun content => (i, slot.score, content.2) := by
  obtain ⟨index, score⟩ := slot
  cases index with
  | none => rfl
  | some i =>
    change (s.documents[i]?.bind fun d => some (Hit.mk i score d.text)).map Hit.content = _
    rw [Option.bind_some, List.getElem?_map]
    cases s.documents[i]? with
    | none => rfl
    | some d => rfl

theorem search_congr {s s' : Store} (hlayout : s'.layout = s.layout)
    (hcontent : s'.documents.map Document.content = s.documents.map Document.content)
    (query : Embedding) (k : Int) :
    s'.search query k = s.search query k ∧
      (s'.hits query k).map (List.map Hit.content) = (s.hits query k).map (List.map Hit.content) := by
  have hscores : s'.documents.map (similarity query) = s.documents.map (similarity query) := by
    have h := congrArg (List.map fun content => query.cosine content.1) hcontent
    rw [List.map_map, List.map_map] at h
    exact h
  have hrank : ∀ k, s'.rank query k = s.rank query k := by
    intro k
    rw [rank, rank, rankBy, rankBy, hlayout, hscores]
  have hhits : ∀ slots : List (Slot Binary32),
      (slots.filterMap s'.hit?).map Hit.content = (slots.filterMap s.hit?).map Hit.content := by
    intro slots
    rw [List.map_filterMap, List.map_filterMap]
    apply List.filterMap_congr
    intro slot _
    rw [content_hit?, content_hit?, hcontent]
  rw [search, search, hits, hits, hrank]
  by_cases hk : k ≤ 0
  · rw [if_pos hk, if_pos hk, if_pos hk]
    exact ⟨rfl, rfl⟩
  · rw [if_neg hk, if_neg hk, if_neg hk]
    refine ⟨rfl, ?_⟩
    cases s.rank query k.toNat with
    | error e => rfl
    | ok slots => exact congrArg Except.ok (hhits slots)

/-! ## The round trips -/

/-- **What was added to a store is saved and loaded without a loss**, if there is room for its records, and
otherwise it is not saved. The file has one record of fixed size for each document, with a null at its end. It
is loaded into any store of the same layout that can hold so many documents, whatever that store held before,
and then gives the same answers. -/
theorem grown_round_trip {s : Store} (hs : Grown s) (he : s.layout.embedSize < 2 ^ 32)
    (hm : s.layout.maxText < 2 ^ 32) (hcount : s.length < 2 ^ 32) :
    ((∃ file, s.file? = some file) ↔ Record.HasRoom s.layout s.length) ∧
    (∀ t f p atomic, (s.save t f p atomic).result = .ok () → ∃ file, s.file? = some file) ∧
    ∀ file, s.file? = some file → s.Leaves file ∧
      file.length = 20 + s.length * (4 * s.layout.embedSize + s.layout.maxText) ∧
      (∀ i < s.length, (Record.fieldAt s.layout file i).getLast? = some 0) ∧
      ∀ (s' : Store) (t : Tree) (f : Faults) (path : Text), s'.layout = s.layout → s.length ≤ s'.capacity →
        Loading.Serves f t path file →
        ∃ ds, (s'.load t f path).result = .ok () ∧
          (s'.load t f path).store = { s' with documents := ds } ∧
          ds.map Document.content = s.documents.map Document.content ∧
          ∀ (query : Embedding) (k : Int),
            (s'.load t f path).store.search query k = s.search query k ∧
            ((s'.load t f path).store.hits query k).map (List.map Hit.content)
              = (s.hits query k).map (List.map Hit.content) := by
  have hds : ∀ d ∈ s.documents, d.embedding.length = s.layout.embedSize := fun d hd =>
    (hs.fits d hd).dimension
  have hnull : ∀ d ∈ s.documents, d.embedding.length = s.layout.embedSize ∧ 0 ∉ d.text.encode :=
    fun d hd => ⟨hds d hd, (hs.fits d hd).noNull⟩
  refine ⟨exists_file?_iff he hm hcount, fun _ _ _ _ => exists_file?_of_save, ?_⟩
  intro file hfile
  refine ⟨leaves_file hfile, length_file hfile hds, fun i hi => getLast?_fieldAt_file hfile hds hi, ?_⟩
  intro s' t f path hlayout hcapacity hserves
  obtain ⟨hresult, hstore⟩ := load_saved hfile hnull hlayout hcapacity hserves
  have hcontent : (s.documents.map (Record.stored s.layout)).map Document.content
      = s.documents.map Document.content := by
    rw [List.map_map]
    apply List.map_congr_left
    intro d hd
    have hpos := s.layout.maxText_pos
    have hshort := (hs.fits d hd).short
    exact (hs.fits d hd).content_stored_iff.mpr (by omega)
  refine ⟨_, hresult, hstore, hcontent, ?_⟩
  intro query k
  rw [hstore]
  apply search_congr
  · exact hlayout
  · exact hcontent

end

/-- A store with one document: the embedding is no number, and the text ends in a character of two
bytes, of which only the first would fit. -/
def cutStore : Store :=
  (add ⟨2, ⟨1, 4, Nat.one_pos, by decide⟩, []⟩ (some (Embedder.scripted [.ok [⟨0x7FC00001⟩]])) "naï").store

theorem cutStore_round_trip :
    Grown cutStore ∧ cutStore.layout.embedSize < 2 ^ 32 ∧ cutStore.layout.maxText < 2 ^ 32 ∧
      cutStore.length < 2 ^ 32 ∧
      ∃ file, cutStore.Leaves file ∧ file.length = 28 ∧
        ∃ ds, (load ⟨1, cutStore.layout, [⟨[.zero], "x"⟩]⟩ Tree.empty (Loading.holding file) []).store
            = ⟨1, cutStore.layout, ds⟩ ∧
          ds.map Document.content = [([⟨0x7FC00001⟩], .ok [0x6E, 0x61])] := by
  have hcut : cutStore = ⟨2, ⟨1, 4, by decide, by decide⟩, [⟨[⟨0x7FC00001⟩], "na"⟩]⟩ := by decide
  have hempty : create 2 1 4 = .ok ⟨2, ⟨1, 4, by decide, by decide⟩, []⟩ := rfl
  have hgrown : Grown cutStore := Grown.add (Grown.create hempty) _ _
  have hsizes : cutStore.layout.embedSize < 2 ^ 32 ∧ cutStore.layout.maxText < 2 ^ 32 ∧
      cutStore.length < 2 ^ 32 := by
    rw [hcut]
    decide
  obtain ⟨he, hm, hcount⟩ := hsizes
  obtain ⟨hsaved, -, htrip⟩ := grown_round_trip hgrown he hm hcount
  have hroom : Record.HasRoom cutStore.layout cutStore.length := by
    rw [hcut]
    exact ⟨by decide, by decide⟩
  obtain ⟨file, hfile⟩ := hsaved.mpr hroom
  obtain ⟨hleaves, hlength, -, hload⟩ := htrip file hfile
  obtain ⟨ds, -, hstore, hcontent, -⟩ := hload ⟨1, cutStore.layout, [⟨[.zero], "x"⟩]⟩ Tree.empty
    (Loading.holding file) [] rfl (by rw [hcut]; decide) (Loading.serves_holding _ _ _)
  refine ⟨hgrown, he, hm, hcount, file, hleaves, ?_, ds, hstore, ?_⟩
  · rw [hlength, hcut]
    rfl
  · rw [hcontent, hcut]
    rfl

/-- The sizes of the store fit into the header, but it is not saved. -/
theorem round_trip_unrecordable :
    create 1 2147483648 4 = .ok unrecordable ∧ unrecordable.layout.embedSize < 2 ^ 32 ∧
      unrecordable.layout.maxText < 2 ^ 32 ∧ unrecordable.length < 2 ^ 32 ∧ unrecordable.file? = none ∧
      (unrecordable.save Tree.empty Faults.none (Path.ofText "a.vdb") false).result
        = .error (.records .recordDimension) := by
  decide +kernel

section

variable [Platform]

theorem exists_file?_loaded_iff {s : Store} {first : Bytes} (hfirst : Loading.Acceptable s first)
    (hroom : Bytes.wordAt first 16 ≠ 0 → Record.HasRoom s.layout (Bytes.wordAt first 16)) :
    (∃ file, file? { s with documents := Loading.documentsIn s.layout first } = some file) ↔
      Platform.refusal? s.layout.embedSize s.layout.maxText = none := by
  have he := Bytes.wordAt_lt first 8
  have hm := Bytes.wordAt_lt first 12
  have hcount := Bytes.wordAt_lt first 16
  rw [hfirst.layout.1] at he
  rw [hfirst.layout.2] at hm
  rw [← Loading.length_documentsIn s.layout first] at hcount hroom
  rw [exists_file?_iff (s := { s with documents := Loading.documentsIn s.layout first }) he hm hcount]
  constructor
  · exact Record.HasRoom.type
  · intro htype
    by_cases hzero : (Loading.documentsIn s.layout first).length = 0
    · rw [length, hzero]
      exact Record.hasRoom_zero_iff.mpr htype
    · exact hroom hzero

theorem type_of_loaded {s : Store} {t : Tree} {f : Faults} {path : Text} {first : Bytes}
    (hserves : Loading.Serves f t path first) (hload : (s.load t f path).result = .ok ()) :
    ((∃ file, (s.load t f path).store.file? = some file) ↔
        Platform.refusal? s.layout.embedSize s.layout.maxText = none) ∧
      ((s.load t f path).store.length ≠ 0 → Platform.refusal? s.layout.embedSize s.layout.maxText = none) := by
  obtain ⟨hfirst, hroom, hstore⟩ := load_ok hserves hload
  rw [hstore]
  refine ⟨exists_file?_loaded_iff hfirst hroom, ?_⟩
  intro hsome
  rw [length, Loading.length_documentsIn] at hsome
  exact (hroom hsome).type

/-- **A store that was loaded keeps its documents through a save and another load exactly when each text
field of the file has a null.** Of each document it keeps the embedding, and of its text what fits in
front of a null. It can be saved if there is a type for its records, which is only in question for a file
without documents. -/
theorem reload_iff {s : Store} {t : Tree} {f : Faults} {path : Text} {first : Bytes}
    (hserves : Loading.Serves f t path first) (hload : (s.load t f path).result = .ok ()) :
    ((∃ file, (s.load t f path).store.file? = some file) ↔
      Platform.refusal? s.layout.embedSize s.layout.maxText = none) ∧
    ((s.load t f path).store.length ≠ 0 → Platform.refusal? s.layout.embedSize s.layout.maxText = none) ∧
    (∀ t' f' p atomic, ((s.load t f path).store.save t' f' p atomic).result = .ok () →
      ∃ file, (s.load t f path).store.file? = some file) ∧
    ∀ file, (s.load t f path).store.file? = some file → (s.load t f path).store.Leaves file ∧
      ∀ (t' : Tree) (f' : Faults) (path' : Text), Loading.Serves f' t' path' file →
        ((s.load t f path).store.load t' f' path').result = .ok () ∧
          ((s.load t f path).store.load t' f' path').store.documents
            = (s.load t f path).store.documents.map (Record.stored s.layout) ∧
          (((s.load t f path).store.load t' f' path').store.documents.map Document.content
              = (s.load t f path).store.documents.map Document.content ↔
            ∀ i < (s.load t f path).store.length, 0 ∈ Record.fieldAt s.layout first i) := by
  obtain ⟨hsaved, htype⟩ := type_of_loaded hserves hload
  obtain ⟨hfirst, -, hstore⟩ := load_ok hserves hload
  have hlength := Loading.length_documentsIn s.layout first
  have hfits : ∀ d ∈ Loading.documentsIn s.layout first, d.Fits s.layout s.layout.maxText :=
    fun _ hd => Loading.fits_of_mem_documentsIn hd
  refine ⟨hsaved, htype, fun _ _ _ _ => exists_file?_of_save, ?_⟩
  rw [hstore]
  intro file hfile
  refine ⟨leaves_file hfile, ?_⟩
  intro t' f' path' hserves'
  obtain ⟨hresult, hreload⟩ := load_saved hfile (fun d hd => ⟨(hfits d hd).dimension, (hfits d hd).noNull⟩)
    rfl (by rw [length, hlength]; exact hfirst.count) hserves'
  rw [hreload]
  refine ⟨hresult, rfl, ?_⟩
  dsimp only
  rw [List.map_map, List.map_inj_left, length]
  constructor
  · intro hkept i hi
    rw [hlength] at hi
    have hmem := List.mem_map_of_mem (f := Record.documentAt s.layout first) (List.mem_range.mpr hi)
    have hshort := (hfits _ hmem).content_stored_iff.mp (hkept _ hmem)
    exact (Record.length_text_lt_iff (Record.length_fieldAt hi hfirst.records)).mp hshort
  · intro hnulls d hd
    refine (hfits d hd).content_stored_iff.mpr ?_
    obtain ⟨i, hi, rfl⟩ := List.mem_map.mp hd
    rw [List.mem_range] at hi
    have hnull := hnulls i (by rw [hlength]; exact hi)
    exact (Record.length_text_lt_iff (Record.length_fieldAt hi hfirst.records)).mpr hnull

end

/-- One record of a text field of four bytes, with these bytes in the field. -/
def singleField (field : Bytes) : Bytes :=
  [0x56, 0x44, 0x42, 0x31, 1, 0, 0, 0, 1, 0, 0, 0, 4, 0, 0, 0, 1, 0, 0, 0, 0, 0, 0x80, 0x3F] ++ field

/-- Bytes behind the first null do not matter. -/
theorem reload_junkField :
    Loading.Serves (Loading.holding (singleField [0x61, 0xE9, 0, 0x64])) Tree.empty []
        (singleField [0x61, 0xE9, 0, 0x64]) ∧
      ∃ loaded file, load ⟨1, ⟨1, 4, by decide, by decide⟩, []⟩ Tree.empty
          (Loading.holding (singleField [0x61, 0xE9, 0, 0x64])) [] = loaded ∧
        loaded.result = .ok () ∧ loaded.store.file? = some file ∧
        (loaded.store.load Tree.empty (Loading.holding file) []).store.documents.map Document.content
          = [([⟨0x3F800000⟩], .ok [0x61, 0xE9])] := by
  have hserves := Loading.serves_holding Tree.empty [] (singleField [0x61, 0xE9, 0, 0x64])
  obtain ⟨hsaved, -, -, hreload⟩ :=
    reload_iff (s := ⟨1, ⟨1, 4, by decide, by decide⟩, []⟩) hserves (by decide)
  obtain ⟨file, hfile⟩ := hsaved.mpr (by decide)
  obtain ⟨-, -, hkept⟩ := (hreload file hfile).2 Tree.empty _ [] (Loading.serves_holding Tree.empty [] file)
  refine ⟨hserves, _, file, rfl, by decide, hfile, ?_⟩
  rw [hkept.mpr (by decide)]
  rfl

/-- A text that fills its field loses its last byte. -/
theorem reload_fullField :
    ∃ loaded file, load ⟨1, ⟨1, 4, by decide, by decide⟩, []⟩ Tree.empty
        (Loading.holding (singleField [0x61, 0x62, 0x63, 0x64])) [] = loaded ∧
      loaded.result = .ok () ∧ loaded.store.file? = some file ∧
      (loaded.store.load Tree.empty (Loading.holding file) []).result = .ok () ∧
      loaded.store.documents.map Document.content = [([⟨0x3F800000⟩], .ok [0x61, 0x62, 0x63, 0x64])] ∧
      (loaded.store.load Tree.empty (Loading.holding file) []).store.documents.map Document.content
        = [([⟨0x3F800000⟩], .ok [0x61, 0x62, 0x63])] :=
  ⟨_, singleField [0x61, 0x62, 0x63, 0], rfl, by decide, by decide, by decide, rfl, rfl⟩

end Store

end GroundedDialogue
