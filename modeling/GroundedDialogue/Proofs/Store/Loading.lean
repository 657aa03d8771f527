import GroundedDialogue.Platform.Reference
import GroundedDialogue.Proofs.Store.Reading

/-!
# What is loaded

`Store.load_file`: a file is loaded exactly when it is acceptable for the store, and what is loaded are
the documents that stand in it. Any other file is refused for the first thing that is wrong with it
(`Loading.firstFailure`), and the store stays as it was.

The file is the content that an access serves, be it a file of the tree or a device that stands in for
one; what happens when the access itself fails is not the subject here.
-/

namespace GroundedDialogue

open Disk

namespace Loading

/-- An access that serves the whole content of a file, without a failure. -/
structure Serves (f : Faults) (t : Tree) (path : Text) (content : Bytes) : Prop where
  opens : openFile f t path = .ok content
  reads : ∀ i, f.readAnswer i = .all
  closes : f.leaving = none

/-- A device with this content that does what it is told. -/
def holding (content : Bytes) : Faults := { Faults.none with device := some ⟨[], [], none, content, true⟩ }

theorem serves_holding (t : Tree) (path : Text) (content : Bytes) :
    Serves (holding content) t path content :=
  ⟨rfl, fun _ => rfl, rfl⟩

/-- A file that a store can be loaded from. -/
structure Acceptable (s : Store) (file : Bytes) : Prop where
  header : Header.size ≤ file.length
  magic : Bytes.wordAt file 0 = Header.magicNumber
  version : Bytes.wordAt file 4 = Header.currentVersion
  layout : Bytes.wordAt file 8 = s.layout.embedSize ∧ Bytes.wordAt file 12 = s.layout.maxText
  count : Bytes.wordAt file 16 ≤ s.capacity
  records : Header.size + Bytes.wordAt file 16 * Record.size s.layout ≤ file.length

/-- What is checked of a file, from front to back, with the code of the failure. -/
def checks (s : Store) (file : Bytes) : List (Bool × ErrorCode) :=
  [(Header.size ≤ file.length, .headerRead),
    (Bytes.wordAt file 0 = Header.magicNumber, .badMagic),
    (Bytes.wordAt file 4 = Header.currentVersion, .badVersion),
    (Bytes.wordAt file 8 = s.layout.embedSize ∧ Bytes.wordAt file 12 = s.layout.maxText, .layoutMismatch),
    (Bytes.wordAt file 16 ≤ s.capacity, .tooManyDocuments),
    (Header.size + Bytes.wordAt file 16 * Record.size s.layout ≤ file.length, .recordRead)]

/-- The code of the first check that a file does not pass. -/
def firstFailure (s : Store) (file : Bytes) : Option ErrorCode :=
  ((checks s file).find? fun check => !check.1).map Prod.snd

theorem firstFailure_eq_none_iff {s : Store} {file : Bytes} :
    firstFailure s file = none ↔ Acceptable s file := by
  simp only [firstFailure, Option.map_eq_none_iff, List.find?_eq_none, checks, List.mem_cons,
    List.not_mem_nil, or_false, forall_eq_or_imp, forall_eq, Bool.not_eq_true', Bool.not_eq_false,
    decide_eq_true_eq]
  constructor
  · rintro ⟨hheader, hmagic, hversion, hlayout, hcount, hrecords⟩
    exact ⟨hheader, hmagic, hversion, hlayout, hcount, hrecords⟩
  · intro h
    exact ⟨h.header, h.magic, h.version, h.layout, h.count, h.records⟩

/-! ## Reading -/

theorem firstFailure_eq (s : Store) (file : Bytes) :
    firstFailure s file =
      if Header.size ≤ file.length then
        if Bytes.wordAt file 0 = Header.magicNumber then
          if Bytes.wordAt file 4 = Header.currentVersion then
            if Bytes.wordAt file 8 = s.layout.embedSize ∧ Bytes.wordAt file 12 = s.layout.maxText then
              if Bytes.wordAt file 16 ≤ s.capacity then
                if Header.size + Bytes.wordAt file 16 * Record.size s.layout ≤ file.length then none
                else some .recordRead
              else some .tooManyDocuments
            else some .layoutMismatch
          else some .badVersion
        else some .badMagic
      else some .headerRead := by
  simp only [firstFailure, checks, firstFailure_cons, List.find?_nil, Option.map_none, decide_eq_true_eq]

theorem unmet_of_all {f : Faults} (hall : ∀ i, f.readAnswer i = .all) (s : Store) (file : Bytes) :
    unmet f s file = firstFailure s file := by
  rw [firstFailure_eq]
  simp only [unmet, demands, firstFailure_cons, List.find?_nil, Option.map_none, decide_eq_true_eq,
    Faults.gives_of_all (hall _), List.length_drop]
  by_cases hheader : Header.size ≤ file.length
  · have hrecords : (Bytes.wordAt file 16 = 0 ∨
        Bytes.wordAt file 16 * Record.size s.layout ≤ file.length - Header.size) ↔
        Header.size + Bytes.wordAt file 16 * Record.size s.layout ≤ file.length := by
      constructor
      · rintro (hzero | hrecords)
        · rwa [hzero, Nat.zero_mul]
        · omega
      · omega
    simp only [hrecords]
  · rw [if_neg hheader, if_neg hheader]

section

variable [Platform]

/-- What is read of a file is decided by the first check that it does not pass. There must be room for
the records that are asked for. -/
theorem readDocuments_spec {f : Faults} (hall : ∀ i, f.readAnswer i = .all) {s : Store}
    (file : Bytes) (hroom : Bytes.wordAt file 16 ≤ s.capacity → Bytes.wordAt file 16 ≠ 0 →
      Record.HasRoom s.layout (Bytes.wordAt file 16)) :
    match firstFailure s file with
    | none => readDocuments f s file = .ok (documentsIn s.layout file)
    | some code => ∃ e, readDocuments f s file = .error e ∧ e.code? = some code ∧
        e.family? = some (familyOf code) := by
  rw [← unmet_of_all hall]
  apply readDocuments_demands
  intro fault h
  exact (Record.exists_makeRoom_eq_error_iff _).mp ⟨fault, h.room⟩ (hroom h.count h.records)

theorem readDocuments_ok {f : Faults} (hall : ∀ i, f.readAnswer i = .all) {s : Store} {file : Bytes}
    {ds : List Document} (h : readDocuments f s file = .ok ds) :
    Acceptable s file ∧ (Bytes.wordAt file 16 ≠ 0 → Record.HasRoom s.layout (Bytes.wordAt file 16)) ∧
      ds = documentsIn s.layout file := by
  have hlong : ∀ fault, ¬Overlong f s file fault := by
    intro fault hlong
    rw [readDocuments_of_overlong hlong] at h
    cases h
  have hdemands := readDocuments_demands hlong
  rw [unmet_of_all hall, h] at hdemands
  cases hfirst : firstFailure s file with
  | none =>
    rw [hfirst] at hdemands
    have hacceptable := firstFailure_eq_none_iff.mp hfirst
    refine ⟨hacceptable, ?_, Except.ok.inj hdemands⟩
    intro hrecords
    by_contra hroom
    obtain ⟨fault, hfault⟩ := (Record.exists_makeRoom_eq_error_iff .uncountableBytes).mpr hroom
    have hgives := (Faults.gives_of_all (hall 0) Header.size file).mpr hacceptable.header
    exact hlong fault ⟨hgives, hacceptable.magic, hacceptable.version, hacceptable.layout, hacceptable.count,
      hrecords, hfault⟩
  | some code =>
    rw [hfirst] at hdemands
    obtain ⟨e, he, -⟩ := hdemands
    cases he

end

end Loading

namespace Store

/-! ## Loading -/

section

variable [Platform]

theorem documentsOf_eq {f : Faults} {t : Tree} {path : Text} {file : Bytes}
    (hserves : Loading.Serves f t path file) (s : Store) :
    s.documentsOf t f path = Loading.readDocuments f s file := by
  rw [documentsOf, hserves.opens]
  dsimp only
  rw [hserves.closes]

theorem load_ok {s : Store} {f : Faults} {t : Tree} {path : Text} {file : Bytes}
    (hserves : Loading.Serves f t path file) (h : (s.load t f path).result = .ok ()) :
    Loading.Acceptable s file ∧
      (Bytes.wordAt file 16 ≠ 0 → Record.HasRoom s.layout (Bytes.wordAt file 16)) ∧
      (s.load t f path).store = { s with documents := Loading.documentsIn s.layout file } := by
  rw [load, documentsOf_eq hserves] at h ⊢
  cases hread : Loading.readDocuments f s file with
  | error e =>
    rw [hread] at h
    cases h
  | ok ds =>
    obtain ⟨hacceptable, hroom, rfl⟩ := Loading.readDocuments_ok hserves.reads hread
    exact ⟨hacceptable, hroom, rfl⟩

theorem load_of_acceptable {s : Store} {f : Faults} {t : Tree} {path : Text} {file : Bytes}
    (hserves : Loading.Serves f t path file) (hacceptable : Loading.Acceptable s file)
    (hroom : Bytes.wordAt file 16 ≠ 0 → Record.HasRoom s.layout (Bytes.wordAt file 16)) :
    (s.load t f path).result = .ok () ∧
      (s.load t f path).store = { s with documents := Loading.documentsIn s.layout file } := by
  have hspec := Loading.readDocuments_spec hserves.reads file fun _ => hroom
  rw [Loading.firstFailure_eq_none_iff.mpr hacceptable] at hspec
  dsimp only at hspec
  rw [load, documentsOf_eq hserves, hspec]
  exact ⟨rfl, rfl⟩

/-- **A store is loaded from exactly the files that are acceptable for it**, and then holds what stands
in the file and nothing else. A file that is not acceptable is refused for its first failure, with an
error of the family that belongs to it, and leaves the store as it was. -/
theorem load_file (s : Store) {f : Faults} {t : Tree} {path : Text} {file : Bytes}
    (hserves : Loading.Serves f t path file) (hsize : Record.size s.layout < 2 ^ 31)
    (hmemory : Platform.holds s.capacity (Record.size s.layout) = true) :
    ((s.load t f path).result = .ok () ↔ Loading.Acceptable s file) ∧
      match Loading.firstFailure s file with
      | none => (s.load t f path).result = .ok () ∧
          (s.load t f path).store = { s with documents := Loading.documentsIn s.layout file }
      | some code => (s.load t f path).store = s ∧ ∃ e, (s.load t f path).result = .error e ∧
          e.code? = some code ∧ e.family? = some (Loading.familyOf code) := by
  have hroom := Record.hasRoom_of_size_lt hsize hmemory
  have hspec := Loading.readDocuments_spec hserves.reads file fun hcount _ => hroom.of_le hcount
  have hnone : Loading.firstFailure s file = none ↔ Loading.Acceptable s file :=
    Loading.firstFailure_eq_none_iff
  rw [load, documentsOf_eq hserves]
  cases hfirst : Loading.firstFailure s file with
  | none =>
    rw [hfirst] at hspec hnone
    dsimp only at hspec ⊢
    rw [hspec]
    exact ⟨iff_of_true rfl (hnone.mp rfl), rfl, rfl⟩
  | some code =>
    rw [hfirst] at hspec hnone
    obtain ⟨e, hresult, hcode, hfamily⟩ := hspec
    rw [hresult]
    refine ⟨iff_of_false ?_ (fun h => nomatch hnone.mpr h), rfl, e, rfl, hcode, hfamily⟩
    intro h
    cases h

end

/-- Two records of five bytes, of which the last byte is missing. -/
def cutFile : Bytes :=
  [0x56, 0x44, 0x42, 0x31, 1, 0, 0, 0, 1, 0, 0, 0, 1, 0, 0, 0, 2, 0, 0, 0, 0, 0, 0x80, 0x3F, 0, 0, 0, 0,
    0x40]

theorem load_cutFile :
    Loading.Serves (Loading.holding cutFile) Tree.empty [] cutFile ∧
      Record.size ⟨1, 1, by decide, by decide⟩ < 2 ^ 31 ∧
      Platform.holds 2 (Record.size ⟨1, 1, by decide, by decide⟩) = true ∧
      ∃ e, (load ⟨2, ⟨1, 1, by decide, by decide⟩, []⟩ Tree.empty (Loading.holding cutFile) []).result = .error e ∧
        e.code? = some .recordRead ∧ e.family? = some .access := by
  have hserves := Loading.serves_holding Tree.empty [] cutFile
  have hsize : Record.size ⟨1, 1, by decide, by decide⟩ < 2 ^ 31 := by decide
  have hmemory : Platform.holds 2 (Record.size ⟨1, 1, by decide, by decide⟩) = true := by decide
  have hload := (load_file ⟨2, ⟨1, 1, by decide, by decide⟩, []⟩ hserves hsize hmemory).2
  have hfirst : Loading.firstFailure ⟨2, ⟨1, 1, by decide, by decide⟩, []⟩ cutFile = some .recordRead := by
    decide
  rw [hfirst] at hload
  exact ⟨hserves, hsize, hmemory, hload.2⟩

end Store

end GroundedDialogue
