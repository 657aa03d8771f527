import GroundedDialogue.Proofs.Store.Record
import GroundedDialogue.Store.Load

/-!
# What is read of a file

A file that was opened is read in two steps, and each of them can fail or give too little. What comes of it is
decided by the first thing in `Loading.demands` that is not as it should be (`Loading.readDocuments_demands`),
unless no room is made for the records that the file promises (`Loading.Overlong`).
-/

namespace GroundedDialogue

open Disk

/-- Whether the `i`-th read gives all of so many bytes of a content. -/
def Disk.Faults.gives (f : Faults) (i size : Nat) (content : Bytes) : Bool :=
  match f.readAnswer i with
  | .all => size ≤ content.length
  | .atMost n => size ≤ n && size ≤ content.length
  | .failed _ => false

theorem Disk.Faults.gives_of_all {f : Faults} {i : Nat} (hall : f.readAnswer i = .all) (size : Nat) (content : Bytes) :
    f.gives i size content = true ↔ size ≤ content.length := by
  rw [gives, hall, decide_eq_true_eq]

namespace Loading

variable {f : Faults} {s : Store} {file : Bytes}

/-- The documents that stand in a file. -/
def documentsIn (l : Layout) (file : Bytes) : List Document :=
  (List.range (Bytes.wordAt file 16)).map (Record.documentAt l file)

theorem length_documentsIn (l : Layout) (file : Bytes) :
    (documentsIn l file).length = Bytes.wordAt file 16 := by
  rw [documentsIn, List.length_map, List.length_range]

theorem fits_of_mem_documentsIn {l : Layout} {file : Bytes} {d : Document} (hd : d ∈ documentsIn l file) :
    d.Fits l l.maxText := by
  obtain ⟨i, -, rfl⟩ := List.mem_map.mp hd
  exact Record.fits_documentAt l file i

/-- A file with the right header, for whose records no room is made. -/
structure Overlong [Platform] (f : Faults) (s : Store) (file : Bytes) (fault : Fault) : Prop where
  header : f.gives 0 Header.size file = true
  magic : Bytes.wordAt file 0 = Header.magicNumber
  version : Bytes.wordAt file 4 = Header.currentVersion
  layout : Bytes.wordAt file 8 = s.layout.embedSize ∧ Bytes.wordAt file 12 = s.layout.maxText
  count : Bytes.wordAt file 16 ≤ s.capacity
  records : Bytes.wordAt file 16 ≠ 0
  room : Record.makeRoom .uncountableBytes s.layout (Bytes.wordAt file 16) = .error fault

/-- The family of a failure by its code: reading too little is a failure of the access, and all else
is wrong with the format. -/
def familyOf (code : ErrorCode) : LoadError.Family :=
  if code = .headerRead ∨ code = .recordRead then .access else .format

/-- What is asked of a file that was opened, from front to back, with the code of the failure. -/
def demands (f : Faults) (s : Store) (file : Bytes) : List (Bool × ErrorCode) :=
  [(f.gives 0 Header.size file, .headerRead),
    (Bytes.wordAt file 0 = Header.magicNumber, .badMagic),
    (Bytes.wordAt file 4 = Header.currentVersion, .badVersion),
    (Bytes.wordAt file 8 = s.layout.embedSize ∧ Bytes.wordAt file 12 = s.layout.maxText, .layoutMismatch),
    (Bytes.wordAt file 16 ≤ s.capacity, .tooManyDocuments),
    (Bytes.wordAt file 16 = 0 ∨
      f.gives 1 (Bytes.wordAt file 16 * Record.size s.layout) (file.drop Header.size) = true, .recordRead)]

/-- The code of the first thing that is not given, if anything is not. -/
def unmet (f : Faults) (s : Store) (file : Bytes) : Option ErrorCode :=
  ((demands f s file).find? fun check => !check.1).map Prod.snd

theorem firstFailure_cons (pass : Bool) (code : ErrorCode) (rest : List (Bool × ErrorCode)) :
    (((pass, code) :: rest).find? fun check => !check.1).map Prod.snd =
      if pass = true then (rest.find? fun check => !check.1).map Prod.snd else some code := by
  cases pass <;> rfl

/-! ## The two reads -/

theorem read_of_gives {i size : Nat} (h : f.gives i size file = true) :
    read f i size file = .ok (file.take size, file.drop size) := by
  rw [Faults.gives] at h
  rw [read]
  cases hanswer : f.readAnswer i with
  | failed message =>
    rw [hanswer] at h
    cases h
  | all =>
    rw [hanswer] at h
    have hlength : size ≤ file.length := of_decide_eq_true h
    simp [hlength]
  | atMost n =>
    rw [hanswer] at h
    simp only [Bool.and_eq_true, decide_eq_true_eq] at h
    simp [h]

theorem read_of_not_gives {i size : Nat} (h : f.gives i size file = false) : ∃ p, read f i size file = .error p := by
  rw [Faults.gives] at h
  rw [read]
  cases hanswer : f.readAnswer i with
  | failed message => exact ⟨_, rfl⟩
  | all =>
    rw [hanswer] at h
    have hlength : ¬size ≤ file.length := of_decide_eq_false h
    dsimp only
    rw [List.length_take, if_neg (by omega)]
    exact ⟨_, rfl⟩
  | atMost n =>
    rw [hanswer] at h
    have hlength : ¬(size ≤ n ∧ size ≤ file.length) := by simpa using h
    dsimp only
    rw [List.length_take, if_neg (by omega)]
    exact ⟨_, rfl⟩

theorem checkHeader_ofBytes (s : Store) (file : Bytes) :
    checkHeader s (Header.ofBytes (file.take Header.size)) =
      if Bytes.wordAt file 0 = Header.magicNumber then
        if Bytes.wordAt file 4 = Header.currentVersion then
          if Bytes.wordAt file 8 = s.layout.embedSize ∧ Bytes.wordAt file 12 = s.layout.maxText then
            if Bytes.wordAt file 16 ≤ s.capacity then .ok ()
            else .error (.tooManyDocuments (Bytes.wordAt file 16) s.capacity)
          else .error (.layoutMismatch (Bytes.wordAt file 8) (Bytes.wordAt file 12) s.layout)
        else .error (.badVersion (Bytes.wordAt file 4))
      else .error (.badMagic (Bytes.wordAt file 0)) := by
  rw [Header.ofBytes_take, checkHeader]
  simp only [Bool.or_eq_true, decide_eq_true_eq, ← not_and_or, ne_eq, ite_not, ← Nat.not_le]

/-! ## The documents -/

variable [Platform]

/-- What is read of a file after its header. -/
def recordsOf (f : Faults) (s : Store) (file : Bytes) : Except LoadError (List Document) :=
  if Bytes.wordAt file 16 = 0 then .ok []
  else match Record.makeRoom .uncountableBytes s.layout (Bytes.wordAt file 16) with
    | .error fault => .error (.records fault)
    | .ok () =>
      match read f 1 (Bytes.wordAt file 16 * Record.size s.layout) (file.drop Header.size) with
      | .error p => .error (.recordRead p)
      | .ok (records, _) => .ok (Record.documents s.layout (Bytes.wordAt file 16) records)

theorem recordsOf_ok (hroom : Bytes.wordAt file 16 ≠ 0 → Record.HasRoom s.layout (Bytes.wordAt file 16))
    (h : Bytes.wordAt file 16 = 0 ∨
      f.gives 1 (Bytes.wordAt file 16 * Record.size s.layout) (file.drop Header.size) = true) :
    recordsOf f s file = .ok (documentsIn s.layout file) := by
  rw [recordsOf]
  by_cases hzero : Bytes.wordAt file 16 = 0
  · rw [if_pos hzero, documentsIn, hzero]
    rfl
  · rw [if_neg hzero, (Record.makeRoom_eq_ok_iff _).mpr (hroom hzero), read_of_gives (h.resolve_left hzero)]
    dsimp only
    rw [Record.documents_take_drop]
    rfl

theorem recordsOf_error (hroom : Bytes.wordAt file 16 ≠ 0 → Record.HasRoom s.layout (Bytes.wordAt file 16))
    (h : ¬(Bytes.wordAt file 16 = 0 ∨
      f.gives 1 (Bytes.wordAt file 16 * Record.size s.layout) (file.drop Header.size) = true)) :
    ∃ p, recordsOf f s file = .error (.recordRead p) := by
  rw [not_or, Bool.not_eq_true] at h
  obtain ⟨hzero, hgives⟩ := h
  obtain ⟨p, hread⟩ := read_of_not_gives hgives
  rw [recordsOf, if_neg hzero, (Record.makeRoom_eq_ok_iff _).mpr (hroom hzero), hread]
  exact ⟨p, rfl⟩

theorem readDocuments_of_gives (h : f.gives 0 Header.size file = true) :
    readDocuments f s file =
      match checkHeader s (Header.ofBytes (file.take Header.size)) with
      | .error e => .error e
      | .ok () => recordsOf f s file := by
  have hcount : (Header.ofBytes (file.take Header.size)).count = Bytes.wordAt file 16 := by
    rw [Header.ofBytes_take]
  unfold readDocuments recordsOf
  rw [read_of_gives h]
  dsimp only [Except.mapError, bind, Except.bind]
  rw [hcount]
  cases checkHeader s (Header.ofBytes (file.take Header.size)) with
  | error e => rfl
  | ok =>
    dsimp only
    split_ifs
    · rfl
    · cases Record.makeRoom .uncountableBytes s.layout (Bytes.wordAt file 16) with
      | error fault => rfl
      | ok =>
        dsimp only
        cases read f 1 (Bytes.wordAt file 16 * Record.size s.layout) (file.drop Header.size) <;> rfl

theorem readDocuments_of_not_gives (h : f.gives 0 Header.size file = false) :
    ∃ p, readDocuments f s file = .error (.headerRead p) := by
  obtain ⟨p, hread⟩ := read_of_not_gives h
  unfold readDocuments
  rw [hread]
  exact ⟨p, rfl⟩

theorem readDocuments_of_overlong {fault : Fault} (h : Overlong f s file fault) :
    readDocuments f s file = .error (.records fault) := by
  rw [readDocuments_of_gives h.header, checkHeader_ofBytes, if_pos h.magic, if_pos h.version, if_pos h.layout,
    if_pos h.count]
  dsimp only
  rw [recordsOf, if_neg h.records, h.room]

theorem readDocuments_demands (hlong : ∀ fault, ¬Overlong f s file fault) :
    match unmet f s file with
    | none => readDocuments f s file = .ok (documentsIn s.layout file)
    | some code => ∃ e, readDocuments f s file = .error e ∧ e.code? = some code ∧
        e.family? = some (familyOf code) := by
  simp only [unmet, demands, firstFailure_cons, List.find?_nil, Option.map_none, decide_eq_true_eq]
  cases hgives : f.gives 0 Header.size file with
  | false =>
    obtain ⟨p, hread⟩ := readDocuments_of_not_gives (s := s) hgives
    exact ⟨_, hread, rfl, rfl⟩
  | true =>
    have hroom : Bytes.wordAt file 0 = Header.magicNumber → Bytes.wordAt file 4 = Header.currentVersion →
        Bytes.wordAt file 8 = s.layout.embedSize ∧ Bytes.wordAt file 12 = s.layout.maxText →
        Bytes.wordAt file 16 ≤ s.capacity → Bytes.wordAt file 16 ≠ 0 →
        Record.HasRoom s.layout (Bytes.wordAt file 16) := by
      intro hmagic hversion hlayout hcount hrecords
      by_contra hnone
      obtain ⟨fault, hfault⟩ := (Record.exists_makeRoom_eq_error_iff .uncountableBytes).mpr hnone
      exact hlong fault ⟨hgives, hmagic, hversion, hlayout, hcount, hrecords, hfault⟩
    rw [if_pos rfl, readDocuments_of_gives hgives, checkHeader_ofBytes]
    split_ifs with hmagic hversion hlayout hcount hrecords
    · exact recordsOf_ok (hroom hmagic hversion hlayout hcount) hrecords
    · obtain ⟨p, hread⟩ := recordsOf_error (hroom hmagic hversion hlayout hcount) hrecords
      exact ⟨_, hread, rfl, rfl⟩
    -- what is wrong with the header is reported as it is
    all_goals exact ⟨_, rfl, rfl, rfl⟩

end Loading

end GroundedDialogue
