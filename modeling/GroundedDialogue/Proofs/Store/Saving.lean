import GroundedDialogue.Proofs.Disk.Temporary
import GroundedDialogue.Proofs.Store.Record
import GroundedDialogue.Store.Save

/-!
# What a save leaves behind

`Store.file?` are the bytes of the file that a store is saved to. After a save that succeeds, plain or
atomic and whatever else the device does, exactly these bytes are read at the path, as long as the
device stores what it has acknowledged (`Store.read_of_save`).
-/

namespace GroundedDialogue

open Disk

namespace Saving

/-! ## Writing a file -/

theorem write_ok {f : Faults} {t t' : Tree} {l : Location} {i : Nat} {bytes : Bytes}
    (h : write f t (some l) i bytes = (.ok (), t')) : t' = t.append l bytes := by
  rw [write] at h
  cases hanswer : f.writeAnswer i with
  | all =>
    rw [hanswer] at h
    dsimp only at h
    rw [List.take_length] at h
    exact (congrArg Prod.snd h).symm
  | took n =>
    rw [hanswer] at h
    dsimp only at h
    by_cases hn : n = bytes.length
    · have htree := congrArg Prod.snd h
      dsimp only at htree
      rw [hn, Int.toNat_natCast, List.take_length] at htree
      exact htree.symm
    · rw [if_neg hn] at h
      cases h
  | failed message =>
    rw [hanswer] at h
    cases h

theorem openFile_ok {f : Faults} (hstores : f.stores = true) {t t' : Tree} {path : Text}
    {place : Option Location} (h : openFile f t path = .ok (place, t')) :
    ∃ l, place = some l ∧ t.create path = .ok (l, t') := by
  rw [openFile] at h
  cases hopening : f.opening with
  | some message =>
    rw [hopening] at h
    cases h
  | none =>
    rw [hopening] at h
    dsimp only at h
    rw [if_pos hstores] at h
    cases hcreate : t.create path with
    | error e =>
      rw [hcreate] at h
      cases h
    | ok made =>
      rw [hcreate] at h
      cases h
      exact ⟨made.1, rfl, rfl⟩

theorem writeFile_ok {f : Faults} (hstores : f.stores = true) {t : Tree} {path : Text}
    {content : Except SaveError (Bytes × Bytes)} (h : (writeFile f t path content).result = .ok ()) :
    ∃ start records l, content = .ok (start, records) ∧ t.find path = .ok l ∧ t.get? l ≠ some .directory ∧
      (writeFile f t path content).tree = t.set l (.file (start ++ records)) := by
  cases content with
  | error e => cases h
  | ok packed =>
    obtain ⟨start, records⟩ := packed
    rw [writeFile] at h ⊢
    dsimp only at h ⊢
    cases hopen : openFile f t path with
    | error e =>
      rw [hopen] at h
      cases e <;> cases h
    | ok opened =>
      obtain ⟨place, t₁⟩ := opened
      obtain ⟨l, rfl, hcreate⟩ := openFile_ok hstores hopen
      obtain ⟨hfind, hl, rfl⟩ := Tree.create_eq_ok.mp hcreate
      have hne := Tree.ne_root_of_get? hl
      rw [hopen] at h
      dsimp only at h ⊢
      cases hstart : write f (t.set l (.file [])) (some l) 0 start with
      | mk result t₂ =>
        rw [hstart] at h
        cases result with
        | error p => cases h
        | ok =>
          obtain rfl := write_ok hstart
          dsimp only at h ⊢
          cases hrecords : write f ((t.set l (.file [])).append l start) (some l) 1 records with
          | mk result t₃ =>
            rw [hrecords] at h
            cases result with
            | error p => cases h
            | ok =>
              obtain rfl := write_ok hrecords
              refine ⟨start, records, l, rfl, hfind, hl, ?_⟩
              dsimp only
              rw [Tree.append_set t hne, Tree.append_set t hne, List.nil_append]

theorem writeFile_none {t t' : Tree} {path : Text} {l : Location} (hcreate : t.create path = .ok (l, t'))
    (packed : Bytes × Bytes) : (writeFile Faults.none t path (.ok packed)).result = .ok () := by
  have hopen : openFile Faults.none t path = .ok (some l, t') := by
    change Except.map _ (t.create path) = _
    rw [hcreate]
    rfl
  rw [writeFile]
  dsimp only
  rw [hopen]
  rfl

/-! ## Writing through a temporary file -/

theorem makeTemporary_ok {f : Faults} {t t' : Tree} {p : Path} {l : Location}
    (h : makeTemporary f t p = .ok (l, t')) : t.createTemporary p = .ok (l, t') := by
  rw [makeTemporary] at h
  cases hmaking : f.makingTemporary with
  | some message =>
    rw [hmaking] at h
    cases h
  | none =>
    rw [hmaking] at h
    exact h

theorem rename_ok {f : Faults} {t t' : Tree} {p : Path} {l : Location} (h : rename f t l p = .ok t') :
    t.rename l p = .ok t' := by
  rw [rename] at h
  cases hreplacing : f.replacing with
  | some message =>
    rw [hreplacing] at h
    cases h
  | none =>
    rw [hreplacing] at h
    exact h

/-- While a file is written, the tree differs from the one before only in what the file holds. -/
def Touches (t : Tree) (l : Location) (t' : Tree) : Prop := ∃ content, t' = t.set l (.file content)

namespace Touches

variable {f : Faults} {t t₁ t₂ : Tree} {l : Location} {path : Text}

theorem write (hl : l ≠ []) (h : Touches t l t₁) {place : Option Location} (hplace : ∀ m ∈ place, m = l)
    (i : Nat) (bytes : Bytes) : Touches t l (Saving.write f t₁ place i bytes).2 := by
  obtain ⟨content, rfl⟩ := h
  rw [Saving.write]
  cases place with
  | none => cases f.writeAnswer i <;> exact ⟨content, rfl⟩
  | some m =>
    obtain rfl := hplace m rfl
    have hstored : ∀ n, Touches t m ((t.set m (.file content)).append m (bytes.take n)) :=
      fun n => ⟨_, Tree.append_set t hl content _⟩
    cases f.writeAnswer i with
    | failed message => exact ⟨content, rfl⟩
    | all => exact hstored _
    | took n => exact hstored _

theorem openFile (h : Touches t l t₁) (hfind : ∀ m, t₁.find path = .ok m → m = l) {place : Option Location}
    (hopen : Saving.openFile f t₁ path = .ok (place, t₂)) : Touches t l t₂ ∧ ∀ m ∈ place, m = l := by
  rw [Saving.openFile] at hopen
  cases hopening : f.opening with
  | some message =>
    rw [hopening] at hopen
    cases hopen
  | none =>
    rw [hopening] at hopen
    dsimp only at hopen
    split_ifs at hopen
    · cases hcreate : t₁.create path with
      | error e =>
        rw [hcreate] at hopen
        cases hopen
      | ok made =>
        rw [hcreate] at hopen
        cases hopen
        obtain ⟨hplace, -, htree⟩ := Tree.create_eq_ok.mp hcreate
        obtain ⟨content, rfl⟩ := h
        rw [htree, hfind _ hplace, Tree.set_set]
        exact ⟨⟨[], rfl⟩, fun m hm => (Option.some.inj hm).symm⟩
    · cases hopen
      exact ⟨h, fun m hm => nomatch hm⟩

theorem writeFile (hl : l ≠ []) (h : Touches t l t₁) (hfind : ∀ m, t₁.find path = .ok m → m = l)
    (content : Except SaveError (Bytes × Bytes)) : Touches t l (Saving.writeFile f t₁ path content).tree := by
  cases content with
  | error e => exact h
  | ok packed =>
    obtain ⟨start, records⟩ := packed
    rw [Saving.writeFile]
    dsimp only
    cases hopen : Saving.openFile f t₁ path with
    | error e => cases e <;> exact h
    | ok opened =>
      obtain ⟨place, t₂⟩ := opened
      obtain ⟨h, hplace⟩ := h.openFile hfind hopen
      have hstart := h.write hl hplace (f := f) 0 start
      dsimp only
      rcases hcall : Saving.write f t₂ place 0 start with ⟨p | _, t₃⟩
      · rw [hcall] at hstart
        exact hstart
      · rw [hcall] at hstart
        have hrecords := write hl hstart hplace (f := f) 1 records
        dsimp only
        rcases hcall : Saving.write f t₃ place 1 records with ⟨p | _, t₄⟩
        · rw [hcall] at hrecords
          exact hrecords
        · rw [hcall] at hrecords
          exact hrecords

end Touches

theorem writeAtomically_error {f : Faults} {t : Tree} {p : Path} (hp : p.Tidy)
    {content : Except SaveError (Bytes × Bytes)} {e : SaveError}
    (h : (writeAtomically f t p content).result = .error e) : (writeAtomically f t p content).tree = t := by
  rw [writeAtomically] at h ⊢
  cases hmake : makeTemporary f t p with
  | error e => cases e <;> rfl
  | ok made =>
    obtain ⟨temporary, t₁⟩ := made
    obtain ⟨-, hne, hfree, rfl, hlocate⟩ := Tree.createTemporary_ok hp (makeTemporary_ok hmake)
    obtain ⟨written, htree⟩ :=
      Touches.writeFile (f := f) hne ⟨[], rfl⟩ (fun _ => Tree.eq_of_find hlocate) content
    have herase : (t.set temporary (.file written)).erase temporary = t := by
      rw [Tree.erase_set, Tree.erase_of_get?_eq_none hfree]
    rw [hmake] at h
    dsimp only at h ⊢
    rw [htree] at h ⊢
    cases hwritten : (writeFile f (t.set temporary (.file [])) (Location.text temporary) content).result with
    | error e => exact herase
    | ok =>
      rw [hwritten] at h
      dsimp only at h ⊢
      cases hrename : rename f (t.set temporary (.file written)) temporary p with
      | error e => exact herase
      | ok t' =>
        rw [hrename] at h
        cases h

/-- What is written through a temporary file without an error takes the place that the path leads to,
and nothing else changes. -/
theorem writeAtomically_ok {f : Faults} (hstores : f.stores = true) {t : Tree} {p : Path} (hp : p.Tidy)
    {content : Except SaveError (Bytes × Bytes)} (h : (writeAtomically f t p content).result = .ok ()) :
    ∃ start records l, content = .ok (start, records) ∧ t.find p.text = .ok l ∧ t.get? l ≠ some .directory ∧
      (writeAtomically f t p content).tree = t.set l (.file (start ++ records)) := by
  rw [writeAtomically] at h ⊢
  cases hmake : makeTemporary f t p with
  | error e =>
    rw [hmake] at h
    cases e <;> cases h
  | ok made =>
    obtain ⟨temporary, t₁⟩ := made
    obtain ⟨hcheck, hne, hfree, rfl, hlocate⟩ := Tree.createTemporary_ok hp (makeTemporary_ok hmake)
    rw [hmake] at h
    dsimp only at h ⊢
    cases hresult : (writeFile f (t.set temporary (.file [])) (Location.text temporary) content).result with
    | error e =>
      rw [hresult] at h
      cases h
    | ok =>
      obtain ⟨start, records, l, hcontent, hfind, hl, htree⟩ := writeFile_ok hstores hresult
      obtain rfl := Tree.eq_of_find hlocate hfind
      rw [hresult] at h
      dsimp only at h ⊢
      rw [htree, Tree.set_set] at h ⊢
      cases hrename : rename f (t.set l (.file (start ++ records))) l p with
      | error e =>
        rw [hrename] at h
        cases h
      | ok t₂ =>
        obtain ⟨target, htarget, hfile, rfl⟩ := Tree.rename_set hp hfree (rename_ok hrename)
        exact ⟨start, records, target, hcontent, Tree.find_eq_ok.mpr ⟨hcheck, htarget⟩, hfile, rfl⟩

end Saving

namespace Store

/-! ## Saving a store -/

variable [Platform] {s : Store} {t : Tree}

theorem pack_eq_ok_iff {start records : Bytes} : s.pack = .ok (start, records) ↔
    (Header.ofLayout s.layout s.length).bytes? = some start ∧ Record.HasRoom s.layout s.length ∧
      records = Record.bytesOf s.layout s.documents := by
  rw [pack, ← Record.makeRoom_eq_ok_iff .vectorTooLarge]
  cases (Header.ofLayout s.layout s.length).bytes? with
  | none => simp [bind, Except.bind]
  | some header =>
    cases Record.makeRoom .vectorTooLarge s.layout s.length with
    | error f => simp [bind, Except.bind, Except.mapError]
    | ok => simp [bind, Except.bind, Except.mapError, pure, Except.pure, eq_comm]

/-- The bytes of the file that a store is saved to, if it can be laid out. -/
def file? (s : Store) : Option Bytes := s.pack.toOption.map fun packed => packed.1 ++ packed.2

theorem file?_of_pack {start records : Bytes} (h : s.pack = .ok (start, records)) :
    s.file? = some (start ++ records) := by
  rw [file?, h]
  rfl

theorem file?_eq_some_iff {file : Bytes} : s.file? = some file ↔
    ∃ start, s.pack = .ok (start, Record.bytesOf s.layout s.documents) ∧
      file = start ++ Record.bytesOf s.layout s.documents := by
  rw [file?]
  cases hpack : s.pack with
  | error e => simp [Except.toOption]
  | ok packed =>
    obtain ⟨start, records⟩ := packed
    obtain ⟨-, -, rfl⟩ := pack_eq_ok_iff.mp hpack
    simp [Except.toOption, eq_comm]

theorem exists_file?_iff (he : s.layout.embedSize < 2 ^ 32) (hm : s.layout.maxText < 2 ^ 32)
    (hcount : s.length < 2 ^ 32) : (∃ file, s.file? = some file) ↔ Record.HasRoom s.layout s.length := by
  obtain ⟨start, hstart⟩ := Option.isSome_iff_exists.mp (Header.bytes?_ofLayout he hm hcount)
  simp only [file?_eq_some_iff]
  constructor
  · rintro ⟨file, start', hpack, -⟩
    exact (pack_eq_ok_iff.mp hpack).2.1
  · intro hroom
    exact ⟨_, start, pack_eq_ok_iff.mpr ⟨hstart, hroom, rfl⟩, rfl⟩

theorem exists_file?_of_save {f : Faults} {p : Path} {atomic : Bool} (h : (s.save t f p atomic).result = .ok ()) :
    ∃ file, s.file? = some file := by
  cases hpack : s.pack with
  | ok packed => exact ⟨_, file?_of_pack hpack⟩
  | error e =>
    rw [save, hpack] at h
    cases atomic with
    | false => cases h
    | true =>
      rw [if_pos rfl, Saving.writeAtomically] at h
      cases hmake : Saving.makeTemporary f t p with
      | error access =>
        rw [hmake] at h
        cases access <;> cases h
      | ok made =>
        rw [hmake] at h
        cases h

theorem read_of_save {f : Faults} {p : Path} {atomic : Bool} (hstores : f.stores = true) (hp : p.Tidy)
    (h : (s.save t f p atomic).result = .ok ()) :
    ∃ file, s.file? = some file ∧ (s.save t f p atomic).tree.read p.text = .ok file := by
  cases atomic with
  | false =>
    change (Saving.writeFile f t p.text _).result = .ok () at h
    obtain ⟨start, records, l, hpack, hfind, hl, htree⟩ := Saving.writeFile_ok hstores h
    refine ⟨start ++ records, file?_of_pack hpack, ?_⟩
    change (Saving.writeFile f t p.text _).tree.read p.text = _
    rw [htree]
    exact Tree.read_set hfind hl _
  | true =>
    obtain ⟨start, records, l, hpack, hfind, hl, htree⟩ := Saving.writeAtomically_ok hstores hp h
    refine ⟨start ++ records, file?_of_pack hpack, ?_⟩
    change (Saving.writeAtomically f t p _).tree.read p.text = _
    rw [htree]
    exact Tree.read_set hfind hl _

end Store

end GroundedDialogue
