import GroundedDialogue.Platform.Reference
import GroundedDialogue.Proofs.Disk.Replacing
import GroundedDialogue.Proofs.Store.AtomicSave
import GroundedDialogue.Proofs.Store.Runs

/-!
# The first step of a save that fails

Which step of a save fails is known from the directory tree and the faults alone: `Store.fails` asks for
each step whether it would, wherever the others stand, and `Store.firstFailing` is the first such step in
the order in which a save takes them. The save succeeds exactly if there is none, and otherwise reports the
code of that step, whatever goes wrong in the steps after it (`Store.save_reports_first`). What it does
after the failure is to close the file, if it was opened, and to take the temporary file away, if there is
one.
-/

namespace GroundedDialogue

open Disk

/-- Whether the device says that it has taken all of so many bytes. -/
def Disk.WriteAnswer.acknowledges (size : Nat) : WriteAnswer → Bool
  | all => true
  | took n => n = size
  | failed _ => false

namespace SaveStep

/-- The code that the failure of a step is reported under. Whether the temporary file could be taken away
is not reported. -/
def code? : SaveStep → Option ErrorCode
  | makeTemporary | openFile => some .opening
  | writeHeader => some .headerWrite
  | writeRecords => some .recordWrite
  | close | rename => some .closing
  | pack | removeTemporary => none

def writing : List SaveStep := [pack, openFile, writeHeader, writeRecords, close]

/-- The steps of a save that nothing goes wrong with. -/
def plan (atomic : Bool) : List SaveStep := if atomic then makeTemporary :: (writing ++ [rename]) else writing

/-- What is done after a step has failed: a file that was being written is closed, and a temporary file is
taken away. -/
def cleanUp (atomic : Bool) (failed : SaveStep) : List SaveStep :=
  (if failed = writeHeader ∨ failed = writeRecords then [close] else [])
    ++ (if atomic ∧ failed ≠ makeTemporary then [removeTemporary] else [])

/-- The steps that are taken when this is the first one to fail. -/
def taken (atomic : Bool) : Option SaveStep → List SaveStep
  | none => plan atomic
  | some failed => (plan atomic).takeWhile (· ≠ failed) ++ failed :: cleanUp atomic failed

theorem code?_eq_none_iff {atomic : Bool} {step : SaveStep} (h : step ∈ plan atomic) :
    step.code? = none ↔ step = pack := by
  revert h
  cases atomic <;> cases step <;> decide

theorem taken_of_mem_writing {step : SaveStep} (h : step ∈ writing) :
    makeTemporary :: taken false (some step) ++ [removeTemporary] = taken true (some step) := by
  revert h
  cases step <;> decide

theorem count_close_taken {atomic : Bool} {failing : Option SaveStep} (h : ∀ step ∈ failing, step ∈ plan atomic) :
    (taken atomic failing).count close =
      if failing = some makeTemporary ∨ failing = some pack ∨ failing = some openFile then 0 else 1 := by
  cases failing with
  | none => cases atomic <;> decide
  | some step =>
    have hstep := h step rfl
    revert hstep
    cases atomic <;> cases step <;> decide

end SaveStep

namespace Saving

/-- What a save leaves behind tells which step was the first to fail. A path that cannot be handed to the
system is refused with an error that is not the store's own. -/
structure Reports (w : Saving) (path : Text) (atomic : Bool) (failing : Option SaveStep) : Prop where
  result : match failing with
    | none => w.result = .ok ()
    | some step => ∃ e, w.result = .error e ∧ (Tree.checkPath path = .ok () → e.code? = step.code?)
  steps : w.steps = SaveStep.taken atomic failing

namespace Reports

variable {w : Saving} {path : Text} {atomic : Bool} {failing : Option SaveStep}

theorem result_eq_ok (h : w.Reports path atomic failing) : w.result = .ok () ↔ failing = none := by
  have hresult := h.result
  cases failing with
  | none => exact iff_of_true hresult rfl
  | some step =>
    obtain ⟨e, he, -⟩ := hresult
    rw [he]
    exact iff_of_false (fun h => nomatch h) (fun h => nomatch h)

theorem error (h : w.Reports path atomic failing) {step : SaveStep} (hstep : failing = some step) :
    ∃ e, w.result = .error e ∧ (Tree.checkPath path = .ok () → e.code? = step.code?) := by
  subst hstep
  exact h.result

end Reports

/-! ## Writing a file -/

theorem write_error_iff (f : Faults) (t : Tree) (place : Option Location) (i : Nat) (bytes : Bytes) :
    (∃ p, (write f t place i bytes).1 = .error p) ↔ (!(f.writeAnswer i).acknowledges bytes.length) = true := by
  rw [write]
  cases f.writeAnswer i with
  | all => simp [WriteAnswer.acknowledges]
  | failed message => simp [WriteAnswer.acknowledges]
  | took n =>
    by_cases hn : n = bytes.length
    · simp [WriteAnswer.acknowledges, hn]
    · simp [WriteAnswer.acknowledges, hn]

theorem openFile_error_iff (f : Faults) (t : Tree) (path : Text) :
    (∃ e, openFile f t path = .error e) ↔ (f.opening.isSome || f.stores && !(t.create path).isOk) = true := by
  rw [openFile]
  cases f.opening with
  | some message => simp
  | none =>
    cases f.stores with
    | false => simp
    | true => cases t.create path <;> simp [Except.map, Except.isOk, Except.toBool]

theorem checkPath_of_openFile {f : Faults} {t : Tree} {path : Text} {e : InvalidPath}
    (h : openFile f t path = .error (.invalid e)) : Tree.checkPath path ≠ .ok () := by
  intro hcheck
  rw [openFile] at h
  cases hopening : f.opening with
  | some message =>
    rw [hopening] at h
    cases h
  | none =>
    rw [hopening] at h
    dsimp only at h
    split_ifs at h
    cases hcreate : t.create path with
    | ok made =>
      rw [hcreate] at h
      cases h
    | error access =>
      rw [hcreate] at h
      cases h
      rw [Tree.create_eq_invalid_iff.mp hcreate] at hcheck
      cases hcheck

theorem fine_of_ok {ε α : Type} {a : α} {fails : Bool} (h : (∃ e : ε, Except.ok a = .error e) ↔ fails = true) :
    ¬fails = true := by
  intro hfails
  obtain ⟨e, he⟩ := h.mpr hfails
  cases he

/-- It is known of each step of writing a content whether it fails. A content that cannot be laid out has no
code for it. -/
structure Foretells (fails : SaveStep → Bool) (f : Faults) (content : Except SaveError (Bytes × Bytes)) : Prop where
  pack : fails .pack = !content.isOk
  uncoded : ∀ e, content = .error e → e.code? = none
  header : ∀ packed, content = .ok packed → fails .writeHeader = !(f.writeAnswer 0).acknowledges packed.1.length
  records : ∀ packed, content = .ok packed → fails .writeRecords = !(f.writeAnswer 1).acknowledges packed.2.length
  close : fails .close = f.closing.isSome

theorem writeFile_reports {f : Faults} {t : Tree} {path : Text} {content : Except SaveError (Bytes × Bytes)}
    {fails : SaveStep → Bool} (hfails : Foretells fails f content)
    (hopen : (∃ e, openFile f t path = .error e) ↔ fails .openFile = true) :
    (writeFile f t path content).Reports path false (SaveStep.writing.find? fails) := by
  have hpack := hfails.pack
  cases content with
  | error e =>
    rw [writeFile, SaveStep.writing, List.find?_cons_of_pos hpack]
    exact ⟨⟨e, rfl, fun _ => hfails.uncoded e rfl⟩, rfl⟩
  | ok packed =>
    obtain ⟨start, records⟩ := packed
    rw [writeFile, SaveStep.writing, List.find?_cons_of_neg (Bool.eq_false_iff.mp hpack)]
    dsimp only
    cases hopened : openFile f t path with
    | error e =>
      rw [List.find?_cons_of_pos (hopen.mp ⟨e, hopened⟩)]
      cases e with
      | invalid e => exact ⟨⟨_, rfl, fun hcheck => absurd hcheck (checkPath_of_openFile hopened)⟩, rfl⟩
      | system e => exact ⟨⟨_, rfl, fun _ => rfl⟩, rfl⟩
    | ok opened =>
      obtain ⟨place, t₁⟩ := opened
      rw [hopened] at hopen
      rw [List.find?_cons_of_neg (fine_of_ok hopen)]
      dsimp only
      have hstart := write_error_iff f t₁ place 0 start
      rw [← hfails.header (start, records) rfl] at hstart
      rcases hcall : write f t₁ place 0 start with ⟨p | ⟨⟩, t₂⟩
      · rw [hcall] at hstart
        rw [List.find?_cons_of_pos (hstart.mp ⟨p, rfl⟩)]
        exact ⟨⟨_, rfl, fun _ => rfl⟩, rfl⟩
      · rw [hcall] at hstart
        rw [List.find?_cons_of_neg (fine_of_ok hstart)]
        dsimp only
        have hrest := write_error_iff f t₂ place 1 records
        rw [← hfails.records (start, records) rfl] at hrest
        rcases hcall : write f t₂ place 1 records with ⟨p | ⟨⟩, t₃⟩
        · rw [hcall] at hrest
          rw [List.find?_cons_of_pos (hrest.mp ⟨p, rfl⟩)]
          exact ⟨⟨_, rfl, fun _ => rfl⟩, rfl⟩
        · rw [hcall] at hrest
          rw [List.find?_cons_of_neg (fine_of_ok hrest), List.find?_cons, hfails.close]
          cases f.closing with
          | none => exact ⟨rfl, rfl⟩
          | some message => exact ⟨⟨_, rfl, fun _ => rfl⟩, rfl⟩

/-! ## Writing through a temporary file -/

theorem makeTemporary_error_iff (f : Faults) (t : Tree) (p : Path) : (∃ e, makeTemporary f t p = .error e) ↔
    (f.makingTemporary.isSome || !(t.createTemporary p).isOk) = true := by
  rw [makeTemporary]
  cases f.makingTemporary with
  | some message => simp
  | none => cases t.createTemporary p <;> simp [Except.isOk, Except.toBool]

theorem checkPath_of_makeTemporary {f : Faults} {t : Tree} {p : Path} {e : InvalidPath}
    (h : makeTemporary f t p = .error (.invalid e)) : Tree.checkPath p.text ≠ .ok () := by
  intro hcheck
  rw [makeTemporary] at h
  cases hmaking : f.makingTemporary with
  | some message =>
    rw [hmaking] at h
    cases h
  | none =>
    rw [hmaking] at h
    dsimp only at h
    rw [Tree.createTemporary, hcheck] at h
    simp only [Except.mapError, bind, Except.bind] at h
    split at h <;> cases h

theorem rename_error_iff {f : Faults} {t : Tree} {temporary : Location} (hfree : t.get? temporary = none)
    (content : Bytes) (p : Path) : (∃ e, rename f (t.set temporary (.file content)) temporary p = .error e) ↔
      (f.replacing.isSome || !t.replaceable p) = true := by
  rw [rename]
  cases f.replacing with
  | some message => simp
  | none =>
    have hrename := Tree.rename_set_iff hfree content p
    cases hresult : (t.set temporary (.file content)).rename temporary p with
    | error e =>
      rw [hresult] at hrename
      have hnot : t.replaceable p = false := by
        rw [← Bool.not_eq_true, ← hrename]
        rintro ⟨t', h⟩
        cases h
      simp [hnot]
    | ok t' =>
      rw [hresult] at hrename
      have hreplaceable : t.replaceable p = true := hrename.mp ⟨t', rfl⟩
      simp [hreplaceable]

theorem writeAtomically_reports {f : Faults} {t : Tree} {p : Path} (hp : p.Tidy)
    {content : Except SaveError (Bytes × Bytes)} {fails : SaveStep → Bool} (hfails : Foretells fails f content)
    (hmake : (∃ e, makeTemporary f t p = .error e) ↔ fails .makeTemporary = true)
    (hopen : fails .openFile = f.opening.isSome)
    (hrename : fails .rename = (f.replacing.isSome || !t.replaceable p)) :
    (writeAtomically f t p content).Reports p.text true ((SaveStep.plan true).find? fails) := by
  rw [writeAtomically, SaveStep.plan, if_pos rfl]
  cases hmade : makeTemporary f t p with
  | error e =>
    rw [List.find?_cons_of_pos (hmake.mp ⟨e, hmade⟩)]
    cases e with
    | invalid e => exact ⟨⟨_, rfl, fun hcheck => absurd hcheck (checkPath_of_makeTemporary hmade)⟩, rfl⟩
    | system e => exact ⟨⟨_, rfl, fun _ => rfl⟩, rfl⟩
  | ok made =>
    obtain ⟨temporary, t₁⟩ := made
    have hcreated := makeTemporary_ok hmade
    have hcreate := Tree.create_temporary hp hcreated
    obtain ⟨hcheck, hne, hfree, rfl, hlocate⟩ := Tree.createTemporary_ok hp hcreated
    rw [hmade] at hmake
    rw [List.find?_cons_of_neg (fine_of_ok hmake), List.find?_append]
    -- the temporary file was just made, so opening it fails only by a fault
    have hopen' : (∃ e, openFile f (t.set temporary (.file [])) (Location.text temporary) = .error e) ↔
        fails .openFile = true := by
      rw [openFile_error_iff, hcreate, hopen]
      simp [Except.isOk, Except.toBool]
    have hinner := writeFile_reports hfails hopen'
    have hvalid := (Tree.find_eq_ok.mp (Tree.create_eq_ok.mp hcreate).1).1
    obtain ⟨written, htree⟩ :=
      Touches.writeFile (f := f) hne ⟨[], rfl⟩ (fun _ => Tree.eq_of_find hlocate) content
    have hreplace := rename_error_iff (f := f) hfree written p
    rw [← hrename, ← htree] at hreplace
    dsimp only
    generalize writeFile f (t.set temporary (.file [])) (Location.text temporary) content = w at *
    obtain ⟨hresult, hsteps⟩ := hinner
    cases hwriting : SaveStep.writing.find? fails with
    | some step =>
      rw [hwriting] at hresult hsteps
      obtain ⟨e, he, hcode⟩ := hresult
      rw [he, hsteps, Option.some_or]
      have htaken := SaveStep.taken_of_mem_writing (List.mem_of_find?_eq_some hwriting)
      exact ⟨⟨e, rfl, fun _ => hcode hvalid⟩, htaken⟩
    | none =>
      rw [hwriting] at hresult hsteps
      rw [hresult, hsteps, Option.none_or]
      dsimp only
      cases hmoved : rename f w.tree temporary p with
      | error e =>
        rw [List.find?_cons_of_pos (hreplace.mp ⟨e, hmoved⟩)]
        exact ⟨⟨_, rfl, fun _ => rfl⟩, rfl⟩
      | ok t' =>
        rw [hmoved] at hreplace
        rw [List.find?_cons_of_neg (fine_of_ok hreplace)]
        exact ⟨rfl, rfl⟩

end Saving

namespace Store

section

variable [Platform]

/-- Whether a step of a save fails if it is reached. -/
def fails (s : Store) (t : Tree) (f : Faults) (p : Path) (atomic : Bool) : SaveStep → Bool
  | .makeTemporary => f.makingTemporary.isSome || !(t.createTemporary p).isOk
  | .pack => !s.pack.isOk
  -- a temporary file that was made can be opened
  | .openFile => f.opening.isSome || !atomic && f.stores && !(t.create p.text).isOk
  | .writeHeader => !(f.writeAnswer 0).acknowledges Header.size
  | .writeRecords => !(f.writeAnswer 1).acknowledges (Record.bytesOf s.layout s.documents).length
  | .close => f.closing.isSome
  | .rename => f.replacing.isSome || !t.replaceable p
  | .removeTemporary => false

/-- The first step of a save that fails, if any does. -/
def firstFailing (s : Store) (t : Tree) (f : Faults) (p : Path) (atomic : Bool) : Option SaveStep :=
  (SaveStep.plan atomic).find? (s.fails t f p atomic)

theorem code?_of_pack {s : Store} {e : SaveError} (h : s.pack = .error e) : e.code? = none := by
  rw [pack] at h
  cases hheader : (Header.ofLayout s.layout s.length).bytes? with
  | none =>
    rw [hheader] at h
    cases h
    rfl
  | some start =>
    rw [hheader] at h
    cases hroom : Record.makeRoom .vectorTooLarge s.layout s.length with
    | error f =>
      rw [hroom] at h
      cases h
      rfl
    | ok =>
      rw [hroom] at h
      cases h

theorem fails_pack_iff {s : Store} (he : s.layout.embedSize < 2 ^ 32) (hm : s.layout.maxText < 2 ^ 32)
    (hcount : s.length < 2 ^ 32) (t : Tree) (f : Faults) (p : Path) (atomic : Bool) :
    s.fails t f p atomic .pack = true ↔ ¬Record.HasRoom s.layout s.length := by
  rw [← exists_file?_iff he hm hcount, fails, file?]
  cases s.pack <;> simp [Except.isOk, Except.toBool, Except.toOption]

theorem foretells_fails (s : Store) (t : Tree) (f : Faults) (p : Path) (atomic : Bool) :
    Saving.Foretells (s.fails t f p atomic) f s.pack where
  pack := rfl
  uncoded := fun e he => code?_of_pack he
  header := by
    rintro ⟨start, records⟩ hpack
    rw [fails, Header.length_of_bytes? (pack_eq_ok_iff.mp hpack).1]
  records := by
    rintro ⟨start, records⟩ hpack
    rw [fails, (pack_eq_ok_iff.mp hpack).2.2]
  close := rfl

theorem save_reports (s : Store) (t : Tree) (f : Faults) {p : Path} (hp : p.Tidy) (atomic : Bool) :
    (s.save t f p atomic).Reports p.text atomic (s.firstFailing t f p atomic) := by
  have hfails := s.foretells_fails t f p atomic
  rw [save]
  cases atomic with
  | false =>
    apply Saving.writeFile_reports hfails
    rw [Saving.openFile_error_iff, fails, Bool.not_false, Bool.true_and]
  | true =>
    apply Saving.writeAtomically_reports hp hfails
    · rw [Saving.makeTemporary_error_iff, fails]
    · rw [fails, Bool.not_true, Bool.false_and, Bool.false_and, Bool.or_false]
    · rfl

/-! ## Without faults -/

theorem save_none {s : Store} {file : Bytes} (hfile : s.file? = some file) {t : Tree} {p : Path} (hp : p.Tidy) :
    ((∃ made, t.create p.text = .ok made) → (s.save t Faults.none p false).result = .ok ()) ∧
      ((∃ made, t.createTemporary p = .ok made) → t.replaceable p = true →
        (s.save t Faults.none p true).result = .ok ()) := by
  obtain ⟨start, hpack, -⟩ := file?_eq_some_iff.mp hfile
  constructor
  · rintro ⟨made, hmade⟩
    apply (s.save_reports t Faults.none hp false).result_eq_ok.mpr
    simp [firstFailing, SaveStep.plan, SaveStep.writing, fails, hpack, hmade, Except.isOk, Except.toBool,
      Faults.none, Faults.writeAnswer, Faults.closing, WriteAnswer.acknowledges]
  · rintro ⟨made, hmade⟩ hreplaceable
    apply (s.save_reports t Faults.none hp true).result_eq_ok.mpr
    simp [firstFailing, SaveStep.plan, SaveStep.writing, fails, hpack, hmade, hreplaceable, Except.isOk,
      Except.toBool, Faults.none, Faults.writeAnswer, Faults.closing, WriteAnswer.acknowledges]

/-- The bytes that a save of a store leaves at its path. Any save that succeeds leaves them there; and if
nothing fails, a plain save succeeds where the file can be made, and an atomic one where the temporary file
can be made and put into its place. -/
structure Leaves (s : Store) (file : Bytes) : Prop where
  read : ∀ (t : Tree) (f : Faults) (path : Text) (atomic : Bool), f.stores = true →
    (s.save t f (Path.ofText path) atomic).result = .ok () →
    (s.save t f (Path.ofText path) atomic).tree.read (Path.ofText path).text = .ok file
  plain : ∀ (t t' : Tree) (path : Text) (l : Location), t.create (Path.ofText path).text = .ok (l, t') →
    (s.save t Faults.none (Path.ofText path) false).result = .ok ()
  atomic : ∀ (t t' : Tree) (path : Text) (l : Location), t.createTemporary (Path.ofText path) = .ok (l, t') →
    t.replaceable (Path.ofText path) = true → (s.save t Faults.none (Path.ofText path) true).result = .ok ()

theorem leaves_file {s : Store} {file : Bytes} (hfile : s.file? = some file) : s.Leaves file where
  read := by
    intro t f path atomic hstores hsave
    obtain ⟨file', hfile', hread⟩ := read_of_save hstores (Path.tidy_ofText path) hsave
    rw [hfile] at hfile'
    rw [hread, Option.some.inj hfile']
  plain := by
    intro t t' path l hcreate
    exact (save_none hfile (Path.tidy_ofText path)).1 ⟨_, hcreate⟩
  atomic := by
    intro t t' path l hcreate hreplaceable
    exact (save_none hfile (Path.tidy_ofText path)).2 ⟨_, hcreate⟩ hreplaceable

/-! ## The first failure -/

/-- **A save reports the first step that fails.** It succeeds exactly if no step on its way fails, and
otherwise it ends with the code of the first that does, whatever fails after it. Only a store that cannot be
laid out, because there is no room for its records, is refused without a code. A file that was opened is
closed exactly once, a temporary one that was made is taken away or renamed, and the documents stay as they
are. -/
theorem save_reports_first (s : Store) (hembed : s.layout.embedSize < 2 ^ 32) (hmax : s.layout.maxText < 2 ^ 32)
    (hcount : s.length < 2 ^ 32) (t : Tree) (f : Faults) (path : Text) (atomic : Bool) :
    let p := Path.ofText path
    let failing := s.firstFailing t f p atomic
    ((s.save t f p atomic).result = .ok () ↔ failing = none) ∧
      (∀ step, failing = some step → (step.code? = none ↔ step = .pack) ∧
        ∃ e, (s.save t f p atomic).result = .error e ∧ (Tree.checkPath p.text = .ok () → e.code? = step.code?)) ∧
      (s.fails t f p atomic .pack = true ↔ ¬Record.HasRoom s.layout s.length) ∧
      (s.save t f p atomic).steps = SaveStep.taken atomic failing ∧
      (s.save t f p atomic).steps.count .close
        = (if failing = some .makeTemporary ∨ failing = some .pack ∨ failing = some .openFile then 0 else 1) ∧
      ∀ (E : Type) [EmbeddingProvider E] (embedder : Option E) (loaded : Nat),
        (Holder.perform ⟨s, embedder, t, loaded⟩ (.save f p atomic)).2.store = s := by
  intro p failing
  have hreports : (s.save t f p atomic).Reports p.text atomic failing :=
    save_reports s t f (Path.tidy_ofText path) atomic
  have hplan : ∀ step ∈ failing, step ∈ SaveStep.plan atomic := fun step hstep =>
    List.mem_of_find?_eq_some hstep
  refine ⟨hreports.result_eq_ok, ?_, fails_pack_iff hembed hmax hcount t f p atomic, hreports.steps, ?_,
    fun E _ embedder loaded => rfl⟩
  · intro step hstep
    exact ⟨SaveStep.code?_eq_none_iff (hplan step hstep), hreports.error hstep⟩
  · rw [hreports.steps]
    exact SaveStep.count_close_taken hplan

end

/-- Faults of a device that takes too few bytes of the header and cannot be closed, on a path where a file
could not be renamed either. -/
def manyFaults : Faults :=
  ⟨none, none, some "no rename", some ⟨[.took 19], [], some "no space", [], true⟩, none⟩

theorem save_reports_first_crowded :
    single.firstFailing crowded manyFaults (Path.ofText "a.vdb") true = some .writeHeader ∧
      (∃ e, (single.save crowded manyFaults (Path.ofText "a.vdb") true).result = .error e ∧
        e.code? = some .headerWrite) ∧
      (single.save crowded manyFaults (Path.ofText "a.vdb") true).steps
        = [.makeTemporary, .pack, .openFile, .writeHeader, .close, .removeTemporary] := by
  have hfailing : single.firstFailing crowded manyFaults (Path.ofText "a.vdb") true = some .writeHeader := by
    decide +kernel
  obtain ⟨-, herror, -, hsteps, -⟩ := save_reports_first single (by decide) (by decide) (by decide) crowded
    manyFaults "a.vdb" true
  obtain ⟨-, e, he, hcode⟩ := herror _ hfailing
  rw [hfailing] at hsteps
  exact ⟨hfailing, ⟨e, he, hcode (by decide)⟩, hsteps⟩

/-- An empty store whose vectors have too many components for a record. -/
def unrecordable : Store := ⟨1, ⟨2 ^ 31, 4, Nat.two_pow_pos 31, Nat.two_pow_pos 2⟩, []⟩

/-- Nothing fails of what is done with the file, and the store is not saved. -/
theorem save_unrecordable :
    (∀ step ∈ SaveStep.plan false, step ≠ .pack →
        unrecordable.fails Tree.empty Faults.none (Path.ofText "a.vdb") false step = false) ∧
      (unrecordable.save Tree.empty Faults.none (Path.ofText "a.vdb") false).result
        = .error (.records .recordDimension) ∧
      (SaveError.records .recordDimension).code? = none := by
  decide +kernel

end Store

end GroundedDialogue
