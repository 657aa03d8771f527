import GroundedDialogue.Proofs.Disk.Tree
import GroundedDialogue.Proofs.Store.Loading

/-!
# Loads that fail

Whatever fails while a file is opened, read and checked is reported under the code of the first thing that
fails (`Loading.refusal`), as one of the store's own errors. What is not reported so is listed by
`Store.Escapes`: a path that cannot be handed to the system, a file for whose records no room is made, and a
file that was read and cannot be closed. The last one takes the place of whatever else came of the load. In no
case are the documents touched (`Store.load_reports`).
-/

namespace GroundedDialogue

open Disk

namespace Loading

/-- The code of the first thing that fails before the file is closed. -/
def refusal (f : Faults) (s : Store) (t : Tree) (path : Text) : Option ErrorCode :=
  match openFile f t path with
  | .error _ => some .opening
  | .ok file => unmet f s file

end Loading

namespace Store

variable [Platform]

/-- The errors of a load that are not the store's own, with what they come from. -/
inductive Escapes (s : Store) (t : Tree) (f : Faults) (path : Text) : LoadError → Prop
  | path {e : InvalidPath} (hopening : f.opening = none) (hdevice : f.device = none)
    (h : Tree.checkPath path = .error e) : Escapes s t f path (.invalidPath e)
  /-- The file cannot be closed, and it does not matter what was read of it. -/
  | close {file : Bytes} {message : Text} (hopen : Loading.openFile f t path = .ok file)
    (h : f.leaving = some message) : Escapes s t f path (.closing (.reported message))
  | records {file : Bytes} {fault : Fault} (hopen : Loading.openFile f t path = .ok file)
    (hleaving : f.leaving = none) (h : Loading.Overlong f s file fault) : Escapes s t f path (.records fault)

variable {s : Store} {t : Tree} {f : Faults} {path : Text}

omit [Platform] in
theorem openFile_eq_invalid_iff {e : InvalidPath} : Loading.openFile f t path = .error (.invalid e) ↔
    f.opening = none ∧ f.device = none ∧ Tree.checkPath path = .error e := by
  rw [Loading.openFile]
  cases f.opening with
  | some message => simp
  | none =>
    cases f.device with
    | some device => simp
    | none => simpa using Tree.read_eq_invalid_iff

/-! ## What a load reports -/

theorem Escapes.code? {e : LoadError} (h : s.Escapes t f path e) : e.code? = none := by
  cases h <;> rfl

theorem documentsOf_of_escapes {e : LoadError} (h : s.Escapes t f path e) : s.documentsOf t f path = .error e := by
  rw [documentsOf]
  cases h with
  | path hopening hdevice h => rw [openFile_eq_invalid_iff.mpr ⟨hopening, hdevice, h⟩]
  | close hopen h =>
    rw [hopen]
    dsimp only
    rw [h]
  | records hopen hleaving h =>
    rw [hopen]
    dsimp only
    rw [hleaving]
    exact Loading.readDocuments_of_overlong h

theorem documentsOf_of_not_escapes (h : ∀ e, ¬s.Escapes t f path e) :
    match Loading.refusal f s t path with
    | none => ∃ file, Loading.openFile f t path = .ok file ∧
        s.documentsOf t f path = .ok (Loading.documentsIn s.layout file)
    | some code => ∃ e, s.documentsOf t f path = .error e ∧ e.code? = some code ∧ e.family?.isSome = true := by
  rw [documentsOf, Loading.refusal]
  cases hopen : Loading.openFile f t path with
  | error access =>
    cases access with
    | invalid e =>
      obtain ⟨hopening, hdevice, hpath⟩ := openFile_eq_invalid_iff.mp hopen
      exact absurd (.path hopening hdevice hpath) (h _)
    | system e => exact ⟨_, rfl, rfl, rfl⟩
  | ok file =>
    dsimp only
    cases hleaving : f.leaving with
    | some message => exact absurd (.close hopen hleaving) (h _)
    | none =>
      have hlong : ∀ fault, ¬Loading.Overlong f s file fault := fun fault hlong =>
        h _ (.records hopen hleaving hlong)
      have hdemands := Loading.readDocuments_demands hlong
      cases hunmet : Loading.unmet f s file with
      | none =>
        rw [hunmet] at hdemands
        exact ⟨file, rfl, hdemands⟩
      | some code =>
        rw [hunmet] at hdemands
        obtain ⟨e, he, hcode, hfamily⟩ := hdemands
        exact ⟨e, he, hcode, by rw [hfamily]; rfl⟩

theorem escapes_iff {e : LoadError} :
    (s.documentsOf t f path = .error e ∧ e.code? = none) ↔ s.Escapes t f path e := by
  refine ⟨fun ⟨he, hcode⟩ => ?_, fun h => ⟨documentsOf_of_escapes h, h.code?⟩⟩
  by_cases hescapes : ∃ e', s.Escapes t f path e'
  · obtain ⟨e', h⟩ := hescapes
    rw [documentsOf_of_escapes h] at he
    cases he
    exact h
  · have hreports := documentsOf_of_not_escapes fun e' h => hescapes ⟨e', h⟩
    exfalso
    cases hrefusal : Loading.refusal f s t path with
    | none =>
      rw [hrefusal] at hreports
      obtain ⟨file, -, hok⟩ := hreports
      rw [hok] at he
      cases he
    | some code =>
      rw [hrefusal] at hreports
      obtain ⟨e', he', hcode', -⟩ := hreports
      rw [he'] at he
      cases he
      rw [hcode] at hcode'
      cases hcode'

/-- What comes of a load. -/
structure Reports (s : Store) (t : Tree) (f : Faults) (path : Text) : Prop where
  /-- A load that fails changes nothing. -/
  unchanged : ∀ e, (s.load t f path).result = .error e → (s.load t f path).store = s
  /-- These errors alone are not the store's own. -/
  escapes : ∀ e, (s.load t f path).result = .error e ∧ e.code? = none ↔ s.Escapes t f path e
  /-- Apart from them, the first thing that fails is reported, and nothing else keeps a file from being
  loaded. -/
  reported : (∀ e, ¬s.Escapes t f path e) →
    match Loading.refusal f s t path with
    | none => ∃ file, Loading.openFile f t path = .ok file ∧ (s.load t f path).result = .ok () ∧
        (s.load t f path).store = { s with documents := Loading.documentsIn s.layout file }
    | some code => ∃ e, (s.load t f path).result = .error e ∧ e.code? = some code ∧ e.family?.isSome = true

theorem result_load_eq_error_iff {e : LoadError} :
    (s.load t f path).result = .error e ↔ s.documentsOf t f path = .error e := by
  rw [load]
  cases s.documentsOf t f path <;> simp

theorem load_reports (s : Store) (t : Tree) (f : Faults) (path : Text) : s.Reports t f path where
  unchanged := by
    intro e he
    rw [result_load_eq_error_iff] at he
    rw [load, he]
  escapes := by
    intro e
    rw [result_load_eq_error_iff]
    exact escapes_iff
  reported := by
    intro h
    have hreports := documentsOf_of_not_escapes h
    cases hrefusal : Loading.refusal f s t path with
    | none =>
      rw [hrefusal] at hreports
      obtain ⟨file, hopen, hok⟩ := hreports
      rw [load, hok]
      exact ⟨file, hopen, rfl, rfl⟩
    | some code =>
      rw [hrefusal] at hreports
      obtain ⟨e, he, hcode, hfamily⟩ := hreports
      exact ⟨e, result_load_eq_error_iff.mpr he, hcode, hfamily⟩

end Store

end GroundedDialogue
