import GroundedDialogue.Dialogue.Session
import GroundedDialogue.Platform.Reference
import GroundedDialogue.Proofs.Store.LoadFailures

/-!
# Loading the stores of a session

The stores are loaded one after another, each from a file with faults of its own. A character whose store is
refused goes without one, and the next is taken up; only an error that is not the store's own ends it
(`Session.loadStoreUnder_eq_ok_iff`). So a session is complete as long as every file that is opened can be
closed, every path can be handed to the system and there is room for the records of every file
(`Session.reload_under_faults`).
-/

namespace GroundedDialogue

open Disk

namespace Dialogue

namespace Session

section

variable [Platform] {G E : Type} {t : Tree} {sizes : StoreSizes} {base : Option Path} {profile : Profile} {f : Faults}

/-! ## The store of a character -/

/-- The store of a character, under the faults of the access to its file. -/
def storeUnder (f : Faults) (t : Tree) (sizes : StoreSizes) (base : Option Path) (profile : Profile) : Option Store :=
  match (loadStoreUnder f t sizes base profile).1 with
  | .ok store => store
  | .error _ => none

theorem loadStoreUnder_eq_ok_iff : (∃ store, (loadStoreUnder f t sizes base profile).1 = .ok store) ↔
    ∃ s, Store.create sizes.capacity sizes.embedSize Store.defaultMaxText = .ok s ∧
      ∀ e, ¬s.Escapes t f (storePath base profile).text e := by
  rw [loadStoreUnder]
  cases Store.create sizes.capacity sizes.embedSize Store.defaultMaxText with
  | error e => simp
  | ok s =>
    simp only [Except.ok.injEq, exists_eq_left', ← Store.escapes_iff, Store.load]
    cases hdocuments : s.documentsOf t f (storePath base profile).text with
    | ok documents => simp
    | error e => cases hcode : e.code? <;> simp [hcode]

theorem storeUnder_eq {s : Store} (hcreate : Store.create sizes.capacity sizes.embedSize Store.defaultMaxText = .ok s) :
    storeUnder f t sizes base profile =
      match (s.load t f (storePath base profile).text).result with
      | .ok () => some (s.load t f (storePath base profile).text).store
      | .error _ => none := by
  rw [storeUnder, loadStoreUnder, hcreate]
  dsimp only
  cases (s.load t f (storePath base profile).text).result with
  | ok => rfl
  | error e => cases e <;> rfl

/-! ## All stores -/

variable {faults : Nat → Faults}

theorem loadFrom_ok {profiles : List Profile} {stores : List (Option Store)} {position : Nat}
    (h : ∀ i profile, profiles[i]? = some profile →
      ∃ store, (loadStoreUnder (faults (position + i)) t sizes base profile).1 = .ok store)
    (hlength : stores.length = position + profiles.length) :
    (loadFrom faults t sizes base stores position profiles).1 = none ∧
      (loadFrom faults t sizes base stores position profiles).2.1 = stores.take position ++
        profiles.mapIdx fun i => storeUnder (faults (position + i)) t sizes base := by
  -- the slots before the position are filled already
  induction profiles generalizing stores position with
  | nil =>
    rw [List.length_nil, Nat.add_zero] at hlength
    simp [loadFrom, ← hlength]
  | cons profile rest ih =>
    obtain ⟨store, hstore⟩ := h 0 profile rfl
    rw [Nat.add_zero] at hstore
    have hrest : ∀ i profile, rest[i]? = some profile →
        ∃ store, (loadStoreUnder (faults (position + 1 + i)) t sizes base profile).1 = .ok store := by
      intro i profile hprofile
      rw [Nat.add_assoc, Nat.add_comm 1 i]
      exact h (i + 1) profile hprofile
    have hset : (stores.set position store).length = position + 1 + rest.length := by
      rw [List.length_set, hlength, List.length_cons]
      omega
    obtain ⟨hnone, hstores⟩ := ih hrest hset
    have hposition : position < stores.length := by
      rw [hlength, List.length_cons]
      omega
    have hof : storeUnder (faults (position + 0)) t sizes base profile = store := by
      rw [storeUnder, Nat.add_zero, hstore]
    have hshift : (fun i => storeUnder (faults (position + 1 + i)) t sizes base)
        = fun i => storeUnder (faults (position + (i + 1))) t sizes base := by
      simp only [Nat.add_assoc, Nat.add_comm 1]
    rw [loadFrom]
    rcases hcall : loadStoreUnder (faults position) t sizes base profile with ⟨result, log⟩
    rw [hcall] at hstore
    subst hstore
    dsimp only
    refine ⟨hnone, ?_⟩
    rw [hstores, hshift, List.mapIdx_cons, hof,
      List.take_succ_eq_append_getElem (by simpa using hposition), List.take_set_of_le (Nat.le_refl position)]
    simp

theorem loadStoreUnder_of_loadFrom {profiles : List Profile} {stores : List (Option Store)} {position : Nat}
    (h : (loadFrom faults t sizes base stores position profiles).1 = none) :
    ∀ i profile, profiles[i]? = some profile →
      ∃ store, (loadStoreUnder (faults (position + i)) t sizes base profile).1 = .ok store := by
  induction profiles generalizing stores position with
  | nil => simp
  | cons profile rest ih =>
    rw [loadFrom] at h
    rcases hcall : loadStoreUnder (faults position) t sizes base profile with ⟨e | store, log⟩ <;> rw [hcall] at h
    · cases h
    · intro i profile' hprofile
      cases i with
      | zero =>
        cases hprofile
        exact ⟨store, by rw [Nat.add_zero, hcall]⟩
      | succ i =>
        obtain ⟨store', hstore⟩ := ih h i profile' hprofile
        rw [Nat.add_assoc, Nat.add_comm 1 i] at hstore
        exact ⟨store', hstore⟩

theorem reloadUnder_ok {s : Session G E} (hstores : s.stores.length = s.profiles.length)
    (h : ∀ i profile, s.profiles[i]? = some profile →
      ∃ store, (loadStoreUnder (faults i) t s.sizes s.baseDirectory profile).1 = .ok store) :
    let stores := s.profiles.mapIdx fun i => storeUnder (faults i) t s.sizes s.baseDirectory
    (reloadUnder faults s t).result = .ok (stores.countP Option.isSome) ∧
      (reloadUnder faults s t).session = { s with stores := stores } := by
  have hloads : ∀ i profile, s.profiles[i]? = some profile →
      ∃ store, (loadStoreUnder (faults (0 + i)) t s.sizes s.baseDirectory profile).1 = .ok store := by
    intro i profile hprofile
    rw [Nat.zero_add]
    exact h i profile hprofile
  obtain ⟨hnone, hfilled⟩ := loadFrom_ok hloads (by rw [hstores, Nat.zero_add])
  simp only [List.take_zero, List.nil_append, Nat.zero_add] at hfilled
  rw [reloadUnder]
  rcases hcall : loadFrom faults t s.sizes s.baseDirectory s.stores 0 s.profiles with ⟨failure, stores, log⟩
  rw [hcall] at hnone hfilled
  dsimp only at hnone hfilled
  subst hnone hfilled
  exact ⟨rfl, rfl⟩

theorem loadStoreUnder_of_reloadUnder {s : Session G E} {n : Nat} (h : (reloadUnder faults s t).result = .ok n) :
    ∀ i profile, s.profiles[i]? = some profile →
      ∃ store, (loadStoreUnder (faults i) t s.sizes s.baseDirectory profile).1 = .ok store := by
  have hnone : (loadFrom faults t s.sizes s.baseDirectory s.stores 0 s.profiles).1 = none := by
    rw [reloadUnder] at h
    rcases hcall : loadFrom faults t s.sizes s.baseDirectory s.stores 0 s.profiles with ⟨failure | e, stores, log⟩
    · rfl
    · rw [hcall] at h
      cases h
  intro i profile hprofile
  have hload := loadStoreUnder_of_loadFrom hnone i profile hprofile
  rwa [Nat.zero_add] at hload

/-! ## Failures of loading -/

/-- **A load that fails is reported and changes nothing, and a session goes on without the store of that
character alone.** What is reported is the first thing that fails. But an error escapes, and with it the whole
session is lost, if a file that was opened cannot be closed; and so it is with a path that cannot be handed to
the system and a file for whose records there is no room. -/
theorem reload_under_faults {s : Session G E} {fresh : Store}
    (hfresh : Store.create s.sizes.capacity s.sizes.embedSize Store.defaultMaxText = .ok fresh)
    (hstores : s.stores.length = s.profiles.length) (t : Tree) (faults : Nat → Faults) :
    (∀ (store : Store) (t : Tree) (f : Faults) (path : Text), store.Reports t f path) ∧
      let r := reloadUnder faults s t
      let path (profile : Profile) : Text := (storePath s.baseDirectory profile).text
      ((∃ n, r.result = .ok n) ↔ ∀ i profile, s.profiles[i]? = some profile →
        ∀ e, ¬fresh.Escapes t (faults i) (path profile) e) ∧
      ∀ n, r.result = .ok n → n = r.session.stores.countP Option.isSome ∧
        r.session.stores.length = s.profiles.length ∧
        ∀ i profile, s.profiles[i]? = some profile → r.session.stores[i]? = some
          (match (fresh.load t (faults i) (path profile)).result with
            | .ok () => some (fresh.load t (faults i) (path profile)).store
            | .error _ => none) := by
  have houtcome : ∀ i profile, (∃ store, (loadStoreUnder (faults i) t s.sizes s.baseDirectory profile).1 = .ok store) ↔
      ∀ e, ¬fresh.Escapes t (faults i) (storePath s.baseDirectory profile).text e := by
    intro i profile
    rw [loadStoreUnder_eq_ok_iff, hfresh]
    simp
  refine ⟨Store.load_reports, ⟨?_, ?_⟩, ?_⟩
  · rintro ⟨n, hn⟩ i profile hprofile
    exact (houtcome i profile).mp (loadStoreUnder_of_reloadUnder hn i profile hprofile)
  · intro h
    exact ⟨_, (reloadUnder_ok hstores fun i profile hprofile => (houtcome i profile).mpr (h i profile hprofile)).1⟩
  · intro n hn
    obtain ⟨hresult, hsession⟩ := reloadUnder_ok hstores (loadStoreUnder_of_reloadUnder hn)
    rw [hn] at hresult
    rw [hsession]
    refine ⟨Except.ok.inj hresult, List.length_mapIdx, ?_⟩
    intro i profile hprofile
    dsimp only
    rw [List.getElem?_mapIdx, hprofile, Option.map_some, storeUnder_eq hfresh]

end

/-- Two characters whose stores are not loaded yet. -/
def gate (sizes : StoreSizes) : Session Unit Unit :=
  ⟨.fixed "ok", none, [⟨"Bromm", "Halt.", "a.vdb"⟩, ⟨"Dagna", "Hello.", "b.vdb"⟩], none, sizes, [none, none],
    [⟨2, []⟩, ⟨2, []⟩]⟩

def emptyFile : Bytes := [0x56, 0x44, 0x42, 0x31, 1, 0, 0, 0, 1, 0, 0, 0, 0, 4, 0, 0, 0, 0, 0, 0, 0]

/-- A device with this file that answers its reads like this. -/
def served (file : Bytes) (reads : List ReadAnswer) : Faults :=
  { Faults.none with device := some ⟨[], reads, none, file, true⟩ }

theorem reload_under_faults_gate :
    let faults (i : Nat) : Faults := served emptyFile (if i = 0 then [.atMost 7] else [])
    (reloadUnder faults (gate ⟨1, 1⟩) Tree.empty).result = .ok 1 ∧
      (reloadUnder faults (gate ⟨1, 1⟩) Tree.empty).session.stores[0]? = some none ∧
      ((reloadUnder faults (gate ⟨1, 1⟩) Tree.empty).session.stores[1]?.join).isSome = true := by
  intro faults
  have hresult : (reloadUnder faults (gate ⟨1, 1⟩) Tree.empty).result = .ok 1 := rfl
  obtain ⟨-, -, hstores⟩ := reload_under_faults (s := gate ⟨1, 1⟩) rfl rfl Tree.empty faults
  obtain ⟨-, -, hslots⟩ := hstores 1 hresult
  have hfirst := hslots 0 _ rfl
  have hsecond := hslots 1 _ rfl
  exact ⟨hresult, hfirst, by rw [hsecond]; rfl⟩

/-- A file that ends with its header, after which 4294967295 records should stand. -/
def headerAlone : Bytes :=
  [0x56, 0x44, 0x42, 0x31, 1, 0, 0, 0, 0, 0, 0, 1, 0, 4, 0, 0, 0xFF, 0xFF, 0xFF, 0xFF]

/-- The file is too short, but it is memory that runs out first. The first character takes the second with
it. -/
theorem reload_headerAlone :
    let t : Tree := Tree.empty.set ["work", "a.vdb"] (.file headerAlone)
    (Store.load ⟨4294967295, ⟨16777216, 1024, by decide, by decide⟩, []⟩ t Faults.none "a.vdb").result
        = .error .outOfMemory ∧
      LoadError.outOfMemory.code? = none ∧
      (reloadUnder (fun _ => Faults.none) (gate ⟨4294967295, 16777216⟩) t).result = .error (.file "a.vdb" .outOfMemory) ∧
      (reloadUnder (fun _ => Faults.none) (gate ⟨4294967295, 16777216⟩) t).session.stores = [none, none] :=
  ⟨rfl, rfl, rfl, rfl⟩

end Session

end Dialogue

end GroundedDialogue
