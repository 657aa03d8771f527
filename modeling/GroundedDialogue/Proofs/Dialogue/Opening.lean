import GroundedDialogue.Proofs.Dialogue.Exchange
import GroundedDialogue.Proofs.Dialogue.Reloading

/-!
# Opening a session

A session that opens holds for each character the store that is made of that character's file alone
(`Session.start_eq_ok_iff`, `Session.loadStore_congr`). But the files have to be loaded one after another,
and a single file can keep all characters from being talked to (`Session.loads_iff`): one whose path is no
path, or one that is in order up to its number of records and promises some for which there is no room.
Any other defect of a file costs no more than the store of its own character.
-/

namespace GroundedDialogue

open Disk

namespace Dialogue

namespace Session

variable [Platform] {G E : Type}
  {t t' : Tree} {sizes : StoreSizes} {base : Option Path} {profile : Profile}

/-! ## The store of a character -/

/-- There is an outcome for the file of a character, with a store or without. -/
def Loads (t : Tree) (sizes : StoreSizes) (base : Option Path) (profile : Profile) : Prop :=
  ∃ store, (loadStore t sizes base profile).1 = .ok store

def storeOf (t : Tree) (sizes : StoreSizes) (base : Option Path) (profile : Profile) : Option Store :=
  match (loadStore t sizes base profile).1 with
  | .ok store => store
  | .error _ => none

theorem loadStore_congr (h : t.read (storePath base profile).text = t'.read (storePath base profile).text) :
    loadStore t sizes base profile = loadStore t' sizes base profile := by
  have hdocuments : ∀ s : Store, s.documentsOf t .none (storePath base profile).text
      = s.documentsOf t' .none (storePath base profile).text := by
    intro s
    have hopen : Loading.openFile .none t (storePath base profile).text
        = Loading.openFile .none t' (storePath base profile).text := h
    rw [Store.documentsOf, Store.documentsOf, hopen]
  simp only [loadStore, loadStoreUnder, Store.load, hdocuments]

/-- A file that is not only of no use, but keeps a session from opening. -/
inductive Blocks (t : Tree) (base : Option Path) (s : Store) (profile : Profile) : Prop
  | path {e : InvalidPath} (h : Tree.checkPath (storePath base profile).text = .error e) : Blocks t base s profile
  | file {file : Bytes} {fault : Fault} (hread : t.read (storePath base profile).text = .ok file)
    (h : Loading.Overlong .none s file fault) : Blocks t base s profile

theorem blocks_iff {s : Store} :
    Blocks t base s profile ↔ ∃ e, s.Escapes t .none (storePath base profile).text e := by
  constructor
  · rintro (hpath | ⟨hread, h⟩)
    · exact ⟨_, .path rfl rfl hpath⟩
    · exact ⟨_, .records hread rfl h⟩
  · rintro ⟨e, h⟩
    cases h with
    | path hopening hdevice h => exact .path h
    | close hopen h => cases h
    | records hopen hleaving h => exact .file hopen h

theorem loads_iff :
    Loads t sizes base profile ↔ ∃ s, Store.create sizes.capacity sizes.embedSize Store.defaultMaxText = .ok s ∧
      ¬Blocks t base s profile := by
  simp only [blocks_iff, not_exists]
  exact loadStoreUnder_eq_ok_iff

theorem reload_ok {s : Session G E} (hstores : s.stores.length = s.profiles.length)
    (h : ∀ profile ∈ s.profiles, Loads t s.sizes s.baseDirectory profile) :
    (∃ n, (s.reload t).result = .ok n) ∧
      (s.reload t).session = { s with stores := s.profiles.map (storeOf t s.sizes s.baseDirectory) } := by
  have hloads : ∀ i profile, s.profiles[i]? = some profile →
      ∃ store, (loadStoreUnder .none t s.sizes s.baseDirectory profile).1 = .ok store :=
    fun i profile hprofile => h profile (List.mem_of_getElem? hprofile)
  obtain ⟨hresult, hsession⟩ := reloadUnder_ok hstores hloads
  have hmap : (s.profiles.mapIdx fun _ => storeUnder .none t s.sizes s.baseDirectory)
      = s.profiles.map (storeOf t s.sizes s.baseDirectory) := by
    refine List.ext_getElem? fun i => ?_
    rw [List.getElem?_mapIdx, List.getElem?_map]
    rfl
  rw [hmap] at hsession
  exact ⟨⟨_, hresult⟩, hsession⟩

theorem loads_of_reload {s : Session G E} {n : Nat} (h : (s.reload t).result = .ok n) :
    ∀ profile ∈ s.profiles, Loads t s.sizes s.baseDirectory profile := by
  intro profile hprofile
  obtain ⟨i, hi⟩ := List.mem_iff_getElem?.mp hprofile
  exact loadStoreUnder_of_reloadUnder h i profile hi

/-! ## Opening -/

omit [Platform] in
theorem create_eq_ok_iff {limit : Int} {h : History} :
    History.create limit = .ok h ↔ (1 ≤ limit ∧ Position.fits limit = true) ∧ h = ⟨limit.toNat, []⟩ := by
  rw [History.create]
  split_ifs with hsmall hlarge
  · exact iff_of_false nofun fun h => by omega
  · refine iff_of_false nofun ?_
    rintro ⟨⟨-, hfits⟩, -⟩
    rw [hfits] at hlarge
    cases hlarge
  · have hfits : Position.fits limit = true := by simpa using hlarge
    have hlimit : 1 ≤ limit := by omega
    simp [hfits, hlimit, eq_comm]

omit [Platform] in
theorem mapM_create_eq_ok_iff {profiles : List Profile} {limit : Int} {histories : List History} :
    (profiles.mapM fun _ => History.create limit) = .ok histories ↔
      (profiles ≠ [] → 1 ≤ limit ∧ Position.fits limit = true) ∧
        histories = profiles.map fun _ => ⟨limit.toNat, []⟩ := by
  cases hcreate : History.create limit with
  | error e =>
    have hlimit : ¬(1 ≤ limit ∧ Position.fits limit = true) := by
      intro hlimit
      rw [create_eq_ok_iff.mpr ⟨hlimit, rfl⟩] at hcreate
      cases hcreate
    cases profiles with
    | nil =>
      constructor
      · intro h
        exact ⟨fun hne => absurd rfl hne, (Except.ok.inj h).symm⟩
      · rintro ⟨-, rfl⟩
        rfl
    | cons profile rest =>
      rw [List.mapM_cons]
      exact iff_of_false nofun fun h => hlimit (h.1 (List.cons_ne_nil _ _))
  | ok h =>
    obtain ⟨hlimit, rfl⟩ := create_eq_ok_iff.mp hcreate
    have hmap : (profiles.mapM fun _ => (.ok ⟨limit.toNat, []⟩ : Except LimitError History))
        = .ok (profiles.map fun _ => ⟨limit.toNat, []⟩) := List.mapM_pure
    rw [hmap]
    simp [hlimit, eq_comm]

/-- A session opens if all files can be dealt with and there is room for turns. Each character has the
store of its own file, and nothing to remember. -/
theorem start_eq_ok_iff {source : AnswerSource G} {embedder : Option E} {profiles : List Profile}
    {limit : Int} {s : Session G E} :
    (start source embedder profiles base sizes limit t).1 = .ok s ↔
      (profiles ≠ [] → 1 ≤ limit ∧ Position.fits limit = true) ∧
        (∀ profile ∈ profiles, Loads t sizes base profile) ∧
        s = ⟨source, embedder, profiles, base, sizes, profiles.map (storeOf t sizes base),
          profiles.map fun _ => ⟨limit.toNat, []⟩⟩ := by
  rw [start]
  cases hhistories : profiles.mapM fun _ => History.create limit with
  | error e =>
    refine iff_of_false nofun ?_
    rintro ⟨hlimit, -⟩
    rw [mapM_create_eq_ok_iff.mpr ⟨hlimit, rfl⟩] at hhistories
    cases hhistories
  | ok histories =>
    obtain ⟨hlimit, rfl⟩ := mapM_create_eq_ok_iff.mp hhistories
    have hlength : (profiles.map fun _ => (none : Option Store)).length = profiles.length := List.length_map _
    dsimp only
    rcases hcall : reload (⟨source, embedder, profiles, base, sizes, profiles.map fun _ => none,
      profiles.map fun _ => ⟨limit.toNat, []⟩⟩ : Session G E) t with ⟨e | n, session, log⟩
    · refine iff_of_false nofun ?_
      rintro ⟨-, hloads, -⟩
      obtain ⟨⟨n, hok⟩, -⟩ := reload_ok (s := ⟨source, embedder, profiles, base, sizes, _, _⟩) hlength hloads
      rw [hcall] at hok
      cases hok
    · have hloads := loads_of_reload (congrArg Reload.result hcall)
      have hsession := (reload_ok (s := ⟨source, embedder, profiles, base, sizes, _, _⟩) hlength hloads).2
      rw [hcall] at hsession
      dsimp only at hsession ⊢
      subst hsession
      constructor
      · intro h
        cases h
        exact ⟨hlimit, hloads, rfl⟩
      · rintro ⟨-, -, rfl⟩
        rfl

end Session

end Dialogue

end GroundedDialogue
