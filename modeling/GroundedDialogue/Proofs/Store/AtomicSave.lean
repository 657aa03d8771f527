import GroundedDialogue.Platform.Reference
import GroundedDialogue.Proofs.Store.Saving

/-!
# Atomic saves

An atomic save either fails and leaves the directory tree as it was, or puts the file of the store where
its path leads to, as a plain save does (`Store.save_atomic`). The temporary file in between is gone in
both cases.
-/

namespace GroundedDialogue

open Disk

namespace Saving

theorem tree_writeFile_none {t : Tree} {path : Text} {l : Location} (hfind : t.find path = .ok l)
    (hl : t.get? l ≠ some .directory) (start records : Bytes) :
    (writeFile Faults.none t path (.ok (start, records))).result = .ok () ∧
      (writeFile Faults.none t path (.ok (start, records))).tree = t.set l (.file (start ++ records)) := by
  have hcreate : t.create path = .ok (l, t.set l (.file [])) := Tree.create_eq_ok.mpr ⟨hfind, hl, rfl⟩
  have hresult := writeFile_none hcreate (start, records)
  obtain ⟨start', records', l', hpacked, hfind', -, htree⟩ := writeFile_ok rfl hresult
  cases hpacked
  rw [hfind] at hfind'
  cases hfind'
  exact ⟨hresult, htree⟩

end Saving

namespace Store

section

variable [Platform]

/-- The file of the store stands where the path leads to, and everything else is as it was. -/
def Replaces (s : Store) (t : Tree) (path : Text) (t' : Tree) : Prop :=
  ∃ file l, s.file? = some file ∧ t.find path = .ok l ∧ t.get? l ≠ some .directory ∧
    t'.read path = .ok file ∧ ∀ l', t'.get? l' = if l' = l then some (.file file) else t.get? l'

theorem replaces_set {s : Store} {start records : Bytes} {t : Tree} {path : Text} {l : Location}
    (hpack : s.pack = .ok (start, records)) (hfind : t.find path = .ok l) (hl : t.get? l ≠ some .directory) :
    s.Replaces t path (t.set l (.file (start ++ records))) := by
  have hread := Tree.read_set hfind hl (start ++ records)
  have hget := Tree.get?_set t (Tree.ne_root_of_get? hl) (.file (start ++ records))
  exact ⟨_, l, file?_of_pack hpack, hfind, hl, hread, hget⟩

/-- **An atomic save is all or nothing.** If it fails, for whatever reason, then the directory tree is
what it was before. If it succeeds, on a device that stores what it has acknowledged, then the tree is
what a plain save would have made of it: the file of the store stands where the path leads to, and nothing
else has changed. -/
theorem save_atomic (s : Store) (t : Tree) (f : Faults) (path : Text) :
    (∀ e, (s.save t f (Path.ofText path) true).result = .error e →
      (s.save t f (Path.ofText path) true).tree = t) ∧
    (f.stores = true → (s.save t f (Path.ofText path) true).result = .ok () →
      s.Replaces t (Path.ofText path).text (s.save t f (Path.ofText path) true).tree ∧
      (s.save t Faults.none (Path.ofText path) false).result = .ok () ∧
      (s.save t Faults.none (Path.ofText path) false).tree = (s.save t f (Path.ofText path) true).tree) := by
  have htidy := Path.tidy_ofText path
  have hatomic : s.save t f (Path.ofText path) true = Saving.writeAtomically f t (Path.ofText path) s.pack := rfl
  have hplain : s.save t Faults.none (Path.ofText path) false
      = Saving.writeFile Faults.none t (Path.ofText path).text s.pack := rfl
  rw [hatomic, hplain]
  constructor
  · intro e he
    exact Saving.writeAtomically_error htidy he
  · intro hstores hok
    obtain ⟨start, records, l, hpack, hfind, hl, htree⟩ := Saving.writeAtomically_ok hstores htidy hok
    rw [htree, hpack]
    refine ⟨replaces_set hpack hfind hl, ?_⟩
    exact Saving.tree_writeFile_none hfind hl start records

end

/-- A file with an older one, and beside them a file with the first name for a temporary one. -/
def crowded : Tree :=
  (Tree.empty.set ["work", "a.vdb"] (.file [7])).set ["work", ".a.vdb.XXXXXXXX.tmp"] (.file [8])

def single : Store := ⟨1, ⟨1, 2, Nat.one_pos, Nat.two_pos⟩, [⟨[⟨0x3F800000⟩], "o"⟩]⟩

/-- Faults of a device that takes three bytes of the second write and cannot be closed. -/
def shortWrite : Faults :=
  ⟨none, none, none, some ⟨[.all, .took 3], [], some "no space", [], true⟩, none⟩

theorem save_atomic_crowded :
    (single.save crowded shortWrite (Path.ofText "a.vdb") true).result
        = .error (.recordWrite ".a.vdb.00000001.tmp" (.short 3 6)) ∧
      (single.save crowded shortWrite (Path.ofText "a.vdb") true).tree = crowded ∧
      (single.save crowded Faults.none (Path.ofText "a.vdb") true).result = .ok () ∧
      single.Replaces crowded "a.vdb" (single.save crowded Faults.none (Path.ofText "a.vdb") true).tree := by
  have hfailed : (single.save crowded shortWrite (Path.ofText "a.vdb") true).result
      = .error (.recordWrite ".a.vdb.00000001.tmp" (.short 3 6)) := by decide +kernel
  have hsaved : (single.save crowded Faults.none (Path.ofText "a.vdb") true).result = .ok () := by
    decide +kernel
  have htext : (Path.ofText "a.vdb").text = "a.vdb" := by decide
  refine ⟨hfailed, (save_atomic single crowded shortWrite "a.vdb").1 _ hfailed, hsaved, ?_⟩
  have hreplaces := ((save_atomic single crowded Faults.none "a.vdb").2 rfl hsaved).1
  rwa [htext] at hreplaces

end Store

end GroundedDialogue
