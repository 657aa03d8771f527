import GroundedDialogue.Disk.Tree
import Mathlib.Tactic.SplitIfs

/-!
# What stands in a directory tree

Each change of a tree has one equation through `Tree.get?`. A path leads to the same place after any
change that leaves the directories standing (`Tree.locate_of_keeps`), so a file that was put at the end
of a path is read at the end of that path.
-/

namespace GroundedDialogue.Disk.Tree

/-! ## Places -/

@[simp] theorem get?_root (t : Tree) : t.get? [] = some .directory := if_pos rfl

theorem get?_of_ne {l : Location} (hl : l ≠ []) (t : Tree) : t.get? l = t.nodes.lookup l := if_neg hl

theorem lookup_erase (nodes : List (Location × Node)) (l l' : Location) :
    (nodes.filter (·.1 ≠ l)).lookup l' = if l' = l then none else nodes.lookup l' := by
  induction nodes with
  | nil => simp
  | cons entry nodes ih =>
    obtain ⟨place, node⟩ := entry
    rw [List.filter_cons]
    by_cases hplace : place = l
    · rw [if_neg (by simp [hplace]), ih]
      by_cases hl : l' = l
      · rw [if_pos hl, if_pos hl]
      · rw [if_neg hl, if_neg hl, List.lookup_cons, hplace, beq_false_of_ne hl]
    · rw [if_pos (by simp [hplace]), List.lookup_cons, List.lookup_cons, ih]
      by_cases hl : l' = place
      · simp [hl, hplace]
      · rw [beq_false_of_ne hl]

theorem get?_erase (t : Tree) {l : Location} (hl : l ≠ []) (l' : Location) :
    (t.erase l).get? l' = if l' = l then none else t.get? l' := by
  by_cases hroot : l' = []
  · subst hroot
    rw [get?_root, get?_root, if_neg (Ne.symm hl)]
  · rw [get?_of_ne hroot, get?_of_ne hroot, erase, lookup_erase]

theorem get?_set (t : Tree) {l : Location} (hl : l ≠ []) (node : Node) (l' : Location) :
    (t.set l node).get? l' = if l' = l then some node else t.get? l' := by
  by_cases hroot : l' = []
  · subst hroot
    rw [get?_root, get?_root, if_neg (Ne.symm hl)]
  · rw [get?_of_ne hroot, set, List.lookup_cons]
    by_cases hplace : l' = l
    · simp [hplace]
    · rw [beq_false_of_ne hplace, if_neg hplace, erase, lookup_erase, if_neg hplace, get?_of_ne hroot]

theorem ne_root_of_get? {t : Tree} {l : Location} (hl : t.get? l ≠ some .directory) : l ≠ [] := by
  rintro rfl
  exact hl (get?_root t)

theorem set_set (t : Tree) (l : Location) (a b : Node) : (t.set l a).set l b = t.set l b := by
  simp [set, erase, List.filter_filter]

theorem erase_set (t : Tree) (l : Location) (node : Node) : (t.set l node).erase l = t.erase l := by
  simp [set, erase, List.filter_filter]

theorem erase_of_get?_eq_none {t : Tree} {l : Location} (hl : t.get? l = none) : t.erase l = t := by
  have hne : l ≠ [] := by
    rintro rfl
    simp at hl
  rw [get?_of_ne hne, List.lookup_eq_none_iff] at hl
  have hall : t.nodes.filter (·.1 ≠ l) = t.nodes := by
    refine List.filter_eq_self.mpr fun entry hentry => ?_
    have hplace := hl entry hentry
    simp only [ne_eq, decide_not, Bool.not_eq_true', decide_eq_false_iff_not]
    rintro rfl
    simp at hplace
  rw [erase, hall]

theorem append_set (t : Tree) {l : Location} (hl : l ≠ []) (content bytes : Bytes) :
    (t.set l (.file content)).append l bytes = t.set l (.file (content ++ bytes)) := by
  rw [append, get?_set t hl, if_pos rfl]
  exact set_set t l _ _

/-! ## Paths -/

/-- The directories of one tree are directories of another. -/
def Keeps (t t' : Tree) : Prop := ∀ l, t.get? l = some .directory → t'.get? l = some .directory

theorem keeps_set (t : Tree) {l : Location} (hl : t.get? l ≠ some .directory) (node : Node) :
    t.Keeps (t.set l node) := by
  intro l' hl'
  rw [get?_set t (ne_root_of_get? hl), if_neg]
  · exact hl'
  · rintro rfl
    exact hl hl'

theorem keeps_of_set {t : Tree} {l : Location} (hl : l ≠ []) (content : Bytes) :
    (t.set l (.file content)).Keeps t := by
  intro l' hl'
  rw [get?_set t hl] at hl'
  split_ifs at hl'
  · cases hl'
  · exact hl'

theorem directory_of_follow {t : Tree} {l l' : Location} {part : Text} (h : t.follow l part = .ok l') :
    t.get? l = some .directory := by
  rw [follow] at h
  split at h
  case h_1 => cases h
  case h_2 => cases h
  case h_3 hl => exact hl

theorem follow_of_keeps {t t' : Tree} (hkeeps : t.Keeps t') {l l' : Location} {part : Text}
    (h : t.follow l part = .ok l') : t'.follow l part = .ok l' := by
  have hl := directory_of_follow h
  rw [follow, hl] at h
  rw [follow, hkeeps l hl]
  exact h

theorem foldlM_follow_cons {t : Tree} {l l' : Location} {part : Text} {parts : List Text} :
    (part :: parts).foldlM t.follow l = .ok l' ↔
      ∃ next, t.follow l part = .ok next ∧ parts.foldlM t.follow next = .ok l' := by
  rw [List.foldlM_cons]
  cases t.follow l part with
  | error problem => simp [bind, Except.bind]
  | ok next => simp [bind, Except.bind]

theorem foldlM_follow_of_keeps {t t' : Tree} (hkeeps : t.Keeps t') {l l' : Location} {parts : List Text}
    (h : parts.foldlM t.follow l = .ok l') : parts.foldlM t'.follow l = .ok l' := by
  induction parts generalizing l with
  | nil => exact h
  | cons part parts ih =>
    obtain ⟨next, hpart, hparts⟩ := foldlM_follow_cons.mp h
    exact foldlM_follow_cons.mpr ⟨next, follow_of_keeps hkeeps hpart, ih hparts⟩

theorem locate_of_keeps {t t' : Tree} (hkeeps : t.Keeps t') {path : Text} {l : Location}
    (h : t.locate path = .ok l) : t'.locate path = .ok l := by
  rw [locate] at h ⊢
  by_cases hpath : path = []
  · rw [if_pos hpath] at h
    cases h
  · rw [if_neg hpath] at h ⊢
    exact foldlM_follow_of_keeps hkeeps h

/-! ## Files at the end of a path -/

theorem find_eq_ok {t : Tree} {path : Text} {l : Location} :
    t.find path = .ok l ↔ checkPath path = .ok () ∧ t.locate path = .ok l := by
  rw [find]
  cases hcheck : checkPath path with
  | error e => simp [Except.mapError, bind, Except.bind]
  | ok => cases hlocate : t.locate path <;> simp [Except.mapError, bind, Except.bind]

theorem eq_of_find {t : Tree} {path : Text} {l m : Location} (hlocate : t.locate path = .ok l)
    (h : t.find path = .ok m) : m = l := by
  have hplace := (find_eq_ok.mp h).2
  rw [hlocate] at hplace
  exact (Except.ok.inj hplace).symm

/-! ## Texts that are no paths -/

theorem find_eq_invalid_iff {t : Tree} {path : Text} {e : InvalidPath} :
    t.find path = .error (.invalid e) ↔ checkPath path = .error e := by
  rw [find]
  cases checkPath path with
  | error e' => simp [Except.mapError, bind, Except.bind]
  | ok => cases t.locate path <;> simp [Except.mapError, bind, Except.bind]

theorem read_eq_invalid_iff {t : Tree} {path : Text} {e : InvalidPath} :
    t.read path = .error (.invalid e) ↔ checkPath path = .error e := by
  rw [read, ← find_eq_invalid_iff (t := t)]
  cases t.find path with
  | error e' => simp [bind, Except.bind]
  | ok l =>
    dsimp only [bind, Except.bind]
    split <;> simp [throw, throwThe, MonadExceptOf.throw, pure, Except.pure]

theorem create_eq_invalid_iff {t : Tree} {path : Text} {e : InvalidPath} :
    t.create path = .error (.invalid e) ↔ checkPath path = .error e := by
  rw [create, ← find_eq_invalid_iff (t := t)]
  cases t.find path with
  | error e' => simp [bind, Except.bind]
  | ok l =>
    dsimp only [bind, Except.bind]
    split <;> simp [throw, throwThe, MonadExceptOf.throw, pure, Except.pure]

/-! ## Files that are made and read -/

theorem create_eq_ok {t t' : Tree} {path : Text} {l : Location} :
    t.create path = .ok (l, t') ↔
      t.find path = .ok l ∧ t.get? l ≠ some .directory ∧ t' = t.set l (.file []) := by
  rw [create]
  cases hfind : t.find path with
  | error e => simp [bind, Except.bind]
  | ok place =>
    simp only [bind, Except.bind]
    split
    case h_1 hplace =>
      constructor
      · intro h
        cases h
      · rintro ⟨hl, hnot, -⟩
        cases hl
        exact absurd hplace hnot
    case h_2 hplace =>
      constructor
      · intro h
        cases h
        exact ⟨rfl, hplace, rfl⟩
      · rintro ⟨hl, -, rfl⟩
        cases hl
        rfl

theorem read_of_get? {t : Tree} {path : Text} {l : Location} {content : Bytes}
    (hfind : t.find path = .ok l) (hfile : t.get? l = some (.file content)) :
    t.read path = .ok content := by
  rw [read, hfind]
  simp only [bind, Except.bind]
  rw [hfile]
  rfl

theorem read_set {t : Tree} {path : Text} {l : Location} (hfind : t.find path = .ok l)
    (hl : t.get? l ≠ some .directory) (content : Bytes) :
    (t.set l (.file content)).read path = .ok content := by
  obtain ⟨hcheck, hlocate⟩ := find_eq_ok.mp hfind
  have hlocate' := locate_of_keeps (keeps_set t hl (.file content)) hlocate
  refine read_of_get? (find_eq_ok.mpr ⟨hcheck, hlocate'⟩) ?_
  rw [get?_set t (ne_root_of_get? hl), if_pos rfl]

end GroundedDialogue.Disk.Tree
