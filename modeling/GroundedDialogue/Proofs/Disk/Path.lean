import GroundedDialogue.Proofs.Disk.Tree
import GroundedDialogue.Proofs.Text.Splitting

/-!
# Where paths lead

A tidy path leads where its parts lead one after another (`Path.Tidy.locate_text`), and the text of a
place leads to that place (`Location.locate_text`), because joining names by slashes loses nothing. All
paths that are made from a text are tidy.
-/

namespace GroundedDialogue

namespace Disk

/-! ## Names -/

/-- A part of a path that goes down to an entry of a directory. -/
structure IsName (part : Text) : Prop where
  nonempty : part ≠ []
  noSlash : slash ∉ part
  ne_here : part ≠ here
  ne_above : part ≠ above

/-- A path as it is made from a text: its parts are names or lead up. -/
structure Path.Tidy (p : Path) : Prop where
  root : ∃ n, p.root = List.replicate n slash
  parts : ∀ part ∈ p.parts, part ≠ above → IsName part

namespace Tree

theorem follow_stay {t : Tree} {l l' : Location} {part : Text} (hpart : part = [] ∨ part = here)
    (h : t.follow l part = .ok l') : l' = l := by
  rw [follow, directory_of_follow h] at h
  dsimp only at h
  rw [if_pos (by simpa using hpart)] at h
  exact (Except.ok.inj h).symm

theorem follow_name {t : Tree} {l l' : Location} {part : Text} (hpart : IsName part)
    (h : t.follow l part = .ok l') : l' = l ++ [part] := by
  rw [follow, directory_of_follow h] at h
  dsimp only at h
  rw [if_neg (by simp [hpart.nonempty, hpart.ne_here]), if_neg hpart.ne_above] at h
  split_ifs at h
  cases h
  rfl

theorem foldlM_follow_names {t : Tree} {l l' : Location} {parts : List Text}
    (hparts : ∀ part ∈ parts, IsName part) (h : parts.foldlM t.follow l = .ok l') : l' = l ++ parts := by
  induction parts generalizing l with
  | nil =>
    cases h
    exact (List.append_nil _).symm
  | cons part parts ih =>
    obtain ⟨next, hpart, hrest⟩ := foldlM_follow_cons.mp h
    have hnext := follow_name (hparts part List.mem_cons_self) hpart
    rw [ih (fun name hname => hparts name (List.mem_cons_of_mem _ hname)) hrest, hnext, List.append_assoc]
    rfl

theorem foldlM_follow_singleton (t : Tree) (l : Location) (part : Text) :
    [part].foldlM t.follow l = t.follow l part := by
  rw [List.foldlM_cons]
  cases t.follow l part with
  | error problem => rfl
  | ok next => rfl

theorem foldlM_follow_slashes (t : Tree) (n : Nat) : (List.replicate n []).foldlM t.follow [] = .ok [] := by
  induction n with
  | zero => rfl
  | succ n ih =>
    have hstep : t.follow [] [] = .ok [] := by
      rw [follow, get?_root]
      rfl
    rw [List.replicate_succ, List.foldlM_cons, hstep]
    exact ih

/-! ## Paths from the root and from the working directory -/

theorem splitOn_slashes (n : Nat) (u : Text) :
    Text.splitOn slash (List.replicate n slash ++ u) = List.replicate n [] ++ Text.splitOn slash u := by
  induction n with
  | zero => rfl
  | succ n ih => rw [List.replicate_succ, List.cons_append, Text.splitOn_cons_self, ih]; rfl

theorem locate_slashes (t : Tree) (n : Nat) {u : Text} (hu : u ≠ [] ∨ n ≠ 0) (hhead : u.head? ≠ some slash) :
    t.locate (List.replicate n slash ++ u)
      = (Text.splitOn slash u).foldlM t.follow (if n = 0 then workingDirectory else []) := by
  have hne : List.replicate n slash ++ u ≠ [] := by
    rcases hu with hu | hn
    · simp [hu]
    · simp [hn]
  rw [locate, if_neg hne, splitOn_slashes, List.foldlM_append]
  cases n with
  | zero =>
    rw [List.replicate_zero, List.nil_append, if_neg hhead, if_pos rfl]
    rfl
  | succ n =>
    rw [List.replicate_succ, List.cons_append, List.head?_cons, if_pos rfl, if_neg (Nat.succ_ne_zero n),
      foldlM_follow_slashes]
    rfl

theorem locate_join (t : Tree) (n : Nat) {parts : List Text} (hne : parts ≠ [])
    (hparts : ∀ part ∈ parts, part ≠ [] ∧ slash ∉ part) :
    t.locate (List.replicate n slash ++ Text.join [slash] parts)
      = parts.foldlM t.follow (if n = 0 then workingDirectory else []) := by
  obtain ⟨first, others, rfl⟩ := List.exists_cons_of_ne_nil hne
  obtain ⟨rest, hjoin⟩ := Text.join_cons [slash] first others
  obtain ⟨hfirst, hslash⟩ := hparts first List.mem_cons_self
  obtain ⟨r, runes, rfl⟩ := List.exists_cons_of_ne_nil hfirst
  have hr : r ≠ slash := fun h => hslash (h ▸ List.mem_cons_self)
  rw [locate_slashes t n (Or.inl (by simp [hjoin])) (by simp [hjoin, hr]),
    Text.splitOn_join hne fun part hpart => (hparts part hpart).2]

end Tree

/-! ## Tidy paths -/

namespace Path

def start (p : Path) : Location := if p.isAbsolute then [] else workingDirectory

theorem tidy_ofText (t : Text) : (ofText t).Tidy where
  root := by
    rw [ofText]
    split
    · exact ⟨0, rfl⟩
    · exact ⟨2, rfl⟩
    · exact ⟨1, rfl⟩
  parts := by
    intro part hpart habove
    obtain ⟨hsplit, hproper⟩ := List.mem_filter.mp hpart
    simp only [Bool.and_eq_true, decide_eq_true_eq] at hproper
    exact ⟨hproper.1, Text.not_mem_of_mem_splitOn hsplit, hproper.2, habove⟩

theorem Tidy.part {p : Path} (hp : p.Tidy) {part : Text} (hpart : part ∈ p.parts) :
    part ≠ [] ∧ slash ∉ part := by
  by_cases habove : part = above
  · rw [habove]
    decide
  · exact ⟨(hp.parts part hpart habove).nonempty, (hp.parts part hpart habove).noSlash⟩

theorem Tidy.slash_not_mem_name {p : Path} (hp : p.Tidy) : slash ∉ p.name := by
  rw [name, List.getLastD_eq_getLast?]
  cases hlast : p.parts.getLast? with
  | none => exact List.not_mem_nil
  | some part => exact (hp.part (List.mem_of_getLast? hlast)).2

theorem Tidy.parent {p : Path} (hp : p.Tidy) : p.parent.Tidy :=
  ⟨hp.root, fun part hpart => hp.parts part (List.dropLast_subset _ hpart)⟩

theorem start_eq {p : Path} {n : Nat} (hroot : p.root = List.replicate n slash) :
    p.start = if n = 0 then workingDirectory else [] := by
  rw [start, isAbsolute, hroot]
  cases n with
  | zero => rfl
  | succ n => rfl

/-- A tidy path leads where its parts lead. -/
theorem Tidy.locate_text {p : Path} (hp : p.Tidy) (hparts : p.parts ≠ []) (t : Tree) :
    t.locate p.text = p.parts.foldlM t.follow p.start := by
  obtain ⟨n, hroot⟩ := hp.root
  rw [text, if_neg (by simp [hparts]), hroot, Tree.locate_join t n hparts fun _ => hp.part, start_eq hroot]

theorem Tidy.foldlM_of_locate {p : Path} (hp : p.Tidy) {t : Tree} {l : Location}
    (h : t.locate p.text = .ok l) : p.parts.foldlM t.follow p.start = .ok l := by
  by_cases hparts : p.parts = []
  · obtain ⟨n, hroot⟩ := hp.root
    rw [hparts, start_eq hroot]
    cases n with
    | zero =>
      have htext : p.text = List.replicate 0 slash ++ here := by rw [text, hroot, hparts]; rfl
      have hsplit : Text.splitOn slash here = [here] := by decide
      rw [htext, t.locate_slashes 0 (Or.inl (by decide)) (by decide), hsplit,
        Tree.foldlM_follow_singleton] at h
      rw [Tree.follow_stay (Or.inr rfl) h]
      rfl
    | succ n =>
      have htext : p.text = List.replicate (n + 1) slash ++ [] := by rw [text, hroot, hparts]; rfl
      have hsplit : Text.splitOn slash [] = [[]] := rfl
      rw [htext, t.locate_slashes (n + 1) (Or.inr (Nat.succ_ne_zero n)) (by decide), hsplit,
        Tree.foldlM_follow_singleton] at h
      rw [Tree.follow_stay (Or.inl rfl) h]
      rfl
  · rw [← hp.locate_text hparts]
    exact h

theorem parts_eq_concat {p : Path} (hname : p.name ≠ []) : p.parts = p.parts.dropLast ++ [p.name] := by
  rw [name, List.getLastD_eq_getLast?] at *
  cases hlast : p.parts.getLast? with
  | none =>
    rw [hlast] at hname
    exact absurd rfl hname
  | some part =>
    obtain ⟨others, hparts⟩ := List.getLast?_eq_some_iff.mp hlast
    rw [hparts, List.dropLast_concat]
    rfl

theorem Tidy.locate_name {p : Path} (hp : p.Tidy) (hname : p.name ≠ []) {t : Tree} {directory : Location}
    (h : t.locate p.parent.text = .ok directory) : t.locate p.text = t.follow directory p.name := by
  have hconcat := parts_eq_concat hname
  have hparts : p.parts ≠ [] := by
    rw [hconcat]
    exact List.append_ne_nil_of_right_ne_nil _ (List.cons_ne_nil _ _)
  have hparent : p.parts.dropLast.foldlM t.follow p.start = .ok directory := hp.parent.foldlM_of_locate h
  rw [hp.locate_text hparts, hconcat, List.foldlM_append, hparent]
  exact Tree.foldlM_follow_singleton t directory p.name

theorem forall_mem_foldl {P : Text → Prop} {parts : List Text} (hparts : ∀ part ∈ parts, part ≠ above → P part)
    {l : Location} (hl : ∀ part ∈ l, P part) :
    ∀ part ∈ parts.foldl (fun l part => if part = above then l.dropLast else l ++ [part]) l, P part := by
  induction parts generalizing l with
  | nil => exact hl
  | cons first parts ih =>
    rw [List.foldl_cons]
    refine ih (fun part hpart => hparts part (List.mem_cons_of_mem _ hpart)) ?_
    intro part hpart
    split_ifs at hpart with habove
    · exact hl part (List.dropLast_subset _ hpart)
    · rcases List.mem_append.mp hpart with hpart | hpart
      · exact hl part hpart
      · rw [List.mem_singleton.mp hpart]
        exact hparts first List.mem_cons_self habove

theorem Tidy.isName_of_mem_location {p : Path} (hp : p.Tidy) : ∀ part ∈ p.location, IsName part := by
  refine forall_mem_foldl hp.parts ?_
  intro name hname
  split_ifs at hname
  · cases hname
  · rw [List.mem_singleton.mp hname]
    exact ⟨by decide, by decide, by decide, by decide⟩

end Path

/-! ## The text of a place -/

/-- The text of a place leads to the place, unless it is that of the working directory itself, which
is empty. -/
theorem Location.locate_text {l : Location} (hl : l ≠ []) (hwork : l ≠ workingDirectory)
    (hnames : ∀ part ∈ l, IsName part) (t : Tree) :
    t.locate (Location.text l) = l.foldlM t.follow [] := by
  have hparts : ∀ part ∈ l, part ≠ [] ∧ slash ∉ part := fun part hpart =>
    ⟨(hnames part hpart).nonempty, (hnames part hpart).noSlash⟩
  rw [Location.text]
  cases hbelow : workingDirectory.isPrefixOf l with
  | false => exact t.locate_join 1 hl hparts
  | true =>
    obtain ⟨rest, rfl⟩ := List.isPrefixOf_iff_prefix.mp hbelow
    have hrest : rest ≠ [] := by
      rintro rfl
      exact hwork (List.append_nil _)
    have hwork : t.follow [] "work" = .ok workingDirectory := by
      rw [Tree.follow, Tree.get?_root]
      dsimp only
      rw [if_neg (by decide), if_neg (by decide), if_neg (by decide)]
      rfl
    have hjoin := t.locate_join 0 hrest fun part hpart =>
      hparts part (List.mem_append_right _ hpart)
    rw [List.replicate_zero, List.nil_append] at hjoin
    dsimp only
    rw [List.drop_left, hjoin, workingDirectory, List.cons_append, List.foldlM_cons, hwork]
    rfl

end Disk

end GroundedDialogue
