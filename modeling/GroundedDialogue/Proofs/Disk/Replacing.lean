import GroundedDialogue.Proofs.Disk.Temporary

/-!
# Files that can be replaced

A file is replaced by way of a temporary one beside it. What can go wrong there by the state of the
directory tree alone is known before anything is written: a temporary file that was made can always be
opened by its text (`Tree.create_temporary`), because that text is made of the code points of the path
and a few harmless ones, and whether it can be renamed in the end depends on the tree as it was in the
beginning (`Tree.rename_set_iff`).
-/

namespace GroundedDialogue

namespace Rune

theorem isSurrogate_ofChar (c : Char) : (ofChar c).isSurrogate = false := by
  have hvalid : c.toNat < 0xD800 ∨ 0xDFFF < c.toNat ∧ c.toNat < 0x110000 := c.valid
  have hval : (ofChar c).val = c.toNat := rfl
  rw [isSurrogate, hval, Bool.and_eq_false_iff, decide_eq_false_iff_not, decide_eq_false_iff_not]
  omega

end Rune

namespace Disk

/-! ## Texts that the system takes -/

/-- Every code point of the text can stand in a path that is handed to the system. -/
def Valid (t : Text) : Prop := ∀ r ∈ t, r.isEncodable = true ∧ r ≠ 0

namespace Valid

variable {t u : Text}

theorem append (ht : Valid t) (hu : Valid u) : Valid (t ++ u) := by
  intro r hr
  rcases List.mem_append.mp hr with hr | hr
  · exact ht r hr
  · exact hu r hr

theorem join {separator : Text} {ts : List Text} (hseparator : Valid separator) (hts : ∀ t ∈ ts, Valid t) :
    Valid (Text.join separator ts) := by
  intro r hr
  rcases Text.mem_join hr with hr | ⟨t, ht, hr⟩
  · exact hseparator r hr
  · exact hts t ht r hr

theorem map_ofChar {cs : List Char} (hcs : '\x00' ∉ cs) : Valid (cs.map Rune.ofChar) := by
  intro r hr
  obtain ⟨c, hc, rfl⟩ := List.mem_map.mp hr
  refine ⟨?_, ?_⟩
  · rw [Rune.isEncodable, Rune.isSurrogate_ofChar]
    rfl
  · intro hzero
    have hnull : c = '\x00' := Rune.ofChar_inj hzero
    exact hcs (hnull ▸ hc)

end Valid

namespace Path

variable {p : Path}

theorem valid_of_mem_parts (h : Valid p.text) : ∀ part ∈ p.parts, Valid part := by
  intro part hpart r hr
  have hparts : p.parts ≠ [] := List.ne_nil_of_mem hpart
  rw [text, if_neg (by simp [hparts])] at h
  exact h r (List.mem_append_right _ (Text.mem_join_of_mem _ hpart hr))

theorem valid_name (h : Valid p.text) : Valid p.name := by
  rw [name, List.getLastD_eq_getLast?]
  cases hlast : p.parts.getLast? with
  | none =>
    intro r hr
    cases hr
  | some part => exact valid_of_mem_parts h part (List.mem_of_getLast? hlast)

theorem valid_of_mem_parent_location (h : Valid p.text) : ∀ part ∈ p.parent.location, Valid part := by
  refine forall_mem_foldl (fun part hpart _ => valid_of_mem_parts h part (List.dropLast_subset _ hpart)) ?_
  intro part hpart
  split_ifs at hpart
  · cases hpart
  · rw [List.mem_singleton.mp hpart]
    exact Valid.map_ofChar (by decide)

end Path

theorem Location.valid_text {l : Location} (h : ∀ part ∈ l, Valid part) : Valid (Location.text l) := by
  have hslash : Valid (['/'].map Rune.ofChar) := Valid.map_ofChar (by decide)
  rw [Location.text]
  split
  · exact Valid.join hslash fun part hpart => h part (List.mem_of_mem_drop hpart)
  · exact hslash.append (Valid.join hslash h)

namespace Tree

theorem checkPath_eq_ok {path : Text} : checkPath path = .ok () ↔ Valid path := by
  rw [checkPath, Text.isEncodable]
  split_ifs with hencodable hnull
  · refine iff_of_false (nomatch ·) fun h => ?_
    have hall := List.all_eq_true.mpr fun r hr => (h r hr).1
    simp [hall] at hencodable
  · refine iff_of_false (nomatch ·) fun h => ?_
    exact (h 0 (by simpa using hnull)).2 rfl
  · refine iff_of_true rfl fun r hr => ⟨?_, ?_⟩
    · rw [Bool.not_eq_true', Bool.not_eq_false, List.all_eq_true] at hencodable
      exact hencodable r hr
    · rintro rfl
      exact hnull (by simpa using hr)

theorem valid_temporaryName {name : Text} (hname : Valid name) (i : Nat) : Valid (temporaryName name i) := by
  have hdot : Valid "." := Valid.map_ofChar (by decide)
  have hending : Valid ".tmp" := Valid.map_ofChar (by decide)
  have hmiddle : Valid (temporaryMiddle i) := by
    by_cases hi : i = 0
    · rw [hi, temporaryMiddle_zero, ← List.map_replicate]
      exact Valid.map_ofChar (by decide)
    · rw [temporaryMiddle_of_ne_zero hi]
      refine Valid.map_ofChar fun hnull => ?_
      exact absurd (isDigit_of_mem_paddedDigits hnull) (by decide)
  exact (((hdot.append hname).append hdot).append hmiddle).append hending

/-! ## Opening a temporary file -/

theorem create_temporary {p : Path} (hp : p.Tidy) {t t' : Tree} {l : Location}
    (h : t.createTemporary p = .ok (l, t')) : t'.create (Location.text l) = .ok (l, t') := by
  obtain ⟨hcheck, hne, -, rfl, hlocate⟩ := createTemporary_ok hp h
  have hvalid : Valid (Location.text l) := by
    obtain ⟨-, hplace, -⟩ := createTemporary_eq_ok hp h
    obtain ⟨i, hi⟩ := t.freshName_eq p.parent.location p.name
    rw [hplace, hi]
    refine Location.valid_text ?_
    intro part hpart
    have htext := checkPath_eq_ok.mp hcheck
    rcases List.mem_append.mp hpart with hpart | hpart
    · exact Path.valid_of_mem_parent_location htext part hpart
    · rw [List.mem_singleton.mp hpart]
      exact valid_temporaryName (Path.valid_name htext) i
  have hfile : (t.set l (.file [])).get? l ≠ some .directory := by
    rw [get?_set t hne, if_pos rfl]
    exact fun h => nomatch h
  exact create_eq_ok.mpr ⟨find_eq_ok.mpr ⟨checkPath_eq_ok.mpr hvalid, hlocate⟩, hfile, (set_set t l _ _).symm⟩

/-! ## Renaming it -/

/-- Whether a file can take the place of what a path names: its directory is there, the path ends in a
name, and the name is not that of a directory. -/
def replaceable (t : Tree) (p : Path) : Bool :=
  match t.locate p.parent.text with
  | .error _ => false
  | .ok directory =>
    p.name ≠ [] && p.name ≠ above &&
      match t.follow directory p.name with
      | .error _ => false
      | .ok target => t.get? target ≠ some .directory

theorem replaceable_iff {t : Tree} {p : Path} :
    t.replaceable p = true ↔ ∃ directory target, t.locate p.parent.text = .ok directory ∧
      (p.name ≠ [] ∧ p.name ≠ above) ∧ t.follow directory p.name = .ok target ∧
      t.get? target ≠ some .directory := by
  rw [replaceable]
  cases t.locate p.parent.text with
  | error problem => simp
  | ok directory =>
    dsimp only
    cases hfollow : t.follow directory p.name with
    | error problem => simp [hfollow]
    | ok target => simp [hfollow]

theorem replaceable_of_keeps {t t' : Tree} (hkeeps : t.Keeps t') (hback : t'.Keeps t) {p : Path}
    (h : t.replaceable p = true) : t'.replaceable p = true := by
  obtain ⟨directory, target, hlocate, hname, hfollow, htarget⟩ := replaceable_iff.mp h
  exact replaceable_iff.mpr ⟨directory, target, locate_of_keeps hkeeps hlocate, hname,
    follow_of_keeps hkeeps hfollow, fun hdirectory => htarget (hback target hdirectory)⟩

/-- A file can be renamed exactly if it can take the place of what the path names. -/
theorem rename_iff {t : Tree} {source : Location} {content : Bytes}
    (hsource : t.get? source = some (.file content)) (p : Path) :
    (∃ t', t.rename source p = .ok t') ↔ t.replaceable p = true := by
  rw [rename, replaceable]
  cases t.locate p.parent.text with
  | error problem => simp
  | ok directory =>
    dsimp only
    by_cases hname : p.name = [] ∨ p.name = above
    · rw [if_pos (by simpa using hname)]
      rcases hname with hname | hname <;> simp [hname]
    · rw [if_neg (by simpa using hname), hsource]
      rw [not_or] at hname
      cases hfollow : t.follow directory p.name with
      | error problem => simp
      | ok target =>
        dsimp only
        split
        case h_1 htarget => simp [htarget]
        case h_2 htarget => simpa [hname] using htarget

theorem rename_set_iff {t : Tree} {source : Location} (hfree : t.get? source = none) (content : Bytes)
    (p : Path) : (∃ t', (t.set source (.file content)).rename source p = .ok t') ↔ t.replaceable p = true := by
  have hnot : t.get? source ≠ some .directory := by rw [hfree]; exact fun h => nomatch h
  have hne := ne_root_of_get? hnot
  have hsource : (t.set source (.file content)).get? source = some (.file content) := by
    rw [get?_set t hne, if_pos rfl]
  have hkeeps := keeps_set t hnot (.file content)
  have hback := keeps_of_set (t := t) hne content
  rw [rename_iff hsource]
  exact ⟨replaceable_of_keeps hback hkeeps, replaceable_of_keeps hkeeps hback⟩

end Tree

end Disk

end GroundedDialogue
