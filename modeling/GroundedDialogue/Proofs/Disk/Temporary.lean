import GroundedDialogue.Proofs.Disk.Path
import Mathlib.Data.List.Nodup
import Mathlib.Data.List.Perm.Subperm

/-!
# Temporary files

A temporary file gets a name that nothing in its directory has: the possible names differ from each
other (`Tree.temporaryName_inj`), and there is one more of them than there are entries in the tree. So
`Tree.createTemporary` makes a file where there was nothing (`Tree.createTemporary_ok`), and the text
of its place leads to it.
-/

namespace GroundedDialogue

theorem Rune.ofChar_inj {c d : Char} (h : ofChar c = ofChar d) : c = d := by
  have hval := congrArg Fin.val h
  exact Char.toNat_inj.mp hval

namespace Disk

namespace Tree

/-! ## The names -/

/-- A number in base ten with zeros before it, up to eight digits. -/
def paddedDigits (i : Nat) : List Char :=
  List.replicate (8 - (Nat.toDigits 10 i).length) '0' ++ Nat.toDigits 10 i

theorem temporaryMiddle_zero : temporaryMiddle 0 = List.replicate 8 (Rune.ofChar 'X') := rfl

theorem temporaryMiddle_of_ne_zero {i : Nat} (hi : i ≠ 0) :
    temporaryMiddle i = (paddedDigits i).map Rune.ofChar := by
  rw [temporaryMiddle, if_neg hi, paddedDigits, List.map_append, List.map_replicate]
  simp [Text.ofNat]

theorem isDigit_of_mem_paddedDigits {i : Nat} {c : Char} (hc : c ∈ paddedDigits i) :
    c.isDigit = true := by
  rcases List.mem_append.mp hc with hc | hc
  · rw [List.eq_of_mem_replicate hc]
    rfl
  · exact Nat.isDigit_of_mem_toDigits (by decide) (by decide) hc

theorem ofDigitChars_paddedDigits (i : Nat) : Nat.ofDigitChars 10 (paddedDigits i) 0 = i := by
  rw [paddedDigits, Nat.ofDigitChars_append, Nat.ofDigitChars_replicate_zero, Nat.mul_zero,
    Nat.ofDigitChars_ten_toDigits]

theorem not_mem_temporaryMiddle {c : Char} (hdigit : c.isDigit = false) (hc : c ≠ 'X') (i : Nat) :
    Rune.ofChar c ∉ temporaryMiddle i := by
  intro h
  by_cases hi : i = 0
  · rw [hi, temporaryMiddle_zero] at h
    exact hc (Rune.ofChar_inj (List.eq_of_mem_replicate h))
  · rw [temporaryMiddle_of_ne_zero hi] at h
    obtain ⟨d, hd, hrune⟩ := List.mem_map.mp h
    rw [← Rune.ofChar_inj hrune, isDigit_of_mem_paddedDigits hd] at hdigit
    exact absurd hdigit (by decide)

theorem temporaryMiddle_inj {i j : Nat} (h : temporaryMiddle i = temporaryMiddle j) : i = j := by
  have hzero : ∀ n, n ≠ 0 → temporaryMiddle 0 ≠ temporaryMiddle n := by
    intro n hn heq
    have hmem : Rune.ofChar 'X' ∈ temporaryMiddle n := by
      rw [← heq]
      decide
    rw [temporaryMiddle_of_ne_zero hn] at hmem
    obtain ⟨d, hd, hrune⟩ := List.mem_map.mp hmem
    have hdigit := isDigit_of_mem_paddedDigits hd
    rw [Rune.ofChar_inj hrune] at hdigit
    exact absurd hdigit (by decide)
  by_cases hi : i = 0
  · by_cases hj : j = 0
    · rw [hi, hj]
    · exact absurd (hi ▸ h) (hzero j hj)
  · by_cases hj : j = 0
    · exact absurd (hj ▸ h).symm (hzero i hi)
    · rw [temporaryMiddle_of_ne_zero hi, temporaryMiddle_of_ne_zero hj] at h
      have hdigits := List.map_inj_right (fun _ _ => Rune.ofChar_inj) |>.mp h
      rw [← ofDigitChars_paddedDigits i, hdigits, ofDigitChars_paddedDigits]

theorem temporaryName_inj {name : Text} {i j : Nat} (h : temporaryName name i = temporaryName name j) :
    i = j := by
  simp only [temporaryName, List.append_assoc] at h
  have hrest := List.append_cancel_left (List.append_cancel_left (List.append_cancel_left h))
  exact temporaryMiddle_inj (List.append_cancel_right hrest)

theorem lt_length_temporaryName (name : Text) (i : Nat) : 5 < (temporaryName name i).length := by
  have hdot : (Text.ofString ".").length = 1 := by decide
  have hending : (Text.ofString ".tmp").length = 4 := by decide
  simp only [temporaryName, List.length_append, hdot, hending]
  omega

theorem isName_temporaryName {name : Text} (hname : slash ∉ name) (i : Nat) :
    IsName (temporaryName name i) := by
  have hlength := lt_length_temporaryName name i
  refine ⟨?_, ?_, ?_, ?_⟩
  · intro h
    rw [h] at hlength
    exact absurd hlength (by decide)
  · have hdot : slash ∉ Text.ofString "." := by decide
    have hending : slash ∉ Text.ofString ".tmp" := by decide
    have hmiddle : slash ∉ temporaryMiddle i := not_mem_temporaryMiddle (by decide) (by decide) i
    simp only [temporaryName, List.mem_append, not_or]
    exact ⟨⟨⟨⟨hdot, hname⟩, hdot⟩, hmiddle⟩, hending⟩
  · intro h
    rw [h] at hlength
    exact absurd hlength (by decide)
  · intro h
    rw [h] at hlength
    exact absurd hlength (by decide)

/-! ## A free name -/

theorem mem_nodes_of_get? {t : Tree} {l : Location} (hl : l ≠ []) (h : (t.get? l).isSome = true) :
    l ∈ t.nodes.map Prod.fst := by
  rw [get?_of_ne hl] at h
  obtain ⟨entry, hentry, hplace⟩ := List.lookup_isSome_iff.mp h
  rw [beq_iff_eq.mp hplace]
  exact List.mem_map_of_mem hentry

/-- There are more names for a temporary file than entries of the tree, so one of them is free. -/
theorem get?_freshName (t : Tree) (directory : Location) (name : Text) :
    t.get? (directory ++ [t.freshName directory name]) = none := by
  let place (i : Nat) : Location := directory ++ [temporaryName name i]
  let candidates := List.range (t.nodes.length + 1)
  have hplace : ∀ i, place i ≠ [] := fun i => List.append_ne_nil_of_right_ne_nil _ (List.cons_ne_nil _ _)
  have hname : t.freshName directory name
      = temporaryName name ((candidates.find? fun i => !(t.get? (place i)).isSome).getD 0) := rfl
  rw [hname]
  cases hfind : candidates.find? fun i => !(t.get? (place i)).isSome with
  | some i =>
    have hfree := List.find?_some hfind
    simpa using hfree
  | none =>
    have htaken : ∀ i ∈ candidates, (t.get? (place i)).isSome = true := by
      intro i hi
      have hnot := List.find?_eq_none.mp hfind i hi
      rwa [Bool.not_eq_true', Bool.not_eq_false] at hnot
    have hnodup : (candidates.map place).Nodup := by
      refine List.Nodup.map_on ?_ List.nodup_range
      intro i _ j _ heq
      exact temporaryName_inj (List.singleton_inj.mp (List.append_cancel_left heq))
    have hsubset : candidates.map place ⊆ t.nodes.map Prod.fst := by
      intro l hl
      obtain ⟨i, hi, rfl⟩ := List.mem_map.mp hl
      exact mem_nodes_of_get? (hplace i) (htaken i hi)
    have hle := (hnodup.subperm hsubset).length_le
    rw [List.length_map, List.length_map, List.length_range] at hle
    omega

/-! ## A new file -/

theorem freshName_eq (t : Tree) (directory : Location) (name : Text) :
    ∃ i, t.freshName directory name = temporaryName name i :=
  ⟨_, rfl⟩

theorem isName_temporary {p : Path} (hp : p.Tidy) (t : Tree) :
    (∀ part ∈ p.parent.location ++ [t.freshName p.parent.location p.name], IsName part) ∧
      p.parent.location ++ [t.freshName p.parent.location p.name] ≠ workingDirectory := by
  obtain ⟨i, hi⟩ := t.freshName_eq p.parent.location p.name
  rw [hi]
  constructor
  · intro part hpart
    rcases List.mem_append.mp hpart with hpart | hpart
    · exact hp.parent.isName_of_mem_location part hpart
    · rw [List.mem_singleton.mp hpart]
      exact isName_temporaryName hp.slash_not_mem_name i
  · intro hwork
    have hlast := congrArg List.getLast? hwork
    rw [List.getLast?_concat] at hlast
    have hlength := lt_length_temporaryName p.name i
    rw [Option.some.inj hlast] at hlength
    exact absurd hlength (by decide)

theorem createTemporary_eq_ok {p : Path} (hp : p.Tidy) {t t' : Tree} {l : Location}
    (h : t.createTemporary p = .ok (l, t')) :
    checkPath p.text = .ok () ∧ l = p.parent.location ++ [t.freshName p.parent.location p.name] ∧
      l.foldlM t.follow [] = .ok l ∧ t' = t.set l (.file []) := by
  obtain ⟨hnames, -⟩ := isName_temporary hp t
  rw [createTemporary] at h
  cases hcheck : checkPath p.text with
  | error e =>
    rw [hcheck] at h
    cases h
  | ok =>
    rw [hcheck] at h
    dsimp only [Except.mapError, bind, Except.bind] at h
    cases hfollow : (p.parent.location ++ [t.freshName p.parent.location p.name]).foldlM t.follow [] with
    | error problem =>
      rw [hfollow] at h
      cases h
    | ok place =>
      rw [hfollow] at h
      cases h
      obtain rfl := foldlM_follow_names hnames hfollow
      rw [List.nil_append] at hfollow ⊢
      exact ⟨rfl, rfl, hfollow, rfl⟩

theorem createTemporary_ok {p : Path} (hp : p.Tidy) {t t' : Tree} {l : Location}
    (h : t.createTemporary p = .ok (l, t')) :
    checkPath p.text = .ok () ∧ l ≠ [] ∧ t.get? l = none ∧ t' = t.set l (.file []) ∧
      t'.locate (Location.text l) = .ok l := by
  obtain ⟨hcheck, hplace, hfollow, rfl⟩ := createTemporary_eq_ok hp h
  obtain ⟨hnames, hwork⟩ := isName_temporary hp t
  have hfree := t.get?_freshName p.parent.location p.name
  rw [← hplace] at hnames hwork hfree
  have hne : l ≠ [] := by
    rw [hplace]
    exact List.append_ne_nil_of_right_ne_nil _ (List.cons_ne_nil _ _)
  have hkeeps : t.Keeps (t.set l (.file [])) := keeps_set t (by rw [hfree]; exact fun h => nomatch h) _
  refine ⟨hcheck, hne, hfree, rfl, ?_⟩
  rw [Location.locate_text hne hwork hnames]
  exact foldlM_follow_of_keeps hkeeps hfollow

/-! ## Renaming -/

theorem rename_ok {p : Path} (hp : p.Tidy) {t t' : Tree} {source : Location}
    (h : t.rename source p = .ok t') :
    ∃ target content, t.locate p.text = .ok target ∧ t.get? source = some (.file content) ∧
      t.get? target ≠ some .directory ∧ t' = (t.erase source).set target (.file content) := by
  rw [rename] at h
  cases hdirectory : t.locate p.parent.text with
  | error problem =>
    rw [hdirectory] at h
    cases h
  | ok directory =>
    rw [hdirectory] at h
    dsimp only at h
    by_cases hname : p.name = [] ∨ p.name = above
    · rw [if_pos (by simpa using hname)] at h
      cases h
    · rw [if_neg (by simpa using hname)] at h
      have hlocate := hp.locate_name (fun hnil => hname (Or.inl hnil)) hdirectory
      cases hfollow : t.follow directory p.name with
      | error problem =>
        rw [hfollow] at h
        cases h
      | ok target =>
        rw [hfollow] at h hlocate
        cases hsource : t.get? source with
        | none =>
          rw [hsource] at h
          cases h
        | some node =>
          cases node with
          | directory =>
            rw [hsource] at h
            cases h
          | file content =>
            rw [hsource] at h
            dsimp only at h
            split at h
            case h_1 => cases h
            case h_2 htarget =>
              cases h
              exact ⟨target, content, hlocate, rfl, htarget, rfl⟩

theorem rename_set {p : Path} (hp : p.Tidy) {t t' : Tree} {source : Location} {content : Bytes}
    (hfree : t.get? source = none) (h : (t.set source (.file content)).rename source p = .ok t') :
    ∃ target, t.locate p.text = .ok target ∧ t.get? target ≠ some .directory ∧
      t' = t.set target (.file content) := by
  obtain ⟨target, content', hlocate, hcontent, htarget, rfl⟩ := rename_ok hp h
  have hne : source ≠ [] := ne_root_of_get? (by rw [hfree]; exact fun h => nomatch h)
  rw [get?_set t hne, if_pos rfl] at hcontent
  cases hcontent
  refine ⟨target, locate_of_keeps (keeps_of_set hne content) hlocate, ?_, ?_⟩
  · intro hdirectory
    have hkept := keeps_set t (by rw [hfree]; exact fun h => nomatch h) (.file content) target hdirectory
    exact htarget hkept
  · rw [erase_set, erase_of_get?_eq_none hfree]

end Tree

end Disk

end GroundedDialogue
