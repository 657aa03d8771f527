import GroundedDialogue.Proofs.Generation.StopMarker
import GroundedDialogue.Reply.Cleanup
import Mathlib.Data.List.DropRight

/-!
# What cleaning leaves

What is left of a reply is a part of it (`Reply.clean_isInfix`), without padding around it and without
control tags. It may still begin with something that cleaning takes off, since every kind of beginning
is looked for once and what follows it may be of a kind that was looked for before. To clean a cleaned
reply again changes it exactly then (`clean_clean_iff`).
-/

namespace GroundedDialogue.Reply

/-! ## Nothing is added -/

theorem trimStart_isSuffix (p : Rune → Bool) (t : Text) : t.trimStart p <:+ t := List.dropWhile_suffix p

theorem trimEnd_isPrefix (p : Rune → Bool) (t : Text) : t.trimEnd p <+: t := List.rdropWhile_prefix p t

theorem trimQuotesFrom_isSuffix (afterQuote : Bool) (t : Text) : trimQuotesFrom afterQuote t <:+ t := by
  induction t generalizing afterQuote with
  | nil => exact List.suffix_rfl
  | cons r t ih =>
    rw [trimQuotesFrom]
    split_ifs
    · exact (ih true).trans (List.suffix_cons r t)
    · exact List.suffix_rfl

theorem trimQuotes_isSuffix (t : Text) : trimQuotes t <:+ t := trimQuotesFrom_isSuffix false t

theorem stripLabel_isSuffix (label t : Text) : stripLabel t label <:+ t := by
  rw [stripLabel]
  split_ifs
  · exact (trimStart_isSuffix _ _).trans (List.drop_suffix _ t)
  · exact List.suffix_rfl

theorem after?_eq_some_iff {start t rest : Text} : Text.after? start t = some rest ↔ t = start ++ rest := by
  induction start generalizing t with
  | nil => simp [Text.after?, eq_comm]
  | cons a start ih =>
    cases t with
    | nil => simp [Text.after?]
    | cons b t =>
      rw [Text.after?]
      split_ifs with hab
      · simp [ih, hab]
      · simp [Ne.symm hab]

def withoutTag (t : Text) : Text :=
  match Text.after? contextTag t with
  | some rest => rest.trimStart isPadding
  | none => t

theorem withoutTag_isSuffix (t : Text) : withoutTag t <:+ t := by
  rw [withoutTag]
  cases hafter : Text.after? contextTag t with
  | none => exact List.suffix_rfl
  | some rest =>
    rw [after?_eq_some_iff.mp hafter]
    exact (trimStart_isSuffix _ _).trans (List.suffix_append _ _)

theorem withoutLabels_eq (raw : Text) :
    withoutLabels raw = withoutTag (rolePrefixes.foldl stripLabel (trimQuotes (raw.trimStart isPadding))) := by
  unfold withoutLabels
  dsimp only
  generalize rolePrefixes.foldl stripLabel (trimQuotes (raw.trimStart isPadding)) = t
  rfl

theorem cutAtFirst_isPrefix (tags : List Text) (t : Text) : cutAtFirst tags t <+: t := List.take_prefix _ t

theorem dropEcho_isSuffix (t name : Text) : dropEcho t name <:+ t.drop name.length :=
  (trimQuotes_isSuffix _).trans <| (trimStart_isSuffix _ _).trans (trimStart_isSuffix _ _)

theorem dropEchoes_isSuffix (name : Text) (fuel : Nat) (t : Text) : dropEchoes name fuel t <:+ t := by
  induction fuel generalizing t with
  | zero => exact List.suffix_rfl
  | succ fuel ih =>
    rw [dropEchoes]
    split_ifs
    · exact (ih _).trans ((dropEcho_isSuffix t name).trans (List.drop_suffix _ t))
    · exact List.suffix_rfl

theorem withoutEchoes_isSuffix (t : Text) (speaker : Option Text) : withoutEchoes t speaker <:+ t := by
  unfold withoutEchoes
  split
  · exact List.suffix_rfl
  · exact List.suffix_rfl
  · exact dropEchoes_isSuffix _ _ t

/-- The steps of cleaning, in their order. -/
def steps (speaker : Option Text) : List (Text → Text) :=
  [fun t => t.trimStart isPadding, trimQuotes] ++ rolePrefixes.map (fun label t => stripLabel t label) ++
    [withoutTag, cutAtFirst cutTags, fun t => withoutEchoes t speaker, fun t => t.trimEnd isPadding]

theorem clean_eq_foldl (raw : Text) (speaker : Option Text) :
    clean raw speaker = (steps speaker).foldl (fun t step => step t) raw := by
  simp only [steps, List.foldl_append, List.foldl_map, List.foldl_cons, List.foldl_nil]
  rw [clean, withoutLabels_eq]

theorem isInfix_of_mem_steps {speaker : Option Text} :
    ∀ step ∈ steps speaker, ∀ t, step t <:+: t := by
  simp only [steps, List.forall_mem_append, List.forall_mem_map, List.forall_mem_cons, List.not_mem_nil,
    false_implies, implies_true, and_true]
  exact ⟨⟨⟨fun t => (trimStart_isSuffix _ t).isInfix, fun t => (trimQuotes_isSuffix t).isInfix⟩,
    fun label _ t => (stripLabel_isSuffix label t).isInfix⟩, fun t => (withoutTag_isSuffix t).isInfix,
    fun t => (cutAtFirst_isPrefix _ t).isInfix, fun t => (withoutEchoes_isSuffix t speaker).isInfix,
    fun t => (trimEnd_isPrefix _ t).isInfix⟩

theorem foldl_isInfix {steps : List (Text → Text)} (hsteps : ∀ step ∈ steps, ∀ t, step t <:+: t) (t : Text) :
    steps.foldl (fun t step => step t) t <:+: t := by
  induction steps generalizing t with
  | nil => exact List.infix_rfl
  | cons step steps ih =>
    obtain ⟨hstep, hsteps⟩ := List.forall_mem_cons.mp hsteps
    exact (ih hsteps _).trans (hstep t)

theorem clean_isInfix (raw : Text) (speaker : Option Text) : clean raw speaker <:+: raw := by
  rw [clean_eq_foldl]
  exact foldl_isInfix isInfix_of_mem_steps raw

/-- Where every step takes away, nothing is taken away exactly if no step takes anything. -/
theorem foldl_eq_self_iff {steps : List (Text → Text)} (hsteps : ∀ step ∈ steps, ∀ t, step t <:+: t)
    {t : Text} : steps.foldl (fun t step => step t) t = t ↔ ∀ step ∈ steps, step t = t := by
  induction steps with
  | nil => simp
  | cons step steps ih =>
    obtain ⟨hstep, hsteps⟩ := List.forall_mem_cons.mp hsteps
    rw [List.foldl_cons, List.forall_mem_cons, ← ih hsteps]
    constructor
    · intro h
      -- the first step has left a part of the text, of which the whole text is a part
      have hrest := foldl_isInfix hsteps (step t)
      rw [h] at hrest
      have hfixed := List.infix_antisymm (hstep t) hrest
      rw [hfixed] at h
      exact ⟨hfixed, h⟩
    · rintro ⟨hfixed, hrest⟩
      rw [hfixed, hrest]

/-! ## No padding in front -/

def Flush (t : Text) : Prop := ∀ r ∈ t.head?, isPadding r = false

theorem Flush.of_isPrefix {t t' : Text} (ht : Flush t) (h : t' <+: t) : Flush t' := by
  obtain ⟨rest, rfl⟩ := h
  cases t' with
  | nil => exact fun r hr => nomatch hr
  | cons r t' => exact ht

theorem flush_trimStart (t : Text) : Flush (t.trimStart isPadding) := by
  intro r hr
  have hnot := List.head?_dropWhile_not isPadding t
  rw [Text.trimStart, Option.mem_def] at hr
  rw [hr] at hnot
  exact hnot

theorem trimStart_eq_self_iff {t : Text} : t.trimStart isPadding = t ↔ Flush t := by
  constructor
  · intro h
    rw [← h]
    exact flush_trimStart t
  · intro h
    cases t with
    | nil => rfl
    | cons r t => exact List.dropWhile_cons_of_neg (by simp [h r rfl])

theorem flush_trimQuotesFrom {t : Text} (afterQuote : Bool) (h : afterQuote = true ∨ Flush t) :
    Flush (trimQuotesFrom afterQuote t) := by
  induction t generalizing afterQuote with
  | nil => exact fun r hr => nomatch hr
  | cons r t ih =>
    rw [trimQuotesFrom]
    split_ifs with hr
    · exact ih true (Or.inl rfl)
    · rcases h with rfl | h
      · intro r' hr'
        cases hr'
        simp at hr
        exact hr.2
      · exact h

theorem flush_stripLabel {t : Text} (ht : Flush t) (label : Text) : Flush (stripLabel t label) := by
  rw [stripLabel]
  split_ifs
  · exact flush_trimStart _
  · exact ht

theorem flush_withoutTag {t : Text} (ht : Flush t) : Flush (withoutTag t) := by
  rw [withoutTag]
  cases Text.after? contextTag t with
  | none => exact ht
  | some rest => exact flush_trimStart rest

theorem flush_dropEchoes (name : Text) (fuel : Nat) {t : Text} (ht : Flush t) :
    Flush (dropEchoes name fuel t) := by
  induction fuel generalizing t with
  | zero => exact ht
  | succ fuel ih =>
    rw [dropEchoes]
    split_ifs
    · exact ih (flush_trimQuotesFrom false (Or.inr (flush_trimStart _)))
    · exact ht

theorem flush_withoutEchoes {t : Text} (ht : Flush t) (speaker : Option Text) :
    Flush (withoutEchoes t speaker) := by
  unfold withoutEchoes
  split
  · exact ht
  · exact ht
  · exact flush_dropEchoes _ _ ht

/-! ## No control tags -/

theorem foldl_eq_foldl_min {step : Nat → Text → Nat} {t : Text}
    (hnone : ∀ n tag, Text.find? tag t = none → step n tag = n)
    (hsome : ∀ n tag offset, Text.find? tag t = some offset → step n tag = min n offset)
    (tags : List Text) (n : Nat) :
    tags.foldl step n = (tags.filterMap fun tag => Text.find? tag t).foldl min n := by
  induction tags generalizing n with
  | nil => rfl
  | cons tag tags ih =>
    rw [List.foldl_cons, ih, List.filterMap_cons]
    cases hfind : Text.find? tag t with
    | none => rw [hnone n tag hfind]
    | some offset => rw [hsome n tag offset hfind, List.foldl_cons]

theorem cutAtFirst_eq_cut {tags : List Text} (htags : ∀ tag ∈ tags, tag ≠ []) (t : Text) :
    cutAtFirst tags t = StopMarker.cut tags t := by
  have hall : tags.filter (!·.isEmpty) = tags := by
    rw [List.filter_eq_self]
    intro tag htag
    simp [htags tag htag]
  rw [cutAtFirst, foldl_eq_foldl_min (t := t), StopMarker.cut, StopMarker.earliest, hall]
  · intro n tag hfind
    simp only [hfind]
  · intro n tag offset hfind
    simp only [hfind]
    split_ifs <;> omega

theorem cutTags_ne_nil : ∀ tag ∈ cutTags, tag ≠ [] := by decide

theorem cutAtFirst_eq_self_iff {t : Text} :
    cutAtFirst cutTags t = t ↔ ¬StopMarker.Contains cutTags t := by
  rw [cutAtFirst_eq_cut cutTags_ne_nil, StopMarker.cut, List.take_eq_self_iff,
    ← StopMarker.earliest_lt_length_iff, Nat.not_lt]

theorem not_contains_cutAtFirst (t : Text) : ¬StopMarker.Contains cutTags (cutAtFirst cutTags t) := by
  rw [cutAtFirst_eq_cut cutTags_ne_nil]
  rintro ⟨tag, htag, hne, hinfix⟩
  exact StopMarker.not_isInfix_cut htag hne t hinfix

/-! ## What a single step leaves alone -/

variable {t : Text}

theorem trimQuotes_eq_self_iff : trimQuotes t = t ↔ ∀ r ∈ t.head?, isQuote r = false := by
  cases t with
  | nil => simp [trimQuotes, trimQuotesFrom]
  | cons r t =>
    rw [trimQuotes, trimQuotesFrom]
    cases hr : isQuote r with
    | false => simp [hr]
    | true =>
      have hlength := (trimQuotesFrom_isSuffix true t).length_le
      simp only [Bool.true_or, if_true, List.head?_cons, Option.mem_some_iff, forall_eq', hr]
      constructor
      · intro h
        rw [h, List.length_cons] at hlength
        omega
      · intro h
        cases h

theorem stripLabel_eq_self_iff (ht : t ≠ []) {label : Text} (hlabel : label ≠ []) :
    stripLabel t label = t ↔ startsWithIgnoringCase t label = false := by
  have hpos := List.length_pos_iff.mpr ht
  have hlabelPos := List.length_pos_iff.mpr hlabel
  rw [stripLabel]
  split_ifs with hstart
  · have hlength := (trimStart_isSuffix isPadding (t.drop label.length)).length_le
    rw [List.length_drop] at hlength
    simp only [hstart, Bool.true_eq_false, iff_false]
    intro h
    rw [h] at hlength
    omega
  · simpa using hstart

theorem withoutTag_eq_self_iff : withoutTag t = t ↔ ¬contextTag <+: t := by
  rw [withoutTag]
  cases hafter : Text.after? contextTag t with
  | none =>
    simp only [true_iff]
    rintro ⟨rest, hrest⟩
    rw [after?_eq_some_iff.mpr hrest.symm] at hafter
    cases hafter
  | some rest =>
    have hlength := (trimStart_isSuffix isPadding rest).length_le
    obtain rfl := after?_eq_some_iff.mp hafter
    simp only [List.prefix_append, not_true_eq_false, iff_false]
    intro h
    rw [h, List.length_append] at hlength
    have htag : contextTag.length = 9 := by decide
    omega

theorem withoutEchoes_eq_self_iff (ht : t ≠ []) {name : Text} :
    withoutEchoes t (some name) = t ↔ name = [] ∨ startsWithName t name = false := by
  cases name with
  | nil => simp [withoutEchoes]
  | cons r rest =>
    obtain ⟨n, hn⟩ := Nat.exists_eq_succ_of_ne_zero (List.length_pos_iff.mpr ht).ne'
    simp only [withoutEchoes, hn, Nat.succ_eq_add_one, dropEchoes, reduceCtorEq, false_or]
    cases hstart : startsWithName t (r :: rest) with
    | false => simp
    | true =>
      have hechoes := (dropEchoes_isSuffix (r :: rest) n (dropEcho t (r :: rest))).length_le
      have hecho := (dropEcho_isSuffix t (r :: rest)).length_le
      rw [List.length_drop, List.length_cons] at hecho
      simp only [if_true, Bool.true_eq_false, iff_false]
      intro h
      rw [h] at hechoes
      omega

/-! ## What cleaning leaves alone -/

/-- The text begins with something that cleaning takes off. -/
inductive Strips (name : Text) (t : Text) : Prop
  | quote {r : Rune} (h : r ∈ t.head?) (hquote : isQuote r = true) : Strips name t
  | label {label : Text} (hlabel : label ∈ rolePrefixes) (h : startsWithIgnoringCase t label = true) :
    Strips name t
  | tag (h : contextTag <+: t) : Strips name t
  | echo (hname : name ≠ []) (h : startsWithName t name = true) : Strips name t

theorem not_strips_iff {name : Text} :
    ¬Strips name t ↔ (∀ r ∈ t.head?, isQuote r = false) ∧
      (∀ label ∈ rolePrefixes, startsWithIgnoringCase t label = false) ∧ ¬contextTag <+: t ∧
      (name = [] ∨ startsWithName t name = false) := by
  constructor
  · intro h
    refine ⟨fun r hr => ?_, fun label hlabel => ?_, fun htag => h (.tag htag), ?_⟩
    · exact Bool.eq_false_iff.mpr fun hquote => h (.quote hr hquote)
    · exact Bool.eq_false_iff.mpr fun hstart => h (.label hlabel hstart)
    · by_cases hname : name = []
      · exact Or.inl hname
      · exact Or.inr (Bool.eq_false_iff.mpr fun hstart => h (.echo hname hstart))
  · rintro ⟨hquote, hlabel, htag, hecho⟩ (⟨hr, hr'⟩ | ⟨hmem, hstart⟩ | h | ⟨hname, hstart⟩)
    · rw [hquote _ hr] at hr'
      cases hr'
    · rw [hlabel _ hmem] at hstart
      cases hstart
    · exact htag h
    · rw [hecho.resolve_left hname] at hstart
      cases hstart

theorem rolePrefixes_ne_nil : ∀ label ∈ rolePrefixes, label ≠ [] := by decide

theorem clean_eq_self_iff (ht : t ≠ []) {name : Text} :
    clean t (some name) = t ↔
      Flush t ∧ t.trimEnd isPadding = t ∧ ¬StopMarker.Contains cutTags t ∧ ¬Strips name t := by
  have hlabels : (∀ label ∈ rolePrefixes, stripLabel t label = t) ↔
      ∀ label ∈ rolePrefixes, startsWithIgnoringCase t label = false :=
    forall₂_congr fun label hlabel => stripLabel_eq_self_iff ht (rolePrefixes_ne_nil label hlabel)
  rw [clean_eq_foldl, foldl_eq_self_iff isInfix_of_mem_steps, not_strips_iff]
  simp only [steps, List.forall_mem_append, List.forall_mem_map, List.forall_mem_cons, List.not_mem_nil,
    false_implies, implies_true, and_true, trimStart_eq_self_iff, trimQuotes_eq_self_iff, hlabels,
    withoutTag_eq_self_iff, cutAtFirst_eq_self_iff, withoutEchoes_eq_self_iff ht]
  tauto

theorem flush_clean (raw : Text) (speaker : Option Text) : Flush (clean raw speaker) := by
  have hlabels : ∀ (labels : List Text) (t : Text), Flush t → Flush (labels.foldl stripLabel t) := by
    intro labels
    induction labels with
    | nil => exact fun t ht => ht
    | cons label labels ih => exact fun t ht => ih _ (flush_stripLabel ht label)
  have hbegin : Flush (withoutLabels raw) := by
    rw [withoutLabels_eq]
    exact flush_withoutTag (hlabels _ _ (flush_trimQuotesFrom false (Or.inr (flush_trimStart raw))))
  have hcut : Flush (cutAtFirst cutTags (withoutLabels raw)) := hbegin.of_isPrefix (cutAtFirst_isPrefix _ _)
  rw [clean]
  exact (flush_withoutEchoes hcut speaker).of_isPrefix (trimEnd_isPrefix _ _)

theorem not_contains_clean (raw : Text) (speaker : Option Text) :
    ¬StopMarker.Contains cutTags (clean raw speaker) := by
  rintro ⟨tag, htag, hne, hinfix⟩
  have hpart : clean raw speaker <:+: cutAtFirst cutTags (withoutLabels raw) :=
    (trimEnd_isPrefix _ _).isInfix.trans (withoutEchoes_isSuffix _ speaker).isInfix
  exact not_contains_cutAtFirst _ ⟨tag, htag, hne, hinfix.trans hpart⟩

/-- **A reply that was cleaned stays as it is when it is cleaned again, unless it begins with something
that cleaning takes off.** -/
theorem clean_clean_iff {raw name : Text} (h : clean raw (some name) ≠ []) :
    clean (clean raw (some name)) (some name) = clean raw (some name) ↔
      ¬Strips name (clean raw (some name)) := by
  have hend : (clean raw (some name)).trimEnd isPadding = clean raw (some name) :=
    List.rdropWhile_idempotent isPadding _
  rw [clean_eq_self_iff h, hend]
  simp [flush_clean, not_contains_clean]

end GroundedDialogue.Reply
