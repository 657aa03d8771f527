import GroundedDialogue.Proofs.Reply.Echoes

/-!
# Replies behind echoes of a name

However often a name is echoed in front of a text, in whatever case and with whatever separators, padding
and quotes after it, cleaning takes off the echoes and leaves the text (`clean_echoes`). Nothing else of
cleaning interferes: an echo is no label unless the name is that of a role (`Echo.not_label`), and it
holds nothing that begins a tag (`Echo.not_mem`).
-/

namespace GroundedDialogue.Reply

/-- The names of roles, in lower case. -/
def roleNames : List Text := ["answer", "npc", "context", "system"]

/-- A word of ASCII letters that is not the name of a role. -/
structure IsName (name : Text) : Prop where
  ne_nil : name ≠ []
  letters : ∀ r ∈ name, r.isAsciiLetter = true
  noRole : Text.lower name ∉ roleNames

/-- One echo of a name: the name in any case, separators, and padding and quotes after them. -/
structure Echo (name echo : Text) : Prop where
  spelled : ∃ separators marks, Spelled name echo (separators ++ marks) ∧ separators ≠ [] ∧
    (∀ r ∈ separators, isSeparator r = true) ∧ ∀ r ∈ marks, isQuote r = true ∨ isPadding r = true

/-- The text begins with no separator, quote or padding. -/
def Unmarked (t : Text) : Prop :=
  ∀ r ∈ t.head?, isSeparator r = false ∧ isQuote r = false ∧ isPadding r = false

/-- The text holds no control tag and begins with nothing that cleaning takes off. -/
structure Bare (name b : Text) : Prop where
  unmarked : Unmarked b
  noLabel : ∀ label ∈ rolePrefixes, ¬∃ rest, Spelled label b rest
  noContext : ¬contextTag <+: b
  noName : ¬BeginsWithName name b
  noTag : ∀ tag ∈ cutTags, ¬tag <:+: b

/-! ## Separators, quotes and padding -/

theorem isAscii_of_mark {r : Rune} (h : isSeparator r = true ∨ isQuote r = true ∨ isPadding r = true) :
    r.IsAscii ∧ r.isAsciiLetter = false := by
  simp only [isSeparator, isQuote, isPadding, Bool.or_eq_true, decide_eq_true_eq] at h
  rcases h with ((rfl | rfl) | rfl) | ((rfl | rfl) | rfl) | ((rfl | rfl) | rfl) | rfl <;> decide

theorem not_mark_of_letter {r : Rune} (h : r.toLower.isAsciiLetter = true) :
    isSeparator r = false ∧ isQuote r = false ∧ isPadding r = false := by
  have hnot : ¬(isSeparator r = true ∨ isQuote r = true ∨ isPadding r = true) := by
    intro hmark
    obtain ⟨hascii, hletter⟩ := isAscii_of_mark hmark
    rw [Rune.isAsciiLetter_toLower hascii, hletter] at h
    cases h
  simpa [not_or] using hnot

theorem not_isSeparator {r : Rune} (h : isQuote r = true ∨ isPadding r = true) : isSeparator r = false := by
  simp only [isQuote, isPadding, Bool.or_eq_true, decide_eq_true_eq] at h
  rcases h with ((rfl | rfl) | rfl) | ((rfl | rfl) | rfl) | rfl <;> decide

variable {name b t : Text}

theorem dropWhile_append_eq {p : Rune → Bool} {before : Text} (hbefore : ∀ r ∈ before, p r = true)
    (ht : ∀ r ∈ t.head?, p r = false) : (before ++ t).dropWhile p = t := by
  rw [List.dropWhile_append_of_pos hbefore]
  cases t with
  | nil => rfl
  | cons r t => exact List.dropWhile_cons_of_neg (by simp [ht r rfl])

theorem trimQuotesFrom_true (t : Text) :
    trimQuotesFrom true t = t.dropWhile fun r => isQuote r || isPadding r := by
  induction t with
  | nil => rfl
  | cons r t ih => simp [trimQuotesFrom, List.dropWhile_cons, ih]

theorem trimQuotes_trimStart (t : Text) :
    trimQuotes (t.trimStart isPadding) = t.dropWhile fun r => isQuote r || isPadding r := by
  induction t with
  | nil => rfl
  | cons r t ih =>
    rw [Text.trimStart] at ih ⊢
    cases hpadding : isPadding r with
    | true => simp [hpadding, ih]
    | false => cases hquote : isQuote r <;> simp [hpadding, hquote, trimQuotes, trimQuotesFrom, trimQuotesFrom_true]

theorem dropWhile_marks_append {marks : Text} (hmarks : ∀ r ∈ marks, isQuote r = true ∨ isPadding r = true)
    (ht : Unmarked t) : ((marks ++ t).dropWhile fun r => isQuote r || isPadding r) = t :=
  dropWhile_append_eq (by simpa using hmarks) fun r hr => by simp [ht r hr]

/-! ## One echo -/

section

variable (hname : IsName name)
include hname

theorem IsName.isAscii : ∀ r ∈ name, r.IsAscii := fun r hr => Rune.isAscii_of_isAsciiLetter (hname.letters r hr)

theorem IsName.letters_toLower : ∀ r ∈ name.map Rune.toLower, r.isAsciiLetter = true := by
  rw [List.forall_mem_map]
  intro r hr
  rw [Rune.isAsciiLetter_toLower (hname.isAscii r hr), hname.letters r hr]

theorem IsName.letters_of_lower_eq {spelling : Text} (h : Text.lower spelling = Text.lower name) :
    ∀ r ∈ spelling, r.toLower.isAsciiLetter = true := by
  intro r hr
  have hmem : r.toLower ∈ spelling.map Rune.toLower := List.mem_map_of_mem hr
  rw [map_toLower_of_lower_eq hname.isAscii h] at hmem
  exact hname.letters_toLower _ hmem

variable {echo : Text} (h : Echo name echo)
include h

theorem Echo.not_mem {r : Rune} (hascii : r.IsAscii) (hr : r.isAsciiLetter = false)
    (hmark : isSeparator r = false ∧ isQuote r = false ∧ isPadding r = false) : r ∉ echo := by
  obtain ⟨separators, marks, ⟨spelling, rfl, hlower⟩, -, hseparators, hmarks⟩ := h.spelled
  simp only [List.mem_append, not_or]
  refine ⟨fun hmem => ?_, fun hmem => ?_, fun hmem => ?_⟩
  · have hletter := hname.letters_of_lower_eq hlower r hmem
    rw [Rune.isAsciiLetter_toLower hascii, hr] at hletter
    cases hletter
  · simp [hseparators r hmem] at hmark
  · have hmarks := hmarks r hmem
    simp [hmark] at hmarks

theorem Echo.unmarked : Unmarked (echo ++ t) := by
  obtain ⟨separators, marks, ⟨spelling, rfl, hlower⟩, -⟩ := h.spelled
  cases spelling with
  | nil => exact absurd hlower.symm (Text.lower_ne_nil hname.ne_nil)
  | cons s spelling =>
    intro r hr
    obtain rfl := Option.some.inj hr
    exact not_mark_of_letter (hname.letters_of_lower_eq hlower s List.mem_cons_self)

theorem Echo.drop (ht : Unmarked t) :
    startsWithName (echo ++ t) name = true ∧ dropEcho (echo ++ t) name = t := by
  obtain ⟨separators, marks, ⟨spelling, rfl, hlower⟩, hne, hseparators, hmarks⟩ := h.spelled
  have hspelled : Spelled name (spelling ++ (separators ++ marks) ++ t) (separators ++ (marks ++ t)) :=
    ⟨spelling, by simp, hlower⟩
  constructor
  · rw [startsWithName_iff hname.isAscii]
    refine ⟨_, hspelled, fun r hr => Or.inl (hseparators r ?_)⟩
    rw [List.head?_append_of_ne_nil _ hne] at hr
    exact List.mem_of_mem_head? hr
  · -- the separators end where a quote, padding or the text behind the echo begins
    have hend : ∀ r ∈ (marks ++ t).head?, isSeparator r = false := by
      intro r hr
      cases marks with
      | nil => exact (ht r hr).1
      | cons s marks =>
        obtain rfl := Option.some.inj hr
        exact not_isSeparator (hmarks s List.mem_cons_self)
    rw [dropEcho, (hspelled.take hname.isAscii).2, trimQuotes_trimStart, Text.trimStart,
      dropWhile_append_eq hseparators hend, dropWhile_marks_append hmarks ht]

end

/-! ## An echo is no label -/

theorem takeWhile_letters {word rest : Text} {r : Rune} (hword : ∀ s ∈ word, s.isAsciiLetter = true)
    (hr : r.isAsciiLetter = false) : (word ++ r :: rest).takeWhile Rune.isAsciiLetter = word := by
  rw [List.takeWhile_append_of_pos hword, List.takeWhile_cons_of_neg (by simp [hr]), List.append_nil]

theorem lower_rolePrefixes : ∀ label ∈ rolePrefixes, ∃ word ∈ roleNames,
    Text.lower label = word ++ [Rune.ofChar ':'] ∧ word.all Rune.isAsciiLetter = true := by decide

theorem isAscii_rolePrefixes {label : Text} (hlabel : label ∈ rolePrefixes) : ∀ r ∈ label, r.IsAscii := by
  have hall : ∀ label ∈ rolePrefixes, label.all (·.IsAscii) = true := by decide
  simpa using hall label hlabel

theorem Echo.not_label {echo label : Text} (hname : IsName name) (h : Echo name echo)
    (hlabel : label ∈ rolePrefixes) : startsWithIgnoringCase (echo ++ t) label = false := by
  have hlabelAscii := isAscii_rolePrefixes hlabel
  obtain ⟨word, hword, hlower, hwordLetters⟩ := lower_rolePrefixes label hlabel
  obtain ⟨separators, marks, ⟨spelling, rfl, hspelling⟩, hne, hseparators, -⟩ := h.spelled
  obtain ⟨r, separators, rfl⟩ := List.exists_cons_of_ne_nil hne
  obtain ⟨hascii, hr⟩ := isAscii_of_mark (Or.inl (hseparators r List.mem_cons_self))
  have hletter : r.toLower.isAsciiLetter = false := by rw [Rune.isAsciiLetter_toLower hascii, hr]
  rw [Bool.eq_false_iff, ne_eq, startsWithIgnoringCase_iff hlabelAscii]
  rintro ⟨rest, spelling', ht, hspelling'⟩
  -- the letters of the name end at a separator, those of the role at the colon, so they are the same
  have hmap := congrArg (List.map Rune.toLower) ht
  simp only [List.map_append, List.map_cons, map_toLower_of_lower_eq hname.isAscii hspelling,
    map_toLower_of_lower_eq hlabelAscii hspelling', ← Text.lower_of_isAscii hlabelAscii, hlower,
    List.append_assoc, List.cons_append, List.nil_append] at hmap
  have hsame := congrArg (List.takeWhile Rune.isAsciiLetter) hmap
  rw [takeWhile_letters hname.letters_toLower hletter,
    takeWhile_letters (by simpa using hwordLetters) (by decide), ← Text.lower_of_isAscii hname.isAscii] at hsame
  exact hname.noRole (hsame ▸ hword)

theorem foldl_stripLabel_eq_self {labels : List Text}
    (h : ∀ label ∈ labels, startsWithIgnoringCase t label = false) : labels.foldl stripLabel t = t := by
  induction labels with
  | nil => rfl
  | cons label labels ih =>
    obtain ⟨hlabel, hlabels⟩ := List.forall_mem_cons.mp h
    have hstrip : stripLabel t label = t := if_neg (by simp [hlabel])
    rw [List.foldl_cons, hstrip, ih hlabels]

/-! ## All echoes -/

section

variable {echoes : List Text} (hname : IsName name) (hechoes : ∀ echo ∈ echoes, Echo name echo) (hb : Bare name b)
include hname hechoes

theorem not_mem_flatten {r : Rune} (hr : r = Rune.ofChar '<' ∨ r = Rune.ofChar '#') : r ∉ echoes.flatten := by
  rw [List.mem_flatten]
  rintro ⟨echo, hecho, hmem⟩
  rcases hr with rfl | rfl
  all_goals exact (hechoes echo hecho).not_mem hname (by decide) (by decide) (by decide) hmem

include hb

theorem echoesOff_flatten : EchoesOff name (echoes.flatten ++ b) b ∧ Unmarked (echoes.flatten ++ b) := by
  induction echoes with
  | nil =>
    have hstart : startsWithName b name = false := by
      rw [Bool.eq_false_iff, ne_eq, startsWithName_iff hname.isAscii]
      exact hb.noName
    exact ⟨.done hstart, hb.unmarked⟩
  | cons echo echoes ih =>
    obtain ⟨hecho, hechoes⟩ := List.forall_mem_cons.mp hechoes
    obtain ⟨hoff, hunmarked⟩ := ih hechoes
    obtain ⟨hstart, hdrop⟩ := hecho.drop hname hunmarked
    rw [List.flatten_cons, List.append_assoc]
    exact ⟨.again hstart (by rwa [hdrop]), hecho.unmarked hname⟩

theorem not_label_echoes : ∀ label ∈ rolePrefixes, startsWithIgnoringCase (echoes.flatten ++ b) label = false := by
  intro label hlabel
  cases echoes with
  | nil =>
    rw [Bool.eq_false_iff, ne_eq, startsWithIgnoringCase_iff (isAscii_rolePrefixes hlabel)]
    exact hb.noLabel label hlabel
  | cons echo echoes =>
    rw [List.flatten_cons, List.append_assoc]
    exact (hechoes echo List.mem_cons_self).not_label hname hlabel

theorem not_contextTag_echoes : ¬contextTag <+: echoes.flatten ++ b := by
  have hnot := not_mem_flatten hname hechoes (Or.inl rfl)
  cases hflatten : echoes.flatten with
  | nil => exact hb.noContext
  | cons r flatten =>
    rintro ⟨rest, hrest⟩
    rw [hflatten] at hnot
    have hfirst : Rune.ofChar '<' = r := (List.cons.inj hrest).1
    exact hnot (hfirst ▸ List.mem_cons_self)

theorem not_contains_echoes : ¬StopMarker.Contains cutTags (echoes.flatten ++ b) := by
  rintro ⟨tag, htag, -, hinfix⟩
  have hheads : ∀ tag ∈ cutTags, tag.head? = some (Rune.ofChar '<') ∨ tag.head? = some (Rune.ofChar '#') := by
    decide
  have hfirst := hheads tag htag
  obtain ⟨first, rest, rfl⟩ := List.exists_cons_of_ne_nil (cutTags_ne_nil tag htag)
  simp only [List.head?_cons, Option.some_inj] at hfirst
  exact hb.noTag _ htag (Text.isInfix_of_isInfix_append (not_mem_flatten hname hechoes hfirst) hinfix)

end

/-- **Echoes of a name in front of a text are taken off completely, and nothing else is but the padding at
its end. A word that only begins with the name is no echo.** -/
theorem clean_echoes {before : Text} {echoes : List Text} (hname : IsName name)
    (hbefore : ∀ r ∈ before, isQuote r = true ∨ isPadding r = true) (hechoes : ∀ echo ∈ echoes, Echo name echo)
    (hb : Bare name b) :
    clean (before ++ echoes.flatten ++ b) (some name) = b.trimEnd isPadding ∧
      ∀ spelling r rest, Text.lower spelling = Text.lower name → isSeparator r = false → isPadding r = false →
        ¬BeginsWithName name (spelling ++ r :: rest) := by
  obtain ⟨hoff, hunmarked⟩ := echoesOff_flatten hname hechoes hb
  constructor
  · have hlabels : withoutLabels (before ++ echoes.flatten ++ b) = echoes.flatten ++ b := by
      rw [withoutLabels_eq, trimQuotes_trimStart, List.append_assoc, dropWhile_marks_append hbefore hunmarked,
        foldl_stripLabel_eq_self (not_label_echoes hname hechoes hb),
        withoutTag_eq_self_iff.mpr (not_contextTag_echoes hname hechoes hb)]
    apply clean_of_echoesOff hname.ne_nil
    rwa [hlabels, cutAtFirst_eq_self_iff.mpr (not_contains_echoes hname hechoes hb)]
  · rintro spelling r rest hlower hseparator hpadding ⟨rest', hrest', hend⟩
    have hspelled : Spelled name (spelling ++ r :: rest) (r :: rest) := ⟨spelling, rfl, hlower⟩
    rw [← (hrest'.take hname.isAscii).2, (hspelled.take hname.isAscii).2] at hend
    rcases hend r rfl with h | h
    · rw [hseparator] at h
      cases h
    · rw [hpadding] at h
      cases h

/-! ## A name that begins another word -/

theorem isName_smith : IsName smith where
  ne_nil := by decide
  letters := List.all_eq_true.mp (by decide)
  noRole := by decide

theorem Echo.of_all {spelling separators marks : Text} (hlower : Text.lower spelling = Text.lower name)
    (hne : separators ≠ []) (hseparators : separators.all isSeparator = true)
    (hmarks : marks.all (fun r => isQuote r || isPadding r) = true) :
    Echo name (spelling ++ (separators ++ marks)) :=
  ⟨separators, marks, ⟨spelling, rfl, hlower⟩, hne, by simpa using hseparators, by simpa using hmarks⟩

/-- Three echoes of the name in three cases. -/
def echoes : List Text := ["Bromm: ", "bromm- ", "BROMM,:\t\" "]

theorem echo_of_mem_echoes : ∀ echo ∈ echoes, Echo smith echo := by
  have hfirst : Echo smith ("Bromm" ++ (":" ++ " ")) :=
    .of_all (by decide) (by decide) (by decide) (by decide)
  have hsecond : Echo smith ("bromm" ++ ("-" ++ " ")) :=
    .of_all (by decide) (by decide) (by decide) (by decide)
  have hthird : Echo smith ("BROMM" ++ (",:" ++ "\t\" ")) :=
    .of_all (by decide) (by decide) (by decide) (by decide)
  simpa [echoes] using ⟨hfirst, hsecond, hthird⟩

/-- A text whose first word only begins with the name. -/
def cousin : Text := "Brommel is my cousin. \n"

theorem bare_cousin : Bare smith cousin where
  unmarked := by
    intro r hr
    obtain rfl := Option.some.inj hr
    decide
  noLabel := by
    intro label hlabel
    have hnone : ∀ label ∈ rolePrefixes, startsWithIgnoringCase cousin label = false := by decide
    rw [← startsWithIgnoringCase_iff (isAscii_rolePrefixes hlabel), hnone label hlabel]
    simp
  noContext := by decide
  noName := by
    rw [← startsWithName_iff isAscii_smith]
    decide
  noTag := by decide

theorem clean_echoes_cousin :
    IsName smith ∧ (∀ r ∈ Text.ofString " \"", isQuote r = true ∨ isPadding r = true) ∧
      (∀ echo ∈ echoes, Echo smith echo) ∧ Bare smith cousin ∧
      clean (" \"" ++ echoes.flatten ++ cousin) (some smith) = cousin.trimEnd isPadding ∧
      cousin.trimEnd isPadding = "Brommel is my cousin." := by
  have hbefore : ∀ r ∈ Text.ofString " \"", isQuote r = true ∨ isPadding r = true := by
    have hall : (Text.ofString " \"").all (fun r => isQuote r || isPadding r) = true := by decide
    simpa using hall
  have hclean := (clean_echoes isName_smith hbefore echo_of_mem_echoes bare_cousin).1
  exact ⟨isName_smith, hbefore, echo_of_mem_echoes, bare_cousin, hclean, by decide⟩

end GroundedDialogue.Reply
