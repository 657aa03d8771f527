import GroundedDialogue.Proofs.Reply.Cleanup
import GroundedDialogue.Proofs.Text.Lowercase

/-!
# Echoes of a name

A reply may begin with the name of its speaker, over and over. Taking the echoes off ends for every text
(`exists_echoesOff`), and the bound of `dropEchoes` is never reached. What is shown afterwards is a part
of the reply without padding around it and without control tags, and it does not begin with the name
again (`clean_displayable`).
-/

namespace GroundedDialogue.Reply

/-! ## Words in any case -/

/-- The text begins with a word, in any case, and goes on with `rest`. -/
def Spelled (word t rest : Text) : Prop := ∃ spelling, t = spelling ++ rest ∧ Text.lower spelling = Text.lower word

/-- The text begins with a name, in any case, that ends there. -/
def BeginsWithName (name t : Text) : Prop :=
  ∃ rest, Spelled name t rest ∧ ∀ r ∈ rest.head?, isSeparator r = true ∨ isPadding r = true

variable {word name t t' rest : Text}

theorem map_toLower_of_lower_eq {spelling : Text} (hword : ∀ r ∈ word, r.IsAscii)
    (h : Text.lower spelling = Text.lower word) :
    spelling.map Rune.toLower = word.map Rune.toLower := by
  have hascii : ∀ r ∈ Text.lower word, r.IsAscii := Text.isAscii_lowerFrom false hword
  rw [← Text.lower_of_isAscii hword, ← h]
  exact (Text.lower_eq_map (by rwa [h])).symm

theorem Spelled.take (hword : ∀ r ∈ word, r.IsAscii) (h : Spelled word t rest) :
    Text.lower (t.take word.length) = Text.lower word ∧ t.drop word.length = rest := by
  obtain ⟨spelling, rfl, hlower⟩ := h
  have hlength := congrArg List.length (map_toLower_of_lower_eq hword hlower)
  rw [List.length_map, List.length_map] at hlength
  rw [← hlength, List.take_left, List.drop_left]
  exact ⟨hlower, rfl⟩

theorem startsWithIgnoringCase_iff (hword : ∀ r ∈ word, r.IsAscii) :
    startsWithIgnoringCase t word = true ↔ ∃ rest, Spelled word t rest := by
  rw [startsWithIgnoringCase, decide_eq_true_iff]
  constructor
  · exact fun h => ⟨t.drop word.length, t.take word.length, (List.take_append_drop _ t).symm, h⟩
  · rintro ⟨rest, h⟩
    exact (h.take hword).1

theorem startsWithName_iff (hname : ∀ r ∈ name, r.IsAscii) :
    startsWithName t name = true ↔ BeginsWithName name t := by
  rw [startsWithName, Bool.and_eq_true, startsWithIgnoringCase_iff hname]
  constructor
  · rintro ⟨⟨rest, hrest⟩, hend⟩
    rw [(hrest.take hname).2] at hend
    refine ⟨rest, hrest, fun r hr => ?_⟩
    rw [Option.mem_def] at hr
    rw [hr] at hend
    simpa using hend
  · rintro ⟨rest, hrest, hend⟩
    refine ⟨⟨rest, hrest⟩, ?_⟩
    rw [(hrest.take hname).2]
    cases hhead : rest.head? with
    | none => rfl
    | some r => simpa using hend r hhead

/-! ## The loop ends -/

/-- Echoes are taken off one after another until the text does not start with the name. -/
inductive EchoesOff (name : Text) : Text → Text → Prop
  | done {t : Text} (h : startsWithName t name = false) : EchoesOff name t t
  | again {t t' : Text} (h : startsWithName t name = true) (hrest : EchoesOff name (dropEcho t name) t') :
    EchoesOff name t t'

theorem EchoesOff.startsWithName_eq_false (h : EchoesOff name t t') : startsWithName t' name = false := by
  induction h with
  | done h => exact h
  | again _ _ ih => exact ih

theorem EchoesOff.unique {t'' : Text} (h : EchoesOff name t t') (h' : EchoesOff name t t'') : t' = t'' := by
  induction h with
  | done hstart =>
    cases h' with
    | done => rfl
    | again hstart' => rw [hstart] at hstart'; cases hstart'
  | again hstart _ ih =>
    cases h' with
    | done hstart' => rw [hstart] at hstart'; cases hstart'
    | again _ hrest' => exact ih hrest'

theorem startsWithName_nil (hname : name ≠ []) : startsWithName [] name = false := by
  have hlower : Text.lower [] ≠ Text.lower name := (Text.lower_ne_nil hname).symm
  rw [startsWithName, startsWithIgnoringCase, List.take_nil, decide_eq_false hlower, Bool.false_and]

theorem length_dropEcho_lt (hname : name ≠ []) (h : startsWithName t name = true) :
    (dropEcho t name).length < t.length := by
  have hpos := List.length_pos_iff.mpr hname
  have ht : t ≠ [] := by
    rintro rfl
    rw [startsWithName_nil hname] at h
    cases h
  have htpos := List.length_pos_iff.mpr ht
  have hle := (dropEcho_isSuffix t name).length_le
  rw [List.length_drop] at hle
  omega

/-- A bound of as many echoes as there are code points is never reached. -/
theorem echoesOff_dropEchoes (hname : name ≠ []) {fuel : Nat} (hfuel : t.length ≤ fuel) :
    EchoesOff name t (dropEchoes name fuel t) := by
  induction fuel generalizing t with
  | zero =>
    obtain rfl := List.length_eq_zero_iff.mp (Nat.le_zero.mp hfuel)
    exact .done (startsWithName_nil hname)
  | succ fuel ih =>
    rw [dropEchoes]
    split_ifs with hstart
    · have hlt := length_dropEcho_lt hname hstart
      exact .again hstart (ih (by omega))
    · exact .done (by simpa using hstart)

theorem echoesOff_withoutEchoes (hname : name ≠ []) (t : Text) :
    EchoesOff name t (withoutEchoes t (some name)) := by
  cases name with
  | nil => exact absurd rfl hname
  | cons r name => exact echoesOff_dropEchoes hname (Nat.le_refl _)

theorem clean_of_echoesOff {raw : Text} (hname : name ≠ [])
    (h : EchoesOff name (cutAtFirst cutTags (withoutLabels raw)) t) :
    clean raw (some name) = t.trimEnd isPadding := by
  rw [clean, h.unique (echoesOff_withoutEchoes hname _)]

/-! ## What is shown -/

theorem exists_trimEnd_append (p : Rune → Bool) (t : Text) :
    ∃ trailing, t = t.trimEnd p ++ trailing ∧ ∀ r ∈ trailing, p r = true :=
  ⟨t.rtakeWhile p, List.rdropWhile_append_rtakeWhile.symm, fun _ hr => List.mem_rtakeWhile_imp hr⟩

theorem getLast?_trimEnd (p : Rune → Bool) (t : Text) : ∀ r ∈ (t.trimEnd p).getLast?, p r = false := by
  intro r hr
  obtain ⟨hne, rfl⟩ := List.mem_getLast?_eq_getLast hr
  exact Bool.eq_false_iff.mpr (List.rdropWhile_last_not p t hne)

theorem BeginsWithName.of_trimEnd (h : BeginsWithName name (t.trimEnd isPadding)) : BeginsWithName name t := by
  obtain ⟨rest, ⟨spelling, hspelling, hlower⟩, hend⟩ := h
  obtain ⟨trailing, ht, htrailing⟩ := exists_trimEnd_append isPadding t
  refine ⟨rest ++ trailing, ⟨spelling, ?_, hlower⟩, ?_⟩
  · rw [← List.append_assoc, ← hspelling]
    exact ht
  · intro r hr
    cases rest with
    | nil => exact Or.inr (htrailing r (List.mem_of_mem_head? hr))
    | cons s rest => exact hend r hr

/-- **Cleaning ends for every reply and every name. What it shows is a part of the reply without padding
around it and without control tags, and it does not begin with a name within ASCII again.** -/
theorem clean_displayable (raw : Text) (speaker : Option Text) :
    (∀ name ∈ speaker, name ≠ [] → ∃ t, EchoesOff name (cutAtFirst cutTags (withoutLabels raw)) t ∧
      clean raw speaker = t.trimEnd isPadding) ∧
    clean raw speaker <:+: raw ∧
    (∀ r ∈ (clean raw speaker).head?, isPadding r = false) ∧
    (∀ r ∈ (clean raw speaker).getLast?, isPadding r = false) ∧
    (∀ tag ∈ cutTags, ¬tag <:+: clean raw speaker) ∧
    ∀ name ∈ speaker, name ≠ [] → (∀ r ∈ name, r.IsAscii) → ¬BeginsWithName name (clean raw speaker) := by
  have hloop : ∀ name ∈ speaker, name ≠ [] → ∃ t, EchoesOff name (cutAtFirst cutTags (withoutLabels raw)) t ∧
      clean raw speaker = t.trimEnd isPadding := by
    rintro name rfl hname
    have hoff := echoesOff_withoutEchoes hname (cutAtFirst cutTags (withoutLabels raw))
    exact ⟨_, hoff, clean_of_echoesOff hname hoff⟩
  refine ⟨hloop, clean_isInfix raw speaker, flush_clean raw speaker, getLast?_trimEnd isPadding _, ?_, ?_⟩
  · intro tag htag hinfix
    exact not_contains_clean raw speaker ⟨tag, htag, cutTags_ne_nil tag htag, hinfix⟩
  · intro name hspeaker hname hascii hbegins
    obtain ⟨t, hoff, hclean⟩ := hloop name hspeaker hname
    rw [hclean] at hbegins
    have hstart := (startsWithName_iff hascii).mpr hbegins.of_trimEnd
    rw [hoff.startsWithName_eq_false] at hstart
    cases hstart

def smith : Text := "Bromm"

theorem isAscii_smith : ∀ r ∈ smith, r.IsAscii := by
  have hall : smith.all (·.IsAscii) = true := by decide
  simpa using hall

theorem clean_displayable_smith :
    smith ≠ [] ∧ (∀ r ∈ smith, r.IsAscii) ∧
      clean "\"NPC: Bromm, bromm 'So says Bromm \n" (some smith) = "So says Bromm" ∧
      ¬BeginsWithName smith (clean "\"NPC: Bromm, bromm 'So says Bromm \n" (some smith)) := by
  obtain ⟨-, -, -, -, -, hbegins⟩ := clean_displayable "\"NPC: Bromm, bromm 'So says Bromm \n" (some smith)
  exact ⟨by decide, isAscii_smith, by decide, hbegins smith rfl (by decide) isAscii_smith⟩

end GroundedDialogue.Reply
