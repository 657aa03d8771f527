import GroundedDialogue.Proofs.Generation.Scanner
import GroundedDialogue.Proofs.Reply.Cleanup
import Mathlib.Order.Bounds.Defs

/-!
# The earliest marker

`StopMarker.earliest` is the least of the positions at which a marker starts. Only which markers there are
matters for it, not their order, nor how often one is listed, nor whether empty ones are among them
(`SameMarkers.earliest_eq`). The scanner cuts a chunk there and the clean-up a reply: what they leave is the
same text, and holds none of the markers (`StopMarker.earliest_first`).
-/

namespace GroundedDialogue

namespace StopMarker

variable {markers markers' : List Text} {t : Text} {i : Nat}

/-! ## The least position -/

theorem earliest_le_of_occursAt (h : OccursAt markers t i) : earliest markers t ≤ i := by
  obtain ⟨-, hnone, -⟩ := earliest_eq_iff.mp (Eq.refl (earliest markers t))
  exact Nat.not_lt.mp fun hlt => hnone i hlt h

theorem isLeast_earliest (h : Contains markers t) : IsLeast {i | OccursAt markers t i} (earliest markers t) := by
  obtain ⟨-, -, hstarts⟩ := earliest_eq_iff.mp (Eq.refl (earliest markers t))
  exact ⟨hstarts (earliest_lt_length_iff.mpr h), fun i hi => earliest_le_of_occursAt hi⟩

theorem earliest_eq_length (h : ¬Contains markers t) : earliest markers t = t.length := by
  obtain ⟨hle, -, -⟩ := earliest_eq_iff.mp (Eq.refl (earliest markers t))
  rw [← earliest_lt_length_iff] at h
  omega

theorem not_contains_cut (markers : List Text) (t : Text) : ¬Contains markers (cut markers t) := by
  rintro ⟨marker, hmarker, hne, hinfix⟩
  exact not_isInfix_cut hmarker hne t hinfix

/-! ## Lists of the same markers -/

/-- Two lists have the same markers. Their order and their repetitions do not matter, and those without code
points do not count. -/
def SameMarkers (markers markers' : List Text) : Prop :=
  ∀ marker, marker ≠ [] → (marker ∈ markers ↔ marker ∈ markers')

theorem SameMarkers.occursAt_iff (h : SameMarkers markers markers') :
    OccursAt markers t i ↔ OccursAt markers' t i := by
  constructor
  · rintro ⟨marker, hmarker, hne, hstart⟩
    exact ⟨marker, (h marker hne).mp hmarker, hne, hstart⟩
  · rintro ⟨marker, hmarker, hne, hstart⟩
    exact ⟨marker, (h marker hne).mpr hmarker, hne, hstart⟩

theorem SameMarkers.earliest_eq (h : SameMarkers markers markers') (t : Text) :
    earliest markers t = earliest markers' t := by
  obtain ⟨hle, hnone, hstarts⟩ := earliest_eq_iff.mp (Eq.refl (earliest markers' t))
  refine earliest_eq_iff.mpr ⟨hle, fun i hi => ?_, fun hlt => h.occursAt_iff.mpr (hstarts hlt)⟩
  rw [h.occursAt_iff]
  exact hnone i hi

end StopMarker

theorem StopScanner.not_contains_emitted {s : StopScanner} (hs : s.scanning = true) (chunk : Text) :
    ¬StopMarker.Contains s.markers (s.feed chunk).1.emitted := by
  by_cases hdrops : s.Drops chunk
  · rw [feed_of_drops hs hdrops]
    rintro ⟨marker, -, hne, hinfix⟩
    exact hne (List.infix_nil.mp hinfix)
  · rw [feed_of_not_drops hs hdrops]
    exact StopMarker.not_contains_cut s.markers chunk

namespace StopMarker

/-- **The earliest marker decides.** Where there is a marker, its position is the least one at which any of
them starts, and otherwise it is the end of the text. What is kept in front of it holds no marker, it is the
same for every list of the same markers, and the clean-up of replies keeps the same text. -/
theorem earliest_first (markers : List Text) (t : Text) :
    (Contains markers t → IsLeast {i | OccursAt markers t i} (earliest markers t)) ∧
      (¬Contains markers t → earliest markers t = t.length) ∧
      ¬Contains markers (t.take (earliest markers t)) ∧
      (∀ s : StopScanner, s.scanning = true → s.markers = markers → ¬Contains markers (s.feed t).1.emitted) ∧
      (∀ markers', SameMarkers markers markers' → earliest markers' t = earliest markers t) ∧
      ((∀ tag ∈ markers, tag ≠ []) → Reply.cutAtFirst markers t = t.take (earliest markers t)) := by
  refine ⟨isLeast_earliest, earliest_eq_length, not_contains_cut markers t, ?_, ?_, ?_⟩
  · rintro s hs rfl
    exact StopScanner.not_contains_emitted hs t
  · intro markers' h
    exact (h.earliest_eq t).symm
  · intro htags
    exact Reply.cutAtFirst_eq_cut htags t

/-- The last of these markers ends the first one, and the text has another one right behind it. -/
theorem earliest_first_overlapping :
    IsLeast {i | OccursAt ["</s>", "User:", "s>"] "Hi.</s>User:" i} 3 ∧
      earliest ["s>", "", "User:", "</s>", "s>"] "Hi.</s>User:" = 3 ∧
      ¬Contains ["</s>", "User:", "s>"]
        ((StopScanner.ofMarkers ["</s>", "User:", "s>"] true).feed "Hi.</s>User:").1.emitted ∧
      Reply.cutAtFirst ["</s>", "User:", "s>"] "Hi.</s>User:" = "Hi." ∧
      earliest ["</s>", "User:", "s>"] "Hi." = 3 := by
  obtain ⟨hleast, -, -, hemitted, hsame, hcut⟩ := earliest_first ["</s>", "User:", "s>"] "Hi.</s>User:"
  obtain ⟨-, hend, -⟩ := earliest_first ["</s>", "User:", "s>"] "Hi."
  have hearliest : earliest ["</s>", "User:", "s>"] "Hi.</s>User:" = 3 := by decide
  have hcontains : Contains ["</s>", "User:", "s>"] "Hi.</s>User:" :=
    ⟨"</s>", by decide, by decide, by decide⟩
  have hnone : ¬Contains ["</s>", "User:", "s>"] "Hi." := by
    rw [← earliest_lt_length_iff]
    decide
  rw [hearliest] at hleast hsame hcut
  refine ⟨hleast hcontains, hsame _ ?_, hemitted _ rfl rfl, hcut (by decide), hend hnone⟩
  intro marker hne
  simp only [List.mem_cons, List.not_mem_nil, or_false]
  tauto

end StopMarker

end GroundedDialogue
