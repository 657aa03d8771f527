import GroundedDialogue.Generation.Scanner
import GroundedDialogue.Proofs.Generation.StopMarker
import Mathlib.Data.List.Flatten

/-!
# What a scanner keeps

A scanner that looks for markers keeps of every chunk what stands in front of the earliest marker in it,
also of a chunk that it drops: that one starts with a marker. So the text after some chunks is made of
the chunks alone (`after_eq`), and dropping matters only for which chunk ends the reply
(`stopsAt_iff`).
-/

namespace GroundedDialogue.StopScanner

variable {s : StopScanner} {chunk : Text} {chunks : List Text}

/-- What a scanner keeps of a chunk. -/
def part (s : StopScanner) (chunk : Text) : Text :=
  if s.scanning then StopMarker.cut s.markers chunk else chunk

/-- A chunk that is dropped: nothing has been kept yet, and it starts with a line feed that is, or
starts, a marker. -/
def Drops (s : StopScanner) (chunk : Text) : Prop :=
  StopMarker.earliest s.markers chunk = 0 ∧ s.text = [] ∧ chunk.head? = some Rune.newline

/-- The scanner after some chunks, whatever it says about them. -/
def after (s : StopScanner) (chunks : List Text) : StopScanner :=
  chunks.foldl (fun s chunk => (s.feed chunk).2) s

/-- Whether the chunk at this position ends the reply once the chunks before it were taken. -/
def stopsAt (s : StopScanner) (chunks : List Text) (i : Nat) : Bool :=
  chunks[i]?.any fun chunk => ((s.after (chunks.take i)).feed chunk).1.stops

/-- The position of the first chunk that ends the reply. -/
def stop? (s : StopScanner) (chunks : List Text) : Option Nat :=
  (List.range chunks.length).find? (s.stopsAt chunks)

/-! ## One chunk -/

theorem feed_of_not_scanning (hs : s.scanning = false) (chunk : Text) :
    s.feed chunk = (⟨chunk, false, false⟩, { s with text := s.text ++ chunk }) := by
  simp [feed, hs]

theorem feed_of_drops (hs : s.scanning = true) (hdrops : s.Drops chunk) :
    s.feed chunk = (⟨[], false, true⟩, s) := by
  obtain ⟨hcut, htext, hhead⟩ := hdrops
  simp [feed, hs, hcut, htext, hhead, hasOutput]

theorem feed_of_not_drops (hs : s.scanning = true) (hdrops : ¬s.Drops chunk) :
    s.feed chunk =
      (⟨StopMarker.cut s.markers chunk, StopMarker.earliest s.markers chunk < chunk.length, false⟩,
        { s with text := s.text ++ StopMarker.cut s.markers chunk }) := by
  rw [Drops] at hdrops
  have hkept : ¬(StopMarker.earliest s.markers chunk = 0 && !s.hasOutput
      && chunk.head? = some Rune.newline) = true := by
    simpa [hasOutput, and_assoc] using hdrops
  rw [feed, hs]
  exact if_neg hkept

theorem feed_snd (s : StopScanner) (chunk : Text) :
    (s.feed chunk).2 = { s with text := s.text ++ s.part chunk } := by
  by_cases hs : s.scanning = true
  · rw [part, if_pos hs]
    by_cases hdrops : s.Drops chunk
    · rw [feed_of_drops hs hdrops, StopMarker.cut, hdrops.1, List.take_zero, List.append_nil]
    · rw [feed_of_not_drops hs hdrops]
  · rw [part, if_neg hs, feed_of_not_scanning (Bool.eq_false_iff.mpr hs)]

theorem stops_feed_iff (s : StopScanner) (chunk : Text) :
    (s.feed chunk).1.stops = true ↔
      s.scanning = true ∧ StopMarker.Contains s.markers chunk ∧ ¬s.Drops chunk := by
  cases hs : s.scanning with
  | false => simp [feed_of_not_scanning hs]
  | true =>
    by_cases hdrops : s.Drops chunk
    · simp [feed_of_drops hs hdrops, hdrops]
    · simp [feed_of_not_drops hs hdrops, hdrops, StopMarker.earliest_lt_length_iff]

theorem not_drops (h : StopMarker.BeginsOutside s.markers chunk) : ¬s.Drops chunk := by
  rintro ⟨hcut, -, hhead⟩
  have hpos : 0 < chunk.length := List.length_pos_iff.mpr fun hnil => by simp [hnil] at hhead
  exact h.not_occursAt_zero ((StopMarker.earliest_eq_iff.mp hcut).2.2 hpos)

/-! ## Many chunks -/

theorem after_cons (s : StopScanner) (chunk : Text) (rest : List Text) :
    s.after (chunk :: rest) = (s.feed chunk).2.after rest := rfl

theorem after_eq (s : StopScanner) (chunks : List Text) :
    s.after chunks = { s with text := s.text ++ (chunks.map s.part).flatten } := by
  induction chunks generalizing s with
  | nil => simp [after]
  | cons chunk rest ih =>
    have hpart : (s.feed chunk).2.part = s.part := by
      rw [feed_snd]
      rfl
    rw [after_cons, ih, hpart, feed_snd]
    simp

theorem stopsAt_iff {i : Nat} :
    s.stopsAt chunks i = true ↔ ∃ chunk, chunks[i]? = some chunk ∧ s.scanning = true ∧
      StopMarker.Contains s.markers chunk ∧ ¬(StopMarker.earliest s.markers chunk = 0 ∧
        s.text ++ ((chunks.take i).map s.part).flatten = [] ∧ chunk.head? = some Rune.newline) := by
  simp only [stopsAt, Option.any_eq_true, stops_feed_iff, Drops, after_eq]

theorem stop?_cons (s : StopScanner) (chunk : Text) (rest : List Text) :
    s.stop? (chunk :: rest) =
      if (s.feed chunk).1.stops then some 0 else ((s.feed chunk).2.stop? rest).map (· + 1) := by
  have hlater : s.stopsAt (chunk :: rest) ∘ Nat.succ = (s.feed chunk).2.stopsAt rest := rfl
  rw [stop?, List.length_cons, List.range_succ_eq_map, List.find?_cons, List.find?_map, hlater]
  cases hstops : (s.feed chunk).1.stops with
  | true =>
    have hfirst : s.stopsAt (chunk :: rest) 0 = true := hstops
    rw [hfirst]
    rfl
  | false =>
    have hfirst : s.stopsAt (chunk :: rest) 0 = false := hstops
    rw [hfirst]
    rfl

theorem stop?_eq_some_iff {i : Nat} :
    s.stop? chunks = some i ↔ s.stopsAt chunks i = true ∧ ∀ j < i, s.stopsAt chunks j = false := by
  rw [stop?, List.find?_range_eq_some]
  constructor
  · rintro ⟨hat, -, hfirst⟩
    exact ⟨hat, fun j hj => by simpa using hfirst j hj⟩
  · rintro ⟨hat, hfirst⟩
    obtain ⟨chunk, hchunk, -⟩ := stopsAt_iff.mp hat
    have hlt := (List.getElem?_eq_some_iff.mp hchunk).1
    exact ⟨hat, List.mem_range.mpr hlt, fun j hj => by simp [hfirst j hj]⟩

theorem stop?_eq_none_iff : s.stop? chunks = none ↔ ∀ i, s.stopsAt chunks i = false := by
  rw [stop?, List.find?_range_eq_none]
  constructor
  · intro h i
    by_cases hi : i < chunks.length
    · simpa using h i hi
    · simp [stopsAt, List.getElem?_eq_none (Nat.le_of_not_lt hi)]
  · intro h i _
    simp [h i]

end GroundedDialogue.StopScanner
