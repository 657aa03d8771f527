import GroundedDialogue.Generation.Scripted
import GroundedDialogue.Proofs.Generation.Flow

/-!
# Markers in a reply

The scanner looks at one chunk at a time. So a marker that a generator spreads over several chunks is not
seen and can stand in the reply (`leaked_marker`). `markers_across_borders` says that this is the only
way: a reply is put together from the parts in front of the earliest marker of each chunk, and every
marker in it has a border of two parts within it. Markers of one code point, like the line feed, never
get into a reply.
-/

namespace GroundedDialogue.TokenLoop

variable {G T H : Type} [TextGenerator G T H]

/-- **A marker gets into a reply only across the border of two chunks.** -/
theorem markers_across_borders (g : G) (prompt : Text) (requested ceiling : Int) (markers : List Text)
    (kept : Text) {r : Generation}
    (h : (generate g prompt requested ceiling ⟨markers, true, kept⟩).result = .ok r) :
    ∃ w parts, flowFor g prompt requested ceiling = .ok w ∧
      parts = (w.chunks.take r.tokens).map (StopMarker.cut markers) ∧ r.text = parts.flatten ∧
      (∀ marker ∈ markers, marker ≠ [] →
        (∀ part ∈ parts, ¬marker <:+: part) ∧
          ∀ before after, r.text = before ++ marker ++ after →
            ∃ n, before.length < (parts.take n).flatten.length ∧
              (parts.take n).flatten.length < before.length + marker.length) ∧
      ∀ x, [x] ∈ markers → x ∉ r.text := by
  obtain ⟨w, hflow, htext⟩ := text_of_generate h
  have hparts : ∀ marker ∈ markers, marker ≠ [] →
      ∀ part ∈ (w.chunks.take r.tokens).map (StopMarker.cut markers), ¬marker <:+: part := by
    intro marker hmarker hne part hpart
    obtain ⟨chunk, -, rfl⟩ := List.mem_map.mp hpart
    exact StopMarker.not_isInfix_cut hmarker hne chunk
  have hborder : ∀ marker ∈ markers, marker ≠ [] → ∀ before after, r.text = before ++ marker ++ after →
      ∃ n, before.length < (((w.chunks.take r.tokens).map (StopMarker.cut markers)).take n).flatten.length ∧
        (((w.chunks.take r.tokens).map (StopMarker.cut markers)).take n).flatten.length
          < before.length + marker.length := by
    intro marker hmarker hne before after hsplit
    exact StopMarker.exists_border (htext.symm.trans hsplit) hne (hparts marker hmarker hne)
  refine ⟨w, _, hflow, rfl, htext, fun marker hmarker hne =>
    ⟨hparts marker hmarker hne, hborder marker hmarker hne⟩, ?_⟩
  intro x hx hmem
  obtain ⟨before, after, hsplit⟩ := List.append_of_mem hmem
  obtain ⟨n, hlow, hhigh⟩ := hborder [x] hx (List.cons_ne_nil _ _) before after (by simp [hsplit])
  simp only [List.length_singleton] at hhigh
  omega

/-- A reply in three chunks, the last two of which make up a marker. -/
def spread : ScriptedGenerator := .ofPieces ["Hello", " Us", "er: hi"]

theorem spread_across_border :
    (generate spread [] 8 64 ⟨StopMarker.defaults, true, []⟩).result
        = .ok ⟨"Hello User: hi", 4, .endOfSequence, none⟩ ∧
      ∃ parts : List Text, parts.flatten = ("Hello User: hi" : Text) ∧
        ∃ n, 6 < (parts.take n).flatten.length ∧ (parts.take n).flatten.length < 6 + 5 := by
  have hresult : (generate spread [] 8 64 ⟨StopMarker.defaults, true, []⟩).result
      = .ok ⟨"Hello User: hi", 4, .endOfSequence, none⟩ := by rfl
  obtain ⟨w, parts, -, -, htext, hmarkers, -⟩ := markers_across_borders _ _ _ _ _ _ hresult
  have hborder := (hmarkers "User:" (by decide) (by decide)).2 "Hello " " hi" (by decide)
  exact ⟨hresult, parts, htext.symm, hborder⟩

/-- A marker that is spread over two chunks stands in the reply. -/
theorem leaked_marker :
    ∃ r, (generate spread [] 8 64 ⟨StopMarker.defaults, true, []⟩).result = .ok r ∧
      ("User:" : Text) ∈ StopMarker.defaults ∧ ("User:" : Text) ≠ [] ∧ ("User:" : Text) <:+: r.text :=
  ⟨⟨"Hello User: hi", 4, .endOfSequence, none⟩, rfl, by decide, by decide, ⟨"Hello ", " hi", by decide⟩⟩

end GroundedDialogue.TokenLoop
