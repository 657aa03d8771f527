import GroundedDialogue.Generation.StopMarker

/-!
# The stop scanner

The scanner takes a reply chunk by chunk and keeps what belongs to it. A chunk is cut at the earliest
marker in it, and then the reply is over. A line feed at the very beginning of a reply does not end
it: the whole chunk is dropped. A scanner that does not look for markers keeps every chunk.
-/

namespace GroundedDialogue

structure StopScanner where
  markers : List Text
  scanning : Bool
  text : Text
  deriving DecidableEq

/-- What a chunk contributes. -/
structure Contribution where
  emitted : Text
  stops : Bool
  discarded : Bool
  deriving DecidableEq

namespace StopScanner

/-- A scanner that looks for these markers, or for none. -/
def ofMarkers (markers : List Text) (scanning : Bool) : StopScanner := ⟨markers, scanning, []⟩

def hasOutput (s : StopScanner) : Bool := !s.text.isEmpty

/-- The scanner as it was before the first chunk. -/
def reset (s : StopScanner) : StopScanner := { s with text := [] }

/-- Takes a chunk. -/
def feed (s : StopScanner) (chunk : Text) : Contribution × StopScanner :=
  if !s.scanning then (⟨chunk, false, false⟩, { s with text := s.text ++ chunk })
  else
    let cut := StopMarker.earliest s.markers chunk
    if cut = 0 && !s.hasOutput && chunk.head? = some Rune.newline then (⟨[], false, true⟩, s)
    else
      let emitted := chunk.take cut
      (⟨emitted, cut < chunk.length, false⟩, { s with text := s.text ++ emitted })

end StopScanner

end GroundedDialogue
