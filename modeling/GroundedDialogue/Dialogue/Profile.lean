import GroundedDialogue.Text.Basic

/-!
# Characters

The characters that can be talked to. Each has a canned reply and a store file of its own.
-/

namespace GroundedDialogue.Dialogue

structure Profile where
  name : Text
  /-- What is said when no reply can be generated. -/
  reply : Text
  storePath : Text
  deriving DecidableEq

namespace Profile

def defaults : List Profile :=
  [⟨"Bromm", "Bromm: The old ruins are north of here.", "corpus/map1_bromm.vdb"⟩,
    ⟨"Dagna", "Dagna: The well is safe, mostly.", "corpus/map1_dagna.vdb"⟩,
    ⟨"Keldor", "Keldor: I saw lights in the marsh last night.", "corpus/map1_keldor.vdb"⟩,
    ⟨"Thrain", "Thrain: Mind the bridge; the beams sing when they're weak.", "corpus/map1_thrain.vdb"⟩,
    ⟨"Skara", "Skara: If you hear bells in the fog, turn back.", "corpus/map1_skara.vdb"⟩]

end Profile

end GroundedDialogue.Dialogue
