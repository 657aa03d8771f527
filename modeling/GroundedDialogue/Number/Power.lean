/-!
# Powers

The powers of natural numbers and of integers are those of the core library, also where another library
brings powers of its own.
-/

namespace GroundedDialogue

@[default_instance 10001]
instance (priority := high) instPowCore {α : Type} [NatPow α] : Pow α Nat := instPowNat

end GroundedDialogue
