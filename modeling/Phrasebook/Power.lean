/-! # Powers

    Numbers are raised to powers in one way throughout this library, the way of the
    core library. Algebra brings powers of its own to the same numbers; they are
    equal, but not written alike.
-/

namespace Phrasebook

/-- Powers of natural numbers. -/
@[default_instance 20000]
scoped instance (priority := 2000) natPow : Pow Nat Nat := instPowNat

/-- Powers of integers. -/
@[default_instance 20000]
scoped instance (priority := 2000) intPow : Pow Int Nat := instPowNat

end Phrasebook
