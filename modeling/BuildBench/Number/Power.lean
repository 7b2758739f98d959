set_option autoImplicit false

/-! Powers of the bases that numbers are kept and written in, and the bounds of words. -/

namespace BuildBench.Number

/-- The power of two. A negative exponent counts as zero. -/
def powerOfTwo (exponent : Int) : Nat :=
  Nat.pow 2 exponent.toNat

/-- The power of ten. A negative exponent counts as zero. -/
def powerOfTen (exponent : Int) : Nat :=
  Nat.pow 10 exponent.toNat

/-- Words of so many bits are below this number. -/
def wordBound (bits : Nat) : Nat :=
  Nat.pow 2 bits

end BuildBench.Number
