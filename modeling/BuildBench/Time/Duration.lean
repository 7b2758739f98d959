import BuildBench.Number.Binary64

set_option autoImplicit false

/-! Lengths of time in whole nanoseconds. -/

namespace BuildBench.Time

structure Duration where
  nanoseconds : Nat
  deriving DecidableEq, Repr

namespace Duration

instance : LT Duration where
  lt left right := left.nanoseconds < right.nanoseconds

instance (left right : Duration) : Decidable (left < right) :=
  inferInstanceAs (Decidable (left.nanoseconds < right.nanoseconds))

def ofMilliseconds (count : Nat) : Duration where
  nanoseconds := count * 1000000

def ofSeconds (count : Nat) : Duration where
  nanoseconds := count * 1000000000

def milliseconds (duration : Duration) : Nat :=
  duration.nanoseconds / 1000000

/-- The whole seconds and the part of a second are rounded to doubles on their own, and their sum
once more. -/
def secondsAsDouble (duration : Duration) : Number.Binary64 :=
  (Number.Binary64.ofNat (duration.nanoseconds / 1000000000)).addMagnitudes
    (.nearest false (duration.nanoseconds % 1000000000) 1000000000)

end Duration

end BuildBench.Time
