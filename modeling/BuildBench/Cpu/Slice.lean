import BuildBench.Text.Pieces

set_option autoImplicit false

/-! Contiguous ranges of CPU indices. A slice has its start and leaves out its stop. -/

namespace BuildBench.Cpu

/-- The CPU indices from `start` up to, but without, `stop`. -/
structure Slice where
  start : Nat
  stop : Nat
  ordered : start ≤ stop := by omega
  deriving DecidableEq, Repr

namespace Slice

/-- The slice between two bounds, if they are in order. -/
def ofBounds? (start stop : Nat) : Option Slice :=
  if ordered : start ≤ stop then some { start, stop, ordered } else none

def length (slice : Slice) : Nat :=
  slice.stop - slice.start

def isEmpty (slice : Slice) : Bool :=
  slice.start == slice.stop

def indices (slice : Slice) : List Nat :=
  List.range' slice.start slice.length

/-- Each slice starts before the other one stops. For slices that have indices this says that they
share one. -/
def overlaps (left right : Slice) : Bool :=
  decide (left.start < right.stop) && decide (right.start < left.stop)

def cpuset (slice : Slice) : String :=
  Text.join "," (slice.indices.map toString)

/-- The number of indices in slices, each counted as often as it occurs. -/
def totalLength : List Slice → Nat
  | [] => 0
  | slice :: rest => slice.length + totalLength rest

def toText (slice : Slice) : String :=
  s!"[{slice.start},{slice.stop})"

end Slice

end BuildBench.Cpu
