import BuildBench.Cpu.Request
import BuildBench.Cpu.Slice

set_option autoImplicit false

/-! Position arithmetic of CPU slices: a request is met by the whole CPUs that start at a position,
and the next position is where they stop. -/

namespace BuildBench.Cpu

inductive Error
  | invalidRequest (reason : String)
  | exceedsPool (slice : Slice) (pool : Nat)
  | overlap (slice live : Slice)
  deriving DecidableEq, Repr

def Error.message : Error → String
  | .invalidRequest reason => s!"invalid cpu request: {reason}"
  | .exceedsPool slice pool => s!"slice {slice.toText} exceeds the pool of {pool} cpus"
  | .overlap slice live =>
      s!"slice {slice.toText} overlaps live reservation {live.toText}"

structure Allocation where
  slice : Slice
  next : Nat
  deriving DecidableEq, Repr

def sliceAt (position count : Nat) : Slice where
  start := position
  stop := position + count
  ordered := Nat.le_add_right position count

/-- Meets a request at a position, as long as the slice stops at an index that can be written. -/
def allocate (request : Request) (position : Nat) : Except Error Allocation :=
  match request.wholeCount with
  | .error error => .error (.invalidRequest error.message)
  | .ok count =>
      if position + count < indexBound then
        .ok { slice := sliceAt position count, next := position + count }
      else .error (.invalidRequest s!"{request.toText} cpus from position {position}")

end BuildBench.Cpu
