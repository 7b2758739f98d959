import BuildBench.Number.Shortest

set_option autoImplicit false

/-! Requested CPU quantities. A quantity may be fractional; whole CPUs are what a sandbox gets. -/

namespace BuildBench.Cpu

open BuildBench.Number

structure Request where
  quantity : Binary64
  deriving DecidableEq, Repr

/-- Quantities are written with all their digits, without a power of ten. -/
def quantityLayout : Layout where
  tie := .upward
  positional := fun _ => true
  wholeSuffix := []
  exponentMark := []
  infinity := "inf"
  nan := "NaN"

def Request.toText (request : Request) : String :=
  quantityLayout.write request.quantity

/-- The quantity cannot be met by any number of CPUs. -/
structure InvalidRequest where
  text : String
  deriving DecidableEq, Repr

def InvalidRequest.message (error : InvalidRequest) : String :=
  s!"invalid cpu request: {error.text}"

/-- CPU indices are words of 64 bits. -/
def indexBound : Nat := wordBound 64

/-- The least number of whole CPUs that meets a request. The quantity must be finite, positive and
no larger than the number of indices. -/
def Request.wholeCount (request : Request) : Except InvalidRequest Nat :=
  match request.quantity with
  | .finite false significand exponent =>
      let count := Binary64.ceiling significand exponent
      if 0 < count ∧ count < indexBound then .ok count else .error { text := request.toText }
  | _ => .error { text := request.toText }

end BuildBench.Cpu
