import BuildBench.Cpu.Allocation
import BuildBench.Definition.Topology
import BuildBench.Definition.Suite

set_option autoImplicit false

/-! Which CPUs a run asks for. That depends on the requests and on the position alone, and not on
what becomes of any run. -/

namespace BuildBench.Run

open BuildBench.Definition

/-- The slices of a run. -/
structure Slices where
  database : Cpu.Slice
  client : Option Cpu.Slice
  deriving DecidableEq, Repr

/-- The slices of a run, and the position of the next one. A request that was met moves the
position on even if a later one cannot be met. -/
structure Plan where
  slices : Except Cpu.Error Slices
  next : Nat

/-- Plans a run at a position: the database's CPUs, then those of the client if it asks for some. -/
def plan (topology : Topology) (client : Client) (position : Nat) : Plan :=
  match Cpu.allocate topology.resources.cpus position with
  | .error error => { slices := .error error, next := position }
  | .ok database =>
      match client.resources with
      | none => { slices := .ok ⟨database.slice, none⟩, next := database.next }
      | some resources =>
          match Cpu.allocate resources.cpus database.next with
          | .error error => { slices := .error error, next := database.next }
          | .ok allocation =>
              { slices := .ok ⟨database.slice, some allocation.slice⟩, next := allocation.next }

end BuildBench.Run
