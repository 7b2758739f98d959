import BuildBench.Cpu.Request
import BuildBench.Yaml.Field

set_option autoImplicit false

/-! The resources that a definition requests. -/

namespace BuildBench.Definition

open BuildBench.Yaml

/-- Requested resources. The memory is not interpreted. -/
structure Resources where
  cpus : Cpu.Request
  memory : Option String
  deriving DecidableEq, Repr

def Resources.readRequests (node : Node) : Reading Resources := do
  let fields ← Reading.fields node
  let quantity ← Reading.field fields "cpus" Reading.quantity
  let memory ← Reading.optionalField? fields "memory" Reading.text
  return { cpus := { quantity }, memory }

def Resources.read (node : Node) : Reading Resources := do
  let fields ← Reading.fields node
  Reading.field fields "requests" readRequests

end BuildBench.Definition
