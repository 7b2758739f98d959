import BuildBench.Entry.Cursor
import BuildBench.Entry.Fields

set_option autoImplicit false

/-! What a queue hands to a consumer, and how it fails. An entry whose fields cannot be read is
delivered all the same: the consumer owns it and has to acknowledge it. -/

namespace BuildBench.Entry

/-- The fields of a delivered entry, or why they cannot be read. -/
inductive Body
  | fields (fields : Fields)
  | unreadable (reason : String)
  deriving DecidableEq, Repr

structure Delivery where
  id : Id
  body : Body
  deriving DecidableEq, Repr

inductive QueueError
  | backend (reason : String)
  | malformed (reason : String)
  deriving DecidableEq, Repr

def QueueError.message : QueueError → String
  | .backend reason => s!"queue backend error: {reason}"
  | .malformed reason => s!"malformed queue reply: {reason}"

end BuildBench.Entry
