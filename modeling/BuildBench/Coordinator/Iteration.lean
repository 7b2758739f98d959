import BuildBench.Definition.Error
import BuildBench.Entry.Delivery
import BuildBench.Run.Outcome
import BuildBench.Text.Pieces

set_option autoImplicit false

/-! What one iteration of the coordinator does, or why it fails. -/

namespace BuildBench.Coordinator

open BuildBench.Entry

/-- A finished entry: one outcome for each run, in the order of the runs. -/
structure BuildReport where
  id : Id
  gitHash : String
  outcomes : List Run.Outcome

/-- What an iteration did. -/
inductive Iteration
  /-- No entry was delivered. -/
  | idle
  /-- The entry describes no build. It is acknowledged. -/
  | skipped (id : Id) (reason : String)
  /-- The entry was finished before. It is acknowledged again. -/
  | duplicate (id : Id)
  | processed (report : BuildReport)

/-- Why an iteration fails. The entry, if there is one, stays pending. -/
inductive Error
  | queue (error : QueueError)
  | suites (directory : String) (error : Definition.Error)
  deriving DecidableEq, Repr

namespace Error

/-- The wording of an error. -/
def message : Error → String
  | .queue error => error.message
  | .suites directory error => s!"test suites in {directory} are not readable: {error.message}"

def causes : Error → List String
  | .queue _ => []
  | .suites _ error => error.message :: error.causes

/-- The message and the wordings behind it, with colons between them. -/
def chain (error : Error) : String :=
  Text.join ": " (error.message :: error.causes)

end Error

end BuildBench.Coordinator
