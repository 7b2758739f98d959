set_option autoImplicit false

/-! What is reported to the operator without changing what happens. -/

namespace BuildBench.Run

inductive Level
  | warning
  | error
  deriving DecidableEq, Repr

inductive Notice
  | claimFailed
  | iterationFailed
  | entryUnreadable
  | buildUndescribed
  | suiteSkipped
  | topologyUnknown
  | shortBenchmark
  | shutdownFailed
  | stopFailed
  | stopFailedAgain
  | stopUnconfirmed
  | directoryKept
  | runFailed
  | pushFailed
  | acknowledgeFailed
  deriving DecidableEq, Repr

namespace Notice

/-- The level of a notice. What loses an entry or an iteration is an error. -/
def level : Notice → Level
  | .iterationFailed | .entryUnreadable | .buildUndescribed | .topologyUnknown => .error
  | _ => .warning

def text : Notice → String
  | .claimFailed => "failed to claim stale entries"
  | .iterationFailed => "iteration failed; retrying"
  | .entryUnreadable => "unreadable entry; skipping"
  | .buildUndescribed => "Missing commit information within received message; skipping"
  | .suiteSkipped => "skipping unreadable test suite"
  | .topologyUnknown => "run failed"
  | .shortBenchmark =>
      "benchmark ran shorter than the minimum stable duration; results may be unstable"
  | .shutdownFailed => "database shutdown request failed"
  | .stopFailed => "failed to stop sandbox"
  | .stopFailedAgain => "deferred sandbox stop failed again"
  | .stopUnconfirmed => "sandbox stop unconfirmed; keeping cpus reserved"
  | .directoryKept => "failed to remove run directory"
  | .runFailed => "run failed"
  | .pushFailed => "failed to push run summary"
  | .acknowledgeFailed => "failed to acknowledge entry"

end Notice

end BuildBench.Run
