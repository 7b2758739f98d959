import BuildBench.Entry.Build
import BuildBench.Time.Duration

set_option autoImplicit false

/-! What the operator chooses: where things are, and how long to wait. -/

namespace BuildBench.Run

/-- Where sandboxes see their directories, and where the database listens. -/
structure Layout where
  databaseMount : String
  clientMount : String
  host : String
  port : Nat
  serverArtifact : String
  deriving DecidableEq, Repr

def Layout.usual : Layout where
  databaseMount := "/mnt/redis/"
  clientMount := "/mnt/client/"
  host := "localhost"
  port := 6379
  serverArtifact := Entry.Build.defaultArtifact

structure Settings where
  suitesDirectory : String
  workRoot : String
  cpuCount : Nat
  layout : Layout
  deployment : String
  /-- How long another consumer's entry must have been idle to be claimed; nothing is claimed if
  this is absent. -/
  claimIdle : Option Time.Duration
  retryDelay : Time.Duration
  /-- A client that takes less time measures too little. -/
  stableDuration : Time.Duration
  runner : String
  deriving DecidableEq, Repr

/-- The usual choices on a host that has so many CPUs and keeps its runs in `workRoot`. -/
def Settings.usual (workRoot runner : String) (cpuCount : Nat) : Settings where
  suitesDirectory := "test-suites"
  workRoot := workRoot
  cpuCount := cpuCount
  layout := .usual
  deployment := "oss-standalone"
  claimIdle := none
  retryDelay := .ofSeconds 1
  stableDuration := .ofSeconds 10
  runner := runner

end BuildBench.Run
