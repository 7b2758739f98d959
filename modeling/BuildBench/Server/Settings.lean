import BuildBench.Server.Address
import BuildBench.Time.Duration

set_option autoImplicit false

/-! How the servers of the coordinator are used: names of keys, and patience. -/

namespace BuildBench.Server

/-- The stream of build events, and the consumer that reads it. -/
structure StreamSettings where
  server : Address
  streamKey : String
  group : String
  consumer : String
  deriving DecidableEq, Repr

/-- The name of the consumer with a number in a group. -/
def numberedConsumer (group : String) (index : Nat) : String :=
  s!"{group}-self-contained-proc#{index}"

def StreamSettings.usualKey : String := "oss:api:gh/redis/redis/builds"

def StreamSettings.usualGroup : String := "runners-cg:redis/redis/commits"

/-- The usual stream, read by the first consumer of its group. -/
def StreamSettings.usual : StreamSettings where
  server := .usual
  streamKey := usualKey
  group := usualGroup
  consumer := numberedConsumer usualGroup 1

structure SeriesSettings where
  server : Address
  organisation : String
  repository : String
  trigger : String
  deriving DecidableEq, Repr

namespace SeriesSettings

def usual : SeriesSettings where
  server := .usual
  organisation := "redis"
  repository := "redis"
  trigger := "ci"

def keyStart (settings : SeriesSettings) : String :=
  s!"ci.benchmarks.redislabs/{settings.trigger}/{settings.organisation}/{settings.repository}"

end SeriesSettings

structure ProbeSettings where
  attempts : Nat
  interval : Time.Duration
  /-- The bound on a single attempt. -/
  timeout : Time.Duration
  deriving DecidableEq, Repr

def ProbeSettings.usual : ProbeSettings where
  attempts := 30
  interval := .ofSeconds 1
  timeout := .ofSeconds 2

end BuildBench.Server
