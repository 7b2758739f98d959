import BuildBench.Number.Shortest
import BuildBench.Run.Outcome
import BuildBench.Server.Network
import BuildBench.Server.Settings

set_option autoImplicit false

/-! Runs as samples of time series: the set of test names, counters of runs that succeeded and
failed, and the durations of those that succeeded. -/

namespace BuildBench.Server

open BuildBench.Run

def secondsLayout : Number.Layout where
  tie := .upward
  positional := fun _ => true
  wholeSuffix := []
  exponentMark := []
  infinity := "inf"
  nan := "NaN"

namespace SeriesSettings

def labels (settings : SeriesSettings) (summary : Summary) : List String :=
  ["LABELS", "github_org", settings.organisation, "github_repo", settings.repository,
    "deployment_type", summary.deployment, "triggering_env", settings.trigger]

def counter : Status → String
  | .succeeded => "total_success"
  | .failed => "total_failures"

/-- Records the name of the test. -/
def addTest (settings : SeriesSettings) (summary : Summary) : List String :=
  ["SADD", s!"{settings.keyStart}:testcases", summary.suite]

def count (settings : SeriesSettings) (summary : Summary) : List String :=
  ["TS.INCRBY", s!"{settings.keyStart}:{counter summary.status}", "1", "TIMESTAMP",
    toString summary.started] ++ settings.labels summary

def addDuration (settings : SeriesSettings) (summary : Summary) (duration : Time.Duration) :
    List String :=
  ["TS.ADD", s!"{settings.keyStart}:{summary.suite}:benchmark_duration",
    toString summary.started, secondsLayout.write duration.secondsAsDouble] ++
    settings.labels summary ++ ["test_name", summary.suite]

/-- The commands that record a run, in order. Only a run that succeeded has a duration. -/
def commands (settings : SeriesSettings) (summary : Summary) : List (List String) :=
  let always := [settings.addTest summary, settings.count summary]
  match summary.status, summary.duration with
  | .succeeded, some duration => always ++ [settings.addDuration summary duration]
  | _, _ => always

end SeriesSettings

structure Series (σ : Type) where
  network : Network σ
  settings : SeriesSettings

namespace Series

variable {σ : Type}

/-- Sends commands one after the other, up to the first that fails. -/
def sendAll (series : Series σ) : List (List String) → StateM σ (Except Fault Unit)
  | [] => return .ok ()
  | command :: rest => do
      match ← series.network.send series.settings.server command with
      | .error fault => return .error fault
      | .ok _ => series.sendAll rest

def connect (series : Series σ) : StateM σ (Except Fault Unit) :=
  series.network.connect series.settings.server

def push (series : Series σ) (summary : Summary) : StateM σ (Except MetricsError Unit) := do
  return (← series.sendAll (series.settings.commands summary)).mapError fun fault =>
    { reason := fault.message }

end Series

end BuildBench.Server
