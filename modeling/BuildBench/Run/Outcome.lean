import BuildBench.Json.Basic
import BuildBench.Run.Error
import BuildBench.Time.Civil

set_option autoImplicit false

/-! How a run ended, and what is told to the metrics store. -/

namespace BuildBench.Run

/-- A run succeeds or fails. -/
inductive Status
  | succeeded
  | failed
  deriving DecidableEq, Repr

def Status.name : Status → String
  | .succeeded => "succeeded"
  | .failed => "failed"

structure Report where
  databaseSlice : Cpu.Slice
  clientSlice : Option Cpu.Slice
  duration : Time.Duration
  results : Json.Value
  /-- The name of the result file in the run's directory. -/
  outputFile : String

/-- The end of the run of one suite on one topology. -/
structure Outcome where
  runId : String
  suite : String
  topology : String
  result : Except Error Report

namespace Outcome

def status (outcome : Outcome) : Status :=
  match outcome.result with
  | .ok _ => .succeeded
  | .error _ => .failed

def hasSucceeded (outcome : Outcome) : Bool :=
  outcome.status == .succeeded

def report? (outcome : Outcome) : Option Report :=
  match outcome.result with
  | .ok report => some report
  | .error _ => none

end Outcome

structure Summary where
  runId : String
  gitHash : String
  suite : String
  topology : String
  deployment : String
  runner : String
  status : Status
  /-- Start of the run in thousandths of a second since the start of 1970. -/
  started : Int
  duration : Option Time.Duration
  results : Option Json.Value

structure MetricsError where
  reason : String
  deriving DecidableEq, Repr

def MetricsError.message (error : MetricsError) : String :=
  s!"metrics store error: {error.reason}"

end BuildBench.Run
