import BuildBench.Run.Pass

set_option autoImplicit false

/-! The runs of a suite: one for each topology that it names, in order. The positions of their CPUs
are settled before the first run, and a suite starts at the position zero. -/

namespace BuildBench.Run

open BuildBench.Definition BuildBench.Entry

/-- A run that is to be made, or a topology that no one knows. -/
inductive Slot
  | unknown (name : String)
  | planned (topology : Topology) (position : Nat)
  deriving DecidableEq, Repr

/-- The runs for the topologies of a list, from a position on. -/
def slotsFrom (catalog : Catalog) (client : Client) (position : Nat) : List String → List Slot
  | [] => []
  | name :: rest =>
      match catalog.get? name with
      | none => .unknown name :: slotsFrom catalog client position rest
      | some topology =>
          .planned topology position ::
            slotsFrom catalog client (plan topology client position).next rest

/-- The runs of a suite. -/
def slots (catalog : Catalog) (suite : Suite) : List Slot :=
  slotsFrom catalog suite.client 0 suite.topologies

namespace Slot

variable {σ τ : Type}

/-- Stops sandboxes whose stop was deferred, if there are any. -/
def retryDeferred (host : Host σ) : Action σ τ Unit := do
  if (← get).ledger.awaitsStops then Action.retryStops host

/-- Makes one run. An unknown topology fails it without a call. -/
def perform (collaborators : Collaborators σ τ) (settings : Settings) (build : Build)
    (suite : Suite) : Slot → Action σ τ Outcome
  | .unknown name => do
      Action.report .topologyUnknown
      let runId ← Action.onHost collaborators.host.newRunId
      let result := .error (.unknownTopology name)
      return { runId, suite := suite.name, topology := name, result }
  | .planned topology position => do
      retryDeferred collaborators.host
      let slices := (plan topology suite.client position).slices
      Pass.perform collaborators settings { build, suite, topology } slices

/-- Makes runs one after the other. -/
def performAll (collaborators : Collaborators σ τ) (settings : Settings) (build : Build)
    (suite : Suite) : List Slot → Action σ τ (List Outcome)
  | [] => return []
  | slot :: rest => do
      let outcome ← perform collaborators settings build suite slot
      let outcomes ← performAll collaborators settings build suite rest
      return outcome :: outcomes

end Slot

end BuildBench.Run
