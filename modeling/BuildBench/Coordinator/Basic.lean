import BuildBench.Coordinator.Iteration
import BuildBench.Coordinator.Window
import BuildBench.Definition.Directory
import BuildBench.Entry.Cursor
import BuildBench.Run.Schedule

set_option autoImplicit false

/-! The coordinator: it takes one entry after the other and makes the runs of every suite for the
build that the entry announces. An entry is acknowledged when all its runs have ended, so that it
is delivered again if the coordinator stops before. -/

namespace BuildBench.Coordinator

open BuildBench.Definition BuildBench.Entry BuildBench.Run

/-- What a coordinator works with. -/
structure Setup (σ τ : Type) where
  collaborators : Collaborators σ τ
  settings : Settings
  catalog : Catalog

/-- A coordinator between two entries. -/
structure State (σ τ : Type) where
  bench : Bench σ τ
  cursor : Cursor
  /-- What it has finished. -/
  finished : Window

/-- Something that a coordinator does. -/
abbrev Work (σ τ α : Type) := StateM (State σ τ) α

namespace Setup

variable {σ τ α : Type}

def start (setup : Setup σ τ) (host : σ) (sink : τ) (files : Files.Tree) (cursor : Cursor) :
    State σ τ where
  bench := .start host sink files setup.settings.cpuCount
  cursor := cursor
  finished := .empty

def act (action : Action σ τ α) : Work σ τ α :=
  fun state =>
    let (answer, bench) := action state.bench
    (answer, { state with bench })

def host (setup : Setup σ τ) : Host σ :=
  setup.collaborators.host

/-! ### Suites -/

def suiteFiles (setup : Setup σ τ) : Action σ τ (Except Definition.Error (List String)) :=
  let directory := setup.settings.suitesDirectory
  Action.inspect setup.host (.list directory) (.unreadable directory)
    (definitionFiles · directory)

def loadSuite (setup : Setup σ τ) (path : String) :
    Action σ τ (Except Definition.Error Suite) :=
  Action.inspect setup.host (.read path) (.unreadable path) (Suite.load · path)

/-- Makes the runs of the suite in a file. A file that defines no suite is passed over. -/
def runFile (setup : Setup σ τ) (build : Build) (path : String) :
    Action σ τ (List Outcome) := do
  match ← setup.loadSuite path with
  | .error _ =>
      Action.report .suiteSkipped
      return []
  | .ok suite =>
      Slot.performAll setup.collaborators setup.settings build suite (slots setup.catalog suite)

def runFiles (setup : Setup σ τ) (build : Build) : List String → Action σ τ (List Outcome)
  | [] => return []
  | path :: rest => do
      let outcomes ← setup.runFile build path
      let others ← setup.runFiles build rest
      return outcomes ++ others

/-! ### Entries -/

def finish (setup : Setup σ τ) (id : Id) : Work σ τ Unit := do
  act (Action.acknowledge setup.host id)
  modify fun state => { state with finished := state.finished.insert id }

/-- Passes over an entry for which no run can be made. -/
def passOver (setup : Setup σ τ) (id : Id) (notice : Notice) (reason : String) :
    Work σ τ Iteration := do
  act (Action.report notice)
  setup.finish id
  return .skipped id reason

def benchmark (setup : Setup σ τ) (build : Build) : Work σ τ (Except Error Iteration) := do
  match ← act setup.suiteFiles with
  | .error error => return .error (.suites setup.settings.suitesDirectory error)
  | .ok files =>
      let outcomes ← act (setup.runFiles build files)
      setup.finish build.id
      return .ok (.processed { id := build.id, gitHash := build.gitHash, outcomes })

def treatFresh (setup : Setup σ τ) (delivery : Delivery) :
    Work σ τ (Except Error Iteration) := do
  match delivery.body with
  | .unreadable reason => return .ok (← setup.passOver delivery.id .entryUnreadable reason)
  | .fields fields =>
      match Build.decode delivery.id fields with
      | .error error => return .ok (← setup.passOver delivery.id .buildUndescribed error.message)
      | .ok build => setup.benchmark build

def treat (setup : Setup σ τ) (delivery : Delivery) : Work σ τ (Except Error Iteration) := do
  if (← get).finished.contains delivery.id then
    act (Action.acknowledge setup.host delivery.id)
    return .ok (.duplicate delivery.id)
  else setup.treatFresh delivery

/-- Handles an entry that was read at the cursor, which moves on with it. -/
def accept (setup : Setup σ τ) (delivery : Delivery) : Work σ τ (Except Error Iteration) := do
  modify fun state => { state with cursor := state.cursor.advance delivery.id }
  setup.treat delivery

/-! ### Iterations -/

/-- An entry that another consumer left idle, if such entries are claimed and there is one. That
claiming fails is only reported. -/
def claim (setup : Setup σ τ) : Work σ τ (Option Delivery) := do
  match setup.settings.claimIdle with
  | none => return none
  | some idle =>
      match ← act (Action.takeOver setup.host idle) with
      | .ok delivery => return delivery
      | .error _ =>
          act (Action.report .claimFailed)
          return none

def readNext (setup : Setup σ τ) : Work σ τ (Except QueueError (Option Delivery)) := do
  act (Action.read setup.host (← get).cursor)

/-- What follows from a read. When the pending entries are exhausted the cursor moves on to those
that were never delivered. -/
def followRead (setup : Setup σ τ) :
    Except QueueError (Option Delivery) → Work σ τ (Except Error Iteration)
  | .error error => return .error (.queue error)
  | .ok (some delivery) => setup.accept delivery
  | .ok none => do
      modify fun state => { state with cursor := state.cursor.exhaust }
      return .ok .idle

/-- One iteration: an entry that was claimed, or else the one that is read. A claimed entry leaves
the cursor where it is. -/
def iterate (setup : Setup σ τ) : Work σ τ (Except Error Iteration) := do
  match ← setup.claim with
  | some delivery => setup.treat delivery
  | none => setup.followRead (← setup.readNext)

/-! ### The loop -/

/-- The operator asks to stop. -/
def cancelled (setup : Setup σ τ) : Work σ τ Bool :=
  act (Action.onHost setup.host.cancelled)

/-- One iteration, unless the operator asks to stop before its entry is there. Then what a claim or
a read may have brought is left to whoever reads next. -/
def runUnlessCancelled (setup : Setup σ τ) : Work σ τ (Option (Except Error Iteration)) := do
  if ← setup.cancelled then return none
  let claimed ← setup.claim
  if ← setup.cancelled then return none
  match claimed with
  | some delivery => return some (← setup.treat delivery)
  | none =>
      let answer ← setup.readNext
      if ← setup.cancelled then return none
      return some (← setup.followRead answer)

/-- Iterates until the operator asks to stop, but at most so often. The answer is whether it
stopped. A failed iteration is reported, and the next one tries again after a pause that ends early
when the operator asks to stop. -/
def run (setup : Setup σ τ) : Nat → Work σ τ Bool
  | 0 => return false
  | iterations + 1 => do
      match ← setup.runUnlessCancelled with
      | none => return true
      | some (.ok _) => setup.run iterations
      | some (.error _) =>
          act (Action.report .iterationFailed)
          if ← setup.cancelled then return true else setup.run iterations

end Setup

end BuildBench.Coordinator
