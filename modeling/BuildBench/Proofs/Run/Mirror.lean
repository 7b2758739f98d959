import BuildBench.Proofs.Run.Ending
import Mathlib.Data.List.Forall2

set_option autoImplicit false

/-! Two benches side by side. What two runs for the same work do and answer is compared up to their
ids, the times at which they started, and the names of their directories. A mirror says that those
who are called on the one side and on the other answer in the same way. -/

namespace BuildBench.Run

open BuildBench.Definition BuildBench.Entry BuildBench.Files

variable {σ τ υ ω ε α β : Type}

/-! ### What is alike -/

/-- Both are values or both are errors, and they are related. -/
inductive AnswersAlike (errors : ε → ε → Prop) (values : α → β → Prop) :
    Except ε α → Except ε β → Prop
  | ok {value : α} {given : β} (related : values value given) :
      AnswersAlike errors values (.ok value) (.ok given)
  | error {error cause : ε} (related : errors error cause) :
      AnswersAlike errors values (.error error) (.error cause)

/-- Passes for the same work. Their ids and the times at which they started may differ. -/
structure Pass.Alike (pass other : Pass) : Prop where
  settings : pass.settings = other.settings
  job : pass.job = other.job

/-- The same file of two passes, each in its own directory. -/
inductive SameFile : String → String → Prop
  | artifact (directory elsewhere name : String) :
      SameFile (joinPath directory name) (joinPath elsewhere name)
  | results {pass other : Pass} (alike : pass.Alike other) (directory elsewhere : String) :
      SameFile (joinPath directory pass.outputFile) (joinPath elsewhere other.outputFile)

inductive Error.Alike : Error → Error → Prop
  | same (error : Error) : Alike error error
  | unwritable {path other : String} (file : SameFile path other) (cause : IoError) :
      Alike (.artifact (.unwritable path cause)) (.artifact (.unwritable other cause))
  | unstored {path other : String} (file : SameFile path other) (reason : String) :
      Alike (.tool (.writeResults path reason)) (.tool (.writeResults other reason))
  | unreadable {path other : String} (file : SameFile path other) (cause : IoError) :
      Alike (.results (.unreadable path cause)) (.results (.unreadable other cause))
  | malformed {path other : String} (file : SameFile path other) (reason : String) :
      Alike (.results (.malformed path reason)) (.results (.malformed other reason))

structure Report.Alike (report other : Report) : Prop where
  databaseSlice : report.databaseSlice = other.databaseSlice
  clientSlice : report.clientSlice = other.clientSlice
  duration : report.duration = other.duration
  results : report.results = other.results
  outputFile : ∃ pass given : Pass, pass.Alike given ∧
    report.outputFile = pass.outputFile ∧ other.outputFile = given.outputFile

def ResultsAlike : Except Error Report → Except Error Report → Prop :=
  AnswersAlike Error.Alike Report.Alike

structure Outcome.Alike (outcome other : Outcome) : Prop where
  suite : outcome.suite = other.suite
  topology : outcome.topology = other.topology
  result : ResultsAlike outcome.result other.result

/-- The same call with the same answer. Where it speaks of a run, each side speaks of its own. -/
inductive Event.Alike : Event → Event → Prop
  | same (event : Event) : Alike event event
  | database {pass other : Pass} (alike : pass.Alike other) (directory elsewhere : String)
      (slice : Cpu.Slice) (files others : Tree) (answer : Except Sandbox.Error Sandbox.Handle) :
      Alike (.launchDatabase (pass.databaseSpec directory slice) files answer)
        (.launchDatabase (other.databaseSpec elsewhere slice) others answer)
  | client {pass other : Pass} (alike : pass.Alike other) (tool : Tool)
      (directory elsewhere : String) (slice : Option Cpu.Slice) {spec given : Sandbox.Spec}
      (prepared : pass.clientSpec tool directory slice = .ok spec)
      (likewise : other.clientSpec tool elsewhere slice = .ok given) (files others : Tree)
      (answer : Except Sandbox.Error Sandbox.ClientRun) :
      Alike (.launchClient spec files answer) (.launchClient given others answer)
  | push {pass other : Pass} (alike : pass.Alike other) {result given : Except Error Report}
      (results : ResultsAlike result given) (answer : Except MetricsError Unit) :
      Alike (.push (pass.summary (pass.outcome result)) answer)
        (.push (other.summary (other.outcome given)) answer)

/-! ### Mirrors -/

/-- All that others can see of a bench and change on it. -/
structure Site (σ τ : Type) where
  host : σ
  sink : τ
  files : Tree

def Bench.site (bench : Bench σ τ) : Site σ τ where
  host := bench.host
  sink := bench.sink
  files := bench.files

/-- Where two coordinators stand: both between two passes, or both in a pass. The directories of
the passes are named once they are there. -/
inductive Place
  | between
  | during (pass other : Pass) (directories : Option (String × String))

/-- From sites that are related, two actions lead to answers and sites that are related. -/
def Action.Relates (before : Site σ τ → Site υ ω → Prop) (left : Action σ τ α)
    (right : Action υ ω β) (after : α → β → Site σ τ → Site υ ω → Prop) : Prop :=
  ∀ bench other, bench.ledger = other.ledger → before bench.site other.site →
    after (left bench).1 (right other).1 (left bench).2.site (right other).2.site

/-- From sites that are alike, two actions give the same answer, and leave sites that are alike. -/
def Action.Mirrors (alike : Site σ τ → Site υ ω → Prop) (left : Action σ τ α)
    (right : Action υ ω α) : Prop :=
  Action.Relates alike left right fun answer given site other => answer = given ∧ alike site other

namespace Pass

/-- The directory of a pass is made under a name that the host provides. -/
def newDirectory (host : Host σ) (pass : Pass) : Action σ τ (Except IoError String) := do
  let suffix ← Action.onHost host.directorySuffix
  let path := joinPath pass.settings.workRoot (directoryMark ++ suffix)
  return (← Action.makeDirectory host path).map fun _ => path

end Pass

/-- Those who are called on the left and on the right answer in the same way. `Alike` relates the
sites of the two sides, and every question that a pass asks finds the same answer in sites that are
alike and leaves them alike. Free are the names that are given to passes and to their directories. -/
structure Mirror (settings : Settings) (left : Collaborators σ τ) (right : Collaborators υ ω) where
  Alike : Place → Site σ τ → Site υ ω → Prop
  name : Action.Relates (Alike .between) (Action.onHost left.host.newRunId)
    (Action.onHost right.host.newRunId) fun _ _ => Alike .between
  opening (job : Job) : Action.Relates (Alike .between) (Pass.opening left.host settings job)
    (Pass.opening right.host settings job) fun pass other => Alike (.during pass other none)
  newDirectory (pass other : Pass) : Action.Relates (Alike (.during pass other none))
    (Pass.newDirectory left.host pass) (Pass.newDirectory right.host other)
    fun made given site opposite =>
      AnswersAlike
        (fun cause reason => cause = reason ∧ Alike (.during pass other none) site opposite)
        (fun directory elsewhere =>
          Alike (.during pass other (some (directory, elsewhere))) site opposite) made given
  writeProgram (pass other : Pass) (directory elsewhere name : String) (data : Bytes) :
    Action.Mirrors (Alike (.during pass other (some (directory, elsewhere))))
      (Action.writeProgram left.host (joinPath directory name) data)
      (Action.writeProgram right.host (joinPath elsewhere name) data)
  launchDatabase (pass other : Pass) (directory elsewhere : String) (slice : Cpu.Slice) :
    Action.Mirrors (Alike (.during pass other (some (directory, elsewhere))))
      (Action.onHostFiles (left.host.launchDatabase (pass.databaseSpec directory slice)))
      (Action.onHostFiles (right.host.launchDatabase (other.databaseSpec elsewhere slice)))
  awaitReady (pass other : Pass) (directories : Option (String × String)) (address : String)
      (port : Nat) :
    Action.Mirrors (Alike (.during pass other directories))
      (Action.onHost (left.host.awaitReady address port))
      (Action.onHost (right.host.awaitReady address port))
  launchClient (pass other : Pass) (directory elsewhere : String) (tool : Tool)
      (slice : Option Cpu.Slice) (spec given : Sandbox.Spec)
      (prepared : pass.clientSpec tool directory slice = .ok spec)
      (likewise : other.clientSpec tool elsewhere slice = .ok given) :
    Action.Mirrors (Alike (.during pass other (some (directory, elsewhere))))
      (Action.onHostFiles (left.host.launchClient spec))
      (Action.onHostFiles (right.host.launchClient given))
  shutdown (pass other : Pass) (directories : Option (String × String)) (address : String)
      (port : Nat) :
    Action.Mirrors (Alike (.during pass other directories))
      (Action.onHost (left.host.shutdown address port))
      (Action.onHost (right.host.shutdown address port))
  writeResults (pass other : Pass) (directory elsewhere : String) (data : Bytes) :
    Action.Mirrors (Alike (.during pass other (some (directory, elsewhere))))
      (Action.writeFile left.host (joinPath directory pass.outputFile) data)
      (Action.writeFile right.host (joinPath elsewhere other.outputFile) data)
  results (pass other : Pass) (directory elsewhere : String) :
    Action.Mirrors (Alike (.during pass other (some (directory, elsewhere))))
      (Action.content left.host (joinPath directory pass.outputFile))
      (Action.content right.host (joinPath elsewhere other.outputFile))
  stop (place : Place) (handle : Sandbox.Handle) :
    Action.Mirrors (Alike place) (Action.onHost (left.host.stop handle))
      (Action.onHost (right.host.stop handle))
  removeDirectory (pass other : Pass) (directory elsewhere : String) :
    Action.Relates (Alike (.during pass other (some (directory, elsewhere))))
      (Action.removeDirectory left.host directory) (Action.removeDirectory right.host elsewhere)
      fun answer given site opposite =>
        answer = given ∧ Alike (.during pass other none) site opposite
  sinks : left.sink.isSome = right.sink.isSome
  push (pass other : Pass) (store : Sink τ) (opposite : Sink ω) (result given : Except Error Report)
      (alike : ResultsAlike result given) (kept : left.sink = some store)
      (likewise : right.sink = some opposite) :
    Action.Mirrors (Alike (.during pass other none))
      (Action.onSink (store.push (pass.summary (pass.outcome result))))
      (Action.onSink (opposite.push (other.summary (other.outcome given))))
  closing (pass other : Pass) (site : Site σ τ) (opposite : Site υ ω) :
    Alike (.during pass other none) site opposite → Alike .between site opposite

end BuildBench.Run
