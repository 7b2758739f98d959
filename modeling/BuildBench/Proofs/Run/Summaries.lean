import BuildBench.Proofs.Run.Lifecycle
import BuildBench.Proofs.Run.Reservation
import BuildBench.Run.Schedule

set_option autoImplicit false

/-! What the metrics store is told of a run. Main statement: a run offers one summary, which says what
its outcome says, and a topology that no one knows offers none. -/

namespace BuildBench.Run

open BuildBench.Definition BuildBench.Entry

variable {σ τ : Type}

/-- The summaries with which the metrics store was called, whatever it answered. -/
def offered (events : List Event) : List Summary :=
  events.filterMap fun
    | .push summary _ => some summary
    | _ => none

@[simp]
theorem offered_append (events later : List Event) :
    offered (events ++ later) = offered events ++ offered later :=
  List.filterMap_append

/-- The summary says of a run for a build with that hash what its outcome says. -/
structure Summary.Describes (settings : Settings) (gitHash : String) (outcome : Outcome)
    (summary : Summary) : Prop where
  runId : summary.runId = outcome.runId
  suite : summary.suite = outcome.suite
  topology : summary.topology = outcome.topology
  status : summary.status = outcome.status
  gitHash : summary.gitHash = gitHash
  deployment : summary.deployment = settings.deployment
  runner : summary.runner = settings.runner
  succeeded : ∀ report, outcome.result = .ok report →
    summary.duration = some report.duration ∧ summary.results = some report.results
  failed : outcome.status = .failed → summary.duration = none ∧ summary.results = none

theorem Pass.summary_describes (pass : Pass) (outcome : Outcome) :
    (pass.summary outcome).Describes pass.settings pass.job.build.gitHash outcome := by
  refine ⟨rfl, rfl, rfl, rfl, rfl, rfl, rfl, ?_, ?_⟩
  · intro report succeeded
    simp only [Pass.summary, Outcome.report?, succeeded, Option.map_some, and_self]
  · intro failed
    unfold Outcome.status at failed
    unfold Pass.summary Outcome.report?
    cases result : outcome.result with
    | ok report =>
        rw [result] at failed
        cases failed
    | error error => exact ⟨rfl, rfl⟩

/-- The outcome is not that of a topology which the catalog lacks. -/
def Outcome.isOfPass (outcome : Outcome) : Bool :=
  match outcome.result with
  | .error (.unknownTopology _) => false
  | _ => true

/-- The outcomes of which the metrics store is to be told. -/
def Collaborators.reports (collaborators : Collaborators σ τ) (outcomes : List Outcome) :
    List Outcome :=
  match collaborators.sink with
  | none => []
  | some _ => outcomes.filter Outcome.isOfPass

theorem Collaborators.reports_append (collaborators : Collaborators σ τ)
    (outcomes later : List Outcome) :
    collaborators.reports (outcomes ++ later) =
      collaborators.reports outcomes ++ collaborators.reports later := by
  unfold Collaborators.reports
  cases collaborators.sink with
  | none => rfl
  | some sink => exact List.filter_append _ _

/-- The summaries are those of the outcomes, one for each and in the same order. -/
def Collaborators.Tells (collaborators : Collaborators σ τ) (settings : Settings) (gitHash : String)
    (outcomes : List Outcome) (summaries : List Summary) : Prop :=
  List.Forall₂ (Summary.Describes settings gitHash) (collaborators.reports outcomes) summaries

theorem Collaborators.Tells.append {collaborators : Collaborators σ τ} {settings : Settings}
    {gitHash : String} {outcomes later : List Outcome} {summaries others : List Summary}
    (first : collaborators.Tells settings gitHash outcomes summaries)
    (second : collaborators.Tells settings gitHash later others) :
    collaborators.Tells settings gitHash (outcomes ++ later) (summaries ++ others) := by
  unfold Collaborators.Tells
  rw [Collaborators.reports_append]
  exact List.rel_append first second

theorem Collaborators.tells_nil (collaborators : Collaborators σ τ) (settings : Settings)
    (gitHash : String) (summaries : List Summary) :
    collaborators.Tells settings gitHash [] summaries ↔ summaries = [] := by
  unfold Collaborators.Tells Collaborators.reports
  cases collaborators.sink <;> exact List.forall₂_nil_left_iff

theorem offered_eq_nil {events : List Event}
    (other : ∀ event ∈ events, ∀ summary answer, event ≠ .push summary answer) :
    offered events = [] := by
  refine List.filterMap_eq_nil_iff.mpr fun event member => ?_
  cases event with
  | push summary answer => exact absurd rfl (other _ member summary answer)
  | _ => rfl

theorem offered_course (course : Course) (layout : Layout) :
    offered (course.calls layout) = [] := by
  cases course <;> rfl

theorem offered_stopCalls (handle : Option Sandbox.Handle) (answer : Except Sandbox.Error Unit) :
    offered (stopCalls handle answer) = [] := by
  cases handle <;> rfl

theorem Pass.perform_isOfPass (collaborators : Collaborators σ τ) (settings : Settings) (job : Job)
    (slices : Except Cpu.Error Slices) (bench : Bench σ τ) :
    (perform collaborators settings job slices bench).1.isOfPass = true := by
  have never := (perform_reserves collaborators settings job slices bench).2
  unfold Outcome.isOfPass
  split
  · rename_i name result
    exact absurd result (never name)
  · rfl

/-- A pass offers its summary after all else, whatever has become of it. -/
theorem Pass.perform_tells (collaborators : Collaborators σ τ) (settings : Settings) (job : Job)
    (slices : Except Cpu.Error Slices) (bench : Bench σ τ) :
    ∃ made,
      (perform collaborators settings job slices bench).2.calls = bench.calls ++ made ∧
      collaborators.Tells settings job.build.gitHash
        [(perform collaborators settings job slices bench).1] (offered made) := by
  obtain ⟨course, databaseStop, clientStop, pushed, -, calls⟩ :=
    perform_calls collaborators settings job slices bench
  rw [List.append_assoc, List.append_assoc, List.append_assoc] at calls
  refine ⟨_, calls, ?_⟩
  have known := perform_isOfPass collaborators settings job slices bench
  simp only [offered_append, offered_course, offered_stopCalls, List.nil_append]
  unfold Collaborators.Tells Collaborators.reports
  cases collaborators.sink with
  | none => exact .nil
  | some sink =>
      simp only [List.filter_cons_of_pos known, List.filter_nil]
      let pass := (opening collaborators.host settings job bench).1
      exact .cons (pass.summary_describes _) .nil

/-- A run of a suite offers one summary if it comes to a pass, and otherwise none. -/
theorem Slot.perform_tells (collaborators : Collaborators σ τ) (settings : Settings)
    (build : Build) (suite : Suite) (slot : Slot) (bench : Bench σ τ) :
    ∃ made,
      (slot.perform collaborators settings build suite bench).2.calls = bench.calls ++ made ∧
      collaborators.Tells settings build.gitHash
        [(slot.perform collaborators settings build suite bench).1] (offered made) := by
  cases slot with
  | unknown name =>
      refine ⟨[], (Action.report_makes .topologyUnknown bench).calls, ?_⟩
      unfold Collaborators.Tells Collaborators.reports
      cases collaborators.sink <;> exact .nil
  | planned topology position =>
      obtain ⟨stops, retried, onlyStops⟩ := retryDeferred_calls collaborators.host bench
      obtain ⟨made, calls, tells⟩ := Pass.perform_tells collaborators settings
        { build, suite, topology } (plan topology suite.client position).slices
        (retryDeferred collaborators.host bench).2
      rw [retried, List.append_assoc] at calls
      refine ⟨stops ++ made, calls, ?_⟩
      have silent : offered stops = [] := by
        refine offered_eq_nil fun event member summary answer same => ?_
        obtain ⟨handle, given, isStop⟩ := onlyStops event member
        cases isStop.symm.trans same
      rw [offered_append, silent, List.nil_append]
      exact tells

end BuildBench.Run
