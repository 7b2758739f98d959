import BuildBench.Proofs.Coordinator.Overlap
import BuildBench.Proofs.Coordinator.Redelivery
import BuildBench.Proofs.Run.Summaries

set_option autoImplicit false

/-! What the metrics store is told of an entry. Main statement: the summaries that were offered while
an entry was handled are those of the outcomes in its report, one for each run and in the order of
the runs, and nothing is offered for an entry without a report. -/

namespace BuildBench.Coordinator

open BuildBench.Definition BuildBench.Entry BuildBench.Run

variable {σ τ : Type} {setup : Setup σ τ}

/-! ### What has been told at a stage -/

/-- The commit of the build at hand, or of the one that was reported last. -/
def Stage.gitHash? : Stage → Option String
  | .described build | .amidFiles build _ _ | .amidSlots build _ _ _ _ => some build.gitHash
  | .closing _ (.processed report) | .ended (.ok (.processed report)) => some report.gitHash
  | _ => none

def Setup.ToldAt (setup : Setup σ τ) (stage : Stage) (summaries : List Summary) : Prop :=
  match stage.gitHash? with
  | some gitHash => setup.collaborators.Tells setup.settings gitHash stage.outcomes summaries
  | none => summaries = []

/-- Only a pass offers summaries. -/
theorem Stage.Calls.offered_eq_nil {stage : Stage} {made : List Event} (listed : stage.Calls made)
    (other : stage.isPass = false) : offered made = [] := by
  cases listed with
  | pass others => cases other
  | _ => rfl

theorem Setup.ToldAt.follow {finished : Window} {stage after : Stage} {summaries : List Summary}
    (tells : setup.ToldAt stage summaries) (follows : stage.Follows finished after)
    (other : stage.isPass = false) : setup.ToldAt after summaries := by
  have nothing (gitHash : String) :=
    setup.collaborators.tells_nil setup.settings gitHash summaries
  cases follows with
  | begun unknown same => exact (nothing _).mpr tells
  | unlisted build directory error => exact (nothing _).mp tells
  | ran build suite slot rest files outcomes outcome => cases other
  | closed id iteration => cases iteration <;> exact tells
  | _ => exact tells

theorem step_tells {first : Bench σ τ} {worker : Worker σ τ} {made : List Event}
    (calls : worker.bench.calls = first.calls ++ made)
    (tells : setup.ToldAt worker.stage (offered made)) :
    ∃ later, (setup.next worker).bench.calls = first.calls ++ later ∧
      setup.ToldAt (setup.next worker).stage (offered later) := by
  obtain ⟨stage, state⟩ := worker
  cases pass : stage.isPass with
  | false =>
      obtain ⟨listed, possible, stepped, -⟩ := setup.step_makes state stage
      refine ⟨made ++ listed, ?_, ?_⟩
      · rw [← List.append_assoc, ← calls]
        exact stepped
      · rw [offered_append, possible.offered_eq_nil pass, List.append_nil]
        exact tells.follow (step_follows setup stage state) pass
  | true =>
      cases stage with
      | amidSlots build suite slots files outcomes =>
          cases slots with
          | nil => cases pass
          | cons slot rest =>
              obtain ⟨listed, ran, told⟩ := slot.perform_tells setup.collaborators setup.settings
                build suite state.bench
              refine ⟨made ++ listed, ?_, ?_⟩
              · rw [← List.append_assoc, ← calls]
                exact ran
              · rw [offered_append]
                exact Collaborators.Tells.append tells told
      | _ => cases pass

theorem path_tells {first last : Worker σ τ} (path : setup.Path first last)
    (begun : setup.ToldAt first.stage []) :
    ∃ made, last.bench.calls = first.bench.calls ++ made ∧
      setup.ToldAt last.stage (offered made) := by
  induction path with
  | refl => exact ⟨[], (List.append_nil _).symm, begun⟩
  | step path ih =>
      obtain ⟨made, calls, tells⟩ := ih
      exact step_tells calls tells
  | meddle path host sink files ih => exact ih

/-! ### Whose commit it is -/

theorem path_announces {delivery : Delivery} {state : State σ τ} {last : Worker σ τ}
    (path : setup.Path ⟨.received delivery, state⟩ last) :
    ∀ gitHash ∈ last.stage.gitHash?, Announces delivery gitHash := by
  have stems := path_stems path
  obtain ⟨stage, state⟩ := last
  intro gitHash named
  have described {build : Build} (describes : Describes delivery build)
      (same : build.gitHash = gitHash) : Announces delivery gitHash := ⟨build, describes, same⟩
  cases stage with
  | described build => exact described stems (Option.some.inj named)
  | amidFiles build files outcomes => exact described stems (Option.some.inj named)
  | amidSlots build suite slots files outcomes => exact described stems (Option.some.inj named)
  | closing id iteration =>
      cases iteration with
      | processed report => exact Option.some.inj named ▸ stems
      | _ => cases named
  | ended result =>
      cases result with
      | error error => cases named
      | ok iteration =>
          cases iteration with
          | processed report => exact Option.some.inj named ▸ stems
          | _ => cases named
  | _ => cases named

/-! ### Whole iterations -/

/-- Since a state the summaries of the outcomes in the report were offered, if there is one, and
otherwise none. -/
def Setup.Told (setup : Setup σ τ) (before : State σ τ)
    (ended : Except Error Iteration × State σ τ) : Prop :=
  ∃ made, ended.2.bench.calls = before.bench.calls ++ made ∧
    match ended.1 with
    | .ok (.processed report) =>
        setup.collaborators.Tells setup.settings report.gitHash report.outcomes (offered made)
    | _ => offered made = []

theorem told_of_path {first : Stage} {state : State σ τ}
    {ended : Except Error Iteration × State σ τ}
    (path : setup.Path ⟨first, state⟩ ⟨.ended ended.1, ended.2⟩)
    (silent : setup.ToldAt first []) : setup.Told state ended := by
  obtain ⟨made, calls, tells⟩ := path_tells path silent
  refine ⟨made, calls, ?_⟩
  cases result : ended.1 with
  | error error =>
      rw [result] at tells
      exact tells
  | ok iteration =>
      rw [result] at tells
      cases iteration <;> exact tells

theorem treat_announces {delivery : Delivery} {state : State σ τ} {report : BuildReport}
    (processed : (setup.treat delivery state).1 = .ok (.processed report)) :
    Announces delivery report.gitHash := by
  have path : setup.Path ⟨.received delivery, state⟩ _ := setup.path_treat .refl
  rw [processed] at path
  exact path_announces path report.gitHash rfl

/-- An entry was claimed, or else read. -/
def Setup.Obtains (setup : Setup σ τ) (state : State σ τ) (delivery : Delivery) : Prop :=
  (setup.claim state).1 = some delivery ∨
    ((setup.claim state).1 = none ∧
      (setup.readNext (setup.claim state).2).1 = .ok (some delivery))

theorem iterate_announces {state : State σ τ} {report : BuildReport}
    (processed : (setup.iterate state).1 = .ok (.processed report)) :
    ∃ delivery, setup.Obtains state delivery ∧ Announces delivery report.gitHash := by
  unfold Setup.iterate at processed
  rw [Work.bind_apply] at processed
  cases claimed : (setup.claim state).1 with
  | some delivery =>
      rw [claimed] at processed
      exact ⟨delivery, Or.inl claimed, treat_announces processed⟩
  | none =>
      simp only [claimed, Work.bind_apply] at processed
      cases read : (setup.readNext (setup.claim state).2).1 with
      | error error =>
          rw [read] at processed
          cases processed
      | ok delivery =>
          rw [read] at processed
          cases delivery with
          | none => cases processed
          | some delivery => exact ⟨delivery, Or.inr ⟨claimed, read⟩, treat_announces processed⟩

/-! ### Main result -/

/-- With a metrics store, and whatever it answers, the summaries that an iteration offers are those of
the outcomes in its report, topologies that no one knows aside: one for each, in the same order, with
the commit of the entry. An iteration without a report offers none, and without a store nothing is
offered. So it is after each step, whatever others do meanwhile. -/
theorem summaries_describe_outcomes (setup : Setup σ τ) :
    (∀ delivery state,
      setup.Told state (setup.treat delivery state) ∧
        ∀ report, (setup.treat delivery state).1 = .ok (.processed report) →
          Announces delivery report.gitHash) ∧
    (∀ delivery state,
      setup.Told state (setup.accept delivery state) ∧
        ∀ report, (setup.accept delivery state).1 = .ok (.processed report) →
          Announces delivery report.gitHash) ∧
    (∀ state,
      setup.Told state (setup.iterate state) ∧
        ∀ report, (setup.iterate state).1 = .ok (.processed report) →
          ∃ delivery, setup.Obtains state delivery ∧ Announces delivery report.gitHash) ∧
    (∀ state worker, setup.Path ⟨.resting, state⟩ worker →
      ∃ made, worker.bench.calls = state.bench.calls ++ made ∧
        setup.ToldAt worker.stage (offered made)) ∧
    ∀ delivery state worker, setup.Path ⟨.received delivery, state⟩ worker →
      ∃ made, worker.bench.calls = state.bench.calls ++ made ∧
        setup.ToldAt worker.stage (offered made) ∧
        ∀ gitHash ∈ worker.stage.gitHash?, Announces delivery gitHash := by
  refine ⟨?_, ?_, ?_, ?_, ?_⟩
  · intro delivery state
    exact ⟨told_of_path (setup.path_treat .refl) rfl, fun report => treat_announces⟩
  · intro delivery state
    have told : setup.Told { state with cursor := state.cursor.advance delivery.id }
        (setup.accept delivery state) := told_of_path (setup.path_accept .refl) rfl
    exact ⟨told, fun report => treat_announces⟩
  · intro state
    exact ⟨told_of_path (setup.path_iterate .refl) rfl, fun report => iterate_announces⟩
  · intro state worker path
    exact path_tells path rfl
  · intro delivery state worker path
    obtain ⟨made, calls, tells⟩ := path_tells path rfl
    exact ⟨made, calls, tells, path_announces path⟩

def Setup.withStore : Setup Rehearsal.Script (Option String) where
  collaborators := { host := Pass.litteringHost, sink := some Rehearsal.sink }
  settings := .usual "/work" "bench" 8
  catalog := Slot.rehearsedCatalog

/-- A store that refuses everything is offered the summary of the one topology that is known. -/
theorem summaries_describe_outcomes_rehearsed :
    let state := Setup.withStore.start .start (some "down") suiteTree .undelivered
    ∃ worker made summary, Setup.withStore.Path ⟨.received suiteDelivery, state⟩ worker ∧
      worker.stage.outcomes.map Outcome.topology = ["one", "missing"] ∧
      worker.bench.calls = made ∧ offered made = [summary] ∧ summary.topology = "one" ∧
      Announces suiteDelivery summary.gitHash := by
  intro state
  obtain ⟨build, decoded⟩ : ∃ build, Build.decode suiteDelivery.id
      (.ofList [("git_hash", [48]), ("build_image", [105])]) = .ok build := ⟨_, by cbv⟩
  have unknown : state.finished.contains suiteDelivery.id = false := rfl
  have listed : (Setup.withStore.suiteFiles state.bench).1 = .ok ["test-suites/a.yml"] :=
    suiteTree_listed
  obtain ⟨bench, path, -⟩ := path_runs unknown rfl decoded listed suiteTree_loaded
  have due : slots Setup.withStore.catalog suiteOfText =
      [.planned Pass.rehearsedJob.topology 0, .unknown "missing"] := by decide
  rw [due] at path
  let perform (slot : Slot) (bench : Bench Rehearsal.Script (Option String)) :=
    slot.perform Setup.withStore.collaborators Setup.withStore.settings build suiteOfText bench
  let first := perform (.planned Pass.rehearsedJob.topology 0) bench
  let second := perform (.unknown "missing") first.2
  obtain ⟨made, calls, told, announced⟩ :=
    (summaries_describe_outcomes Setup.withStore).2.2.2.2 suiteDelivery state _ path.step.step
  have told : Setup.withStore.collaborators.Tells Setup.withStore.settings build.gitHash
      [first.1, second.1] (offered made) := told
  let job : Job := ⟨build, suiteOfText, Pass.rehearsedJob.topology⟩
  let slices := (plan job.topology suiteOfText.client 0).slices
  have known : first.1.isOfPass = true := Pass.perform_isOfPass Setup.withStore.collaborators
    Setup.withStore.settings job slices (Slot.retryDeferred Setup.withStore.host bench).2
  have missing : second.1.isOfPass = false := rfl
  have reported : Setup.withStore.collaborators.reports [first.1, second.1] = [first.1] := by
    change [first.1, second.1].filter Outcome.isOfPass = _
    rw [List.filter_cons_of_pos known, List.filter_cons_of_neg (missing ▸ Bool.false_ne_true),
      List.filter_nil]
  unfold Collaborators.Tells at told
  rw [reported] at told
  obtain ⟨summary, rest, describes, none, offers⟩ := List.forall₂_cons_left_iff.mp told
  rw [List.forall₂_nil_left_iff.mp none] at offers
  have named : first.1.topology = "one" := (Pass.perform_names Setup.withStore.collaborators
    Setup.withStore.settings job slices (Slot.retryDeferred Setup.withStore.host bench).2).2
  refine ⟨_, made, summary, path.step.step, ?_, calls, offers, ?_, ?_⟩
  · change [first.1, second.1].map Outcome.topology = _
    rw [List.map_cons, named]
    rfl
  · exact describes.topology.trans named
  · rw [describes.gitHash]
    exact announced build.gitHash rfl

end BuildBench.Coordinator
