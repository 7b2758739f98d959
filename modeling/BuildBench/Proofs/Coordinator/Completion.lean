import BuildBench.Proofs.Coordinator.Calls

set_option autoImplicit false

/-! What a coordinator has done for an entry when it acknowledges it. Main statement: whatever it
remembers as finished, and whatever it is about to acknowledge, it has completed: the entry
describes no build, or every run of every suite was made. -/

namespace BuildBench.Coordinator

open BuildBench.Definition BuildBench.Entry BuildBench.Run

variable {σ τ : Type}

/-! ### Completed entries -/

def Undescribed (delivery : Delivery) : Prop :=
  (∃ reason, delivery.body = .unreadable reason) ∨
    ∃ fields error, delivery.body = .fields fields ∧
      Build.decode delivery.id fields = .error error

inductive SlotsDone (setup : Setup σ τ) (build : Build) (suite : Suite) :
    List Slot → List Deed → Prop
  | nil : SlotsDone setup build suite [] []
  | cons {slot : Slot} {rest : List Slot} {deeds : List Deed} (bench : Bench σ τ)
      (later : SlotsDone setup build suite rest deeds) :
      SlotsDone setup build suite (slot :: rest)
        (.ran build suite slot
          (slot.perform setup.collaborators setup.settings build suite bench).1 :: deeds)

/-- Each file was loaded, in order, and the runs of each suite were made. A file that defines no
suite was passed over. -/
inductive FilesDone (setup : Setup σ τ) (build : Build) : List String → List Deed → Prop
  | nil : FilesDone setup build [] []
  | passedOver {path : String} {error : Definition.Error} {rest : List String} {deeds : List Deed}
      (bench : Bench σ τ) (failed : (setup.loadSuite path bench).1 = .error error)
      (later : FilesDone setup build rest deeds) :
      FilesDone setup build (path :: rest) (.loaded path (.error error) :: deeds)
  | suite {path : String} {suite : Suite} {runs : List Deed} {rest : List String}
      {deeds : List Deed} (bench : Bench σ τ) (loaded : (setup.loadSuite path bench).1 = .ok suite)
      (ran : SlotsDone setup build suite (slots setup.catalog suite) runs)
      (later : FilesDone setup build rest deeds) :
      FilesDone setup build (path :: rest) (.loaded path (.ok suite) :: (runs ++ deeds))

/-- All that is to be done for an entry, from its beginning to its end. -/
inductive Story (setup : Setup σ τ) (id : Id) : List Deed → Prop
  | rejected {delivery : Delivery} (same : delivery.id = id)
      (undescribed : Undescribed delivery) : Story setup id [.rejected delivery]
  | run {delivery : Delivery} {fields : Fields} {build : Build} {files : List String}
      {deeds : List Deed} (same : delivery.id = id) (body : delivery.body = .fields fields)
      (decoded : Build.decode id fields = .ok build) (bench : Bench σ τ)
      (listed : (setup.suiteFiles bench).1 = .ok files)
      (done : FilesDone setup build files deeds) :
      Story setup id (.begun delivery :: .listed files :: deeds)

/-- Among the deeds of a coordinator is all that is to be done for an entry. -/
def Completed (setup : Setup σ τ) (id : Id) (deeds : List Deed) : Prop :=
  ∃ first story last, deeds = first ++ story ++ last ∧ Story setup id story

theorem Completed.more {setup : Setup σ τ} {id : Id} {deeds : List Deed}
    (completed : Completed setup id deeds) (later : List Deed) :
    Completed setup id (deeds ++ later) := by
  obtain ⟨first, story, last, rfl, told⟩ := completed
  exact ⟨first, story, last ++ later, List.append_assoc _ _ _, told⟩

/-! ### What steps do -/

theorem decode_id {id : Id} {fields : Fields} {build : Build}
    (decoded : Build.decode id fields = .ok build) : build.id = id := by
  unfold Build.decode at decoded
  simp only [bind, Except.bind, pure, Except.pure] at decoded
  repeat' split at decoded
  all_goals cases decoded
  rfl

section Steps

variable (setup : Setup σ τ) (state : State σ τ)

theorem meet_cases (delivery : Delivery) :
    (state.finished.contains delivery.id = true ∧
      (Setup.meet delivery state).1 = (none, .repeating delivery.id)) ∨
    (Undescribed delivery ∧ ∃ reason, (Setup.meet delivery state).1 =
      (some (.rejected delivery), .closing delivery.id (.skipped delivery.id reason))) ∨
    ∃ fields build, delivery.body = .fields fields ∧
      Build.decode delivery.id fields = .ok build ∧
      (Setup.meet delivery state).1 = (some (.begun delivery), .described build) := by
  unfold Setup.meet
  rw [Work.bind_apply, Work.get_apply]
  dsimp only
  split
  · rename_i known
    exact Or.inl ⟨known, rfl⟩
  · refine Or.inr ?_
    cases body : delivery.body with
    | unreadable reason => exact Or.inl ⟨Or.inl ⟨reason, body⟩, reason, rfl⟩
    | fields fields =>
        cases decoded : Build.decode delivery.id fields with
        | error error =>
            refine Or.inl ⟨Or.inr ⟨fields, error, body, decoded⟩, error.message, ?_⟩
            simp only [decoded]
            rfl
        | ok build =>
            refine Or.inr ⟨fields, build, rfl, decoded, ?_⟩
            simp only [decoded]
            rfl

theorem survey_cases (build : Build) :
    (∃ error, (setup.survey build state).1 =
      (none, .ended (.error (.suites setup.settings.suitesDirectory error)))) ∨
    ∃ files, (setup.suiteFiles state.bench).1 = .ok files ∧
      (setup.survey build state).1 = (some (.listed files), .amidFiles build files []) := by
  unfold Setup.survey
  rw [Work.bind_apply, Work.act_apply]
  cases (setup.suiteFiles state.bench).1 with
  | error error => exact Or.inl ⟨error, rfl⟩
  | ok files => exact Or.inr ⟨files, rfl, rfl⟩

theorem turnTo_cases (build : Build) (path : String) (rest : List String)
    (outcomes : List Outcome) :
    (∃ error, (setup.loadSuite path state.bench).1 = .error error ∧
      (setup.turnTo build path rest outcomes state).1 =
        (some (.loaded path (.error error)), .amidFiles build rest outcomes)) ∨
    ∃ suite, (setup.loadSuite path state.bench).1 = .ok suite ∧
      (setup.turnTo build path rest outcomes state).1 =
        (some (.loaded path (.ok suite)),
          .amidSlots build suite (slots setup.catalog suite) rest outcomes) := by
  unfold Setup.turnTo
  rw [Work.bind_apply, Work.act_apply]
  cases (setup.loadSuite path state.bench).1 with
  | error error => exact Or.inl ⟨error, rfl, rfl⟩
  | ok suite => exact Or.inr ⟨suite, rfl, rfl⟩

end Steps

/-! ### Faithful workers -/

theorem Window.mem_insert {window : Window} {id known : Id}
    (member : known ∈ (window.insert id).ids) : known = id ∨ known ∈ window.ids := by
  unfold Window.insert at member
  split at member
  · exact Or.inr member
  · exact List.mem_cons.mp (List.mem_of_mem_take member)

/-- Which deeds are still to be done from a stage on, so that the entry at hand is completed. -/
def Stage.Completes (setup : Setup σ τ) : Stage → Id → List Deed → Prop
  | .described build, id, rest =>
      build.id = id ∧ ∃ bench files deeds, (setup.suiteFiles bench).1 = .ok files ∧
        FilesDone setup build files deeds ∧ rest = .listed files :: deeds
  | .amidFiles build files _, id, rest => build.id = id ∧ FilesDone setup build files rest
  | .amidSlots build suite slots files _, id, rest =>
      build.id = id ∧ ∃ runs deeds, SlotsDone setup build suite slots runs ∧
        FilesDone setup build files deeds ∧ rest = runs ++ deeds
  | .closing done _, id, rest | .repeating done, id, rest => done = id ∧ rest = []
  | _, _, _ => False

/-- What a worker remembers was completed, and what it is at will be once the rest is done. -/
structure Faithful (setup : Setup σ τ) (worker : Worker σ τ) (deeds : List Deed) : Prop where
  finished : ∀ id ∈ worker.state.finished.ids, Completed setup id deeds
  stage : ∀ id rest, worker.stage.Completes setup id rest → Completed setup id (deeds ++ rest)

namespace Faithful

variable {setup : Setup σ τ} {worker after : Worker σ τ} {deeds : List Deed}

theorem start (host : σ) (sink : τ) (files : Files.Tree) (cursor : Cursor) (deeds : List Deed) :
    Faithful setup ⟨.resting, setup.start host sink files cursor⟩ deeds where
  finished := by intro id member; cases member
  stage := by intro id rest completes; cases completes

theorem closing {id : Id} (faithful : Faithful setup worker deeds)
    (closes : worker.stage.Completes setup id []) : Completed setup id deeds := by
  have completed := faithful.stage id [] closes
  rwa [List.append_nil] at completed

/-- What is still to be done after a step was to be done before it, after the deed of the step. -/
theorem step_completes (faithful : Faithful setup worker deeds) {id : Id} {rest : List Deed}
    (completes : (setup.step worker.stage worker.state).1.2.Completes setup id rest) :
    Completed setup id
      (deeds ++ (setup.step worker.stage worker.state).1.1.toList ++ rest) := by
  obtain ⟨stage, state⟩ := worker
  rw [List.append_assoc]
  -- The deed of the step is put in front of what the next stage still asks for.
  cases stage with
  | resting => cases completes
  | claimed delivery => cases delivery <;> cases completes
  | answered answer =>
      cases answer with
      | error error => cases completes
      | ok delivery => cases delivery <;> cases completes
  | received delivery =>
      have met : setup.step (.received delivery) state = Setup.meet delivery state := rfl
      rw [met] at completes ⊢
      rcases meet_cases state delivery with ⟨known, same⟩ | ⟨undescribed, reason, same⟩ |
        ⟨fields, build, body, decoded, same⟩
      · rw [same] at completes ⊢
        obtain ⟨rfl, rfl⟩ := completes
        exact (faithful.finished _ (List.contains_iff_mem.mp known)).more _
      · rw [same] at completes ⊢
        obtain ⟨rfl, rfl⟩ := completes
        exact ⟨deeds, _, [], (List.append_nil _).symm, .rejected rfl undescribed⟩
      · rw [same] at completes ⊢
        obtain ⟨rfl, bench, files, done, listed, filesDone, rfl⟩ := completes
        have sameId := decode_id decoded
        refine ⟨deeds, _, [], (List.append_nil _).symm, .run sameId.symm body ?_ bench listed filesDone⟩
        rw [sameId]
        exact decoded
  | described build =>
      have surveyed : setup.step (.described build) state = setup.survey build state := rfl
      rw [surveyed] at completes ⊢
      rcases survey_cases setup state build with ⟨error, same⟩ | ⟨files, listed, same⟩
      · rw [same] at completes
        cases completes
      · rw [same] at completes ⊢
        exact faithful.stage id _ ⟨completes.1, state.bench, files, rest, listed, completes.2, rfl⟩
  | amidFiles build files outcomes =>
      cases files with
      | nil =>
          obtain ⟨rfl, rfl⟩ := completes
          exact faithful.stage _ _ ⟨rfl, .nil⟩
      | cons path others =>
          have turned : setup.step (.amidFiles build (path :: others) outcomes) state =
            setup.turnTo build path others outcomes state := rfl
          rw [turned] at completes ⊢
          rcases turnTo_cases setup state build path others outcomes with
            ⟨error, failed, same⟩ | ⟨suite, loaded, same⟩
          · rw [same] at completes ⊢
            exact faithful.stage id _ ⟨completes.1, .passedOver state.bench failed completes.2⟩
          · rw [same] at completes ⊢
            obtain ⟨sameId, runs, done, ran, later, rfl⟩ := completes
            have whole : FilesDone setup build (path :: others)
                (.loaded path (.ok suite) :: (runs ++ done)) :=
              .suite state.bench loaded ran later
            exact faithful.stage id _ ⟨sameId, whole⟩
  | amidSlots build suite slots files outcomes =>
      cases slots with
      | nil =>
          exact faithful.stage id _ ⟨completes.1, [], rest, .nil, completes.2, rfl⟩
      | cons slot others =>
          obtain ⟨sameId, runs, done, ran, later, rfl⟩ := completes
          exact faithful.stage id _ ⟨sameId, _, done, .cons state.bench ran, later, rfl⟩
  | closing id iteration => cases completes
  | repeating id => cases completes
  | ended result => cases completes

theorem step (faithful : Faithful setup worker deeds) :
    Faithful setup (setup.next worker)
      (deeds ++ (setup.step worker.stage worker.state).1.1.toList) where
  finished := by
    intro id member
    change id ∈ (setup.step worker.stage worker.state).2.finished.ids at member
    rw [Setup.step_finished] at member
    have known (member : id ∈ worker.state.finished.ids) := (faithful.finished id member).more
      (setup.step worker.stage worker.state).1.1.toList
    cases stage : worker.stage with
    | closing done iteration =>
        rw [stage] at member
        rcases Window.mem_insert member with rfl | earlier
        · exact (faithful.closing (by rw [stage]; exact ⟨rfl, rfl⟩)).more _
        · rw [← stage]
          exact known earlier
    | _ =>
        rw [stage] at member
        rw [← stage]
        exact known member
  stage := fun _ _ completes => faithful.step_completes completes

theorem move {deed : Option Deed} (faithful : Faithful setup worker deeds)
    (move : setup.Move worker deed after) : Faithful setup after (deeds ++ deed.toList) := by
  have idle {stage : Stage} {state : State σ τ} (finished : state.finished = worker.state.finished)
      (nothing : ∀ id rest, ¬ stage.Completes setup id rest) :
      Faithful setup ⟨stage, state⟩ (deeds ++ []) := by
    rw [List.append_nil]
    constructor
    · rw [finished]; exact faithful.finished
    · intro id rest completes
      exact (nothing id rest completes).elim
  cases move with
  | step => exact faithful.step
  | meddle host sink files =>
      rw [Option.toList_none, List.append_nil]
      exact ⟨faithful.finished, faithful.stage⟩
  | cancel early => exact idle rfl fun _ _ => id
  | rest ended => exact idle rfl fun _ _ => id
  | notice notice =>
      rw [Option.toList_none, List.append_nil]
      exact ⟨faithful.finished, faithful.stage⟩
  | accept delivery resting => exact idle rfl fun _ _ => id

end Faithful

end BuildBench.Coordinator
