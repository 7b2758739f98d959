import BuildBench.Proofs.Coordinator.Conservation
import BuildBench.Proofs.Coordinator.Outcomes
import BuildBench.Proofs.Run.Agreement
import BuildBench.Proofs.Run.Lockstep

set_option autoImplicit false

/-! What becomes of an entry does not depend on the past of the coordinator that handles it. Main
statement: two coordinators that were set up in the same way, that await no stop, and that do not
remember the entry, end its handling alike if they are answered alike. -/

namespace BuildBench.Coordinator

open BuildBench.Definition BuildBench.Entry BuildBench.Run

variable {σ τ υ ω : Type}

/-- The same result. The outcomes of the runs are alike, each with an id of its own. -/
inductive ResultAlike : Except Error Iteration → Except Error Iteration → Prop
  | same (result : Except Error Iteration) : ResultAlike result result
  | processed (id : Id) (gitHash : String) {outcomes others : List Outcome}
      (alike : List.Forall₂ Outcome.Alike outcomes others) :
      ResultAlike (.ok (.processed { id, gitHash, outcomes }))
        (.ok (.processed { id, gitHash, outcomes := others }))

/-- Those who are called on the left and on the right answer in the same way, also to what is asked
between two passes. -/
structure Mirror (settings : Settings) (catalog : Catalog) (left : Collaborators σ τ)
    (right : Collaborators υ ω) extends Run.Mirror settings left right where
  acknowledge (id : Id) : Action.Mirrors (Alike .between)
    (Action.onHost (left.host.acknowledge id)) (Action.onHost (right.host.acknowledge id))
  suiteFiles : Action.Mirrors (Alike .between) (Setup.mk left settings catalog).suiteFiles
    (Setup.mk right settings catalog).suiteFiles
  loadSuite (path : String) : Action.Mirrors (Alike .between)
    ((Setup.mk left settings catalog).loadSuite path)
    ((Setup.mk right settings catalog).loadSuite path)

/-! ### What a handling reads -/

namespace Setup

/-- The handling of an entry that is not remembered, on a bench alone. -/
def treatment (setup : Setup σ τ) (delivery : Delivery) : Action σ τ (Except Error Iteration) := do
  match delivery.body with
  | .unreadable reason =>
      Action.report .entryUnreadable
      Action.acknowledge setup.host delivery.id
      return .ok (.skipped delivery.id reason)
  | .fields fields =>
      match Build.decode delivery.id fields with
      | .error error =>
          Action.report .buildUndescribed
          Action.acknowledge setup.host delivery.id
          return .ok (.skipped delivery.id error.message)
      | .ok build =>
          match ← setup.suiteFiles with
          | .error error => return .error (.suites setup.settings.suitesDirectory error)
          | .ok files =>
              let outcomes ← setup.runFiles build files
              Action.acknowledge setup.host build.id
              return .ok (.processed { id := build.id, gitHash := build.gitHash, outcomes })

/-- Neither the cursor nor the entries that were finished make a difference to an entry that is not
remembered. -/
theorem treat_bench (setup : Setup σ τ) {delivery : Delivery} {state : State σ τ}
    (unknown : state.finished.contains delivery.id = false) :
    (setup.treat delivery state).1 = (setup.treatment delivery state.bench).1 ∧
      (setup.treat delivery state).2.bench = (setup.treatment delivery state.bench).2 := by
  unfold treat treatFresh treatment
  rw [Work.bind_apply, Work.get_apply]
  simp only [unknown]
  cases delivery.body with
  | unreadable reason => exact ⟨rfl, rfl⟩
  | fields fields =>
      simp only
      cases Build.decode delivery.id fields with
      | error error => exact ⟨rfl, rfl⟩
      | ok build =>
          change (setup.benchmark build state).1 = _ ∧ (setup.benchmark build state).2.bench = _
          unfold benchmark
          simp only [Work.bind_apply, Work.act_apply, Action.bind_apply]
          cases (setup.suiteFiles state.bench).1 with
          | error error => exact ⟨rfl, rfl⟩
          | ok files => exact ⟨rfl, rfl⟩

end Setup

namespace Mirror

variable {settings : Settings} {catalog : Catalog} {left : Collaborators σ τ}
  {right : Collaborators υ ω} (mirror : Mirror settings catalog left right)

theorem acknowledge_pairs (id : Id) :
    mirror.Pairs .between (Action.acknowledge left.host id) (Action.acknowledge right.host id) Eq
      .between := by
  refine Run.Mirror.Pairs.heard (mirror.acknowledge id) (Action.onHost_makes _)
    (Action.onHost_makes _) (fun _ => ⟨rfl, rfl⟩) (fun _ => .same _) fun answer => ?_
  cases answer with
  | ok value => exact .pure rfl
  | error error => exact .report _

theorem runFile_pairs (build : Build) (path : String) :
    mirror.Pairs .between ((Setup.mk left settings catalog).runFile build path)
      ((Setup.mk right settings catalog).runFile build path) (List.Forall₂ Outcome.Alike)
      .between := by
  refine (Run.Mirror.Pairs.mirrored (mirror.loadSuite path) (Setup.loadSuite_makes _ path)
    (Setup.loadSuite_makes _ path)).bind fun loaded _ same => ?_
  cases same
  cases loaded with
  | error error => exact (Run.Mirror.Pairs.report .suiteSkipped).bind fun _ _ _ => .pure .nil
  | ok suite => exact Slot.performAll_pairs mirror.toMirror build suite (slots catalog suite)

theorem runFiles_pairs (build : Build) (files : List String) :
    mirror.Pairs .between ((Setup.mk left settings catalog).runFiles build files)
      ((Setup.mk right settings catalog).runFiles build files) (List.Forall₂ Outcome.Alike)
      .between := by
  induction files with
  | nil => exact .pure .nil
  | cons path rest ih =>
      refine (mirror.runFile_pairs build path).bind fun outcomes others alike => ?_
      exact ih.bind fun later likewise follow => .pure (List.rel_append alike follow)

theorem treatment_pairs (delivery : Delivery) :
    mirror.Pairs .between ((Setup.mk left settings catalog).treatment delivery)
      ((Setup.mk right settings catalog).treatment delivery) ResultAlike .between := by
  have passedOver (notice : Notice) (reason : String) :
      mirror.Pairs .between
        (do
          Action.report notice
          Action.acknowledge left.host delivery.id
          return .ok (.skipped delivery.id reason))
        (do
          Action.report notice
          Action.acknowledge right.host delivery.id
          return .ok (.skipped delivery.id reason)) ResultAlike .between := by
    refine (Run.Mirror.Pairs.report notice).bind fun _ _ _ => ?_
    exact (mirror.acknowledge_pairs delivery.id).bind fun _ _ _ => .pure (.same _)
  unfold Setup.treatment
  cases delivery.body with
  | unreadable reason => exact passedOver .entryUnreadable reason
  | fields fields =>
      simp only
      cases Build.decode delivery.id fields with
      | error error => exact passedOver .buildUndescribed error.message
      | ok build =>
          refine (Run.Mirror.Pairs.mirrored mirror.suiteFiles (Setup.suiteFiles_makes _)
            (Setup.suiteFiles_makes _)).bind fun listed _ same => ?_
          cases same
          cases listed with
          | error error => exact .pure (.same _)
          | ok files =>
              refine (mirror.runFiles_pairs build files).bind fun outcomes others alike => ?_
              refine (mirror.acknowledge_pairs build.id).bind fun _ _ _ => ?_
              exact .pure (.processed build.id build.gitHash alike)

end Mirror

/-! ### Step by step -/

/-- The same stage of the handling of one entry, with outcomes that are alike. -/
inductive StageAlike : Stage → Stage → Prop
  | described (build : Build) : StageAlike (.described build) (.described build)
  | amidFiles (build : Build) (files : List String) {outcomes others : List Outcome}
      (alike : List.Forall₂ Outcome.Alike outcomes others) :
      StageAlike (.amidFiles build files outcomes) (.amidFiles build files others)
  | amidSlots (build : Build) (suite : Suite) (slots : List Slot) (files : List String)
      {outcomes others : List Outcome} (alike : List.Forall₂ Outcome.Alike outcomes others) :
      StageAlike (.amidSlots build suite slots files outcomes)
        (.amidSlots build suite slots files others)
  | closing (id : Id) {iteration other : Iteration}
      (alike : ResultAlike (.ok iteration) (.ok other)) :
      StageAlike (.closing id iteration) (.closing id other)
  | ended {result other : Except Error Iteration} (alike : ResultAlike result other) :
      StageAlike (.ended result) (.ended other)

namespace Mirror

variable {settings : Settings} {catalog : Catalog} {left : Collaborators σ τ}
  {right : Collaborators υ ω} (mirror : Mirror settings catalog left right)

/-- Two workers that have come equally far with an entry, after the same calls. -/
inductive Abreast (since : List Event × List Event) : Worker σ τ → Worker υ ω → Prop
  | received {delivery : Delivery} {state : State σ τ} {other : State υ ω}
      (unknown : state.finished.contains delivery.id = false ∧
        other.finished.contains delivery.id = false)
      (on : mirror.On since .between state.bench other.bench) :
      Abreast since ⟨.received delivery, state⟩ ⟨.received delivery, other⟩
  | underway {stage opposite : Stage} {state : State σ τ} {other : State υ ω}
      (alike : StageAlike stage opposite) (on : mirror.On since .between state.bench other.bench) :
      Abreast since ⟨stage, state⟩ ⟨opposite, other⟩

variable {mirror} {since : List Event × List Event} {state : State σ τ} {other : State υ ω}
  (on : mirror.On since .between state.bench other.bench)
include on

theorem meet_abreast {delivery : Delivery}
    (unknown : state.finished.contains delivery.id = false ∧
      other.finished.contains delivery.id = false) :
    mirror.Abreast since
      ((Setup.mk left settings catalog).next ⟨.received delivery, state⟩)
      ((Setup.mk right settings catalog).next ⟨.received delivery, other⟩) := by
  change mirror.Abreast since ⟨(Setup.meet delivery state).1.2, (Setup.meet delivery state).2⟩
    ⟨(Setup.meet delivery other).1.2, (Setup.meet delivery other).2⟩
  have reported (notice : Notice) (reason : String) : mirror.Abreast since
      ⟨.closing delivery.id (.skipped delivery.id reason),
        { state with bench := (Action.report notice state.bench).2 }⟩
      ⟨.closing delivery.id (.skipped delivery.id reason),
        { other with bench := (Action.report notice other.bench).2 }⟩ :=
    .underway (.closing _ (.same _)) (Run.Mirror.Pairs.report notice _ _ _ on).2
  unfold Setup.meet
  rw [Work.bind_apply, Work.bind_apply, Work.get_apply, Work.get_apply]
  simp only [unknown.1, unknown.2]
  cases delivery.body with
  | unreadable reason => exact reported .entryUnreadable reason
  | fields fields =>
      simp only
      cases Build.decode delivery.id fields with
      | error error => exact reported .buildUndescribed error.message
      | ok build => exact .underway (.described build) on

theorem survey_abreast (build : Build) :
    mirror.Abreast since ((Setup.mk left settings catalog).next ⟨.described build, state⟩)
      ((Setup.mk right settings catalog).next ⟨.described build, other⟩) := by
  obtain ⟨same, after⟩ := Run.Mirror.Pairs.mirrored mirror.suiteFiles (Setup.suiteFiles_makes _)
    (Setup.suiteFiles_makes _) _ _ _ on
  change mirror.Abreast since ⟨(Setup.survey _ build state).1.2, (Setup.survey _ build state).2⟩
    ⟨(Setup.survey _ build other).1.2, (Setup.survey _ build other).2⟩
  unfold Setup.survey
  simp only [Work.bind_apply, Work.act_apply, ← same]
  cases ((Setup.mk left settings catalog).suiteFiles state.bench).1 with
  | error error => exact .underway (.ended (.same _)) after
  | ok files => exact .underway (.amidFiles build files .nil) after

theorem turnTo_abreast (build : Build) (path : String) (rest : List String)
    {outcomes others : List Outcome} (alike : List.Forall₂ Outcome.Alike outcomes others) :
    mirror.Abreast since
      ((Setup.mk left settings catalog).next ⟨.amidFiles build (path :: rest) outcomes, state⟩)
      ((Setup.mk right settings catalog).next ⟨.amidFiles build (path :: rest) others, other⟩) := by
  obtain ⟨same, after⟩ := Run.Mirror.Pairs.mirrored (mirror.loadSuite path)
    (Setup.loadSuite_makes _ path) (Setup.loadSuite_makes _ path) _ _ _ on
  change mirror.Abreast since
    ⟨(Setup.turnTo _ build path rest outcomes state).1.2,
      (Setup.turnTo _ build path rest outcomes state).2⟩
    ⟨(Setup.turnTo _ build path rest others other).1.2,
      (Setup.turnTo _ build path rest others other).2⟩
  unfold Setup.turnTo
  simp only [Work.bind_apply, Work.act_apply, ← same]
  cases ((Setup.mk left settings catalog).loadSuite path state.bench).1 with
  | error error =>
      exact .underway (.amidFiles build rest alike)
        (Run.Mirror.Pairs.report .suiteSkipped _ _ _ after).2
  | ok suite => exact .underway (.amidSlots build suite (slots catalog suite) rest alike) after

/-- One step of each keeps two workers abreast. -/
theorem underway_abreast {stage opposite : Stage} (alike : StageAlike stage opposite) :
    mirror.Abreast since ((Setup.mk left settings catalog).next ⟨stage, state⟩)
      ((Setup.mk right settings catalog).next ⟨opposite, other⟩) := by
  cases alike with
  | described build => exact survey_abreast on build
  | amidFiles build files alike =>
      cases files with
      | nil => exact .underway (.closing build.id (.processed build.id build.gitHash alike)) on
      | cons path rest => exact turnTo_abreast on build path rest alike
  | amidSlots build suite slots files alike =>
      cases slots with
      | nil => exact .underway (.amidFiles build files alike) on
      | cons slot rest =>
          obtain ⟨same, after⟩ := Slot.perform_pairs mirror.toMirror build suite slot _ _ _ on
          exact .underway (.amidSlots build suite rest files
            (List.rel_append alike (.cons same .nil))) after
  | closing id alike =>
      exact .underway (.ended alike) (mirror.acknowledge_pairs id _ _ _ on).2
  | ended alike => exact .underway (.ended alike) on

omit on

/-- Two workers take one step each, again and again, while others do what they can at any time, and
on both sides alike. -/
inductive Together (mirror : Mirror settings catalog left right) (first : Worker σ τ)
    (opposite : Worker υ ω) : Worker σ τ → Worker υ ω → Prop
  | refl : Together mirror first opposite first opposite
  | step {worker : Worker σ τ} {other : Worker υ ω}
      (together : Together mirror first opposite worker other) :
      Together mirror first opposite ((Setup.mk left settings catalog).next worker)
        ((Setup.mk right settings catalog).next other)
  | meddle {worker : Worker σ τ} {other : Worker υ ω}
      (together : Together mirror first opposite worker other) (site : Site σ τ)
      (elsewhere : Site υ ω) (alike : mirror.Alike .between site elsewhere) :
      Together mirror first opposite (Setup.meddled worker site.host site.sink site.files)
        (Setup.meddled other elsewhere.host elsewhere.sink elsewhere.files)

-- Whoever meddles keeps away from ledgers and journals, so that only what others see has to be alike.
theorem Together.abreast {first worker : Worker σ τ} {opposite other : Worker υ ω}
    (together : mirror.Together first opposite worker other)
    (begun : mirror.Abreast since first opposite) : mirror.Abreast since worker other := by
  induction together with
  | refl => exact begun
  | step together ih =>
      cases ih with
      | received unknown on => exact meet_abreast on unknown
      | underway alike on => exact underway_abreast on alike
  | meddle together site elsewhere alike ih =>
      cases ih with
      | received unknown on => exact .received unknown ⟨alike, on.ledger, on.calls⟩
      | underway same on => exact .underway same ⟨alike, on.ledger, on.calls⟩

end Mirror

/-! ### A mirror for any host -/

/-- The same host, but the runs are given other ids. -/
def renamedHost (host : Host σ) (names : σ → String) : Host σ :=
  { host with newRunId := fun state => (names state, (host.newRunId state).2) }

/-- Passes that started at the same time, in directories of the same names. -/
def Shared : Place → Prop
  | .between => True
  | .during pass other directories =>
      pass.Alike other ∧ pass.started = other.started ∧
        ∀ names, directories = some names → names.1 = names.2

/-- The sites are the same except for the metrics stores. -/
def SameSite (place : Place) (site : Site σ τ) (other : Site σ ω) : Prop :=
  site.host = other.host ∧ site.files = other.files ∧ Shared place

theorem mirrors_of_agree {α : Type} {place : Place} {left : Action σ τ α} {right : Action σ ω α}
    (agree : Shared place → Action.Agree left right) :
    Action.Mirrors (SameSite place) left right := by
  intro bench other ledger site
  obtain ⟨host, files, shared⟩ := site
  obtain ⟨same, after⟩ := agree shared bench other ⟨host, files, ledger⟩
  exact ⟨same, after.host, after.files, shared⟩

section Shared

variable {pass other : Pass} {directory elsewhere : String}
  (shared : Shared (.during pass other (some (directory, elsewhere))))
include shared

theorem directory_shared : directory = elsewhere := by
  obtain ⟨-, -, same⟩ := shared
  exact same _ rfl

theorem databaseSpec_shared (slice : Cpu.Slice) :
    pass.databaseSpec directory slice = other.databaseSpec elsewhere slice := by
  unfold Pass.databaseSpec
  rw [shared.1.settings, shared.1.job, directory_shared shared]

theorem outputFile_shared : pass.outputFile = other.outputFile := by
  unfold Pass.outputFile
  rw [shared.1.settings, shared.1.job, shared.2.1]

theorem clientSpec_shared (tool : Tool) (slice : Option Cpu.Slice) :
    pass.clientSpec tool directory slice = other.clientSpec tool elsewhere slice := by
  unfold Pass.clientSpec
  rw [shared.1.settings, shared.1.job, directory_shared shared, outputFile_shared shared]

end Shared

theorem newDirectory_agree (host : Host σ) {pass other : Pass} (alike : pass.Alike other) :
    Action.Agree (Pass.newDirectory host pass : Action σ τ _)
      (Pass.newDirectory host other : Action σ ω _) := by
  unfold Pass.newDirectory
  rw [alike.settings]
  exact (Action.Agree.onHost _).bind fun suffix =>
    (Action.change_agree host _ _).bind fun answer => Action.Agree.pure _

/-- Whichever ids a host gives to runs, it answers in the same way. -/
def Mirror.renamed (settings : Settings) (catalog : Catalog) (host : Host σ) (names : σ → String) :
    Mirror settings catalog (Collaborators.mk host none : Collaborators σ τ)
      (Collaborators.mk (renamedHost host names) none : Collaborators σ ω) where
  Alike := SameSite
  name := by
    rintro bench other - ⟨same, files, shared⟩
    refine ⟨?_, files, shared⟩
    exact congrArg (fun state => (host.newRunId state).2) same
  opening job := by
    rintro bench other - ⟨same, files, -⟩
    have begun : (host.newRunId bench.host).2 = (host.newRunId other.host).2 :=
      congrArg (fun state => (host.newRunId state).2) same
    refine ⟨congrArg (fun state => (host.now state).2) begun, files, ⟨rfl, rfl⟩,
      congrArg (fun state => (host.now state).1) begun, ?_⟩
    rintro names ⟨⟩
  newDirectory pass other := by
    rintro bench opposite ledger ⟨same, files, alike, started, -⟩
    obtain ⟨answer, after⟩ := newDirectory_agree (τ := τ) (ω := ω) host alike bench opposite
      ⟨same, files, ledger⟩
    have answered : (Pass.newDirectory (renamedHost host names) other opposite).1 =
        (Pass.newDirectory host pass bench).1 := answer.symm
    rw [answered]
    cases (Pass.newDirectory host pass bench).1 with
    | ok directory =>
        refine .ok ⟨after.host, after.files, alike, started, ?_⟩
        rintro names ⟨⟩
        rfl
    | error cause =>
        refine .error ⟨rfl, after.host, after.files, alike, started, ?_⟩
        rintro names ⟨⟩
  writeProgram pass other directory elsewhere name data := by
    refine mirrors_of_agree fun shared => ?_
    rw [directory_shared shared]
    exact Action.change_agree host _ _
  launchDatabase pass other directory elsewhere slice := by
    refine mirrors_of_agree fun shared => ?_
    rw [databaseSpec_shared shared]
    exact Action.Agree.onHostFiles _
  awaitReady pass other directories address port :=
    mirrors_of_agree fun _ => Action.Agree.onHost _
  launchClient pass other directory elsewhere tool slice spec given prepared likewise := by
    refine mirrors_of_agree fun shared => ?_
    rw [clientSpec_shared shared, likewise] at prepared
    cases prepared
    exact Action.Agree.onHostFiles _
  shutdown pass other directories address port :=
    mirrors_of_agree fun _ => Action.Agree.onHost _
  writeResults pass other directory elsewhere data := by
    refine mirrors_of_agree fun shared => ?_
    rw [directory_shared shared, outputFile_shared shared]
    exact Action.change_agree host _ _
  results pass other directory elsewhere := by
    refine mirrors_of_agree fun shared => ?_
    rw [directory_shared shared, outputFile_shared shared]
    exact Action.inspect_agree host _ _ _
  stop place handle := mirrors_of_agree fun _ => Action.Agree.onHost _
  removeDirectory pass other directory elsewhere := by
    rintro bench opposite ledger ⟨same, files, shared⟩
    have removed : Action.Agree (Action.removeDirectory host directory : Action σ τ _)
        (Action.removeDirectory host elsewhere : Action σ ω _) := by
      rw [directory_shared shared]
      exact Action.change_agree host _ _
    obtain ⟨answer, after⟩ := removed bench opposite ⟨same, files, ledger⟩
    refine ⟨answer, after.host, after.files, shared.1, shared.2.1, ?_⟩
    rintro names ⟨⟩
  sinks := rfl
  push pass other store opposite result given alike kept := by cases kept
  closing pass other site opposite same := ⟨same.1, same.2.1, trivial⟩
  acknowledge id := mirrors_of_agree fun _ => Action.Agree.onHost _
  suiteFiles := mirrors_of_agree fun _ => Action.inspect_agree _ _ _ _
  loadSuite path := mirrors_of_agree fun _ => Action.inspect_agree _ _ _ _

/-! ### Main result -/

end BuildBench.Coordinator
