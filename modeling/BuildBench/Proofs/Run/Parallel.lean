import BuildBench.Proofs.Run.Mirror

set_option autoImplicit false

/-! Rules for two benches side by side, in the form of the combinators, and the actions of a bench that
ask the same on both sides. -/

namespace BuildBench.Run

open BuildBench.Definition BuildBench.Entry BuildBench.Files

variable {σ τ υ ω ε α β γ δ : Type} {settings : Settings} {left : Collaborators σ τ}
  {right : Collaborators υ ω}

theorem AnswersAlike.of_eq {errors : ε → ε → Prop} (same : ∀ error, errors error error)
    (answer : Except ε α) : AnswersAlike errors Eq answer answer := by
  cases answer with
  | ok value => exact .ok rfl
  | error error => exact .error (same error)

namespace Mirror

variable (mirror : Mirror settings left right)

/-- Two benches at the same place. Those who are called are alike, the ledgers are equal, and since
a certain time the same calls were made on both. -/
structure On (since : List Event × List Event) (place : Place) (bench : Bench σ τ)
    (other : Bench υ ω) : Prop where
  site : mirror.Alike place bench.site other.site
  ledger : bench.ledger = other.ledger
  calls : ∃ made given, bench.calls = since.1 ++ made ∧ other.calls = since.2 ++ given ∧
    List.Forall₂ Event.Alike made given

/-- From benches at one place, two actions lead to answers that are related and to benches at one
place. -/
def Pairs (place : Place) (first : Action σ τ α) (second : Action υ ω β) (related : α → β → Prop)
    (next : Place) : Prop :=
  ∀ since bench other, mirror.On since place bench other →
    related (first bench).1 (second other).1 ∧ mirror.On since next (first bench).2 (second other).2

variable {mirror} {place next last : Place}

theorem On.after {since : List Event × List Event} {bench : Bench σ τ} {other : Bench υ ω}
    {first : Action σ τ α} {second : Action υ ω β} {made given : List Event}
    (on : mirror.On since place bench other) (makes : first.Makes bench made)
    (likewise : second.Makes other given) (alike : List.Forall₂ Event.Alike made given)
    (site : mirror.Alike next (first bench).2.site (second other).2.site) :
    mirror.On since next (first bench).2 (second other).2 := by
  obtain ⟨before, earlier, calls, others, paired⟩ := on.calls
  refine ⟨site, ?_, before ++ made, earlier ++ given, ?_, ?_, List.rel_append paired alike⟩
  · rw [makes.ledger, likewise.ledger, on.ledger]
  · rw [makes.calls, calls, List.append_assoc]
  · rw [likewise.calls, others, List.append_assoc]

/-! ### Actions -/

namespace Pairs

variable {first : Action σ τ α} {second : Action υ ω β} {related : α → β → Prop}

theorem pure {value : α} {given : β} (holds : related value given) :
    mirror.Pairs place (Pure.pure value : Action σ τ α) (Pure.pure given : Action υ ω β) related
      place :=
  fun _ _ _ on => ⟨holds, on⟩

theorem bind {rest : α → Action σ τ γ} {later : β → Action υ ω δ} {ends : γ → δ → Prop}
    (pairs : mirror.Pairs place first second related next)
    (follow : ∀ value given, related value given →
      mirror.Pairs next (rest value) (later given) ends last) :
    mirror.Pairs place (first >>= rest) (second >>= later) ends last := by
  intro since bench other on
  obtain ⟨holds, after⟩ := pairs since bench other on
  exact follow _ _ holds since _ _ after

theorem weaken {weaker : α → β → Prop} (pairs : mirror.Pairs place first second related next)
    (weaken : ∀ value given, related value given → weaker value given) :
    mirror.Pairs place first second weaker next := by
  intro since bench other on
  obtain ⟨holds, after⟩ := pairs since bench other on
  exact ⟨weaken _ _ holds, after⟩

theorem quiet {after : α → β → Site σ τ → Site υ ω → Prop}
    (relates : Action.Relates (mirror.Alike place) first second after)
    (still : ∀ bench, first.Makes bench []) (likewise : ∀ bench, second.Makes bench [])
    (alike : ∀ value given site opposite, after value given site opposite →
      related value given ∧ mirror.Alike next site opposite) :
    mirror.Pairs place first second related next := by
  intro since bench other on
  obtain ⟨holds, site⟩ := alike _ _ _ _ (relates bench other on.ledger on.site)
  exact ⟨holds, on.after (still bench) (likewise other) .nil site⟩

theorem mirrored {first : Action σ τ α} {second : Action υ ω α}
    (mirrors : Action.Mirrors (mirror.Alike place) first second)
    (still : ∀ bench, first.Makes bench []) (likewise : ∀ bench, second.Makes bench []) :
    mirror.Pairs place first second Eq place :=
  quiet mirrors still likewise fun _ _ _ _ holds => holds

/-- Somebody is asked on each side, the answers are the same, and what follows makes no call. -/
theorem heard {asked : Action σ τ α} {likewise : Action υ ω α} {event other : α → Event}
    {rest : α → Action σ τ γ} {later : α → Action υ ω γ}
    (mirrors : Action.Mirrors (mirror.Alike place) asked likewise)
    (still : ∀ bench, asked.Makes bench []) (silent : ∀ bench, likewise.Makes bench [])
    (calls : ∀ answer, (event answer).isCall = true ∧ (other answer).isCall = true)
    (alike : ∀ answer, (event answer).Alike (other answer))
    (follow : ∀ answer, mirror.Pairs place (rest answer) (later answer) Eq place) :
    mirror.Pairs place (do let answer ← asked; Action.enter (event answer); rest answer)
      (do let answer ← likewise; Action.enter (other answer); later answer) Eq place := by
  refine (mirrored mirrors still silent).bind fun answer given same => ?_
  cases same
  have entered : mirror.Pairs place (Action.enter (event answer)) (Action.enter (other answer)) Eq
      place := by
    intro since bench opposite on
    exact ⟨rfl, on.after (Action.enter_makes _ _ (calls answer).1)
      (Action.enter_makes _ _ (calls answer).2) (.cons (alike answer) .nil) on.site⟩
  exact entered.bind fun _ _ _ => follow answer

theorem get_bind {rest : Bench σ τ → Action σ τ γ} {later : Bench υ ω → Action υ ω δ}
    {ends : γ → δ → Prop}
    (follow : ∀ bench other, bench.ledger = other.ledger →
      mirror.Pairs place (rest bench) (later other) ends last) :
    mirror.Pairs place (get >>= rest) (get >>= later) ends last :=
  fun since bench other on => follow bench other on.ledger since bench other on

theorem ledgers (change : Cpu.Ledger → Cpu.Ledger) :
    mirror.Pairs place
      (modify fun bench => { bench with ledger := change bench.ledger } : Action σ τ Unit)
      (modify fun bench => { bench with ledger := change bench.ledger } : Action υ ω Unit) Eq
      place :=
  fun _ _ _ on => ⟨rfl, on.site, congrArg change on.ledger, on.calls⟩

theorem report (notice : Notice) :
    mirror.Pairs place (Action.report notice) (Action.report notice) Eq place :=
  fun _ bench other on => ⟨rfl, on.after (Action.report_makes notice bench)
    (Action.report_makes notice other) .nil on.site⟩

end Pairs

section Actions

variable (pass other : Pass) (directory elsewhere : String)

theorem reserve_pairs (slice : Cpu.Slice) :
    mirror.Pairs place (Action.reserve slice) (Action.reserve slice) Eq place := by
  intro since bench other on
  cases reserved : bench.ledger.reserve slice with
  | error error =>
      have likewise := on.ledger ▸ reserved
      rw [Action.reserve_error reserved, Action.reserve_error likewise]
      exact ⟨rfl, on⟩
  | ok ledger =>
      have likewise := on.ledger ▸ reserved
      rw [Action.reserve_ok reserved, Action.reserve_ok likewise]
      exact ⟨rfl, on.site, rfl, on.calls⟩

theorem stop_pairs (handle : Sandbox.Handle) :
    mirror.Pairs place (Action.stop left.host handle) (Action.stop right.host handle) Eq place :=
  Pairs.heard (mirror.stop place handle) (Action.onHost_makes _) (Action.onHost_makes _)
    (fun _ => ⟨rfl, rfl⟩) (fun _ => .same _) fun _ => .pure rfl

theorem awaitReady_pairs (directories : Option (String × String)) (address : String) (port : Nat) :
    mirror.Pairs (.during pass other directories) (Action.awaitReady left.host address port)
      (Action.awaitReady right.host address port) Eq (.during pass other directories) :=
  Pairs.heard (mirror.awaitReady pass other directories address port) (Action.onHost_makes _)
    (Action.onHost_makes _) (fun _ => ⟨rfl, rfl⟩) (fun _ => .same _) fun _ => .pure rfl

theorem shutdown_pairs (directories : Option (String × String)) (address : String) (port : Nat) :
    mirror.Pairs (.during pass other directories) (Action.shutdown left.host address port)
      (Action.shutdown right.host address port) Eq (.during pass other directories) := by
  refine Pairs.heard (mirror.shutdown pass other directories address port) (Action.onHost_makes _)
    (Action.onHost_makes _) (fun _ => ⟨rfl, rfl⟩) (fun _ => .same _) fun answer => ?_
  cases answer with
  | ok value => exact .pure rfl
  | error error => exact .report _

theorem launchDatabase_pairs (alike : pass.Alike other) (slice : Cpu.Slice) :
    mirror.Pairs (.during pass other (some (directory, elsewhere)))
      (Action.launchDatabase left.host (pass.databaseSpec directory slice))
      (Action.launchDatabase right.host (other.databaseSpec elsewhere slice)) Eq
      (.during pass other (some (directory, elsewhere))) :=
  Pairs.get_bind fun _ _ _ =>
    Pairs.heard (mirror.launchDatabase pass other directory elsewhere slice)
      (Action.onHostFiles_makes _) (Action.onHostFiles_makes _) (fun _ => ⟨rfl, rfl⟩)
      (fun _ => .database alike ..) fun _ => .pure rfl

theorem launchClient_pairs (alike : pass.Alike other) {tool : Tool} {slice : Option Cpu.Slice}
    {spec given : Sandbox.Spec} (prepared : pass.clientSpec tool directory slice = .ok spec)
    (likewise : other.clientSpec tool elsewhere slice = .ok given) :
    mirror.Pairs (.during pass other (some (directory, elsewhere)))
      (Action.launchClient left.host spec) (Action.launchClient right.host given) Eq
      (.during pass other (some (directory, elsewhere))) :=
  Pairs.get_bind fun _ _ _ =>
    Pairs.heard
      (mirror.launchClient pass other directory elsewhere tool slice spec given prepared likewise)
      (Action.onHostFiles_makes _) (Action.onHostFiles_makes _) (fun _ => ⟨rfl, rfl⟩)
      (fun _ => .client alike _ _ _ _ prepared likewise ..) fun _ => .pure rfl

theorem push_pairs (alike : pass.Alike other) {result given : Except Error Report}
    (results : ResultsAlike result given) :
    mirror.Pairs (.during pass other none)
      (Action.push left (pass.summary (pass.outcome result)))
      (Action.push right (other.summary (other.outcome given))) Eq (.during pass other none) := by
  have sinks := mirror.sinks
  unfold Action.push
  cases kept : left.sink with
  | none =>
      cases likewise : right.sink with
      | none => exact .pure rfl
      | some opposite => simp [kept, likewise] at sinks
  | some store =>
      cases likewise : right.sink with
      | none => simp [kept, likewise] at sinks
      | some opposite =>
          refine Pairs.heard
            (mirror.push pass other store opposite result given results kept likewise)
            (Action.onSink_makes _) (Action.onSink_makes _) (fun _ => ⟨rfl, rfl⟩)
            (fun _ => .push alike results _) fun answer => ?_
          cases answer with
          | ok value => exact .pure rfl
          | error error => exact .report _

theorem stopped_pairs (handle : Sandbox.Handle) (slices : List Cpu.Slice) (notice : Notice) :
    mirror.Pairs place
      (do
        match ← Action.stop left.host handle with
        | .ok () => Action.releaseAll slices
        | .error _ =>
            Action.report notice
            Action.defer handle slices)
      (do
        match ← Action.stop right.host handle with
        | .ok () => Action.releaseAll slices
        | .error _ =>
            Action.report notice
            Action.defer handle slices) Eq place := by
  refine (stop_pairs handle).bind fun answer given same => ?_
  cases same
  cases answer with
  | ok value => exact .ledgers (·.releaseAll slices)
  | error error =>
      refine (Pairs.report notice).bind fun _ _ _ => ?_
      exact (Pairs.report .stopUnconfirmed).bind fun _ _ _ => .ledgers (·.defer handle slices)

theorem retryAll_pairs (stops : List Cpu.PendingStop) :
    mirror.Pairs place (Action.retryAll left.host stops) (Action.retryAll right.host stops) Eq
      place := by
  induction stops with
  | nil => exact .pure rfl
  | cons stop rest ih =>
      exact (stopped_pairs stop.handle stop.slices .stopFailedAgain).bind fun _ _ _ => ih

theorem takeStops_pairs :
    mirror.Pairs place (Action.takeStops : Action σ τ _) (Action.takeStops : Action υ ω _) Eq
      place := by
  refine Pairs.get_bind fun bench opposite same => ?_
  rw [← same]
  exact (Pairs.ledgers Cpu.Ledger.withoutDeferred).bind fun _ _ _ => .pure rfl

theorem retryDeferred_pairs :
    mirror.Pairs place (Slot.retryDeferred left.host) (Slot.retryDeferred right.host) Eq place := by
  refine Pairs.get_bind fun bench opposite same => ?_
  rw [← same]
  cases bench.ledger.awaitsStops with
  | false => exact .pure rfl
  | true =>
      refine takeStops_pairs.bind fun stops _ equal => ?_
      cases equal
      exact retryAll_pairs stops

end Actions

/-! ### Steps -/

/-- Two scenes at the same place. Both passes hold the same, each with its own directory. -/
structure Sees (mirror : Mirror settings left right) (since : List Event × List Event)
    (pass other : Pass) (directories : Option (String × String)) (scene : Scene σ τ)
    (opposite : Scene υ ω) : Prop where
  bench : mirror.On since (.during pass other directories) scene.bench opposite.bench
  directory : scene.held.directory = directories.map Prod.fst
  held : opposite.held = { scene.held with directory := directories.map Prod.snd }

/-- From scenes at one place, two steps both end with values that are related or both with errors that
are alike, and the scenes are at one place again. -/
def Steps (mirror : Mirror settings left right) (pass other : Pass)
    (directories : Option (String × String)) (first : Step σ τ α) (second : Step υ ω β)
    (related : α → β → Option (String × String) → Prop) : Prop :=
  ∀ since scene opposite, mirror.Sees since pass other directories scene opposite →
    match first scene, second opposite with
    | (.ok value, last), (.ok given, final) => ∃ after, related value given after ∧
        mirror.Sees since pass other after last final
    | (.error error, last), (.error cause, final) => error.Alike cause ∧
        ∃ after, mirror.Sees since pass other after last final
    | _, _ => False

/-- The values are the same, and the directories are those that were there. -/
def Still (directories : Option (String × String)) (value given : α)
    (after : Option (String × String)) : Prop :=
  value = given ∧ after = directories

namespace Steps

variable {pass other : Pass} {directories : Option (String × String)}
  {related : α → β → Option (String × String) → Prop}

theorem pure {value : α} {given : β} (holds : related value given directories) :
    mirror.Steps pass other directories (Pure.pure value : Step σ τ α)
      (Pure.pure given : Step υ ω β) related :=
  fun _ _ _ sees => ⟨directories, holds, sees⟩

theorem throw {error cause : Error} (alike : error.Alike cause) :
    mirror.Steps pass other directories (MonadExcept.throw error : Step σ τ α)
      (MonadExcept.throw cause : Step υ ω β) related :=
  fun _ _ _ sees => ⟨alike, directories, sees⟩

theorem bind {first : Step σ τ α} {second : Step υ ω β} {rest : α → Step σ τ γ}
    {later : β → Step υ ω δ} {ends : γ → δ → Option (String × String) → Prop}
    (steps : mirror.Steps pass other directories first second related)
    (follow : ∀ value given after, related value given after →
      mirror.Steps pass other after (rest value) (later given) ends) :
    mirror.Steps pass other directories (first >>= rest) (second >>= later) ends := by
  intro since scene opposite sees
  have begun := steps since scene opposite sees
  rw [Step.bind_apply, Step.bind_apply]
  cases ended : first scene with
  | mk result last =>
      cases answered : second opposite with
      | mk answer final =>
          rw [ended, answered] at begun
          cases result with
          | ok value =>
              cases answer with
              | ok given =>
                  obtain ⟨after, holds, seen⟩ := begun
                  exact follow value given after holds since last final seen
              | error cause => exact begun.elim
          | error error =>
              cases answer with
              | ok given => exact begun.elim
              | error cause => exact begun

theorem act {first : Action σ τ α} {second : Action υ ω β} {holds : α → β → Prop}
    (pairs : mirror.Pairs (.during pass other directories) first second holds
      (.during pass other directories)) :
    mirror.Steps pass other directories (Step.act first) (Step.act second)
      fun value given after => holds value given ∧ after = directories := by
  intro since scene opposite sees
  obtain ⟨answers, on⟩ := pairs since _ _ sees.bench
  exact ⟨directories, ⟨answers, rfl⟩, on, sees.directory, sees.held⟩

theorem take {wording : ε → Error} {answer : Except ε α} {given : Except ε β}
    {holds : α → β → Prop}
    (answers : AnswersAlike (fun error cause => (wording error).Alike (wording cause)) holds answer
      given) :
    mirror.Steps pass other directories (Step.take wording answer) (Step.take wording given)
      fun value given after => holds value given ∧ after = directories := by
  cases answers with
  | ok related => exact pure ⟨related, rfl⟩
  | error alike => exact throw alike

theorem take_same (wording : ε → Error) (answer : Except ε α) :
    mirror.Steps pass other directories (Step.take wording answer) (Step.take wording answer)
      (Still directories) :=
  take (.of_eq (fun error => .same (wording error)) answer)

theorem hold {change : Held → Held}
    (keeps : ∀ held directory,
      change { held with directory } = { change held with directory }) :
    mirror.Steps pass other directories (Step.hold change) (Step.hold change)
      (Still directories) := by
  intro since scene opposite sees
  refine ⟨directories, ⟨rfl, rfl⟩, sees.bench, ?_, ?_⟩
  · have same := keeps scene.held scene.held.directory
    change (change scene.held).directory = _
    rw [← sees.directory, show change scene.held = _ from same]
  · change change opposite.held = _
    rw [sees.held, keeps]

theorem take_act {first : Action σ τ (Except ε α)} {second : Action υ ω (Except ε β)}
    {wording : ε → Error} {holds : α → β → Prop} {rest : α → Step σ τ γ} {later : β → Step υ ω δ}
    {ends : γ → δ → Option (String × String) → Prop}
    (pairs : mirror.Pairs (.during pass other directories) first second
      (AnswersAlike (fun error cause => (wording error).Alike (wording cause)) holds)
      (.during pass other directories))
    (follow : ∀ value given, holds value given →
      mirror.Steps pass other directories (rest value) (later given) ends) :
    mirror.Steps pass other directories
      (Step.act first >>= fun answer => Step.take wording answer >>= rest)
      (Step.act second >>= fun answer => Step.take wording answer >>= later) ends := by
  refine (act pairs).bind fun answer given after answers => ?_
  obtain ⟨alike, rfl⟩ := answers
  refine (take alike).bind fun value given after answers => ?_
  obtain ⟨holds, rfl⟩ := answers
  exact follow value given holds

theorem take_act_same {first : Action σ τ (Except ε α)} {second : Action υ ω (Except ε α)}
    (wording : ε → Error) {rest : α → Step σ τ γ} {later : α → Step υ ω δ}
    {ends : γ → δ → Option (String × String) → Prop}
    (pairs : mirror.Pairs (.during pass other directories) first second Eq
      (.during pass other directories))
    (follow : ∀ value, mirror.Steps pass other directories (rest value) (later value) ends) :
    mirror.Steps pass other directories
      (Step.act first >>= fun answer => Step.take wording answer >>= rest)
      (Step.act second >>= fun answer => Step.take wording answer >>= later) ends := by
  have worded : mirror.Pairs (.during pass other directories) first second
      (AnswersAlike (fun error cause => (wording error).Alike (wording cause)) Eq)
      (.during pass other directories) := by
    refine pairs.weaken fun answer given same => ?_
    cases same
    exact .of_eq (fun error => .same (wording error)) answer
  refine take_act worded fun value given same => ?_
  cases same
  exact follow value

end Steps

end Mirror

end BuildBench.Run
