import BuildBench.Run.Pass

set_option autoImplicit false

/-! How the steps of a pass are put together: rules that lead from what the parts of a step do to
what the step does. A step ends with a value or with an error, and what holds then is said for
both ends. -/

namespace BuildBench.Run

def Action.Gives {σ τ α : Type} (action : Action σ τ α) (bench : Bench σ τ) (value : α)
    (last : Bench σ τ) : Prop :=
  (action bench : α × Bench σ τ) = (value, last)

namespace Step

variable {σ τ α β : Type}

theorem bind_apply (step : Step σ τ α) (next : α → Step σ τ β) (scene : Scene σ τ) :
    (step >>= next) scene =
      match step scene with
      | (.ok value, after) => next value after
      | (.error error, after) => (.error error, after) := by
  change (ExceptT.bindCont next (step scene).1) (step scene).2 = _
  cases step scene with
  | mk result after => cases result <;> rfl

/-- From a scene, a step ends with a value for which `post` holds, or with an error for which
`failure` holds. -/
def Ends (step : Step σ τ α) (scene : Scene σ τ) (post : α → Scene σ τ → Prop)
    (failure : Error → Scene σ τ → Prop) : Prop :=
  match step scene with
  | (.ok value, after) => post value after
  | (.error error, after) => failure error after

namespace Ends

variable {step : Step σ τ α} {scene : Scene σ τ} {post : α → Scene σ τ → Prop}
  {failure : Error → Scene σ τ → Prop}

theorem pure {value : α} (holds : post value scene) :
    Ends (pure value : Step σ τ α) scene post failure :=
  holds

theorem throw {error : Error} (holds : failure error scene) :
    Ends (throw error : Step σ τ α) scene post failure :=
  holds

theorem act {action : Action σ τ α}
    (holds : post (action scene.bench).1 { scene with bench := (action scene.bench).2 }) :
    Ends (act action) scene post failure :=
  holds

theorem hold {change : Held → Held} {post : Unit → Scene σ τ → Prop}
    (holds : post () { scene with held := change scene.held }) :
    Ends (hold change) scene post failure :=
  holds

theorem take {ε : Type} {wording : ε → Error} {answer : Except ε α}
    (holds : ∀ value, answer = .ok value → post value scene)
    (fails : ∀ error, answer = .error error → failure (wording error) scene) :
    Ends (take wording answer) scene post failure := by
  cases answer with
  | ok value => exact holds value rfl
  | error error => exact fails error rfl

theorem bind {next : α → Step σ τ β} (middle : α → Scene σ τ → Prop)
    {post : β → Scene σ τ → Prop} (first : Ends step scene middle failure)
    (rest : ∀ value after, middle value after → Ends (next value) after post failure) :
    Ends (step >>= next) scene post failure := by
  unfold Ends at first ⊢
  rw [bind_apply]
  cases ended : step scene with
  | mk result after =>
      rw [ended] at first
      cases result with
      | ok value => exact rest value after first
      | error error => exact first

theorem act_bind {action : Action σ τ α} {next : α → Step σ τ β} {post : β → Scene σ τ → Prop}
    (rest : Ends (next (action scene.bench).1) { scene with bench := (action scene.bench).2 }
      post failure) :
    Ends (Step.act action >>= next) scene post failure :=
  rest

theorem hold_bind {change : Held → Held} {next : Unit → Step σ τ β}
    {post : β → Scene σ τ → Prop}
    (rest : Ends (next ()) { scene with held := change scene.held } post failure) :
    Ends (Step.hold change >>= next) scene post failure :=
  rest

theorem take_bind {ε : Type} {wording : ε → Error} {answer : Except ε α} {next : α → Step σ τ β}
    {post : β → Scene σ τ → Prop}
    (rest : ∀ value, answer = .ok value → Ends (next value) scene post failure)
    (fails : ∀ error, answer = .error error → failure (wording error) scene) :
    Ends (Step.take wording answer >>= next) scene post failure := by
  cases answer with
  | ok value => exact rest value rfl
  | error error => exact fails error rfl

theorem weaken {weaker : α → Scene σ τ → Prop} {milder : Error → Scene σ τ → Prop}
    (ends : Ends step scene post failure)
    (value : ∀ value after, post value after → weaker value after)
    (error : ∀ error after, failure error after → milder error after) :
    Ends step scene weaker milder := by
  unfold Ends at ends ⊢
  cases ended : step scene with
  | mk result after =>
      rw [ended] at ends
      cases result with
      | ok result => exact value result after ends
      | error cause => exact error cause after ends

theorem trivial (step : Step σ τ α) (scene : Scene σ τ) :
    Ends step scene (fun _ _ => True) fun _ _ => True := by
  unfold Ends
  split <;> exact True.intro

theorem value {value : α} (ends : Ends step scene post failure)
    (given : (step scene).1 = .ok value) : post value (step scene).2 := by
  unfold Ends at ends
  cases ended : step scene with
  | mk result after =>
      rw [ended] at ends given
      obtain rfl : result = .ok value := given
      exact ends

/-- What holds however a step ends holds at its end. -/
theorem last {invariant : Scene σ τ → Prop}
    (ends : Ends step scene (fun _ => invariant) fun _ => invariant) : invariant (step scene).2 := by
  unfold Ends at ends
  cases ended : step scene with
  | mk result after =>
      rw [ended] at ends
      cases result with
      | ok value => exact ends
      | error error => exact ends

end Ends

/-! ### Steps that end with a value -/

def Leads (step : Step σ τ α) (scene : Scene σ τ) (value : α) (last : Scene σ τ) : Prop :=
  (step scene : Except Error α × Scene σ τ) = (.ok value, last)

theorem leads_bind {step : Step σ τ α} {next : α → Step σ τ β} {scene last : Scene σ τ}
    {value : β} :
    Leads (step >>= next) scene value last ↔
      ∃ middle after, Leads step scene middle after ∧ Leads (next middle) after value last := by
  unfold Leads
  rw [bind_apply]
  cases step scene with
  | mk result after =>
      cases result with
      | ok middle =>
          constructor
          · intro led
            exact ⟨middle, after, rfl, led⟩
          · rintro ⟨_, _, same, led⟩
            cases same
            exact led
      | error error =>
          constructor
          · intro led
            cases led
          · rintro ⟨_, _, same, _⟩
            cases same

theorem leads_pure {given value : α} {scene last : Scene σ τ} :
    Leads (pure given) scene value last ↔ given = value ∧ scene = last := by
  change ((Except.ok given : Except Error α), scene) = (Except.ok value, last) ↔ _
  rw [Prod.mk.injEq, Except.ok.injEq]

theorem leads_act {action : Action σ τ α} {scene last : Scene σ τ} {value : α} :
    Leads (act action) scene value last ↔
      ∃ bench, action.Gives scene.bench value bench ∧ { scene with bench } = last := by
  change ((Except.ok (action scene.bench).1 : Except Error α),
    { scene with bench := (action scene.bench).2 }) = (Except.ok value, last) ↔ _
  rw [Prod.mk.injEq, Except.ok.injEq]
  constructor
  · rintro ⟨rfl, rfl⟩
    exact ⟨_, rfl, rfl⟩
  · rintro ⟨bench, gives, rfl⟩
    exact ⟨congrArg Prod.fst gives, congrArg (fun result => { scene with bench := result.2 }) gives⟩

theorem leads_act_bind {action : Action σ τ α} {next : α → Step σ τ β} {scene last : Scene σ τ}
    {value : β} :
    Leads (act action >>= next) scene value last ↔
      ∃ middle bench, action.Gives scene.bench middle bench ∧
        Leads (next middle) { scene with bench } value last := by
  rw [leads_bind]
  constructor
  · rintro ⟨middle, after, acted, led⟩
    obtain ⟨bench, gives, rfl⟩ := leads_act.mp acted
    exact ⟨middle, bench, gives, led⟩
  · rintro ⟨middle, bench, gives, led⟩
    exact ⟨middle, _, leads_act.mpr ⟨bench, gives, rfl⟩, led⟩

theorem leads_hold_bind {change : Held → Held} {next : Unit → Step σ τ β} {scene last : Scene σ τ}
    {value : β} :
    Leads (hold change >>= next) scene value last ↔
      Leads (next ()) { scene with held := change scene.held } value last :=
  Iff.rfl

theorem leads_take {ε : Type} {wording : ε → Error} {answer : Except ε α}
    {scene last : Scene σ τ} {value : α} :
    Leads (take wording answer) scene value last ↔ answer = .ok value ∧ scene = last := by
  cases answer with
  | ok given => rw [Except.ok.injEq]; exact leads_pure
  | error error =>
      constructor
      · intro led
        cases led
      · rintro ⟨same, _⟩
        cases same

theorem leads_take_bind {ε : Type} {wording : ε → Error} {answer : Except ε α}
    {next : α → Step σ τ β} {scene last : Scene σ τ} {value : β} :
    Leads (take wording answer >>= next) scene value last ↔
      ∃ middle, answer = .ok middle ∧ Leads (next middle) scene value last := by
  cases answer with
  | ok given =>
      constructor
      · intro led
        exact ⟨given, rfl, led⟩
      · rintro ⟨_, same, led⟩
        cases same
        exact led
  | error error =>
      constructor
      · intro led
        cases led
      · rintro ⟨_, same, _⟩
        cases same

end Step

end BuildBench.Run
