import BuildBench.Proofs.Run.Likeness

set_option autoImplicit false

/-! What decides how a pass ends. Its steps look at the host, the files, and the ledger, and at
nothing else on the bench. Main statement: neither the answers to stops and shutdowns nor the
metrics store change the outcome of a pass. -/

namespace BuildBench.Run

open BuildBench.Definition BuildBench.Entry BuildBench.Files

variable {σ τ υ α β : Type}

/-- Benches that differ at most in their journals and in their metrics stores. -/
structure Bench.Alike (bench : Bench σ τ) (other : Bench σ υ) : Prop where
  host : bench.host = other.host
  files : bench.files = other.files
  ledger : bench.ledger = other.ledger

/-- What is entered makes no difference. -/
def Likeness.whatever : Likeness where
  Journals _ _ := True
  enter _ _ := trivial

theorem Bench.alike_iff {bench : Bench σ τ} {other : Bench σ υ} :
    bench.Alike other ↔ Likeness.whatever.Holds bench other := by
  constructor
  · intro alike
    exact ⟨alike.host, alike.files, alike.ledger, trivial⟩
  · intro holds
    exact ⟨holds.host, holds.files, holds.ledger⟩

/-! ### Actions -/

/-- On benches that are alike, two actions give the same value and leave benches that are alike. -/
def Action.Agree (left : Action σ τ α) (right : Action σ υ α) : Prop :=
  ∀ bench other, bench.Alike other →
    (left bench).1 = (right other).1 ∧ (left bench).2.Alike (right other).2

namespace Action

theorem agree_iff {left : Action σ τ α} {right : Action σ υ α} :
    Agree left right ↔ Likeness.whatever.Agree left right := by
  unfold Agree Likeness.Agree
  simp only [Bench.alike_iff]

namespace Agree

theorem pure (value : α) :
    Agree (Pure.pure value : Action σ τ α) (Pure.pure value : Action σ υ α) :=
  agree_iff.mpr (.pure value)

theorem bind {left : Action σ τ α} {right : Action σ υ α} {next : α → Action σ τ β}
    {rest : α → Action σ υ β} (first : Agree left right)
    (later : ∀ value, Agree (next value) (rest value)) :
    Agree (left >>= next) (right >>= rest) :=
  agree_iff.mpr ((agree_iff.mp first).bind fun value => agree_iff.mp (later value))

theorem enter (event other : Event) :
    Agree (Action.enter event : Action σ τ Unit) (Action.enter other : Action σ υ Unit) :=
  fun _ _ alike => ⟨rfl, alike.host, alike.files, alike.ledger⟩

theorem onHost (step : StateM σ α) :
    Agree (Action.onHost step : Action σ τ α) (Action.onHost step : Action σ υ α) :=
  agree_iff.mpr (.onHost step)

theorem onHostFiles (step : StateM (σ × Tree) α) :
    Agree (Action.onHostFiles step : Action σ τ α) (Action.onHostFiles step : Action σ υ α) :=
  agree_iff.mpr (.onHostFiles step)

end Agree

theorem inspect_agree {ε : Type} (host : Host σ) (request : FileRequest) (refusal : IoError → ε)
    (reading : Tree → Except ε α) :
    Agree (inspect host request refusal reading : Action σ τ _)
      (inspect host request refusal reading : Action σ υ _) :=
  agree_iff.mpr (Likeness.whatever.inspect_agree host request refusal reading)

theorem change_agree (host : Host σ) (request : FileRequest) (step : Tree → Except IoError Tree) :
    Agree (change host request step : Action σ τ _) (change host request step : Action σ υ _) :=
  agree_iff.mpr (Likeness.whatever.change_agree host request step)

/-- Somebody is asked who may answer differently, and nothing is made of the answer. -/
theorem Agree.heard {left : Action σ τ α} {right : Action σ υ α} (event : α → Event)
    {next : α → Action σ τ Unit} {rest : α → Action σ υ Unit}
    (asked : ∀ bench other, bench.Alike other → (left bench).2.Alike (right other).2)
    (ignored : ∀ answer given, Agree (next answer) (rest given)) :
    Agree (do let answer ← left; Action.enter (event answer); next answer)
      (do let given ← right; Action.enter (event given); rest given) := by
  intro bench other alike
  exact (Agree.enter (event (left bench).1) (event (right other).1)).bind
    (fun _ => ignored (left bench).1 (right other).1) _ _ (asked bench other alike)

/-- A request to shut down leaves the bench as it would after any other answer. -/
theorem shutdown_agree (host : Host σ)
    (stop : Sandbox.Handle → StateM σ (Except Sandbox.Error Unit))
    (answers : String → Nat → σ → Except ProbeError Unit) (address : String) (port : Nat) :
    Agree (shutdown host address port : Action σ τ _)
      (shutdown (host.answering stop answers) address port : Action σ υ _) := by
  refine Agree.heard (.shutdown address port) ?_ ?_
  · intro bench other alike
    refine ⟨?_, alike.files, alike.ledger⟩
    change (host.shutdown address port bench.host).2 = (host.shutdown address port other.host).2
    rw [alike.host]
  · intro answer given
    cases answer <;> cases given <;>
      exact fun _ _ alike => ⟨rfl, alike.host, alike.files, alike.ledger⟩

end Action

/-! ### Steps -/

structure Scene.Alike (scene : Scene σ τ) (other : Scene σ υ) : Prop where
  bench : scene.bench.Alike other.bench
  held : scene.held = other.held

def Step.Agree (left : Step σ τ α) (right : Step σ υ α) : Prop :=
  ∀ scene other, scene.Alike other →
    (left scene).1 = (right other).1 ∧ (left scene).2.Alike (right other).2

namespace Pass

theorem carryOut_agree (host : Host σ)
    (stop : Sandbox.Handle → StateM σ (Except Sandbox.Error Unit))
    (answers : String → Nat → σ → Except ProbeError Unit) (pass : Pass)
    (slices : Except Cpu.Error Slices) :
    Step.Agree (carryOut host pass slices : Step σ τ Report)
      (carryOut (host.answering stop answers) pass slices : Step σ υ Report) := by
  intro scene other alike
  obtain ⟨same, after, held⟩ := Likeness.whatever.carryOut_agree host pass stop answers
    (fun address port => Action.agree_iff.mp (Action.shutdown_agree host stop answers address port))
    slices scene other (Bench.alike_iff.mp alike.bench) alike.held
  exact ⟨same, Bench.alike_iff.mpr after, held⟩

/-- How a pass ends does not depend on how stops and shutdowns are answered, nor on whether there is
a metrics store, what it answers, or what was entered in the journal before. -/
theorem perform_outcome (collaborators : Collaborators σ τ) (sink : Option (Sink υ))
    (stop : Sandbox.Handle → StateM σ (Except Sandbox.Error Unit))
    (answers : String → Nat → σ → Except ProbeError Unit) (settings : Settings) (job : Job)
    (slices : Except Cpu.Error Slices) {bench : Bench σ τ} {other : Bench σ υ}
    (alike : bench.Alike other) :
    (perform collaborators settings job slices bench).1 =
      (perform { host := collaborators.host.answering stop answers, sink } settings job slices
        other).1 := by
  have opened : Action.Agree
      (opening collaborators.host settings job : Action σ τ Pass)
      (opening (collaborators.host.answering stop answers) settings job : Action σ υ Pass) :=
    (Action.Agree.onHost _).bind fun _ =>
      (Action.Agree.onHost _).bind fun _ => Action.Agree.pure _
  obtain ⟨same, begun⟩ := opened bench other alike
  simp only [perform_eq, Action.bind_apply, closing_outcome, ← same]
  congr 1
  exact (carryOut_agree collaborators.host stop answers _ slices
    { bench := _, held := .nothing } { bench := _, held := .nothing } ⟨begun, rfl⟩).1

end Pass

end BuildBench.Run
