import BuildBench.Server.Probe
import Mathlib.Data.Nat.Find
import Mathlib.Tactic.Ring

set_option autoImplicit false

/-! Attempts that take turns with pauses. Main statement: waiting for a database ends with the first
ping that succeeds, or with the last one there may be; nothing is asked for but the pings up to that
one and a pause between each two of them, and a failure is worded by the last ping. -/

namespace BuildBench.Server

variable {σ ε α : Type}

/-! ### Turns -/

/-- The state in which an attempt is made if no attempt before it ends the series. Turns count from
zero. -/
def turnState (attempt : StateM σ α) (pause : StateM σ Unit) (state : σ) : Nat → σ
  | 0 => state
  | turn + 1 => turnState attempt pause (pause (attempt state).2).2 turn

def turnAnswer (attempt : StateM σ α) (pause : StateM σ Unit) (state : σ) (turn : Nat) : α :=
  (attempt (turnState attempt pause state turn)).1

/-- Attempts end with a turn: all before it fail, and it succeeds or is the last of so many. -/
structure EndsWith (answers : Nat → Except ε Unit) (attempts turn : Nat) : Prop where
  inTime : turn < attempts
  before : ∀ earlier < turn, ∃ error, answers earlier = .error error
  final : answers turn = .ok () ∨ turn + 1 = attempts

theorem EndsWith.next {answers : Nat → Except ε Unit} {attempts turn : Nat}
    (ends : EndsWith answers (attempts + 1) (turn + 1)) :
    EndsWith (fun later => answers (later + 1)) attempts turn where
  inTime := Nat.lt_of_succ_lt_succ ends.inTime
  before := fun earlier sooner => ends.before (earlier + 1) (Nat.succ_lt_succ sooner)
  final := ends.final.imp id Nat.succ.inj

theorem exists_error_iff {answer : Except ε Unit} :
    (∃ error, answer = .error error) ↔ answer ≠ .ok () := by
  cases answer with
  | ok value => simp
  | error error => simp

theorem endsWith_of_first {answers : Nat → Except ε Unit} {attempts turn : Nat}
    (inTime : turn < attempts) (succeeds : answers turn = .ok ())
    (first : ∀ earlier < turn, answers earlier ≠ .ok ()) : EndsWith answers attempts turn where
  inTime := inTime
  before := fun earlier sooner => exists_error_iff.mpr (first earlier sooner)
  final := .inl succeeds

theorem EndsWith.unique {answers : Nat → Except ε Unit} {attempts turn given : Nat}
    (ends : EndsWith answers attempts turn) (other : EndsWith answers attempts given) :
    turn = given := by
  have notSooner {turn given : Nat} (ends : EndsWith answers attempts turn)
      (other : EndsWith answers attempts given) : ¬ turn < given := by
    intro sooner
    rcases ends.final with succeeds | last
    · exact exists_error_iff.mp (other.before turn sooner) succeeds
    · have inTime := other.inTime
      omega
  exact Nat.le_antisymm (Nat.le_of_not_lt (notSooner other ends))
    (Nat.le_of_not_lt (notSooner ends other))

theorem endsWith_last {answers : Nat → Except ε Unit} {turn : Nat}
    (fails : ∀ each < turn + 1, answers each ≠ .ok ()) : EndsWith answers (turn + 1) turn where
  inTime := Nat.lt_succ_self turn
  before := fun earlier sooner => exists_error_iff.mpr (fails earlier (Nat.lt_succ_of_lt sooner))
  final := .inr rfl

theorem exists_endsWith (answers : Nat → Except ε Unit) {attempts : Nat} (tried : 0 < attempts) :
    ∃ turn, EndsWith answers attempts turn := by
  classical
  by_cases succeeds : ∃ turn, turn < attempts ∧ answers turn = .ok ()
  · obtain ⟨inTime, first⟩ := Nat.find_spec succeeds
    refine ⟨Nat.find succeeds, endsWith_of_first inTime first ?_⟩
    intro earlier sooner success
    exact Nat.find_min succeeds sooner ⟨sooner.trans inTime, success⟩
  · obtain ⟨last, rfl⟩ := Nat.exists_eq_succ_of_ne_zero tried.ne'
    refine ⟨last, endsWith_last ?_⟩
    intro each inTime success
    exact succeeds ⟨each, inTime, success⟩

section Retry

variable {attempt : StateM σ (Except ε Unit)} {pause : StateM σ Unit} {state : σ}

/-- A failed attempt is followed by a pause if there is another one to come, and passes on its error
in place of the last. -/
theorem retry_succ (attempts : Nat) (last : ε) :
    retry attempt pause (attempts + 1) last state =
      match (attempt state).1 with
      | .ok () => (.ok (), (attempt state).2)
      | .error error =>
          retry attempt pause attempts error
            (if 0 < attempts then (pause (attempt state).2).2 else (attempt state).2) := by
  simp only [retry, bind, StateT.bind]
  obtain ⟨answer, after⟩ := attempt state
  cases answer with
  | ok value => rfl
  | error error =>
      by_cases more : 0 < attempts
      · simp only [if_pos more]
        rfl
      · simp only [if_neg more]

/-- Retrying comes to just the attempt that ends it, made in its turn. -/
theorem retry_eq {attempts turn : Nat}
    (ends : EndsWith (turnAnswer attempt pause state) attempts turn) (last : ε) :
    retry attempt pause attempts last state = attempt (turnState attempt pause state turn) := by
  induction attempts generalizing state turn last with
  | zero => exact absurd ends.inTime (Nat.not_lt_zero turn)
  | succ attempts ih =>
      rw [retry_succ]
      cases turn with
      | zero =>
          -- No more than this attempt is made: it succeeds, or there is no other.
          change _ = attempt state
          cases answered : (attempt state).1 with
          | ok value => exact Prod.ext answered.symm rfl
          | error error =>
              have only : attempts = 0 := by
                rcases ends.final with succeeds | final
                · have same := answered.symm.trans succeeds
                  cases same
                · exact (Nat.succ.inj final).symm
              subst only
              exact Prod.ext answered.symm rfl
      | succ turn =>
          obtain ⟨error, failed⟩ := ends.before 0 turn.succ_pos
          change (attempt state).1 = .error error at failed
          -- The turns that are left count from the state behind the first pause.
          have later := ends.next
          rw [failed]
          change retry attempt pause attempts error (if 0 < attempts then _ else _) = _
          rw [if_pos (Nat.zero_lt_of_lt later.inTime)]
          exact ih later error

end Retry

/-! ### Notes of calls -/

/-- A call that is made while a database is waited for. -/
inductive Call
  | connect (address : Address) (answer : Except Fault Unit)
  | send (address : Address) (command : List String) (answer : Except Fault Reply)
  | pause

namespace Call

def isConnect : Call → Bool
  | .connect _ _ => true
  | _ => false

def isPause : Call → Bool
  | .pause => true
  | _ => false

/-- The pings among some calls. Each of them connects anew. -/
def pings (calls : List Call) : Nat :=
  calls.countP isConnect

def pauses (calls : List Call) : Nat :=
  calls.countP isPause

/-- So many groups of calls, with a pause between each two. -/
def inTurn (groups : Nat → List Call) (count : Nat) : List Call :=
  [pause].intercalate ((List.range count).map groups)

end Call

/-- Takes a step and notes down what was called for and how it was answered. -/
def noting (note : α → Call) (step : StateM σ α) : StateM (σ × List Call) α :=
  fun (state, calls) =>
    let (answer, state) := step state
    (answer, state, calls ++ [note answer])

def Network.noted (network : Network σ) : Network (σ × List Call) where
  connect := fun address => noting (.connect address) (network.connect address)
  send := fun address command => noting (.send address command) (network.send address command)

def notedPause (pause : StateM σ Unit) : StateM (σ × List Call) Unit :=
  noting (fun () => .pause) pause

/-- The calls of a command: the connection, and the command if there is one. -/
def askCalls (network : Network σ) (address : Address) (command : List String) (state : σ) :
    List Call :=
  let (answer, connected) := network.connect address state
  .connect address answer ::
    match answer with
    | .error _ => []
    | .ok () => [.send address command (network.send address command connected).1]

def pingCalls (network : Network σ) (address : Address) : σ → List Call :=
  askCalls network address ["PING"]

/-- One step is the other with notes: it answers and goes on alike, and its calls stand behind those
that were noted before. -/
def Notes (step : StateM σ α) (noted : StateM (σ × List Call) α) (made : σ → List Call) : Prop :=
  ∀ state calls, noted (state, calls) = ((step state).1, (step state).2, calls ++ made state)

theorem ask_apply (network : Network σ) (address : Address) (command : List String) (state : σ) :
    ask network address command state =
      match (network.connect address state).1 with
      | .error fault => (.error fault, (network.connect address state).2)
      | .ok () => network.send address command (network.connect address state).2 := by
  simp only [ask, bind, StateT.bind]
  obtain ⟨answer, connected⟩ := network.connect address state
  cases answer with
  | error fault => rfl
  | ok value => rfl

theorem ask_notes (network : Network σ) (address : Address) (command : List String) :
    Notes (ask network address command) (ask network.noted address command)
      (askCalls network address command) := by
  intro state calls
  have connects : network.noted.connect address (state, calls) =
      ((network.connect address state).1, (network.connect address state).2,
        calls ++ [.connect address (network.connect address state).1]) := rfl
  rw [ask_apply, ask_apply, askCalls, connects]
  generalize network.connect address state = made
  obtain ⟨answer, connected⟩ := made
  cases answer with
  | error fault => rfl
  | ok value => exact Prod.ext rfl (Prod.ext rfl (List.append_assoc calls _ _))

theorem ping_notes (network : Network σ) (address : Address) :
    Notes (ping network address) (ping network.noted address) (pingCalls network address) := by
  intro state calls
  have asked := ask_notes network address ["PING"] state calls
  have pings {τ : Type} (network : Network τ) (state : τ) : ping network address state =
      ((ask network address ["PING"] state).1.bind fun reply => reply.text.map fun _ => (),
        (ask network address ["PING"] state).2) := rfl
  rw [pings, pings, asked]
  rfl

namespace Call

theorem inTurn_one (groups : Nat → List Call) : inTurn groups 1 = groups 0 :=
  List.intercalate_singleton

theorem inTurn_next (groups : Nat → List Call) (count : Nat) :
    inTurn groups (count + 2) =
      groups 0 ++ [pause] ++ inTurn (fun turn => groups (turn + 1)) (count + 1) := by
  rw [inTurn, List.range_succ_eq_map, List.range_succ_eq_map, List.map_cons, List.map_cons,
    List.map_cons, List.intercalate_cons_cons, inTurn, List.range_succ_eq_map, List.map_cons,
    List.map_map, List.map_map, List.map_map]
  rfl

/-- Groups that are alike in how many calls of a kind they have. -/
theorem countP_inTurn {groups : Nat → List Call} {kind : Call → Bool} {each : Nat}
    (alike : ∀ turn, (groups turn).countP kind = each) (count : Nat) :
    (inTurn groups (count + 1)).countP kind =
      (count + 1) * each + count * [pause].countP kind := by
  induction count generalizing groups with
  | zero => rw [inTurn_one, alike, Nat.zero_add, Nat.one_mul, Nat.zero_mul, Nat.add_zero]
  | succ count ih =>
      rw [inTurn_next, List.countP_append, List.countP_append, alike,
        ih fun turn => alike (turn + 1)]
      ring

theorem pings_inTurn {groups : Nat → List Call} (single : ∀ turn, pings (groups turn) = 1)
    (count : Nat) : pings (inTurn groups count) = count := by
  cases count with
  | zero => rfl
  | succ count =>
      have counted := countP_inTurn single count
      have pause : [pause].countP isConnect = 0 := rfl
      rw [pause] at counted
      unfold pings
      omega

/-- The pauses stand between groups that have none, and none stands behind the last. -/
theorem pauses_inTurn {groups : Nat → List Call} (free : ∀ turn, pauses (groups turn) = 0)
    (count : Nat) : pauses (inTurn groups count) = count - 1 := by
  cases count with
  | zero => rfl
  | succ count =>
      have counted := countP_inTurn free count
      have pause : [pause].countP isPause = 1 := rfl
      rw [pause] at counted
      unfold pauses
      omega

end Call

theorem pingCalls_single (network : Network σ) (address : Address) (state : σ) :
    Call.pings (pingCalls network address state) = 1 ∧
      Call.pauses (pingCalls network address state) = 0 := by
  unfold pingCalls askCalls
  generalize network.connect address state = made
  obtain ⟨answer, connected⟩ := made
  cases answer with
  | error fault => exact ⟨rfl, rfl⟩
  | ok value => exact ⟨rfl, rfl⟩

/-- An attempt with notes answers in its turn as it does without, and by then there are notes of
each attempt so far, with a pause between each two. -/
theorem Notes.inTurn {attempt : StateM σ α} {noted : StateM (σ × List Call) α}
    {made : σ → List Call} (notes : Notes attempt noted made) (pause : StateM σ Unit) (state : σ)
    (calls : List Call) (turn : Nat) :
    noted (turnState noted (notedPause pause) (state, calls) turn) =
      ((attempt (turnState attempt pause state turn)).1,
        (attempt (turnState attempt pause state turn)).2,
        calls ++
          Call.inTurn (fun each => made (turnState attempt pause state each)) (turn + 1)) := by
  induction turn generalizing state calls with
  | zero =>
      rw [Call.inTurn_one]
      exact notes state calls
  | succ turn ih =>
      have moved : turnState noted (notedPause pause) (state, calls) (turn + 1) =
          turnState noted (notedPause pause)
            ((pause (attempt state).2).2, calls ++ made state ++ [.pause]) turn := by
        rw [turnState, notes state calls]
        rfl
      rw [moved, ih, Call.inTurn_next, List.append_assoc, List.append_assoc, List.append_assoc]
      rfl

theorem Notes.turnAnswer {attempt : StateM σ α} {noted : StateM (σ × List Call) α}
    {made : σ → List Call} (notes : Notes attempt noted made) (pause : StateM σ Unit) (state : σ)
    (calls : List Call) :
    turnAnswer noted (notedPause pause) (state, calls) = turnAnswer attempt pause state := by
  funext turn
  exact congrArg Prod.fst (notes.inTurn pause state calls turn)

/-! ### Waiting -/

/-- The answer of the ping that ends the wait, as it is reported. -/
def report (address : Address) (attempts : Nat) (answer : Except Fault Unit) :
    Except Run.ProbeError Unit :=
  answer.mapError fun fault => .notReady address.toText attempts fault.message

section Map

variable {β : Type} {pause : StateM σ Unit}

theorem turnState_map (change : α → β) (attempt : StateM σ α) (state : σ) (turn : Nat) :
    turnState (do return change (← attempt)) pause state turn =
      turnState attempt pause state turn := by
  induction turn generalizing state with
  | zero => rfl
  | succ turn ih => exact ih _

theorem turnAnswer_map (change : α → β) (attempt : StateM σ α) (state : σ) (turn : Nat) :
    turnAnswer (do return change (← attempt)) pause state turn =
      change (turnAnswer attempt pause state turn) := by
  unfold turnAnswer
  rw [turnState_map]
  rfl

end Map

theorem EndsWith.attemptText {answers : Nat → Except Fault Unit} {attempts turn : Nat}
    (ends : EndsWith answers attempts turn) :
    EndsWith (fun each => attemptText (answers each)) attempts turn where
  inTime := ends.inTime
  before := by
    intro earlier sooner
    obtain ⟨fault, failed⟩ := ends.before earlier sooner
    exact ⟨fault.message, congrArg _ failed⟩
  final := ends.final.imp (congrArg _) id

section Wait

variable {network : Network σ} {pause : StateM σ Unit} {settings : ProbeSettings} {host : String}
  {port turn : Nat} {state : σ}

theorem awaitReady_apply : awaitReady network pause settings host port state =
    ((retry (do return attemptText (← ping network (.ofHost host port))) pause settings.attempts
        "no attempt made" state).1.mapError
          (.notReady (Address.ofHost host port).toText settings.attempts),
      (retry (do return attemptText (← ping network (.ofHost host port))) pause settings.attempts
        "no attempt made" state).2) := by
  simp only [awaitReady, bind, StateT.bind]
  generalize retry _ pause settings.attempts "no attempt made" state = retried
  obtain ⟨answer, after⟩ := retried
  cases answer with
  | ok value => rfl
  | error last => rfl

theorem awaitReady_of_ends
    (ends : EndsWith (turnAnswer (ping network (.ofHost host port)) pause state)
      settings.attempts turn) :
    awaitReady network pause settings host port state =
      (report (.ofHost host port) settings.attempts
          (turnAnswer (ping network (.ofHost host port)) pause state turn),
        (ping network (.ofHost host port)
          (turnState (ping network (.ofHost host port)) pause state turn)).2) := by
  have worded := ends.attemptText
  rw [← funext (turnAnswer_map attemptText (ping network (.ofHost host port)) state)] at worded
  rw [awaitReady_apply, retry_eq worded, turnState_map]
  unfold turnAnswer
  generalize turnState (ping network (.ofHost host port)) pause state turn = late
  change (Except.mapError _ (attemptText (ping network (.ofHost host port) late).1), _) = _
  cases (ping network (.ofHost host port) late).1 with
  | ok value => rfl
  | error fault => rfl

theorem awaitReady_of_none (untried : settings.attempts = 0) :
    awaitReady network pause settings host port state =
      (.error (.notReady (Address.ofHost host port).toText 0 "no attempt made"), state) := by
  rw [awaitReady_apply, untried]
  rfl

end Wait

/-! ### Main result -/

/-- The wording of so many failed pings: that of the last one, if there is one. -/
inductive LastWords (answers : Nat → Except Fault Unit) : Nat → String → Prop
  | none : LastWords answers 0 "no attempt made"
  | last {turn : Nat} {fault : Fault} (failed : answers turn = .error fault) :
      LastWords answers (turn + 1) fault.message

/-- What waiting for a database comes to, given what each ping answers in its turn and the calls
that it makes. Turns count from zero, so that the ping of a turn is preceded by as many. -/
structure Waits (address : Address) (attempts : Nat) (answers : Nat → Except Fault Unit)
    (groups : Nat → List Call) (result : Except Run.ProbeError Unit) (calls : List Call) :
    Prop where
  ready_iff : result = .ok () ↔ ∃ turn < attempts, answers turn = .ok ()
  ready : ∀ turn < attempts, answers turn = .ok () →
    (∀ earlier < turn, answers earlier ≠ .ok ()) →
      calls = Call.inTurn groups (turn + 1) ∧
        Call.pings calls = turn + 1 ∧ Call.pauses calls = turn
  exhausted : (∀ turn < attempts, answers turn ≠ .ok ()) →
    calls = Call.inTurn groups attempts ∧
      Call.pings calls = attempts ∧ Call.pauses calls = max attempts 1 - 1 ∧
      ∃ text, LastWords answers attempts text ∧
        result = .error (.notReady address.toText attempts text)

section Groups

variable {address : Address} {attempts turn : Nat} {answers : Nat → Except Fault Unit}
  {groups : Nat → List Call}

theorem waits_of_none : Waits address 0 answers groups
    (.error (.notReady address.toText 0 "no attempt made")) [] where
  ready_iff := by
    constructor
    · intro ready
      cases ready
    · rintro ⟨turn, inTime, -⟩
      exact absurd inTime turn.not_lt_zero
  ready := fun turn inTime => absurd inTime turn.not_lt_zero
  exhausted := fun _ => ⟨rfl, rfl, rfl, _, .none, rfl⟩

theorem report_eq_ok_iff {answer : Except Fault Unit} :
    report address attempts answer = .ok () ↔ answer = .ok () := by
  cases answer with
  | ok value => exact iff_of_true rfl rfl
  | error fault => simp [report, Except.mapError]

theorem waits_of_ends (ends : EndsWith answers attempts turn)
    (single : ∀ each, Call.pings (groups each) = 1)
    (free : ∀ each, Call.pauses (groups each) = 0) :
    Waits address attempts answers groups (report address attempts (answers turn))
      (Call.inTurn groups (turn + 1)) where
  ready_iff := by
    rw [report_eq_ok_iff]
    constructor
    · intro succeeds
      exact ⟨turn, ends.inTime, succeeds⟩
    · rintro ⟨given, inTime, succeeds⟩
      rcases ends.final with final | last
      · exact final
      · rcases Nat.lt_or_ge given turn with sooner | later
        · exact absurd succeeds (exists_error_iff.mp (ends.before given sooner))
        · have same : given = turn := by omega
          rw [← same]
          exact succeeds
  ready := by
    intro given inTime succeeds first
    have same := ends.unique (endsWith_of_first inTime succeeds first)
    subst same
    refine ⟨rfl, Call.pings_inTurn single _, ?_⟩
    rw [Call.pauses_inTurn free, Nat.add_sub_cancel]
  exhausted := by
    intro fails
    have last := ends.final.resolve_left (fails turn ends.inTime)
    subst last
    obtain ⟨fault, failed⟩ := exists_error_iff.mpr (fails turn ends.inTime)
    refine ⟨rfl, Call.pings_inTurn single _, ?_, fault.message, .last failed, ?_⟩
    · rw [Call.pauses_inTurn free, Nat.max_eq_left turn.succ_pos]
    · rw [failed]
      rfl

end Groups

/-- For any number of attempts, and whatever happens out there meanwhile, a database is waited for
until a ping succeeds or there are no more attempts. Taking notes changes neither the result nor
what is out there, and the notes show all pings and pauses in order. -/
theorem awaitReady_in_turn (network : Network σ) (pause : StateM σ Unit)
    (settings : ProbeSettings) (host : String) (port : Nat) (state : σ) :
    ∃ result after calls,
      awaitReady network pause settings host port state = (result, after) ∧
      awaitReady network.noted (notedPause pause) settings host port (state, []) =
        (result, after, calls) ∧
      Waits (.ofHost host port) settings.attempts
        (turnAnswer (ping network (.ofHost host port)) pause state)
        (fun turn => pingCalls network (.ofHost host port)
          (turnState (ping network (.ofHost host port)) pause state turn))
        result calls := by
  rcases Nat.eq_zero_or_pos settings.attempts with untried | tried
  · refine ⟨_, _, _, awaitReady_of_none untried, awaitReady_of_none untried, ?_⟩
    rw [untried]
    exact waits_of_none
  · -- The same ping ends the wait with notes and without.
    have notes := ping_notes network (.ofHost host port)
    obtain ⟨turn, ends⟩ := exists_endsWith
      (turnAnswer (ping network (.ofHost host port)) pause state) tried
    have noted := ends
    rw [← notes.turnAnswer pause state []] at noted
    refine ⟨_, _, _, awaitReady_of_ends ends, ?_, waits_of_ends ends ?_ ?_⟩
    · rw [awaitReady_of_ends noted, notes.turnAnswer, notes.inTurn, List.nil_append]
    · intro each
      exact (pingCalls_single network _ _).1
    · intro each
      exact (pingCalls_single network _ _).2

/-- A network on which pings are answered so in turn. Its state counts them. -/
def answering (answers : Nat → Except Fault Unit) : Network Nat where
  connect := fun _ => return .ok ()
  send := fun _ _ turn => ((answers turn).map fun () => .status "PONG", turn + 1)

theorem turnState_answering (answers : Nat → Except Fault Unit) (address : Address)
    (start turn : Nat) :
    turnState (ping (answering answers) address) (return ()) start turn = start + turn := by
  induction turn generalizing start with
  | zero => rfl
  | succ turn ih =>
      change turnState _ _ (start + 1) turn = _
      rw [ih]
      omega

/-- Each sequence of answers may come. -/
theorem turnAnswer_answering (answers : Nat → Except Fault Unit) (address : Address) :
    turnAnswer (ping (answering answers) address) (return ()) 0 = answers := by
  funext turn
  rw [turnAnswer, turnState_answering, Nat.zero_add]
  change (((answers turn).map fun () => Reply.status "PONG").bind _) = _
  cases answers turn with
  | error fault => rfl
  | ok value => rfl

/-- The answers of a server that nobody can reach at first, and that then has to load its data. -/
def slowStart : Nat → Except Fault Unit
  | 0 => .error (.unreachable "Connection refused")
  | 1 => .error (.refused "LOADING dataset in memory")
  | _ => .ok ()

theorem awaitReady_in_turn_rehearsed :
    (∃ after calls,
      awaitReady (answering slowStart).noted (notedPause (return ())) .usual "10.0.0.5" 6380
          (0, []) = (.ok (), after, calls) ∧
        Call.pings calls = 3 ∧ Call.pauses calls = 2) ∧
      ∃ after calls,
        awaitReady (answering slowStart).noted (notedPause (return ()))
            { ProbeSettings.usual with attempts := 2 } "10.0.0.5" 6380 (0, []) =
          (.error (.notReady "10.0.0.5:6380" 2 "LOADING dataset in memory"), after, calls) ∧
        Call.pings calls = 2 ∧ Call.pauses calls = 1 := by
  have early : ∀ earlier < 2, slowStart earlier ≠ .ok () := by decide
  constructor
  · obtain ⟨result, after, calls, -, noted, waits⟩ := awaitReady_in_turn (answering slowStart)
      (return ()) .usual "10.0.0.5" 6380 0
    rw [turnAnswer_answering] at waits
    have ready := waits.ready_iff.mpr ⟨2, by decide, rfl⟩
    obtain ⟨-, pings, pauses⟩ := waits.ready 2 (by decide) rfl early
    rw [ready] at noted
    exact ⟨after, calls, noted, pings, pauses⟩
  · obtain ⟨result, after, calls, -, noted, waits⟩ := awaitReady_in_turn (answering slowStart)
      (return ()) { ProbeSettings.usual with attempts := 2 } "10.0.0.5" 6380 0
    rw [turnAnswer_answering] at waits
    obtain ⟨-, pings, pauses, text, words, failed⟩ := waits.exhausted early
    cases words with
    | last same =>
        cases same
        rw [failed] at noted
        exact ⟨after, calls, noted, pings, pauses⟩

end BuildBench.Server
