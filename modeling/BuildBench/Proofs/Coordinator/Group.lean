import BuildBench.Proofs.Coordinator.Acknowledgement

set_option autoImplicit false

/-! Coordinators that share a group of consumers. The queue keeps for the group which entries are
pending; coordinators take their steps in any order, crash, and start again. Main statement: an entry
that was delivered and is no longer pending was completed by a coordinator before that one sent its
acknowledgement. -/

namespace BuildBench.Coordinator

open BuildBench.Definition BuildBench.Entry BuildBench.Run

variable {ι σ τ : Type}

/-! ### The queue -/

structure Group (ι : Type) where
  /-- The consumer to which a pending entry is assigned. -/
  owner : Id → Option ι
  /-- The entry was delivered to some consumer at some time. -/
  delivered : Id → Prop

namespace Group

def fresh : Group ι where
  owner := fun _ => none
  delivered := fun _ => False

def IsPending (group : Group ι) (id : Id) : Prop :=
  (group.owner id).isSome

def assign (group : Group ι) (consumer : ι) (id : Id) : Group ι :=
  { group with owner := fun other => if other = id then some consumer else group.owner other }

def deliver (group : Group ι) (consumer : ι) (id : Id) : Group ι :=
  { group.assign consumer id with delivered := fun other => other = id ∨ group.delivered other }

def remove (group : Group ι) (id : Id) : Group ι :=
  { group with owner := fun other => if other = id then none else group.owner other }

/-- What a call of a consumer does to the group. A call that fails may have reached the queue or
not, for only the answer was lost then; and an acknowledgement may reach it later. -/
inductive Answers (consumer : ι) (group : Group ι) : Event → Group ι → Prop
  | delivered (delivery : Delivery) :
      Answers consumer group (.read .undelivered (.ok (some delivery)))
        (group.deliver consumer delivery.id)
  | nothing : Answers consumer group (.read .undelivered (.ok none)) group
  | unread (error : QueueError) :
      Answers consumer group (.read .undelivered (.error error)) group
  | unheard (error : QueueError) (id : Id) :
      Answers consumer group (.read .undelivered (.error error)) (group.deliver consumer id)
  /-- Entries that are pending already are read again. -/
  | replayed (id : Id) (answer : Except QueueError (Option Delivery)) :
      Answers consumer group (.read (.after id) answer) group
  | claimed (idle : Time.Duration) (delivery : Delivery) (pending : group.IsPending delivery.id) :
      Answers consumer group (.takeOver idle (.ok (some delivery)))
        (group.assign consumer delivery.id)
  | nothingIdle (idle : Time.Duration) :
      Answers consumer group (.takeOver idle (.ok none)) group
  | unclaimed (idle : Time.Duration) (error : QueueError) :
      Answers consumer group (.takeOver idle (.error error)) group
  | unheardClaim (idle : Time.Duration) (error : QueueError) (id : Id)
      (pending : group.IsPending id) :
      Answers consumer group (.takeOver idle (.error error)) (group.assign consumer id)
  | acknowledged (id : Id) :
      Answers consumer group (.acknowledge id (.ok ())) (group.remove id)
  | unacknowledged (id : Id) (error : QueueError) :
      Answers consumer group (.acknowledge id (.error error)) group
  | unheardAcknowledgement (id : Id) (error : QueueError) :
      Answers consumer group (.acknowledge id (.error error)) (group.remove id)
  | beside {event : Event} (other : event.isRequest = false) : Answers consumer group event group

inductive Serves (consumer : ι) : List Event → Group ι → Group ι → Prop
  | nil (group : Group ι) : Serves consumer [] group group
  | cons {event : Event} {rest : List Event} {group middle last : Group ι}
      (answers : group.Answers consumer event middle) (serves : Serves consumer rest middle last) :
      Serves consumer (event :: rest) group last

/-- Settled entries were delivered and are no longer pending. -/
def IsSettled (group : Group ι) (id : Id) : Prop :=
  group.delivered id ∧ ¬ group.IsPending id

theorem assign_settled {group : Group ι} {consumer : ι} {id other : Id}
    (settled : (group.assign consumer id).IsSettled other) : group.IsSettled other := by
  obtain ⟨delivered, settled⟩ := settled
  unfold IsPending assign at settled
  dsimp only at settled
  split at settled
  · exact absurd rfl settled
  · exact ⟨delivered, settled⟩

theorem deliver_settled {group : Group ι} {consumer : ι} {id other : Id}
    (settled : (group.deliver consumer id).IsSettled other) : group.IsSettled other := by
  obtain ⟨delivered, settled⟩ := settled
  unfold IsPending deliver assign at settled
  dsimp only at settled
  split at settled
  · exact absurd rfl settled
  · rename_i different
    exact ⟨delivered.resolve_left different, settled⟩

theorem remove_settled {group : Group ι} {id other : Id}
    (settled : (group.remove id).IsSettled other) : group.IsSettled other ∨ other = id := by
  obtain ⟨delivered, settled⟩ := settled
  unfold IsPending remove at settled
  dsimp only at settled
  split at settled
  · exact Or.inr ‹_›
  · exact Or.inl ⟨delivered, settled⟩

/-- An entry is settled by an acknowledgement alone. -/
theorem Answers.settled {consumer : ι} {event : Event} {group after : Group ι} {id : Id}
    (answers : group.Answers consumer event after) (settled : after.IsSettled id) :
    group.IsSettled id ∨ ∃ answer, event = .acknowledge id answer := by
  cases answers with
  | delivered delivery => exact Or.inl (deliver_settled settled)
  | unheard error other => exact Or.inl (deliver_settled settled)
  | claimed idle delivery pending => exact Or.inl (assign_settled settled)
  | unheardClaim idle error other pending => exact Or.inl (assign_settled settled)
  | acknowledged other =>
      rcases remove_settled settled with earlier | rfl
      · exact Or.inl earlier
      · exact Or.inr ⟨_, rfl⟩
  | unheardAcknowledgement other error =>
      rcases remove_settled settled with earlier | rfl
      · exact Or.inl earlier
      · exact Or.inr ⟨_, rfl⟩
  | _ => exact Or.inl settled

theorem Serves.settled {consumer : ι} {calls : List Event} {group after : Group ι} {id : Id}
    (serves : Serves consumer calls group after) (settled : after.IsSettled id) :
    group.IsSettled id ∨ ∃ answer, .acknowledge id answer ∈ calls := by
  induction serves with
  | nil group => exact Or.inl settled
  | cons answers serves ih =>
      rcases ih settled with middle | ⟨answer, member⟩
      · rcases answers.settled middle with earlier | ⟨answer, rfl⟩
        · exact Or.inl earlier
        · exact Or.inr ⟨answer, List.mem_cons_self⟩
      · exact Or.inr ⟨answer, List.mem_cons_of_mem _ member⟩

end Group

/-! ### Histories -/

/-- What is known of a coordinator's doings: its calls and its deeds. -/
inductive Record
  | called (event : Event)
  | did (deed : Deed)

def Record.deed? : Record → Option Deed
  | .did deed => some deed
  | .called _ => none

/-- What one coordinator adds to the history: first the calls, then the deed for which they were
made. -/
def records (consumer : ι) (made : List Event) (deed : Option Deed) : List (ι × Record) :=
  made.map (fun event => (consumer, .called event)) ++
    deed.toList.map fun deed => (consumer, .did deed)

theorem called_mem_records {consumer who : ι} {made : List Event} {deed : Option Deed}
    {event : Event} : (who, .called event) ∈ records consumer made deed ↔
      who = consumer ∧ event ∈ made := by
  unfold records
  rw [List.mem_append]
  constructor
  · rintro (called | did)
    · obtain ⟨_, member, same⟩ := List.mem_map.mp called
      cases same
      exact ⟨rfl, member⟩
    · obtain ⟨_, _, same⟩ := List.mem_map.mp did
      cases same
  · rintro ⟨rfl, member⟩
    exact Or.inl (List.mem_map.mpr ⟨event, member, rfl⟩)

section Histories

variable [DecidableEq ι]

def deedsOf (consumer : ι) (history : List (ι × Record)) : List Deed :=
  (history.filter fun entry => entry.1 = consumer).filterMap fun entry => entry.2.deed?

theorem deedsOf_append (consumer : ι) (history later : List (ι × Record)) :
    deedsOf consumer (history ++ later) = deedsOf consumer history ++ deedsOf consumer later := by
  unfold deedsOf
  rw [List.filter_append, List.filterMap_append]

theorem deedsOf_records (consumer : ι) (made : List Event) (deed : Option Deed) :
    deedsOf consumer (records consumer made deed) = deed.toList := by
  have calls : deedsOf consumer (made.map fun event => (consumer, Record.called event)) = [] := by
    unfold deedsOf
    rw [List.filterMap_eq_nil_iff]
    intro entry member
    obtain ⟨event, _, rfl⟩ := List.mem_map.mp (List.mem_of_mem_filter member)
    rfl
  unfold records
  rw [deedsOf_append, calls, List.nil_append]
  cases deed <;> simp [deedsOf, Record.deed?]

theorem deedsOf_other {consumer other : ι} (different : consumer ≠ other) (made : List Event)
    (deed : Option Deed) : deedsOf other (records consumer made deed) = [] := by
  unfold deedsOf
  rw [List.filterMap_eq_nil_iff]
  intro entry member
  obtain ⟨own, isOther⟩ := List.mem_filter.mp member
  have same : entry.1 = consumer := by
    rcases List.mem_append.mp own with called | did
    · obtain ⟨_, _, rfl⟩ := List.mem_map.mp called
      rfl
    · obtain ⟨_, _, rfl⟩ := List.mem_map.mp did
      rfl
  rw [decide_eq_true_iff] at isOther
  exact absurd (same.symm.trans isOther) different

/-- Every acknowledgement was earned: the coordinator that sent it had completed the entry. -/
def Earned (setups : ι → Setup σ τ) (history : List (ι × Record)) : Prop :=
  ∀ first consumer id answer last,
    history = first ++ (consumer, .called (.acknowledge id answer)) :: last →
    Completed (setups consumer) id (deedsOf consumer first)

theorem Earned.append {setups : ι → Setup σ τ} {history later : List (ι × Record)}
    (earned : Earned setups history)
    (earns : ∀ consumer id answer, (consumer, .called (.acknowledge id answer)) ∈ later →
      Completed (setups consumer) id (deedsOf consumer history)) :
    Earned setups (history ++ later) := by
  intro first consumer id answer last same
  -- The acknowledgement is one of the later records, or it was sent before them.
  rcases List.append_eq_append_iff.mp same with ⟨between, rfl, rfl⟩ | ⟨rest, rfl, tails⟩
  · rw [deedsOf_append]
    exact (earns consumer id answer (List.mem_append_right _ List.mem_cons_self)).more _
  · cases rest with
    | nil =>
        rw [List.append_nil] at earns
        refine earns consumer id answer ?_
        rw [List.nil_append] at tails
        rw [← tails]
        exact List.mem_cons_self
    | cons entry rest =>
        cases tails
        exact earned first consumer id answer rest rfl

end Histories

/-! ### Worlds -/

structure World (ι σ τ : Type) where
  group : Group ι
  workers : ι → Worker σ τ
  history : List (ι × Record)

namespace World

variable [DecidableEq ι]

/-- One thing that happens. A coordinator that crashes in the middle of a step has made the calls of
the step, or has not made them; it does not find out what came of them. -/
inductive Step (setups : ι → Setup σ τ) (world : World ι σ τ) : World ι σ τ → Prop
  | move (consumer : ι) {deed : Option Deed} {worker : Worker σ τ} {made : List Event}
      {group : Group ι} (move : (setups consumer).Move (world.workers consumer) deed worker)
      (calls : worker.bench.calls = (world.workers consumer).bench.calls ++ made)
      (serves : Group.Serves consumer made world.group group) :
      Step setups world
        { group
          workers := Function.update world.workers consumer worker
          history := world.history ++ records consumer made deed }
  | crash (consumer : ι) (host : σ) (sink : τ) (files : Files.Tree) (cursor : Cursor) :
      Step setups world
        { world with
          workers := Function.update world.workers consumer
            ⟨.resting, (setups consumer).start host sink files cursor⟩
          history := world.history ++ records consumer [] (some .crashed) }
  /-- An acknowledgement reaches the queue late. -/
  | arrive {consumer : ι} {id : Id} {answer : Except QueueError Unit}
      (sent : (consumer, .called (.acknowledge id answer)) ∈ world.history) :
      Step setups world { world with group := world.group.remove id }

inductive Reached (setups : ι → Setup σ τ) : World ι σ τ → Prop
  | start (hosts : ι → σ) (sinks : ι → τ) (files : ι → Files.Tree) (cursors : ι → Cursor) :
      Reached setups
        { group := .fresh
          workers := fun consumer => ⟨.resting, (setups consumer).start (hosts consumer)
            (sinks consumer) (files consumer) (cursors consumer)⟩
          history := [] }
  | step {world after : World ι σ τ} (reached : Reached setups world)
      (step : Step setups world after) : Reached setups after

structure Sound (setups : ι → Setup σ τ) (world : World ι σ τ) : Prop where
  faithful : ∀ consumer,
    Faithful (setups consumer) (world.workers consumer) (deedsOf consumer world.history)
  earned : Earned setups world.history
  settled : ∀ id, world.group.IsSettled id →
    ∃ consumer answer, (consumer, .called (.acknowledge id answer)) ∈ world.history

end World

/-- What a worker acknowledges it has completed. -/
theorem Faithful.acknowledges {setup : Setup σ τ} {worker after : Worker σ τ} {deeds : List Deed}
    {deed : Option Deed} {made : List Event} {id : Id} {answer : Except QueueError Unit}
    (faithful : Faithful setup worker deeds) (move : setup.Move worker deed after)
    (calls : after.bench.calls = worker.bench.calls ++ made)
    (sent : .acknowledge id answer ∈ made) : Completed setup id deeds := by
  have silent (same : after.bench.calls = worker.bench.calls) : Completed setup id deeds := by
    rw [List.append_right_eq_self.mp (calls.symm.trans same)] at sent
    cases sent
  cases move with
  | step =>
      -- Only from these two stages is the queue told, and at both nothing is left to be done.
      obtain ⟨stage, state⟩ := worker
      obtain ⟨listed, isListed, stepped, _⟩ := setup.step_makes state stage
      rw [List.append_cancel_left (calls.symm.trans stepped)] at sent
      cases isListed with
      | claim idle answer => cases List.mem_singleton.mp sent
      | read cursor answer => cases List.mem_singleton.mp sent
      | pass others => cases others _ sent
      | finish done iteration answer =>
          cases List.mem_singleton.mp sent
          exact faithful.closing ⟨rfl, rfl⟩
      | again done answer =>
          cases List.mem_singleton.mp sent
          exact faithful.closing ⟨rfl, rfl⟩
      | nothing silent => cases sent
  | meddle host sink files => exact silent rfl
  | cancel early => exact silent rfl
  | rest ended => exact silent rfl
  | notice notice =>
      exact silent ((Action.report_makes notice worker.state.bench).calls.trans (List.append_nil _))
  | accept delivery resting => exact silent rfl

namespace World.Sound

variable [DecidableEq ι] {setups : ι → Setup σ τ} {world after : World ι σ τ}

/-- One coordinator goes on, and the others stay as they are. -/
theorem replace {group : Group ι} {consumer : ι} {worker : Worker σ τ} {made : List Event}
    {deed : Option Deed} (sound : world.Sound setups)
    (faithful : Faithful (setups consumer) worker
      (deedsOf consumer world.history ++ deed.toList))
    (completed : ∀ id answer, .acknowledge id answer ∈ made →
      Completed (setups consumer) id (deedsOf consumer world.history))
    (settles : ∀ id, group.IsSettled id →
      world.group.IsSettled id ∨ ∃ answer, .acknowledge id answer ∈ made) :
    World.Sound setups
      { group
        workers := Function.update world.workers consumer worker
        history := world.history ++ records consumer made deed } := by
  constructor
  · intro other
    dsimp only
    rw [deedsOf_append]
    by_cases same : other = consumer
    · subst same
      rw [Function.update_self, deedsOf_records]
      exact faithful
    · rw [Function.update_of_ne same, deedsOf_other (Ne.symm same), List.append_nil]
      exact sound.faithful other
  · refine sound.earned.append fun who id answer member => ?_
    obtain ⟨rfl, called⟩ := called_mem_records.mp member
    exact completed id answer called
  · intro id settled
    rcases settles id settled with earlier | ⟨answer, called⟩
    · obtain ⟨who, answer, member⟩ := sound.settled id earlier
      exact ⟨who, answer, List.mem_append_left _ member⟩
    · exact ⟨consumer, answer, List.mem_append_right _ (called_mem_records.mpr ⟨rfl, called⟩)⟩

theorem step (sound : world.Sound setups) (step : World.Step setups world after) :
    after.Sound setups := by
  cases step with
  | move consumer move calls serves =>
      refine sound.replace ((sound.faithful consumer).move move) ?_ ?_
      · intro id answer member
        exact (sound.faithful consumer).acknowledges move calls member
      · intro id settled
        exact serves.settled settled
  | crash consumer host sink files cursor =>
      refine sound.replace (Faithful.start host sink files cursor _) ?_ ?_
      · intro id answer member
        cases member
      · intro id settled
        exact Or.inl settled
  | arrive sent =>
      refine ⟨sound.faithful, sound.earned, ?_⟩
      intro id settled
      rcases Group.remove_settled settled with earlier | rfl
      · exact sound.settled id earlier
      · exact ⟨_, _, sent⟩

end World.Sound

theorem World.Reached.sound [DecidableEq ι] {setups : ι → Setup σ τ} {world : World ι σ τ}
    (reached : world.Reached setups) : world.Sound setups := by
  induction reached with
  | start hosts sinks files cursors =>
      refine ⟨fun consumer => Faithful.start _ _ _ _ _, ?_, ?_⟩
      · intro first consumer id answer last same
        cases first <;> cases same
      · rintro id ⟨delivered, _⟩
        cases delivered
  | step reached step ih => exact ih.step step

/-- No acknowledged entry is lost. Whatever coordinators that share a group do, in whatever order,
and whichever of them crash: an acknowledgement is sent only after its sender has completed the
entry, and an entry that was delivered and is no longer pending was acknowledged so. Moreover an
iteration acknowledges one entry if it ends with an entry that was processed, passed over or known,
and none otherwise; and what it has acknowledged is remembered whatever the answer was. -/
theorem acknowledged_completed [DecidableEq ι] (setups : ι → Setup σ τ) :
    (∀ world, World.Reached setups world →
      Earned setups world.history ∧
      ∀ id, world.group.delivered id → ¬ world.group.IsPending id →
        ∃ first consumer answer last,
          world.history = first ++ (consumer, .called (.acknowledge id answer)) :: last ∧
          Completed (setups consumer) id (deedsOf consumer first)) ∧
    ∀ consumer state,
      (∀ result after, (setups consumer).Path ⟨.resting, state⟩ ⟨.ended result, after⟩ →
        Iterates state after result) ∧
      Iterates state ((setups consumer).iterate state).2 ((setups consumer).iterate state).1 ∧
      (∀ delivery, Iterates state ((setups consumer).accept delivery state).2
        ((setups consumer).accept delivery state).1) ∧
      match ((setups consumer).runUnlessCancelled state).1 with
      | some result => Iterates state ((setups consumer).runUnlessCancelled state).2 result
      | none =>
          ((setups consumer).runUnlessCancelled state).2.bench.acknowledged =
              state.bench.acknowledged ∧
            ((setups consumer).runUnlessCancelled state).2.finished = state.finished := by
  constructor
  · intro world reached
    have sound := reached.sound
    refine ⟨sound.earned, ?_⟩
    intro id delivered settled
    obtain ⟨consumer, answer, member⟩ := sound.settled id ⟨delivered, settled⟩
    obtain ⟨first, last, same⟩ := List.append_of_mem member
    exact ⟨first, consumer, answer, last, same, sound.earned first consumer id answer last same⟩
  · intro consumer state
    refine ⟨?_, iterate_iterates _ state, fun delivery => accept_iterates _ delivery state,
      runUnlessCancelled_iterates _ state⟩
    intro result after path
    exact path_iterates path ⟨rfl, rfl⟩ rfl

/-- In a rehearsal an entry that cannot be read is delivered and acknowledged. -/
theorem acknowledged_completed_rehearsed :
    ∃ (world : World Unit Rehearsal.Script (Option String)) (first : List (Unit × Record))
      (consumer : Unit) (answer : Except QueueError Unit) (last : List (Unit × Record)),
      World.Reached (fun _ => Setup.rehearsed) world ∧
      world.history = first ++ (consumer, .called (.acknowledge ⟨1, 0⟩ answer)) :: last ∧
      Completed Setup.rehearsed ⟨1, 0⟩ (deedsOf consumer first) := by
  let delivery : Delivery := { id := ⟨1, 0⟩, body := .unreadable "torn" }
  have started : World.Reached (fun _ : Unit => Setup.rehearsed) _ :=
    .start (fun _ => Rehearsal.Script.start.thenReads [.ok (some delivery)]) (fun _ => none)
      (fun _ => .empty) fun _ => .undelivered
  have claimed := started.step (.move () .step (List.append_nil _).symm (.nil _))
  have read := claimed.step (.move () .step rfl (.cons (.delivered delivery) (.nil _)))
  have received := read.step (.move () .step (List.append_nil _).symm (.nil _))
  have rejected := received.step (.move () .step (List.append_nil _).symm (.nil _))
  have closed := rejected.step (.move () .step rfl (.cons (.acknowledged ⟨1, 0⟩) (.nil _)))
  obtain ⟨first, consumer, answer, last, same, completed⟩ :=
    ((acknowledged_completed fun _ : Unit => Setup.rehearsed).1 _ closed).2 ⟨1, 0⟩ (Or.inl rfl)
      fun pending => by cases pending
  exact ⟨_, first, consumer, answer, last, closed, same, completed⟩

end BuildBench.Coordinator
