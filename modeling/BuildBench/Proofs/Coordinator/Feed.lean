import BuildBench.Proofs.Coordinator.Group
import BuildBench.Proofs.Entry.Order

set_option autoImplicit false

/-! A group of consumers with the id that was delivered last, as the queue keeps it for one consumer
that reads while others read, claim and acknowledge. Main statement: if a consumer asks where the
answers so far have left its cursor, then what it reads has ever greater ids, and before it reads
anything new it has read all that stayed pending for it from the beginning. -/

namespace BuildBench.Run

open BuildBench.Entry

def Event.read? : Event → Option Id
  | .read _ (.ok (some delivery)) => some delivery.id
  | _ => none

/-- The ids that reads have brought, the first one first. -/
def readIds (events : List Event) : List Id :=
  events.filterMap Event.read?

/-- Where a read leaves the cursor. Nothing else moves it, and a failed read does not. -/
def Event.follow (cursor : Cursor) : Event → Cursor
  | .read _ (.ok (some delivery)) => .after delivery.id
  | .read _ (.ok none) => .undelivered
  | _ => cursor

def cursorAfter (cursor : Cursor) (events : List Event) : Cursor :=
  events.foldl Event.follow cursor

/-- Each read asks at the cursor where the reads before have left it. -/
def Asks (cursor : Cursor) : List Event → Prop
  | [] => True
  | event :: rest =>
      (∀ asked answer, event = .read asked answer → asked = cursor) ∧
        Asks (event.follow cursor) rest

def Event.isRead : Event → Bool
  | .read _ _ => true
  | _ => false

theorem readIds_append (events later : List Event) :
    readIds (events ++ later) = readIds events ++ readIds later :=
  List.filterMap_append

theorem cursorAfter_append (cursor : Cursor) (events later : List Event) :
    cursorAfter cursor (events ++ later) = cursorAfter (cursorAfter cursor events) later :=
  List.foldl_append

theorem asks_append (cursor : Cursor) (events later : List Event) :
    Asks cursor (events ++ later) ↔
      Asks cursor events ∧ Asks (cursorAfter cursor events) later := by
  induction events generalizing cursor with
  | nil => simp only [List.nil_append, Asks, true_and, cursorAfter, List.foldl_nil]
  | cons event rest ih =>
      simp only [List.cons_append, Asks, ih, and_assoc, cursorAfter, List.foldl_cons]

/-- What is no read brings nothing and leaves the cursor where it is. -/
theorem unread_events {events : List Event} (none : ∀ event ∈ events, event.isRead = false)
    (cursor : Cursor) :
    readIds events = [] ∧ cursorAfter cursor events = cursor ∧ Asks cursor events := by
  induction events with
  | nil => exact ⟨rfl, rfl, trivial⟩
  | cons event rest ih =>
      obtain ⟨noIds, same, asks⟩ := ih fun event member => none event (List.mem_cons_of_mem _ member)
      have notRead := none event List.mem_cons_self
      have first : event.read? = Option.none ∧ event.follow cursor = cursor ∧
          ∀ asked answer, event ≠ .read asked answer := by
        cases event with
        | read asked answer => cases notRead
        | _ => exact ⟨rfl, rfl, fun _ _ impossible => by cases impossible⟩
      refine ⟨?_, ?_, ?_, ?_⟩
      · unfold readIds at noIds ⊢
        rw [List.filterMap_cons_none first.1, noIds]
      · unfold cursorAfter at same ⊢
        rw [List.foldl_cons, first.2.1, same]
      · intro asked answer isRead
        exact absurd isRead (first.2.2 asked answer)
      · rw [first.2.1]
        exact asks

end BuildBench.Run

namespace BuildBench.Coordinator

open BuildBench.Entry BuildBench.Run

variable {ι : Type}

/-! ### The queue -/

/-- Whatever is pending was delivered, so that it does not lie beyond what was delivered last. -/
structure Feed (ι : Type) where
  group : Group ι
  last : Id
  pendingBelow : ∀ id, group.IsPending id → id ≤ last

namespace Feed

def Holds (feed : Feed ι) (consumer : ι) (id : Id) : Prop :=
  feed.group.owner id = some consumer

theorem Holds.pending {feed : Feed ι} {consumer : ι} {id : Id} (holds : feed.Holds consumer id) :
    feed.group.IsPending id := by
  unfold Holds at holds
  unfold Group.IsPending
  rw [holds]
  rfl

def deliver (feed : Feed ι) (consumer : ι) (id : Id) (later : feed.last < id) : Feed ι where
  group := feed.group.deliver consumer id
  last := id
  pendingBelow := by
    intro other pending
    rw [Id.le_iff_rank]
    by_cases same : other = id
    · exact Nat.le_of_eq (congrArg Id.rank same)
    · have earlier : feed.group.IsPending other := by
        unfold Group.IsPending Group.deliver Group.assign at pending
        dsimp only at pending
        rw [if_neg same] at pending
        exact pending
      have below := feed.pendingBelow other earlier
      rw [Id.le_iff_rank] at below
      rw [Id.lt_iff_rank] at later
      omega

def assign (feed : Feed ι) (consumer : ι) (id : Id) (pending : feed.group.IsPending id) :
    Feed ι where
  group := feed.group.assign consumer id
  last := feed.last
  pendingBelow := by
    intro other isPending
    by_cases same : other = id
    · rw [same]
      exact feed.pendingBelow id pending
    · unfold Group.IsPending Group.assign at isPending
      dsimp only at isPending
      rw [if_neg same] at isPending
      exact feed.pendingBelow other isPending

def remove (feed : Feed ι) (id : Id) : Feed ι where
  group := feed.group.remove id
  last := feed.last
  pendingBelow := by
    intro other isPending
    unfold Group.IsPending Group.remove at isPending
    dsimp only at isPending
    split at isPending
    · cases isPending
    · exact feed.pendingBelow other isPending

/-- What a call of a consumer does, and which answers the queue may give. A read of what was never
delivered brings an id beyond all that was; which one of those comes next makes no difference here.
A read of the history brings the least id that is pending for the consumer beyond its cursor. Calls
that fail may have reached the queue. -/
inductive Answers (consumer : ι) (feed : Feed ι) : Event → Feed ι → Prop
  | delivered (delivery : Delivery) (later : feed.last < delivery.id) :
      Answers consumer feed (.read .undelivered (.ok (some delivery)))
        (feed.deliver consumer delivery.id later)
  | nothing : Answers consumer feed (.read .undelivered (.ok none)) feed
  | unread (error : QueueError) : Answers consumer feed (.read .undelivered (.error error)) feed
  | unheard (error : QueueError) (id : Id) (later : feed.last < id) :
      Answers consumer feed (.read .undelivered (.error error)) (feed.deliver consumer id later)
  | replayed (position : Id) (delivery : Delivery) (holds : feed.Holds consumer delivery.id)
      (beyond : position < delivery.id)
      (least : ∀ id, feed.Holds consumer id → position < id → delivery.id ≤ id) :
      Answers consumer feed (.read (.after position) (.ok (some delivery))) feed
  | exhausted (position : Id) (passed : ∀ id, feed.Holds consumer id → id ≤ position) :
      Answers consumer feed (.read (.after position) (.ok none)) feed
  | unreplayed (position : Id) (error : QueueError) :
      Answers consumer feed (.read (.after position) (.error error)) feed
  | claimed (idle : Time.Duration) (delivery : Delivery)
      (pending : feed.group.IsPending delivery.id) :
      Answers consumer feed (.takeOver idle (.ok (some delivery)))
        (feed.assign consumer delivery.id pending)
  | nothingIdle (idle : Time.Duration) :
      Answers consumer feed (.takeOver idle (.ok none)) feed
  | unclaimed (idle : Time.Duration) (error : QueueError) :
      Answers consumer feed (.takeOver idle (.error error)) feed
  | unheardClaim (idle : Time.Duration) (error : QueueError) (id : Id)
      (pending : feed.group.IsPending id) :
      Answers consumer feed (.takeOver idle (.error error)) (feed.assign consumer id pending)
  | acknowledged (id : Id) : Answers consumer feed (.acknowledge id (.ok ())) (feed.remove id)
  | unacknowledged (id : Id) (error : QueueError) :
      Answers consumer feed (.acknowledge id (.error error)) feed
  | unheardAcknowledgement (id : Id) (error : QueueError) :
      Answers consumer feed (.acknowledge id (.error error)) (feed.remove id)
  | beside {event : Event} (other : event.isRequest = false) : Answers consumer feed event feed

inductive Serves (consumer : ι) : List Event → Feed ι → Feed ι → Prop
  | nil (feed : Feed ι) : Serves consumer [] feed feed
  | cons {event : Event} {rest : List Event} {feed middle after : Feed ι}
      (answers : feed.Answers consumer event middle) (serves : Serves consumer rest middle after) :
      Serves consumer (event :: rest) feed after

/-- What others may do to the queue: read, claim, also from the consumer, and acknowledge. -/
inductive Meddles (consumer : ι) (feed : Feed ι) : Feed ι → Prop
  | nothing : Meddles consumer feed feed
  | read {other : ι} (different : other ≠ consumer) (id : Id) (later : feed.last < id) :
      Meddles consumer feed (feed.deliver other id later)
  | claim {other : ι} (different : other ≠ consumer) (id : Id)
      (pending : feed.group.IsPending id) : Meddles consumer feed (feed.assign other id pending)
  | acknowledge (id : Id) : Meddles consumer feed (feed.remove id)

variable {consumer : ι} {feed after : Feed ι}

theorem Serves.append {events later : List Event}
    (serves : Serves consumer (events ++ later) feed after) :
    ∃ middle, Serves consumer events feed middle ∧ Serves consumer later middle after := by
  induction events generalizing feed with
  | nil => exact ⟨feed, .nil feed, serves⟩
  | cons event rest ih =>
      cases serves with
      | cons answers serves =>
          obtain ⟨middle, first, second⟩ := ih serves
          exact ⟨middle, .cons answers first, second⟩

theorem Serves.single {event : Event} (serves : Serves consumer [event] feed after) :
    feed.Answers consumer event after := by
  cases serves with
  | cons answers serves =>
      cases serves
      exact answers

theorem Meddles.last_le (meddles : feed.Meddles consumer after) :
    feed.last.rank ≤ after.last.rank := by
  cases meddles with
  | read different id later => exact Nat.le_of_lt ((Id.lt_iff_rank _ _).mp later)
  | _ => exact Nat.le_refl _

theorem Serves.last_eq {events : List Event} (serves : Serves consumer events feed after)
    (none : ∀ event ∈ events, event.isRead = false) : after.last = feed.last := by
  induction serves with
  | nil feed => rfl
  | cons answers serves ih =>
      rw [ih fun event member => none event (List.mem_cons_of_mem _ member)]
      have notRead := none _ List.mem_cons_self
      cases answers with
      | claimed idle delivery pending => rfl
      | nothingIdle idle => rfl
      | unclaimed idle error => rfl
      | unheardClaim idle error id pending => rfl
      | acknowledged id => rfl
      | unacknowledged id error => rfl
      | unheardAcknowledgement id error => rfl
      | beside other => rfl
      | _ => cases notRead

end Feed

/-! ### Reading in order -/

/-- What is known when the consumer has made certain calls since it began at a cursor. The feeds
before the present one come latest first. -/
structure InOrder (consumer : ι) (begin : Cursor) (past : List (Feed ι)) (feed : Feed ι)
    (calls : List Event) : Prop where
  asks : Asks begin calls
  increasing : (readIds calls).Pairwise (· < ·)
  below : ∀ id ∈ readIds calls, id ≤ feed.last
  behind : ∀ position, cursorAfter begin calls = .after position →
    ∀ id ∈ readIds calls, id ≤ position
  /-- What stayed pending beyond the start was read, as far as the cursor has come. -/
  replayed : ∀ start, begin = .after start →
    (∀ answer, .read .undelivered answer ∉ calls) →
    ∀ id, start < id → (∀ former ∈ feed :: past, former.Holds consumer id) →
    (∀ position, cursorAfter begin calls = .after position → id ≤ position) →
    id ∈ readIds calls

namespace InOrder

variable {consumer : ι} {begin : Cursor} {past : List (Feed ι)} {feed after : Feed ι}
  {calls made : List Event}

theorem start (feed : Feed ι) (begin : Cursor) (past : List (Feed ι)) :
    InOrder consumer begin past feed [] where
  asks := trivial
  increasing := List.Pairwise.nil
  below := by intro id member; cases member
  behind := by intro position _ id member; cases member
  replayed := by
    rintro start rfl _ id beyond _ reached
    have within := reached start rfl
    rw [Id.lt_iff_rank] at beyond
    rw [Id.le_iff_rank] at within
    omega

/-- As long as nothing is read, the group may only move on. -/
theorem still (order : InOrder consumer begin past feed calls)
    (none : ∀ event ∈ made, event.isRead = false) (moved : feed.last.rank ≤ after.last.rank) :
    InOrder consumer begin (feed :: past) after (calls ++ made) := by
  obtain ⟨noIds, same, asks⟩ := unread_events none (cursorAfter begin calls)
  have ids : readIds (calls ++ made) = readIds calls := by
    rw [readIds_append, noIds, List.append_nil]
  have cursor : cursorAfter begin (calls ++ made) = cursorAfter begin calls := by
    rw [cursorAfter_append, same]
  constructor
  · exact (asks_append _ _ _).mpr ⟨order.asks, asks⟩
  · rw [ids]
    exact order.increasing
  · rw [ids]
    intro id member
    have below := order.below id member
    rw [Id.le_iff_rank] at below ⊢
    omega
  · rw [ids, cursor]
    exact order.behind
  · rw [ids, cursor]
    intro start begins notNew id beyond held
    refine order.replayed start begins ?_ id beyond ?_
    · intro answer member
      exact notNew answer (List.mem_append_left _ member)
    · intro former member
      exact held former (List.mem_cons_of_mem _ member)

/-- A read brings a delivery that lies beyond all that was read. -/
theorem brings (order : InOrder consumer begin past feed calls) {delivery : Delivery}
    (beyond : ∀ id ∈ readIds calls, id.rank < delivery.id.rank)
    (within : delivery.id.rank ≤ after.last.rank) (moved : feed.last.rank ≤ after.last.rank)
    (replays : ∀ start, begin = .after start → cursorAfter begin calls ≠ .undelivered →
      (∀ answer, .read .undelivered answer ∉ calls) →
      ∀ id, start < id → (∀ former ∈ feed :: past, former.Holds consumer id) →
      id ≤ delivery.id → id ∈ readIds calls ∨ id = delivery.id) :
    InOrder consumer begin (feed :: past) after
      (calls ++ [.read (cursorAfter begin calls) (.ok (some delivery))]) := by
  have ids : readIds (calls ++ [.read (cursorAfter begin calls) (.ok (some delivery))]) =
      readIds calls ++ [delivery.id] := readIds_append _ _
  have cursor : cursorAfter begin
      (calls ++ [.read (cursorAfter begin calls) (.ok (some delivery))]) =
        .after delivery.id := cursorAfter_append _ _ _
  constructor
  · refine (asks_append _ _ _).mpr ⟨order.asks, ?_, trivial⟩
    intro asked answer same
    cases same
    rfl
  · rw [ids, List.pairwise_append]
    refine ⟨order.increasing, List.pairwise_singleton _ _, ?_⟩
    intro id member new isNew
    rw [List.mem_singleton.mp isNew, Id.lt_iff_rank]
    exact beyond id member
  · rw [ids]
    intro id member
    rw [Id.le_iff_rank]
    rcases List.mem_append.mp member with earlier | new
    · have below := order.below id earlier
      rw [Id.le_iff_rank] at below
      omega
    · rw [List.mem_singleton.mp new]
      exact within
  · rw [ids, cursor]
    intro position same id member
    cases same
    rw [Id.le_iff_rank]
    rcases List.mem_append.mp member with earlier | new
    · exact Nat.le_of_lt (beyond id earlier)
    · exact Nat.le_of_eq (congrArg Id.rank (List.mem_singleton.mp new))
  · rw [ids, cursor]
    intro start begins notNew id beyondStart held reached
    rw [List.mem_append, List.mem_singleton]
    refine replays start begins ?_ ?_ id beyondStart ?_ (reached delivery.id rfl)
    · intro isNew
      refine notNew (.ok (some delivery)) (List.mem_append_right _ ?_)
      rw [isNew]
      exact List.mem_singleton.mpr rfl
    · intro answer member
      exact notNew answer (List.mem_append_left _ member)
    · intro former member
      exact held former (List.mem_cons_of_mem _ member)

/-- A read that fails or finds nothing brings nothing. -/
theorem bringsNothing (order : InOrder consumer begin past feed calls)
    {answer : Except QueueError (Option Delivery)} (empty : ∀ delivery, answer ≠ .ok (some delivery))
    (moved : feed.last.rank ≤ after.last.rank)
    (passed : ∀ position, cursorAfter begin calls = .after position → answer = .ok none →
      ∀ id, feed.Holds consumer id → id ≤ position) :
    InOrder consumer begin (feed :: past) after
      (calls ++ [.read (cursorAfter begin calls) answer]) := by
  have ids : readIds (calls ++ [.read (cursorAfter begin calls) answer]) = readIds calls := by
    rw [readIds_append]
    cases answer with
    | error error => exact List.append_nil _
    | ok delivery =>
        cases delivery with
        | none => exact List.append_nil _
        | some delivery => exact absurd rfl (empty delivery)
  have cursor : cursorAfter begin (calls ++ [.read (cursorAfter begin calls) answer]) =
      if answer = .ok none then .undelivered else cursorAfter begin calls := by
    rw [cursorAfter_append]
    cases answer with
    | error error => rfl
    | ok delivery =>
        cases delivery with
        | none => rfl
        | some delivery => exact absurd rfl (empty delivery)
  constructor
  · refine (asks_append _ _ _).mpr ⟨order.asks, ?_, trivial⟩
    intro asked other same
    cases same
    rfl
  · rw [ids]
    exact order.increasing
  · rw [ids]
    intro id member
    have below := order.below id member
    rw [Id.le_iff_rank] at below ⊢
    omega
  · rw [ids, cursor]
    intro position same
    split at same
    · cases same
    · exact order.behind position same
  · rw [ids, cursor]
    intro start begins notNew id beyondStart held reached
    have holds : feed.Holds consumer id := held feed (List.mem_cons_of_mem _ List.mem_cons_self)
    refine order.replayed start begins ?_ id beyondStart ?_ ?_
    · intro other member
      exact notNew other (List.mem_append_left _ member)
    · intro former member
      exact held former (List.mem_cons_of_mem _ member)
    · intro position same
      -- A queue that has nothing more beyond the cursor leaves no pending id there.
      by_cases exhausted : answer = .ok none
      · exact passed position same exhausted id holds
      · rw [if_neg exhausted] at reached
        exact reached position same

theorem fails (order : InOrder consumer begin past feed calls) (error : QueueError)
    (moved : feed.last.rank ≤ after.last.rank) :
    InOrder consumer begin (feed :: past) after
      (calls ++ [.read (cursorAfter begin calls) (.error error)]) := by
  refine order.bringsNothing ?_ moved ?_
  · intro delivery same
    cases same
  · intro position _ same
    cases same

theorem findsNothing (order : InOrder consumer begin past feed calls)
    (passed : ∀ position, cursorAfter begin calls = .after position →
      ∀ id, feed.Holds consumer id → id ≤ position) :
    InOrder consumer begin (feed :: past) feed
      (calls ++ [.read (cursorAfter begin calls) (.ok none)]) := by
  refine order.bringsNothing ?_ (Nat.le_refl _) ?_
  · intro delivery same
    cases same
  · intro position same _
    exact passed position same

/-- A read asks where the cursor is, and the queue answers as it must. -/
theorem read (order : InOrder consumer begin past feed calls)
    {answer : Except QueueError (Option Delivery)}
    (answers : feed.Answers consumer (.read (cursorAfter begin calls) answer) after) :
    InOrder consumer begin (feed :: past) after
      (calls ++ [.read (cursorAfter begin calls) answer]) := by
  have readBelow (id : Id) (member : id ∈ readIds calls) : id.rank ≤ feed.last.rank :=
    (Id.le_iff_rank _ _).mp (order.below id member)
  cases asked : cursorAfter begin calls with
  | undelivered =>
      rw [asked] at answers
      rw [← asked]
      cases answers with
      | delivered delivery later =>
          rw [Id.lt_iff_rank] at later
          refine order.brings ?_ (Nat.le_refl _) (Nat.le_of_lt later) ?_
          · intro id member
            have below := readBelow id member
            omega
          · intro start begins notNew
            exact absurd asked notNew
      | nothing =>
          refine order.findsNothing ?_
          intro position same
          rw [asked] at same
          cases same
      | unread error => exact order.fails error (Nat.le_refl _)
      | unheard error id later =>
          exact order.fails error (Nat.le_of_lt ((Id.lt_iff_rank _ _).mp later))
      | beside other => cases other
  | after position =>
      rw [asked] at answers
      rw [← asked]
      cases answers with
      | replayed _ delivery holds beyond least =>
          have notBeyond := (Id.le_iff_rank _ _).mp (feed.pendingBelow _ holds.pending)
          rw [Id.lt_iff_rank] at beyond
          refine order.brings ?_ notBeyond (Nat.le_refl _) ?_
          · intro id member
            have behind := (Id.le_iff_rank _ _).mp (order.behind position asked id member)
            omega
          · intro start begins _ notNew id beyondStart held within
            -- The id was passed before, or it is the least one beyond the cursor.
            by_cases passed : id ≤ position
            · refine Or.inl (order.replayed start begins notNew id beyondStart held ?_)
              intro other same
              rw [asked] at same
              cases same
              exact passed
            · rw [Id.le_iff_rank] at passed within
              have ahead : position < id := (Id.lt_iff_rank _ _).mpr (by omega)
              have leastId := (Id.le_iff_rank _ _).mp
                (least id (held feed List.mem_cons_self) ahead)
              exact Or.inr (Id.rank_injective (by omega))
      | exhausted _ passed =>
          refine order.findsNothing ?_
          intro other same
          rw [asked] at same
          cases same
          exact passed
      | unreplayed _ error => exact order.fails error (Nat.le_refl _)
      | beside other => cases other

end InOrder

end BuildBench.Coordinator
