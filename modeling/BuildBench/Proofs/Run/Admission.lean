import BuildBench.Proofs.Cpu.Ledger
import BuildBench.Proofs.Run.Calls

set_option autoImplicit false

/-! Which slices a ledger admits, whatever was booked before. Main statement: after any bookings the
reservations lie in the pool and apart from each other, so that what is available is exactly the
rest of the pool; and a slice is admitted if and only if it lies in the pool and no reservation has
one of its indices. A refusal names its cause and changes nothing. -/

namespace BuildBench.Cpu

/-! ### Ledgers -/

theorem removeBySwap_concat {slice : Slice} {live : List Slice} (fresh : slice ∉ live) :
    removeBySwap slice (live ++ [slice]) = live := by
  have found : (live ++ [slice]).idxOf? slice = some live.length := by
    rw [List.idxOf?_eq_some_iff]
    refine ⟨by simp, by simp, ?_⟩
    intro index before
    rw [List.getElem_append_left before]
    intro same
    exact fresh (same ▸ List.getElem_mem before)
  simp [removeBySwap, found]

namespace Ledger

/-- Every reservation has an index, which no other one has, and lies in the pool. -/
structure Sound (ledger : Ledger) : Prop extends ledger.Exclusive where
  filled : ∀ slice ∈ ledger.live, slice.start < slice.stop

theorem ofPool_sound (pool : Nat) : (ofPool pool).Sound where
  toExclusive := ofPool_exclusive pool
  filled := by intro slice member; cases member

theorem Sound.reserve {ledger after : Ledger} {slice : Slice} (sound : ledger.Sound)
    (filled : slice.start < slice.stop) (reserved : ledger.reserve slice = .ok after) :
    after.Sound := by
  refine ⟨sound.toExclusive.reserve reserved, ?_⟩
  obtain ⟨-, -, rfl⟩ := reserve_eq_ok reserved
  intro live member
  rcases List.mem_append.mp member with earlier | isSlice
  · exact sound.filled live earlier
  · rw [List.mem_singleton.mp isSlice]
    exact filled

theorem Sound.release {ledger : Ledger} (sound : ledger.Sound) (slice : Slice) :
    (ledger.release slice).Sound := by
  refine ⟨sound.toExclusive.release slice, ?_⟩
  intro live member
  have fewer := removeBySwap_perm slice ledger.live
  exact sound.filled live (List.mem_of_mem_erase (fewer.mem_iff.mp member))

theorem Sound.nodup {ledger : Ledger} (sound : ledger.Sound) : ledger.live.Nodup := by
  refine sound.apart.imp_of_mem ?_
  rintro slice _ member - apart rfl
  have start : slice.start ∈ slice.indices :=
    (slice.mem_indices _).mpr ⟨Nat.le_refl _, sound.filled slice member⟩
  exact apart start start

/-- Not even a part of the reservations is longer than the pool. -/
theorem Exclusive.totalLength_take_le {ledger : Ledger} (exclusive : ledger.Exclusive)
    (count : Nat) : Slice.totalLength (ledger.live.take count) ≤ ledger.pool := by
  refine Slice.totalLength_le _ _ (exclusive.apart.sublist (List.take_sublist _ _)) ?_
  intro slice member
  exact exclusive.inside slice (List.mem_of_mem_take member)

/-- A slice exceeds the pool, or it shares an index with a reservation, or it is reserved. -/
theorem Sound.reserve_cases {ledger : Ledger} (sound : ledger.Sound) {slice : Slice}
    (filled : slice.start < slice.stop) :
    (ledger.pool < slice.stop ∧
      ledger.reserve slice = .error (.exceedsPool slice ledger.pool)) ∨
    (slice.stop ≤ ledger.pool ∧ ∃ live ∈ ledger.live,
      (∃ index, index ∈ slice.indices ∧ index ∈ live.indices) ∧
      ledger.reserve slice = .error (.overlap slice live)) ∨
    (slice.stop ≤ ledger.pool ∧ (∀ live ∈ ledger.live, slice.indices.Disjoint live.indices) ∧
      ledger.reserve slice = .ok { ledger with live := ledger.live ++ [slice] }) := by
  by_cases exceeds : ledger.pool < slice.stop
  · exact Or.inl ⟨exceeds, if_pos exceeds⟩
  · have fits : slice.stop ≤ ledger.pool := Nat.le_of_not_lt exceeds
    refine Or.inr ?_
    cases reserved : ledger.reserve slice with
    | ok after =>
        obtain ⟨-, clear, rfl⟩ := reserve_eq_ok reserved
        refine Or.inr ⟨fits, ?_, rfl⟩
        intro live member
        exact List.disjoint_symm (live.disjoint_of_not_overlaps slice (clear live member))
    | error error =>
        rcases reserve_eq_error reserved with ⟨beyond, -⟩ | ⟨live, member, overlaps, rfl⟩
        · exact absurd beyond exceeds
        · obtain ⟨index, inLive, inSlice⟩ :=
            (Slice.overlaps_iff (sound.filled live member) filled).mp overlaps
          exact Or.inl ⟨fits, live, member, ⟨index, inSlice, inLive⟩, rfl⟩

end Ledger

end BuildBench.Cpu

namespace BuildBench.Run

open BuildBench.Files

variable {σ τ : Type}

/-! ### Bookings -/

/-- Something that is done to the ledger of a bench. -/
inductive Booking
  | reserve (slice : Cpu.Slice)
  | release (slice : Cpu.Slice)
  | defer (handle : Sandbox.Handle) (slices : List Cpu.Slice)
  | takeStops
  deriving DecidableEq, Repr

def Booking.book : Booking → Action σ τ Unit
  | .reserve slice => do
      let _ ← Action.reserve slice
  | .release slice => Action.releaseAll [slice]
  | .defer handle slices => Action.defer handle slices
  | .takeStops => do
      let _ ← Action.takeStops

/-- Bookings one after the other. A refused one does not keep the next ones from being made. -/
def bookAll : List Booking → Action σ τ Unit
  | [] => return ()
  | booking :: rest => do
      booking.book
      bookAll rest

theorem Booking.book_pool (booking : Booking) (bench : Bench σ τ) :
    (booking.book bench).2.ledger.pool = bench.ledger.pool := by
  cases booking with
  | reserve slice =>
      rw [book, Action.bind_apply]
      cases reserved : bench.ledger.reserve slice with
      | error error => rw [Action.reserve_error reserved]; rfl
      | ok ledger =>
          obtain ⟨-, -, rfl⟩ := Cpu.Ledger.reserve_eq_ok reserved
          rw [Action.reserve_ok reserved]
          rfl
  | release slice => rfl
  | defer handle slices => rfl
  | takeStops => rfl

theorem Booking.book_sound {bench : Bench σ τ} (sound : bench.ledger.Sound) (booking : Booking)
    (filled : ∀ slice, booking = .reserve slice → slice.start < slice.stop) :
    (booking.book bench).2.ledger.Sound := by
  cases booking with
  | reserve slice =>
      rw [book, Action.bind_apply]
      cases reserved : bench.ledger.reserve slice with
      | error error =>
          rw [Action.reserve_error reserved]
          exact sound
      | ok ledger =>
          rw [Action.reserve_ok reserved]
          exact sound.reserve (filled slice rfl) reserved
  | release slice => exact sound.release slice
  | defer handle slices => exact ⟨⟨sound.apart, sound.inside⟩, sound.filled⟩
  | takeStops => exact ⟨⟨sound.apart, sound.inside⟩, sound.filled⟩

theorem bookAll_pool (bookings : List Booking) (bench : Bench σ τ) :
    (bookAll bookings bench).2.ledger.pool = bench.ledger.pool := by
  induction bookings generalizing bench with
  | nil => rfl
  | cons booking rest ih =>
      rw [bookAll, Action.bind_apply, ih]
      exact booking.book_pool bench

theorem bookAll_sound {bench : Bench σ τ} (sound : bench.ledger.Sound) (bookings : List Booking)
    (filled : ∀ slice, .reserve slice ∈ bookings → slice.start < slice.stop) :
    (bookAll bookings bench).2.ledger.Sound := by
  induction bookings generalizing bench with
  | nil => exact sound
  | cons booking rest ih =>
      rw [bookAll, Action.bind_apply]
      refine ih (Booking.book_sound sound booking ?_) ?_
      · rintro slice rfl
        exact filled slice List.mem_cons_self
      · intro slice member
        exact filled slice (List.mem_cons_of_mem _ member)

/-! ### Main result -/

/-- The reservations in a pool of so many CPUs lie in the pool and apart from each other, so that
what is available can be counted by taking their lengths off. -/
structure KeepsApart (cpus : Nat) (ledger : Cpu.Ledger) : Prop where
  inside : ∀ slice ∈ ledger.live, slice.start < slice.stop ∧ slice.stop ≤ cpus
  apart : ledger.live.Pairwise fun left right => left.indices.Disjoint right.indices
  once : ledger.live.Nodup
  counted : ∀ count, Cpu.Slice.totalLength (ledger.live.take count) ≤ cpus
  available : ledger.available + Cpu.Slice.totalLength ledger.live = cpus

/-- Why a slice is refused: that it exceeds the pool comes first, and a reservation that is named
shares an index with it. -/
def Refuses (cpus : Nat) (ledger : Cpu.Ledger) (slice : Cpu.Slice) (error : Cpu.Error) : Prop :=
  (cpus < slice.stop ∧ error = .exceedsPool slice cpus) ∨
    (slice.stop ≤ cpus ∧ ∃ live ∈ ledger.live,
      (∃ index, index ∈ slice.indices ∧ index ∈ live.indices) ∧ error = .overlap slice live)

/-- What reserving a slice on a bench comes to. -/
structure Admits (cpus : Nat) (bench : Bench σ τ) (slice : Cpu.Slice) : Prop where
  granted : (Action.reserve slice bench).1 = .ok () ↔
    slice.stop ≤ cpus ∧ ∀ live ∈ bench.ledger.live, slice.indices.Disjoint live.indices
  reserved : (Action.reserve slice bench).1 = .ok () →
    (Action.reserve slice bench).2.ledger.live = bench.ledger.live ++ [slice]
  /-- To give a slice back right away leaves no trace, not even in the order of the others. -/
  undone : (Action.reserve slice bench).1 = .ok () →
    (Action.releaseAll [slice] (Action.reserve slice bench).2).2.ledger = bench.ledger
  refused : ∀ error, (Action.reserve slice bench).1 = .error error →
    Refuses cpus bench.ledger slice error ∧ (Action.reserve slice bench).2 = bench

theorem keepsApart_of_sound {ledger : Cpu.Ledger} (sound : ledger.Sound) :
    KeepsApart ledger.pool ledger where
  inside := by
    intro slice member
    exact ⟨sound.filled slice member, sound.inside slice member⟩
  apart := sound.apart
  once := sound.nodup
  counted := sound.totalLength_take_le
  available := sound.available_add

theorem admits_of_refused {bench : Bench σ τ} {slice : Cpu.Slice} {error : Cpu.Error}
    (refusal : bench.ledger.reserve slice = .error error)
    (cause : Refuses bench.ledger.pool bench.ledger slice error) :
    Admits bench.ledger.pool bench slice := by
  have answer := Action.reserve_error refusal
  constructor <;> rw [answer]
  · constructor
    · intro granted
      cases granted
    · rintro ⟨fits, clear⟩
      rcases cause with ⟨exceeds, -⟩ | ⟨-, live, member, ⟨index, inSlice, inLive⟩, -⟩
      · omega
      · exact absurd inLive (clear live member inSlice)
  · intro granted
    cases granted
  · intro granted
    cases granted
  · intro other same
    cases same
    exact ⟨cause, rfl⟩

theorem admits_of_granted {bench : Bench σ τ} {slice : Cpu.Slice}
    (granted : bench.ledger.reserve slice =
      .ok { bench.ledger with live := bench.ledger.live ++ [slice] })
    (filled : slice.start < slice.stop) (fits : slice.stop ≤ bench.ledger.pool)
    (clear : ∀ live ∈ bench.ledger.live, slice.indices.Disjoint live.indices) :
    Admits bench.ledger.pool bench slice := by
  have answer := Action.reserve_ok granted
  have fresh : slice ∉ bench.ledger.live := by
    intro member
    have start : slice.start ∈ slice.indices :=
      (slice.mem_indices _).mpr ⟨Nat.le_refl _, filled⟩
    exact clear slice member start start
  constructor <;> rw [answer]
  · exact ⟨fun _ => ⟨fits, clear⟩, fun _ => rfl⟩
  · intro _
    rfl
  · intro _
    change Cpu.Ledger.mk _ (Cpu.removeBySwap slice (bench.ledger.live ++ [slice])) _ = _
    rw [Cpu.removeBySwap_concat fresh]
  · intro error same
    cases same

theorem admits_of_sound {bench : Bench σ τ} (sound : bench.ledger.Sound) {slice : Cpu.Slice}
    (filled : slice.start < slice.stop) : Admits bench.ledger.pool bench slice := by
  rcases sound.reserve_cases filled with
    ⟨exceeds, refusal⟩ | ⟨fits, live, member, shared, refusal⟩ | ⟨fits, clear, granted⟩
  · exact admits_of_refused refusal (Or.inl ⟨exceeds, rfl⟩)
  · exact admits_of_refused refusal (Or.inr ⟨fits, live, member, shared, rfl⟩)
  · exact admits_of_granted granted filled fits clear

/-- Whatever is booked on a new ledger, as long as what is reserved has indices, the reservations
stay apart, and the next slice is admitted if and only if it keeps them so. -/
theorem bookings_keep_apart (host : σ) (sink : τ) (files : Tree) (cpus : Nat)
    (bookings : List Booking)
    (filled : ∀ slice, .reserve slice ∈ bookings → slice.start < slice.stop) :
    KeepsApart cpus (bookAll bookings (Bench.start host sink files cpus)).2.ledger ∧
      ∀ slice : Cpu.Slice, slice.start < slice.stop →
        Admits cpus (bookAll bookings (Bench.start host sink files cpus)).2 slice := by
  have pool : (bookAll bookings (Bench.start host sink files cpus)).2.ledger.pool = cpus :=
    bookAll_pool bookings _
  have sound : (bookAll bookings (Bench.start host sink files cpus)).2.ledger.Sound :=
    bookAll_sound (Cpu.Ledger.ofPool_sound cpus) bookings filled
  constructor
  · have kept := keepsApart_of_sound sound
    rwa [pool] at kept
  · intro slice sliceFilled
    have admits := admits_of_sound sound sliceFilled
    rwa [pool] at admits

/-- The second booking is refused, the fifth releases what is not reserved, and the last one puts
reservations into another order. -/
def bookingsRehearsed : List Booking :=
  [.reserve { start := 0, stop := 2 }, .reserve { start := 1, stop := 3 },
    .reserve { start := 2, stop := 4 }, .reserve { start := 4, stop := 6 },
    .release { start := 6, stop := 8 }, .defer .completed [{ start := 2, stop := 4 }],
    .takeStops, .release { start := 0, stop := 2 }]

theorem bookings_keep_apart_rehearsed :
    (∀ slice, .reserve slice ∈ bookingsRehearsed → slice.start < slice.stop) ∧
      KeepsApart 6 (bookAll bookingsRehearsed (Bench.start () () .empty 6)).2.ledger ∧
      Admits 6 (bookAll bookingsRehearsed (Bench.start () () .empty 6)).2
        { start := 0, stop := 1 } := by
  have filled : ∀ slice, .reserve slice ∈ bookingsRehearsed → slice.start < slice.stop := by
    intro slice member
    simp only [bookingsRehearsed, List.mem_cons, Booking.reserve.injEq, reduceCtorEq,
      List.not_mem_nil, or_false] at member
    rcases member with rfl | rfl | rfl | rfl <;> decide
  have kept := bookings_keep_apart () () .empty 6 bookingsRehearsed filled
  exact ⟨filled, kept.1, kept.2 _ (by decide)⟩

end BuildBench.Run
