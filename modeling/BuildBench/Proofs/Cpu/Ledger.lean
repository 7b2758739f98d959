import BuildBench.Cpu.Ledger
import Mathlib.Data.List.Nodup
import Mathlib.Data.List.Perm.Basic
import Mathlib.Data.List.Perm.Subperm

set_option autoImplicit false

/-! The accounts of a CPU ledger. At any time its reservations are the slices that deferred stops
hold, together with those that a run has in hand. Reservations have no index in common and lie in
the pool, so that what is available and what is reserved add up to the pool. -/

namespace BuildBench.Cpu

open BuildBench.Sandbox (Handle)

/-! ### Slices -/

theorem Slice.mem_indices (slice : Slice) (index : Nat) :
    index ∈ slice.indices ↔ slice.start ≤ index ∧ index < slice.stop := by
  have ordered := slice.ordered
  simp only [Slice.indices, Slice.length, List.mem_range'_1]
  omega

theorem Slice.disjoint_of_not_overlaps (left right : Slice)
    (separate : left.overlaps right = false) :
    left.indices.Disjoint right.indices := by
  intro index inLeft inRight
  rw [Slice.mem_indices] at inLeft inRight
  simp only [Slice.overlaps, Bool.and_eq_false_iff, decide_eq_false_iff_not] at separate
  omega

/-- For slices that have indices, to compare their bounds is to ask whether they share one. -/
theorem Slice.overlaps_iff {left right : Slice} (leftFilled : left.start < left.stop)
    (rightFilled : right.start < right.stop) :
    left.overlaps right = true ↔ ∃ index, index ∈ left.indices ∧ index ∈ right.indices := by
  simp only [Slice.mem_indices, Slice.overlaps, Bool.and_eq_true, decide_eq_true_eq]
  constructor
  · rintro ⟨leftFirst, rightFirst⟩
    exact ⟨max left.start right.start, by omega, by omega⟩
  · rintro ⟨index, inLeft, inRight⟩
    omega

theorem Slice.totalLength_eq_length_flatMap (slices : List Slice) :
    Slice.totalLength slices = (slices.flatMap Slice.indices).length := by
  induction slices with
  | nil => rfl
  | cons slice rest ih =>
      simp only [Slice.totalLength, List.flatMap_cons, List.length_append, ih, Slice.indices,
        List.length_range']

theorem Slice.totalLength_append (slices others : List Slice) :
    Slice.totalLength (slices ++ others) =
      Slice.totalLength slices + Slice.totalLength others := by
  induction slices with
  | nil => exact (Nat.zero_add _).symm
  | cons slice rest ih =>
      rw [List.cons_append, Slice.totalLength, ih, Slice.totalLength, Nat.add_assoc]

theorem Slice.totalLength_perm {left right : List Slice} (same : left.Perm right) :
    Slice.totalLength left = Slice.totalLength right := by
  rw [Slice.totalLength_eq_length_flatMap, Slice.totalLength_eq_length_flatMap]
  exact (same.flatMap_right Slice.indices).length_eq

/-- Slices in a pool that have no index in common are no longer than the pool. -/
theorem Slice.totalLength_le (slices : List Slice) (pool : Nat)
    (apart : slices.Pairwise fun left right => left.indices.Disjoint right.indices)
    (inside : ∀ slice ∈ slices, slice.stop ≤ pool) :
    Slice.totalLength slices ≤ pool := by
  have distinct : (slices.flatMap Slice.indices).Nodup := by
    rw [List.nodup_flatMap]
    refine ⟨?_, apart⟩
    intro slice _member
    exact List.nodup_range' 1
  have within : slices.flatMap Slice.indices ⊆ List.range pool := by
    intro index member
    obtain ⟨slice, present, inSlice⟩ := List.mem_flatMap.mp member
    have bound := inside slice present
    rw [Slice.mem_indices] at inSlice
    rw [List.mem_range]
    omega
  have shorter := (List.subperm_of_subset distinct within).length_le
  rw [List.length_range] at shorter
  rw [Slice.totalLength_eq_length_flatMap]
  exact shorter

/-! ### Reserving and releasing -/

/-- Which reservation moves into the place that becomes free does not matter to what is left. -/
theorem removeBySwap_perm (slice : Slice) (live : List Slice) :
    (removeBySwap slice live).Perm (live.erase slice) := by
  rw [List.erase_eq_eraseIdx]
  unfold removeBySwap
  cases found : live.idxOf? slice with
  | none => exact List.Perm.refl live
  | some index =>
      obtain ⟨bound, -, -⟩ := List.idxOf?_eq_some_iff.mp found
      cases lastAt : live.getLast? with
      | none =>
          rw [List.getLast?_eq_none_iff] at lastAt
          subst lastAt
          cases found
      | some last =>
          have stays : (live.set index last).getLast? = some last := by
            rw [List.getLast?_eq_getElem?] at lastAt ⊢
            rw [List.length_set, List.getElem?_set]
            split
            · rfl
            · exact lastAt
          have split : (live.set index last).dropLast ++ [last] = live.set index last :=
            List.dropLast_append_getLast? last stays
          have rearranged := List.set_perm_cons_eraseIdx bound last
          rw [← split] at rearranged
          exact ((List.perm_append_singleton _ _).symm.trans rearranged).cons_inv

namespace Ledger

def pinned (ledger : Ledger) : List Slice :=
  ledger.deferred.flatMap PendingStop.slices

/-- The reservations are the slices of deferred stops, and those in hand. -/
def Accounts (ledger : Ledger) (inHand : List Slice) : Prop :=
  ledger.live.Perm (ledger.pinned ++ inHand)

/-- No index is reserved twice, and none that is not in the pool. -/
structure Exclusive (ledger : Ledger) : Prop where
  apart : ledger.live.Pairwise fun left right => left.indices.Disjoint right.indices
  inside : ∀ slice ∈ ledger.live, slice.stop ≤ ledger.pool

theorem reserve_eq_ok {ledger after : Ledger} {slice : Slice}
    (reserved : ledger.reserve slice = .ok after) :
    slice.stop ≤ ledger.pool ∧ (∀ live ∈ ledger.live, live.overlaps slice = false) ∧
      after = { ledger with live := ledger.live ++ [slice] } := by
  unfold reserve at reserved
  split at reserved
  · cases reserved
  · rename_i fits
    split at reserved
    · cases reserved
    · rename_i clear
      rw [List.find?_eq_none] at clear
      refine ⟨by omega, ?_, (Except.ok.inj reserved).symm⟩
      intro live member
      exact eq_false_of_ne_true (clear live member)

theorem reserve_eq_error {ledger : Ledger} {slice : Slice} {error : Error}
    (refused : ledger.reserve slice = .error error) :
    (ledger.pool < slice.stop ∧ error = .exceedsPool slice ledger.pool) ∨
      ∃ live ∈ ledger.live, live.overlaps slice = true ∧ error = .overlap slice live := by
  unfold reserve at refused
  split at refused
  · rename_i exceeds
    exact Or.inl ⟨exceeds, (Except.error.inj refused).symm⟩
  · split at refused
    · rename_i live found
      have overlaps : live.overlaps slice = true := by
        have found := List.find?_some found
        exact found
      exact Or.inr ⟨live, List.mem_of_find?_eq_some found, overlaps,
        (Except.error.inj refused).symm⟩
    · cases refused

theorem eq_ofPool {ledger : Ledger} {pool : Nat} (size : ledger.pool = pool)
    (live : ledger.live = []) (deferred : ledger.deferred = []) : ledger = ofPool pool := by
  cases ledger
  cases size
  cases live
  cases deferred
  rfl

theorem ofPool_accounts (pool : Nat) : (ofPool pool).Accounts [] :=
  List.Perm.refl []

theorem ofPool_exclusive (pool : Nat) : (ofPool pool).Exclusive where
  apart := List.Pairwise.nil
  inside := by intro slice member; cases member

theorem releaseAll_pool (ledger : Ledger) (slices : List Slice) :
    (ledger.releaseAll slices).pool = ledger.pool := by
  induction slices generalizing ledger with
  | nil => rfl
  | cons slice rest ih => exact ih (ledger.release slice)

theorem releaseAll_deferred (ledger : Ledger) (slices : List Slice) :
    (ledger.releaseAll slices).deferred = ledger.deferred := by
  induction slices generalizing ledger with
  | nil => rfl
  | cons slice rest ih => exact ih (ledger.release slice)

theorem releaseAll_withDeferred (ledger : Ledger) (deferred : List PendingStop)
    (slices : List Slice) :
    { ledger with deferred }.releaseAll slices = { ledger.releaseAll slices with deferred } := by
  induction slices generalizing ledger with
  | nil => rfl
  | cons slice rest ih => exact ih (ledger.release slice)

theorem release_live {ledger : Ledger} {slice : Slice} {rest : List Slice}
    (live : ledger.live.Perm (slice :: rest)) : (ledger.release slice).live.Perm rest := by
  have taken := live.erase slice
  rw [List.erase_cons_head] at taken
  exact (removeBySwap_perm slice ledger.live).trans taken

/-- Releasing takes out what is released, and nothing else. -/
theorem releaseAll_live {ledger : Ledger} {slices rest : List Slice}
    (live : ledger.live.Perm (slices ++ rest)) : (ledger.releaseAll slices).live.Perm rest := by
  induction slices generalizing ledger with
  | nil => exact live
  | cons slice others ih => exact ih (release_live live)

theorem Accounts.releaseAll {ledger : Ledger} {slices inHand : List Slice}
    (accounts : ledger.Accounts (slices ++ inHand)) :
    (ledger.releaseAll slices).Accounts inHand := by
  unfold Accounts Ledger.pinned at accounts ⊢
  rw [releaseAll_deferred]
  exact releaseAll_live (accounts.trans (List.perm_append_comm_assoc _ _ _))

theorem Accounts.defer {ledger : Ledger} {handle : Handle} {slices inHand : List Slice}
    (accounts : ledger.Accounts (slices ++ inHand)) :
    (ledger.defer handle slices).Accounts inHand := by
  have pinned : (ledger.defer handle slices).pinned = ledger.pinned ++ slices := by
    simp [Ledger.pinned, Ledger.defer]
  unfold Accounts
  rw [pinned, List.append_assoc]
  exact accounts

theorem Accounts.withoutDeferred {ledger : Ledger} {inHand : List Slice}
    (accounts : ledger.Accounts inHand) :
    ledger.withoutDeferred.Accounts (ledger.pinned ++ inHand) :=
  accounts

theorem Exclusive.reserve {ledger after : Ledger} {slice : Slice}
    (exclusive : ledger.Exclusive) (reserved : ledger.reserve slice = .ok after) :
    after.Exclusive := by
  obtain ⟨fits, clear, rfl⟩ := reserve_eq_ok reserved
  constructor
  · refine List.pairwise_append.mpr ⟨exclusive.apart, List.pairwise_singleton _ slice, ?_⟩
    intro live member other isSlice
    rw [List.mem_singleton.mp isSlice]
    exact live.disjoint_of_not_overlaps slice (clear live member)
  · intro live member
    rcases List.mem_append.mp member with earlier | isSlice
    · exact exclusive.inside live earlier
    · rw [List.mem_singleton.mp isSlice]
      exact fits

theorem Exclusive.release {ledger : Ledger} (exclusive : ledger.Exclusive) (slice : Slice) :
    (ledger.release slice).Exclusive := by
  have fewer := removeBySwap_perm slice ledger.live
  constructor
  · exact (fewer.pairwise_iff fun apart => List.disjoint_symm apart).mpr
      (exclusive.apart.sublist List.erase_sublist)
  · intro live member
    exact exclusive.inside live (List.mem_of_mem_erase (fewer.mem_iff.mp member))

theorem Exclusive.releaseAll {ledger : Ledger} (exclusive : ledger.Exclusive)
    (slices : List Slice) : (ledger.releaseAll slices).Exclusive := by
  induction slices generalizing ledger with
  | nil => exact exclusive
  | cons slice rest ih => exact ih (exclusive.release slice)

/-! ### Slices taken one after the other -/

/-- A ledger has taken slices in addition to what it had. -/
structure Takes (before after : Ledger) (slices : List Slice) : Prop where
  pool : after.pool = before.pool
  deferred : after.deferred = before.deferred
  live : after.live = before.live ++ slices
  exclusive : before.Exclusive → after.Exclusive

theorem Takes.nothing (ledger : Ledger) : ledger.Takes ledger [] where
  pool := rfl
  deferred := rfl
  live := (List.append_nil _).symm
  exclusive := id

theorem Takes.reserve {before middle after : Ledger} {slices : List Slice} {slice : Slice}
    (takes : before.Takes middle slices) (reserved : middle.reserve slice = .ok after) :
    before.Takes after (slices ++ [slice]) := by
  have keeps := fun exclusive => (takes.exclusive exclusive).reserve reserved
  obtain ⟨-, -, rfl⟩ := reserve_eq_ok reserved
  exact ⟨takes.pool, takes.deferred, by simp [takes.live], keeps⟩

theorem Takes.accounts {before after : Ledger} {slices inHand : List Slice}
    (takes : before.Takes after slices) (accounts : before.Accounts inHand) :
    after.Accounts (inHand ++ slices) := by
  unfold Accounts pinned
  rw [takes.live, takes.deferred, ← List.append_assoc]
  exact accounts.append_right slices

/-! ### What is available -/

/-- What is available and what is reserved add up to the pool. -/
theorem Exclusive.available_add {ledger : Ledger} (exclusive : ledger.Exclusive) :
    ledger.available + Slice.totalLength ledger.live = ledger.pool := by
  have bounded := Slice.totalLength_le ledger.live ledger.pool exclusive.apart exclusive.inside
  unfold available
  omega

end Ledger

end BuildBench.Cpu
