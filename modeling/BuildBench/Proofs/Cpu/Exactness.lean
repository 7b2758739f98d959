import BuildBench.Proofs.Cpu.Allocation
import BuildBench.Proofs.Cpu.Ledger

set_option autoImplicit false

/-! Allocation on numbers of double precision and on words. Main statement: although a quantity is
rounded, compared and converted as a number of double precision, a request is given exactly the
fewest CPUs that meet it; nothing is cut off at a bound, and no position goes past the last index.
So requests that are met one after the other are given slices without gaps and without overlaps. -/

namespace BuildBench.Cpu

open BuildBench.Number

/-! ### Counting in doubles -/

/-- A number as an index: without its fraction, and no further than the indices go. -/
def indexOf : Binary64 → Nat
  | .finite false significand exponent =>
      min (Binary64.numerator significand exponent / Binary64.denominator exponent)
        (indexBound - 1)
  | .infinity false => indexBound - 1
  | _ => 0

theorem indexOf_value {number : Binary64} {index : Nat}
    (valued : number.value? = some (index : ℚ)) (inside : index < indexBound) :
    indexOf number = index := by
  cases number with
  | nan => cases valued
  | infinity negative => cases valued
  | finite negative significand exponent =>
      have magnitude : (0 : ℚ) ≤ significand * 2 ^ exponent :=
        mul_nonneg (Nat.cast_nonneg _) (zpow_nonneg zero_le_two _)
      cases negative with
      | true =>
          have opposite : -1 * ((significand : ℚ) * 2 ^ exponent) = index :=
            Option.some.inj valued
          have none : (index : ℚ) ≤ 0 := by linarith
          exact (Nat.le_zero.mp (by exact_mod_cast none)).symm
      | false =>
          have same : (significand : ℚ) * 2 ^ exponent = index := by
            simpa [Binary64.value?] using valued
          have unit : 0 < Binary64.denominator exponent := Binary64.powerOfTwo_pos _
          rw [← Binary64.numerator_div_denominator,
            div_eq_iff (Nat.cast_pos.mpr unit).ne'] at same
          have exact : Binary64.numerator significand exponent =
              index * Binary64.denominator exponent := by exact_mod_cast same
          rw [indexOf, exact, Nat.mul_div_cancel _ unit]
          omega

/-- The largest index rounds to the number of indices, which is no index any more. -/
theorem largestIndex_value :
    (Binary64.ofNat (indexBound - 1)).value? = some (indexBound : ℚ) := by
  have rounded : Binary64.ofNat (indexBound - 1) = .finite false (2 ^ 52) 12 := rfl
  rw [rounded, Binary64.value?, indexBound, wordBound]
  norm_num

/-- The check of a quantity on numbers of double precision. -/
def Request.Unmet (request : Request) : Prop :=
  request.quantity.isFinite = false ∨ request.quantity.AtMost (.zero false) ∨
    (Binary64.ofNat (indexBound - 1)).AtMost request.quantity.roundUp

/-- To check, round and convert on numbers of double precision gives the count of CPUs. -/
theorem wholeCount_iff_rounded {request : Request} (double : request.quantity.IsRepresentable)
    (count : Nat) :
    request.wholeCount = .ok count ↔
      ¬request.Unmet ∧ count = indexOf request.quantity.roundUp := by
  rw [wholeCount_eq_ok]
  constructor
  · rintro ⟨value, valued, positive, rfl, inside⟩
    have rounded := Binary64.roundUp_value double valued positive
    refine ⟨?_, (indexOf_value rounded inside).symm⟩
    -- The largest index rounds up, so that a count can reach it only from beyond the indices.
    rintro (infinite | negative | large)
    · rw [Binary64.isFinite_iff.mpr ⟨value, valued⟩] at infinite
      cases infinite
    · rw [Binary64.atMost_iff valued (Binary64.zero_value false)] at negative
      linarith
    · rw [Binary64.atMost_iff largestIndex_value rounded, Nat.cast_le] at large
      omega
  · rintro ⟨met, rfl⟩
    unfold Request.Unmet at met
    rw [not_or, not_or, Bool.not_eq_false, Binary64.isFinite_iff] at met
    obtain ⟨⟨value, valued⟩, above, below⟩ := met
    rw [Binary64.atMost_iff valued (Binary64.zero_value false), not_le] at above
    have rounded := Binary64.roundUp_value double valued above
    rw [Binary64.atMost_iff largestIndex_value rounded, Nat.cast_le, not_le] at below
    have counted := indexOf_value rounded below
    exact ⟨value, valued, above, counted, counted.trans_lt below⟩

/-! ### One request after the other -/

/-- Requests are met one after the other, each from where the one before it stops. -/
def allocateInTurn (position : Nat) : List Request → Except Error (List Allocation)
  | [] => .ok []
  | request :: rest =>
      match allocate request position with
      | .error error => .error error
      | .ok allocation => (allocateInTurn allocation.next rest).map (allocation :: ·)

/-- Allocations of so many CPUs each, without gaps from a position on. -/
def consecutive (position : Nat) : List Nat → List Allocation
  | [] => []
  | count :: rest =>
      { slice := sliceAt position count, next := position + count } ::
        consecutive (position + count) rest

/-- All requests are met if and only if all quantities are positive numbers whose counts together
fit behind the position. -/
theorem allocateInTurn_eq_ok {position : Nat} (inside : position < indexBound)
    {requests : List Request} {granted : List Allocation} :
    allocateInTurn position requests = .ok granted ↔
      ∃ values : List ℚ, requests.map (·.quantity.value?) = values.map some ∧
        (∀ value ∈ values, 0 < value) ∧
        position + (values.map Nat.ceil).sum < indexBound ∧
        granted = consecutive position (values.map Nat.ceil) := by
  induction requests generalizing position granted with
  | nil =>
      rw [allocateInTurn, Except.ok.injEq]
      constructor
      · rintro rfl
        exact ⟨[], rfl, by simp, inside, rfl⟩
      · rintro ⟨values, valued, -, -, rfl⟩
        rw [List.map_nil, eq_comm, List.map_eq_nil_iff] at valued
        rw [valued]
        rfl
  | cons request rest ih =>
      rw [allocateInTurn]
      constructor
      · intro met
        cases first : allocate request position with
        | error error =>
            rw [first] at met
            cases met
        | ok allocation =>
            obtain ⟨count, ⟨value, valued, positive, rfl, fits⟩, rfl⟩ := allocate_eq_ok.mp first
            rw [first] at met
            dsimp only at met
            cases others : allocateInTurn (position + ⌈value⌉₊) rest with
            | error error =>
                rw [others] at met
                cases met
            | ok later =>
                rw [others] at met
                obtain ⟨values, each, all, together, rfl⟩ := (ih fits).mp others
                refine ⟨value :: values, ?_, List.forall_mem_cons.mpr ⟨positive, all⟩, ?_, ?_⟩
                · rw [List.map_cons, valued, each]
                  rfl
                · rw [List.map_cons, List.sum_cons]
                  omega
                · exact (Except.ok.inj met).symm
      · rintro ⟨values, valued, all, together, rfl⟩
        cases values with
        | nil => cases valued
        | cons value values =>
            rw [List.map_cons, List.map_cons, List.cons.injEq] at valued
            rw [List.forall_mem_cons] at all
            rw [List.map_cons, List.sum_cons] at together
            have fits : position + ⌈value⌉₊ < indexBound := by omega
            have first := allocate_eq_ok.mpr ⟨_, ⟨value, valued.1, all.1, rfl, fits⟩, rfl⟩
            have later := (ih fits).mpr ⟨values, valued.2, all.2, by omega, rfl⟩
            rw [first]
            dsimp only
            rw [later]
            rfl

def Contiguous (position : Nat) : List Slice → Prop
  | [] => True
  | slice :: rest => slice.start = position ∧ Contiguous slice.stop rest

theorem Contiguous.start_le {position : Nat} {slices : List Slice}
    (contiguous : Contiguous position slices) : ∀ slice ∈ slices, position ≤ slice.start := by
  induction slices generalizing position with
  | nil =>
      intro slice member
      cases member
  | cons first rest ih =>
      intro slice member
      have ordered := first.ordered
      have begins := contiguous.1
      rcases List.mem_cons.mp member with same | later
      · rw [same, begins]
      · have after := ih contiguous.2 slice later
        omega

theorem Contiguous.apart {position : Nat} {slices : List Slice}
    (contiguous : Contiguous position slices) :
    slices.Pairwise fun left right => left.indices.Disjoint right.indices := by
  induction slices generalizing position with
  | nil => exact .nil
  | cons first rest ih =>
      refine .cons ?_ (ih contiguous.2)
      intro later member index inFirst inLater
      have after := contiguous.2.start_le later member
      rw [Slice.mem_indices] at inFirst inLater
      omega

theorem consecutive_contiguous (position : Nat) (counts : List Nat) :
    Contiguous position ((consecutive position counts).map Allocation.slice) := by
  induction counts generalizing position with
  | nil => trivial
  | cons count rest ih => exact ⟨rfl, ih (position + count)⟩

theorem sliceAt_length (position count : Nat) : (sliceAt position count).length = count :=
  Nat.add_sub_cancel_left position count

theorem consecutive_lengths (position : Nat) (counts : List Nat) :
    (consecutive position counts).map (·.slice.length) = counts := by
  induction counts generalizing position with
  | nil => rfl
  | cons count rest ih =>
      rw [consecutive, List.map_cons, ih]
      exact congrArg (· :: rest) (sliceAt_length position count)

theorem totalLength_eq_sum (slices : List Slice) :
    Slice.totalLength slices = (slices.map Slice.length).sum := by
  induction slices with
  | nil => rfl
  | cons slice rest ih => rw [Slice.totalLength, ih, List.map_cons, List.sum_cons]

/-! ### Main result -/

/-- What a request comes to at a position. -/
structure MetExactly (request : Request) (position : Nat) : Prop where
  accepted : (∃ allocation, allocate request position = .ok allocation) ↔
    ∃ value, request.quantity.value? = some value ∧ 0 < value ∧
      position + ⌈value⌉₊ ≤ indexBound - 1
  granted : ∀ allocation, allocate request position = .ok allocation →
    ∃ value, request.quantity.value? = some value ∧
      allocation.slice.start = position ∧ allocation.slice.stop = position + ⌈value⌉₊ ∧
      allocation.next = allocation.slice.stop ∧
      allocation.slice.start < allocation.slice.stop ∧
      (allocation.slice.length : ℚ) - 1 < value ∧ value ≤ allocation.slice.length
  /-- The quantity is checked as it is rounded, and converting it cuts nothing off. -/
  counted : ∀ count, request.wholeCount = .ok count ↔
    ¬request.Unmet ∧ count = indexOf request.quantity.roundUp
  converted : ∀ allocation, allocate request position = .ok allocation →
    request.quantity.roundUp.value? = some (allocation.slice.length : ℚ) ∧
      indexOf request.quantity.roundUp = allocation.slice.length
  /-- The sum of two words is the next position. -/
  added : ∀ allocation, allocate request position = .ok allocation →
    (UInt64.ofNat position + UInt64.ofNat allocation.slice.length).toNat = allocation.next

/-- What requests come to that are met one after the other from the first index on. -/
structure MetInTurn (requests : List Request) : Prop where
  accepted : (∃ granted, allocateInTurn 0 requests = .ok granted) ↔
    ∃ values : List ℚ, requests.map (·.quantity.value?) = values.map some ∧
      (∀ value ∈ values, 0 < value) ∧ (values.map Nat.ceil).sum ≤ indexBound - 1
  granted : ∀ granted, allocateInTurn 0 requests = .ok granted →
    Contiguous 0 (granted.map Allocation.slice) ∧
      ((granted.map Allocation.slice).Pairwise fun left right =>
        left.indices.Disjoint right.indices) ∧
      ∃ values : List ℚ, requests.map (·.quantity.value?) = values.map some ∧
        granted.map (·.slice.length) = values.map Nat.ceil ∧
        Slice.totalLength (granted.map Allocation.slice) = (values.map Nat.ceil).sum

theorem met_exactly {request : Request} (double : request.quantity.IsRepresentable)
    (position : Nat) : MetExactly request position where
  accepted := by
    constructor
    · rintro ⟨allocation, met⟩
      obtain ⟨count, ⟨value, valued, positive, rfl, fits⟩, -⟩ := allocate_eq_ok.mp met
      exact ⟨value, valued, positive, by omega⟩
    · rintro ⟨value, valued, positive, fits⟩
      have bound : 0 < indexBound := by decide
      exact ⟨_, allocate_eq_ok.mpr ⟨_, ⟨value, valued, positive, rfl, by omega⟩, rfl⟩⟩
  granted := by
    intro allocation met
    obtain ⟨count, takes, rfl⟩ := allocate_eq_ok.mp met
    have filled := takes.pos
    obtain ⟨value, valued, positive, rfl, -⟩ := takes
    refine ⟨value, valued, rfl, rfl, rfl, Nat.lt_add_of_pos_right filled, ?_, ?_⟩
    · have most := Nat.ceil_lt_add_one (le_of_lt positive)
      rw [sliceAt_length]
      linarith
    · rw [sliceAt_length]
      exact Nat.le_ceil value
  counted := wholeCount_iff_rounded double
  converted := by
    intro allocation met
    obtain ⟨count, ⟨value, valued, positive, rfl, fits⟩, rfl⟩ := allocate_eq_ok.mp met
    have rounded := Binary64.roundUp_value double valued positive
    rw [sliceAt_length]
    exact ⟨rounded, indexOf_value rounded (by omega)⟩
  added := by
    intro allocation met
    obtain ⟨count, ⟨value, -, -, -, fits⟩, rfl⟩ := allocate_eq_ok.mp met
    have bound : indexBound = 2 ^ 64 := rfl
    rw [sliceAt_length, UInt64.toNat_add, UInt64.toNat_ofNat', UInt64.toNat_ofNat']
    dsimp only
    omega

theorem met_in_turn (requests : List Request) : MetInTurn requests where
  accepted := by
    have bound : 0 < indexBound := by decide
    constructor
    · rintro ⟨granted, met⟩
      obtain ⟨values, valued, all, together, -⟩ := (allocateInTurn_eq_ok bound).mp met
      exact ⟨values, valued, all, by omega⟩
    · rintro ⟨values, valued, all, together⟩
      exact ⟨_, (allocateInTurn_eq_ok bound).mpr ⟨values, valued, all, by omega, rfl⟩⟩
  granted := by
    intro granted met
    have bound : 0 < indexBound := by decide
    obtain ⟨values, valued, -, -, rfl⟩ := (allocateInTurn_eq_ok bound).mp met
    have contiguous := consecutive_contiguous 0 (values.map Nat.ceil)
    have lengths := consecutive_lengths 0 (values.map Nat.ceil)
    refine ⟨contiguous, contiguous.apart, values, valued, lengths, ?_⟩
    rw [totalLength_eq_sum, List.map_map]
    exact congrArg List.sum lengths

/-- A request is met at a position exactly if its quantity is a positive number and the fewest CPUs
that meet it stop at an index; and requests that are met in turn leave no gap and share no CPU. -/
theorem allocations_exact (request : Request) (position : Nat) (requests : List Request)
    (double : request.quantity.IsRepresentable) :
    MetExactly request position ∧ MetInTurn requests :=
  ⟨met_exactly double position, met_in_turn requests⟩

/-- The largest number of double precision that can be met. -/
def widestRequest : Request where
  quantity := .finite false (2 ^ 53 - 1) 11

/-- There is room for it up to this position, where it stops at the last index. -/
theorem allocations_exact_widest :
    widestRequest.quantity.IsRepresentable ∧ MetExactly widestRequest 2047 ∧
      allocate widestRequest 2047 =
        .ok { slice := sliceAt 2047 (2 ^ 64 - 2048), next := 2 ^ 64 - 1 } ∧
      MetInTurn [{ quantity := .finite false 3 (-1) }, widestRequest] := by
  have double : widestRequest.quantity.IsRepresentable := ⟨by decide, by decide, by decide⟩
  obtain ⟨met, inTurn⟩ := allocations_exact widestRequest 2047
    [{ quantity := .finite false 3 (-1) }, widestRequest] double
  exact ⟨double, met, rfl, inTurn⟩

end BuildBench.Cpu
