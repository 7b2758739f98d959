import BuildBench.Number.Digit
import BuildBench.Proofs.Cpu.Ledger
import BuildBench.Proofs.Number.Whole
import BuildBench.Proofs.Text.Parts
import BuildBench.Sandbox.Docker

set_option autoImplicit false

/-! The texts in which sandboxes are told their CPUs. Main statement: the text of a slice lists its
indices in order, so that two slices overlap exactly if some index is listed in both texts; a ledger
admits a slice exactly if it is in the pool and its text lists nothing that the text of a reservation
lists; and this is the text that the sandbox is started with. -/

namespace BuildBench.Number

/-- Decimal digits behind those of a number are read on to the number that they spell together. -/
theorem foldl_digitValue? {digits : List Char} (all : ∀ c ∈ digits, c.isDigit = true)
    (value : Nat) :
    digits.foldl (fun value digit => do return (← value) * 10 + (← digitValue? 10 digit))
      (some value) = some (Nat.ofDigitChars 10 digits value) := by
  induction digits generalizing value with
  | nil => rw [List.foldl_nil, Nat.ofDigitChars_nil]
  | cons c rest ih =>
      obtain ⟨digit, restDigits⟩ := List.forall_mem_cons.mp all
      have small : c.toNat - '0'.toNat < 10 := by
        have range := (isDigit_iff c).mp digit
        have zero : '0'.toNat = 48 := rfl
        omega
      have worth : digitValue? 10 c = some (c.toNat - '0'.toNat) := by
        simp only [digitValue?, digit, if_true, small]
      rw [List.foldl_cons, Nat.ofDigitChars_cons, Nat.mul_comm 10 value, worth]
      exact ih restDigits _

/-- A number is read back from its decimal digits, however many they are. -/
theorem readNatural?_toDigits (value : Nat) :
    readNatural? 10 (Nat.toDigits 10 value) = some value := by
  obtain ⟨digits, same | signed, filled, all, spelled⟩ := spells_toDigits value
  · rw [same, readNatural?, if_neg (by simpa using filled), foldl_digitValue? all, spelled]
  · have plus : '+'.isDigit = true := by
      refine Nat.isDigit_of_mem_toDigits (b := 10) (n := value) (by decide) (by decide) ?_
      rw [signed]
      exact List.mem_cons_self
    cases plus

end BuildBench.Number

namespace BuildBench.Cpu

open BuildBench.Number BuildBench.Sandbox BuildBench.Text

/-! ### Lists of indices -/

/-- The numbers between the commas of a text. -/
def indicesIn? (text : String) : Option (List Nat) :=
  (pieces ',' text.toList).mapM (readNatural? 10)

/-- The text is a list of numbers, and the index is one of them. -/
def Listed (text : String) (index : Nat) : Prop :=
  ∃ indices, indicesIn? text = some indices ∧ index ∈ indices

namespace Slice

variable {slice left right : Slice}

theorem indices_ne_nil (filled : slice.start < slice.stop) : slice.indices ≠ [] := by
  intro none
  have start := (slice.mem_indices slice.start).mpr ⟨Nat.le_refl _, filled⟩
  rw [none] at start
  cases start

theorem comma_notMem_toDigits (index : Nat) : ',' ∉ Nat.toDigits 10 index := by
  intro comma
  have digit : ','.isDigit = true :=
    Nat.isDigit_of_mem_toDigits (by decide) (by decide) comma
  cases digit

/-- Cut at its commas, the text of a slice falls into the digits of its indices. -/
theorem pieces_cpuset (filled : slice.start < slice.stop) :
    pieces ',' slice.cpuset.toList = slice.indices.map (Nat.toDigits 10) := by
  have joined : slice.cpuset.toList =
      [','].intercalate (slice.indices.map (Nat.toDigits 10)) := by
    rw [cpuset, join, String.toList_intercalate, List.map_map]
    congr 1
    refine List.map_congr_left fun index _ => ?_
    exact Nat.toList_repr
  rw [joined]
  refine pieces_intercalate (by simpa using indices_ne_nil filled) ?_
  intro part member
  obtain ⟨index, -, rfl⟩ := List.mem_map.mp member
  exact comma_notMem_toDigits index

theorem indicesIn?_cpuset (filled : slice.start < slice.stop) :
    indicesIn? slice.cpuset = some slice.indices := by
  have reads : readNatural? 10 ∘ Nat.toDigits 10 = fun index => pure (id index) :=
    funext readNatural?_toDigits
  rw [indicesIn?, pieces_cpuset filled, List.mapM_map, reads, List.mapM_pure, List.map_id]
  rfl

theorem listed_cpuset (filled : slice.start < slice.stop) (index : Nat) :
    Listed slice.cpuset index ↔ index ∈ slice.indices := by
  rw [Listed, indicesIn?_cpuset filled]
  simp only [Option.some.injEq, exists_eq_left']

end Slice

/-! ### Main result -/

/-- The text of a slice that has indices lists them, each once and in order. Two slices overlap
exactly if an index is listed in both texts, a ledger admits a slice exactly if it is in the pool and
its text lists nothing that the text of a reservation lists, and a sandbox that is given the slice is
started with that text. -/
theorem cpusets_show_overlaps {left right : Slice} (leftFilled : left.start < left.stop)
    (rightFilled : right.start < right.stop) :
    indicesIn? left.cpuset = some (List.range' left.start (left.stop - left.start)) ∧
    (pieces ',' left.cpuset.toList).length = left.length ∧
    (left.overlaps right = true ↔
      ∃ index, Listed left.cpuset index ∧ Listed right.cpuset index) ∧
    (∀ ledger : Ledger, (∀ live ∈ ledger.live, live.start < live.stop) →
      ((∃ after, ledger.reserve left = .ok after) ↔
        left.stop ≤ ledger.pool ∧
          ∀ live ∈ ledger.live, ¬∃ index, Listed live.cpuset index ∧ Listed left.cpuset index)) ∧
    ∀ (spec : Spec) detach arguments, spec.cpus = some left →
      Docker.runArguments spec detach = .ok arguments →
      "--cpuset-cpus=" ++ left.cpuset ∈ arguments := by
  have shared {slice other : Slice} (filled : slice.start < slice.stop)
      (otherFilled : other.start < other.stop) : slice.overlaps other = true ↔
        ∃ index, Listed slice.cpuset index ∧ Listed other.cpuset index := by
    simp only [Slice.overlaps_iff filled otherFilled, Slice.listed_cpuset filled,
      Slice.listed_cpuset otherFilled]
  refine ⟨Slice.indicesIn?_cpuset leftFilled, ?_, shared leftFilled rightFilled, ?_, ?_⟩
  · rw [Slice.pieces_cpuset leftFilled, List.length_map, Slice.indices, List.length_range']
  · intro ledger filled
    constructor
    · rintro ⟨after, reserved⟩
      obtain ⟨fits, clear, -⟩ := Ledger.reserve_eq_ok reserved
      refine ⟨fits, fun live member both => ?_⟩
      have overlaps := (shared (filled live member) leftFilled).mpr both
      rw [clear live member] at overlaps
      cases overlaps
    · rintro ⟨fits, clear⟩
      cases reserved : ledger.reserve left with
      | ok after => exact ⟨after, rfl⟩
      | error error =>
          rcases Ledger.reserve_eq_error reserved with ⟨exceeds, -⟩ | ⟨live, member, overlaps, -⟩
          · omega
          · exact absurd ((shared (filled live member) leftFilled).mp overlaps) (clear live member)
  · intro spec detach arguments given told
    unfold Docker.runArguments at told
    split at told
    · cases told
    · rw [← Except.ok.inj told, Docker.runOptions, given]
      simp

/-- Indices of one, two and three digits in one text. -/
theorem cpusets_show_overlaps_rehearsed :
    let left : Slice := { start := 8, stop := 12 }
    let right : Slice := { start := 11, stop := 101 }
    left.start < left.stop ∧ right.start < right.stop ∧
      indicesIn? left.cpuset = some [8, 9, 10, 11] ∧
      indicesIn? right.cpuset = some (List.range' 11 90) ∧
      ∃ index, Listed left.cpuset index ∧ Listed right.cpuset index := by
  intro left right
  have leftFilled : left.start < left.stop := by decide
  have rightFilled : right.start < right.stop := by decide
  obtain ⟨listed, -, overlap, -⟩ := cpusets_show_overlaps leftFilled rightFilled
  exact ⟨leftFilled, rightFilled, listed, (cpusets_show_overlaps rightFilled leftFilled).1,
    overlap.mp (by decide)⟩

end BuildBench.Cpu
