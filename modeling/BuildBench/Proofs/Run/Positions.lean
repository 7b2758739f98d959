import BuildBench.Proofs.Cpu.Allocation
import BuildBench.Proofs.Cpu.Ledger
import BuildBench.Run.Schedule

set_option autoImplicit false

/-! Which CPUs the runs of a suite are planned on. Main statements: each topology moves the position
on by the whole CPUs that it and the client are granted, and the slices of all runs follow one
another. -/

namespace BuildBench.Run

open BuildBench.Definition

/-! ### Turns -/

/-- The turn of a named topology at a position: the slices that its run is granted, if it is granted
all that it asks for, and the position after it. -/
inductive Turn (catalog : Catalog) (client : Client) (position : Nat) (name : String) :
    Option Slices → Nat → Prop
  | unknown (missing : catalog.get? name = none) : Turn catalog client position name none position
  | rejected {topology : Topology} {error : Cpu.Error} (found : catalog.get? name = some topology)
      (refused : Cpu.allocate topology.resources.cpus position = .error error) :
      Turn catalog client position name none position
  | database {topology : Topology} {count : Nat} (found : catalog.get? name = some topology)
      (takes : topology.resources.cpus.Takes position count) (unasked : client.resources = none) :
      Turn catalog client position name (some ⟨Cpu.sliceAt position count, none⟩)
        (position + count)
  /-- What the database was granted is not given to the next run. -/
  | clientRejected {topology : Topology} {count : Nat} {resources : Resources} {error : Cpu.Error}
      (found : catalog.get? name = some topology)
      (takes : topology.resources.cpus.Takes position count)
      (asked : client.resources = some resources)
      (refused : Cpu.allocate resources.cpus (position + count) = .error error) :
      Turn catalog client position name none (position + count)
  | both {topology : Topology} {count clientCount : Nat} {resources : Resources}
      (found : catalog.get? name = some topology)
      (takes : topology.resources.cpus.Takes position count)
      (asked : client.resources = some resources)
      (alsoTakes : resources.cpus.Takes (position + count) clientCount) :
      Turn catalog client position name
        (some ⟨Cpu.sliceAt position count, some (Cpu.sliceAt (position + count) clientCount)⟩)
        (position + count + clientCount)

/-- The slices of a run in the order in which sandboxes are launched on them. -/
def Slices.inOrder (slices : Slices) : List Cpu.Slice :=
  slices.database :: slices.client.toList

/-- The slices that are granted lie between the position and the next one. -/
structure Spans (position : Nat) (slices : List Cpu.Slice) (next : Nat) : Prop where
  forward : position ≤ next
  inside : ∀ slice ∈ slices, position ≤ slice.start ∧ slice.start < slice.stop ∧ slice.stop ≤ next
  ordered : slices.Pairwise fun earlier later => earlier.stop ≤ later.start

namespace Spans

variable {position middle next : Nat} {slices others : List Cpu.Slice}

theorem nothing (forward : position ≤ next) : Spans position [] next where
  forward := forward
  inside := by intro slice member; cases member
  ordered := .nil

theorem sliceAt {count : Nat} (positive : 0 < count) :
    Spans position [Cpu.sliceAt position count] (position + count) where
  forward := Nat.le_add_right position count
  inside := by
    intro slice member
    rw [List.mem_singleton.mp member]
    exact ⟨Nat.le_refl _, Nat.lt_add_of_pos_right positive, Nat.le_refl _⟩
  ordered := List.pairwise_singleton _ _

theorem append (first : Spans position slices middle) (rest : Spans middle others next) :
    Spans position (slices ++ others) next where
  forward := first.forward.trans rest.forward
  inside := by
    intro slice member
    have onward := first.forward
    have forward := rest.forward
    rcases List.mem_append.mp member with earlier | later
    · have inside := first.inside slice earlier
      omega
    · have inside := rest.inside slice later
      omega
  ordered := by
    refine List.pairwise_append.mpr ⟨first.ordered, rest.ordered, ?_⟩
    intro earlier member later follows
    have before := first.inside earlier member
    have after := rest.inside later follows
    omega

/-- Slices that follow one another start in ascending order and have no index in common. -/
theorem increasing (spans : Spans position slices next) :
    slices.Pairwise fun earlier later =>
      earlier.start < later.start ∧ earlier.indices.Disjoint later.indices := by
  refine spans.ordered.imp_of_mem ?_
  intro earlier later member _follows ordered
  have inside := spans.inside earlier member
  refine ⟨by omega, ?_⟩
  intro index inEarlier inLater
  rw [Cpu.Slice.mem_indices] at inEarlier inLater
  omega

end Spans

theorem Turn.spans {catalog : Catalog} {client : Client} {position next : Nat} {name : String}
    {slices : Option Slices} (turn : Turn catalog client position name slices next) :
    Spans position (slices.toList.flatMap Slices.inOrder) next := by
  cases turn with
  | unknown missing => exact .nothing (Nat.le_refl _)
  | rejected found refused => exact .nothing (Nat.le_refl _)
  | database found takes unasked => exact .sliceAt takes.pos
  | clientRejected found takes asked refused => exact .nothing (Nat.le_add_right _ _)
  | both found takes asked alsoTakes =>
      exact (Spans.sliceAt takes.pos).append (.sliceAt alsoTakes.pos)

/-! ### Slots -/

def Slot.slices? (client : Client) : Slot → Option Slices
  | .unknown _ => none
  | .planned topology position => (plan topology client position).slices.toOption

def slotAt (catalog : Catalog) (position : Nat) (name : String) : Slot :=
  match catalog.get? name with
  | none => .unknown name
  | some topology => .planned topology position

def nextPosition (catalog : Catalog) (client : Client) (position : Nat) (name : String) : Nat :=
  match catalog.get? name with
  | none => position
  | some topology => (plan topology client position).next

variable {catalog : Catalog} {client : Client}

theorem slotAt_turn (position : Nat) (name : String) :
    Turn catalog client position name ((slotAt catalog position name).slices? client)
      (nextPosition catalog client position name) := by
  unfold slotAt nextPosition
  cases found : catalog.get? name with
  | none => exact .unknown found
  | some topology =>
      dsimp only [Slot.slices?]
      unfold plan
      cases allocated : Cpu.allocate topology.resources.cpus position with
      | error error => exact .rejected found allocated
      | ok database =>
          obtain ⟨count, takes, rfl⟩ := Cpu.allocate_eq_ok.mp allocated
          cases asked : client.resources with
          | none => exact .database found takes asked
          | some resources =>
              dsimp only
              cases again : Cpu.allocate resources.cpus (position + count) with
              | error error => exact .clientRejected found takes asked again
              | ok granted =>
                  obtain ⟨clientCount, alsoTakes, rfl⟩ := Cpu.allocate_eq_ok.mp again
                  exact .both found takes asked alsoTakes

theorem slotsFrom_cons (position : Nat) (name : String) (rest : List String) :
    slotsFrom catalog client position (name :: rest) =
      slotAt catalog position name ::
        slotsFrom catalog client (nextPosition catalog client position name) rest := by
  rw [slotsFrom, slotAt, nextPosition]
  cases catalog.get? name <;> rfl

theorem slotsFrom_getElem? (position : Nat) (names : List String) (index : Nat) :
    (slotsFrom catalog client position names)[index]? =
      names[index]?.map (slotAt catalog
        ((names.take index).foldl (nextPosition catalog client) position)) := by
  induction names generalizing position index with
  | nil => rfl
  | cons name rest ih =>
      rw [slotsFrom_cons]
      cases index with
      | zero => rfl
      | succ index => exact ih _ index

/-- The slices of all runs follow one another from the position on. -/
theorem slotsFrom_spans (position : Nat) (names : List String) :
    Spans position
      ((slotsFrom catalog client position names).flatMap fun slot =>
        (slot.slices? client).toList.flatMap Slices.inOrder)
      (names.foldl (nextPosition catalog client) position) := by
  induction names generalizing position with
  | nil => exact .nothing (Nat.le_refl _)
  | cons name rest ih =>
      rw [slotsFrom_cons, List.flatMap_cons, List.foldl_cons]
      exact (slotAt_turn position name).spans.append (ih _)

/-! ### Positions of a suite -/

/-- The position at which the CPUs of a topology are planned that comes after so many others. -/
def positionAt (catalog : Catalog) (suite : Suite) (index : Nat) : Nat :=
  (suite.topologies.take index).foldl (nextPosition catalog suite.client) 0

theorem positionAt_succ {suite : Suite} {index : Nat} {name : String}
    (named : suite.topologies[index]? = some name) :
    positionAt catalog suite (index + 1) =
      nextPosition catalog suite.client (positionAt catalog suite index) name := by
  unfold positionAt
  rw [List.take_add_one, named, Option.toList_some, List.foldl_append]
  rfl

theorem slots_getElem? {suite : Suite} {index : Nat} {name : String}
    (named : suite.topologies[index]? = some name) :
    (slots catalog suite)[index]? =
      some (slotAt catalog (positionAt catalog suite index) name) := by
  rw [slots, slotsFrom_getElem?, named]
  rfl

theorem slots_spans (catalog : Catalog) (suite : Suite) :
    Spans 0
      ((slots catalog suite).flatMap fun slot =>
        (slot.slices? suite.client).toList.flatMap Slices.inOrder)
      (positionAt catalog suite suite.topologies.length) := by
  unfold positionAt
  rw [List.take_length]
  exact slotsFrom_spans 0 suite.topologies

end BuildBench.Run
