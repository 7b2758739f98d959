import BuildBench.Cpu.Allocation
import BuildBench.Sandbox.Basic

set_option autoImplicit false

/-! The CPU reservations of this process. A slice is reserved for one sandbox at a time. A sandbox
whose stop was not confirmed keeps its slices as a deferred stop. -/

namespace BuildBench.Cpu

open BuildBench.Sandbox (Handle)

/-- A sandbox whose stop was not confirmed, with the slices that it still holds. -/
structure PendingStop where
  handle : Handle
  slices : List Slice
  deriving DecidableEq, Repr

/-- The reservations in a pool of CPUs. -/
structure Ledger where
  pool : Nat
  live : List Slice
  deferred : List PendingStop
  deriving DecidableEq, Repr

/-- Takes the first occurrence of a slice out. The last reservation moves into its place. -/
def removeBySwap (slice : Slice) (live : List Slice) : List Slice :=
  match live.idxOf? slice, live.getLast? with
  | some index, some last => (live.set index last).dropLast
  | _, _ => live

namespace Ledger

def ofPool (pool : Nat) : Ledger where
  pool := pool
  live := []
  deferred := []

/-- Reserves a slice that lies in the pool and overlaps no reservation. -/
def reserve (ledger : Ledger) (slice : Slice) : Except Error Ledger :=
  if ledger.pool < slice.stop then .error (.exceedsPool slice ledger.pool)
  else
    match ledger.live.find? (·.overlaps slice) with
    | some live => .error (.overlap slice live)
    | none => .ok { ledger with live := ledger.live ++ [slice] }

/-- Returns a slice to the pool. A slice that is not reserved changes nothing. -/
def release (ledger : Ledger) (slice : Slice) : Ledger :=
  { ledger with live := removeBySwap slice ledger.live }

def releaseAll (ledger : Ledger) (slices : List Slice) : Ledger :=
  slices.foldl release ledger

/-- Keeps slices reserved until a sandbox is confirmed to have stopped. -/
def defer (ledger : Ledger) (handle : Handle) (slices : List Slice) : Ledger :=
  { ledger with deferred := ledger.deferred ++ [{ handle, slices }] }

def awaitsStops (ledger : Ledger) : Bool :=
  !ledger.deferred.isEmpty

def withoutDeferred (ledger : Ledger) : Ledger :=
  { ledger with deferred := [] }

def available (ledger : Ledger) : Nat :=
  ledger.pool - Slice.totalLength ledger.live

def isLive (ledger : Ledger) (slice : Slice) : Bool :=
  ledger.live.contains slice

end Ledger

end BuildBench.Cpu
