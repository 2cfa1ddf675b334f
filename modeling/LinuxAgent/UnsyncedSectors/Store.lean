/- module: LinuxAgent/UnsyncedSectors/Store
   source: unsynced_sector_manager/{sector_interval,sector_set,timed_sector_map}.h,
     unsynced_sector_manager/unsynced_sector_store.{h,cc}
   digest: The store of unsynced sectors and what each of its calls does to a sector. -/

import LinuxAgent.Lib.Run
import LinuxAgent.Lib.Segments

/-!
The store keeps the unsynced sectors with the epoch of their last write, the
sectors handed out for copying since the last clear, and a cursor. Every call
holds the store's mutex, so a call is one step. A failed `CHECK_GT` aborts the
process: such a call has no next state.
-/

set_option autoImplicit false
set_option relaxedAutoImplicit false

namespace LinuxAgent.UnsyncedSectors

open LinuxAgent.Lib.Run LinuxAgent.Lib.Segments

/-- `SectorInterval(start, end)` is [start, end). -/
abbrev SectorInterval := HalfOpen

/-- Seconds since the epoch, as returned by `time()`. -/
abbrev TimeT := ℤ

abbrev SectorSet := IntervalMap Unit

abbrev TimedSectorMap := IntervalMap TimeT

def SectorSet.add (sectors : SectorSet) (interval : SectorInterval) : SectorSet :=
  sectors.insertWith (fun present _ => present) interval ()

theorem SectorSet.contains_add (sectors : SectorSet) (interval : SectorInterval) (sector : ℕ) :
    ((sectors.add interval).lookup sector).isSome = true ↔
      (sectors.lookup sector).isSome = true ∨ sector ∈ interval := by
  by_cases inside : sector ∈ interval <;> simp [SectorSet.add, inside]

/-- `+=` with `inplace_max` and `partial_absorber`: overlapping epochs combine to
the larger one, and a segment with the identity element 0 is not inserted. -/
def TimedSectorMap.add (sectors : TimedSectorMap) (interval : SectorInterval)
    (epoch : TimeT) : TimedSectorMap :=
  if epoch = 0 then sectors else sectors.insertWith max interval epoch

structure UnsyncedSectorStore where
  volatileSeconds : ℤ
  unsyncedSectorMap : TimedSectorMap
  syncedSectorSet : SectorSet
  endOfLastContinuous : ℕ

namespace UnsyncedSectorStore

def new (volatileSeconds : ℤ) : UnsyncedSectorStore :=
  ⟨volatileSeconds, .empty, .empty, 0⟩

def addInterval (store : UnsyncedSectorStore) (interval : SectorInterval) (epoch : TimeT) :
    Option UnsyncedSectorStore :=
  if epoch > store.volatileSeconds then
    some { store with unsyncedSectorMap := store.unsyncedSectorMap.add interval epoch }
  else none

def addNonVolatileInterval (store : UnsyncedSectorStore) (interval : SectorInterval) :
    UnsyncedSectorStore :=
  { store with unsyncedSectorMap := store.unsyncedSectorMap.add interval 1 }

def removeInterval (store : UnsyncedSectorStore) (interval : SectorInterval) :
    UnsyncedSectorStore :=
  { store with
    unsyncedSectorMap := store.unsyncedSectorMap.erase interval
    syncedSectorSet := store.syncedSectorSet.add interval }

/-- The segment after the cursor, else the first one. -/
def nextSegment (store : UnsyncedSectorStore) : Option (SectorInterval × TimeT) :=
  (store.unsyncedSectorMap.segments.find? fun intervalPair =>
    decide (intervalPair.1.lower > store.endOfLastContinuous)).or
      store.unsyncedSectorMap.segments.head?

/-- The output interval and the answer to "is it volatile?", with the moved cursor. -/
def getInterval (store : UnsyncedSectorStore) (epoch : TimeT) :
    Option ((SectorInterval × Bool) × UnsyncedSectorStore) :=
  if epoch > store.volatileSeconds then
    let (output, isVolatile) :=
      match store.nextSegment with
      | some (interval, modified) =>
          (interval, decide (modified > epoch - store.volatileSeconds))
      | none => (⟨0, 0⟩, false)
    some ((output, isVolatile), { store with endOfLastContinuous := output.upper })
  else none

def clearIntervals (store : UnsyncedSectorStore) : UnsyncedSectorStore :=
  { store with unsyncedSectorMap := .empty, syncedSectorSet := .empty }

def clearSyncHistory (store : UnsyncedSectorStore) : UnsyncedSectorStore :=
  { store with syncedSectorSet := .empty }

def reInsertSyncHistory (store : UnsyncedSectorStore) : UnsyncedSectorStore :=
  { store with
    unsyncedSectorMap := store.syncedSectorSet.segments.foldl
      (fun sectors interval => sectors.add interval.1 0) store.unsyncedSectorMap
    syncedSectorSet := .empty }

def unsyncedSectorCount (store : UnsyncedSectorStore) : ℕ :=
  store.unsyncedSectorMap.cardinality

/-- The recorded epoch of a sector, if it is unsynced. -/
def epochOf (store : UnsyncedSectorStore) (sector : ℕ) : Option TimeT :=
  store.unsyncedSectorMap.lookup sector

def Unsynced (store : UnsyncedSectorStore) (sector : ℕ) : Prop :=
  (store.epochOf sector).isSome

def Synced (store : UnsyncedSectorStore) (sector : ℕ) : Prop :=
  (store.syncedSectorSet.lookup sector).isSome

instance (store : UnsyncedSectorStore) (sector : ℕ) : Decidable (store.Unsynced sector) :=
  inferInstanceAs (Decidable ((store.epochOf sector).isSome = true))

instance (store : UnsyncedSectorStore) (sector : ℕ) : Decidable (store.Synced sector) :=
  inferInstanceAs (Decidable ((store.syncedSectorSet.lookup sector).isSome = true))

section Calls

variable (store : UnsyncedSectorStore) {after : UnsyncedSectorStore}
  (interval : SectorInterval) (epoch : TimeT) (sector : ℕ)

theorem epochOf_add (sectors : TimedSectorMap) :
    (TimedSectorMap.add sectors interval epoch).lookup sector =
      if epoch ≠ 0 ∧ sector ∈ interval then
        some ((sectors.lookup sector).elim epoch fun recorded => max recorded epoch)
      else sectors.lookup sector := by
  by_cases identity : epoch = 0
  · simp [TimedSectorMap.add, identity]
  · simp [TimedSectorMap.add, identity]

/-- What a successful `AddInterval` says: the check passed, and only the map changed. -/
theorem addInterval_eq_some :
    store.addInterval interval epoch = some after ↔
      epoch > store.volatileSeconds ∧
        after = { store with
          unsyncedSectorMap := TimedSectorMap.add store.unsyncedSectorMap interval epoch } := by
  unfold addInterval
  split_ifs with passed
  · simp [passed, eq_comm]
  · simp [passed]

@[simp] theorem epochOf_addNonVolatileInterval :
    (store.addNonVolatileInterval interval).epochOf sector =
      if sector ∈ interval then
        some ((store.epochOf sector).elim 1 fun recorded => max recorded 1)
      else store.epochOf sector := by
  simp [epochOf, addNonVolatileInterval, epochOf_add]

@[simp] theorem epochOf_removeInterval :
    (store.removeInterval interval).epochOf sector =
      if sector ∈ interval then none else store.epochOf sector := by
  simp [epochOf, removeInterval]

theorem unsynced_removeInterval :
    (store.removeInterval interval).Unsynced sector ↔
      sector ∉ interval ∧ store.Unsynced sector := by
  by_cases inside : sector ∈ interval <;> simp [Unsynced, inside]

theorem synced_removeInterval :
    (store.removeInterval interval).Synced sector ↔
      sector ∈ interval ∨ store.Synced sector := by
  rw [or_comm]
  exact store.syncedSectorSet.contains_add interval sector

/-- The history goes back with the identity element as its epoch, so the map stays as it is. -/
theorem reInsertSyncHistory_eq :
    store.reInsertSyncHistory = { store with syncedSectorSet := .empty } := by
  have unchanged (history : List (SectorInterval × Unit)) (sectors : TimedSectorMap) :
      history.foldl (fun sectors interval => TimedSectorMap.add sectors interval.1 0) sectors =
        sectors := by
    simp [TimedSectorMap.add]
  simp only [reInsertSyncHistory, unchanged]

theorem unsyncedSectorCount_eq_zero_iff :
    store.unsyncedSectorCount = 0 ↔ ∀ sector, ¬ store.Unsynced sector := by
  simp [unsyncedSectorCount, IntervalMap.cardinality_eq_zero_iff, Unsynced, epochOf]

/-- The segment that `GetInterval` chooses is one of the map. -/
theorem nextSegment_mem {segment : SectorInterval × TimeT}
    (chosen : store.nextSegment = some segment) : segment ∈ store.unsyncedSectorMap.segments := by
  rcases Option.or_eq_some_iff.mp chosen with found | ⟨_, first⟩
  · exact List.mem_of_find?_eq_some found
  · exact List.mem_of_head? first

theorem nextSegment_eq_none :
    store.nextSegment = none ↔ store.unsyncedSectorMap.segments = [] := by
  rw [nextSegment, Option.or_eq_none_iff, List.head?_eq_none_iff]
  exact ⟨And.right, fun empty => ⟨by simp [empty], empty⟩⟩

/-- With a segment to choose, `GetInterval` returns it with the answer for its epoch. -/
theorem getInterval_of_nextSegment {interval : SectorInterval} {modified : TimeT}
    (passed : epoch > store.volatileSeconds)
    (chosen : store.nextSegment = some (interval, modified)) :
    store.getInterval epoch = some
      ((interval, decide (modified > epoch - store.volatileSeconds)),
        { store with endOfLastContinuous := interval.upper }) := by
  simp only [getInterval, if_pos passed, chosen]

/-- `GetInterval` only moves the cursor. It returns a segment of the map with the
answer for the segment's epoch, or the empty interval when there is none. -/
theorem getInterval_eq_some {output : SectorInterval} {isVolatile : Bool}
    (got : store.getInterval epoch = some ((output, isVolatile), after)) :
    after = { store with endOfLastContinuous := output.upper } ∧
      ∀ sector ∈ output, ∃ modified, store.epochOf sector = some modified ∧
        isVolatile = decide (modified > epoch - store.volatileSeconds) := by
  unfold getInterval at got
  split_ifs at got with passed
  cases chosen : store.nextSegment with
  | none =>
      simp only [chosen, Option.some.injEq, Prod.mk.injEq] at got
      obtain ⟨⟨rfl, rfl⟩, rfl⟩ := got
      refine ⟨rfl, fun sector inside => ?_⟩
      have := mem_interval.mp inside
      dsimp only at this
      omega
  | some segment =>
      obtain ⟨interval, modified⟩ := segment
      simp only [chosen, Option.some.injEq, Prod.mk.injEq] at got
      obtain ⟨⟨rfl, rfl⟩, rfl⟩ := got
      exact ⟨rfl, fun sector inside => ⟨modified,
        store.unsyncedSectorMap.lookup_of_segment (store.nextSegment_mem chosen) inside, rfl⟩⟩

end Calls

end UnsyncedSectorStore

end LinuxAgent.UnsyncedSectors
