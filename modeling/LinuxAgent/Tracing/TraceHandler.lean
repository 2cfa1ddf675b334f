/- module: LinuxAgent/Tracing/TraceHandler
   source: tracing/trace_handler.{h,cc}
   digest: From a block trace to the interval that the trace handler adds to the store. -/

import LinuxAgent.UnsyncedSectors.Store

set_option autoImplicit false
set_option relaxedAutoImplicit false

namespace LinuxAgent.Tracing

open LinuxAgent.Lib.Segments LinuxAgent.UnsyncedSectors

/-- The fields of `struct blk_io_trace` that the trace handler reads. -/
structure BlkIoTrace where
  sector : UInt64
  bytes : UInt32
  action : UInt32
  deriving DecidableEq

/-- `BLK_TC_WRITE` of linux/blktrace_api.h. -/
def blkTcWrite : UInt32 := (1 : UInt32) <<< 1

/-- `BLK_TC_ACT`, which moves a category above the action bits. -/
def blkTcAct (category : UInt32) : UInt32 := category <<< 16

def sectorSize : UInt32 := 512

def BlkIoTrace.isWrite (trace : BlkIoTrace) : Bool :=
  trace.action &&& blkTcAct blkTcWrite != 0

/-- The interval [sector, sector + bytes / SECTOR_SIZE), computed in 64 bits. -/
def BlkIoTrace.interval (trace : BlkIoTrace) : SectorInterval :=
  ⟨trace.sector.toNat, (trace.sector + (trace.bytes / sectorSize).toUInt64).toNat⟩

/-- `AddTrace` at the time `now`: reads and empty writes are discarded. -/
def addTrace (store : UnsyncedSectorStore) (trace : BlkIoTrace) (now : TimeT) :
    Option UnsyncedSectorStore :=
  if trace.isWrite then
    if trace.bytes > 0 then store.addInterval trace.interval now else some store
  else some store

/-- The trace reports a write to the sector. -/
def BlkIoTrace.Covers (trace : BlkIoTrace) (sector : ℕ) : Prop :=
  (trace.isWrite = true ∧ trace.bytes > 0) ∧ sector ∈ trace.interval

instance (trace : BlkIoTrace) (sector : ℕ) : Decidable (trace.Covers sector) :=
  inferInstanceAs (Decidable ((_ ∧ _) ∧ _))

variable {store after : UnsyncedSectorStore} {trace : BlkIoTrace} {now : TimeT}

/-- A trace that is handed over changes the epochs of the covered sectors only.
The check in `AddInterval` keeps the time away from the epoch that the map ignores. -/
theorem addTrace_eq_some (forward : 0 ≤ store.volatileSeconds)
    (added : addTrace store trace now = some after) :
    after.volatileSeconds = store.volatileSeconds ∧
      ∀ sector, after.epochOf sector =
        if trace.Covers sector then
          some ((store.epochOf sector).elim now fun recorded => max recorded now)
        else store.epochOf sector := by
  by_cases write : trace.isWrite = true ∧ trace.bytes > 0
  · simp only [addTrace, write.1, write.2, if_true] at added
    obtain ⟨passed, rfl⟩ := (store.addInterval_eq_some trace.interval now).mp added
    have nonzero : now ≠ 0 := ne_of_gt (lt_of_le_of_lt forward passed)
    refine ⟨rfl, fun sector => ?_⟩
    simp [UnsyncedSectorStore.epochOf, UnsyncedSectorStore.epochOf_add, BlkIoTrace.Covers,
      write, nonzero]
  · have discarded : addTrace store trace now = some store := by
      unfold addTrace
      split_ifs with first second
      · exact absurd ⟨first, second⟩ write
      · rfl
      · rfl
    obtain rfl := Option.some.inj (discarded.symm.trans added)
    exact ⟨rfl, fun sector => by simp [BlkIoTrace.Covers, write]⟩

theorem unsynced_addTrace (forward : 0 ≤ store.volatileSeconds)
    (added : addTrace store trace now = some after) (sector : ℕ) :
    after.Unsynced sector ↔ trace.Covers sector ∨ store.Unsynced sector := by
  rw [UnsyncedSectorStore.Unsynced, (addTrace_eq_some forward added).2]
  by_cases covered : trace.Covers sector <;> simp [covered, UnsyncedSectorStore.Unsynced]

end LinuxAgent.Tracing
