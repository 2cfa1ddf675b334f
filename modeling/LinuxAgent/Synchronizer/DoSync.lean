/- module: LinuxAgent/Synchronizer/DoSync
   source: device_synchronizer/device_synchronizer.{h,cc}, freeze_helper/freeze_helper.{h,cc},
     block_device/mountable_block_device.cc, backup_status_tracker/sync_count_handler.cc
   digest: DoSync as a step machine beside the unfreeze thread, writes and the tracer. -/

import LinuxAgent.Tracing.TraceHandler
import LinuxAgent.Backup.Coordinator

/-!
The machine has one step for each access of `DoSync` to something that another
thread can see: the store, the coordinator, the two devices, the freeze state and
the status message. What lies between two accesses belongs to one of them. Clock
readings and the results of system calls are part of the event.

Application writes and deliveries of traces are steps of the source device, and
the thread that `FreezeHelper` starts has steps of its own.
-/

set_option autoImplicit false
set_option relaxedAutoImplicit false

namespace LinuxAgent.Synchronizer

open LinuxAgent.Lib.Segments LinuxAgent.UnsyncedSectors LinuxAgent.Tracing LinuxAgent.Backup

/-- The block size of the source, a positive number of whole sectors. -/
structure BlockSize where
  bytes : ℕ
  positive : 0 < bytes
  aligned : bytes % 512 = 0

def twoSectors : BlockSize := ⟨1024, by decide, by decide⟩

def BlockSize.sectorsPerBlock (blockSize : BlockSize) : ℕ := blockSize.bytes / 512

theorem BlockSize.bytes_eq (blockSize : BlockSize) :
    blockSize.bytes = blockSize.sectorsPerBlock * 512 ∧ 0 < blockSize.sectorsPerBlock := by
  have positive := blockSize.positive
  have aligned := blockSize.aligned
  unfold sectorsPerBlock
  omega

/-- `ONE_MEGABYTE / SECTOR_SIZE`. -/
def sectorsPerMegabyte : ℕ := 1024 * 1024 / 512

def secondsBetweenFlushes : TimeT := 5

section Device

variable {β : Type*}

/-- A source device: its sectors, its store, the traces that have not reached the
store yet, and whether its file system is frozen. -/
structure Device (β : Type*) where
  sectors : ℕ → β
  store : UnsyncedSectorStore
  inFlight : List BlkIoTrace
  frozen : Bool

inductive DeviceEvent (β : Type*) where
  /-- An application writes `contents` to the sectors of the trace. -/
  | write (trace : BlkIoTrace) (contents : ℕ → β)
  /-- The tracer hands over one of the traces in flight. -/
  | deliver (index : ℕ) (now : TimeT)

namespace Device

/-- A write is reported by a write trace of whole sectors within the range of `off_t`. -/
def Reports (trace : BlkIoTrace) : Prop :=
  trace.isWrite = true ∧ trace.bytes.toNat % 512 = 0 ∧
    trace.sector.toNat * 512 + trace.bytes.toNat < 2 ^ 63

instance (trace : BlkIoTrace) : Decidable (Reports trace) :=
  inferInstanceAs (Decidable (_ ∧ _ ∧ _))

def step (device : Device β) : DeviceEvent β → Option (Device β)
  | .write trace contents =>
      if Reports trace then
        some { device with
          sectors := fun sector =>
            if trace.Covers sector then contents sector else device.sectors sector
          inFlight := device.inFlight ++ [trace] }
      else none
  | .deliver index now =>
      match device.inFlight[index]? with
      | some trace =>
          (addTrace device.store trace now).map fun store =>
            { device with store := store, inFlight := device.inFlight.eraseIdx index }
      | none => none

/-- The sector is in the store, or a trace in flight will put it there. -/
def Covered (device : Device β) (sector : ℕ) : Prop :=
  device.store.Unsynced sector ∨ ∃ trace ∈ device.inFlight, trace.Covers sector

instance (device : Device β) (sector : ℕ) : Decidable (device.Covered sector) :=
  inferInstanceAs (Decidable (_ ∨ ∃ trace ∈ device.inFlight, trace.Covers sector))

section Steps

variable {device after : Device β} {trace : BlkIoTrace} {contents : ℕ → β} {index : ℕ}
  {now : TimeT}

theorem write_eq_some : device.step (.write trace contents) = some after ↔
    Reports trace ∧ after = { device with
      sectors := fun sector =>
        if trace.Covers sector then contents sector else device.sectors sector
      inFlight := device.inFlight ++ [trace] } := by
  simp only [step]
  split_ifs with reports <;> simp [reports, eq_comm]

theorem deliver_eq_some : device.step (.deliver index now) = some after ↔
    ∃ trace store, device.inFlight[index]? = some trace ∧
      addTrace device.store trace now = some store ∧
      after = { device with store := store, inFlight := device.inFlight.eraseIdx index } := by
  simp only [step]
  cases found : device.inFlight[index]? with
  | none => simp
  | some trace => simp [eq_comm]

/-- A write covers what it changes. -/
theorem covered_write (taken : device.step (.write trace contents) = some after) (sector : ℕ) :
    after.Covered sector ↔ trace.Covers sector ∨ device.Covered sector := by
  obtain ⟨_, rfl⟩ := write_eq_some.mp taken
  simp only [Covered, List.mem_append, List.mem_singleton, or_and_right, exists_or,
    exists_eq_left]
  rw [← or_assoc, or_comm]

/-- A delivery moves sectors from the traces in flight to the store. -/
theorem covered_deliver (forward : 0 ≤ device.store.volatileSeconds)
    (taken : device.step (.deliver index now) = some after) (sector : ℕ) :
    after.Covered sector ↔ device.Covered sector := by
  obtain ⟨trace, store, found, added, rfl⟩ := deliver_eq_some.mp taken
  have split : (∃ other ∈ device.inFlight, other.Covers sector) ↔
      trace.Covers sector ∨ ∃ other ∈ device.inFlight.eraseIdx index, other.Covers sector := by
    obtain ⟨inside, rfl⟩ := List.getElem?_eq_some_iff.mp found
    simp only [← (List.getElem_cons_eraseIdx_perm inside).mem_iff, List.mem_cons, or_and_right,
      exists_or, exists_eq_left]
  simp only [Covered, unsynced_addTrace forward added, split]
  rw [or_assoc, or_left_comm]

theorem volatileSeconds_step {e : DeviceEvent β} (forward : 0 ≤ device.store.volatileSeconds)
    (taken : device.step e = some after) :
    after.store.volatileSeconds = device.store.volatileSeconds := by
  cases e with
  | write trace contents =>
      obtain ⟨_, rfl⟩ := write_eq_some.mp taken
      rfl
  | deliver index now =>
      obtain ⟨trace, store, _, added, rfl⟩ := deliver_eq_some.mp taken
      exact (addTrace_eq_some forward added).1

end Steps

end Device

end Device

/-- The thread that `BeginRequiredFreezeBlock` starts. `is_frozen_` is true while it sleeps. -/
inductive UnfreezeThread where
  | idle
  | froze
  | sleeping
  | waking
  deriving DecidableEq

def UnfreezeThread.isFrozen (thread : UnfreezeThread) : Bool := thread == .sleeping

inductive UnfreezeEvent where
  | setFrozen
  | clearFrozen
  | thaw (failed : Bool)
  deriving DecidableEq

/-- What `BeginRequiredFreezeBlock` meets when it has to freeze. `Freeze` does
nothing for a device that is not mounted. A thaw that fails before the caller
wakes up is reported to it as well. -/
inductive FreezeResult where
  | froze (mounted : Bool)
  | freezeFailed (what : String)
  | thawFailed (what : String)
  deriving DecidableEq

/-- The result of `pread` or `pwrite`; devices transfer whole sectors. -/
inductive TransferResult where
  | full
  | error
  | short (sectors : ℕ)
  deriving DecidableEq

/-- One round of the block loop. -/
structure BlockCopy where
  interval : SectorInterval
  isVolatile : Bool
  i : ℕ
  offset : ℕ
  deriving DecidableEq

/-- The two callbacks that `DoSync` gives to `RunWhileFrozen`. -/
inductive FrozenTask where
  | count
  | copy (block : BlockCopy)
  deriving DecidableEq

/-- How a call of `DoSync` ends. -/
inductive Outcome where
  | finished
  | cancelled
  | threw (what : String)
  deriving DecidableEq

/-- Where `DoSync` stands. `attempts` is `freeze_attempts` of the innermost
`RunWhileFrozen`, and 0 for a block that is copied without it. -/
inductive Pc (β : Type*) where
  | unstarted
  | opening
  | loopHead
  | counting
  | freezing (task : FrozenTask) (attempts : ℕ)
  | recounting (attempts : ℕ)
  | reading (block : BlockCopy) (attempts : ℕ)
  | writing (block : BlockCopy) (attempts : ℕ) (buf : ℕ → β)
  | ending (task : FrozenTask) (attempts : ℕ)
  | testing
  | waiting
  | getting
  | removing (interval : SectorInterval) (isVolatile : Bool) (now : TimeT)
  | copied (interval : SectorInterval)
  | leaving (outcome : Outcome)
  | done (outcome : Outcome)

/-- The points without a meaning of their own for what has been read or decided. -/
def Pc.plain {β : Type*} : Pc β → Bool
  | .loopHead | .counting | .freezing _ _ | .recounting _ | .reading _ _ => true
  | .waiting | .getting | .copied _ => true
  | _ => false

structure BlockDeviceStatus where
  bytesTransferred : ℕ
  bytesUnsynced : ℕ
  deriving DecidableEq

/-- A synchronizer with the local variables of its `DoSync`. `frozenSource` is not
in the code: it records the source as it was when the callback of `RunWhileFrozen`
last read the count. -/
structure DeviceSynchronizer (β : Type*) where
  blockSize : BlockSize
  destination : ℕ → β
  unfreezeThread : UnfreezeThread
  unsyncedSectorCount : ℕ
  flushTime : TimeT
  wasDone : Bool
  totalBytesSent : ℕ
  status : BlockDeviceStatus
  frozenSource : Option (ℕ → β)
  pc : Pc β

/-- What the steps of one synchronizer act on. -/
structure SyncState (β : Type*) where
  coordinator : BackupCoordinator
  device : Device β
  sync : DeviceSynchronizer β

inductive SyncEvent where
  | openDevices (failure : Option String)
  | isCancelled
  | unsyncedSectorCount (now flushed : TimeT)
  | beginRequiredFreezeBlock (result : FreezeResult)
  | recount
  | endRequiredFreezeBlock
  | testComplete
  | waitUntilFinished
  | getInterval (now : TimeT)
  | removeInterval
  | pread (result : TransferResult)
  | pwrite (result : TransferResult)
  | updateSyncedCount
  | leave
  deriving DecidableEq

section Machine

variable {β : Type*}

namespace DeviceSynchronizer

/-- A synchronizer whose `DoSync` is about to run. -/
def new (blockSize : BlockSize) (destination : ℕ → β) : DeviceSynchronizer β where
  blockSize := blockSize
  destination := destination
  unfreezeThread := .idle
  unsyncedSectorCount := 0
  flushTime := 0
  wasDone := false
  totalBytesSent := 0
  status := ⟨0, 0⟩
  frozenSource := none
  pc := .opening

/-- The head of the block loop. -/
def blockLoop (block : BlockCopy) : Pc β :=
  if block.i < block.interval.cardinality then
    if block.isVolatile then .freezing (.copy block) 0 else .reading block 0
  else .copied block.interval

/-- The block loop after a copied block. -/
def nextBlock (sync : DeviceSynchronizer β) (block : BlockCopy) : Pc β :=
  blockLoop { block with
    i := block.i + sync.blockSize.sectorsPerBlock
    offset := block.offset + sync.blockSize.bytes }

/-- The sector lies in the first `bytes` bytes from the block's offset on. -/
def Within (block : BlockCopy) (bytes sector : ℕ) : Prop :=
  block.offset ≤ sector * 512 ∧ sector * 512 + 512 ≤ block.offset + bytes

instance (block : BlockCopy) (bytes sector : ℕ) : Decidable (Within block bytes sector) :=
  inferInstanceAs (Decidable (_ ∧ _))

/-- The destination after `pwrite` transferred `bytes` bytes of the buffer. -/
def written (sync : DeviceSynchronizer β) (block : BlockCopy) (bytes : ℕ) (buf : ℕ → β) : ℕ → β :=
  fun sector => if Within block bytes sector then buf sector else sync.destination sector

end DeviceSynchronizer

namespace SyncState

/-- `DoSync` is called for a device and a destination. -/
def new (coordinator : BackupCoordinator) (device : Device β) (blockSize : BlockSize)
    (destination : ℕ → β) : SyncState β :=
  ⟨coordinator, device, .new blockSize destination⟩

def goto (s : SyncState β) (pc : Pc β) : SyncState β :=
  { s with sync := { s.sync with pc := pc } }

def throw (s : SyncState β) (what : String) : SyncState β := s.goto (.leaving (.threw what))

/-- `UnsyncedSectorCount`, and the flush time when less than a megabyte is left. -/
def unsyncedSectorCount (s : SyncState β) (now flushed : TimeT) : SyncState β :=
  let count := s.device.store.unsyncedSectorCount
  if count < sectorsPerMegabyte then
    { s with sync := { s.sync with
      unsyncedSectorCount := count
      flushTime := if now - s.sync.flushTime > secondsBetweenFlushes then flushed
        else s.sync.flushTime
      pc := .freezing .count 0 } }
  else { s with sync := { s.sync with unsyncedSectorCount := count, pc := .testing } }

/-- The callback of `RunWhileFrozen` starts. -/
def callback (task : FrozenTask) (attempts : ℕ) : Pc β :=
  match task with
  | .count => .recounting attempts
  | .copy block => .reading block attempts

/-- One round of `RunWhileFrozen` up to the callback. A thread that has frozen the
device and is not asleep is joined first, so there is no step before it is idle. -/
def beginRequiredFreezeBlock (s : SyncState β) (task : FrozenTask) (attempts : ℕ)
    (result : FreezeResult) : Option (SyncState β) :=
  if attempts + 1 > 10 then some (s.throw "Unable to read off of disk quickly enough")
  else match s.sync.unfreezeThread with
  | .sleeping => some (s.goto (callback task (attempts + 1)))
  | .idle =>
      match result with
      | .froze mounted => some
          { s with
            device := { s.device with frozen := s.device.frozen || mounted }
            sync := { s.sync with
              unfreezeThread := .froze
              pc := callback task (attempts + 1) } }
      | .freezeFailed what => some (s.throw what)
      | .thawFailed what => some
          { s.throw what with device := { s.device with frozen := true } }
  | .froze | .waking => none

/-- The callback that recounts. -/
def recount (s : SyncState β) (attempts : ℕ) : SyncState β :=
  { s with sync := { s.sync with
    unsyncedSectorCount := s.device.store.unsyncedSectorCount
    frozenSource := some s.device.sectors
    pc := .ending .count attempts } }

/-- What follows a `RunWhileFrozen` that succeeded. -/
def afterFrozen (s : SyncState β) : FrozenTask → Pc β
  | .count => .testing
  | .copy block => s.sync.nextBlock block

/-- `UpdateUnsyncedCount` and the test for completion, with the call to the
coordinator. The answer of `SignalMoreWorkToDo` is not looked at. -/
def testComplete (s : SyncState β) : SyncState β :=
  let status := { s.sync.status with bytesUnsynced := s.sync.unsyncedSectorCount * 512 }
  if s.sync.flushTime > 0 ∧ s.sync.unsyncedSectorCount = 0 then
    { s with
      coordinator := if s.sync.wasDone then s.coordinator else s.coordinator.signalFinished
      sync := { s.sync with status := status, wasDone := true, pc := .waiting } }
  else
    { s with
      coordinator := if s.sync.wasDone then s.coordinator.signalMoreWorkToDo.2 else s.coordinator
      sync := { s.sync with status := status, wasDone := false, pc := .getting } }

/-- The copy of a block ends `copy_func`. -/
def afterWrite (s : SyncState β) (block : BlockCopy) (attempts : ℕ) : Pc β :=
  if block.isVolatile then .ending (.copy block) attempts else s.sync.nextBlock block

/-- A step of `DoSync`. -/
def doSync (s : SyncState β) (e : SyncEvent) : Option (SyncState β) :=
  match e, s.sync.pc with
  | .openDevices none, .opening => some (s.goto .loopHead)
  | .openDevices (some what), .opening => some (s.throw what)
  | .isCancelled, .loopHead => some (s.goto
      (if s.coordinator.isCancelled then .leaving .cancelled else .counting))
  | .unsyncedSectorCount now flushed, .counting => some (s.unsyncedSectorCount now flushed)
  | .beginRequiredFreezeBlock result, .freezing task attempts =>
      s.beginRequiredFreezeBlock task attempts result
  | .recount, .recounting attempts => some (s.recount attempts)
  | .endRequiredFreezeBlock, .ending task attempts => some (s.goto
      (if s.sync.unfreezeThread.isFrozen then s.afterFrozen task else .freezing task attempts))
  | .testComplete, .testing => some s.testComplete
  | .waitUntilFinished, .waiting => (s.coordinator.waitUntilFinished 500).map fun isOver =>
      s.goto (if isOver then .leaving .finished else .loopHead)
  | .getInterval now, .getting => (s.device.store.getInterval now).map fun got =>
      { s with
        device := { s.device with store := got.2 }
        sync := { s.sync with pc := .removing got.1.1 got.1.2 now } }
  | .removeInterval, .removing interval isVolatile _ => some
      { s with
        device := { s.device with store := s.device.store.removeInterval interval }
        sync := { s.sync with
          pc := DeviceSynchronizer.blockLoop ⟨interval, isVolatile, 0, interval.lower * 512⟩ } }
  | .pread .full, .reading block attempts => some
      (s.goto (.writing block attempts s.device.sectors))
  | .pread .error, .reading _ _ => some (s.throw "Error reading from source")
  | .pread (.short _), .reading _ _ => some (s.throw "Unexpected read result")
  | .pwrite .full, .writing block attempts buf => some
      { s with sync := { s.sync with
        destination := s.sync.written block s.sync.blockSize.bytes buf
        pc := s.afterWrite block attempts } }
  | .pwrite .error, .writing _ _ _ => some (s.throw "Error writing to destination")
  | .pwrite (.short sectors), .writing block _ buf =>
      if sectors < s.sync.blockSize.sectorsPerBlock then some
        { s with sync := { s.sync with
          destination := s.sync.written block (sectors * 512) buf
          pc := .leaving (.threw "Unexpected read result") } }
      else none
  | .updateSyncedCount, .copied interval =>
      let totalBytesSent := s.sync.totalBytesSent + interval.cardinality * 512
      some { s with sync := { s.sync with
        totalBytesSent := totalBytesSent
        status := { s.sync.status with bytesTransferred := totalBytesSent }
        pc := .loopHead } }
  | .leave, .leaving outcome =>
      if s.sync.unfreezeThread = .idle then some (s.goto (.done outcome)) else none
  | _, _ => none

/-- A step of the thread that `BeginRequiredFreezeBlock` started. -/
def unfreeze (s : SyncState β) (e : UnfreezeEvent) : Option (SyncState β) :=
  match e, s.sync.unfreezeThread with
  | .setFrozen, .froze => some { s with sync := { s.sync with unfreezeThread := .sleeping } }
  | .clearFrozen, .sleeping => some { s with sync := { s.sync with unfreezeThread := .waking } }
  | .thaw failed, .waking => some
      { s with
        device := { s.device with frozen := s.device.frozen && failed }
        sync := { s.sync with unfreezeThread := .idle } }
  | _, _ => none

/-- Counting changes neither the devices nor the coordinator. -/
theorem unsyncedSectorCount_frame (s : SyncState β) (now flushed : TimeT) :
    (s.unsyncedSectorCount now flushed).device = s.device ∧
      (s.unsyncedSectorCount now flushed).sync.destination = s.sync.destination := by
  unfold unsyncedSectorCount
  dsimp only
  split_ifs <;> exact ⟨rfl, rfl⟩

/-- The test for completion does not change the devices. -/
theorem testComplete_frame (s : SyncState β) :
    s.testComplete.device = s.device ∧
      s.testComplete.sync.destination = s.sync.destination := by
  unfold testComplete
  dsimp only
  split_ifs <;> exact ⟨rfl, rfl⟩

theorem unfreeze_cases {s t : SyncState β} {e : UnfreezeEvent} (taken : s.unfreeze e = some t) :
    ∃ frozen thread, t = { s with
      device := { s.device with frozen := frozen }
      sync := { s.sync with unfreezeThread := thread } } := by
  unfold unfreeze at taken
  split at taken
  next => exact ⟨s.device.frozen, .sleeping, (Option.some.inj taken).symm⟩
  next => exact ⟨s.device.frozen, .waking, (Option.some.inj taken).symm⟩
  next failed _ => exact ⟨s.device.frozen && failed, .idle, (Option.some.inj taken).symm⟩
  next => exact absurd taken (by simp)

/-- Everything that a step of `DoSync` can do. -/
inductive DoSyncStep (s : SyncState β) : SyncEvent → SyncState β → Prop where
  | opened (pc : s.sync.pc = .opening) : DoSyncStep s (.openDevices none) (s.goto .loopHead)
  | openFailed (what : String) (pc : s.sync.pc = .opening) :
      DoSyncStep s (.openDevices (some what)) (s.throw what)
  | cancelled (pc : s.sync.pc = .loopHead) (cancelled : s.coordinator.cancelled = true) :
      DoSyncStep s .isCancelled (s.goto (.leaving .cancelled))
  | continued (pc : s.sync.pc = .loopHead) (going : s.coordinator.cancelled = false) :
      DoSyncStep s .isCancelled (s.goto .counting)
  | counted (now flushed : TimeT) (pc : s.sync.pc = .counting) :
      DoSyncStep s (.unsyncedSectorCount now flushed) (s.unsyncedSectorCount now flushed)
  | tired (task : FrozenTask) (attempts : ℕ) (result : FreezeResult)
      (pc : s.sync.pc = .freezing task attempts) (tired : 10 ≤ attempts) :
      DoSyncStep s (.beginRequiredFreezeBlock result)
        (s.throw "Unable to read off of disk quickly enough")
  | stillFrozen (task : FrozenTask) (attempts : ℕ) (result : FreezeResult)
      (pc : s.sync.pc = .freezing task attempts) (permitted : attempts < 10)
      (asleep : s.sync.unfreezeThread = .sleeping) :
      DoSyncStep s (.beginRequiredFreezeBlock result) (s.goto (callback task (attempts + 1)))
  | froze (task : FrozenTask) (attempts : ℕ) (mounted : Bool)
      (pc : s.sync.pc = .freezing task attempts) (permitted : attempts < 10)
      (idle : s.sync.unfreezeThread = .idle) :
      DoSyncStep s (.beginRequiredFreezeBlock (.froze mounted))
        { s with
          device := { s.device with frozen := s.device.frozen || mounted }
          sync := { s.sync with
            unfreezeThread := .froze
            pc := callback task (attempts + 1) } }
  | freezeFailed (task : FrozenTask) (attempts : ℕ) (what : String)
      (pc : s.sync.pc = .freezing task attempts) (idle : s.sync.unfreezeThread = .idle) :
      DoSyncStep s (.beginRequiredFreezeBlock (.freezeFailed what)) (s.throw what)
  | thawFailed (task : FrozenTask) (attempts : ℕ) (what : String)
      (pc : s.sync.pc = .freezing task attempts) (idle : s.sync.unfreezeThread = .idle) :
      DoSyncStep s (.beginRequiredFreezeBlock (.thawFailed what))
        { s.throw what with device := { s.device with frozen := true } }
  | recounted (attempts : ℕ) (pc : s.sync.pc = .recounting attempts) :
      DoSyncStep s .recount (s.recount attempts)
  | ended (task : FrozenTask) (attempts : ℕ) (pc : s.sync.pc = .ending task attempts) :
      DoSyncStep s .endRequiredFreezeBlock (s.goto (s.afterFrozen task))
  | retried (task : FrozenTask) (attempts : ℕ) (pc : s.sync.pc = .ending task attempts) :
      DoSyncStep s .endRequiredFreezeBlock (s.goto (.freezing task attempts))
  | tested (pc : s.sync.pc = .testing) : DoSyncStep s .testComplete s.testComplete
  | waited (pc : s.sync.pc = .waiting) :
      DoSyncStep s .waitUntilFinished
        (s.goto (if s.coordinator.condition then .leaving .finished else .loopHead))
  | got (now : TimeT) (interval : SectorInterval) (isVolatile : Bool)
      (store : UnsyncedSectorStore) (pc : s.sync.pc = .getting)
      (got : s.device.store.getInterval now = some ((interval, isVolatile), store)) :
      DoSyncStep s (.getInterval now)
        { s with
          device := { s.device with store := store }
          sync := { s.sync with pc := .removing interval isVolatile now } }
  | removed (interval : SectorInterval) (isVolatile : Bool) (now : TimeT)
      (pc : s.sync.pc = .removing interval isVolatile now) :
      DoSyncStep s .removeInterval
        { s with
          device := { s.device with store := s.device.store.removeInterval interval }
          sync := { s.sync with
            pc := DeviceSynchronizer.blockLoop
              ⟨interval, isVolatile, 0, interval.lower * 512⟩ } }
  | read (block : BlockCopy) (attempts : ℕ) (pc : s.sync.pc = .reading block attempts) :
      DoSyncStep s (.pread .full) (s.goto (.writing block attempts s.device.sectors))
  | readFailed (block : BlockCopy) (attempts : ℕ) (result : TransferResult) (what : String)
      (pc : s.sync.pc = .reading block attempts) (partly : result ≠ .full) :
      DoSyncStep s (.pread result) (s.throw what)
  | wrote (block : BlockCopy) (attempts : ℕ) (buf : ℕ → β)
      (pc : s.sync.pc = .writing block attempts buf) :
      DoSyncStep s (.pwrite .full)
        { s with sync := { s.sync with
          destination := s.sync.written block s.sync.blockSize.bytes buf
          pc := s.afterWrite block attempts } }
  | writeFailed (block : BlockCopy) (attempts : ℕ) (buf : ℕ → β)
      (pc : s.sync.pc = .writing block attempts buf) :
      DoSyncStep s (.pwrite .error) (s.throw "Error writing to destination")
  | wroteShort (block : BlockCopy) (attempts : ℕ) (buf : ℕ → β) (sectors : ℕ)
      (pc : s.sync.pc = .writing block attempts buf)
      (short : sectors < s.sync.blockSize.sectorsPerBlock) :
      DoSyncStep s (.pwrite (.short sectors))
        { s with sync := { s.sync with
          destination := s.sync.written block (sectors * 512) buf
          pc := .leaving (.threw "Unexpected read result") } }
  | updated (interval : SectorInterval) (totalBytesSent : ℕ)
      (pc : s.sync.pc = .copied interval) :
      DoSyncStep s .updateSyncedCount
        { s with sync := { s.sync with
          totalBytesSent := totalBytesSent
          status := { s.sync.status with bytesTransferred := totalBytesSent }
          pc := .loopHead } }
  | left (outcome : Outcome) (pc : s.sync.pc = .leaving outcome)
      (idle : s.sync.unfreezeThread = .idle) : DoSyncStep s .leave (s.goto (.done outcome))

private theorem beginRequiredFreezeBlock_cases {s t : SyncState β} {task : FrozenTask}
    {attempts : ℕ} {result : FreezeResult} (pc : s.sync.pc = .freezing task attempts)
    (taken : s.beginRequiredFreezeBlock task attempts result = some t) :
    DoSyncStep s (.beginRequiredFreezeBlock result) t := by
  unfold beginRequiredFreezeBlock at taken
  split_ifs at taken with tired
  · obtain rfl := Option.some.inj taken
    exact .tired task attempts result pc (by omega)
  · cases thread : s.sync.unfreezeThread with
    | idle =>
        cases result with
        | froze mounted =>
            simp only [thread, Option.some.injEq] at taken
            exact taken ▸ .froze task attempts mounted pc (by omega) thread
        | freezeFailed what =>
            simp only [thread, Option.some.injEq] at taken
            exact taken ▸ .freezeFailed task attempts what pc thread
        | thawFailed what =>
            simp only [thread, Option.some.injEq] at taken
            exact taken ▸ .thawFailed task attempts what pc thread
    | sleeping =>
        simp only [thread, Option.some.injEq] at taken
        exact taken ▸ .stillFrozen task attempts result pc (by omega) thread
    | froze => simp [thread] at taken
    | waking => simp [thread] at taken

theorem doSync_cases {s t : SyncState β} {e : SyncEvent} (taken : s.doSync e = some t) :
    DoSyncStep s e t := by
  unfold doSync at taken
  split at taken
  next pc => exact Option.some.inj taken ▸ .opened pc
  next what pc => exact Option.some.inj taken ▸ .openFailed what pc
  next pc =>
    obtain rfl := Option.some.inj taken
    rw [BackupCoordinator.isCancelled]
    cases flag : s.coordinator.cancelled with
    | true => exact .cancelled pc flag
    | false => exact .continued pc flag
  next now flushed pc => exact Option.some.inj taken ▸ .counted now flushed pc
  next result task attempts pc => exact beginRequiredFreezeBlock_cases pc taken
  next attempts pc => exact Option.some.inj taken ▸ .recounted attempts pc
  next task attempts pc =>
    obtain rfl := Option.some.inj taken
    split_ifs with frozen
    · exact .ended task attempts pc
    · exact .retried task attempts pc
  next pc => exact Option.some.inj taken ▸ .tested pc
  next pc =>
    obtain ⟨isOver, answered, rfl⟩ := Option.map_eq_some_iff.mp taken
    obtain rfl := Option.some.inj answered
    exact .waited pc
  next now pc =>
    obtain ⟨⟨⟨interval, isVolatile⟩, store⟩, got, rfl⟩ := Option.map_eq_some_iff.mp taken
    exact .got now interval isVolatile store pc got
  next interval isVolatile now pc =>
    exact Option.some.inj taken ▸ .removed interval isVolatile now pc
  next block attempts pc => exact Option.some.inj taken ▸ .read block attempts pc
  next block attempts pc =>
    exact Option.some.inj taken ▸ .readFailed block attempts _ _ pc (by simp)
  next block attempts pc =>
    exact Option.some.inj taken ▸ .readFailed block attempts _ _ pc (by simp)
  next block attempts buf pc => exact Option.some.inj taken ▸ .wrote block attempts buf pc
  next block attempts buf pc => exact Option.some.inj taken ▸ .writeFailed block attempts buf pc
  next sectors block attempts buf pc =>
    split_ifs at taken with short
    exact Option.some.inj taken ▸ .wroteShort block attempts buf sectors pc short
  next interval pc => exact Option.some.inj taken ▸ .updated interval _ pc
  next outcome pc =>
    split_ifs at taken with idle
    exact Option.some.inj taken ▸ .left outcome pc idle
  next => exact absurd taken (by simp)

/-- What the test for completion tells the coordinator. -/
theorem testComplete_cases (s : SyncState β) :
    (s.sync.flushTime > 0 ∧ s.sync.unsyncedSectorCount = 0 ∧ s.sync.wasDone = false ∧
      s.testComplete.coordinator = s.coordinator.signalFinished ∧
      s.testComplete.sync.wasDone = true) ∨
    (¬ (s.sync.flushTime > 0 ∧ s.sync.unsyncedSectorCount = 0) ∧ s.sync.wasDone = true ∧
      s.testComplete.coordinator = s.coordinator.signalMoreWorkToDo.2 ∧
      s.testComplete.sync.wasDone = false) ∨
    ((s.sync.wasDone = true ↔ s.sync.flushTime > 0 ∧ s.sync.unsyncedSectorCount = 0) ∧
      s.testComplete.coordinator = s.coordinator ∧
      s.testComplete.sync.wasDone = s.sync.wasDone) := by
  unfold testComplete
  by_cases complete : s.sync.flushTime > 0 ∧ s.sync.unsyncedSectorCount = 0 <;>
    cases done : s.sync.wasDone <;> simp [complete]

/-- No other step calls the coordinator. -/
theorem silent_doSync {s t : SyncState β} {e : SyncEvent} (taken : s.DoSyncStep e t) :
    (e = .testComplete ∧ s.sync.pc = .testing ∧ t = s.testComplete) ∨
      (t.coordinator = s.coordinator ∧ t.sync.wasDone = s.sync.wasDone) := by
  cases taken with
  | counted now flushed pc =>
      unfold unsyncedSectorCount
      dsimp only
      split_ifs <;> exact Or.inr ⟨rfl, rfl⟩
  | tested pc => exact Or.inl ⟨rfl, pc, rfl⟩
  | _ => exact Or.inr ⟨rfl, rfl⟩

/-- `DoSync` changes nothing but the count of the coordinator. -/
theorem coordinator_doSync {s t : SyncState β} {e : SyncEvent} (taken : s.DoSyncStep e t) :
    t.coordinator.cancelled = s.coordinator.cancelled ∧
      t.coordinator.fatalErrors = s.coordinator.fatalErrors := by
  rcases silent_doSync taken with ⟨_, _, rfl⟩ | ⟨same, _⟩
  · unfold testComplete BackupCoordinator.signalMoreWorkToDo BackupCoordinator.signalFinished
    dsimp only
    split_ifs <;> exact ⟨rfl, rfl⟩
  · exact ⟨by rw [same], by rw [same]⟩

/-- Where a step of `DoSync` can lead to. Most points are only passed through. -/
inductive Arrival (s : SyncState β) (e : SyncEvent) (t : SyncState β) : Prop where
  | passing (plain : t.sync.pc.plain = true)
  | writing (block : BlockCopy) (attempts : ℕ)
      (here : t = s.goto (.writing block attempts s.device.sectors))
  | recounted (attempts : ℕ) (pc : s.sync.pc = .recounting attempts) (own : e = .recount)
      (here : t = s.recount attempts)
  | ending (block : BlockCopy) (attempts : ℕ) (here : t.sync.pc = .ending (.copy block) attempts)
  | manyLeft (here : t.sync.pc = .testing)
      (many : sectorsPerMegabyte ≤ t.sync.unsyncedSectorCount)
  | testing (attempts : ℕ) (pc : s.sync.pc = .ending .count attempts) (here : t = s.goto .testing)
  | removing (now : TimeT) (interval : SectorInterval) (isVolatile : Bool)
      (store : UnsyncedSectorStore)
      (got : s.device.store.getInterval now = some ((interval, isVolatile), store))
      (device : t.device = { s.device with store := store })
      (here : t.sync.pc = .removing interval isVolatile now)
  | leaving (outcome : Outcome) (here : t.sync.pc = .leaving outcome)
      (flag : outcome = .cancelled → s.coordinator.cancelled = true)
  | done (outcome : Outcome) (pc : s.sync.pc = .leaving outcome)
      (here : t = s.goto (.done outcome))

private theorem plain_blockLoop (block : BlockCopy) :
    (DeviceSynchronizer.blockLoop block : Pc β).plain = true := by
  unfold DeviceSynchronizer.blockLoop
  split_ifs <;> rfl

private theorem plain_callback (task : FrozenTask) (attempts : ℕ) :
    (callback task attempts : Pc β).plain = true := by
  cases task <;> rfl

theorem arrival {s t : SyncState β} {e : SyncEvent} (taken : s.DoSyncStep e t) :
    s.Arrival e t := by
  cases taken with
  | openFailed what pc => exact .leaving _ rfl (by simp)
  | cancelled pc flag => exact .leaving _ rfl fun _ => flag
  | counted now flushed pc =>
      by_cases few : s.device.store.unsyncedSectorCount < sectorsPerMegabyte
      · exact .passing (by simp [unsyncedSectorCount, few, Pc.plain])
      · exact .manyLeft (by simp [unsyncedSectorCount, few])
          (by simpa [unsyncedSectorCount, few] using not_lt.mp few)
  | tired => exact .leaving _ rfl (by simp)
  | stillFrozen task attempts => exact .passing (plain_callback task (attempts + 1))
  | froze task attempts => exact .passing (plain_callback task (attempts + 1))
  | freezeFailed => exact .leaving _ rfl (by simp)
  | thawFailed => exact .leaving _ rfl (by simp)
  | recounted attempts pc => exact .recounted attempts pc rfl rfl
  | ended task attempts pc =>
      cases task with
      | count => exact .testing attempts pc rfl
      | copy block => exact .passing (plain_blockLoop _)
  | tested pc =>
      refine .passing ?_
      unfold testComplete
      dsimp only
      split_ifs <;> rfl
  | waited pc =>
      by_cases isOver : s.coordinator.condition = true
      · exact .leaving .finished (by simp [goto, isOver]) (by simp)
      · exact .passing (by simp [goto, isOver, Pc.plain])
  | got now interval isVolatile store pc got =>
      exact .removing now interval isVolatile store got rfl rfl
  | removed interval isVolatile now pc => exact .passing (plain_blockLoop _)
  | read block attempts pc => exact .writing block attempts rfl
  | readFailed => exact .leaving _ rfl (by simp)
  | wrote block attempts buf pc =>
      by_cases isVolatile : block.isVolatile = true
      · exact .ending block attempts (by simp [afterWrite, isVolatile])
      · exact .passing (by simp [afterWrite, isVolatile, DeviceSynchronizer.nextBlock,
          plain_blockLoop])
  | writeFailed => exact .leaving _ rfl (by simp)
  | wroteShort => exact .leaving _ rfl (by simp)
  | left outcome pc idle => exact .done outcome pc rfl
  | _ => exact .passing rfl

theorem volatileSeconds_doSync {s t : SyncState β} {e : SyncEvent} (taken : s.DoSyncStep e t) :
    t.device.store.volatileSeconds = s.device.store.volatileSeconds := by
  cases taken with
  | counted now flushed pc => rw [(s.unsyncedSectorCount_frame now flushed).1]
  | tested pc => rw [s.testComplete_frame.1]
  | got now interval isVolatile store pc got =>
      obtain ⟨rfl, _⟩ := s.device.store.getInterval_eq_some now got
      rfl
  | _ => rfl

end SyncState

/-- One synchronizer in its surroundings. Other threads do whatever they like to the coordinator. -/
inductive Event (β : Type*) where
  | sync (e : SyncEvent)
  | unfreeze (e : UnfreezeEvent)
  | device (e : DeviceEvent β)
  | others (coordinator : BackupCoordinator)

def SyncState.step (s : SyncState β) : Event β → Option (SyncState β)
  | .sync e => s.doSync e
  | .unfreeze e => s.unfreeze e
  | .device e => (s.device.step e).map fun device => { s with device := device }
  | .others coordinator => some { s with coordinator := coordinator }

end Machine

end LinuxAgent.Synchronizer
