/- module: LinuxAgent/FsAwareBdCopy/Measure
   source: device_synchronizer/device_synchronizer.cc, backup/fake_backup_coordinator.h,
           freeze_helper/freeze_helper.cc
   digest: DoSync with the fake coordinator comes to an end while nobody writes. -/

import LinuxAgent.Synchronizer.Retarget
import LinuxAgent.UnsyncedSectors.Manager

/-!
The copy tool runs `DoSync` alone, with a coordinator that is never cancelled and
always done waiting. While nobody writes to the source and every system call
succeeds, each step lowers a measure: the sectors left in the store, and below them
the distance to the end of the round. The freeze timer may expire at any moment: then the
callback of `RunWhileFrozen` is run again, ten times at most.
-/

set_option autoImplicit false
set_option relaxedAutoImplicit false

namespace LinuxAgent.FsAwareBdCopy

open LinuxAgent.Lib.Run LinuxAgent.Lib.Segments LinuxAgent.UnsyncedSectors LinuxAgent.Tracing
open LinuxAgent.Backup LinuxAgent.Synchronizer

/-- What `FakeBackupCoordinator` answers: not cancelled, and nothing to wait for. -/
def fakeBackupCoordinator : BackupCoordinator := ⟨0, false, []⟩

section Machine

variable {β : Type*}

/-- The fake coordinator keeps nothing of what it is told. -/
def faked (s : SyncState β) : SyncState β := { s with coordinator := fakeBackupCoordinator }

def step (s : SyncState β) (e : Event β) : Option (SyncState β) := (s.step e).map faked

/-- The clock is far enough from its origin for the checks of the store and for a first flush. -/
def Late (now : TimeT) : Prop := UnsyncedSectorManager.volatileSeconds < now

instance (now : TimeT) : Decidable (Late now) :=
  inferInstanceAs (Decidable (UnsyncedSectorManager.volatileSeconds < now))

/-- Nobody writes, every call succeeds, and the clock is past its first seconds. -/
def CallsSucceed : Event β → Prop
  | .sync (.openDevices failure) => failure = none
  | .sync (.unsyncedSectorCount now flushed) => Late now ∧ Late flushed
  | .sync (.getInterval now) => Late now
  | .sync (.beginRequiredFreezeBlock result) => ∃ mounted, result = .froze mounted
  | .sync (.pread result) => result = .full
  | .sync (.pwrite result) => result = .full
  | .sync _ | .unfreeze _ => True
  | .device _ | .others _ => False

/-- A callback of `RunWhileFrozen` ends while `is_frozen_` is not set: the timer has expired, or
the unfreeze thread has not got to setting it. -/
def misses (s : SyncState β) : Event β → Bool
  | .sync .endRequiredFreezeBlock => !s.sync.unfreezeThread.isFrozen
  | _ => false

/-- How `DoSync` ends after ten callbacks that missed their freeze. -/
def tooSlow : Outcome := .threw "Unable to read off of disk quickly enough"

/-- The steps of a copy in which every call succeeds, with all that they set. -/
inductive CopyStep (s : SyncState β) : Event β → SyncState β → Prop where
  | opened (pc : s.sync.pc = .opening) :
      CopyStep s (.sync (.openDevices none)) (faked (s.goto .loopHead))
  | asked (pc : s.sync.pc = .loopHead) :
      CopyStep s (.sync .isCancelled) (faked (s.goto (if s.coordinator.isCancelled
        then .leaving .cancelled else .counting)))
  | counted (now flushed : TimeT) (pc : s.sync.pc = .counting)
      (late : Late now) (set : Late flushed) :
      CopyStep s (.sync (.unsyncedSectorCount now flushed))
        (faked (s.unsyncedSectorCount now flushed))
  | tired (task : FrozenTask) (attempts : ℕ) (result : FreezeResult)
      (pc : s.sync.pc = .freezing task attempts) (tired : 10 ≤ attempts) :
      CopyStep s (.sync (.beginRequiredFreezeBlock result)) (faked (s.goto (.leaving tooSlow)))
  | stillFrozen (task : FrozenTask) (attempts : ℕ) (result : FreezeResult)
      (pc : s.sync.pc = .freezing task attempts) (permitted : attempts < 10)
      (asleep : s.sync.unfreezeThread = .sleeping) :
      CopyStep s (.sync (.beginRequiredFreezeBlock result))
        (faked (s.goto (SyncState.callback task (attempts + 1))))
  | froze (task : FrozenTask) (attempts : ℕ) (mounted : Bool)
      (pc : s.sync.pc = .freezing task attempts) (permitted : attempts < 10)
      (idle : s.sync.unfreezeThread = .idle) :
      CopyStep s (.sync (.beginRequiredFreezeBlock (.froze mounted))) (faked { s with
        device := { s.device with frozen := s.device.frozen || mounted }
        sync := { s.sync with
          unfreezeThread := .froze
          pc := SyncState.callback task (attempts + 1) } })
  | recounted (attempts : ℕ) (pc : s.sync.pc = .recounting attempts) :
      CopyStep s (.sync .recount) (faked (s.recount attempts))
  | ended (task : FrozenTask) (attempts : ℕ) (pc : s.sync.pc = .ending task attempts) :
      CopyStep s (.sync .endRequiredFreezeBlock) (faked (s.goto (s.afterFrozen task)))
  | missed (task : FrozenTask) (attempts : ℕ) (pc : s.sync.pc = .ending task attempts)
      (thawed : s.sync.unfreezeThread.isFrozen = false) :
      CopyStep s (.sync .endRequiredFreezeBlock) (faked (s.goto (.freezing task attempts)))
  | tested (pc : s.sync.pc = .testing) : CopyStep s (.sync .testComplete) (faked s.testComplete)
  | waited (pc : s.sync.pc = .waiting) :
      CopyStep s (.sync .waitUntilFinished) (faked (s.goto (if s.coordinator.condition
        then .leaving .finished else .loopHead)))
  | got (now : TimeT) (interval : SectorInterval) (isVolatile : Bool)
      (store : UnsyncedSectorStore) (pc : s.sync.pc = .getting)
      (got : s.device.store.getInterval now = some ((interval, isVolatile), store)) :
      CopyStep s (.sync (.getInterval now)) (faked { s with
        device := { s.device with store := store }
        sync := { s.sync with pc := .removing interval isVolatile now } })
  | removed (interval : SectorInterval) (isVolatile : Bool) (now : TimeT)
      (pc : s.sync.pc = .removing interval isVolatile now) :
      CopyStep s (.sync .removeInterval) (faked { s with
        device := { s.device with store := s.device.store.removeInterval interval }
        sync := { s.sync with
          pc := DeviceSynchronizer.blockLoop ⟨interval, isVolatile, 0, interval.lower * 512⟩ } })
  | read (block : BlockCopy) (attempts : ℕ) (pc : s.sync.pc = .reading block attempts) :
      CopyStep s (.sync (.pread .full))
        (faked (s.goto (.writing block attempts s.device.sectors)))
  | wrote (block : BlockCopy) (attempts : ℕ) (buf : ℕ → β)
      (pc : s.sync.pc = .writing block attempts buf) :
      CopyStep s (.sync (.pwrite .full)) (faked { s with sync := { s.sync with
        destination := s.sync.written block s.sync.blockSize.bytes buf
        pc := s.afterWrite block attempts } })
  | updated (interval : SectorInterval) (pc : s.sync.pc = .copied interval) :
      CopyStep s (.sync .updateSyncedCount) (faked { s with sync := { s.sync with
        totalBytesSent := s.sync.totalBytesSent + interval.cardinality * 512
        status := { s.sync.status with
          bytesTransferred := s.sync.totalBytesSent + interval.cardinality * 512 }
        pc := .loopHead } })
  | left (outcome : Outcome) (pc : s.sync.pc = .leaving outcome)
      (idle : s.sync.unfreezeThread = .idle) :
      CopyStep s (.sync .leave) (faked (s.goto (.done outcome)))
  | setFrozen (thread : s.sync.unfreezeThread = .froze) :
      CopyStep s (.unfreeze .setFrozen)
        (faked { s with sync := { s.sync with unfreezeThread := .sleeping } })
  | clearFrozen (thread : s.sync.unfreezeThread = .sleeping) :
      CopyStep s (.unfreeze .clearFrozen)
        (faked { s with sync := { s.sync with unfreezeThread := .waking } })
  | thawed (failed : Bool) (thread : s.sync.unfreezeThread = .waking) :
      CopyStep s (.unfreeze (.thaw failed)) (faked { s with
        device := { s.device with frozen := s.device.frozen && failed }
        sync := { s.sync with unfreezeThread := .idle } })

variable {s t : SyncState β} {e : Event β}

private theorem copyStep_sync {e : SyncEvent} (calm : CallsSucceed (.sync e : Event β))
    (taken : s.doSync e = some t) : CopyStep s (.sync e) (faked t) := by
  cases SyncState.doSync_cases taken with
  | opened pc => exact .opened pc
  | cancelled pc flag =>
      simpa [BackupCoordinator.isCancelled, flag] using CopyStep.asked pc
  | continued pc flag =>
      simpa [BackupCoordinator.isCancelled, flag] using CopyStep.asked pc
  | counted now flushed pc => exact .counted now flushed pc calm.1 calm.2
  | tired task attempts result pc tired => exact .tired task attempts result pc tired
  | stillFrozen task attempts result pc permitted asleep =>
      exact .stillFrozen task attempts result pc permitted asleep
  | froze task attempts mounted pc permitted idle =>
      exact .froze task attempts mounted pc permitted idle
  | recounted attempts pc => exact .recounted attempts pc
  | ended task attempts pc => exact .ended task attempts pc
  | retried task attempts pc =>
      simp only [SyncState.doSync, pc, Option.some.injEq] at taken
      cases frozen : s.sync.unfreezeThread.isFrozen with
      | true =>
          rw [if_pos frozen] at taken
          exact taken ▸ .ended task attempts pc
      | false => exact .missed task attempts pc frozen
  | tested pc => exact .tested pc
  | waited pc => exact .waited pc
  | got now interval isVolatile store pc got => exact .got now interval isVolatile store pc got
  | removed interval isVolatile now pc => exact .removed interval isVolatile now pc
  | read block attempts pc => exact .read block attempts pc
  | wrote block attempts buf pc => exact .wrote block attempts buf pc
  | updated interval totalBytesSent pc =>
      simp only [SyncState.doSync, pc, Option.some.injEq] at taken
      exact taken ▸ .updated interval pc
  | left outcome pc idle => exact .left outcome pc idle
  | openFailed what pc | writeFailed block attempts buf pc
  | wroteShort block attempts buf sectors pc short => cases calm
  | readFailed block attempts result what pc partly => exact absurd calm partly
  | freezeFailed task attempts what pc idle | thawFailed task attempts what pc idle =>
      obtain ⟨mounted, froze⟩ := calm
      cases froze

private theorem copyStep_unfreeze {e : UnfreezeEvent} (taken : s.unfreeze e = some t) :
    CopyStep s (.unfreeze e) (faked t) := by
  unfold SyncState.unfreeze at taken
  split at taken
  next thread => exact Option.some.inj taken ▸ .setFrozen thread
  next thread => exact Option.some.inj taken ▸ .clearFrozen thread
  next failed thread => exact Option.some.inj taken ▸ .thawed failed thread
  next => exact absurd taken (by simp)

theorem copyStep_of_step (calm : CallsSucceed e) (taken : step s e = some t) :
    CopyStep s e t := by
  obtain ⟨after, moved, rfl⟩ := Option.map_eq_some_iff.mp taken
  cases e with
  | sync e => exact copyStep_sync calm moved
  | unfreeze e => exact copyStep_unfreeze moved
  | device e => cases calm
  | others coordinator => cases calm

end Machine

section Measure

variable {β : Type*}

/-- The number of sectors that are still in the store. -/
def left (s : SyncState β) : ℕ := s.device.store.unsyncedSectorCount

/-- What holds at each point of the copy. -/
def Facts (s : SyncState β) : Pc β → Prop
  | .unstarted => False
  | .opening | .loopHead | .counting | .copied _ => True
  | .freezing .count _ | .recounting _ => s.sync.flushTime > 0
  | .freezing (.copy block) _ | .reading block _ | .ending (.copy block) _ =>
      block.i < block.interval.cardinality
  | .writing block _ buf => block.i < block.interval.cardinality ∧ buf = s.device.sectors
  | .ending .count _ => s.sync.flushTime > 0 ∧ s.sync.unsyncedSectorCount = left s
  | .testing => s.sync.unsyncedSectorCount = left s ∧
      (left s < sectorsPerMegabyte → s.sync.flushTime > 0)
  | .waiting => left s = 0
  | .getting => 0 < left s
  | .removing interval _ _ =>
      ∃ epoch, (interval, epoch) ∈ s.device.store.unsyncedSectorMap.segments
  | .leaving outcome | .done outcome => outcome = .finished ∧ left s = 0 ∨ outcome = tooSlow

/-- The invariant of a copy of `source`. -/
structure Copying (source : ℕ → β) (s : SyncState β) : Prop where
  coordinator : s.coordinator = fakeBackupCoordinator
  sound : s.Sound
  still : s.device.sectors = source
  landed : s.device.inFlight = []
  facts : Facts s s.sync.pc

/-- The steps that the unfreeze thread has before it. -/
def threadRank : UnfreezeThread → ℕ
  | .idle => 0
  | .waking => 1
  | .sleeping => 2
  | .froze => 3

/-- The sectors of the interval from the present block on. -/
def remaining (block : BlockCopy) : ℕ := block.interval.cardinality - block.i

/-- The distance to the end of the round. Each of the attempts that `RunWhileFrozen` has left
counts for the steps of the callback and of the unfreeze thread. -/
def pointRank : Pc β → ℕ
  | .unstarted => 0
  | .opening => 84
  | .loopHead => 83
  | .counting => 82
  | .recounting attempts => 23 + 6 * (10 - attempts)
  | .ending .count attempts => 22 + 6 * (10 - attempts)
  | .freezing .count attempts => 21 + 6 * (10 - attempts)
  | .testing => 20
  | .waiting | .getting => 19
  | .removing _ _ _ | .leaving _ => 18
  | .done _ => 17
  | .reading block attempts => 18 + 73 * remaining block + 7 * (10 - attempts)
  | .writing block attempts _ => 17 + 73 * remaining block + 7 * (10 - attempts)
  | .ending (.copy block) attempts => 16 + 73 * remaining block + 7 * (10 - attempts)
  | .freezing (.copy block) attempts => 15 + 73 * remaining block + 7 * (10 - attempts)
  | .copied _ => 84

def measure (s : SyncState β) : ℕ :=
  144 * left s + pointRank s.sync.pc + threadRank s.sync.unfreezeThread

private theorem rank_blockLoop (block : BlockCopy) :
    pointRank (DeviceSynchronizer.blockLoop block : Pc β) ≤
      88 + 73 * remaining block := by
  unfold DeviceSynchronizer.blockLoop
  split_ifs <;> simp only [pointRank] <;> omega

private theorem rank_callback (task : FrozenTask) {attempts : ℕ} (permitted : attempts < 10) :
    pointRank (SyncState.callback task (attempts + 1) : Pc β) + 4 =
      pointRank (.freezing task attempts : Pc β) := by
  cases task <;> simp only [SyncState.callback, pointRank] <;> omega

private theorem rank_nextBlock (sync : DeviceSynchronizer β) {block : BlockCopy}
    (more : block.i < block.interval.cardinality) :
    pointRank (sync.nextBlock block) ≤ 15 + 73 * remaining block := by
  have size := sync.blockSize.bytes_eq.2
  refine (rank_blockLoop _).trans ?_
  simp only [remaining]
  omega

variable {s t : SyncState β}

private theorem facts_blockLoop (s : SyncState β) (block : BlockCopy) :
    Facts s (DeviceSynchronizer.blockLoop block) := by
  unfold DeviceSynchronizer.blockLoop
  split_ifs with more isVolatile
  · exact more
  · exact more
  · trivial

private theorem facts_callback {task : FrozenTask} {attempts : ℕ}
    (before : Facts s (.freezing task attempts)) :
    Facts s (SyncState.callback task (attempts + 1)) := by
  cases task <;> exact before

/-- With something left, `GetInterval` returns a segment of the map. -/
private theorem getInterval_segment {store after : UnsyncedSectorStore} {now : TimeT}
    {interval : SectorInterval} {isVolatile : Bool}
    (got : store.getInterval now = some ((interval, isVolatile), after))
    (nonempty : 0 < store.unsyncedSectorCount) :
    ∃ epoch, (interval, epoch) ∈ store.unsyncedSectorMap.segments := by
  unfold UnsyncedSectorStore.getInterval at got
  split_ifs at got with passed
  cases chosen : store.nextSegment with
  | none =>
      have empty := store.nextSegment_eq_none.mp chosen
      simp [UnsyncedSectorStore.unsyncedSectorCount, IntervalMap.cardinality, empty] at nonempty
  | some segment =>
      obtain ⟨found, epoch⟩ := segment
      simp only [chosen, Option.some.injEq, Prod.mk.injEq] at got
      obtain ⟨⟨rfl, _⟩, _⟩ := got
      exact ⟨epoch, store.nextSegment_mem chosen⟩

/-- The count drops by the interval that is removed, which is a segment of the map. -/
theorem left_removed {store : UnsyncedSectorStore} {interval : SectorInterval}
    {epoch : TimeT} (segment : (interval, epoch) ∈ store.unsyncedSectorMap.segments) :
    store.unsyncedSectorCount =
        (store.removeInterval interval).unsyncedSectorCount + interval.cardinality ∧
      0 < interval.cardinality := by
  refine ⟨IntervalMap.cardinality_erase segment, ?_⟩
  have proper : interval.lower < interval.upper := store.unsyncedSectorMap.nonempty _ segment
  exact Nat.sub_pos_of_lt proper

theorem left_testComplete (s : SyncState β) : left (faked s.testComplete) = left s :=
  congrArg (fun device : Device β => device.store.unsyncedSectorCount) s.testComplete_frame.1

private theorem flushTime_pos {now flushed : ℤ} (flushTime : ℤ) (late : Late now)
    (set : Late flushed) :
    (if now - flushTime > secondsBetweenFlushes then flushed else flushTime) > 0 := by
  simp only [Late, UnsyncedSectorManager.volatileSeconds] at late set
  split_ifs with again
  · omega
  · simp only [secondsBetweenFlushes] at again
    omega

/-- A step that leaves the store and the unfreeze thread alone. -/
private theorem lowers_of_rank (here next : Pc β) (store : left t = left s)
    (thread : t.sync.unfreezeThread = s.sync.unfreezeThread) (pc : s.sync.pc = here)
    (moved : t.sync.pc = next) (rank : pointRank next < pointRank here) :
    measure t < measure s := by
  simp only [measure, store, thread, pc, moved]
  omega

/-- The facts look away from the program counter and the coordinator. -/
private theorem facts_goto {next : Pc β} (facts : Facts s next) :
    Facts (faked (s.goto next)) (faked (s.goto next)).sync.pc := by
  cases next with
  | freezing task attempts | ending task attempts => cases task <;> exact facts
  | _ => exact facts

/-- A step that only moves the program counter. -/
private theorem copying_goto {source : ℕ → β} {here next : Pc β} (inv : Copying source s)
    (sound : (faked (s.goto next)).Sound) (pc : s.sync.pc = here) (facts : Facts s next)
    (rank : pointRank next < pointRank here) :
    Copying source (faked (s.goto next)) ∧ measure (faked (s.goto next)) < measure s :=
  ⟨⟨rfl, sound, inv.still, inv.landed, facts_goto facts⟩,
    lowers_of_rank here next rfl rfl pc rfl rank⟩

section Rounds

variable {source : ℕ → β}

theorem Copying.isCancelled (inv : Copying source s) : s.coordinator.isCancelled = false := by
  rw [inv.coordinator]
  rfl

theorem Copying.condition (inv : Copying source s) : s.coordinator.condition = true := by
  rw [inv.coordinator]
  rfl

private theorem copying_counted {now flushed : TimeT} (inv : Copying source s)
    (sound : (faked (s.unsyncedSectorCount now flushed)).Sound) (pc : s.sync.pc = .counting)
    (late : Late now) (set : Late flushed) :
    Copying source (faked (s.unsyncedSectorCount now flushed)) ∧
      measure (faked (s.unsyncedSectorCount now flushed)) < measure s := by
  by_cases few : left s < sectorsPerMegabyte
  · have flushes := flushTime_pos s.sync.flushTime late set
    have next : s.unsyncedSectorCount now flushed = { s with sync := { s.sync with
        unsyncedSectorCount := left s
        flushTime := if now - s.sync.flushTime > secondsBetweenFlushes then flushed
          else s.sync.flushTime
        pc := .freezing .count 0 } } := if_pos few
    rw [next] at sound ⊢
    refine ⟨⟨rfl, sound, inv.still, inv.landed, flushes⟩, ?_⟩
    exact lowers_of_rank .counting (.freezing .count 0) rfl rfl pc rfl (by simp [pointRank])
  · have next : s.unsyncedSectorCount now flushed = { s with sync := { s.sync with
        unsyncedSectorCount := left s, pc := .testing } } := if_neg few
    rw [next] at sound ⊢
    refine ⟨⟨rfl, sound, inv.still, inv.landed, rfl, fun small => absurd small few⟩, ?_⟩
    exact lowers_of_rank .counting .testing rfl rfl pc rfl (by simp [pointRank])

/-- The test for completion goes on to wait when nothing is left, and to copy otherwise. -/
private theorem copying_tested (inv : Copying source s) (sound : (faked s.testComplete).Sound)
    (pc : s.sync.pc = .testing) :
    Copying source (faked s.testComplete) ∧ measure (faked s.testComplete) < measure s := by
  have facts := inv.facts
  rw [pc] at facts
  have device : (faked s.testComplete).device = s.device := s.testComplete_frame.1
  have count := left_testComplete s
  have thread : (faked s.testComplete).sync.unfreezeThread = s.sync.unfreezeThread := by
    unfold faked SyncState.testComplete
    dsimp only
    split_ifs <;> rfl
  by_cases complete : s.sync.flushTime > 0 ∧ s.sync.unsyncedSectorCount = 0
  · have next : (faked s.testComplete).sync.pc = .waiting := by
      simp [faked, SyncState.testComplete, complete]
    refine ⟨⟨rfl, sound, device ▸ inv.still, device ▸ inv.landed, ?_⟩,
      lowers_of_rank .testing .waiting count thread pc next (by simp [pointRank])⟩
    rw [next]
    exact count.trans (facts.1.symm.trans complete.2)
  · have next : (faked s.testComplete).sync.pc = .getting := by
      simp [faked, SyncState.testComplete, complete]
    refine ⟨⟨rfl, sound, device ▸ inv.still, device ▸ inv.landed, ?_⟩,
      lowers_of_rank .testing .getting count thread pc next (by simp [pointRank])⟩
    rw [next]
    refine Nat.pos_of_ne_zero fun zero => complete ?_
    rw [count] at zero
    exact ⟨facts.2 (by rw [zero]; decide), facts.1.trans zero⟩

/-- The head of the block loop, with a store and a destination that may have changed. -/
private theorem copying_blockLoop {block : BlockCopy} {store : UnsyncedSectorStore}
    {destination : ℕ → β} (inv : Copying source s)
    (sound : (faked { s with
      device := { s.device with store := store }
      sync := { s.sync with
        destination := destination, pc := DeviceSynchronizer.blockLoop block } }).Sound) :
    Copying source (faked { s with
      device := { s.device with store := store }
      sync := { s.sync with
        destination := destination, pc := DeviceSynchronizer.blockLoop block } }) :=
  ⟨rfl, sound, inv.still, inv.landed, facts_blockLoop _ _⟩

private theorem copying_wrote {block : BlockCopy} {attempts : ℕ} {buf : ℕ → β}
    (inv : Copying source s) (pc : s.sync.pc = .writing block attempts buf)
    (sound : (faked { s with sync := { s.sync with
      destination := s.sync.written block s.sync.blockSize.bytes buf
      pc := s.afterWrite block attempts } }).Sound) :
    Copying source (faked { s with sync := { s.sync with
        destination := s.sync.written block s.sync.blockSize.bytes buf
        pc := s.afterWrite block attempts } }) ∧
      measure (faked { s with sync := { s.sync with
        destination := s.sync.written block s.sync.blockSize.bytes buf
        pc := s.afterWrite block attempts } }) < measure s := by
  have facts := inv.facts
  rw [pc] at facts
  by_cases isVolatile : block.isVolatile = true
  · have next : s.afterWrite block attempts = .ending (.copy block) attempts :=
      if_pos isVolatile
    rw [next] at sound ⊢
    refine ⟨⟨rfl, sound, inv.still, inv.landed, facts.1⟩, ?_⟩
    exact lowers_of_rank _ (.ending (.copy block) attempts) rfl rfl pc rfl (by simp [pointRank])
  · have next : s.afterWrite block attempts = s.sync.nextBlock block := if_neg isVolatile
    have here : pointRank (.writing block attempts buf) =
      17 + 73 * remaining block + 7 * (10 - attempts) := rfl
    have rank := rank_nextBlock s.sync facts.1
    rw [next] at sound ⊢
    exact ⟨copying_blockLoop inv sound,
      lowers_of_rank _ (s.sync.nextBlock block) rfl rfl pc rfl (by omega)⟩

/-- Every step keeps the invariant and lowers the measure. -/
theorem copying_step {e : Event β} (inv : Copying source s) (sound : t.Sound)
    (moved : CopyStep s e t) : Copying source t ∧ measure t < measure s := by
  have facts := inv.facts
  cases moved with
  | opened pc => exact copying_goto inv sound pc trivial (by simp [pointRank])
  | asked pc =>
      rw [inv.isCancelled] at sound ⊢
      exact copying_goto inv sound pc trivial (by simp [pointRank])
  | counted now flushed pc late set => exact copying_counted inv sound pc late set
  | tired task attempts result pc tired =>
      rw [pc] at facts
      refine copying_goto inv sound pc (Or.inr rfl) ?_
      cases task with
      | count => simp only [pointRank]; omega
      | copy block =>
          have more : block.i < block.interval.cardinality := facts
          simp only [pointRank, remaining]
          omega
  | stillFrozen task attempts result pc permitted asleep =>
      rw [pc] at facts
      have rank := rank_callback (β := β) task permitted
      exact copying_goto inv sound pc (facts_callback facts) (by omega)
  | froze task attempts mounted pc permitted idle =>
      rw [pc] at facts
      have rank := rank_callback (β := β) task permitted
      have next := facts_callback facts
      refine ⟨⟨rfl, sound, inv.still, inv.landed, ?_⟩, ?_⟩
      · cases task <;> exact next
      · simp only [measure, pc, idle, faked, left, threadRank]
        omega
  | recounted attempts pc =>
      rw [pc] at facts
      refine ⟨⟨rfl, sound, inv.still, inv.landed, facts, rfl⟩, ?_⟩
      exact lowers_of_rank _ (.ending .count attempts) rfl rfl pc rfl (by simp [pointRank])
  | ended task attempts pc =>
      rw [pc] at facts
      cases task with
      | count =>
          refine copying_goto inv sound pc ⟨facts.2, fun _ => facts.1⟩ ?_
          simp only [pointRank, SyncState.afterFrozen]
          omega
      | copy block =>
          have here : pointRank (.ending (.copy block) attempts : Pc β) =
            16 + 73 * remaining block + 7 * (10 - attempts) := rfl
          have rank := rank_nextBlock s.sync facts
          exact copying_goto inv sound pc (facts_blockLoop s _)
            (lt_of_le_of_lt rank (by omega))
  | missed task attempts pc thawed =>
      rw [pc] at facts
      cases task with
      | count => exact copying_goto inv sound pc facts.1 (by simp [pointRank])
      | copy block => exact copying_goto inv sound pc facts (by simp [pointRank])
  | tested pc => exact copying_tested inv sound pc
  | waited pc =>
      rw [pc] at facts
      rw [if_pos inv.condition] at sound ⊢
      exact copying_goto inv sound pc (Or.inl ⟨rfl, facts⟩) (by simp [pointRank])
  | got now interval isVolatile store pc got =>
      rw [pc] at facts
      obtain ⟨epoch, segment⟩ := getInterval_segment got facts
      obtain ⟨rfl, _⟩ := s.device.store.getInterval_eq_some now got
      refine ⟨⟨rfl, sound, inv.still, inv.landed, epoch, segment⟩, ?_⟩
      exact lowers_of_rank _ (.removing interval isVolatile now) rfl rfl pc rfl
        (by simp [pointRank])
  | removed interval isVolatile now pc =>
      rw [pc] at facts
      obtain ⟨epoch, segment⟩ := facts
      obtain ⟨count, positive⟩ := left_removed segment
      have here : pointRank (.removing interval isVolatile now : Pc β) = 18 := rfl
      have rank := rank_blockLoop (β := β) ⟨interval, isVolatile, 0, interval.lower * 512⟩
      refine ⟨copying_blockLoop inv sound, ?_⟩
      -- the removed sectors pay for the copying of their blocks
      simp only [remaining] at rank
      simp only [measure, left, faked, pc, count, here]
      omega
  | read block attempts pc =>
      rw [pc] at facts
      refine ⟨⟨rfl, sound, inv.still, inv.landed, facts, rfl⟩, ?_⟩
      exact lowers_of_rank _ (.writing block attempts s.device.sectors) rfl rfl pc rfl
        (by simp [pointRank])
  | wrote block attempts buf pc => exact copying_wrote inv pc sound
  | updated interval pc =>
      refine ⟨⟨rfl, sound, inv.still, inv.landed, trivial⟩, ?_⟩
      exact lowers_of_rank _ .loopHead rfl rfl pc rfl (by simp [pointRank])
  | left outcome pc idle =>
      rw [pc] at facts
      exact copying_goto inv sound pc facts (by simp [pointRank])
  | setFrozen thread | clearFrozen thread | thawed failed thread =>
      refine ⟨⟨rfl, sound, inv.still, inv.landed, inv.facts⟩, ?_⟩
      simp only [measure, thread, faked, left, threadRank]
      omega

end Rounds

section Progress

variable {source : ℕ → β}

/-- Some step is possible in which every call succeeds. -/
def CanGoOn (s : SyncState β) : Prop := ∃ e, CallsSucceed e ∧ (step s e).isSome = true

/-- The unfreeze thread can always go on. -/
private theorem thread_moves (busy : s.sync.unfreezeThread ≠ .idle) : CanGoOn s := by
  cases thread : s.sync.unfreezeThread with
  | idle => exact absurd thread busy
  | froze =>
      exact ⟨.unfreeze .setFrozen, trivial, by
        simp [step, SyncState.step, SyncState.unfreeze, thread]⟩
  | sleeping =>
      exact ⟨.unfreeze .clearFrozen, trivial, by
        simp [step, SyncState.step, SyncState.unfreeze, thread]⟩
  | waking =>
      exact ⟨.unfreeze (.thaw false), trivial, by
        simp [step, SyncState.step, SyncState.unfreeze, thread]⟩

private theorem begin_moves {task : FrozenTask} {attempts : ℕ}
    (pc : s.sync.pc = .freezing task attempts) : CanGoOn s := by
  by_cases idle : s.sync.unfreezeThread = .idle
  · refine ⟨.sync (.beginRequiredFreezeBlock (.froze true)), ⟨true, rfl⟩, ?_⟩
    by_cases tired : attempts + 1 > 10
    · simp [step, SyncState.step, SyncState.doSync, pc, SyncState.beginRequiredFreezeBlock, tired]
    · simp [step, SyncState.step, SyncState.doSync, pc, SyncState.beginRequiredFreezeBlock, tired,
        idle]
  · exact thread_moves idle

private theorem get_moves (pc : s.sync.pc = .getting) (nonempty : 0 < left s) : CanGoOn s := by
  let now := max s.device.store.volatileSeconds UnsyncedSectorManager.volatileSeconds + 1
  have late : Late now := Int.lt_add_one_of_le (le_max_right _ _)
  have passed : now > s.device.store.volatileSeconds := Int.lt_add_one_of_le (le_max_left _ _)
  cases chosen : s.device.store.nextSegment with
  | none =>
      have empty := s.device.store.nextSegment_eq_none.mp chosen
      simp [left, UnsyncedSectorStore.unsyncedSectorCount, IntervalMap.cardinality, empty]
        at nonempty
  | some segment =>
      have got := s.device.store.getInterval_of_nextSegment now passed chosen
      exact ⟨.sync (.getInterval now), late, by
        simp [step, SyncState.step, SyncState.doSync, pc, got]⟩

/-- The copy stops only at an end of `DoSync`. -/
theorem progress (inv : Copying source s) : (∃ outcome, s.sync.pc = .done outcome) ∨ CanGoOn s := by
  have facts := inv.facts
  have simple {e : SyncEvent} (calm : CallsSucceed (.sync e : Event β))
      (taken : (s.doSync e).isSome = true) : CanGoOn s :=
    ⟨.sync e, calm, by simpa [step, SyncState.step] using taken⟩
  cases pc : s.sync.pc with
  | unstarted => rw [pc] at facts; cases facts
  | opening => exact Or.inr (simple (e := .openDevices none) rfl (by simp [SyncState.doSync, pc]))
  | loopHead => exact Or.inr (simple (e := .isCancelled) trivial (by simp [SyncState.doSync, pc]))
  | counting =>
      exact Or.inr (simple (e := .unsyncedSectorCount 11 11) ⟨by decide, by decide⟩
        (by simp [SyncState.doSync, pc]))
  | freezing task attempts => exact Or.inr (begin_moves pc)
  | recounting attempts =>
      exact Or.inr (simple (e := .recount) trivial (by simp [SyncState.doSync, pc]))
  | reading block attempts =>
      exact Or.inr (simple (e := .pread .full) rfl (by simp [SyncState.doSync, pc]))
  | writing block attempts buf =>
      exact Or.inr (simple (e := .pwrite .full) rfl (by simp [SyncState.doSync, pc]))
  | ending task attempts =>
      exact Or.inr (simple (e := .endRequiredFreezeBlock) trivial (by simp [SyncState.doSync, pc]))
  | testing => exact Or.inr (simple (e := .testComplete) trivial (by simp [SyncState.doSync, pc]))
  | waiting =>
      exact Or.inr (simple (e := .waitUntilFinished) trivial
        (by simp [SyncState.doSync, pc, BackupCoordinator.waitUntilFinished]))
  | getting =>
      rw [pc] at facts
      exact Or.inr (get_moves pc facts)
  | removing interval isVolatile now =>
      exact Or.inr (simple (e := .removeInterval) trivial (by simp [SyncState.doSync, pc]))
  | copied interval =>
      exact Or.inr (simple (e := .updateSyncedCount) trivial (by simp [SyncState.doSync, pc]))
  | leaving outcome =>
      by_cases idle : s.sync.unfreezeThread = .idle
      · exact Or.inr (simple (e := .leave) trivial (by simp [SyncState.doSync, pc, idle]))
      · exact Or.inr (thread_moves idle)
  | done outcome => exact Or.inl ⟨outcome, rfl⟩

end Progress

end Measure

end LinuxAgent.FsAwareBdCopy
