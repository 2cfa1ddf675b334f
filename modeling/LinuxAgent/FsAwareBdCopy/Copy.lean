/- module: LinuxAgent/FsAwareBdCopy/Copy
   source: fsawarebdcopy/fsawarebdcopy.cc, device_synchronizer/device_synchronizer.cc,
           backup_status_tracker/sync_count_handler.cc
   digest: The copy tool ends: the sectors in use are copied and the bytes counted, or it was
           too slow for the freeze timer ten times. -/

import LinuxAgent.FsAwareBdCopy.Measure

/-!
The tool fills a new store with the sectors in use and runs `DoSync` on it. What it
copies is exactly what the destination lacks, and the count of bytes that it reports
starts at nothing and ends at the number that it was told at the start. Nothing but the
freeze timer can keep it from this end.
-/

set_option autoImplicit false
set_option relaxedAutoImplicit false

namespace LinuxAgent.FsAwareBdCopy

open LinuxAgent.Lib.Run LinuxAgent.Lib.Segments LinuxAgent.UnsyncedSectors LinuxAgent.Tracing
open LinuxAgent.Backup LinuxAgent.Synchronizer

variable {β : Type*}

/-- The store of the source after the loop over the sectors in use. -/
def sourceStore (inUseSet : List SectorInterval) : UnsyncedSectorStore :=
  inUseSet.foldl UnsyncedSectorStore.addNonVolatileInterval
    (.new UnsyncedSectorManager.volatileSeconds)

/-- The tool calls `DoSync`. -/
def start (source : ℕ → β) (inUseSet : List SectorInterval) (blockSize : BlockSize)
    (destination : ℕ → β) : SyncState β :=
  .new fakeBackupCoordinator ⟨source, sourceStore inUseSet, [], false⟩ blockSize destination

/-- The number of bytes that the tool announces. -/
def bytesTotal (inUseSet : List SectorInterval) : ℕ :=
  (sourceStore inUseSet).unsyncedSectorCount * 512

section Stores

private theorem unsynced_fold (inUseSet : List SectorInterval) (store : UnsyncedSectorStore)
    (sector : ℕ) :
    (inUseSet.foldl UnsyncedSectorStore.addNonVolatileInterval store).Unsynced sector ↔
      store.Unsynced sector ∨ ∃ interval ∈ inUseSet, sector ∈ interval := by
  induction inUseSet generalizing store with
  | nil => simp
  | cons interval inUseSet ih =>
      have added : (store.addNonVolatileInterval interval).Unsynced sector ↔
          store.Unsynced sector ∨ sector ∈ interval := by
        by_cases inside : sector ∈ interval <;> simp [UnsyncedSectorStore.Unsynced, inside]
      rw [List.foldl_cons, ih, added, or_assoc]
      simp

/-- Exactly the sectors in use are to be copied. -/
theorem unsynced_sourceStore (inUseSet : List SectorInterval) (sector : ℕ) :
    (sourceStore inUseSet).Unsynced sector ↔ ∃ interval ∈ inUseSet, sector ∈ interval := by
  have nothing : ¬ (UnsyncedSectorStore.new UnsyncedSectorManager.volatileSeconds).Unsynced
      sector := by
    change ¬ (none : Option TimeT).isSome = true
    simp
  rw [sourceStore, unsynced_fold, or_iff_right nothing]

theorem volatileSeconds_sourceStore (inUseSet : List SectorInterval) :
    (sourceStore inUseSet).volatileSeconds = UnsyncedSectorManager.volatileSeconds := by
  have same (store : UnsyncedSectorStore) :
      (inUseSet.foldl UnsyncedSectorStore.addNonVolatileInterval store).volatileSeconds =
        store.volatileSeconds := by
    induction inUseSet generalizing store with
    | nil => rfl
    | cons interval inUseSet ih => exact ih _
  exact same _

end Stores

section Runs

variable {source image : ℕ → β} {s t : SyncState β} {e : Event β}

/-- `DoSync` has thrown an exception. -/
def threw : Pc β → Bool
  | .leaving (.threw _) | .done (.threw _) => true
  | _ => false

theorem copying_start (source : ℕ → β) (inUseSet : List SectorInterval) (blockSize : BlockSize)
    (destination : ℕ → β) :
    Copying source (start source inUseSet blockSize destination) := by
  refine ⟨rfl, ⟨?_, trivial, trivial⟩, rfl, rfl, trivial⟩
  change 0 ≤ (sourceStore inUseSet).volatileSeconds
  rw [volatileSeconds_sourceStore]
  decide

/-- A step of the tool is a step of `DoSync`, and `DoSync` looks away from the coordinator. -/
private theorem step_cases (taken : step s e = some t) :
    ∃ after, s.step e = some after ∧ t = faked after := by
  obtain ⟨after, moved, rfl⟩ := Option.map_eq_some_iff.mp taken
  exact ⟨after, moved, rfl⟩

private theorem sound_copy (sound : s.Sound) (taken : step s e = some t) : t.Sound := by
  obtain ⟨after, moved, rfl⟩ := step_cases taken
  have next := syncSound_step sound moved
  exact ⟨next.forward, next.placed, next.buffered⟩

theorem copying_lowers (inv : Copying source s) (calm : CallsSucceed e)
    (taken : step s e = some t) : Copying source t ∧ measure t < measure s :=
  copying_step inv (sound_copy inv.sound taken) (copyStep_of_step calm taken)

/-- What succeeds does not throw out of the block loop. -/
private theorem not_interrupted (moved : CopyStep s e t) (going : threw t.sync.pc = false) :
    ¬ s.Interrupted e := by
  cases moved with
  | tired task attempts result pc tired => cases going
  | stillFrozen task attempts result pc permitted asleep =>
      cases task <;> simp [SyncState.Interrupted, pc, permitted, asleep]
  | froze task attempts mounted pc permitted idle =>
      cases task <;> simp [SyncState.Interrupted, pc, permitted]
  | read block attempts pc => exact fun partly => partly rfl
  | wrote block attempts buf pc => exact fun partly => partly rfl
  | _ => exact id

/-- What was to be copied stays accounted for. -/
private theorem known_copy (inv : Copying source s) (calm : CallsSucceed e)
    (taken : step s e = some t) (going : threw t.sync.pc = false) {sector : ℕ}
    (known : s.Known sector) : t.Known sector := by
  have kept := not_interrupted (copyStep_of_step calm taken) going
  obtain ⟨after, moved, rfl⟩ := step_cases taken
  exact sectorKnown_step inv.sound (fun interrupted => absurd interrupted kept) moved known

/-- Nothing comes after an exception but the end. -/
private theorem threw_step (moved : CopyStep s e t) (thrown : threw s.sync.pc = true) :
    threw t.sync.pc = true := by
  cases moved with
  | left outcome pc idle =>
      rw [pc] at thrown
      cases outcome <;> exact thrown
  | setFrozen thread | clearFrozen thread | thawed failed thread => exact thrown
  | _ =>
      rw [‹s.sync.pc = _›] at thrown
      cases thrown

/-- Only blocks of the source come to the destination. -/
private theorem destination_copy (inv : Copying source s) (moved : CopyStep s e t) (sector : ℕ) :
    t.sync.destination sector = source sector ∨
      t.sync.destination sector = s.sync.destination sector := by
  cases moved with
  | wrote block attempts buf pc =>
      have facts := inv.facts
      rw [pc] at facts
      by_cases inside : DeviceSynchronizer.Within block s.sync.blockSize.bytes sector
      · left
        simp [faked, DeviceSynchronizer.written, inside, facts.2, inv.still]
      · right
        simp [faked, DeviceSynchronizer.written, inside]
  | counted now flushed pc =>
      exact Or.inr (congrFun (s.unsyncedSectorCount_frame now flushed).2 sector)
  | tested pc => exact Or.inr (congrFun s.testComplete_frame.2 sector)
  | _ => exact Or.inr rfl

/-- Where the sectors of the tool are: accounted for if they are in use, unless it has given
up, and never anything but what the source or the destination held. -/
private structure Faithful (source : ℕ → β) (inUseSet : List SectorInterval) (image : ℕ → β)
    (s : SyncState β) : Prop where
  copying : Copying source s
  known : threw s.sync.pc = false → ∀ interval ∈ inUseSet, ∀ sector ∈ interval, s.Known sector
  mixed : ∀ sector, s.sync.destination sector = source sector ∨
    s.sync.destination sector = image sector

private theorem faithful_lowers {inUseSet : List SectorInterval}
    (inv : Faithful source inUseSet image s) (calm : CallsSucceed e)
    (taken : step s e = some t) : Faithful source inUseSet image t ∧ measure t < measure s := by
  obtain ⟨copying, lower⟩ := copying_lowers inv.copying calm taken
  have moved := copyStep_of_step calm taken
  refine ⟨⟨copying, fun going interval member sector inside => ?_, fun sector => ?_⟩, lower⟩
  · have before : threw s.sync.pc = false :=
      Bool.eq_false_iff.mpr fun thrown => by simp [threw_step moved thrown] at going
    exact known_copy inv.copying calm taken going (inv.known before interval member sector inside)
  · rcases destination_copy inv.copying moved sector with new | old
    · exact Or.inl new
    · exact old ▸ inv.mixed sector

/-- At the end nothing is left, so that what is accounted for is the same on both sides. -/
private theorem agrees_of_done (inv : Copying source s) (pc : s.sync.pc = .done .finished)
    (nothing : left s = 0) {sector : ℕ} (known : s.Known sector) :
    s.sync.destination sector = source sector := by
  rcases known with equal | (unsynced | ⟨trace, member, _⟩) | pending
  · rw [← equal, inv.still]
  · exact absurd unsynced (s.device.store.unsyncedSectorCount_eq_zero_iff.mp nothing sector)
  · simp [inv.landed] at member
  · rw [DeviceSynchronizer.notYetWritten, pc] at pending
    exact absurd pending.2 (Nat.not_lt_zero sector)

/-- The attempts of `RunWhileFrozen` that have missed their freeze. -/
def missedAttempts : Pc β → ℕ
  | .freezing _ attempts => attempts
  | .recounting attempts | .reading _ attempts | .writing _ attempts _
  | .ending _ attempts => attempts - 1
  | .leaving (.threw _) | .done (.threw _) => 10
  | _ => 0

private theorem missedAttempts_blockLoop (block : BlockCopy) :
    missedAttempts (DeviceSynchronizer.blockLoop block : Pc β) = 0 := by
  unfold DeviceSynchronizer.blockLoop
  split_ifs <;> rfl

private theorem missedAttempts_callback (task : FrozenTask) (attempts : ℕ) :
    missedAttempts (SyncState.callback task (attempts + 1) : Pc β) = attempts := by
  cases task <;> rfl

private theorem missedAttempts_afterWrite (block : BlockCopy) (attempts : ℕ) :
    missedAttempts (s.afterWrite block attempts) ≤ attempts - 1 := by
  unfold SyncState.afterWrite
  split_ifs
  · exact le_rfl
  · exact (missedAttempts_blockLoop _).trans_le (Nat.zero_le _)

/-- Only a callback that ends after its freeze adds to the missed attempts. -/
private theorem missedAttempts_step (moved : CopyStep s e t) :
    missedAttempts t.sync.pc ≤ missedAttempts s.sync.pc + (misses s e).toNat := by
  cases moved with
  | asked pc | waited pc =>
      simp only [faked, SyncState.goto]
      split_ifs <;> exact Nat.zero_le _
  | counted now flushed pc =>
      unfold SyncState.unsyncedSectorCount
      dsimp only
      split_ifs <;> exact Nat.zero_le _
  | tested pc =>
      unfold SyncState.testComplete
      dsimp only
      split_ifs <;> exact Nat.zero_le _
  | tired task attempts result pc tired =>
      rw [pc]
      exact tired
  | stillFrozen task attempts result pc permitted asleep =>
      rw [pc]
      exact (missedAttempts_callback task attempts).le
  | froze task attempts mounted pc permitted idle =>
      rw [pc]
      exact (missedAttempts_callback task attempts).le
  | recounted attempts pc =>
      rw [pc]
      exact le_rfl
  | ended task attempts pc =>
      cases task with
      | count => exact Nat.zero_le _
      | copy block => exact (missedAttempts_blockLoop _).trans_le (Nat.zero_le _)
  | missed task attempts pc thawed =>
      have counted : misses s (.sync .endRequiredFreezeBlock) = true := by simp [misses, thawed]
      rw [pc, counted]
      exact Nat.le_add_of_sub_le le_rfl
  | removed interval isVolatile now pc =>
      exact (missedAttempts_blockLoop _).trans_le (Nat.zero_le _)
  | read block attempts pc =>
      rw [pc]
      exact le_rfl
  | wrote block attempts buf pc =>
      rw [pc]
      exact missedAttempts_afterWrite block attempts
  | left outcome pc idle =>
      rw [pc]
      cases outcome <;> exact le_rfl
  | setFrozen thread | clearFrozen thread | thawed failed thread => exact le_rfl
  | opened | got | updated => exact Nat.zero_le _

end Runs

section Counts

variable {source : ℕ → β} {s t : SyncState β} {e : Event β}

/-- The sectors that are out of the store and not yet reported as synced. -/
def inHand : Pc β → ℕ
  | .freezing (.copy block) _ | .reading block _ | .writing block _ _
  | .ending (.copy block) _ => block.interval.cardinality
  | .copied interval => interval.cardinality
  | _ => 0

/-- `DoSync` has found the store empty. -/
def nothingLeft : Pc β → Bool
  | .waiting | .leaving .finished | .done .finished => true
  | _ => false

/-- The bytes that have been reported and those that have not add up to the total, until
`DoSync` gives up with the interval that it has in hand. -/
structure Booked (total : ℕ) (s : SyncState β) : Prop where
  bound : s.sync.status.bytesTransferred + (left s + inHand s.sync.pc) * 512 ≤ total
  balance : threw s.sync.pc = false →
    s.sync.status.bytesTransferred + (left s + inHand s.sync.pc) * 512 = total
  reported : s.sync.status.bytesTransferred = s.sync.totalBytesSent
  drained : nothingLeft s.sync.pc = true → s.sync.status.bytesUnsynced = 0

private theorem Booked.below {total : ℕ} (booked : Booked total s) :
    s.sync.status.bytesTransferred + left s * 512 ≤ total := by
  have fewer : left s * 512 ≤ (left s + inHand s.sync.pc) * 512 :=
    Nat.mul_le_mul_right 512 (Nat.le_add_right _ _)
  exact (Nat.add_le_add_left fewer _).trans booked.bound

private theorem inHand_blockLoop (block : BlockCopy) :
    inHand (DeviceSynchronizer.blockLoop block : Pc β) = block.interval.cardinality := by
  unfold DeviceSynchronizer.blockLoop
  split_ifs <;> rfl

private theorem filling_blockLoop (block : BlockCopy) :
    nothingLeft (DeviceSynchronizer.blockLoop block : Pc β) = false := by
  unfold DeviceSynchronizer.blockLoop
  split_ifs <;> rfl

private theorem inHand_callback (task : FrozenTask) (attempts : ℕ) :
    inHand (SyncState.callback task (attempts + 1) : Pc β) =
      inHand (.freezing task attempts : Pc β) := by
  cases task <;> rfl

private theorem filling_callback (task : FrozenTask) (attempts : ℕ) :
    nothingLeft (SyncState.callback task attempts : Pc β) = false := by
  cases task <;> rfl

/-- A step that reports nothing. -/
private theorem booked_silent {total : ℕ} (booked : Booked total s)
    (status : t.sync.status = s.sync.status)
    (total' : t.sync.totalBytesSent = s.sync.totalBytesSent)
    (sectors : left t + inHand t.sync.pc = left s + inHand s.sync.pc)
    (later : nothingLeft t.sync.pc = true → nothingLeft s.sync.pc = true)
    (before : threw t.sync.pc = false → threw s.sync.pc = false) : Booked total t := by
  refine ⟨?_, fun going => ?_, ?_, fun ended => ?_⟩
  · rw [status, sectors]
    exact booked.bound
  · rw [status, sectors]
    exact booked.balance (before going)
  · rw [status, total']
    exact booked.reported
  · rw [status]
    exact booked.drained (later ended)

private theorem booked_busy {total : ℕ} (booked : Booked total s)
    (status : t.sync.status = s.sync.status)
    (total' : t.sync.totalBytesSent = s.sync.totalBytesSent)
    (sectors : left t + inHand t.sync.pc = left s + inHand s.sync.pc)
    (busy : nothingLeft t.sync.pc = false) (going : threw s.sync.pc = false) : Booked total t :=
  booked_silent booked status total' sectors (fun ended => by simp [busy] at ended)
    fun _ => going

private theorem booked_tested {total : ℕ} (booked : Booked total s)
    (pc : s.sync.pc = .testing) : Booked total (faked s.testComplete) := by
  have balance := booked.balance (by rw [pc]; rfl)
  rw [pc] at balance
  have count := left_testComplete s
  by_cases complete : s.sync.flushTime > 0 ∧ s.sync.unsyncedSectorCount = 0
  · have next : (faked s.testComplete).sync = { s.sync with
        status := { s.sync.status with bytesUnsynced := s.sync.unsyncedSectorCount * 512 }
        wasDone := true, pc := .waiting } := by
      simp [faked, SyncState.testComplete, complete]
    refine ⟨?_, fun _ => ?_, ?_, fun _ => ?_⟩
    · rw [count, next]
      exact balance.le
    · rw [count, next]
      exact balance
    · rw [next]
      exact booked.reported
    · simp [next, complete.2]
  · have next : (faked s.testComplete).sync = { s.sync with
        status := { s.sync.status with bytesUnsynced := s.sync.unsyncedSectorCount * 512 }
        wasDone := false, pc := .getting } := by
      simp [faked, SyncState.testComplete, complete]
    refine ⟨?_, fun _ => ?_, ?_, fun ended => ?_⟩
    · rw [count, next]
      exact balance.le
    · rw [count, next]
      exact balance
    · rw [next]
      exact booked.reported
    · simp [next, nothingLeft] at ended

private theorem booked_counted {total : ℕ} {now flushed : TimeT} (booked : Booked total s)
    (pc : s.sync.pc = .counting) : Booked total (faked (s.unsyncedSectorCount now flushed)) := by
  unfold SyncState.unsyncedSectorCount
  dsimp only
  split_ifs
  all_goals exact booked_busy booked rfl rfl (by rw [pc]; rfl) rfl (by rw [pc]; rfl)

private theorem inHand_afterWrite (block : BlockCopy) (attempts : ℕ) :
    inHand (s.afterWrite block attempts) = block.interval.cardinality ∧
      nothingLeft (s.afterWrite block attempts) = false := by
  unfold SyncState.afterWrite
  split_ifs
  · exact ⟨rfl, rfl⟩
  · exact ⟨inHand_blockLoop _, filling_blockLoop _⟩

theorem booked_step {total : ℕ} {e : Event β} (inv : Copying source s) (booked : Booked total s)
    (moved : CopyStep s e t) : Booked total t := by
  cases moved with
  | counted now flushed pc => exact booked_counted booked pc
  | tested pc => exact booked_tested booked pc
  | asked pc =>
      rw [inv.isCancelled]
      exact booked_busy booked rfl rfl (by rw [pc]; rfl) rfl (by rw [pc]; rfl)
  | tired task attempts result pc tired =>
      -- the interval in hand is lost
      exact ⟨booked.below, (by simp [faked, SyncState.goto, threw, tooSlow]),
        booked.reported, (by simp [faked, SyncState.goto, nothingLeft, tooSlow])⟩
  | stillFrozen task attempts result pc permitted asleep =>
      refine booked_busy booked rfl rfl ?_ (filling_callback task (attempts + 1)) (by rw [pc]; rfl)
      rw [pc, ← inHand_callback]
      rfl
  | froze task attempts mounted pc permitted idle =>
      refine booked_busy booked rfl rfl ?_ (filling_callback task (attempts + 1)) (by rw [pc]; rfl)
      rw [pc, ← inHand_callback]
      rfl
  | ended task attempts pc =>
      cases task with
      | count => exact booked_busy booked rfl rfl (by rw [pc]; rfl) rfl (by rw [pc]; rfl)
      | copy block =>
          refine booked_busy booked rfl rfl ?_ (filling_blockLoop _) (by rw [pc]; rfl)
          rw [pc]
          exact congrArg (left s + ·) (inHand_blockLoop _)
  | missed task attempts pc thawed =>
      refine booked_busy booked rfl rfl ?_ rfl (by rw [pc]; rfl)
      rw [pc]
      cases task <;> rfl
  | waited pc =>
      rw [if_pos inv.condition]
      exact booked_silent booked rfl rfl (by rw [pc]; rfl) (fun _ => by rw [pc]; rfl)
        fun _ => by rw [pc]; rfl
  | got now interval isVolatile store pc got =>
      obtain ⟨rfl, _⟩ := s.device.store.getInterval_eq_some now got
      exact booked_busy booked rfl rfl (by rw [pc]; rfl) rfl (by rw [pc]; rfl)
  | removed interval isVolatile now pc =>
      have facts := inv.facts
      rw [pc] at facts
      obtain ⟨epoch, segment⟩ := facts
      refine booked_busy booked rfl rfl ?_ (filling_blockLoop _) (by rw [pc]; rfl)
      rw [pc]
      exact (congrArg (_ + ·) (inHand_blockLoop _)).trans (left_removed segment).1.symm
  | wrote block attempts buf pc =>
      obtain ⟨same, busy⟩ := inHand_afterWrite (s := s) block attempts
      refine booked_busy booked rfl rfl ?_ busy (by rw [pc]; rfl)
      rw [pc]
      exact congrArg (left s + ·) same
  | updated interval pc =>
      have balance := booked.balance (by rw [pc]; rfl)
      have reported := booked.reported
      rw [pc] at balance
      have after : s.sync.totalBytesSent + interval.cardinality * 512 +
          (s.device.store.unsyncedSectorCount + 0) * 512 = total := by
        simp only [inHand, left] at balance
        omega
      exact ⟨after.le, fun _ => after, rfl, fun ended => by cases ended⟩
  | left outcome pc idle =>
      refine booked_silent booked rfl rfl ?_ (fun ended => ?_) fun going => ?_
      · rw [pc]
        rfl
      · rw [pc]
        cases outcome <;> exact ended
      · rw [pc]
        cases outcome <;> exact going
  | setFrozen | clearFrozen | thawed => exact booked_silent booked rfl rfl rfl id id
  | _ =>
      exact booked_busy booked rfl rfl (by rw [‹s.sync.pc = _›]; rfl) rfl
        (by rw [‹s.sync.pc = _›]; rfl)

end Counts

section Example

/-- A callback that ends after the freeze it began with. -/
def missedCount : List (Event ℕ) :=
  [.sync (.beginRequiredFreezeBlock (.froze true)), .unfreeze .setFrozen, .unfreeze .clearFrozen,
    .sync .recount, .sync .endRequiredFreezeBlock, .unfreeze (.thaw false)]

/-- One interval of three sectors, two of them to a block, with the freezes that find
the store full, at the second attempt, and empty. -/
def copyThreeSectors : List (Event ℕ) :=
  [.sync (.openDevices none), .sync .isCancelled, .sync (.unsyncedSectorCount 1000 1000)] ++
  missedCount ++
  [.sync (.beginRequiredFreezeBlock (.froze true)), .unfreeze .setFrozen, .sync .recount,
    .sync .endRequiredFreezeBlock, .sync .testComplete, .unfreeze .clearFrozen,
    .unfreeze (.thaw false), .sync (.getInterval 1003), .sync .removeInterval,
    .sync (.pread .full), .sync (.pwrite .full), .sync (.pread .full), .sync (.pwrite .full),
    .sync .updateSyncedCount, .sync .isCancelled, .sync (.unsyncedSectorCount 1004 1004),
    .sync (.beginRequiredFreezeBlock (.froze true)), .unfreeze .setFrozen, .sync .recount,
    .sync .endRequiredFreezeBlock, .sync .testComplete, .sync .waitUntilFinished,
    .unfreeze .clearFrozen, .unfreeze (.thaw false), .sync .leave]

instance decidableCallsSucceed : (e : Event β) → Decidable (CallsSucceed e)
  | .sync (.openDevices failure) => inferInstanceAs (Decidable (failure = none))
  | .sync (.unsyncedSectorCount now flushed) =>
      inferInstanceAs (Decidable (Late now ∧ Late flushed))
  | .sync (.getInterval now) => inferInstanceAs (Decidable (Late now))
  | .sync (.beginRequiredFreezeBlock result) =>
      inferInstanceAs (Decidable (∃ mounted, result = .froze mounted))
  | .sync (.pread result) => inferInstanceAs (Decidable (result = .full))
  | .sync (.pwrite result) => inferInstanceAs (Decidable (result = .full))
  | .sync .isCancelled | .sync .recount | .sync .endRequiredFreezeBlock | .sync .testComplete
  | .sync .waitUntilFinished | .sync .removeInterval | .sync .updateSyncedCount | .sync .leave
  | .unfreeze _ => isTrue trivial
  | .device _ | .others _ => isFalse id

/-- After the end nothing happens any more. -/
theorem not_canGoOn {s : SyncState β} {outcome : Outcome} (pc : s.sync.pc = .done outcome)
    (idle : s.sync.unfreezeThread = .idle) : ¬ CanGoOn s := by
  rintro ⟨e, calm, taken⟩
  obtain ⟨t, moved⟩ := Option.isSome_iff_exists.mp taken
  cases copyStep_of_step calm moved
  case setFrozen thread => exact absurd (idle.symm.trans thread) (by simp)
  case clearFrozen thread => exact absurd (idle.symm.trans thread) (by simp)
  case thawed thread => exact absurd (idle.symm.trans thread) (by simp)
  all_goals exact absurd (pc.symm.trans ‹s.sync.pc = _›) (by simp)

private def atEnd {β : Type*} (s : SyncState β) : Bool :=
  (match s.sync.pc with
    | .done .finished => true
    | _ => false) && s.sync.unfreezeThread == .idle

private theorem atEnd_iff {s : SyncState β} (ended : atEnd s = true) :
    s.sync.pc = .done .finished ∧ s.sync.unfreezeThread = .idle := by
  unfold atEnd at ended
  split at ended
  · exact ⟨‹_›, by simpa using ended⟩
  · cases ended

private theorem copyThreeSectors_succeed : ∀ e ∈ copyThreeSectors, CallsSucceed e := by
  decide +kernel

/-- Ten callbacks in a row that end too late. -/
example : (run step (start (fun _ => 1) [⟨0, 3⟩] twoSectors fun _ => 0)
    ([.sync (.openDevices none), .sync .isCancelled, .sync (.unsyncedSectorCount 1000 1000)] ++
      (List.replicate 10 missedCount).flatten ++
      [.sync (.beginRequiredFreezeBlock (.froze true)), .sync .leave])).any (fun last =>
    threw last.sync.pc && last.sync.status == ⟨0, 0⟩) = true := by
  decide +kernel

end Example

end LinuxAgent.FsAwareBdCopy
