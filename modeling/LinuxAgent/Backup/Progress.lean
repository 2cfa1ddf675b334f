/- module: LinuxAgent/Backup/Progress
   source: device_synchronizer/device_synchronizer.cc, backup/backup.cc,
           backup_status_tracker/sync_count_handler.cc
   digest: The byte counts that a status reply shows, against what has been written. -/

import LinuxAgent.Backup.EarlyExit
import LinuxAgent.Backup.Verdict

/-!
A status reply shows two counts for each source device. `bytes_transferred` is the running
sum of the sizes of the copied intervals, which `DoSync` takes before the next round and
not from what `pwrite` returned. An interval is copied in whole blocks, and a block of an
interval that is volatile may be written up to ten times. `bytes_unsynced` is the last count
of the store that `DoSync` has tested.
-/

set_option autoImplicit false
set_option relaxedAutoImplicit false

namespace LinuxAgent.Backup

open LinuxAgent.Lib.Run LinuxAgent.Synchronizer

section Counts

variable {β : Type*}

/-- The bytes of the interval in hand whose blocks have been written. -/
def writtenInHand (blockSize : BlockSize) : Pc β → ℕ
  | .freezing (.copy block) _ | .reading block _ | .writing block _ _ => block.i * 512
  | .ending (.copy block) _ => block.i * 512 + blockSize.bytes
  | .copied interval => interval.cardinality * 512
  | _ => 0

/-- `DoSync` has counted nothing in the store, and waits or leaves because of it. -/
def foundEmpty : Pc β → Bool
  | .waiting | .leaving .finished | .done .finished => true
  | _ => false

/-- The counts of a synchronizer after `writes` complete calls of `pwrite`. -/
structure Honest (blockSize : BlockSize) (writes : ℕ) (sync : DeviceSynchronizer β) : Prop where
  size : sync.blockSize = blockSize
  reported : sync.status.bytesTransferred = sync.totalBytesSent
  backed : sync.totalBytesSent + writtenInHand blockSize sync.pc ≤ writes * blockSize.bytes
  fresh : sync.pc = .unstarted → sync.totalBytesSent = 0
  drained : foundEmpty sync.pc = true → sync.status.bytesUnsynced = 0

/-- Whether the event is a complete call of `pwrite`. -/
def isWrite : SyncEvent → Bool
  | .pwrite .full => true
  | _ => false

private theorem written_blockLoop (blockSize : BlockSize) (block : BlockCopy) :
    writtenInHand blockSize (DeviceSynchronizer.blockLoop block : Pc β) ≤ block.i * 512 := by
  unfold DeviceSynchronizer.blockLoop
  split_ifs with more frozen
  · exact le_refl _
  · exact le_refl _
  · exact Nat.mul_le_mul_right 512 (not_lt.mp more)

private theorem written_nextBlock (sync : DeviceSynchronizer β) (block : BlockCopy) :
    writtenInHand sync.blockSize (sync.nextBlock block) ≤
      block.i * 512 + sync.blockSize.bytes := by
  refine (written_blockLoop sync.blockSize _).trans (le_of_eq ?_)
  rw [Nat.add_mul, ← sync.blockSize.bytes_eq.1]

private theorem written_callback (blockSize : BlockSize) (task : FrozenTask)
    (attempts before : ℕ) :
    writtenInHand blockSize (SyncState.callback task attempts : Pc β) =
      writtenInHand blockSize (.freezing task before : Pc β) := by
  cases task <;> rfl

private theorem written_afterFrozen (s : SyncState β) (task : FrozenTask) (attempts : ℕ) :
    writtenInHand s.sync.blockSize (s.afterFrozen task) ≤
      writtenInHand s.sync.blockSize (.ending task attempts : Pc β) := by
  cases task with
  | count => exact le_refl 0
  | copy block => exact written_nextBlock s.sync block

private theorem written_afterWrite (s : SyncState β) (block : BlockCopy) (attempts : ℕ) :
    writtenInHand s.sync.blockSize (s.afterWrite block attempts) ≤
      block.i * 512 + s.sync.blockSize.bytes := by
  unfold SyncState.afterWrite
  split_ifs
  · exact le_refl _
  · exact written_nextBlock s.sync block

/-- `DoSync` is under way, with something left or not yet counted. -/
def Going (pc : Pc β) : Prop := pc ≠ .unstarted ∧ foundEmpty pc = false

private theorem going_blockLoop (block : BlockCopy) :
    Going (DeviceSynchronizer.blockLoop block : Pc β) := by
  unfold DeviceSynchronizer.blockLoop
  split_ifs <;> exact ⟨by simp, rfl⟩

private theorem going_callback (task : FrozenTask) (attempts : ℕ) :
    Going (SyncState.callback task attempts : Pc β) := by
  cases task <;> exact ⟨by simp [SyncState.callback], rfl⟩

private theorem going_afterFrozen (s : SyncState β) (task : FrozenTask) :
    Going (s.afterFrozen task) := by
  cases task with
  | count => exact ⟨by simp [SyncState.afterFrozen], rfl⟩
  | copy block => exact going_blockLoop _

private theorem going_afterWrite (s : SyncState β) (block : BlockCopy) (attempts : ℕ) :
    Going (s.afterWrite block attempts) := by
  unfold SyncState.afterWrite
  split_ifs
  · exact ⟨by simp, rfl⟩
  · exact going_blockLoop _

section Steps

variable {blockSize : BlockSize} {writes : ℕ}

/-- A step that reports nothing. -/
private theorem honest_silent {before after : DeviceSynchronizer β} (more : ℕ)
    (honest : Honest blockSize writes before) (size : after.blockSize = before.blockSize)
    (total : after.totalBytesSent = before.totalBytesSent)
    (status : after.status = before.status) (begun : after.pc ≠ .unstarted)
    (written : writtenInHand before.blockSize after.pc ≤
      writtenInHand before.blockSize before.pc + more * before.blockSize.bytes)
    (later : foundEmpty after.pc = true → foundEmpty before.pc = true) :
    Honest blockSize (writes + more) after := by
  obtain rfl := honest.size
  have backed := honest.backed
  refine ⟨size, ?_, ?_, fun unstarted => absurd unstarted begun, fun empty => ?_⟩
  · rw [status, total]
    exact honest.reported
  · rw [total, Nat.add_mul]
    omega
  · rw [status]
    exact honest.drained (later empty)

/-- A step to a point where nothing is known about the rest. -/
private theorem honest_going {before after : DeviceSynchronizer β}
    (honest : Honest blockSize writes before) (size : after.blockSize = before.blockSize)
    (total : after.totalBytesSent = before.totalBytesSent)
    (status : after.status = before.status) (going : Going after.pc)
    (written : writtenInHand before.blockSize after.pc ≤
      writtenInHand before.blockSize before.pc) :
    Honest blockSize writes after :=
  honest_silent 0 honest size total status going.1 (by omega)
    fun empty => by simp [going.2] at empty

private theorem honest_throw {s : SyncState β} (honest : Honest blockSize writes s.sync)
    (what : String) : Honest blockSize writes (s.throw what).sync :=
  honest_going honest rfl rfl rfl ⟨by simp [SyncState.throw, SyncState.goto], rfl⟩
    (Nat.zero_le _)

private theorem honest_counted {s : SyncState β} {now flushed : UnsyncedSectors.TimeT}
    (honest : Honest blockSize writes s.sync) :
    Honest blockSize writes (s.unsyncedSectorCount now flushed).sync := by
  unfold SyncState.unsyncedSectorCount
  dsimp only
  split_ifs <;> exact honest_going honest rfl rfl rfl ⟨by simp, rfl⟩ (Nat.zero_le _)

/-- The test for completion reports the count that it tests. -/
private theorem honest_tested {s : SyncState β} (honest : Honest blockSize writes s.sync) :
    Honest blockSize writes s.testComplete.sync := by
  have backed := (Nat.le_add_right _ _).trans honest.backed
  unfold SyncState.testComplete
  by_cases complete : s.sync.flushTime > 0 ∧ s.sync.unsyncedSectorCount = 0
  · rw [if_pos complete]
    refine ⟨honest.size, honest.reported, backed, by simp, fun _ => ?_⟩
    simp [complete.2]
  · rw [if_neg complete]
    exact ⟨honest.size, honest.reported, backed, by simp, fun empty => by cases empty⟩

/-- The sum that `UpdateSyncedCount` reports. -/
private theorem total_updated {s t : SyncState β} {interval : UnsyncedSectors.SectorInterval}
    (pc : s.sync.pc = .copied interval) (taken : s.doSync .updateSyncedCount = some t) :
    t.sync.totalBytesSent = s.sync.totalBytesSent + interval.cardinality * 512 := by
  simp only [SyncState.doSync, pc, Option.some.injEq] at taken
  rw [← taken]

/-- A step of `DoSync`, which may be a complete call of `pwrite`. -/
private theorem honest_doSync {s t : SyncState β} {e : SyncEvent}
    (honest : Honest blockSize writes s.sync) (taken : s.doSync e = some t) :
    Honest blockSize (writes + (isWrite e).toNat) t.sync := by
  cases SyncState.doSync_cases taken with
  | opened pc | cancelled pc flag | continued pc flag | got now interval isVolatile store pc got
  | recounted attempts pc | wroteShort block attempts buf sectors pc short =>
      -- no block of an interval is in hand afterwards
      refine honest_going honest rfl rfl rfl ⟨?_, rfl⟩ (Nat.zero_le _)
      simp [SyncState.goto, SyncState.recount]
  | openFailed what pc | tired task attempts result pc tired
  | freezeFailed task attempts what pc idle | thawFailed task attempts what pc idle
  | readFailed block attempts result what pc partly | writeFailed block attempts buf pc =>
      exact honest_throw honest _
  | counted now flushed pc => exact honest_counted honest
  | stillFrozen task attempts result pc permitted asleep
  | froze task attempts mounted pc permitted idle =>
      refine honest_going honest rfl rfl rfl (going_callback task (attempts + 1)) ?_
      rw [pc]
      exact le_of_eq (written_callback s.sync.blockSize task (attempts + 1) attempts)
  | ended task attempts pc =>
      refine honest_going honest rfl rfl rfl (going_afterFrozen s task) ?_
      rw [pc]
      exact written_afterFrozen s task attempts
  | retried task attempts pc =>
      -- the block will be written once more
      refine honest_going honest rfl rfl rfl ⟨by simp [SyncState.goto], rfl⟩ ?_
      rw [pc]
      cases task with
      | count => exact le_refl 0
      | copy block => exact Nat.le_add_right _ _
  | tested pc => exact honest_tested honest
  | waited pc =>
      refine honest_silent 0 honest rfl rfl rfl ?_ ?_ fun _ => by rw [pc]; rfl
      · dsimp only [SyncState.goto]
        split_ifs <;> simp
      · dsimp only [SyncState.goto]
        split_ifs <;> exact Nat.zero_le _
  | removed interval isVolatile now pc =>
      refine honest_going honest rfl rfl rfl (going_blockLoop _) ?_
      exact (written_blockLoop s.sync.blockSize _).trans (by simp)
  | read block attempts pc =>
      refine honest_going honest rfl rfl rfl ⟨by simp [SyncState.goto], rfl⟩ ?_
      rw [pc]
      exact le_refl _
  | wrote block attempts buf pc =>
      have going := going_afterWrite s block attempts
      refine honest_silent 1 honest rfl rfl rfl going.1 ?_ fun empty => by simp [going.2] at empty
      rw [pc, Nat.one_mul]
      exact written_afterWrite s block attempts
  | updated interval totalBytesSent pc =>
      -- what is added now has been in hand as written
      have backed := honest.backed
      rw [pc] at backed
      have sum := total_updated pc taken
      exact ⟨honest.size, rfl, sum.trans_le backed, by simp, fun empty => by cases empty⟩
  | left outcome pc idle =>
      refine honest_silent 0 honest rfl rfl rfl (by simp [SyncState.goto]) (Nat.zero_le _) ?_
      rw [pc]
      cases outcome <;> exact id

/-- What has been reported is not taken back. -/
private theorem total_doSync {s t : SyncState β} {e : SyncEvent} (taken : s.doSync e = some t) :
    s.sync.totalBytesSent ≤ t.sync.totalBytesSent := by
  cases SyncState.doSync_cases taken with
  | counted now flushed pc =>
      unfold SyncState.unsyncedSectorCount
      dsimp only
      split_ifs <;> exact le_refl _
  | tested pc =>
      unfold SyncState.testComplete
      dsimp only
      split_ifs <;> exact le_refl _
  | updated interval totalBytesSent pc =>
      rw [total_updated pc taken]
      exact Nat.le_add_right _ _
  | _ => exact le_refl _

end Steps

end Counts

section Job

variable {β : Type*} {n m : ℕ}

/-- Whether the event is a complete call of `pwrite` of synchronizer `j`. -/
def BackupEvent.writes (j : Fin n) : BackupEvent β n m → Bool
  | .sync i e => decide (i = j) && isWrite e
  | _ => false

section Steps

variable {source : Fin n → Fin m} {s t : BackupRun β n m} {e : BackupEvent β n m} {j : Fin n}
  {blockSize : BlockSize} {writes : ℕ}

private theorem countP_concat (past : List (BackupEvent β n m)) :
    (past ++ [e]).countP (BackupEvent.writes j) =
      past.countP (BackupEvent.writes j) + (e.writes j).toNat := by
  rw [List.countP_append]
  cases written : e.writes j <;> simp [written]

/-- The thread of a synchronizer starts with the counts at zero. -/
private theorem honest_created {sync : DeviceSynchronizer β} (honest : Honest blockSize writes sync)
    (unstarted : sync.pc = .unstarted) :
    Honest blockSize writes
      { sync with status := { sync.status with bytesTransferred := 0 }, pc := .opening } :=
  ⟨honest.size, (honest.fresh unstarted).symm, (Nat.le_add_right _ _).trans honest.backed,
    by simp, fun empty => by cases empty⟩

private theorem honest_unfreeze {s t : SyncState β} {e : UnfreezeEvent}
    (honest : Honest blockSize writes s.sync) (taken : s.unfreeze e = some t) :
    Honest blockSize writes t.sync ∧ t.sync.totalBytesSent = s.sync.totalBytesSent := by
  obtain ⟨frozen, thread, rfl⟩ := SyncState.unfreeze_cases taken
  exact ⟨⟨honest.size, honest.reported, honest.backed, honest.fresh, honest.drained⟩, rfl⟩

private theorem honest_step (threads : s.Threads) (honest : Honest blockSize writes (s.syncs j))
    (taken : s.BackupStep source e t) :
    Honest blockSize (writes + (e.writes j).toNat) (t.syncs j) ∧
      (s.syncs j).totalBytesSent ≤ (t.syncs j).totalBytesSent := by
  cases taken with
  | created next inside main =>
      by_cases same : j = ⟨next, inside⟩
      · subst same
        have unstarted := threads.unstarted ⟨next, inside⟩ (by simp [main, BackupRun.Launched])
        simp only [Function.update_self]
        exact ⟨honest_created honest unstarted, le_refl _⟩
      · simp only [Function.update_of_ne same]
        exact ⟨honest, le_refl _⟩
  | synced i own u taken =>
      by_cases same : j = i
      · subst same
        simp only [BackupRun.put, Function.update_self, BackupEvent.writes, decide_true,
          Bool.true_and]
        exact ⟨honest_doSync honest taken, total_doSync taken⟩
      · simp only [BackupRun.put, Function.update_of_ne same, BackupEvent.writes,
          decide_eq_false (Ne.symm same), Bool.false_and]
        exact ⟨honest, le_refl _⟩
  | unfroze i own u taken =>
      by_cases same : j = i
      · subst same
        simp only [BackupRun.put, Function.update_self]
        obtain ⟨after, total⟩ := honest_unfreeze honest taken
        exact ⟨after, total.ge⟩
      · simp only [BackupRun.put, Function.update_of_ne same]
        exact ⟨honest, le_refl _⟩
  | _ => exact ⟨honest, le_refl _⟩

end Steps

/-- What is known of the counts after the events `past`, if each has once been `least`. -/
structure Tally (blockSize : Fin n → BlockSize) (least : Fin n → ℕ)
    (past : List (BackupEvent β n m)) (s : BackupRun β n m) : Prop where
  threads : s.Threads
  honest : ∀ j, Honest (blockSize j) (past.countP (BackupEvent.writes j)) (s.syncs j)
  least : ∀ j, least j ≤ (s.syncs j).totalBytesSent

section Runs

variable {source : Fin n → Fin m} {devices : Fin m → Device β} {blockSize : Fin n → BlockSize}
  {destination : Fin n → ℕ → β} {least : Fin n → ℕ} {past events : List (BackupEvent β n m)}
  {s t : BackupRun β n m}

private theorem tally_step {e : BackupEvent β n m} (tally : Tally blockSize least past s)
    (taken : s.step source e = some t) : Tally blockSize least (past ++ [e]) t := by
  have moved := BackupRun.step_cases taken
  have next j := honest_step tally.threads (tally.honest j) moved
  refine ⟨BackupRun.threads_step tally.threads moved, fun j => ?_, fun j => ?_⟩
  · rw [countP_concat]
    exact (next j).1
  · exact (tally.least j).trans (next j).2

private theorem tally_run (tally : Tally blockSize least past s)
    (reached : run (BackupRun.step source) s events = some t) :
    Tally blockSize least (past ++ events) t :=
  history_along (P := fun _ _ => True) (fun _ _ _ _ inv _ taken => tally_step inv taken) past
    tally (along_trivial s events) reached

private theorem tally_start :
    Tally blockSize (fun _ => 0) [] (BackupRun.start devices blockSize destination) where
  threads := BackupRun.threads_start devices blockSize destination
  honest := fun _ => ⟨rfl, rfl, Nat.zero_le _, fun _ => rfl, fun empty => by cases empty⟩
  least := fun _ => le_refl 0

/-- A success is reported only when every `DoSync` has finished. -/
private theorem finished_of_succeeded
    (reached : run (BackupRun.step source) (.start devices blockSize destination) events = some s)
    (told : .backupSucceeded ∈ s.calls) (j : Fin n) : (s.syncs j).pc = .done .finished := by
  obtain ⟨account, reported⟩ := account_run reached
  have returned : s.main = .returned := by
    by_contra running
    by_cases entry : s.main = .entry
    · simp [reported.entry entry] at told
    · simp [reported.between entry running] at told
  obtain ⟨before, after, coordinator, split, calls, flag, left⟩ := reported.returned returned
  have verdict : verdict (errorText s.coordinator.fatalErrors) coordinator = .backupSucceeded := by
    simpa [calls, eq_comm] using told
  have going := (verdict_succeeded.mp verdict).2
  refine finished_of_quiet account ?_ ?_ ?_ j
  · exact fun i => account.threads.joined i (by simp [returned, BackupRun.Joined])
  · by_contra some
    exact absurd ((flag.mpr (Or.inr some)).symm.trans going) (by simp)
  · exact fun i quit => absurd ((left i quit).symm.trans going) (by simp)

end Runs

/-- The counts of a status reply, in every run of a backup: no device is said to have
received more than its complete calls of `pwrite` have written, what has been reported is
not taken back, and a backup that is reported as succeeded shows nothing left for any
device. -/
theorem progress_honest (source : Fin n → Fin m) (devices : Fin m → Device β)
    (blockSize : Fin n → BlockSize) (destination : Fin n → ℕ → β)
    (events : List (BackupEvent β n m)) (s : BackupRun β n m)
    (reached : run (BackupRun.step source) (.start devices blockSize destination) events =
      some s) :
    (∀ j, (s.syncs j).status.bytesTransferred ≤
      events.countP (BackupEvent.writes j) * (blockSize j).bytes) ∧
    (∀ before after t, events = before ++ after →
      run (BackupRun.step source) (.start devices blockSize destination) before = some t →
      ∀ j, (t.syncs j).status.bytesTransferred ≤ (s.syncs j).status.bytesTransferred) ∧
    (.backupSucceeded ∈ s.calls → ∀ j, (s.syncs j).status.bytesUnsynced = 0) := by
  have final := tally_run tally_start reached
  refine ⟨fun j => ?_, fun before after t split first j => ?_, fun told j => ?_⟩
  · rw [(final.honest j).reported]
    exact (Nat.le_add_right _ _).trans (final.honest j).backed
  · rw [split] at reached
    obtain ⟨middle, same, rest⟩ := run_append.mp reached
    obtain rfl : t = middle := Option.some.inj (first.symm.trans same)
    have there := tally_run tally_start first
    have later : Tally blockSize (fun j => (t.syncs j).totalBytesSent) (before ++ after) s :=
      tally_run ⟨there.threads, there.honest, fun _ => le_refl _⟩ rest
    rw [(there.honest j).reported, (final.honest j).reported]
    exact later.least j
  · refine (final.honest j).drained ?_
    rw [finished_of_succeeded reached told j]
    rfl

/-- The only worker copies the seeded interval, and the backup succeeds. -/
def copiedAll (i : Fin 1) : List (BackupEvent ℕ 1 1) :=
  beginCopy ++
  [.sync i (.pread .full), .sync i (.pwrite .full), .sync i (.pread .full),
    .sync i (.pwrite .full), .sync i .updateSyncedCount] ++ countRound i 1004 ++
  [.sync i .testComplete, .sync i .waitUntilFinished, .sync i .leave, .returnFromThread i,
    .waitUntilFinished, .join, .getFatalErrors, .report]

theorem progress_honest_copiedAll :
    ∃ s, run (BackupRun.step id) oneWorker (copiedAll 0) = some s ∧
      .backupSucceeded ∈ s.calls ∧ 0 < (s.syncs 0).status.bytesTransferred ∧
      (s.syncs 0).status.bytesTransferred ≤
        (copiedAll 0).countP (BackupEvent.writes 0) * twoSectors.bytes ∧
      (s.syncs 0).status.bytesUnsynced = 0 := by
  have evaluated : (run (BackupRun.step id) oneWorker (copiedAll 0)).any (fun s =>
      decide (.backupSucceeded ∈ s.calls ∧ 0 < (s.syncs 0).status.bytesTransferred)) = true := by
    decide +kernel
  obtain ⟨s, reached, facts⟩ := (Option.any_eq_true _ _).mp evaluated
  obtain ⟨told, transferred⟩ := of_decide_eq_true facts
  obtain ⟨bounded, _, drained⟩ := progress_honest id (fun _ => seededDevice)
    (fun _ => twoSectors) (fun _ => blankDestination) (copiedAll 0) s reached
  exact ⟨s, reached, told, transferred, bounded 0, drained told 0⟩

end Job

end LinuxAgent.Backup
