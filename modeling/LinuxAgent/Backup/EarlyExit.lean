/- module: LinuxAgent/Backup/EarlyExit
   source: device_synchronizer/device_synchronizer.cc, backup/backup.cc,
     unsynced_sector_manager/unsynced_sector_store.{h,cc}
   digest: What a failed or cancelled DoSync leaves behind when DoBackup has reported. -/

import LinuxAgent.Backup.DoBackup

/-!
`RemoveInterval` takes an interval out of the unsynced map before its blocks are
copied. `DoBackup` and `DoSync` never call `ReInsertSyncHistory`, so an exception in
the block loop loses the part of the interval that was not written, unless that part
is equal anyway or has been written again.
-/

set_option autoImplicit false
set_option relaxedAutoImplicit false

namespace LinuxAgent.Backup

open LinuxAgent.Lib.Run LinuxAgent.Synchronizer

variable {β : Type*} {n m : ℕ}

namespace BackupRun

/-- The step does not throw synchronizer `i` out of a block loop whose unwritten rest
nothing else remembers. -/
def ForgetsNothing (source : Fin n → Fin m) (i : Fin n) (s : BackupRun β n m)
    (e : BackupEvent β n m) : Prop :=
  ∀ sync, e = .sync i sync → (s.view source i).ForgetsNothing (.sync sync)

section Steps

variable {source : Fin n → Fin m} {s t : BackupRun β n m} {e : BackupEvent β n m} {i : Fin n}

/-- What carries the sectors of synchronizer `i` along a backup. -/
structure Remembers (source : Fin n → Fin m) (i : Fin n) (s : BackupRun β n m) : Prop where
  threads : s.Threads
  consistent : (s.view source i).Consistent

private theorem remembers_start (devices : Fin m → Device β) (blockSize : Fin n → BlockSize)
    (destination : Fin n → ℕ → β)
    (forward : 0 ≤ (devices (source i)).store.volatileSeconds)
    (covered : ∀ sector, (devices (source i)).sectors sector ≠ destination i sector →
      (devices (source i)).Covered sector) :
    (start devices blockSize destination).Remembers source i :=
  ⟨threads_start devices blockSize destination, forward, trivial, trivial,
    fun sector differs => Or.inl (covered sector differs)⟩

private theorem remembers_step (exclusive : ∀ j, j ≠ i → source j ≠ source i)
    (remembers : s.Remembers source i) (keeps : s.ForgetsNothing source i e)
    (taken : s.BackupStep source e t) : t.Remembers source i := by
  refine ⟨threads_step remembers.threads taken, ?_⟩
  have before := remembers.consistent
  rcases view_cases taken exclusive with
    ⟨own, moved, sync⟩ | ⟨main, devices, destination, pc⟩
  · refine consistent_step before ?_ moved
    cases own with
    | sync own => exact keeps own (sync own rfl)
    | _ => exact fun interrupted => absurd interrupted id
  · have unstarted := remembers.threads.unstarted i (by simp [main, Launched])
    refine ⟨?_, ?_, ?_, fun sector differs => Or.inl ?_⟩
    · simpa only [view, devices] using before.forward
    · simp only [view, pc]
      trivial
    · simp only [view, pc]
      trivial
    · simp only [view, devices, destination] at differs ⊢
      refine (before.tracked sector differs).resolve_right fun pending => ?_
      rw [DeviceSynchronizer.notYetWritten, view, unstarted] at pending
      exact absurd pending.2 (Nat.not_lt_zero sector)

private theorem not_tracked_of_forgetting (forgets : ¬ s.ForgetsNothing source i e)
    (taken : s.step source e = some t) : ¬ (t.view source i).Tracked := by
  simp only [ForgetsNothing, not_forall] at forgets
  obtain ⟨sync, rfl, forgets⟩ := forgets
  obtain ⟨u, moved, rfl⟩ := Option.map_eq_some_iff.mp taken
  rw [view_put_self]
  exact not_tracked_of_forgets forgets moved

end Steps

end BackupRun

/-- Synchronizer `i`, which shares its source with no other one, starts with every
differing sector in the store or in flight. Then no state of the backup loses one
exactly when no exception leaves a block loop with an unwritten sector that differs,
is not in the store and is not in flight; and if no exception does, every sector that
differs when `DoBackup` has reported and returned is in the store or in flight. -/
theorem earlyExit_remembers_iff (source : Fin n → Fin m) (i : Fin n)
    (exclusive : ∀ j, j ≠ i → source j ≠ source i) (devices : Fin m → Device β)
    (blockSize : Fin n → BlockSize) (destination : Fin n → ℕ → β)
    (forward : 0 ≤ (devices (source i)).store.volatileSeconds)
    (covered : ∀ sector, (devices (source i)).sectors sector ≠ destination i sector →
      (devices (source i)).Covered sector)
    (events : List (BackupEvent β n m)) (s : BackupRun β n m)
    (reached : run (BackupRun.step source) (.start devices blockSize destination) events =
      some s) :
    ((∀ before after t, events = before ++ after →
      run (BackupRun.step source) (.start devices blockSize destination) before = some t →
      (t.view source i).Tracked) ↔
    Along (BackupRun.step source) (BackupRun.ForgetsNothing source i)
      (.start devices blockSize destination) events) ∧
    (Along (BackupRun.step source) (BackupRun.ForgetsNothing source i)
      (.start devices blockSize destination) events → s.main = .returned →
      ∀ sector, (s.devices (source i)).sectors sector ≠ (s.syncs i).destination sector →
        (s.devices (source i)).store.Unsynced sector ∨
          ∃ trace ∈ (s.devices (source i)).inFlight, trace.Covers sector) := by
  have start := BackupRun.remembers_start (i := i) devices blockSize destination forward covered
  have stable (s : BackupRun β n m) (e t) (remembers : s.Remembers source i)
      (keeps : s.ForgetsNothing source i e) (taken : s.step source e = some t) :
      t.Remembers source i :=
    BackupRun.remembers_step exclusive remembers keeps (BackupRun.step_cases taken)
  refine ⟨good_iff_along (Q := fun _ => True) (fun s remembers => remembers.consistent.tracked)
    (fun s e t remembers _ keeps taken => stable s e t remembers keeps taken)
    (fun s e t _ _ forgets taken => BackupRun.not_tracked_of_forgetting forgets taken)
    start (fun _ _ => trivial) (by simp [reached]), ?_⟩
  intro keeps returned sector differs
  have remembers := invariant_along stable start keeps reached
  obtain ⟨outcome, pc⟩ := remembers.threads.exits i
    (remembers.threads.joined i (by simp [returned, BackupRun.Joined]))
  refine (remembers.consistent.tracked sector differs).resolve_right fun pending => ?_
  rw [DeviceSynchronizer.notYetWritten, BackupRun.view, pc] at pending
  exact absurd pending.2 (Nat.not_lt_zero sector)

section Example

def oneWorker : BackupRun ℕ 1 1 :=
  .start (fun _ => seededDevice) (fun _ => twoSectors) fun _ => blankDestination

/-- The only worker starts, counts and begins with the seeded interval. -/
def beginCopy : List (BackupEvent ℕ 1 1) :=
  [.backupInProgress, .createSyncCountHandler, .sync 0 (.openDevices none)] ++
    countRound 0 1000 ++
  [.sync 0 .testComplete, .sync 0 (.getInterval 1003), .sync 0 .removeInterval]

/-- The interval is copied, and the backup is stopped. -/
def stoppedAfterCopy : List (BackupEvent ℕ 1 1) :=
  beginCopy ++
  [.sync 0 (.pread .full), .sync 0 (.pwrite .full), .cancel, .sync 0 (.pread .full),
    .sync 0 (.pwrite .full), .sync 0 .updateSyncedCount, .sync 0 .isCancelled, .sync 0 .leave,
    .returnFromThread 0, .waitUntilFinished, .join, .getFatalErrors, .report]

theorem earlyExit_remembers_iff_stoppedAfterCopy :
    ∃ s, run (BackupRun.step id) oneWorker stoppedAfterCopy = some s ∧ s.main = .returned ∧
      ((∀ before after t, stoppedAfterCopy = before ++ after →
        run (BackupRun.step id) oneWorker before = some t → (t.view id 0).Tracked) ↔
      Along (BackupRun.step id) (BackupRun.ForgetsNothing id 0) oneWorker stoppedAfterCopy) := by
  have evaluated : (run (BackupRun.step id) oneWorker stoppedAfterCopy).any
      (fun s => decide (s.main = .returned)) = true := by decide +kernel
  obtain ⟨s, reached, returned⟩ := (Option.any_eq_true _ _).mp evaluated
  exact ⟨s, reached, of_decide_eq_true returned,
    (earlyExit_remembers_iff id 0 (fun j other => absurd (Subsingleton.elim j 0) other)
      (fun _ => seededDevice) (fun _ => twoSectors) (fun _ => blankDestination) (by decide)
      seededDevice_covered stoppedAfterCopy s reached).1⟩

/-- The first read of the interval fails. -/
def failedRead : List (BackupEvent ℕ 1 1) :=
  beginCopy ++
  [.sync 0 (.pread .error), .sync 0 .leave, .catchError 0 (some "source"), .waitUntilFinished,
    .join, .getFatalErrors, .report]

/-- The failure is reported, and nothing remembers that the first sector was not copied. -/
theorem failedRead_forgets :
    ∃ s, run (BackupRun.step id) oneWorker failedRead = some s ∧
      s.calls = [.backupInProgress, .backupFailed "source : Error reading from source"] ∧
      (s.devices 0).sectors 0 ≠ (s.syncs 0).destination 0 ∧ ¬ (s.devices 0).Covered 0 := by
  have evaluated : (run (BackupRun.step id) oneWorker failedRead).any (fun s =>
      decide (s.calls = [.backupInProgress, .backupFailed "source : Error reading from source"] ∧
        (s.devices 0).sectors 0 ≠ (s.syncs 0).destination 0 ∧ ¬ (s.devices 0).Covered 0)) =
      true := by decide +kernel
  obtain ⟨s, reached, facts⟩ := (Option.any_eq_true _ _).mp evaluated
  exact ⟨s, reached, of_decide_eq_true facts⟩

end Example

end LinuxAgent.Backup
