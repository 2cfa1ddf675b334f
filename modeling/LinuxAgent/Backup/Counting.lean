/- module: LinuxAgent/Backup/Counting
   source: device_synchronizer/device_synchronizer.cc, backup/backup_coordinator.{h,cc}
   digest: The coordinator's counter against the was_done flags of the synchronizers. -/

import LinuxAgent.Backup.DoBackup

/-!
Towards the coordinator a synchronizer is a client that is active while its `was_done`
is false. It keeps the documented contract except for one thing: `DoSync` does not
look at the answer of `SignalMoreWorkToDo`, so a refused synchronizer goes on as if it
were active. As long as that does not happen, the backup refines the contract, and
what holds of the clients holds of the synchronizers.
-/

set_option autoImplicit false
set_option relaxedAutoImplicit false

namespace LinuxAgent.Backup

open LinuxAgent.Lib.Run LinuxAgent.Synchronizer

variable {β : Type*} {n m : ℕ}

/-- Nobody cancels, and no fatal error is added. -/
def BackupEvent.undisturbed : BackupEvent β n m → Bool
  | .cancel | .catchError _ _ => false
  | _ => true

namespace BackupRun

/-- The synchronizers as clients of the coordinator. -/
def clients (s : BackupRun β n m) : Clients n := ⟨s.coordinator, fun j => !(s.syncs j).wasDone⟩

/-- The counter is the number of synchronizers whose `was_done` is false. -/
def CountsWorkers (s : BackupRun β n m) : Prop :=
  s.coordinator.count.toNat = tally (fun sync => !sync.wasDone) s.syncs

instance (s : BackupRun β n m) : Decidable s.CountsWorkers :=
  inferInstanceAs (Decidable (_ = _))

/-- A synchronizer that was done finds more work when the counter is zero already. -/
def asksTooLate (s : BackupRun β n m) : BackupEvent β n m → Bool
  | .sync i .testComplete =>
      (s.syncs i).wasDone && s.coordinator.count == 0 &&
        !(decide ((s.syncs i).flushTime > 0) && (s.syncs i).unsyncedSectorCount == 0)
  | _ => false

section Steps

variable {source : Fin n → Fin m} {s t : BackupRun β n m} {e : BackupEvent β n m}

private theorem countsWorkers_iff : s.CountsWorkers ↔ s.clients.Counted := Iff.rfl

private theorem clients_put (i : Fin n) (u : SyncState β) :
    (s.put source i u).clients =
      ⟨u.coordinator, Function.update s.clients.active i (!u.sync.wasDone)⟩ := by
  simp only [clients, put, Clients.mk.injEq, true_and]
  funext j
  by_cases same : j = i
  · subst same
    simp
  · simp [same]

private theorem clients_put_of_silent (i : Fin n) {u : SyncState β}
    (coordinator : u.coordinator = s.coordinator)
    (wasDone : u.sync.wasDone = (s.syncs i).wasDone) : (s.put source i u).clients = s.clients := by
  rw [clients_put, coordinator, wasDone]
  simp [clients]

/-- The test for completion is a permitted call, unless it asks too late. -/
private theorem clients_testComplete (i : Fin n) (going : s.coordinator.cancelled = false)
    (timely : s.asksTooLate (.sync i .testComplete) = false) :
    ∃ calls, run Clients.call s.clients calls =
      some (s.put source i (s.view source i).testComplete).clients := by
  rcases (s.view source i).testComplete_cases with
    ⟨_, _, wasDone, coordinator, now⟩ | ⟨incomplete, wasDone, coordinator, now⟩ |
      ⟨_, coordinator, now⟩
  · refine ⟨[.signalFinished i], ?_⟩
    have active : s.clients.active i = true := by simpa [clients, view] using wasDone
    rw [clients_put, coordinator, now]
    simp only [run, Clients.call, active, if_true, Option.bind_some]
    rfl
  · refine ⟨[.signalMoreWorkToDo i], ?_⟩
    have inactive : s.clients.active i = false := by simpa [clients, view] using wasDone
    have granted : s.coordinator.signalMoreWorkToDo.1 = true := by
      rw [BackupCoordinator.signalMoreWorkToDo_fst]
      refine ⟨going, Nat.pos_of_ne_zero fun zero => ?_⟩
      have zero : s.coordinator.count = 0 := UInt32.toNat_inj.mp zero
      simp only [view] at wasDone incomplete
      simp only [asksTooLate, wasDone, zero] at timely
      simp_all
    rw [clients_put, coordinator, now]
    simp only [run, Clients.call, inactive, Option.bind_some, Bool.false_eq_true, if_false]
    change some (Clients.mk s.coordinator.signalMoreWorkToDo.2
      (Function.update s.clients.active i s.coordinator.signalMoreWorkToDo.1)) = _
    rw [granted]
    rfl
  · exact ⟨[], by rw [run_nil, clients_put_of_silent i coordinator now]⟩

/-- A step that does not ask too late is permitted by the contract. -/
private theorem clients_step (going : s.coordinator.cancelled = false)
    (quiet : e.undisturbed = true) (timely : s.asksTooLate e = false)
    (taken : s.BackupStep source e t) :
    t.coordinator.cancelled = false ∧
      ∃ calls, run Clients.call s.clients calls = some t.clients := by
  have same (unchanged : t.clients = s.clients) : t.coordinator.cancelled = false ∧
      ∃ calls, run Clients.call s.clients calls = some t.clients := by
    have coordinator : t.coordinator = s.coordinator := congrArg Clients.coordinator unchanged
    exact ⟨coordinator ▸ going, [], by rw [run_nil, unchanged]⟩
  cases taken with
  | created next inside main =>
      refine same ?_
      simp only [clients, Clients.mk.injEq, true_and]
      funext j
      by_cases here : j = ⟨next, inside⟩
      · subst here
        simp
      · simp [here]
  | synced i own u taken =>
      have moved := SyncState.doSync_cases taken
      rcases SyncState.silent_doSync moved with ⟨rfl, _, rfl⟩ | ⟨coordinator, wasDone⟩
      · refine ⟨?_, clients_testComplete i going timely⟩
        exact (SyncState.coordinator_doSync moved).1.trans going
      · exact same (clients_put_of_silent i coordinator wasDone)
  | unfroze i own u taken =>
      obtain ⟨frozen, thread, rfl⟩ := SyncState.unfreeze_cases taken
      exact same (clients_put_of_silent i rfl rfl)
  | caught => cases quiet
  | cancelled => cases quiet
  | _ => exact same rfl

/-- A refused synchronizer counts itself as active, the coordinator does not. -/
private theorem not_countsWorkers_of_late (late : s.asksTooLate e = true)
    (taken : s.BackupStep source e t) : ¬ t.CountsWorkers := by
  unfold asksTooLate at late
  split at late
  next i =>
    simp only [Bool.and_eq_true, Bool.not_eq_true', Bool.and_eq_false_iff, beq_iff_eq,
      decide_eq_false_iff_not, beq_eq_false_iff_ne] at late
    obtain ⟨⟨wasDone, zero⟩, incomplete⟩ := late
    have refused : s.coordinator.signalMoreWorkToDo.1 = false := by
      rw [Bool.eq_false_iff, Ne, BackupCoordinator.signalMoreWorkToDo_fst]
      simp [zero]
    cases taken with
    | synced _ _ u taken =>
        cases SyncState.doSync_cases taken with
        | tested pc =>
            rcases (s.view source i).testComplete_cases with
              ⟨_, _, notDone, _⟩ | ⟨_, _, coordinator, now⟩ | ⟨complete, _⟩
            · exact absurd (wasDone.symm.trans notDone) (by simp)
            · have active : 0 < tally (fun sync => !sync.wasDone)
                  (s.put source i (s.view source i).testComplete).syncs :=
                tally_pos (i := i) (by simp [put, now])
              have unchanged := s.coordinator.signalMoreWorkToDo_refused refused
              intro counts
              rw [CountsWorkers, put, coordinator] at counts
              change s.coordinator.signalMoreWorkToDo.2.count.toNat = _ at counts
              rw [unchanged, zero] at counts
              exact active.ne counts
            · have both := complete.mp wasDone
              exact absurd incomplete (not_or.mpr ⟨not_not.mpr both.1, not_not.mpr both.2⟩)
  next => cases late

end Steps

/-- The backup as seen by the coordinator's contract. -/
private def Permitted (s : BackupRun β n m) : Prop :=
  s.coordinator.cancelled = false ∧
    ∃ calls, run Clients.call (Clients.start n) calls = some s.clients

private theorem permitted_step {source : Fin n → Fin m} {s t : BackupRun β n m}
    {e : BackupEvent β n m} (permitted : s.Permitted) (quiet : e.undisturbed = true)
    (timely : s.asksTooLate e = false) (taken : s.step source e = some t) : t.Permitted := by
  obtain ⟨going, past, before⟩ := permitted
  obtain ⟨still, calls, moved⟩ := clients_step going quiet timely (step_cases taken)
  exact ⟨still, past ++ calls, run_append.mpr ⟨s.clients, before, moved⟩⟩

private theorem countsWorkers_of_permitted (fits : n < 2 ^ 31) {s : BackupRun β n m}
    (permitted : s.Permitted) : s.CountsWorkers :=
  have ⟨_, _, reached⟩ := permitted
  invariant (fun _ _ _ => Clients.counted_call fits) (Clients.counted_start fits) reached

/-- A zero counter stays zero while the contract is kept. -/
private theorem zero_of_clients (fits : n < 2 ^ 31) {s t : BackupRun β n m}
    (counts : s.CountsWorkers) (zero : s.coordinator.count = 0)
    (going : t.coordinator.cancelled = false)
    (continued : ∃ calls, run Clients.call s.clients calls = some t.clients) :
    t.coordinator.count = 0 := by
  obtain ⟨calls, reached⟩ := continued
  have isOver := invariant
    (I := fun c : Clients n => c.Counted ∧ c.coordinator.condition = true)
    (fun _ _ _ inv taken =>
      ⟨Clients.counted_call fits inv.1 taken, (Clients.over_call inv.1 inv.2 taken).1⟩)
    ⟨countsWorkers_iff.mp counts,
      (BackupCoordinator.condition_iff _).mpr (Or.inl (by simp [clients, zero]))⟩ reached
  rcases (BackupCoordinator.condition_iff _).mp isOver.2 with none | cancelled
  · exact UInt32.toNat_inj.mp none
  · exact absurd (going.symm.trans cancelled) (by simp)

end BackupRun

/-- The counter of the coordinator, for every number of synchronizers that an int can
count and every undisturbed run: it is the number of synchronizers whose `was_done` is
false in every state of the run exactly when no synchronizer that was done finds more
work after the counter has reached zero. In such a run `SignalFinished` is never called
at zero, and a counter that is zero stays zero. -/
theorem countsWorkers_iff_timely (source : Fin n → Fin m) (devices : Fin m → Device β)
    (blockSize : Fin n → BlockSize) (destination : Fin n → ℕ → β) (fits : n < 2 ^ 31)
    (events : List (BackupEvent β n m)) (quiet : ∀ e ∈ events, e.undisturbed = true)
    (completes :
      (run (BackupRun.step source) (.start devices blockSize destination) events).isSome) :
    ((∀ before after s, events = before ++ after →
      run (BackupRun.step source) (.start devices blockSize destination) before = some s →
      s.CountsWorkers) ↔
    Along (BackupRun.step source) (fun s e => s.asksTooLate e = false)
      (.start devices blockSize destination) events) ∧
    (Along (BackupRun.step source) (fun s e => s.asksTooLate e = false)
      (.start devices blockSize destination) events →
      ∀ before between after s t, events = before ++ (between ++ after) →
        run (BackupRun.step source) (.start devices blockSize destination) before = some s →
        run (BackupRun.step source) s between = some t →
        (∀ i, (s.view source i).SignalsFinished → 0 < s.coordinator.count.toNat) ∧
        (s.coordinator.count = 0 → t.coordinator.count = 0)) := by
  have start : (BackupRun.start devices blockSize destination : BackupRun β n m).Permitted :=
    ⟨rfl, [], rfl⟩
  have stable (s : BackupRun β n m) (e t) (permitted : s.Permitted) (calm : e.undisturbed = true)
      (timely : s.asksTooLate e = false) (taken : s.step source e = some t) : t.Permitted :=
    BackupRun.permitted_step permitted calm timely taken
  refine ⟨good_iff_along (fun _ => BackupRun.countsWorkers_of_permitted fits) stable
    (fun s e t _ _ late taken => BackupRun.not_countsWorkers_of_late
      (by simpa using late) (BackupRun.step_cases taken)) start quiet completes, ?_⟩
  rintro timely before between after s t rfl reached continued
  have calm : Along (BackupRun.step source)
      (fun s e => s.asksTooLate e = false ∧ e.undisturbed = true) _ _ := along_with quiet timely
  have permitted : s.Permitted := invariant_along
    (fun s e t inv cond taken => stable s e t inv cond.2 cond.1 taken) start
    (along_of_append calm) reached
  have counts := BackupRun.countsWorkers_of_permitted fits permitted
  refine ⟨fun i signals => ?_, fun zero => ?_⟩
  · rw [counts]
    exact tally_pos (i := i) (by simpa [BackupRun.view] using signals.2.2.2)
  · obtain ⟨going, continues⟩ := simulates BackupRun.clients
      (fun s e t (going : s.coordinator.cancelled = false) cond taken =>
        BackupRun.clients_step going cond.2 cond.1 (BackupRun.step_cases taken))
      permitted.1 (along_of_append (along_after calm reached)) continued
    exact BackupRun.zero_of_clients fits counts zero going continues

section Example

/-- A source without unsynced sectors. -/
def syncedDevice : Device ℕ := ⟨blankDestination, .new 10, [], false⟩

def twoWorkers : BackupRun ℕ 2 2 :=
  .start (fun _ => syncedDevice) (fun _ => twoSectors) fun _ => blankDestination

/-- The first worker is done, waits in vain for the second one, and a sector is written. -/
def newWork : List (BackupEvent ℕ 2 2) :=
  [.backupInProgress, .createSyncCountHandler, .createSyncCountHandler,
    .sync 0 (.openDevices none), .sync 1 (.openDevices none)] ++ countRound 0 1000 ++
  [.sync 0 .testComplete, .sync 0 .waitUntilFinished,
    .device 0 (.write (writeTrace 0) fun _ => 7), .device 0 (.deliver 0 1001)] ++
  countRound 0 1002

/-- The first worker finds the new work while the second one is busy. -/
theorem countsWorkers_iff_timely_newWork :
    (∀ before after s, newWork ++ [.sync 0 .testComplete] = before ++ after →
      run (BackupRun.step id) twoWorkers before = some s → s.CountsWorkers) ↔
    Along (BackupRun.step id) (fun s e => s.asksTooLate e = false) twoWorkers
      (newWork ++ [.sync 0 .testComplete]) :=
  (countsWorkers_iff_timely id (fun _ => syncedDevice) (fun _ => twoSectors)
    (fun _ => blankDestination) (by decide) (newWork ++ [.sync 0 .testComplete])
    (by decide) (by decide +kernel)).1

/-- The second worker is done before the first one asks, and the first one copies the
new work and is done once more. -/
def lateWork : List (BackupEvent ℕ 2 2) :=
  newWork ++ countRound 1 1002 ++ [.sync 1 .testComplete, .sync 0 .testComplete,
    .sync 0 (.getInterval 1020), .sync 0 .removeInterval, .sync 0 (.pread .full),
    .sync 0 (.pwrite .full), .sync 0 .updateSyncedCount] ++ countRound 0 1021 ++
  [.sync 0 .testComplete]

/-- The counter wraps: both workers are done, and it is the largest unsigned int. -/
theorem lateWork_wraps :
    (∀ e ∈ lateWork, e.undisturbed = true) ∧
    ∃ s, run (BackupRun.step id) twoWorkers lateWork = some s ∧
      s.coordinator.count.toNat = 2 ^ 32 - 1 ∧ ¬ s.CountsWorkers := by
  refine ⟨by decide, ?_⟩
  have evaluated : (run (BackupRun.step id) twoWorkers lateWork).any (fun s =>
      decide (s.coordinator.count.toNat = 2 ^ 32 - 1 ∧ ¬ s.CountsWorkers)) = true := by
    decide +kernel
  obtain ⟨s, reached, facts⟩ := (Option.any_eq_true _ _).mp evaluated
  exact ⟨s, reached, of_decide_eq_true facts⟩

end Example

end LinuxAgent.Backup
