/- module: LinuxAgent/Backup/Endings
   source: backup/backup.{h,cc}, backup_status_tracker/backup_event_handler.cc
   digest: When DoBackup returns without an exception, whatever its synchronizers throw. -/

import LinuxAgent.Backup.DoBackup

/-!
`GetUuid` of a source device may throw. `CreateSyncCountHandler` calls it in the loop that
creates the threads, outside of any `try`, and the catch block around `DoSync` calls it
inside of one. An exception that leaves `DoBackup` ends the process: the threads that
were created are destroyed while they run, or the function of the job's own thread throws.
-/

set_option autoImplicit false
set_option relaxedAutoImplicit false

namespace LinuxAgent.Backup

open LinuxAgent.Lib.Run LinuxAgent.Synchronizer

variable {β : Type*} {n m : ℕ}

/-- A backup, and whether an exception has left `DoBackup`. -/
structure JobRun (β : Type*) (n m : ℕ) where
  backup : BackupRun β n m
  uncaught : Bool

namespace JobRun

def start (devices : Fin m → Device β) (blockSize : Fin n → BlockSize)
    (destination : Fin n → ℕ → β) : JobRun β n m :=
  ⟨.start devices blockSize destination, false⟩

/-- `CreateSyncCountHandler` is called for a source whose `GetUuid` throws. -/
def handlerThrows (source : Fin n → Fin m) (getUuidThrows : Fin m → Bool) :
    BackupEvent β n m → MainPc → Bool
  | .createSyncCountHandler, .starting next =>
      if inside : next < n then getUuidThrows (source ⟨next, inside⟩) else false
  | _, _ => false

/-- The catch block has a UUID exactly when `GetUuid` does not throw. -/
def answered (source : Fin n → Fin m) (getUuidThrows : Fin m → Bool) :
    BackupEvent β n m → Bool
  | .catchError i sourceUuid => sourceUuid.isNone == getUuidThrows (source i)
  | _ => true

def step (source : Fin n → Fin m) (getUuidThrows : Fin m → Bool) (s : JobRun β n m)
    (e : BackupEvent β n m) : Option (JobRun β n m) :=
  if s.uncaught || !answered source getUuidThrows e then none
  else if handlerThrows source getUuidThrows e s.backup.main then some { s with uncaught := true }
  else (s.backup.step source e).map fun backup => ⟨backup, false⟩

end JobRun

namespace BackupRun

/-- The steps that the caller of `DoBackup` has before it, timeouts aside. -/
def mainStepsLeft (n : ℕ) : MainPc → ℕ
  | .entry => 2 * n + 4
  | .starting next => (n - next) + n + 3
  | .waiting => n + 3
  | .joining next => (n - next) + 2
  | .collecting => 2
  | .reporting _ => 1
  | .returned => 0

/-- The steps of `DoBackup` and of the functions of its threads that are still to come,
the calls of `DoSync` and timeouts aside. -/
def stepsLeft (s : BackupRun β n m) : ℕ := mainStepsLeft n s.main + tally (!·) s.exited

end BackupRun

/-- No exception leaves `DoBackup`; when it has returned, all threads have been joined and
one of the three terminal calls has been made. As long as it has not returned, it goes on
when the calls of `DoSync` it has started have ended, and comes closer to its end; once all
of them have ended, it returns. -/
structure EndsJob (source : Fin n → Fin m) (getUuidThrows : Fin m → Bool)
    (first : JobRun β n m) : Prop where
  noException : ∀ events s, run (JobRun.step source getUuidThrows) first events = some s →
    s.uncaught = false
  reports : ∀ events s, run (JobRun.step source getUuidThrows) first events = some s →
    s.backup.main = .returned → (∀ i, s.backup.exited i = true) ∧
      ∃ terminal, terminal ≠ .backupInProgress ∧
        s.backup.calls = [.backupInProgress, terminal]
  goesOn : ∀ events s, run (JobRun.step source getUuidThrows) first events = some s →
    s.backup.main ≠ .returned →
    (∀ i, BackupRun.Launched s.backup.main i →
      ∃ outcome, (s.backup.syncs i).pc = .done outcome) →
    ∃ e t, s.step source getUuidThrows e = some t ∧ t.backup.stepsLeft < s.backup.stepsLeft
  neverBack : ∀ events s e t, run (JobRun.step source getUuidThrows) first events = some s →
    s.step source getUuidThrows e = some t → t.backup.stepsLeft ≤ s.backup.stepsLeft
  returns : ∀ events s, run (JobRun.step source getUuidThrows) first events = some s →
    (∀ i, ∃ outcome, (s.backup.syncs i).pc = .done outcome) →
    ∃ later t, run (JobRun.step source getUuidThrows) s later = some t ∧
      t.backup.main = .returned

namespace BackupRun

/-- The synchronizer may still call the coordinator, or an exception of it is still to be
added to the fatal errors. -/
private def pending : Pc β → Bool
  | .leaving .finished | .leaving .cancelled | .done .finished | .done .cancelled => false
  | _ => true

/-- The loops over the threads are inside of their vector. -/
private def InRange (n : ℕ) : MainPc → Prop
  | .starting next => next < n
  | .joining next => next < n
  | _ => True

/-- The calls of the event handler, at each point of `DoBackup`. -/
private def Told (calls : List HandlerCall) : MainPc → Prop
  | .entry => calls = []
  | .returned => ∃ terminal, terminal ≠ .backupInProgress ∧ calls = [.backupInProgress, terminal]
  | _ => calls = [.backupInProgress]

/-- The backup is over for the coordinator, or a thread will see to it. -/
private def Watched (s : BackupRun β n m) : Prop :=
  s.coordinator.condition = true ∨
    ∃ j, s.exited j = false ∧ pending (s.syncs j).pc = true

private structure Sound (s : BackupRun β n m) : Prop where
  threads : s.Threads
  inRange : InRange n s.main
  told : Told s.calls s.main
  watched : s.Watched

variable {source : Fin n → Fin m} {s t : BackupRun β n m} {e : BackupEvent β n m}

private theorem inRange_startNext (next : ℕ) : InRange n (startNext n next) := by
  unfold startNext
  split_ifs with inside
  · exact inside
  · trivial

private theorem inRange_joinNext (next : ℕ) : InRange n (joinNext n next) := by
  unfold joinNext
  split_ifs with inside
  · exact inside
  · trivial

private theorem told_startNext {calls : List HandlerCall} (next : ℕ)
    (once : calls = [.backupInProgress]) : Told calls (startNext n next) := by
  unfold startNext
  split_ifs <;> exact once

private theorem told_joinNext {calls : List HandlerCall} (next : ℕ)
    (once : calls = [.backupInProgress]) : Told calls (joinNext n next) := by
  unfold joinNext
  split_ifs <;> exact once

private theorem verdict_ne (text : String) (coordinator : BackupCoordinator) :
    verdict text coordinator ≠ .backupInProgress := by
  unfold verdict
  split_ifs <;> simp

private theorem inRange_step (inRange : InRange n s.main) (taken : s.BackupStep source e t) :
    InRange n t.main := by
  cases taken with
  | entered main => exact inRange_startNext 0
  | created next inside main => exact inRange_startNext (next + 1)
  | waited main =>
    dsimp only
    split_ifs
    · exact inRange_joinNext 0
    · trivial
  | joined next inside main exited => exact inRange_joinNext (next + 1)
  | collected main => trivial
  | reported errorText main => trivial
  | _ => exact inRange

private theorem told_step (told : Told s.calls s.main) (taken : s.BackupStep source e t) :
    Told t.calls t.main := by
  cases taken with
  | entered main =>
    rw [main] at told
    have none_yet : s.calls = [] := told
    exact told_startNext 0 (by rw [none_yet]; rfl)
  | created next inside main =>
    rw [main] at told
    exact told_startNext (next + 1) told
  | waited main =>
    rw [main] at told
    dsimp only
    split_ifs
    · exact told_joinNext 0 told
    · exact told
  | joined next inside main exited =>
    rw [main] at told
    exact told_joinNext (next + 1) told
  | collected main =>
    rw [main] at told
    exact told
  | reported errorText main =>
    rw [main] at told
    have once : s.calls = [.backupInProgress] := told
    refine ⟨verdict errorText s.coordinator, verdict_ne errorText s.coordinator, ?_⟩
    rw [once]
    rfl
  | _ => exact told

/-- A synchronizer that takes a step of `DoSync` has a running thread. -/
private theorem running_of_doSync (threads : s.Threads) {i : Fin n} {own : SyncEvent}
    {u : SyncState β} (moved : (s.view source i).DoSyncStep own u) : s.exited i = false := by
  rw [Bool.eq_false_iff]
  intro exited
  obtain ⟨outcome, pc⟩ := threads.exits i exited
  change (s.view source i).sync.pc = _ at pc
  cases moved <;> exact absurd (pc.symm.trans ‹_›) (by simp)

/-- `DoSync` leaves through its finished branch when the coordinator has told it so. -/
private theorem condition_of_finished {v u : SyncState β} {own : SyncEvent}
    (moved : v.DoSyncStep own u) (finished : u.sync.pc = .leaving .finished) :
    v.coordinator.condition = true := by
  cases moved with
  | waited pc =>
    by_contra going
    simp [SyncState.goto, going] at finished
  | counted now flushed pc =>
    unfold SyncState.unsyncedSectorCount at finished
    dsimp only at finished
    split_ifs at finished
  | tested pc =>
    unfold SyncState.testComplete at finished
    dsimp only at finished
    split_ifs at finished
  | stillFrozen task attempts => cases task <;> cases finished
  | froze task attempts => cases task <;> cases finished
  | ended task attempts pc =>
    cases task with
    | count => cases finished
    | copy block =>
      simp only [SyncState.goto, SyncState.afterFrozen, DeviceSynchronizer.nextBlock,
        DeviceSynchronizer.blockLoop] at finished
      split_ifs at finished
  | removed interval isVolatile now pc =>
    simp only [DeviceSynchronizer.blockLoop] at finished
    split_ifs at finished
  | wrote block attempts buf pc =>
    simp only [SyncState.afterWrite, DeviceSynchronizer.nextBlock,
      DeviceSynchronizer.blockLoop] at finished
    split_ifs at finished
  | _ => cases finished

private theorem pending_of_plain {pc : Pc β} (plain : pc.plain = true) : pending pc = true := by
  cases pc <;> first | rfl | cases plain

/-- A synchronizer that is not pending after a step has not called the coordinator in it,
and was not pending before or has seen the end of the backup. -/
private theorem settled_doSync {v u : SyncState β} {own : SyncEvent}
    (moved : v.DoSyncStep own u) (settled : pending u.sync.pc = false) :
    u.coordinator = v.coordinator ∧
      (pending v.sync.pc = false ∨ v.coordinator.condition = true) := by
  have silent : u.coordinator = v.coordinator := by
    rcases SyncState.silent_doSync moved with ⟨_, _, rfl⟩ | ⟨same, _⟩
    · unfold SyncState.testComplete at settled
      dsimp only at settled
      split_ifs at settled <;> cases settled
    · exact same
  refine ⟨silent, ?_⟩
  cases SyncState.arrival moved with
  | passing plain => exact absurd (settled.symm.trans (pending_of_plain plain)) (by simp)
  | leaving outcome here flag =>
    cases outcome with
    | finished => exact .inr (condition_of_finished moved here)
    | cancelled => exact .inr (v.coordinator.condition_iff.mpr (.inr (flag rfl)))
    | threw what =>
      rw [here] at settled
      cases settled
  | done outcome pc here =>
    subst here
    rw [pc]
    cases outcome <;> exact .inl settled
  | writing block attempts here => cases here ▸ settled
  | recounted attempts pc own here => cases here ▸ settled
  | testing attempts pc here => cases here ▸ settled
  | _ =>
    rw [‹u.sync.pc = _›] at settled
    cases settled

private theorem watched_doSync (threads : s.Threads) (watched : s.Watched) {i : Fin n}
    {own : SyncEvent} {u : SyncState β} (moved : (s.view source i).DoSyncStep own u) :
    (s.put source i u).Watched := by
  have running := running_of_doSync threads moved
  cases waits : pending u.sync.pc with
  | true => exact .inr ⟨i, running, by simpa [put] using waits⟩
  | false =>
    obtain ⟨silent, seen⟩ := settled_doSync moved waits
    have same : (s.put source i u).coordinator = s.coordinator := silent
    rcases watched with finished | ⟨j, alive, waiting⟩
    · exact .inl (same ▸ finished)
    · by_cases own_thread : j = i
      · subst own_thread
        rcases seen with before | finished
        · exact absurd (waiting.symm.trans before) (by simp)
        · exact .inl (same ▸ finished)
      · exact .inr ⟨j, alive, by simpa [put, own_thread] using waiting⟩

private theorem watched_step (threads : s.Threads) (watched : s.Watched)
    (taken : s.BackupStep source e t) : t.Watched := by
  cases taken with
  | created next inside main =>
    rcases watched with finished | ⟨j, alive, waiting⟩
    · exact .inl finished
    · refine .inr ⟨j, alive, ?_⟩
      by_cases same : j = ⟨next, inside⟩
      · simp [same, pending]
      · simpa [same] using waiting
  | synced i own u taken => exact watched_doSync threads watched (SyncState.doSync_cases taken)
  | unfroze i own u taken =>
    obtain ⟨frozen, thread, rfl⟩ := SyncState.unfreeze_cases taken
    rcases watched with finished | ⟨j, alive, waiting⟩
    · exact .inl finished
    · refine .inr ⟨j, alive, ?_⟩
      by_cases same : j = i
      · subst same
        simpa [put, view] using waiting
      · simpa [put, same] using waiting
  | caught i what sourceUuid running pc =>
    exact .inl ((BackupCoordinator.condition_iff _).mpr (.inr rfl))
  | left i outcome running pc quiet =>
    rcases watched with finished | ⟨j, alive, waiting⟩
    · exact .inl finished
    · have different : j ≠ i := by
        rintro rfl
        rw [pc] at waiting
        cases outcome with
        | threw what => exact quiet what rfl
        | _ => cases waiting
      exact .inr ⟨j, by simpa [different] using alive, waiting⟩
  | cancelled => exact .inl ((BackupCoordinator.condition_iff _).mpr (.inr rfl))
  | _ => exact watched

private theorem sound_step (sound : s.Sound) (taken : s.BackupStep source e t) : t.Sound :=
  ⟨threads_step sound.threads taken, inRange_step sound.inRange taken,
    told_step sound.told taken, watched_step sound.threads sound.watched taken⟩

private theorem sound_start (devices : Fin m → Device β) (blockSize : Fin n → BlockSize)
    (destination : Fin n → ℕ → β) : (start devices blockSize destination).Sound := by
  refine ⟨threads_start devices blockSize destination, trivial, rfl, ?_⟩
  rcases Nat.eq_zero_or_pos n with rfl | positive
  · exact .inl rfl
  · exact .inr ⟨⟨0, positive⟩, rfl, rfl⟩

/-! ### Steps to come -/

private theorem mainStepsLeft_startNext (next : ℕ) :
    mainStepsLeft n (startNext n next) = (n - next) + n + 3 := by
  unfold startNext
  split_ifs with inside
  · rfl
  · simp only [mainStepsLeft]
    omega

private theorem mainStepsLeft_joinNext (next : ℕ) :
    mainStepsLeft n (joinNext n next) = (n - next) + 2 := by
  unfold joinNext
  split_ifs with inside
  · rfl
  · simp only [mainStepsLeft]
    omega

/-- The end of a thread is one step less. -/
private theorem tally_exit {exited : Fin n → Bool} {i : Fin n} (running : exited i = false) :
    tally (!·) (Function.update exited i true) + 1 = tally (!·) exited := by
  have counted := tally_update (!·) exited i true
  simpa [running] using counted

private theorem stepsLeft_le (taken : s.BackupStep source e t) : t.stepsLeft ≤ s.stepsLeft := by
  unfold stepsLeft
  cases taken with
  | entered main =>
    rw [main, mainStepsLeft_startNext]
    simp only [mainStepsLeft]
    omega
  | created next inside main =>
    rw [main, mainStepsLeft_startNext]
    simp only [mainStepsLeft]
    omega
  | waited main =>
    rw [main]
    dsimp only
    split_ifs
    · rw [mainStepsLeft_joinNext]
      simp only [mainStepsLeft]
      omega
    · exact le_rfl
  | joined next inside main exited =>
    rw [main, mainStepsLeft_joinNext]
    simp only [mainStepsLeft]
    omega
  | collected main =>
    rw [main]
    simp only [mainStepsLeft]
    omega
  | reported errorText main =>
    rw [main]
    simp only [mainStepsLeft]
    omega
  | caught i what sourceUuid running pc =>
    have fewer := tally_exit running
    simp only [catchError]
    omega
  | left i outcome running pc quiet =>
    have fewer := tally_exit running
    dsimp only
    omega
  | _ => exact le_rfl

/-- A step of the backup that brings it closer to its end, when `GetUuid` behaves so. -/
private def Advances (source : Fin n → Fin m) (getUuidThrows : Fin m → Bool)
    (s : BackupRun β n m) : Prop :=
  ∃ e t, JobRun.answered source getUuidThrows e = true ∧ s.step source e = some t ∧
    t.stepsLeft < s.stepsLeft

variable {getUuidThrows : Fin m → Bool}

/-- A step of the caller of `DoBackup`. -/
private theorem advances_main (answered : JobRun.answered source getUuidThrows e = true)
    (taken : s.step source e = some t) (exited : t.exited = s.exited)
    (fewer : mainStepsLeft n t.main < mainStepsLeft n s.main) :
    s.Advances source getUuidThrows := by
  refine ⟨e, t, answered, taken, ?_⟩
  simp only [stepsLeft, exited]
  omega

/-- A thread whose `DoSync` has ended can end. -/
private theorem advances_exit {i : Fin n} {outcome : Outcome} (running : s.exited i = false)
    (pc : (s.syncs i).pc = .done outcome) : s.Advances source getUuidThrows := by
  have fewer := tally_exit running
  have returning (taken : s.step source (.returnFromThread i) =
      some { s with exited := Function.update s.exited i true }) :
      s.Advances source getUuidThrows := by
    refine ⟨.returnFromThread i, _, rfl, taken, ?_⟩
    simp only [stepsLeft]
    omega
  cases outcome with
  | threw what =>
    refine ⟨.catchError i (if getUuidThrows (source i) then none else some "source"),
      s.catchError i what (if getUuidThrows (source i) then none else some "source"), ?_,
      by simp only [step, running, pc], ?_⟩
    · cases throws : getUuidThrows (source i) <;> simp [JobRun.answered, throws]
    · simp only [stepsLeft, catchError]
      omega
  | finished => exact returning (by simp only [step, running, pc])
  | cancelled => exact returning (by simp only [step, running, pc])

/-- `DoBackup` waits for nothing but the calls of `DoSync`. -/
private theorem advances (sound : s.Sound) (unreturned : s.main ≠ .returned)
    (ended : ∀ i, Launched s.main i → ∃ outcome, (s.syncs i).pc = .done outcome) :
    s.Advances source getUuidThrows := by
  have inRange := sound.inRange
  have exits (launched : ∀ i : Fin n, Launched s.main i) {i : Fin n}
      (running : s.exited i = false) : s.Advances source getUuidThrows := by
    obtain ⟨outcome, pc⟩ := ended i (launched i)
    exact advances_exit running pc
  cases main : s.main with
  | entry =>
    have taken : s.step source .backupInProgress = some
        { s with main := startNext n 0, calls := s.calls ++ [.backupInProgress] } := by
      simp only [step, main]
    refine advances_main rfl taken rfl ?_
    rw [main, mainStepsLeft_startNext]
    simp only [mainStepsLeft]
    omega
  | starting next =>
    rw [main] at inRange
    have inside : next < n := inRange
    have created : s.step source .createSyncCountHandler = s.createThread next := by
      simp only [step, main]
    unfold createThread at created
    rw [dif_pos inside] at created
    refine advances_main rfl created rfl ?_
    rw [main, mainStepsLeft_startNext]
    simp only [mainStepsLeft]
    omega
  | waiting =>
    by_cases all : ∀ i, s.exited i = true
    · have finished : s.coordinator.condition = true := by
        rcases sound.watched with finished | ⟨j, alive, -⟩
        · exact finished
        · exact absurd ((all j).symm.trans alive) (by simp)
      have taken : s.step source .waitUntilFinished = some { s with main := joinNext n 0 } := by
        simp [step, main, BackupCoordinator.waitUntilFinished, finished]
      refine advances_main rfl taken rfl ?_
      rw [main, mainStepsLeft_joinNext]
      simp only [mainStepsLeft]
      omega
    · push Not at all
      obtain ⟨i, running⟩ := all
      exact exits (fun i => by simp [main, Launched]) (Bool.eq_false_iff.mpr running)
  | joining next =>
    rw [main] at inRange
    have inside : next < n := inRange
    cases exited : s.exited ⟨next, inside⟩ with
    | false => exact exits (fun i => by simp [main, Launched]) exited
    | true =>
      have taken : s.step source .join = some { s with main := joinNext n (next + 1) } := by
        simp [step, main, joinThread, inside, exited]
      refine advances_main rfl taken rfl ?_
      rw [main, mainStepsLeft_joinNext]
      simp only [mainStepsLeft]
      omega
  | collecting =>
    have taken : s.step source .getFatalErrors = some
        { s with main := .reporting (errorText s.coordinator.getFatalErrors) } := by
      simp only [step, main]
    exact advances_main rfl taken rfl (by simp [main, mainStepsLeft])
  | reporting text =>
    have taken : s.step source .report = some
        { s with main := .returned, calls := s.calls ++ [verdict text s.coordinator] } := by
      simp only [step, main]
    exact advances_main rfl taken rfl (by simp [main, mainStepsLeft])
  | returned => exact absurd main unreturned

end BackupRun

namespace JobRun

variable {source : Fin n → Fin m} {getUuidThrows : Fin m → Bool} {s t : JobRun β n m}
  {e : BackupEvent β n m}

/-- A step is a step of the backup, or the exception that leaves `DoBackup`. -/
private theorem step_inv (taken : s.step source getUuidThrows e = some t) :
    s.uncaught = false ∧ (t.uncaught = true ∧ t.backup = s.backup ∧
        (∃ i, getUuidThrows (source i) = true) ∨
      t.uncaught = false ∧ s.backup.BackupStep source e t.backup) := by
  unfold step at taken
  split_ifs at taken with refused throws
  · obtain rfl := Option.some.inj taken
    have alive : s.uncaught = false := by simp_all
    refine ⟨alive, .inl ⟨rfl, rfl, ?_⟩⟩
    unfold handlerThrows at throws
    split at throws
    · split_ifs at throws with inside
      exact ⟨_, throws⟩
    · cases throws
  · obtain ⟨backup, moved, rfl⟩ := Option.map_eq_some_iff.mp taken
    have alive : s.uncaught = false := by simp_all
    exact ⟨alive, .inr ⟨rfl, BackupRun.step_cases moved⟩⟩

private theorem stepsLeft_job (taken : s.step source getUuidThrows e = some t) :
    t.backup.stepsLeft ≤ s.backup.stepsLeft := by
  obtain ⟨-, ⟨-, same, -⟩ | ⟨-, moved⟩⟩ := step_inv taken
  · rw [same]
  · exact BackupRun.stepsLeft_le moved

private theorem sound_of_reached {devices : Fin m → Device β} {blockSize : Fin n → BlockSize}
    {destination : Fin n → ℕ → β} {events : List (BackupEvent β n m)}
    (reached : run (step source getUuidThrows) (start devices blockSize destination) events =
      some s) : s.backup.Sound := by
  refine invariant (I := fun s : JobRun β n m => s.backup.Sound) ?_
    (BackupRun.sound_start devices blockSize destination) reached
  intro before e after sound taken
  obtain ⟨-, ⟨-, same, -⟩ | ⟨-, moved⟩⟩ := step_inv taken
  · rw [same]
    exact sound
  · exact BackupRun.sound_step sound moved

/-- The loop over the synchronizers gets past the first ones, or an exception has left it. -/
private theorem reaches_starting (source : Fin n → Fin m) (getUuidThrows : Fin m → Bool)
    (devices : Fin m → Device β) (blockSize : Fin n → BlockSize) (destination : Fin n → ℕ → β)
    (next : ℕ) (inside : next ≤ n) :
    ∃ events s, run (step source getUuidThrows) (start devices blockSize destination) events =
      some s ∧ (s.uncaught = true ∨ s.uncaught = false ∧
        s.backup.main = BackupRun.startNext n next ∧
        ∀ i : Fin n, i.val < next → getUuidThrows (source i) = false) := by
  induction next with
  | zero =>
    exact ⟨[.backupInProgress], _, rfl, .inr ⟨rfl, rfl, fun i earlier => absurd earlier (by simp)⟩⟩
  | succ next ih =>
    obtain ⟨events, s, reached, thrown | ⟨alive, main, quiet⟩⟩ := ih (by omega)
    · exact ⟨events, s, reached, .inl thrown⟩
    · have here : s.backup.main = .starting next := by
        rw [main, BackupRun.startNext, if_pos (by omega)]
      have first : next < n := by omega
      cases throws : getUuidThrows (source ⟨next, first⟩) with
      | true =>
        refine ⟨events ++ [.createSyncCountHandler], { s with uncaught := true },
          run_append.mpr ⟨s, reached, run_cons.mpr ⟨_, ?_, rfl⟩⟩, .inl rfl⟩
        simp [step, alive, answered, handlerThrows, here, first, throws]
      | false =>
        obtain ⟨backup, created, later⟩ : ∃ backup, s.backup.step source .createSyncCountHandler =
            some backup ∧ backup.main = BackupRun.startNext n (next + 1) := by
          simp [BackupRun.step, here, BackupRun.createThread, first]
        refine ⟨events ++ [.createSyncCountHandler], ⟨backup, false⟩,
          run_append.mpr ⟨s, reached, run_cons.mpr ⟨_, ?_, rfl⟩⟩, .inr ⟨rfl, later, ?_⟩⟩
        · simp [step, alive, answered, handlerThrows, here, first, throws, created]
        · intro i earlier
          by_cases same : i.val = next
          · rw [show i = ⟨next, first⟩ from Fin.ext same, throws]
          · exact quiet i (by omega)

/-- Without a source whose `GetUuid` throws, the job goes on like its backup. -/
private theorem goes_on (quiet : ∀ i, getUuidThrows (source i) = false)
    (alive : s.uncaught = false) (sound : s.backup.Sound) (unreturned : s.backup.main ≠ .returned)
    (ended : ∀ i, BackupRun.Launched s.backup.main i →
      ∃ outcome, (s.backup.syncs i).pc = .done outcome) :
    ∃ e t, s.step source getUuidThrows e = some t ∧
      t.backup.stepsLeft < s.backup.stepsLeft := by
  have advance : s.backup.Advances source getUuidThrows :=
    BackupRun.advances sound unreturned ended
  obtain ⟨e, t, answered, taken, fewer⟩ := advance
  refine ⟨e, ⟨t, false⟩, ?_, fewer⟩
  have returns : handlerThrows source getUuidThrows e s.backup.main = false := by
    unfold handlerThrows
    split
    · split_ifs
      · exact quiet _
      · rfl
    · rfl
  simp [step, alive, answered, returns, taken]

private theorem returns_of_ended (quiet : ∀ i, getUuidThrows (source i) = false)
    (alive : s.uncaught = false) (sound : s.backup.Sound)
    (ended : ∀ i, ∃ outcome, (s.backup.syncs i).pc = .done outcome) :
    ∃ later t, run (step source getUuidThrows) s later = some t ∧ t.backup.main = .returned := by
  induction left : s.backup.stepsLeft using Nat.strong_induction_on generalizing s with
  | _ left ih =>
    by_cases returned : s.backup.main = .returned
    · exact ⟨[], s, rfl, returned⟩
    · obtain ⟨e, t, taken, fewer⟩ := goes_on quiet alive sound returned fun i _ => ended i
      obtain ⟨-, ⟨-, -, i, throws⟩ | ⟨going, moved⟩⟩ := step_inv taken
      · exact absurd ((quiet i).symm.trans throws) (by simp)
      · obtain ⟨later, final, rest, returns⟩ := ih t.backup.stepsLeft (left ▸ fewer) going
          (BackupRun.sound_step sound moved)
          (fun i => (ended i).imp fun _ pc => BackupRun.done_step sound.threads moved pc) rfl
        exact ⟨e :: later, final, run_cons.mpr ⟨t, taken, rest⟩, returns⟩

end JobRun

/-- `DoBackup` never throws and always ends its job exactly when no synchronizer has a
source device whose `GetUuid` throws. What the calls of `DoSync` throw does not matter,
nor what `GetUuid` does in the catch block. -/
theorem doBackup_ends_iff (source : Fin n → Fin m) (getUuidThrows : Fin m → Bool)
    (devices : Fin m → Device β) (blockSize : Fin n → BlockSize) (destination : Fin n → ℕ → β) :
    EndsJob source getUuidThrows (.start devices blockSize destination) ↔
      ∀ i, getUuidThrows (source i) = false := by
  constructor
  · intro ends i
    obtain ⟨events, s, reached, thrown | ⟨-, -, quiet⟩⟩ :=
      JobRun.reaches_starting source getUuidThrows devices blockSize destination n le_rfl
    · exact absurd (thrown.symm.trans (ends.noException events s reached)) (by simp)
    · exact quiet i i.isLt
  · intro quiet
    have alive : ∀ events s, run (JobRun.step source getUuidThrows)
        (.start devices blockSize destination) events = some s → s.uncaught = false := by
      intro events s reached
      refine invariant (I := fun s : JobRun β n m => s.uncaught = false) ?_ rfl reached
      intro before e after _ taken
      obtain ⟨-, ⟨-, -, i, throws⟩ | ⟨going, -⟩⟩ := JobRun.step_inv taken
      · exact absurd ((quiet i).symm.trans throws) (by simp)
      · exact going
    refine ⟨alive, ?_, ?_, fun events s e t _ taken => JobRun.stepsLeft_job taken, ?_⟩
    · intro events s reached returned
      have sound := JobRun.sound_of_reached reached
      refine ⟨fun i => sound.threads.joined i (by simp [returned, BackupRun.Joined]), ?_⟩
      have told := sound.told
      rw [returned] at told
      exact told
    · intro events s reached unreturned ended
      exact JobRun.goes_on quiet (alive events s reached) (JobRun.sound_of_reached reached)
        unreturned ended
    · intro events s reached ended
      exact JobRun.returns_of_ended quiet (alive events s reached)
        (JobRun.sound_of_reached reached) ended

/-- A backup of one device that has nothing to synchronize. -/
def oneJob : JobRun ℕ 1 1 :=
  .start (fun _ => ⟨fun _ => 0, .new 10, [], false⟩) (fun _ => twoSectors) fun _ _ => 0

/-- The UUID of the only source cannot be read: the exception leaves `DoBackup`, and the
status of the job stays that of a backup in progress. -/
theorem unreadableUuid_throws :
    (∃ s, run (JobRun.step id fun _ => true) oneJob
        [.backupInProgress, .createSyncCountHandler] = some s ∧ s.uncaught = true ∧
      s.backup.calls = [.backupInProgress]) ∧
    ¬ EndsJob id (fun _ => true) oneJob := by
  have reached : run (JobRun.step id fun _ => true) oneJob
      [.backupInProgress, .createSyncCountHandler] =
        some ⟨{ oneJob.backup with main := .starting 0, calls := [.backupInProgress] }, true⟩ := rfl
  refine ⟨⟨_, reached, rfl, rfl⟩, ?_⟩
  intro ends
  exact Bool.noConfusion (ends.noException _ _ reached)

end LinuxAgent.Backup
