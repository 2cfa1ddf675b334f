/- module: LinuxAgent/Backup/DoBackup
   source: backup/backup.{h,cc}, backup_status_tracker/backup_event_handler.cc
   digest: DoBackup with its sync threads as a step machine, and one synchronizer in it. -/

import LinuxAgent.Synchronizer.Freezing

/-!
A backup runs one `DoSync` per synchronizer, each in a thread of its own, beside the
thread that called `DoBackup`. Synchronizers may share a source device; what a source
device is to them is given by `source`. The steps of a synchronizer are those of
`SyncState.doSync` on its view of the whole.

A `CreateSyncCountHandler` that throws ends the process, since the exception leaves
the function of a thread: such a call has no next state.
-/

set_option autoImplicit false
set_option relaxedAutoImplicit false

namespace LinuxAgent.Backup

open LinuxAgent.Lib.Run LinuxAgent.Synchronizer

/-- The calls that `DoBackup` makes to its event handler. -/
inductive HandlerCall where
  | backupInProgress
  | backupFailed (failureMessage : String)
  | backupCancelled
  | backupSucceeded
  deriving DecidableEq

/-- Where the thread that called `DoBackup` stands. -/
inductive MainPc where
  | entry
  | starting (next : ℕ)
  | waiting
  | joining (next : ℕ)
  | collecting
  | reporting (errorText : String)
  | returned
  deriving DecidableEq

/-- One round of the loop over the fatal errors. -/
def addErrorText (errorText : String) (error : BackupError) : String :=
  let separated := if errorText = "" then errorText else errorText ++ "\n"
  let sourced := if error.errorSource = "" then separated
    else separated ++ (error.errorSource ++ " : ")
  sourced ++ error.errorText

def errorText (errors : List BackupError) : String := errors.foldl addErrorText ""

/-- The terminal call. -/
def verdict (errorText : String) (coordinator : BackupCoordinator) : HandlerCall :=
  if errorText ≠ "" then .backupFailed errorText
  else if coordinator.isCancelled then .backupCancelled
  else .backupSucceeded

/-- A backup of `n` synchronizers over `m` source devices. `exited` tells which sync
threads have ended. -/
structure BackupRun (β : Type*) (n m : ℕ) where
  coordinator : BackupCoordinator
  devices : Fin m → Device β
  syncs : Fin n → DeviceSynchronizer β
  exited : Fin n → Bool
  main : MainPc
  calls : List HandlerCall

inductive BackupEvent (β : Type*) (n m : ℕ) where
  | backupInProgress
  | createSyncCountHandler
  | waitUntilFinished
  | join
  | getFatalErrors
  | report
  | sync (i : Fin n) (e : SyncEvent)
  | unfreeze (i : Fin n) (e : UnfreezeEvent)
  /-- The sync thread handles an exception of `DoSync`; `none` when `GetUuid` throws. -/
  | catchError (i : Fin n) (sourceUuid : Option String)
  | returnFromThread (i : Fin n)
  | device (d : Fin m) (e : DeviceEvent β)
  | cancel

namespace BackupRun

variable {β : Type*} {n m : ℕ}

/-- `DoBackup` is called with a fresh coordinator. -/
def start (devices : Fin m → Device β) (blockSize : Fin n → BlockSize)
    (destination : Fin n → ℕ → β) : BackupRun β n m where
  coordinator := .new n
  devices := devices
  syncs := fun i => { DeviceSynchronizer.new (blockSize i) (destination i) with pc := .unstarted }
  exited := fun _ => false
  main := .entry
  calls := []

def startNext (n next : ℕ) : MainPc := if next < n then .starting next else .waiting

def joinNext (n next : ℕ) : MainPc := if next < n then .joining next else .collecting

/-- What synchronizer `i` sees. -/
def view (source : Fin n → Fin m) (s : BackupRun β n m) (i : Fin n) : SyncState β :=
  ⟨s.coordinator, s.devices (source i), s.syncs i⟩

/-- The whole after a step of synchronizer `i`. -/
def put (source : Fin n → Fin m) (s : BackupRun β n m) (i : Fin n) (t : SyncState β) :
    BackupRun β n m :=
  { s with
    coordinator := t.coordinator
    devices := Function.update s.devices (source i) t.device
    syncs := Function.update s.syncs i t.sync }

/-- A thread is created for the next synchronizer. -/
def createThread (s : BackupRun β n m) (next : ℕ) : Option (BackupRun β n m) :=
  if inside : next < n then
    let sync := s.syncs ⟨next, inside⟩
    some { s with
      syncs := Function.update s.syncs ⟨next, inside⟩
        { sync with status := { sync.status with bytesTransferred := 0 }, pc := .opening }
      main := startNext n (next + 1) }
  else none

def joinThread (s : BackupRun β n m) (next : ℕ) : Option (BackupRun β n m) :=
  if inside : next < n then
    if s.exited ⟨next, inside⟩ then some { s with main := joinNext n (next + 1) } else none
  else none

/-- The catch block around `DoSync`. -/
def catchError (s : BackupRun β n m) (i : Fin n) (what : String)
    (sourceUuid : Option String) : BackupRun β n m :=
  { s with
    coordinator := s.coordinator.addFatalError
      { errorText := what, errorSource := sourceUuid.getD "uuid_error" }
    exited := Function.update s.exited i true }

def step (source : Fin n → Fin m) (s : BackupRun β n m) (e : BackupEvent β n m) :
    Option (BackupRun β n m) :=
  match e, s.main with
  | .backupInProgress, .entry => some
      { s with main := startNext n 0, calls := s.calls ++ [.backupInProgress] }
  | .createSyncCountHandler, .starting next => s.createThread next
  | .waitUntilFinished, .waiting => (s.coordinator.waitUntilFinished 2000).map fun isOver =>
      { s with main := if isOver then joinNext n 0 else .waiting }
  | .join, .joining next => s.joinThread next
  | .getFatalErrors, .collecting => some
      { s with main := .reporting (errorText s.coordinator.getFatalErrors) }
  | .report, .reporting errorText => some
      { s with
        main := .returned
        calls := s.calls ++ [verdict errorText s.coordinator] }
  | .sync i e, _ => ((s.view source i).doSync e).map (s.put source i)
  | .unfreeze i e, _ => ((s.view source i).unfreeze e).map (s.put source i)
  | .catchError i sourceUuid, _ =>
      match s.exited i, (s.syncs i).pc with
      | false, .done (.threw what) => some (s.catchError i what sourceUuid)
      | _, _ => none
  | .returnFromThread i, _ =>
      match s.exited i, (s.syncs i).pc with
      | false, .done .finished => some { s with exited := Function.update s.exited i true }
      | false, .done .cancelled => some { s with exited := Function.update s.exited i true }
      | _, _ => none
  | .device d e, _ => ((s.devices d).step e).map fun device =>
      { s with devices := Function.update s.devices d device }
  | .cancel, _ => some { s with coordinator := s.coordinator.cancel }
  | _, _ => none

/-- Everything that a step of the backup can do. -/
inductive BackupStep (source : Fin n → Fin m) (s : BackupRun β n m) :
    BackupEvent β n m → BackupRun β n m → Prop where
  | entered (main : s.main = .entry) : BackupStep source s .backupInProgress
      { s with main := startNext n 0, calls := s.calls ++ [.backupInProgress] }
  | created (next : ℕ) (inside : next < n) (main : s.main = .starting next) :
      BackupStep source s .createSyncCountHandler
        { s with
          syncs := Function.update s.syncs ⟨next, inside⟩
            { s.syncs ⟨next, inside⟩ with
              status := { (s.syncs ⟨next, inside⟩).status with bytesTransferred := 0 }
              pc := .opening }
          main := startNext n (next + 1) }
  | waited (main : s.main = .waiting) : BackupStep source s .waitUntilFinished
      { s with main := if s.coordinator.condition then joinNext n 0 else .waiting }
  | joined (next : ℕ) (inside : next < n) (main : s.main = .joining next)
      (exited : s.exited ⟨next, inside⟩ = true) : BackupStep source s .join
        { s with main := joinNext n (next + 1) }
  | collected (main : s.main = .collecting) : BackupStep source s .getFatalErrors
      { s with main := .reporting (errorText s.coordinator.fatalErrors) }
  | reported (errorText : String) (main : s.main = .reporting errorText) :
      BackupStep source s .report
        { s with main := .returned, calls := s.calls ++ [verdict errorText s.coordinator] }
  | synced (i : Fin n) (e : SyncEvent) (t : SyncState β)
      (taken : (s.view source i).doSync e = some t) :
      BackupStep source s (.sync i e) (s.put source i t)
  | unfroze (i : Fin n) (e : UnfreezeEvent) (t : SyncState β)
      (taken : (s.view source i).unfreeze e = some t) :
      BackupStep source s (.unfreeze i e) (s.put source i t)
  | caught (i : Fin n) (what : String) (sourceUuid : Option String)
      (running : s.exited i = false) (pc : (s.syncs i).pc = .done (.threw what)) :
      BackupStep source s (.catchError i sourceUuid) (s.catchError i what sourceUuid)
  | left (i : Fin n) (outcome : Outcome) (running : s.exited i = false)
      (pc : (s.syncs i).pc = .done outcome) (quiet : ∀ what, outcome ≠ .threw what) :
      BackupStep source s (.returnFromThread i)
        { s with exited := Function.update s.exited i true }
  | moved (d : Fin m) (e : DeviceEvent β) (device : Device β)
      (taken : (s.devices d).step e = some device) :
      BackupStep source s (.device d e)
        { s with devices := Function.update s.devices d device }
  | cancelled : BackupStep source s .cancel { s with coordinator := s.coordinator.cancel }

theorem step_cases {source : Fin n → Fin m} {s t : BackupRun β n m} {e : BackupEvent β n m}
    (taken : s.step source e = some t) : s.BackupStep source e t := by
  unfold step at taken
  split at taken
  next main => exact Option.some.inj taken ▸ .entered main
  next next main =>
    unfold createThread at taken
    split_ifs at taken with inside
    exact Option.some.inj taken ▸ .created next inside main
  next main =>
    obtain ⟨isOver, answered, rfl⟩ := Option.map_eq_some_iff.mp taken
    obtain rfl := Option.some.inj answered
    exact .waited main
  next next main =>
    unfold joinThread at taken
    split_ifs at taken with inside exited
    exact Option.some.inj taken ▸ .joined next inside main exited
  next main => exact Option.some.inj taken ▸ .collected main
  next errorText main => exact Option.some.inj taken ▸ .reported errorText main
  next i e =>
    obtain ⟨t, moved, rfl⟩ := Option.map_eq_some_iff.mp taken
    exact .synced i e t moved
  next i e =>
    obtain ⟨t, moved, rfl⟩ := Option.map_eq_some_iff.mp taken
    exact .unfroze i e t moved
  next i sourceUuid =>
    split at taken
    next what running pc => exact Option.some.inj taken ▸ .caught i what sourceUuid running pc
    next => exact absurd taken (by simp)
  next i =>
    split at taken
    next running pc => exact Option.some.inj taken ▸ .left i .finished running pc (by simp)
    next running pc => exact Option.some.inj taken ▸ .left i .cancelled running pc (by simp)
    next => exact absurd taken (by simp)
  next d e =>
    obtain ⟨device, moved, rfl⟩ := Option.map_eq_some_iff.mp taken
    exact .moved d e device moved
  next => exact Option.some.inj taken ▸ .cancelled
  next => exact absurd taken (by simp)

section Frame

variable {source : Fin n → Fin m} {s t : BackupRun β n m} {e : BackupEvent β n m}

/-- What a step does to the control of one synchronizer: nothing, a step of its own
`DoSync`, or the start of its thread. -/
theorem pc_cases (taken : s.BackupStep source e t) (j : Fin n) :
    (t.syncs j).pc = (s.syncs j).pc ∨
    (∃ own u, e = .sync j own ∧ (s.view source j).DoSyncStep own u ∧ t = s.put source j u) ∨
    (e = .createSyncCountHandler ∧ s.main = .starting j ∧ (t.syncs j).pc = .opening) := by
  cases taken with
  | created next inside main =>
      by_cases same : j = ⟨next, inside⟩
      · subst same
        exact Or.inr (Or.inr ⟨rfl, main, by simp⟩)
      · exact Or.inl (by simp [same])
  | synced i own u taken =>
      by_cases same : j = i
      · subst same
        exact Or.inr (Or.inl ⟨own, u, rfl, SyncState.doSync_cases taken, rfl⟩)
      · exact Or.inl (by simp [put, same])
  | unfroze i own u taken =>
      obtain ⟨frozen, thread, rfl⟩ := SyncState.unfreeze_cases taken
      by_cases same : j = i
      · subst same
        exact Or.inl (by simp [put, view])
      · exact Or.inl (by simp [put, same])
  | _ => exact Or.inl rfl

@[simp] theorem view_put_self (i : Fin n) (u : SyncState β) :
    (s.put source i u).view source i = u := by
  simp [view, put]

/-- A synchronizer with a source of its own meets the others at the coordinator only. -/
theorem view_put_of_ne {i j : Fin n} (u : SyncState β) (other : i ≠ j)
    (exclusive : source i ≠ source j) :
    (s.put source j u).view source i = { s.view source i with coordinator := u.coordinator } := by
  simp [view, put, other, exclusive]

/-- The backup contains the machine of each synchronizer that does not share its
source: a step of the backup is a step of that machine or the start of its thread. -/
theorem view_cases (taken : s.BackupStep source e t) {i : Fin n}
    (exclusive : ∀ j, j ≠ i → source j ≠ source i) :
    (∃ own, (s.view source i).step own = some (t.view source i) ∧
      ∀ sync, own = .sync sync → e = .sync i sync) ∨
    (s.main = .starting i ∧ t.devices = s.devices ∧
      (t.syncs i).destination = (s.syncs i).destination ∧ (t.syncs i).pc = .opening) := by
  have others (here : t.view source i = { s.view source i with coordinator := t.coordinator }) :
      ∃ own, (s.view source i).step own = some (t.view source i) ∧
        ∀ sync, own = .sync sync → e = .sync i sync :=
    ⟨.others t.coordinator, by rw [here]; rfl, by simp⟩
  cases taken with
  | created next inside main =>
      by_cases same : i = ⟨next, inside⟩
      · subst same
        exact Or.inr ⟨main, rfl, by simp, by simp⟩
      · exact Or.inl (others (by simp [view, same]))
  | synced j own u taken =>
      by_cases same : i = j
      · subst same
        exact Or.inl ⟨.sync own, by rw [view_put_self]; exact taken, by simp⟩
      · exact Or.inl (others (view_put_of_ne u same (exclusive j (Ne.symm same)).symm))
  | unfroze j own u taken =>
      by_cases same : i = j
      · subst same
        exact Or.inl ⟨.unfreeze own, by rw [view_put_self]; exact taken, by simp⟩
      · exact Or.inl (others (view_put_of_ne u same (exclusive j (Ne.symm same)).symm))
  | moved d own device taken =>
      by_cases same : d = source i
      · subst same
        refine Or.inl ⟨.device own, ?_, by simp⟩
        simp only [SyncState.step, view, taken, Option.map_some, Function.update_self]
      · exact Or.inl (others (by simp [view, Ne.symm same]))
  | _ => exact Or.inl (others rfl)

/-- The thread of synchronizer `j` has been created. -/
def Launched (main : MainPc) (j : Fin n) : Prop :=
  match main with
  | .entry => False
  | .starting next => j.val < next
  | _ => True

/-- `DoBackup` has joined the thread of synchronizer `j`. -/
def Joined (main : MainPc) (j : Fin n) : Prop :=
  match main with
  | .joining next => j.val < next
  | .collecting | .reporting _ | .returned => True
  | _ => False

theorem launched_startNext (next : ℕ) (j : Fin n) :
    Launched (startNext n next) j ↔ j.val < next ∨ n ≤ next := by
  have bound := j.isLt
  unfold startNext
  split_ifs <;> simp only [Launched, true_iff] <;> omega

theorem joined_joinNext (next : ℕ) (j : Fin n) :
    Joined (joinNext n next) j ↔ j.val < next ∨ n ≤ next := by
  have bound := j.isLt
  unfold joinNext
  split_ifs <;> simp only [Joined, true_iff] <;> omega

/-- A synchronizer whose thread has not been created has done nothing, one whose
thread has ended has left `DoSync`, and the joined threads have ended. -/
structure Threads (s : BackupRun β n m) : Prop where
  unstarted : ∀ j, ¬ Launched s.main j → (s.syncs j).pc = .unstarted
  exits : ∀ j, s.exited j = true → ∃ outcome, (s.syncs j).pc = .done outcome
  joined : ∀ j, Joined s.main j → s.exited j = true

theorem threads_start (devices : Fin m → Device β) (blockSize : Fin n → BlockSize)
    (destination : Fin n → ℕ → β) : (start devices blockSize destination).Threads :=
  ⟨fun _ _ => rfl, fun _ exited => absurd exited Bool.false_ne_true,
    fun _ joined => absurd joined id⟩

/-- A synchronizer that has left `DoSync` stays there. -/
theorem done_step (threads : s.Threads) (taken : s.BackupStep source e t) {j : Fin n}
    {outcome : Outcome} (pc : (s.syncs j).pc = .done outcome) :
    (t.syncs j).pc = .done outcome := by
  rcases pc_cases taken j with same | ⟨own, u, _, moved, _⟩ | ⟨_, main, _⟩
  · rw [same, pc]
  · change (s.view source j).sync.pc = _ at pc
    cases moved <;> exact absurd (pc.symm.trans ‹_›) (by simp)
  · have unstarted := threads.unstarted j (by simp [main, Launched])
    exact absurd (pc.symm.trans unstarted) (by simp)

private theorem launched_joinNext (next : ℕ) (j : Fin n) : Launched (joinNext n next) j := by
  unfold joinNext
  split_ifs <;> trivial

/-- Before its thread is created, a synchronizer does nothing. -/
private theorem unstarted_step (threads : s.Threads) (taken : s.BackupStep source e t)
    (j : Fin n) (idle : ¬ Launched t.main j) : (t.syncs j).pc = .unstarted := by
  have keeps (idle : ¬ Launched s.main j) (other : e ≠ .createSyncCountHandler) :
      (t.syncs j).pc = .unstarted := by
    have before := threads.unstarted j idle
    rcases pc_cases taken j with same | ⟨own, u, _, moved, _⟩ | ⟨here, _⟩
    · rw [same, before]
    · change (s.view source j).sync.pc = _ at before
      cases moved <;> exact absurd (before.symm.trans ‹_›) (by simp)
    · exact absurd here other
  cases taken with
  | entered main => exact keeps (by simp [main, Launched]) (by simp)
  | created next inside main =>
      rw [launched_startNext] at idle
      have later : j ≠ ⟨next, inside⟩ := by
        rintro rfl
        exact idle (Or.inl (Nat.lt_succ_self next))
      have before : ¬ Launched s.main j := by
        simp only [main, Launched]
        omega
      simpa [later] using threads.unstarted j before
  | waited main =>
      refine absurd ?_ idle
      dsimp only
      split_ifs
      · exact launched_joinNext 0 j
      · trivial
  | joined next inside main exited => exact absurd (launched_joinNext (next + 1) j) idle
  | collected main => exact absurd trivial idle
  | reported errorText main => exact absurd trivial idle
  | _ => exact keeps idle (by simp)

/-- A thread that has ended has left `DoSync`. -/
private theorem exits_step (threads : s.Threads) (taken : s.BackupStep source e t)
    (j : Fin n) (exited : t.exited j = true) : ∃ outcome, (t.syncs j).pc = .done outcome := by
  have before : ∃ outcome, (s.syncs j).pc = .done outcome := by
    cases taken with
    | caught i what sourceUuid running pc =>
        by_cases same : j = i
        · exact ⟨.threw what, same ▸ pc⟩
        · exact threads.exits j (by simpa [catchError, same] using exited)
    | left i outcome running pc quiet =>
        by_cases same : j = i
        · exact ⟨outcome, same ▸ pc⟩
        · exact threads.exits j (by simpa [same] using exited)
    | _ => exact threads.exits j exited
  exact before.imp fun _ pc => done_step threads taken pc

private theorem joined_step (threads : s.Threads) (taken : s.BackupStep source e t)
    (j : Fin n) (joined : Joined t.main j) : t.exited j = true := by
  have bound := j.isLt
  cases taken with
  | entered main =>
      refine absurd joined ?_
      unfold startNext
      split_ifs <;> exact id
  | created next inside main =>
      refine absurd joined ?_
      unfold startNext
      split_ifs <;> exact id
  | waited main =>
      dsimp only at joined
      split_ifs at joined
      · rw [joined_joinNext] at joined
        omega
      · exact absurd joined id
  | joined next inside main exited =>
      rw [joined_joinNext] at joined
      by_cases same : j = ⟨next, inside⟩
      · exact same ▸ exited
      · have other : j.val ≠ next := fun equal => same (Fin.ext equal)
        refine threads.joined j ?_
        simp only [main, Joined]
        omega
  | collected main => exact threads.joined j (by simp [main, Joined])
  | reported errorText main => exact threads.joined j (by simp [main, Joined])
  | caught i what sourceUuid running pc =>
      by_cases same : j = i
      · simp [catchError, same]
      · simpa [catchError, same] using threads.joined j joined
  | left i outcome running pc quiet =>
      by_cases same : j = i
      · simp [same]
      · simpa [same] using threads.joined j joined
  | _ => exact threads.joined j joined

theorem threads_step (threads : s.Threads) (taken : s.BackupStep source e t) : t.Threads :=
  ⟨unstarted_step threads taken, exits_step threads taken, joined_step threads taken⟩

end Frame

end BackupRun

/-- A round of the loop up to the test for completion. -/
def countRound {β : Type*} {n m : ℕ} (i : Fin n) (now : ℤ) : List (BackupEvent β n m) :=
  [.sync i .isCancelled, .sync i (.unsyncedSectorCount now now),
    .sync i (.beginRequiredFreezeBlock (.froze true)), .unfreeze i .setFrozen, .sync i .recount,
    .sync i .endRequiredFreezeBlock, .unfreeze i .clearFrozen, .unfreeze i (.thaw false)]

end LinuxAgent.Backup
