/- module: LinuxAgent/Backup/LifeCycle
   source: backup/backup_manager.cc, backup/backup.cc,
     backup_status_tracker/backup_status_tracker.cc
   digest: The manager with its coordinators, the status tracker and the threads of the jobs. -/

import LinuxAgent.Backup.DoBackup
import LinuxAgent.Backup.Exclusivity

/-!
The manager of `Backup.Manager` with what it hands around: the coordinators, which the
call of `StartBackup`, the map and the `Backup` object share by pointer, the replies of
the status tracker, and the thread of each job. The map and the tracker have a mutex of
their own each, so their updates are steps of their own.

A job's thread runs `DoBackup` and then erases the job from the map. Between the two
the status is terminal and the job is still in the map. `DoBackup` asks the coordinator
whether it is cancelled before it calls the event handler, and a cancellation may come
between the two. After the erasure the thread, which is detached, has still to release the
mutex of the map and what it has captured.
-/

set_option autoImplicit false
set_option relaxedAutoImplicit false

namespace LinuxAgent.Backup

open LinuxAgent.Lib.Run

/-- The status of a `BackupStatusReply`, with the message of a failure. -/
inductive BackupStatus where
  | notStarted
  | inProgress
  | succeeded
  | cancelled
  | failed (failureMessage : String)
  deriving DecidableEq

def BackupStatus.isTerminal : BackupStatus → Bool
  | .notStarted | .inProgress => false
  | .succeeded | .cancelled | .failed _ => true

/-- What a call of the event handler makes of the status. -/
def HandlerCall.status : HandlerCall → BackupStatus
  | .backupInProgress => .inProgress
  | .backupFailed failureMessage => .failed failureMessage
  | .backupCancelled => .cancelled
  | .backupSucceeded => .succeeded

/-- Where the thread of a job stands: before its first step, in `DoBackup`, with the errors
collected, about to make the last call of the event handler, at the end of `DoBackup`, after
it, and with the job erased from the map. -/
inductive JobPhase where
  | created
  | inProgress
  | reporting (errorText : String)
  | decided (call : HandlerCall)
  | reported
  | returned
  | erased
  deriving DecidableEq

/-- The thread of a job, with the pointer to the coordinator of its `Backup`. -/
structure BackupThread where
  coordinator : ℕ
  phase : JobPhase
  deriving DecidableEq

/-- A call that a synchronizer of the job makes on its coordinator. -/
inductive WorkerCall where
  | signalFinished
  | signalMoreWorkToDo
  | addFatalError (backupError : BackupError)
  deriving DecidableEq

def WorkerCall.apply : WorkerCall → BackupCoordinator → BackupCoordinator
  | .signalFinished, coordinator => coordinator.signalFinished
  | .signalMoreWorkToDo, coordinator => coordinator.signalMoreWorkToDo.2
  | .addFatalError backupError, coordinator => coordinator.addFatalError backupError

/-- The manager, every coordinator that was made, the replies of the tracker, the
pointers in the call of `StartBackup` and in the map, and the threads of the jobs. -/
structure JobService where
  manager : BackupManager
  coordinators : List BackupCoordinator
  statuses : String → Option BackupStatus
  startCoordinator : ℕ
  mapCoordinator : String → Option ℕ
  threads : String → Option BackupThread

inductive ServiceEvent where
  | manager (e : ManagerEvent)
  | backupInProgress (backupUuid : String)
  | worker (backupUuid : String) (call : WorkerCall)
  | getFatalErrors (backupUuid : String)
  | isCancelled (backupUuid : String)
  | report (backupUuid : String)
  | exitThread (backupUuid : String)

namespace JobService

def new : JobService := ⟨.new, [], fun _ => none, 0, fun _ => none, fun _ => none⟩

def getReply (s : JobService) (jobUuid : String) : Option BackupStatus := s.statuses jobUuid

def setThread (s : JobService) (backupUuid : String) (thread : Option BackupThread) : JobService :=
  { s with threads := Function.update s.threads backupUuid thread }

def setStatus (s : JobService) (backupUuid : String) (status : BackupStatus) : JobService :=
  { s with statuses := Function.update s.statuses backupUuid (some status) }

def setPointer (s : JobService) (backupUuid : String) (pointer : Option ℕ) : JobService :=
  { s with mapCoordinator := Function.update s.mapCoordinator backupUuid pointer }

/-- `Cancel` on the coordinator that the map has for a job. -/
def cancelAt (s : JobService) (jobUuid : String) : JobService :=
  match s.mapCoordinator jobUuid with
  | some pointer =>
      { s with coordinators := s.coordinators.modify pointer BackupCoordinator.cancel }
  | none => s

/-- What the step of the manager does to the rest. `before` is the call under way before
the step. -/
def follow (s : JobService) (before : Option StartCall) (e : ManagerEvent) : Option JobService :=
  match e, before, s.manager.starting with
  | .lock _ _, none, some call => some
      { s.setStatus call.backupUuid .notStarted with
        coordinators := s.coordinators ++ [.new call.request.vectors.length]
        startCoordinator := s.coordinators.length }
  | .addToInProgressSet, some call, some _ =>
      some (s.setPointer call.backupUuid (some s.startCoordinator))
  | .createBackup _, some call, none =>
      some (s.setThread call.backupUuid (some ⟨s.startCoordinator, .created⟩))
  | .eraseFailed, some call, _ => some (s.setPointer call.backupUuid none)
  | .stopBackup jobUuid, _, _ | .cancel jobUuid, _, _ => some (s.cancelAt jobUuid)
  | .cancelAll, _, _ =>
      some ((s.manager.inProgressMap.entries.map Prod.fst).foldl cancelAt s)
  | .doBackupReturns backupUuid, _, _ =>
      match s.threads backupUuid with
      | some ⟨pointer, .reported⟩ => some (s.setThread backupUuid (some ⟨pointer, .returned⟩))
      | _ => none
  | .eraseFinished backupUuid, _, _ =>
      match s.threads backupUuid with
      | some ⟨pointer, .returned⟩ => some
          ((s.setPointer backupUuid none).setThread backupUuid (some ⟨pointer, .erased⟩))
      | _ => none
  | _, _, _ => some s

/-- The synchronizers of the job have all been joined. -/
def joined (s : JobService) (backupUuid : String) : Bool :=
  s.manager.jobs.any fun job => job.backupUuid == backupUuid && job.activeUuids.isEmpty

def step (s : JobService) : ServiceEvent → Option JobService
  | .manager e =>
      (s.manager.step e).bind fun manager =>
        { s with manager := manager }.follow s.manager.starting e
  | .backupInProgress backupUuid =>
      match s.threads backupUuid with
      | some ⟨pointer, .created⟩ => some
          ((s.setThread backupUuid (some ⟨pointer, .inProgress⟩)).setStatus backupUuid
            HandlerCall.backupInProgress.status)
      | _ => none
  | .worker backupUuid call =>
      match s.threads backupUuid with
      | some ⟨pointer, .inProgress⟩ => some
          { s with coordinators := s.coordinators.modify pointer call.apply }
      | _ => none
  | .getFatalErrors backupUuid =>
      match s.threads backupUuid with
      | some ⟨pointer, .inProgress⟩ =>
          if s.joined backupUuid then
            (s.coordinators[pointer]?).map fun coordinator =>
              s.setThread backupUuid
                (some ⟨pointer, .reporting (errorText coordinator.getFatalErrors)⟩)
          else none
      | _ => none
  | .isCancelled backupUuid =>
      match s.threads backupUuid with
      | some ⟨pointer, .reporting errorText⟩ =>
          (s.coordinators[pointer]?).map fun coordinator =>
            s.setThread backupUuid (some ⟨pointer, .decided (verdict errorText coordinator)⟩)
      | _ => none
  | .report backupUuid =>
      match s.threads backupUuid with
      | some ⟨pointer, .decided call⟩ => some
          ((s.setThread backupUuid (some ⟨pointer, .reported⟩)).setStatus backupUuid call.status)
      | _ => none
  | .exitThread backupUuid =>
      match s.threads backupUuid with
      | some ⟨_, .erased⟩ => some (s.setThread backupUuid none)
      | _ => none

end JobService

/-- The ways in which a status may change in one step. -/
def BackupStatus.Moves (old new : BackupStatus) : Prop :=
  new = old ∨ old = .notStarted ∧ new = .inProgress ∨ old = .inProgress ∧ new.isTerminal = true

/-- The status that a job has while its thread stands at a phase. -/
def JobPhase.Shows : JobPhase → BackupStatus → Prop
  | .created, status => status = .notStarted
  | .inProgress, status | .reporting _, status => status = .inProgress
  | .decided call, status => status = .inProgress ∧ call.status.isTerminal = true
  | .reported, status | .returned, status | .erased, status => status.isTerminal = true

/-- Everything but the manager and the values of the coordinators is as before. -/
structure JobService.Kept (s t : JobService) : Prop where
  coordinators : t.coordinators.length = s.coordinators.length
  statuses : t.statuses = s.statuses
  startCoordinator : t.startCoordinator = s.startCoordinator
  mapCoordinator : t.mapCoordinator = s.mapCoordinator
  threads : t.threads = s.threads

/-- No further UUID is returned. -/
def NoneStarted (manager after : BackupManager) : Prop :=
  ∀ uuid, .started uuid ∈ after.replies → .started uuid ∈ manager.replies

/-- What a step does to the jobs, to their statuses and to the pointers. -/
inductive ServiceStep (s t : JobService) : Prop where
  | quiet (manager : Quiet s.manager t.manager) (replies : NoneStarted s.manager t.manager)
      (kept : s.Kept t)
  | locked (call : StartCall) (fresh : call.backupUuid ∉ s.manager.replyMap)
      (pc : call.pc = .addToInProgressSet) (starting : t.manager.starting = some call)
      (replyMap : t.manager.replyMap = insert call.backupUuid s.manager.replyMap)
      (sources : t.manager.sources = s.manager.sources)
      (replies : NoneStarted s.manager t.manager)
      (same : t = { s.setStatus call.backupUuid .notStarted with
        manager := t.manager
        coordinators := s.coordinators ++ [.new call.request.vectors.length]
        startCoordinator := s.coordinators.length })
  | registered (call : StartCall) (begun : s.manager.starting = some call)
      (starting : t.manager.starting = some { call with pc := .createBackup })
      (replyMap : t.manager.replyMap = s.manager.replyMap)
      (sources : t.manager.sources = s.manager.sources)
      (replies : NoneStarted s.manager t.manager)
      (same : t = { s.setPointer call.backupUuid (some s.startCoordinator) with
        manager := t.manager })
  | built (call : StartCall) (begun : s.manager.starting = some call)
      (ready : call.pc = .createBackup) (starting : t.manager.starting = none)
      (replyMap : t.manager.replyMap = s.manager.replyMap)
      (sources : t.manager.sources =
        (call.backupUuid, call.request.blockDeviceUuids) :: s.manager.sources)
      (replies : ∀ uuid, .started uuid ∈ t.manager.replies →
        .started uuid ∈ s.manager.replies ∨ uuid = call.backupUuid)
      (same : t = { s.setThread call.backupUuid (some ⟨s.startCoordinator, .created⟩) with
        manager := t.manager })
  | erased (call : StartCall) (begun : s.manager.starting = some call)
      (starting : t.manager.starting = none)
      (replyMap : t.manager.replyMap = s.manager.replyMap)
      (sources : t.manager.sources = s.manager.sources)
      (replies : NoneStarted s.manager t.manager)
      (same : t = { s.setPointer call.backupUuid none with manager := t.manager })
  | ended (uuid : String) (thread : BackupThread) (here : s.threads uuid = some thread)
      (phase : thread.phase = .returned)
      (starting : t.manager.starting = s.manager.starting)
      (replyMap : t.manager.replyMap = s.manager.replyMap)
      (sources : t.manager.sources = s.manager.sources.filter (·.1 ≠ uuid))
      (replies : NoneStarted s.manager t.manager)
      (same : t = { (s.setPointer uuid none).setThread uuid
        (some { thread with phase := .erased }) with manager := t.manager })
  | exited (uuid : String) (thread : BackupThread) (here : s.threads uuid = some thread)
      (phase : thread.phase = .erased) (same : t = s.setThread uuid none)
  | advanced (uuid : String) (thread : BackupThread) (next : JobPhase)
      (here : s.threads uuid = some thread) (running : thread.phase ≠ .erased)
      (going : next ≠ .erased) (manager : Quiet s.manager t.manager)
      (replies : NoneStarted s.manager t.manager)
      (coordinators : t.coordinators = s.coordinators)
      (startCoordinator : t.startCoordinator = s.startCoordinator)
      (mapCoordinator : t.mapCoordinator = s.mapCoordinator)
      (threads : t.threads =
        Function.update s.threads uuid (some { thread with phase := next }))
      (others : ∀ other, other ≠ uuid → t.statuses other = s.statuses other)
      (status : ∀ old, s.statuses uuid = some old → thread.phase.Shows old →
        ∃ new, t.statuses uuid = some new ∧ next.Shows new ∧ old.Moves new)

section Steps

variable {s t : JobService} {manager after : BackupManager}

private theorem noneStarted_of_eq (replies : after.replies = manager.replies) :
    NoneStarted manager after := fun _ started => replies ▸ started

private theorem noneStarted_reply {answer : ManagerReply}
    (replies : after.replies = manager.replies ++ [answer])
    (other : ∀ uuid, answer ≠ .started uuid) : NoneStarted manager after := by
  intro uuid started
  rw [replies, List.mem_append, List.mem_singleton] at started
  exact started.resolve_right (other uuid).symm

private theorem kept_refl (s : JobService) (manager : BackupManager) :
    s.Kept { s with manager := manager } := ⟨rfl, rfl, rfl, rfl, rfl⟩

private theorem kept_cancelAt (s : JobService) (uuid : String) : s.Kept (s.cancelAt uuid) := by
  unfold JobService.cancelAt
  split
  · exact ⟨List.length_modify _ _ _, rfl, rfl, rfl, rfl⟩
  · exact kept_refl s s.manager

private theorem kept_trans {u : JobService} (first : s.Kept t) (second : t.Kept u) : s.Kept u :=
  ⟨second.coordinators.trans first.coordinators, second.statuses.trans first.statuses,
    second.startCoordinator.trans first.startCoordinator,
    second.mapCoordinator.trans first.mapCoordinator, second.threads.trans first.threads⟩

theorem manager_cancelAt (s : JobService) (uuid : String) :
    (s.cancelAt uuid).manager = s.manager := by
  unfold JobService.cancelAt
  split <;> rfl

/-- Cancelling a list of jobs changes values of coordinators only. -/
private theorem kept_cancelAll (uuids : List String) (s : JobService) :
    s.Kept (uuids.foldl JobService.cancelAt s) ∧
      (uuids.foldl JobService.cancelAt s).manager = s.manager := by
  induction uuids generalizing s with
  | nil => exact ⟨kept_refl s s.manager, rfl⟩
  | cons uuid uuids ih =>
      obtain ⟨kept, same⟩ := ih (s.cancelAt uuid)
      exact ⟨kept_trans (kept_cancelAt s uuid) kept, same.trans (manager_cancelAt s uuid)⟩

private theorem isTerminal_verdict (text : String) (coordinator : BackupCoordinator) :
    (verdict text coordinator).status.isTerminal = true := by
  unfold verdict
  split_ifs <;> rfl

/-- Only the creation of a backup returns a UUID. -/
private theorem noneStarted_step {e : ManagerEvent} (moved : manager.step e = some after)
    (other : ∀ world, e ≠ .createBackup world) : NoneStarted manager after := by
  cases e with
  | createBackup world => exact absurd rfl (other world)
  | startBackup request =>
      simp only [BackupManager.step] at moved
      split_ifs at moved <;> obtain rfl := Option.some.inj moved
      · exact noneStarted_reply rfl (by simp)
      · exact noneStarted_of_eq rfl
  | lock index uuid =>
      simp only [BackupManager.step, BackupManager.lock] at moved
      split at moved
      · split_ifs at moved <;> obtain rfl := Option.some.inj moved
        · exact noneStarted_reply rfl (by simp)
        · exact noneStarted_of_eq rfl
      · cases moved
  | addToInProgressSet =>
      simp only [BackupManager.step] at moved
      split at moved
      · obtain rfl := Option.some.inj moved
        unfold BackupManager.addToInProgressSet
        split
        · exact noneStarted_reply rfl (by simp)
        · exact noneStarted_of_eq rfl
      · cases moved
  | eraseFailed =>
      simp only [BackupManager.step] at moved
      split at moved
      · obtain rfl := Option.some.inj moved
        exact noneStarted_reply rfl (by simp)
      · cases moved
  | stopBackup jobUuid =>
      obtain rfl := Option.some.inj moved
      unfold BackupManager.stopBackup
      split_ifs
      · exact noneStarted_reply rfl (by simp)
      · exact noneStarted_reply rfl (by simp)
  | finishSynchronizer | callDestructor =>
      obtain rfl := Option.some.inj moved
      exact noneStarted_of_eq rfl
  | doBackupReturns | eraseFinished | cancel | cancelAll =>
      simp only [BackupManager.step] at moved
      split_ifs at moved
      obtain rfl := Option.some.inj moved
      exact noneStarted_of_eq rfl
  | device event =>
      simp only [BackupManager.step] at moved
      split at moved
      · cases moved
      · obtain ⟨builder, _, rfl⟩ := Option.map_eq_some_iff.mp moved
        exact noneStarted_of_eq rfl

/-- A quiet step does not begin a call. -/
private theorem starting_of_quiet (same : Quiet manager after) (idle : manager.starting = none) :
    after.starting = none := by
  by_contra begun
  obtain ⟨call, now⟩ := Option.ne_none_iff_exists'.mp begun
  obtain ⟨earlier, before, _⟩ := same.starting call now
  rw [idle] at before
  cases before

private theorem follow_lock {index : ℕ} {uuid : String}
    (moved : s.manager.step (.lock index uuid) = some manager)
    (followed : { s with manager := manager }.follow s.manager.starting (.lock index uuid) =
      some t) : ServiceStep s t := by
  have replies := noneStarted_step moved nofun
  have idle : s.manager.starting = none := by
    simp only [BackupManager.step, BackupManager.lock] at moved
    split at moved
    · assumption
    · cases moved
  cases manager_step_cases moved with
  | quiet same =>
      simp only [JobService.follow, idle, starting_of_quiet same idle] at followed
      obtain rfl := Option.some.inj followed
      exact .quiet same replies (kept_refl s manager)
  | @locked _ _ request _ fresh replyMap starting sources map builder =>
      simp only [JobService.follow, idle, starting] at followed
      obtain rfl := Option.some.inj followed
      exact .locked _ fresh rfl starting replyMap sources replies rfl

private theorem follow_addToInProgressSet
    (moved : s.manager.step .addToInProgressSet = some manager)
    (followed : { s with manager := manager }.follow s.manager.starting .addToInProgressSet =
      some t) : ServiceStep s t := by
  have replies := noneStarted_step moved nofun
  have steps := manager_step_cases moved
  simp only [BackupManager.step] at moved
  split at moved
  case h_2 => cases moved
  next request uuid begun =>
    obtain rfl := Option.some.inj moved
    unfold BackupManager.addToInProgressSet at replies steps followed
    split at replies
    next what refused =>
      rw [refused] at steps followed
      simp only [JobService.follow, begun, BackupManager.reply] at followed
      obtain rfl := Option.some.inj followed
      cases steps with
      | quiet same => exact .quiet same replies (kept_refl s _)
      | registered _ _ _ starting _ _ => cases starting
    next map added =>
      rw [added] at steps followed
      simp only [JobService.follow, begun] at followed
      obtain rfl := Option.some.inj followed
      exact .registered _ begun rfl rfl rfl replies rfl

private theorem follow_createBackup {world : ℕ → Surroundings}
    (moved : s.manager.step (.createBackup world) = some manager)
    (followed : { s with manager := manager }.follow s.manager.starting (.createBackup world) =
      some t) : ServiceStep s t := by
  have steps := manager_step_cases moved
  simp only [BackupManager.step] at moved
  split at moved
  case h_2 => cases moved
  next request uuid begun =>
    obtain rfl := Option.some.inj moved
    unfold BackupManager.createBackup at steps followed
    split at steps
    next what builder failed =>
      rw [failed] at followed
      simp only [JobService.follow, begun] at followed
      obtain rfl := Option.some.inj followed
      cases steps with
      | quiet same => exact .quiet same (noneStarted_of_eq rfl) (kept_refl s _)
      | built _ _ _ _ starting _ _ => cases starting
    next synchronizers builder made =>
      rw [made] at followed
      simp only [JobService.follow, begun, BackupManager.reply] at followed
      obtain rfl := Option.some.inj followed
      refine .built _ begun rfl rfl rfl (sources_start made rfl) (fun other started => ?_) rfl
      have more : .started other ∈ s.manager.replies ++ [.started uuid] := started
      simpa using more

private theorem follow_eraseFailed (moved : s.manager.step .eraseFailed = some manager)
    (followed : { s with manager := manager }.follow s.manager.starting .eraseFailed = some t) :
    ServiceStep s t := by
  have replies := noneStarted_step moved nofun
  simp only [BackupManager.step] at moved
  split at moved
  case h_2 => cases moved
  next request uuid what begun =>
    obtain rfl := Option.some.inj moved
    simp only [JobService.follow, begun] at followed
    obtain rfl := Option.some.inj followed
    exact .erased _ begun rfl rfl rfl replies rfl

private theorem follow_doBackupReturns {uuid : String}
    (moved : s.manager.step (.doBackupReturns uuid) = some manager)
    (followed : { s with manager := manager }.follow s.manager.starting (.doBackupReturns uuid) =
      some t) : ServiceStep s t := by
  have replies := noneStarted_step moved nofun
  simp only [JobService.follow] at followed
  split at followed
  case h_2 => cases followed
  next pointer here =>
    obtain rfl := Option.some.inj followed
    cases manager_step_cases moved with
    | quiet same =>
        exact .advanced uuid ⟨pointer, .reported⟩ .returned here (by simp) (by simp) same replies
          rfl rfl rfl rfl (fun _ _ => rfl) (fun old found shows => ⟨old, found, shows, .inl rfl⟩)

private theorem follow_eraseFinished {uuid : String}
    (moved : s.manager.step (.eraseFinished uuid) = some manager)
    (followed : { s with manager := manager }.follow s.manager.starting (.eraseFinished uuid) =
      some t) : ServiceStep s t := by
  have replies := noneStarted_step moved nofun
  simp only [JobService.follow] at followed
  split at followed
  case h_2 => cases followed
  next pointer here =>
    obtain rfl := Option.some.inj followed
    simp only [BackupManager.step] at moved
    split_ifs at moved
    obtain rfl := Option.some.inj moved
    refine .ended uuid _ here rfl rfl rfl ?_ replies rfl
    simp only [BackupManager.sources, List.filter_map]
    rfl

/-- The other events of the manager are quiet. -/
private theorem follow_quiet {e : ManagerEvent} (moved : s.manager.step e = some manager)
    (same : Quiet s.manager manager) (other : ∀ world, e ≠ .createBackup world)
    (kept : s.Kept t) (taken : t.manager = manager) : ServiceStep s t :=
  .quiet (taken ▸ same) (taken ▸ noneStarted_step moved other) kept

private theorem follow_cases {e : ManagerEvent} (moved : s.manager.step e = some manager)
    (followed : { s with manager := manager }.follow s.manager.starting e = some t) :
    ServiceStep s t := by
  cases e with
  | lock => exact follow_lock moved followed
  | addToInProgressSet => exact follow_addToInProgressSet moved followed
  | createBackup => exact follow_createBackup moved followed
  | eraseFailed => exact follow_eraseFailed moved followed
  | doBackupReturns => exact follow_doBackupReturns moved followed
  | eraseFinished => exact follow_eraseFinished moved followed
  | stopBackup jobUuid | cancel jobUuid =>
      obtain rfl := Option.some.inj followed
      cases manager_step_cases moved with
      | quiet same =>
          refine follow_quiet moved same nofun ?_ (manager_cancelAt _ jobUuid)
          exact kept_trans (kept_refl s manager) (kept_cancelAt _ jobUuid)
  | cancelAll =>
      obtain rfl := Option.some.inj followed
      cases manager_step_cases moved with
      | quiet same =>
          obtain ⟨kept, unchanged⟩ := kept_cancelAll (manager.inProgressMap.entries.map Prod.fst)
            { s with manager := manager }
          exact follow_quiet moved same nofun (kept_trans (kept_refl s manager) kept) unchanged
  | startBackup | finishSynchronizer | callDestructor | device =>
      obtain rfl := Option.some.inj followed
      cases manager_step_cases moved with
      | quiet same => exact follow_quiet moved same nofun (kept_refl s manager) rfl

/-- Every step of the service is one of those listed. -/
theorem service_step_cases {e : ServiceEvent} (taken : s.step e = some t) : ServiceStep s t := by
  cases e with
  | manager e =>
      obtain ⟨manager, moved, followed⟩ := Option.bind_eq_some_iff.mp taken
      exact follow_cases moved followed
  | backupInProgress uuid =>
      simp only [JobService.step] at taken
      split at taken
      case h_2 => cases taken
      next pointer here =>
        obtain rfl := Option.some.inj taken
        refine .advanced uuid ⟨pointer, .created⟩ .inProgress here (by simp) (by simp) (.refl _)
          (noneStarted_of_eq rfl) rfl rfl rfl rfl
          (fun other apart => Function.update_of_ne apart _ _) (fun old found shows => ?_)
        exact ⟨.inProgress, Function.update_self .., rfl, .inr (.inl ⟨shows, rfl⟩)⟩
  | worker uuid call =>
      simp only [JobService.step] at taken
      split at taken
      case h_2 => cases taken
      obtain rfl := Option.some.inj taken
      exact .quiet (.refl _) (noneStarted_of_eq rfl) ⟨List.length_modify _ _ _, rfl, rfl, rfl, rfl⟩
  | getFatalErrors uuid =>
      simp only [JobService.step] at taken
      split at taken
      case h_2 => cases taken
      next pointer here =>
        split_ifs at taken
        obtain ⟨coordinator, _, rfl⟩ := Option.map_eq_some_iff.mp taken
        exact .advanced uuid ⟨pointer, .inProgress⟩ (.reporting _) here (by simp) (by simp)
          (.refl _) (noneStarted_of_eq rfl) rfl rfl rfl rfl (fun _ _ => rfl)
          (fun old found shows => ⟨old, found, shows, .inl rfl⟩)
  | isCancelled uuid =>
      simp only [JobService.step] at taken
      split at taken
      case h_2 => cases taken
      next pointer text here =>
        obtain ⟨coordinator, _, rfl⟩ := Option.map_eq_some_iff.mp taken
        refine .advanced uuid ⟨pointer, .reporting text⟩ (.decided _) here (by simp) (by simp)
          (.refl _) (noneStarted_of_eq rfl) rfl rfl rfl rfl (fun _ _ => rfl)
          (fun old found shows => ?_)
        exact ⟨old, found, ⟨shows, isTerminal_verdict text coordinator⟩, .inl rfl⟩
  | report uuid =>
      simp only [JobService.step] at taken
      split at taken
      case h_2 => cases taken
      next pointer call here =>
        obtain rfl := Option.some.inj taken
        refine .advanced uuid ⟨pointer, .decided call⟩ .reported here (by simp) (by simp) (.refl _)
          (noneStarted_of_eq rfl) rfl rfl rfl rfl
          (fun other apart => Function.update_of_ne apart _ _) (fun old found shows => ?_)
        obtain ⟨running, terminal⟩ := shows
        exact ⟨_, Function.update_self .., terminal, .inr (.inr ⟨running, terminal⟩)⟩
  | exitThread uuid =>
      simp only [JobService.step] at taken
      split at taken
      case h_2 => cases taken
      next pointer here => exact .exited uuid _ here rfl (Option.some.inj taken).symm

private theorem manager_follow {before : Option StartCall} {e : ManagerEvent}
    (followed : s.follow before e = some t) : t.manager = s.manager := by
  unfold JobService.follow at followed
  split at followed
  case h_5 | h_6 => exact Option.some.inj followed ▸ manager_cancelAt s _
  case h_7 => exact Option.some.inj followed ▸ (kept_cancelAll _ s).2
  case h_8 | h_9 =>
    split at followed
    · exact Option.some.inj followed ▸ rfl
    · cases followed
  all_goals exact Option.some.inj followed ▸ rfl

/-- A step of the service is one of the manager, or leaves the manager alone. -/
theorem service_manager_cases {e : ServiceEvent} (taken : s.step e = some t) :
    t.manager = s.manager ∧ (∀ m, e ≠ .manager m) ∨
      ∃ m, e = .manager m ∧ s.manager.step m = some t.manager := by
  cases e with
  | manager m =>
      obtain ⟨manager, moved, followed⟩ := Option.bind_eq_some_iff.mp taken
      exact .inr ⟨m, rfl, by rw [moved, manager_follow followed]⟩
  | backupInProgress | worker | report | exitThread =>
      simp only [JobService.step] at taken
      split at taken
      · exact .inl ⟨Option.some.inj taken ▸ rfl, by simp⟩
      · cases taken
  | getFatalErrors =>
      simp only [JobService.step] at taken
      split at taken
      · split_ifs at taken
        obtain ⟨_, _, rfl⟩ := Option.map_eq_some_iff.mp taken
        exact .inl ⟨rfl, by simp⟩
      · cases taken
  | isCancelled =>
      simp only [JobService.step] at taken
      split at taken
      · obtain ⟨_, _, rfl⟩ := Option.map_eq_some_iff.mp taken
        exact .inl ⟨rfl, by simp⟩
      · cases taken

/-- Seen from the manager, a step of the service is a step of it or none. -/
theorem manager_of_step {e : ServiceEvent} (taken : s.step e = some t) :
    t.manager = s.manager ∨ ∃ m, s.manager.step m = some t.manager := by
  rcases service_manager_cases taken with ⟨same, _⟩ | ⟨m, _, moved⟩
  · exact .inl same
  · exact .inr ⟨m, moved⟩

end Steps

end LinuxAgent.Backup
