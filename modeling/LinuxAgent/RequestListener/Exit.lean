/- module: LinuxAgent/RequestListener/Exit
   source: dattod/dattod.cc, request_listener/ipc_request_listener.cc (destructor),
     backup/backup_manager.cc (destructor, CancelAll)
   digest: The end of the program: the listener is joined, the jobs are cancelled and waited for. -/

import LinuxAgent.RequestListener.Answers

/-!
The block of `main` destroys the listener first and the manager after it. The destructor of
the listener joins the thread that makes all calls, so when the destructor of the manager
sets `destructor_called_` no call is under way and none comes later. It then cancels every
job of the map and waits until the map is empty.

A job whose thread has found its coordinator not cancelled before still reports a success.
The destructor waits for the map, not for the threads: a thread that has erased its job may
still be there, with the mutex of the map in its hands, when the manager is gone.
-/

set_option autoImplicit false
set_option relaxedAutoImplicit false

namespace LinuxAgent.RequestListener

open LinuxAgent.Lib.Run LinuxAgent.Backup

/-- The coordinator behind a pointer is cancelled. -/
def CancelledAt (s : JobService) (pointer : ℕ) : Prop :=
  ∃ coordinator, s.coordinators[pointer]? = some coordinator ∧ coordinator.cancelled = true

/-- The manager is torn down: nothing starts any more, and every job that is left has been
cancelled. -/
structure TornDown (s : JobService) : Prop where
  destructorCalled : s.manager.destructorCalled = true
  waiting : s.manager.waiting = []
  starting : s.manager.starting = none
  cancelled : ∀ uuid thread, s.threads uuid = some thread → thread.phase ≠ .erased →
    CancelledAt s thread.coordinator

/-- The thread of the job is about to report a success. -/
def Succeeding (s : JobService) (uuid : String) : Prop :=
  ∃ thread, s.threads uuid = some thread ∧ thread.phase = .decided .backupSucceeded

/-- The job has succeeded, or its thread is about to report that it has. -/
def Succeeds (s : JobService) (uuid : String) : Prop :=
  s.statuses uuid = some .succeeded ∨ Succeeding s uuid

section Service

variable {s t : JobService}

private theorem cancelledAt_modify {pointer : ℕ} {change : BackupCoordinator → BackupCoordinator}
    (keeps : ∀ coordinator, coordinator.cancelled = true → (change coordinator).cancelled = true)
    (position : ℕ) (coordinators : t.coordinators = s.coordinators.modify position change)
    (before : CancelledAt s pointer) : CancelledAt t pointer := by
  obtain ⟨coordinator, found, cancelled⟩ := before
  unfold CancelledAt
  rw [coordinators, List.getElem?_modify]
  by_cases here : position = pointer
  · exact ⟨change coordinator, by simp [here, found], keeps coordinator cancelled⟩
  · exact ⟨coordinator, by simp [here, found], cancelled⟩

private theorem cancelled_apply (call : WorkerCall) (coordinator : BackupCoordinator)
    (cancelled : coordinator.cancelled = true) : (call.apply coordinator).cancelled = true := by
  cases call with
  | signalFinished => exact cancelled
  | signalMoreWorkToDo => simp [WorkerCall.apply, BackupCoordinator.signalMoreWorkToDo, cancelled]
  | addFatalError backupError => rfl

private theorem cancelledAt_cancelAt {pointer : ℕ} (uuid : String)
    (before : CancelledAt s pointer) : CancelledAt (s.cancelAt uuid) pointer := by
  unfold JobService.cancelAt
  split
  · rename_i position _
    exact cancelledAt_modify (fun _ _ => rfl) position rfl before
  · exact before

private theorem cancelledAt_cancelAll {pointer : ℕ} (uuids : List String)
    (before : CancelledAt s pointer) :
    CancelledAt (uuids.foldl JobService.cancelAt s) pointer := by
  induction uuids generalizing s with
  | nil => exact before
  | cons uuid uuids ih => exact ih (cancelledAt_cancelAt uuid before)

/-- `Cancel` reaches the coordinators of all jobs that are named. -/
private theorem cancelledAt_named {pointer : ℕ} {uuid : String} (uuids : List String)
    (member : uuid ∈ uuids) (mapped : s.mapCoordinator uuid = some pointer)
    (valid : pointer < s.coordinators.length) :
    CancelledAt (uuids.foldl JobService.cancelAt s) pointer := by
  induction uuids generalizing s with
  | nil => cases member
  | cons first uuids ih =>
      rcases List.mem_cons.mp member with rfl | later
      · refine cancelledAt_cancelAll uuids ?_
        unfold JobService.cancelAt
        rw [mapped]
        refine ⟨(s.coordinators[pointer]).cancel, ?_, rfl⟩
        simp [valid]
      · have same : (s.cancelAt first).mapCoordinator = s.mapCoordinator ∧
            (s.cancelAt first).coordinators.length = s.coordinators.length := by
          unfold JobService.cancelAt
          split
          · exact ⟨rfl, List.length_modify _ _ _⟩
          · exact ⟨rfl, rfl⟩
        exact ih later (by rw [same.1]; exact mapped) (by rw [same.2]; exact valid)

private theorem threads_cancelAll (uuids : List String) :
    (uuids.foldl JobService.cancelAt s).threads = s.threads ∧
      (uuids.foldl JobService.cancelAt s).statuses = s.statuses := by
  induction uuids generalizing s with
  | nil => exact ⟨rfl, rfl⟩
  | cons uuid uuids ih =>
      have same : (s.cancelAt uuid).threads = s.threads ∧
          (s.cancelAt uuid).statuses = s.statuses := by
        unfold JobService.cancelAt
        split <;> exact ⟨rfl, rfl⟩
      exact ⟨ih.1.trans same.1, ih.2.trans same.2⟩

/-- With nothing under way, no step of the manager starts anything. -/
private theorem idle_step {manager after : BackupManager} {m : ManagerEvent}
    (destructorCalled : manager.destructorCalled = true) (waiting : manager.waiting = [])
    (starting : manager.starting = none) (moved : manager.step m = some after) :
    after.destructorCalled = true ∧ after.waiting = [] ∧ after.starting = none ∧
      m.ofOthers = true := by
  have move := callsMove_step moved
  have called : after.destructorCalled = true := by
    by_cases here : m = .callDestructor
    · subst here
      obtain rfl := Option.some.inj moved
      rfl
    · rw [move.destructorCalled here, destructorCalled]
  by_cases starts : stepsAdded m = 0
  · have none_left : stepsLeft after + stepsTaken m = 0 := by
      have steps := move.steps
      simp only [stepsLeft, waiting, starting, startSteps, List.length_nil, starts] at steps ⊢
      omega
    refine ⟨called, ?_, ?_, ?_⟩
    · apply List.eq_nil_of_length_eq_zero
      unfold stepsLeft at none_left
      omega
    · cases begun : after.starting with
      | none => rfl
      | some call =>
          obtain ⟨request, uuid, pc⟩ := call
          cases pc <;> simp [stepsLeft, begun, startSteps] at none_left
    · by_contra own
      simp [stepsTaken, own] at none_left
  · cases m with
    | startBackup request =>
        simp only [BackupManager.step, destructorCalled, if_true] at moved
        obtain rfl := Option.some.inj moved
        exact ⟨called, waiting, starting, rfl⟩
    | _ => exact absurd rfl starts

/-- What a step does to the threads of a manager that is torn down: the threads that are
left have the coordinators they had, no coordinator is revived, and no job comes to succeed. -/
private structure Winding (s t : JobService) : Prop where
  threads : ∀ uuid thread, t.threads uuid = some thread → thread.phase ≠ .erased →
    ∃ old, s.threads uuid = some old ∧ old.phase ≠ .erased ∧
      old.coordinator = thread.coordinator
  coordinators : ∀ pointer, CancelledAt s pointer → CancelledAt t pointer
  succeeds : ∀ uuid, Succeeds t uuid → Succeeds s uuid

private theorem winding_same (threads : t.threads = s.threads)
    (coordinators : ∀ pointer, CancelledAt s pointer → CancelledAt t pointer)
    (statuses : t.statuses = s.statuses) : Winding s t := by
  refine ⟨fun uuid thread found going => ⟨thread, by rwa [← threads], going, rfl⟩, coordinators, ?_⟩
  unfold Succeeds Succeeding
  rw [statuses, threads]
  exact fun _ => id

/-- A thread goes on to its next phase, or is gone. -/
private theorem winding_thread {uuid : String} {thread : BackupThread} {next : Option BackupThread}
    (here : s.threads uuid = some thread)
    (keeps : ∀ thread', next = some thread' → thread'.phase ≠ .erased →
      thread.phase ≠ .erased ∧ thread'.coordinator = thread.coordinator)
    (threads : t.threads = Function.update s.threads uuid next)
    (coordinators : t.coordinators = s.coordinators)
    (others : ∀ other, other ≠ uuid → t.statuses other = s.statuses other)
    (mine : Succeeds t uuid → Succeeds s uuid) : Winding s t := by
  refine ⟨fun other thread' found going => ?_, fun pointer => ?_, fun other => ?_⟩
  · rw [threads] at found
    by_cases same : other = uuid
    · rw [same, Function.update_self] at found
      obtain ⟨before, kept⟩ := keeps thread' found going
      exact ⟨thread, by rw [same, here], before, kept.symm⟩
    · rw [Function.update_of_ne same] at found
      exact ⟨thread', found, going, rfl⟩
  · unfold CancelledAt
    rw [coordinators]
    exact id
  · by_cases same : other = uuid
    · rw [same]
      exact mine
    · unfold Succeeds Succeeding
      rw [threads, Function.update_of_ne same, others other same]
      exact id

/-- The thread keeps its status and does not come to a success. -/
private theorem succeeds_silent {uuid : String} {next : Option BackupThread}
    (threads : t.threads = Function.update s.threads uuid next)
    (statuses : t.statuses = s.statuses)
    (never : ∀ thread, next = some thread → thread.phase ≠ .decided .backupSucceeded) :
    Succeeds t uuid → Succeeds s uuid := by
  rintro (shown | ⟨thread, found, decided⟩)
  · rw [statuses] at shown
    exact .inl shown
  · rw [threads, Function.update_self] at found
    exact absurd decided (never thread found)

private theorem winding_follow {m : ManagerEvent} {before : Option StartCall}
    (others : m.ofOthers = true) (followed : s.follow before m = some t) : Winding s t := by
  unfold JobService.follow at followed
  split at followed
  case h_5 | h_6 =>
    obtain rfl := Option.some.inj followed
    exact winding_same (threads_cancelAll [_]).1 (fun pointer => cancelledAt_cancelAt _)
      (threads_cancelAll [_]).2
  case h_7 =>
    obtain rfl := Option.some.inj followed
    have same := threads_cancelAll (s := s) (s.manager.inProgressMap.entries.map Prod.fst)
    exact winding_same same.1 (fun pointer => cancelledAt_cancelAll _) same.2
  case h_8 | h_9 =>
    split at followed
    · rename_i pointer here
      obtain rfl := Option.some.inj followed
      exact winding_thread here (by simp) rfl rfl (fun _ _ => rfl)
        (succeeds_silent rfl rfl (by simp))
    · cases followed
  case h_10 =>
    obtain rfl := Option.some.inj followed
    exact winding_same rfl (fun _ => id) rfl
  all_goals simp [ManagerEvent.ofOthers] at others

/-- A verdict on a cancelled backup is never success. -/
private theorem verdict_of_cancelled (errorText : String) {coordinator : BackupCoordinator}
    (cancelled : coordinator.cancelled = true) :
    verdict errorText coordinator ≠ .backupSucceeded := by
  unfold verdict
  split_ifs with failed
  · simp
  · simp
  · rename_i alive
    exact absurd cancelled alive

private theorem succeeded_of_status {call : HandlerCall} (succeeded : call.status = .succeeded) :
    call = .backupSucceeded := by
  cases call <;> first | rfl | cases succeeded

private theorem winding_step {e : ServiceEvent} (inv : TornDown s) (moved : s.step e = some t) :
    Winding s t := by
  cases e with
  | manager m =>
      obtain ⟨manager, first, followed⟩ := Option.bind_eq_some_iff.mp moved
      obtain ⟨_, _, _, others⟩ :=
        idle_step inv.destructorCalled inv.waiting inv.starting first
      have winding := winding_follow others followed
      exact ⟨winding.threads, winding.coordinators, winding.succeeds⟩
  | backupInProgress uuid =>
      simp only [JobService.step] at moved
      split at moved
      · rename_i pointer here
        obtain rfl := Option.some.inj moved
        refine winding_thread here (by simp) rfl rfl
          (fun other apart => Function.update_of_ne apart _ _) ?_
        rintro (shown | ⟨thread, found, decided⟩)
        · simp [JobService.setStatus, HandlerCall.status] at shown
        · simp only [JobService.setStatus, JobService.setThread, Function.update_self,
            Option.some.injEq] at found
          simp [← found] at decided
      · cases moved
  | worker uuid call =>
      simp only [JobService.step] at moved
      split at moved
      · obtain rfl := Option.some.inj moved
        exact winding_same rfl
          (fun _ before => cancelledAt_modify (cancelled_apply call) _ rfl before) rfl
      · cases moved
  | getFatalErrors uuid =>
      simp only [JobService.step] at moved
      split at moved
      · rename_i pointer here
        split_ifs at moved
        obtain ⟨_, _, rfl⟩ := Option.map_eq_some_iff.mp moved
        exact winding_thread here (by simp) rfl rfl (fun _ _ => rfl)
          (succeeds_silent rfl rfl (by simp))
      · cases moved
  | isCancelled uuid =>
      simp only [JobService.step] at moved
      split at moved
      · rename_i pointer text here
        obtain ⟨coordinator, found, rfl⟩ := Option.map_eq_some_iff.mp moved
        obtain ⟨coordinator', found', cancelled⟩ := inv.cancelled uuid _ here (by simp)
        obtain rfl := Option.some.inj (found.symm.trans found')
        refine winding_thread here (by simp) rfl rfl (fun _ _ => rfl)
          (succeeds_silent rfl rfl ?_)
        simpa using verdict_of_cancelled text cancelled
      · cases moved
  | report uuid =>
      simp only [JobService.step] at moved
      split at moved
      · rename_i pointer call here
        obtain rfl := Option.some.inj moved
        refine winding_thread here (by simp) rfl rfl
          (fun other apart => Function.update_of_ne apart _ _) ?_
        rintro (shown | ⟨thread, found, decided⟩)
        · -- the verdict was made before
          simp only [JobService.setStatus, Function.update_self, Option.some.injEq] at shown
          exact .inr ⟨_, here, by rw [succeeded_of_status shown]⟩
        · simp only [JobService.setStatus, JobService.setThread, Function.update_self,
            Option.some.injEq] at found
          simp [← found] at decided
      · cases moved
  | exitThread uuid =>
      simp only [JobService.step] at moved
      split at moved
      · rename_i pointer here
        obtain rfl := Option.some.inj moved
        exact winding_thread here (by simp) rfl rfl (fun _ _ => rfl)
          (succeeds_silent rfl rfl (by simp))
      · cases moved

private theorem tornDown_step {e : ServiceEvent} (inv : TornDown s) (moved : s.step e = some t) :
    TornDown t := by
  have winding := winding_step inv moved
  have idle : t.manager.destructorCalled = true ∧ t.manager.waiting = [] ∧
      t.manager.starting = none := by
    rcases manager_of_step moved with same | ⟨m, first⟩
    · rw [same]
      exact ⟨inv.destructorCalled, inv.waiting, inv.starting⟩
    · obtain ⟨called, waiting, starting, _⟩ :=
        idle_step inv.destructorCalled inv.waiting inv.starting first
      exact ⟨called, waiting, starting⟩
  refine ⟨idle.1, idle.2.1, idle.2.2, fun uuid thread found going => ?_⟩
  obtain ⟨old, before, running, same⟩ := winding.threads uuid thread found going
  exact winding.coordinators _ (same ▸ inv.cancelled uuid old before running)

/-- `CancelAll` cancels the coordinator of every job that is left. -/
private theorem tornDown_cancelAll (registered : Registered s.manager) (consistent : s.Consistent)
    (waiting : s.manager.waiting = []) (starting : s.manager.starting = none)
    (moved : s.step (.manager .cancelAll) = some t) :
    TornDown t := by
  obtain ⟨manager, first, followed⟩ := Option.bind_eq_some_iff.mp moved
  simp only [BackupManager.step] at first
  split_ifs at first with called
  obtain rfl := Option.some.inj first
  obtain rfl := Option.some.inj followed
  set cancelled : JobService := { s with
    manager := { s.manager with inProgressMap := s.manager.inProgressMap.cancel fun _ => true } }
    with defined
  set uuids := cancelled.manager.inProgressMap.entries.map Prod.fst with named
  have names : uuids = s.manager.inProgressMap.entries.map Prod.fst := by
    simp [named, defined, InProgressMap.cancel]
  have manager' : (uuids.foldl JobService.cancelAt cancelled).manager = cancelled.manager := by
    generalize cancelled = start
    induction uuids generalizing start with
    | nil => rfl
    | cons uuid uuids ih => exact (ih _).trans (manager_cancelAt start uuid)
  refine ⟨?_, ?_, ?_, fun uuid thread found running => ?_⟩
  · rw [manager']
    exact called
  · rw [manager']
    exact waiting
  · rw [manager']
    exact starting
  · rw [(threads_cancelAll uuids).1] at found
    obtain ⟨job, member, rfl⟩ := consistent.alive uuid thread found running
    obtain ⟨thread', _, found', _, _, _, mapped⟩ := consistent.running job member
    obtain rfl := Option.some.inj (found.symm.trans found')
    obtain ⟨e, inside, key, _⟩ := registered.jobsReserved job member
    refine cancelledAt_named uuids ?_ mapped (consistent.valid _ _ mapped)
    rw [names, ← key]
    exact List.mem_map_of_mem inside

end Service

section Program

variable {protobuf : Protobuf} {d t : Dattod}

/-- The destructor of the manager runs only after the listener has been joined. -/
private def Joined (d : Dattod) : Prop :=
  d.service.manager.destructorCalled = true → d.pc = .stopped

private theorem not_stopped_of_turns {doStop : Bool} {pc next : LoopPc} {log : List String}
    (turns : Turns doStop pc next log) : pc ≠ .stopped := by
  cases turns <;> simp

/-- A step of the loop itself, which is not at its end, and so not one of the destructor. -/
private theorem joined_loop (inv : Joined d) (going : d.pc ≠ .stopped)
    (same : t.service.manager.destructorCalled = d.service.manager.destructorCalled) :
    Joined t := by
  intro called
  rw [same] at called
  exact absurd (inv called) going

private theorem joined_beside (inv : Joined d) (pc : t.pc = d.pc)
    (same : t.service.manager.destructorCalled = d.service.manager.destructorCalled) :
    Joined t := by
  intro called
  rw [same] at called
  exact pc.trans (inv called)

private theorem joined_step {e : DattodEvent} (inv : Joined d)
    (taken : d.step protobuf e = some t) : Joined t := by
  cases dattod_step_cases taken with
  | turned next log started turns same =>
      exact joined_loop inv (not_stopped_of_turns turns) (by rw [same])
  | accepted here same => exact joined_loop inv (by simp [here]) (by rw [same])
  | parsed request here same => exact joined_loop inv (by simp [here]) (by rw [same])
  | called request m here calls moved same =>
      refine joined_loop inv (by simp [here]) ?_
      refine (callsMove_step (manager_moved moved)).destructorCalled ?_
      cases calls <;> simp
  | answered request reply replies same =>
      refine joined_loop inv ?_ (by rw [same]; rfl)
      cases replies with
      | status jobUuid here => simp [here]
      | other here => simp [here]
      | returned request calls answer here found => simp [here]
  | finished change log killed ends same =>
      refine joined_loop inv ?_ (by rw [same]; rfl)
      rcases ends.place with here | ⟨reply, here⟩ <;> simp [here]
  | serviced e inner moved same =>
      refine joined_beside inv (by rw [same]) ?_
      rcases service_manager_cases moved with ⟨unmoved, _⟩ | ⟨m, rfl, first⟩
      · rw [unmoved]
      · refine (callsMove_step first).destructorCalled ?_
        rintro rfl
        cases inner
  | stopping ready same => exact joined_beside inv (by rw [same]) (by rw [same])
  | destroying here moved same =>
      intro _
      rw [same]
      exact here
  | cancelling moved same =>
      exact joined_beside inv (by rw [same])
        ((callsMove_step (manager_moved moved)).destructorCalled (by simp))

/-- After the end of the loop there are no answers. -/
private theorem stopped_step {e : DattodEvent} (ended : d.pc = .stopped)
    (taken : d.step protobuf e = some t) : t.pc = .stopped ∧ t.answers = d.answers := by
  cases dattod_step_cases taken with
  | turned next log started turns same => exact absurd ended (not_stopped_of_turns turns)
  | accepted here same => simp [ended] at here
  | parsed request here same => simp [ended] at here
  | called request m here calls moved same => simp [ended] at here
  | answered request reply replies same =>
      cases replies with
      | status jobUuid here => simp [ended] at here
      | other here => simp [ended] at here
      | returned request calls answer here found => simp [ended] at here
  | finished change log killed ends same =>
      rcases ends.place with here | ⟨reply, here⟩ <;> simp [ended] at here
  | serviced e inner moved same => exact ⟨by rw [same]; exact ended, by rw [same]; rfl⟩
  | stopping ready same => exact ⟨by rw [same]; exact ended, by rw [same]; rfl⟩
  | destroying here moved same => exact ⟨by rw [same]; exact ended, by rw [same]; rfl⟩
  | cancelling moved same => exact ⟨by rw [same]; exact ended, by rw [same]; rfl⟩

/-- What holds from the return of `CancelAll` to the destructor on, for the state `d` then. -/
private structure Ending (d t : Dattod) : Prop where
  ended : t.pc = .stopped
  answers : t.answers = d.answers
  tornDown : TornDown t.service
  succeeds : ∀ uuid, Succeeds t.service uuid → Succeeds d.service uuid

private theorem ending_step {u : Dattod} {e : DattodEvent} (inv : Ending d t)
    (taken : t.step protobuf e = some u) : Ending d u := by
  obtain ⟨ended, answers⟩ := stopped_step inv.ended taken
  rcases service_of_step taken with same | ⟨e', moved⟩
  · refine ⟨ended, answers.trans inv.answers, ?_, ?_⟩
    · rw [same]
      exact inv.tornDown
    · rw [same]
      exact inv.succeeds
  · refine ⟨ended, answers.trans inv.answers, tornDown_step inv.tornDown moved, ?_⟩
    exact fun uuid succeeds =>
      inv.succeeds uuid ((winding_step inv.tornDown moved).succeeds uuid succeeds)

private theorem ending_cancelAll {events : List DattodEvent}
    (reached : run (Dattod.step protobuf) .new events = some d)
    (taken : d.step protobuf .cancelAll = some t) : Ending t t := by
  have sound := soundService_run reached
  have single := singleCaller_run reached
  have joined : Joined d :=
    invariant (fun _ _ _ inv taken => joined_step inv taken) (fun called => by cases called) reached
  obtain ⟨service, moved, rfl⟩ := Option.map_eq_some_iff.mp (alive_of_step taken).2
  have called : d.service.manager.destructorCalled = true := by
    have first := manager_moved moved
    simp only [BackupManager.step] at first
    split_ifs at first with called
    exact called
  have ended := joined called
  obtain ⟨none_waits, none_starts⟩ := idle_of_outside single (by simp [ended])
  exact ⟨ended, rfl,
    tornDown_cancelAll sound.registered sound.consistent none_waits none_starts moved,
    fun _ => id⟩

end Program

/-- A job runs when the program is told to end, and `CancelAll` has come to it. -/
def endedWithJob : List DattodEvent :=
  served [1] [.service (.manager (.lock 0 "job-1")), .service (.manager .addToInProgressSet),
    .service (.manager (.createBackup twoDisks)), .returned] (.wrote 4) ++
  [.service (.backupInProgress "job-1"), .stop, .testStop, .destroyManager,
    .service (.manager (.cancel "job-1"))]

/-- The job comes to its end, and its thread has not yet. -/
def jobEnds : List DattodEvent :=
  [.service (.manager (.finishSynchronizer "job-1" 0)), .service (.getFatalErrors "job-1"),
    .service (.isCancelled "job-1"), .service (.report "job-1"),
    .service (.manager (.doBackupReturns "job-1")), .service (.manager (.eraseFinished "job-1"))]

end LinuxAgent.RequestListener
