/- module: LinuxAgent/RequestListener/Calls
   source: request_listener/ipc_request_listener.cc, backup/backup_manager.cc
   digest: The calls that the listening thread makes of the manager, and its end after Stop. -/

import LinuxAgent.RequestListener.Listener

/-!
A call of the manager waits for the mutex, is under way, or has been answered. Their
number changes only when a call is made, so a thread that makes one call at a time finds
the answer to it behind the answers to its earlier ones.
-/

set_option autoImplicit false
set_option relaxedAutoImplicit false

namespace LinuxAgent.RequestListener

open LinuxAgent.Lib.Run LinuxAgent.Backup

/-- The calls that were made: those that wait, the one under way, and those answered. -/
def callsMade (manager : BackupManager) : ℕ :=
  manager.waiting.length + manager.starting.isSome.toNat + manager.replies.length

/-- How many calls an event makes. -/
def callsOf : ManagerEvent → ℕ
  | .startBackup _ | .stopBackup _ => 1
  | _ => 0

/-- The steps that a call of `StartBackup` has before it at most. -/
def startSteps : Option StartCall → ℕ
  | some ⟨_, _, .addToInProgressSet⟩ => 3
  | some ⟨_, _, .createBackup⟩ => 2
  | some ⟨_, _, .catchBlock _⟩ => 1
  | none => 0

def stepsLeft (manager : BackupManager) : ℕ :=
  4 * manager.waiting.length + startSteps manager.starting

/-- What an event adds to the steps before the calls, and what it takes. -/
def stepsAdded : ManagerEvent → ℕ
  | .startBackup _ => 4
  | _ => 0

def stepsTaken (e : ManagerEvent) : ℕ := if e.ofOthers then 0 else 1

/-- What a step of the manager does to the calls and to `destructor_called_`. -/
structure CallsMove (manager after : BackupManager) (e : ManagerEvent) : Prop where
  destructorCalled : e ≠ .callDestructor → after.destructorCalled = manager.destructorCalled
  made : callsMade after = callsMade manager + callsOf e
  replies : manager.replies <+: after.replies
  steps : stepsLeft after + stepsTaken e ≤ stepsLeft manager + stepsAdded e

section Manager

variable {manager after : BackupManager}

/-- Nothing happens to the calls. -/
private theorem callsMove_same {e : ManagerEvent} (waiting : after.waiting = manager.waiting)
    (starting : after.starting = manager.starting) (replies : after.replies = manager.replies)
    (none_made : callsOf e = 0) (none_added : stepsAdded e = 0) (others : e.ofOthers = true)
    (destructorCalled : e ≠ .callDestructor → after.destructorCalled = manager.destructorCalled) :
    CallsMove manager after e := by
  refine ⟨destructorCalled, ?_, by rw [replies], ?_⟩
  · simp only [callsMade, waiting, starting, replies, none_made, Nat.add_zero]
  · simp only [stepsLeft, waiting, starting, stepsTaken, others, if_true, none_added, le_refl]

/-- The call under way is answered. -/
private theorem callsMove_answered {e : ManagerEvent} {call : StartCall} {answer : ManagerReply}
    (begun : manager.starting = some call) (waiting : after.waiting = manager.waiting)
    (starting : after.starting = none) (replies : after.replies = manager.replies ++ [answer])
    (none_made : callsOf e = 0) (none_added : stepsAdded e = 0)
    (destructorCalled : after.destructorCalled = manager.destructorCalled) :
    CallsMove manager after e := by
  refine ⟨fun _ => destructorCalled, ?_, replies ▸ List.prefix_append _ _, ?_⟩
  · simp only [callsMade, waiting, starting, replies, begun, none_made, List.length_append,
      List.length_singleton, Option.isSome_none, Option.isSome_some, Bool.toNat_false,
      Bool.toNat_true]
    omega
  · have positive : 1 ≤ startSteps (some call) := by
      obtain ⟨request, uuid, pc⟩ := call
      cases pc <;> simp [startSteps]
    have taken : stepsTaken e ≤ 1 := by
      unfold stepsTaken
      split_ifs <;> simp
    simp only [stepsLeft, waiting, starting, begun, none_added, startSteps] at positive ⊢
    omega

/-- The call under way goes on. -/
private theorem callsMove_advanced {e : ManagerEvent} {call next : StartCall}
    (begun : manager.starting = some call) (waiting : after.waiting = manager.waiting)
    (starting : after.starting = some next) (replies : after.replies = manager.replies)
    (fewer : startSteps (some next) < startSteps (some call))
    (none_made : callsOf e = 0) (none_added : stepsAdded e = 0)
    (destructorCalled : after.destructorCalled = manager.destructorCalled) :
    CallsMove manager after e := by
  refine ⟨fun _ => destructorCalled, ?_, by rw [replies], ?_⟩
  · simp only [callsMade, waiting, starting, replies, begun, none_made, Option.isSome_some,
      Nat.add_zero]
  · have taken : stepsTaken e ≤ 1 := by
      unfold stepsTaken
      split_ifs <;> simp
    simp only [stepsLeft, waiting, starting, begun, none_added]
    omega

private theorem callsMove_lock {index : ℕ} {uuid : String}
    (moved : manager.step (.lock index uuid) = some after) :
    CallsMove manager after (.lock index uuid) := by
  simp only [BackupManager.step, BackupManager.lock] at moved
  split at moved
  · rename_i request idle found
    have inside : index < manager.waiting.length := (List.getElem?_eq_some_iff.mp found).1
    have length := List.length_eraseIdx_of_lt inside
    split_ifs at moved <;> obtain rfl := Option.some.inj moved
    · refine ⟨fun _ => rfl, ?_, List.prefix_append _ _, ?_⟩
      · simp only [callsMade, callsOf, BackupManager.reply, idle, length, List.length_append,
          List.length_singleton]
        omega
      · simp only [stepsLeft, stepsTaken, stepsAdded, ManagerEvent.ofOthers, BackupManager.reply,
          idle, length, startSteps]
        simp only [Bool.false_eq_true, if_false]
        omega
    · refine ⟨fun _ => rfl, ?_, List.prefix_refl _, ?_⟩
      · simp only [callsMade, callsOf, idle, length, Option.isSome_some, Option.isSome_none,
          Bool.toNat_true, Bool.toNat_false]
        omega
      · simp only [stepsLeft, stepsTaken, stepsAdded, ManagerEvent.ofOthers, idle, length,
          startSteps]
        simp only [Bool.false_eq_true, if_false]
        omega
  · cases moved

theorem callsMove_step {e : ManagerEvent} (moved : manager.step e = some after) :
    CallsMove manager after e := by
  cases e with
  | startBackup request =>
      simp only [BackupManager.step] at moved
      split_ifs at moved <;> obtain rfl := Option.some.inj moved
      · refine ⟨fun _ => rfl, ?_, List.prefix_append _ _, ?_⟩
        · simp [callsMade, callsOf, BackupManager.reply]
          omega
        · simp [stepsLeft, stepsTaken, stepsAdded, ManagerEvent.ofOthers, BackupManager.reply]
      · refine ⟨fun _ => rfl, ?_, List.prefix_refl _, ?_⟩
        · simp [callsMade, callsOf]
          omega
        · simp [stepsLeft, stepsTaken, stepsAdded, ManagerEvent.ofOthers]
          omega
  | lock index uuid => exact callsMove_lock moved
  | addToInProgressSet =>
      simp only [BackupManager.step] at moved
      split at moved
      · rename_i request uuid begun
        obtain rfl := Option.some.inj moved
        unfold BackupManager.addToInProgressSet
        split
        · exact callsMove_answered begun rfl rfl rfl rfl rfl rfl
        · exact callsMove_advanced begun rfl rfl rfl (by simp [startSteps]) rfl rfl rfl
      · cases moved
  | createBackup world =>
      simp only [BackupManager.step] at moved
      split at moved
      · rename_i request uuid begun
        obtain rfl := Option.some.inj moved
        unfold BackupManager.createBackup
        split
        · exact callsMove_advanced begun rfl rfl rfl (by simp [startSteps]) rfl rfl rfl
        · exact callsMove_answered begun rfl rfl rfl rfl rfl rfl
      · cases moved
  | eraseFailed =>
      simp only [BackupManager.step] at moved
      split at moved
      · rename_i begun
        obtain rfl := Option.some.inj moved
        exact callsMove_answered begun rfl rfl rfl rfl rfl rfl
      · cases moved
  | stopBackup jobUuid =>
      obtain rfl := Option.some.inj moved
      have replied : ∃ answer,
          (manager.stopBackup jobUuid).replies = manager.replies ++ [answer] ∧
          (manager.stopBackup jobUuid).waiting = manager.waiting ∧
          (manager.stopBackup jobUuid).starting = manager.starting ∧
          (manager.stopBackup jobUuid).destructorCalled = manager.destructorCalled := by
        unfold BackupManager.stopBackup
        split_ifs <;> exact ⟨_, rfl, rfl, rfl, rfl⟩
      obtain ⟨answer, replies, waiting, starting, destructorCalled⟩ := replied
      refine ⟨fun _ => destructorCalled, ?_, replies ▸ List.prefix_append _ _, ?_⟩
      · simp only [callsMade, callsOf, replies, waiting, starting, List.length_append,
          List.length_singleton]
        omega
      · simp only [stepsLeft, stepsTaken, stepsAdded, ManagerEvent.ofOthers, waiting, starting,
          if_true, le_refl]
  | finishSynchronizer backupUuid index =>
      obtain rfl := Option.some.inj moved
      exact callsMove_same rfl rfl rfl rfl rfl rfl fun _ => rfl
  | doBackupReturns backupUuid =>
      simp only [BackupManager.step] at moved
      split_ifs at moved
      obtain rfl := Option.some.inj moved
      exact callsMove_same rfl rfl rfl rfl rfl rfl fun _ => rfl
  | eraseFinished backupUuid =>
      simp only [BackupManager.step] at moved
      split_ifs at moved
      obtain rfl := Option.some.inj moved
      exact callsMove_same rfl rfl rfl rfl rfl rfl fun _ => rfl
  | callDestructor =>
      obtain rfl := Option.some.inj moved
      exact callsMove_same rfl rfl rfl rfl rfl rfl fun other => absurd rfl other
  | cancel | cancelAll =>
      simp only [BackupManager.step] at moved
      split_ifs at moved
      obtain rfl := Option.some.inj moved
      exact callsMove_same rfl rfl rfl rfl rfl rfl fun _ => rfl
  | device event =>
      simp only [BackupManager.step] at moved
      split at moved
      · cases moved
      · obtain ⟨builder, _, rfl⟩ := Option.map_eq_some_iff.mp moved
        exact callsMove_same rfl rfl rfl rfl rfl rfl fun _ => rfl

end Manager

/-- All calls of the manager are answered, except for the one the listening thread is in. -/
structure SingleCaller (d : Dattod) : Prop where
  idle : (∀ request calls, d.pc ≠ .called request calls) →
    callsMade d.service.manager = d.service.manager.replies.length
  called : ∀ request calls, d.pc = .called request calls →
    callsMade d.service.manager = calls + 1 ∧ calls ≤ d.service.manager.replies.length

/-- A step of the listening thread; `StartBackup` runs in it. -/
def DattodEvent.ofListener : DattodEvent → Bool
  | .service (.manager e) => !e.ofOthers
  | .service _ | .stop | .destroyManager | .cancelAll => false
  | _ => true

/-- The steps before the end of the loop once it is to stop, without those of `StartBackup`. -/
def LoopPc.rank : LoopPc → ℕ
  | .stopped => 0
  | .testStop | .checkStop => 1
  | .poll | .sendReply _ => 2
  | .called _ _ => 3
  | .handle _ => 8
  | .readProtobufRequest => 9
  | .getNewConnection => 10

def listenerSteps (d : Dattod) : ℕ := d.pc.rank + stepsLeft d.service.manager

section Listener

variable {protobuf : Protobuf} {d t : Dattod} {s after : JobService}

theorem manager_moved {m : ManagerEvent} (moved : s.step (.manager m) = some after) :
    s.manager.step m = some after.manager := by
  obtain ⟨_, no⟩ | ⟨m', equal, first⟩ := service_manager_cases moved
  · exact absurd rfl (no m)
  · rwa [ServiceEvent.manager.inj equal]

/-- A step of the others makes no call and answers some at most. -/
theorem calls_of_inner {e : ServiceEvent} (inner : isCall e = false)
    (moved : s.step e = some after) :
    callsMade after.manager = callsMade s.manager ∧
      s.manager.replies <+: after.manager.replies := by
  rcases service_manager_cases moved with ⟨same, _⟩ | ⟨m, rfl, first⟩
  · rw [same]
    exact ⟨rfl, List.prefix_refl _⟩
  · have move := callsMove_step first
    have none_made : callsOf m = 0 := by
      cases m <;> first | rfl | simp [isCall] at inner
    exact ⟨by rw [move.made, none_made, Nat.add_zero], move.replies⟩

/-- Outside its calls, nothing that the loop has asked for is under way. -/
theorem idle_of_outside (inv : SingleCaller d)
    (outside : ∀ request calls, d.pc ≠ .called request calls) :
    d.service.manager.waiting = [] ∧ d.service.manager.starting = none := by
  have count := inv.idle outside
  unfold callsMade at count
  constructor
  · apply List.eq_nil_of_length_eq_zero
    omega
  · cases begun : d.service.manager.starting with
    | none => rfl
    | some call =>
        simp only [begun, Option.isSome_some, Bool.toNat_true] at count
        omega

theorem not_called_of_turns {doStop : Bool} {pc next : LoopPc} {log : List String}
    (turns : Turns doStop pc next log) (request : Request) (calls : ℕ) :
    pc ≠ .called request calls ∧ next ≠ .called request calls := by
  cases turns <;> simp

/-- The loop goes from one place outside the calls to another. -/
private theorem singleCaller_outside (inv : SingleCaller d)
    (before : ∀ request calls, d.pc ≠ .called request calls)
    (now : ∀ request calls, t.pc ≠ .called request calls) (service : t.service = d.service) :
    SingleCaller t := by
  refine ⟨fun _ => ?_, fun request calls here => absurd here (now request calls)⟩
  rw [service]
  exact inv.idle before

/-- The threads beside the loop leave its calls alone. -/
private theorem singleCaller_beside (inv : SingleCaller d) (pc : t.pc = d.pc)
    (made : callsMade t.service.manager = callsMade d.service.manager)
    (replies : d.service.manager.replies <+: t.service.manager.replies) : SingleCaller t := by
  have longer := replies.length_le
  refine ⟨fun outside => ?_, fun request calls here => ?_⟩
  · have equal := inv.idle (by rwa [pc] at outside)
    have most : t.service.manager.replies.length ≤ callsMade t.service.manager :=
      Nat.le_add_left _ _
    omega
  · obtain ⟨count, fewer⟩ := inv.called request calls (by rwa [pc] at here)
    exact ⟨made.trans count, le_trans fewer longer⟩

theorem singleCaller_step {e : DattodEvent} (inv : SingleCaller d)
    (taken : d.step protobuf e = some t) : SingleCaller t := by
  cases dattod_step_cases taken with
  | turned next log started turns same =>
      exact singleCaller_outside inv (fun request calls => (not_called_of_turns turns _ _).1)
        (fun request calls => by rw [same]; exact (not_called_of_turns turns _ _).2) (by rw [same])
  | accepted here same =>
      exact singleCaller_outside inv (by simp [here]) (by simp [same]) (by rw [same])
  | parsed request here same =>
      exact singleCaller_outside inv (by simp [here]) (by simp [same]) (by rw [same])
  | called request m here calls moved same =>
      have answered := inv.idle (by simp [here])
      have pc : t.pc = .called request d.service.manager.replies.length := by rw [same]
      have move := callsMove_step (manager_moved moved)
      have one : callsOf m = 1 := by cases calls <;> rfl
      refine ⟨fun outside => absurd pc (outside _ _), fun request' calls' here' => ?_⟩
      obtain ⟨rfl, rfl⟩ := LoopPc.called.inj (pc.symm.trans here')
      exact ⟨by rw [move.made, one, answered], move.replies.length_le⟩
  | answered request reply replies same =>
      refine ⟨fun _ => ?_, fun request' calls' here' => by simp [same, Dattod.answer] at here'⟩
      have service : t.service = d.service := by rw [same]; rfl
      rw [service]
      cases replies with
      | status jobUuid here => exact inv.idle (by simp [here])
      | other here => exact inv.idle (by simp [here])
      | returned request calls answer here found =>
          obtain ⟨count, _⟩ := inv.called request calls here
          have inside := (List.getElem?_eq_some_iff.mp found).1
          have most : d.service.manager.replies.length ≤ callsMade d.service.manager :=
            Nat.le_add_left _ _
          omega
  | finished change log killed ends same =>
      refine singleCaller_outside inv ends.not_called (fun request calls => ?_) (by rw [same]; rfl)
      rw [same]
      cases killed <;> simp
  | serviced e inner moved same =>
      obtain ⟨made, replies⟩ := calls_of_inner inner moved
      exact singleCaller_beside inv (by rw [same]) made replies
  | stopping ready same =>
      exact singleCaller_beside inv (by rw [same]) (by rw [same]) (by rw [same])
  | destroying here moved same =>
      have move := callsMove_step (manager_moved moved)
      exact singleCaller_beside inv (by rw [same]) move.made move.replies
  | cancelling moved same =>
      have move := callsMove_step (manager_moved moved)
      exact singleCaller_beside inv (by rw [same]) move.made move.replies

theorem singleCaller_run {events : List DattodEvent}
    (reached : run (Dattod.step protobuf) .new events = some d) : SingleCaller d :=
  invariant (fun _ _ _ inv taken => singleCaller_step inv taken)
    ⟨fun _ => rfl, by simp [Dattod.new]⟩ reached

/-- Once it is to stop, no turn of the loop leads away from its end. -/
private theorem rank_of_turns {pc next : LoopPc} {log : List String}
    (turns : Turns true pc next log) : next.rank < pc.rank := by
  cases turns with
  | ends | ready | again | breaks | fails => simp [LoopPc.rank]
  | polls going => cases going
  | accepts going => cases going

private theorem rank_of_replies {request : Request} {reply : Reply}
    (replies : Replies d request reply) : (LoopPc.sendReply reply).rank < d.pc.rank := by
  cases replies with
  | status jobUuid here => simp [here, LoopPc.rank]
  | other here => simp [here, LoopPc.rank]
  | returned request calls answer here found => simp [here, LoopPc.rank]

private theorem stepsLeft_inner {e : ServiceEvent} (inner : isCall e = false)
    (moved : s.step e = some after) :
    stepsLeft after.manager + (DattodEvent.ofListener (.service e)).toNat ≤
      stepsLeft s.manager := by
  rcases service_manager_cases moved with ⟨same, no⟩ | ⟨m, rfl, first⟩
  · have beside : DattodEvent.ofListener (.service e) = false := by
      cases e with
      | manager m => exact absurd rfl (no m)
      | _ => rfl
    rw [same, beside, Bool.toNat_false, Nat.add_zero]
  · have steps := (callsMove_step first).steps
    have none_added : stepsAdded m = 0 := by
      cases m <;> first | rfl | simp [isCall] at inner
    have weight : (DattodEvent.ofListener (.service (.manager m))).toNat = stepsTaken m := by
      simp only [DattodEvent.ofListener, stepsTaken]
      cases m.ofOthers <;> rfl
    rw [weight]
    omega

private theorem toNat_le_one (b : Bool) : b.toNat ≤ 1 := by cases b <;> simp

/-- Once it is to stop, every step of the listening thread brings it closer to its end, and
the steps of the others do not take it back. -/
private theorem listenerSteps_step {e : DattodEvent} (asked : d.doStop = true)
    (taken : d.step protobuf e = some t) :
    t.doStop = true ∧ listenerSteps t + e.ofListener.toNat ≤ listenerSteps d := by
  have weight := toNat_le_one e.ofListener
  unfold listenerSteps
  cases dattod_step_cases taken with
  | turned next log started turns same =>
      have closer := rank_of_turns (asked ▸ turns)
      subst same
      refine ⟨asked, ?_⟩
      simp only
      omega
  | accepted here same =>
      subst same
      refine ⟨asked, ?_⟩
      simp only [here, LoopPc.rank]
      omega
  | parsed request here same =>
      subst same
      refine ⟨asked, ?_⟩
      simp only [here, LoopPc.rank]
      omega
  | called request m here calls moved same =>
      have steps := (callsMove_step (manager_moved moved)).steps
      have added : stepsAdded m ≤ 4 := by cases calls <;> simp [stepsAdded]
      have pc : t.pc = .called request d.service.manager.replies.length := by rw [same]
      refine ⟨by rw [same]; exact asked, ?_⟩
      simp only [pc, here, LoopPc.rank]
      omega
  | answered request reply replies same =>
      have closer := rank_of_replies replies
      subst same
      refine ⟨asked, ?_⟩
      simp only [Dattod.answer, Dattod.changeNewest] at closer ⊢
      omega
  | finished change log killed ends same =>
      have closer : (if killed then LoopPc.stopped else .testStop).rank < d.pc.rank := by
        rcases ends.place with here | ⟨reply, here⟩ <;>
          cases killed <;> simp [here, LoopPc.rank]
      subst same
      refine ⟨asked, ?_⟩
      simp only [Dattod.changeNewest]
      omega
  | serviced e inner moved same =>
      have steps := stepsLeft_inner inner moved
      refine ⟨by rw [same]; exact asked, ?_⟩
      have pc : t.pc = d.pc := by rw [same]
      rw [pc]
      omega
  | stopping ready same =>
      subst same
      exact ⟨rfl, le_refl _⟩
  | destroying _ moved same | cancelling moved same =>
      have steps := (callsMove_step (manager_moved moved)).steps
      have pc : t.pc = d.pc := by rw [same]
      refine ⟨by rw [same]; exact asked, ?_⟩
      simp only [pc, DattodEvent.ofListener, Bool.toNat_false, stepsAdded] at steps ⊢
      omega

/-- A call that is not answered has a next step. -/
private theorem start_goes_on (manager : BackupManager)
    (pending : manager.replies.length < callsMade manager) :
    ∃ m next, m.ofOthers = false ∧ manager.step m = some next := by
  cases begun : manager.starting with
  | none =>
      obtain ⟨uuid, fresh⟩ := Infinite.exists_notMem_finset manager.replyMap
      refine ⟨.lock 0 uuid, ?_⟩
      cases queued : manager.waiting with
      | nil => simp [callsMade, begun, queued] at pending
      | cons request requests =>
          have unused : manager.FreshUuid uuid := fresh
          simp only [BackupManager.step, BackupManager.lock, begun, queued,
            List.getElem?_cons_zero, unused, if_true]
          split_ifs <;> exact ⟨_, rfl, rfl⟩
  | some call =>
      obtain ⟨request, uuid, pc⟩ := call
      cases pc with
      | addToInProgressSet =>
          exact ⟨.addToInProgressSet, _, rfl, by simp only [BackupManager.step, begun]; rfl⟩
      | createBackup =>
          exact ⟨.createBackup twoDisks, _, rfl, by simp only [BackupManager.step, begun]; rfl⟩
      | catchBlock what =>
          exact ⟨.eraseFailed, _, rfl, by simp only [BackupManager.step, begun]; rfl⟩

private theorem service_follows {m : ManagerEvent} {manager : BackupManager}
    (own : m.ofOthers = false) (moved : s.manager.step m = some manager) :
    ∃ after, s.step (.manager m) = some after := by
  have followed : ({ s with manager := manager }.follow s.manager.starting m).isSome := by
    unfold JobService.follow
    split <;> first | rfl | simp [ManagerEvent.ofOthers] at own
  obtain ⟨after, found⟩ := Option.isSome_iff_exists.mp followed
  exact ⟨after, by simp only [JobService.step, moved, Option.bind_some, found]⟩

private theorem isCall_own {m : ManagerEvent} (own : m.ofOthers = false) :
    isCall (.manager m) = false := by
  cases m <;> first | rfl | simp [ManagerEvent.ofOthers] at own

/-- As long as the loop has not ended, the listening thread has a next step. -/
private theorem listener_goes_on (inv : SingleCaller d) (alive : d.killed = false)
    (going : d.pc ≠ .stopped) : ∃ e t, e.ofListener = true ∧ d.step protobuf e = some t := by
  simp only [Dattod.step, alive, Bool.false_eq_true, if_false]
  cases here : d.pc with
  | testStop => exact ⟨.testStop, _, rfl, by simp only [Dattod.turn, here]; rfl⟩
  | poll => exact ⟨.poll 0, _, rfl, by simp only [Dattod.turn, here]; rfl⟩
  | checkStop => exact ⟨.checkStop, _, rfl, by simp only [Dattod.turn, here]; rfl⟩
  | getNewConnection =>
      exact ⟨.getNewConnection false, _, rfl, by simp only [Dattod.turn, here]; rfl⟩
  | readProtobufRequest =>
      exact ⟨.readProtobufRequest false (fun _ => 0) [], _, rfl, by
        simp only [Dattod.turn, here]; rfl⟩
  | handle request =>
      cases request with
      | startBackup request =>
          cases tearing : d.service.manager.destructorCalled with
          | true => exact ⟨.handle, _, rfl, by
              simp only [Dattod.turn, here, Dattod.handle, Dattod.call, JobService.step,
                BackupManager.step, tearing, if_true, Option.bind_some, JobService.follow]; rfl⟩
          | false => exact ⟨.handle, _, rfl, by
              simp only [Dattod.turn, here, Dattod.handle, Dattod.call, JobService.step,
                BackupManager.step, tearing, JobService.follow]; rfl⟩
      | stopBackup jobUuid => exact ⟨.handle, _, rfl, by simp only [Dattod.turn, here]; rfl⟩
      | backupStatus jobUuid => exact ⟨.handle, _, rfl, by simp only [Dattod.turn, here]; rfl⟩
      | other => exact ⟨.handle, _, rfl, by simp only [Dattod.turn, here]; rfl⟩
  | called request calls =>
      obtain ⟨count, _⟩ := inv.called request calls here
      cases found : d.service.manager.replies[calls]? with
      | some answer =>
          exact ⟨.returned, _, rfl, by simp only [Dattod.turn, here, found]; rfl⟩
      | none =>
          have short := List.getElem?_eq_none_iff.mp found
          obtain ⟨m, next, own, moved⟩ := start_goes_on d.service.manager (by omega)
          obtain ⟨after, taken⟩ := service_follows own moved
          refine ⟨.service (.manager m), { d with service := after }, ?_, ?_⟩
          · simp [DattodEvent.ofListener, own]
          · simp [Dattod.turn, isCall_own own, taken]
  | sendReply reply =>
      exact ⟨.sendReply .failed .wrote, _, rfl, by simp only [Dattod.turn, here]; rfl⟩
  | stopped => exact absurd here going

private theorem stepsLeft_le (inv : SingleCaller d) : stepsLeft d.service.manager ≤ 4 ∧
    ((∀ request calls, d.pc ≠ .called request calls) → stepsLeft d.service.manager = 0) := by
  have most : startSteps d.service.manager.starting ≤
      3 * d.service.manager.starting.isSome.toNat := by
    cases d.service.manager.starting with
    | none => simp [startSteps]
    | some call =>
        obtain ⟨request, uuid, pc⟩ := call
        cases pc <;> simp [startSteps]
  by_cases outside : ∀ request calls, d.pc ≠ .called request calls
  · obtain ⟨waiting, starting⟩ := idle_of_outside inv outside
    simp [stepsLeft, waiting, starting, startSteps]
  · have busy : ∃ request calls, d.pc = .called request calls := by
      simpa only [not_forall, not_not] using outside
    obtain ⟨request, calls, here⟩ := busy
    obtain ⟨count, fewer⟩ := inv.called request calls here
    unfold callsMade at count
    exact ⟨by unfold stepsLeft; omega, fun none_called => absurd none_called outside⟩

private theorem listenerSteps_le (inv : SingleCaller d) : listenerSteps d ≤ 10 := by
  obtain ⟨few, none_left⟩ := stepsLeft_le inv
  unfold listenerSteps
  cases here : d.pc with
  | called request calls => simp only [LoopPc.rank]; omega
  | _ =>
      have zero := none_left (by simp [here])
      simp only [LoopPc.rank]
      omega

/-- A connection that the loop is about to accept. -/
private def toAccept (pc : LoopPc) : ℕ := if pc = .getNewConnection then 1 else 0

private theorem toAccept_of_turns {pc next : LoopPc} {log : List String}
    (turns : Turns true pc next log) : toAccept next ≤ toAccept pc := by
  cases turns with
  | ends | ready | again | breaks | fails => simp [toAccept]
  | polls going => cases going
  | accepts going => cases going

private theorem accepts_step {e : DattodEvent} (asked : d.doStop = true)
    (taken : d.step protobuf e = some t) :
    t.connections.length + toAccept t.pc ≤ d.connections.length + toAccept d.pc := by
  cases dattod_step_cases taken with
  | turned next log started turns same =>
      have fewer := toAccept_of_turns (asked ▸ turns)
      subst same
      simp only
      omega
  | accepted here same =>
      subst same
      simp [here, toAccept]
  | parsed request here same =>
      subst same
      simp [here, toAccept]
  | called request m here calls moved same =>
      rw [same]
      simp [toAccept]
  | answered request reply replies same =>
      subst same
      simp [Dattod.answer, Dattod.changeNewest, toAccept]
  | finished change log killed ends same =>
      subst same
      cases killed <;> simp [Dattod.changeNewest, toAccept]
  | serviced e inner moved same => rw [same]
  | stopping ready same => rw [same]
  | destroying here moved same => rw [same]
  | cancelling moved same => rw [same]

/-- `Stop` ends the listening thread: after it the thread makes at most ten steps, those
inside `StartBackup` among them, and accepts at most one connection, whatever the other
threads do meanwhile; and until it has ended it has a next step once the system call it is
in returns. -/
theorem stop_ends_listener (protobuf : Protobuf) (before after : List DattodEvent) (d t : Dattod)
    (reached : run (Dattod.step protobuf) .new before = some d) (asked : d.doStop = true)
    (continued : run (Dattod.step protobuf) d after = some t) :
    after.countP DattodEvent.ofListener ≤ 10 ∧
    t.connections.length ≤ d.connections.length + 1 ∧
    (t.pc ≠ .stopped → ∃ e u, e.ofListener = true ∧ t.step protobuf e = some u) := by
  have few := listenerSteps_le (singleCaller_run reached)
  have counted := (countP_le_of_measure listenerSteps DattodEvent.ofListener
    (fun s e u asked _ taken => listenerSteps_step asked taken) asked
    (along_trivial d after) continued).2
  have accepted : t.doStop = true ∧
      t.connections.length + toAccept t.pc ≤ d.connections.length + toAccept d.pc := by
    refine invariant (I := fun u : Dattod => u.doStop = true ∧
      u.connections.length + toAccept u.pc ≤ d.connections.length + toAccept d.pc) ?_
      ⟨asked, le_refl _⟩ continued
    rintro s e u ⟨asked, fewer⟩ taken
    exact ⟨(listenerSteps_step asked taken).1, le_trans (accepts_step asked taken) fewer⟩
  refine ⟨by omega, ?_, ?_⟩
  · have most : toAccept d.pc ≤ 1 := by
      unfold toAccept
      split_ifs <;> simp
    omega
  · have whole := run_append.mpr ⟨d, reached, continued⟩
    intro going
    refine listener_goes_on (singleCaller_run whole) ?_ going
    by_contra killed
    exact going (stopped_of_killed whole (by simpa using killed))

end Listener

/-- The program is told to stop while the loop is about to accept a connection. -/
def stopBeforeAccept : List DattodEvent :=
  [.testStop, .poll 0, .testStop, .poll 1, .checkStop, .stop]

/-- The connection is served to its end, with all steps of `StartBackup`. -/
def lastClient : List DattodEvent :=
  [.getNewConnection true, .readProtobufRequest false (fun _ => 9) (frame [1]), .handle,
    .service (.manager (.lock 0 "job-1")), .service (.manager .addToInProgressSet),
    .service (.manager (.createBackup twoDisks)), .service (.backupInProgress "job-1"), .returned,
    .sendReply (.wrote 4) .wrote, .testStop]

theorem stop_ends_listener_lastClient :
    ∃ d t, run (Dattod.step oneByte) .new stopBeforeAccept = some d ∧ d.doStop = true ∧
      run (Dattod.step oneByte) d lastClient = some t ∧ t.pc = .stopped ∧
      t.connections.length ≤ d.connections.length + 1 := by
  have evaluated : (run (Dattod.step oneByte) .new stopBeforeAccept).any fun d =>
      d.doStop &&
        (run (Dattod.step oneByte) d lastClient).any fun t => decide (t.pc = .stopped) := by
    decide +kernel
  obtain ⟨d, reached, rest⟩ := (Option.any_eq_true _ _).mp evaluated
  obtain ⟨asked, rest⟩ := Bool.and_eq_true_iff.mp rest
  obtain ⟨t, continued, test⟩ := (Option.any_eq_true _ _).mp rest
  refine ⟨d, t, reached, asked, continued, of_decide_eq_true test, ?_⟩
  exact (stop_ends_listener oneByte _ _ d t reached asked continued).2.1

end LinuxAgent.RequestListener
