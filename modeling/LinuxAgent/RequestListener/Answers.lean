/- module: LinuxAgent/RequestListener/Answers
   source: request_listener/request_handler.cc, backup/backup_manager.cc,
     backup_status_tracker/backup_status_tracker.cc
   digest: What the clients of the daemon are told about the jobs, from one answer to the next. -/

import LinuxAgent.RequestListener.Calls

/-!
A client sees nothing of the daemon but answers. Those of `StartBackup` carry the UUIDs
that the manager has returned, in the same order; so what is known of the jobs behind
these UUIDs carries over to the answers that ask for them later.
-/

set_option autoImplicit false
set_option relaxedAutoImplicit false

namespace LinuxAgent.RequestListener

open LinuxAgent.Lib.Run LinuxAgent.Backup

/-- The UUID that a reply of the manager gives out. -/
def startedUuid : ManagerReply → Option String
  | .started backupUuid => some backupUuid
  | .stopped _ | .threw _ => none

/-- The UUIDs that were returned, in order. -/
def returnedUuids (replies : List ManagerReply) : List String := replies.filterMap startedUuid

/-- How the replies of the manager agree with its jobs and with its map. -/
structure Recorded (manager : BackupManager) : Prop where
  once : (returnedUuids manager.replies).Nodup
  known : ∀ uuid ∈ returnedUuids manager.replies, uuid ∈ manager.replyMap
  unanswered : ∀ call, manager.starting = some call →
    call.backupUuid ∉ returnedUuids manager.replies
  jobs : ∀ job ∈ manager.jobs, job.backupUuid ∈ returnedUuids manager.replies
  entries : ∀ e ∈ manager.inProgressMap.entries,
    (∃ job ∈ manager.jobs, job.backupUuid = e.1) ∨
      ∃ call, manager.starting = some call ∧ call.backupUuid = e.1 ∧ call.pc ≠ .addToInProgressSet

section Manager

variable {manager after : BackupManager}

theorem mem_returnedUuids {replies : List ManagerReply} {uuid : String} :
    uuid ∈ returnedUuids replies ↔ .started uuid ∈ replies := by
  rw [returnedUuids, List.mem_filterMap]
  constructor
  · rintro ⟨reply, member, found⟩
    cases reply with
    | started backupUuid =>
        obtain rfl := Option.some.inj found
        exact member
    | stopped jobUuid => cases found
    | threw what => cases found
  · intro member
    exact ⟨_, member, rfl⟩

private theorem returnedUuids_append (replies more : List ManagerReply) :
    returnedUuids (replies ++ more) = returnedUuids replies ++ returnedUuids more :=
  List.filterMap_append

/-- A step that returns no UUID. -/
private theorem recorded_quiet (inv : Recorded manager)
    (returned : returnedUuids after.replies = returnedUuids manager.replies)
    (replyMap : manager.replyMap ⊆ after.replyMap)
    (starting : ∀ call, after.starting = some call →
      call.backupUuid ∉ returnedUuids manager.replies)
    (jobs : ∀ job ∈ after.jobs, ∃ old ∈ manager.jobs, old.backupUuid = job.backupUuid)
    (entries : ∀ e ∈ after.inProgressMap.entries,
      (∃ job ∈ after.jobs, job.backupUuid = e.1) ∨
        ∃ call, after.starting = some call ∧ call.backupUuid = e.1 ∧
          call.pc ≠ .addToInProgressSet) : Recorded after := by
  refine ⟨?_, ?_, ?_, ?_, entries⟩
  · rw [returned]
    exact inv.once
  · rw [returned]
    exact fun uuid member => replyMap (inv.known uuid member)
  · rw [returned]
    exact starting
  · rw [returned]
    intro job member
    obtain ⟨old, before, same⟩ := jobs job member
    exact same ▸ inv.jobs old before

/-- A step of another thread: the call under way, and the names of the jobs and of the
entries of the map, are as before. -/
private theorem recorded_beside (inv : Recorded manager)
    (returned : returnedUuids after.replies = returnedUuids manager.replies)
    (replyMap : after.replyMap = manager.replyMap) (starting : after.starting = manager.starting)
    (jobs : after.jobs.map (·.backupUuid) = manager.jobs.map (·.backupUuid))
    (entries : ∀ e ∈ after.inProgressMap.entries,
      ∃ old ∈ manager.inProgressMap.entries, old.1 = e.1) : Recorded after := by
  have named (uuid : String) : (∃ job ∈ after.jobs, job.backupUuid = uuid) ↔
      ∃ job ∈ manager.jobs, job.backupUuid = uuid := by
    rw [← List.mem_map, ← List.mem_map, jobs]
  refine recorded_quiet inv returned (by rw [replyMap]) ?_ ?_ ?_
  · rw [starting]
    exact inv.unanswered
  · intro job member
    exact (named job.backupUuid).mp ⟨job, member, rfl⟩
  · intro e member
    obtain ⟨old, before, same⟩ := entries e member
    rw [named, starting, ← same]
    exact inv.entries old before

private theorem recorded_lock {index : ℕ} {uuid : String} (inv : Recorded manager)
    (moved : manager.step (.lock index uuid) = some after) : Recorded after := by
  simp only [BackupManager.step, BackupManager.lock] at moved
  split at moved
  · rename_i request idle found
    have running (e) (member : e ∈ manager.inProgressMap.entries) :
        ∃ job ∈ manager.jobs, job.backupUuid = e.1 := by
      refine (inv.entries e member).resolve_right ?_
      rintro ⟨call, begun, _⟩
      rw [idle] at begun
      cases begun
    split_ifs at moved with empty fresh <;> obtain rfl := Option.some.inj moved
    · refine recorded_beside inv ?_ rfl rfl rfl fun e member => ⟨e, member, rfl⟩
      simp [BackupManager.reply, returnedUuids, startedUuid]
    · refine recorded_quiet inv rfl (Finset.subset_insert _ _) ?_
        (fun job member => ⟨job, member, rfl⟩) fun e member => .inl (running e member)
      intro call begun
      obtain rfl := Option.some.inj begun
      exact fun member => fresh (inv.known uuid member)
  · cases moved

private theorem recorded_addToInProgressSet (inv : Recorded manager)
    (moved : manager.step .addToInProgressSet = some after) : Recorded after := by
  simp only [BackupManager.step] at moved
  split at moved
  · rename_i request uuid begun
    obtain rfl := Option.some.inj moved
    have fresh := inv.unanswered _ begun
    have running (e) (member : e ∈ manager.inProgressMap.entries) :
        ∃ job ∈ manager.jobs, job.backupUuid = e.1 := by
      refine (inv.entries e member).resolve_right ?_
      rintro ⟨call, begun', _, later⟩
      obtain rfl := Option.some.inj (begun.symm.trans begun')
      exact later rfl
    unfold BackupManager.addToInProgressSet
    split
    · refine recorded_quiet inv ?_ (Finset.Subset.refl _) (by simp [BackupManager.reply])
        (fun job member => ⟨job, member, rfl⟩) fun e member => .inl (running e member)
      simp [BackupManager.reply, returnedUuids, startedUuid]
    · rename_i map added
      refine recorded_quiet inv rfl (Finset.Subset.refl _) ?_
        (fun job member => ⟨job, member, rfl⟩) fun e member => ?_
      · intro call begun'
        obtain rfl := Option.some.inj begun'
        exact fresh
      · unfold InProgressMap.addToInProgressSet at added
        split_ifs at added
        obtain rfl := Except.ok.inj added
        rcases List.mem_cons.mp member with rfl | older
        · exact .inr ⟨_, rfl, rfl, by simp⟩
        · exact .inl (running e (List.mem_filter.mp older).1)
  · cases moved

private theorem recorded_createBackup {world : ℕ → Surroundings} (inv : Recorded manager)
    (known : ∀ call, manager.starting = some call → call.backupUuid ∈ manager.replyMap)
    (moved : manager.step (.createBackup world) = some after) : Recorded after := by
  simp only [BackupManager.step] at moved
  split at moved
  · rename_i request uuid begun
    obtain rfl := Option.some.inj moved
    have fresh := inv.unanswered _ begun
    unfold BackupManager.createBackup
    split
    · refine recorded_quiet inv rfl (Finset.Subset.refl _) ?_
        (fun job member => ⟨job, member, rfl⟩) fun e member => ?_
      · intro call begun'
        obtain rfl := Option.some.inj begun'
        exact fresh
      · rcases inv.entries e member with here | ⟨call, begun', same, _⟩
        · exact .inl here
        · obtain rfl := Option.some.inj (begun.symm.trans begun')
          exact .inr ⟨_, rfl, same, by simp⟩
    · have returned : returnedUuids (manager.replies ++ [.started uuid]) =
          returnedUuids manager.replies ++ [uuid] := returnedUuids_append _ _
      refine ⟨?_, ?_, by simp [BackupManager.reply], ?_, ?_⟩
      · simp only [BackupManager.reply, returned]
        exact List.nodup_append.mpr ⟨inv.once, by simp, fun a here b there => by
          obtain rfl := List.mem_singleton.mp there
          exact fun same => fresh (same ▸ here)⟩
      · simp only [BackupManager.reply, returned, List.mem_append, List.mem_singleton]
        rintro other (before | rfl)
        · exact inv.known other before
        · exact known _ begun
      · simp only [BackupManager.reply, returned, List.forall_mem_cons, List.mem_append,
          List.mem_singleton]
        exact ⟨.inr rfl, fun job member => .inl (inv.jobs job member)⟩
      · intro e member
        rcases inv.entries e member with ⟨job, here, same⟩ | ⟨call, begun', same, _⟩
        · exact .inl ⟨job, List.mem_cons_of_mem _ here, same⟩
        · obtain rfl := Option.some.inj (begun.symm.trans begun')
          exact .inl ⟨_, List.mem_cons_self, same⟩
  · cases moved

private theorem recorded_eraseFailed (inv : Recorded manager)
    (moved : manager.step .eraseFailed = some after) : Recorded after := by
  simp only [BackupManager.step] at moved
  split at moved
  · rename_i request uuid what begun
    obtain rfl := Option.some.inj moved
    refine recorded_quiet inv ?_ (Finset.Subset.refl _)
      (by simp [BackupManager.eraseFailed, BackupManager.reply])
      (fun job member => ⟨job, member, rfl⟩) fun e member => .inl ?_
    · simp [BackupManager.eraseFailed, BackupManager.reply, returnedUuids, startedUuid]
    · obtain ⟨before, apart⟩ := List.mem_filter.mp member
      refine (inv.entries e before).resolve_right ?_
      rintro ⟨call, begun', same, _⟩
      obtain rfl := Option.some.inj (begun.symm.trans begun')
      simp [← same] at apart
  · cases moved

private theorem recorded_stopBackup {jobUuid : String} (inv : Recorded manager) :
    Recorded (manager.stopBackup jobUuid) := by
  unfold BackupManager.stopBackup
  split_ifs
  · refine recorded_beside inv ?_ rfl rfl rfl fun e member => ?_
    · simp [BackupManager.reply, returnedUuids, startedUuid]
    · obtain ⟨old, before, rfl⟩ := List.mem_map.mp member
      exact ⟨old, before, rfl⟩
  · refine recorded_beside inv ?_ rfl rfl rfl fun e member => ⟨e, member, rfl⟩
    simp [BackupManager.reply, returnedUuids, startedUuid]

private theorem map_changeJob (manager : BackupManager) (uuid : String) (change : Job → Job)
    (keeps : ∀ job, (change job).backupUuid = job.backupUuid) :
    (manager.changeJob uuid change).jobs.map (·.backupUuid) =
      manager.jobs.map (·.backupUuid) := by
  simp only [BackupManager.changeJob, List.map_map]
  refine List.map_congr_left fun job _ => ?_
  simp only [Function.comp_apply]
  split_ifs
  · exact keeps job
  · rfl

theorem recorded_step {e : ManagerEvent} (registered : Registered manager)
    (inv : Recorded manager) (moved : manager.step e = some after) : Recorded after := by
  cases e with
  | startBackup request =>
      simp only [BackupManager.step] at moved
      split_ifs at moved <;> obtain rfl := Option.some.inj moved
      · refine recorded_beside inv ?_ rfl rfl rfl fun e member => ⟨e, member, rfl⟩
        simp [BackupManager.reply, returnedUuids, startedUuid]
      · exact recorded_beside inv rfl rfl rfl rfl fun e member => ⟨e, member, rfl⟩
  | lock index uuid => exact recorded_lock inv moved
  | addToInProgressSet => exact recorded_addToInProgressSet inv moved
  | createBackup world => exact recorded_createBackup inv registered.startKnown moved
  | eraseFailed => exact recorded_eraseFailed inv moved
  | stopBackup jobUuid =>
      obtain rfl := Option.some.inj moved
      exact recorded_stopBackup inv
  | finishSynchronizer backupUuid index =>
      obtain rfl := Option.some.inj moved
      exact recorded_beside inv rfl rfl rfl (map_changeJob manager _ _ fun _ => rfl)
        fun e member => ⟨e, member, rfl⟩
  | doBackupReturns backupUuid =>
      simp only [BackupManager.step] at moved
      split_ifs at moved
      obtain rfl := Option.some.inj moved
      exact recorded_beside inv rfl rfl rfl (map_changeJob manager _ _ fun _ => rfl)
        fun e member => ⟨e, member, rfl⟩
  | eraseFinished backupUuid =>
      simp only [BackupManager.step] at moved
      split_ifs at moved
      obtain rfl := Option.some.inj moved
      refine recorded_quiet inv rfl (Finset.Subset.refl _) inv.unanswered ?_ ?_
      · exact fun job member => ⟨job, (List.mem_filter.mp member).1, rfl⟩
      · intro e member
        obtain ⟨before, apart⟩ := List.mem_filter.mp member
        refine (inv.entries e before).imp_left ?_
        rintro ⟨job, here, same⟩
        exact ⟨job, List.mem_filter.mpr ⟨here, by simpa [same] using apart⟩, same⟩
  | callDestructor =>
      obtain rfl := Option.some.inj moved
      exact recorded_beside inv rfl rfl rfl rfl fun e member => ⟨e, member, rfl⟩
  | cancel | cancelAll =>
      simp only [BackupManager.step] at moved
      split_ifs at moved
      obtain rfl := Option.some.inj moved
      refine recorded_beside inv rfl rfl rfl rfl fun e member => ?_
      obtain ⟨old, before, rfl⟩ := List.mem_map.mp member
      exact ⟨old, before, rfl⟩
  | device event =>
      simp only [BackupManager.step] at moved
      split at moved
      · cases moved
      · obtain ⟨builder, _, rfl⟩ := Option.map_eq_some_iff.mp moved
        exact recorded_beside inv rfl rfl rfl rfl fun e member => ⟨e, member, rfl⟩

end Manager

/-- Statuses go from `NOT_STARTED` to `IN_PROGRESS` to one of the others. -/
def statusRank : BackupStatus → ℕ
  | .notStarted => 0
  | .inProgress => 1
  | .succeeded | .cancelled | .failed _ => 2

/-- The second status is the first one or comes after it. -/
def Precedes (old new : BackupStatus) : Prop := old = new ∨ statusRank old < statusRank new

/-- The UUID that an answer gives out. -/
def Answer.startedUuid (answer : Answer) : Option String :=
  match answer.reply with
  | .startBackup jobUuid => some jobUuid
  | _ => none

/-- The UUIDs that the answers of a list give out. -/
def startedUuids (answers : List Answer) : List String := answers.filterMap Answer.startedUuid

/-- What an answer may be after the answers before it: a job gets a new UUID; only a job
that was started is stopped; a job that was started has a status; and the status of a job
does not go back. -/
structure Follows (older : List Answer) (answer : Answer) : Prop where
  fresh : ∀ uuid, answer.reply = .startBackup uuid → uuid ∉ startedUuids older
  stopped : ∀ uuid, answer = ⟨.stopBackup uuid, .stopBackup⟩ → uuid ∈ startedUuids older
  known : ∀ uuid, answer.request = .backupStatus uuid → uuid ∈ startedUuids older →
    ∃ status, answer.reply = .backupStatus status
  forward : ∀ uuid old, ⟨.backupStatus uuid, .backupStatus old⟩ ∈ older →
    answer.request = .backupStatus uuid → ∃ new, answer.reply = .backupStatus new ∧ Precedes old new

/-- Each answer of a list, the newest first, follows those before it. -/
def Coherent : List Answer → Prop
  | [] => True
  | answer :: older => Follows older answer ∧ Coherent older

/-- The answers of the daemon, the newest first. -/
def Dattod.answers (d : Dattod) : List Answer := d.connections.filterMap (·.answer)

/-- How many replies of the manager the listening thread has taken. -/
def taken (d : Dattod) : ℕ :=
  match d.pc with
  | .called _ calls => calls
  | _ => d.service.manager.replies.length

/-- What the service keeps about its jobs. -/
structure SoundService (s : JobService) : Prop where
  registered : Registered s.manager
  consistent : s.Consistent
  recorded : Recorded s.manager
  tracked : ∀ uuid status, s.statuses uuid = some status → uuid ∈ s.manager.replyMap

/-- How the answers agree with the service. -/
structure Told (d : Dattod) : Prop where
  started : (startedUuids d.answers).reverse =
    returnedUuids (d.service.manager.replies.take (taken d))
  shown : ∀ uuid old, ⟨.backupStatus uuid, .backupStatus old⟩ ∈ d.answers →
    ∃ now, d.service.statuses uuid = some now ∧ Precedes old now
  stops : ∀ uuid calls, d.pc = .called (.stopBackup uuid) calls →
    ∃ answer, d.service.manager.replies[calls]? = some answer ∧
      ∀ jobUuid, answer = .stopped jobUuid →
        uuid ∈ returnedUuids (d.service.manager.replies.take calls)
  calls : ∀ request calls, d.pc = .called request calls → ∃ m, Calls request m
  coherent : Coherent d.answers

section Service

variable {s t : JobService}

private theorem precedes_refl (status : BackupStatus) : Precedes status status := .inl rfl

private theorem precedes_of_moves {old new : BackupStatus} (moves : old.Moves new) :
    Precedes old new := by
  rcases moves with same | ⟨rfl, rfl⟩ | ⟨rfl, terminal⟩
  · exact .inl same.symm
  · exact .inr (by simp [statusRank])
  · refine .inr ?_
    cases new with
    | notStarted | inProgress => cases terminal
    | succeeded | cancelled | failed => simp [statusRank]

private theorem precedes_trans {old middle new : BackupStatus} (first : Precedes old middle)
    (second : Precedes middle new) : Precedes old new := by
  rcases first with rfl | less
  · exact second
  · rcases second with rfl | more
    · exact .inr less
    · exact .inr (lt_trans less more)

private theorem tracked_step {e : ServiceEvent} (inv : SoundService s)
    (moved : s.step e = some t) (uuid : String) (status : BackupStatus)
    (shown : t.statuses uuid = some status) : uuid ∈ t.manager.replyMap := by
  have unmoved (same : t.statuses = s.statuses)
      (replyMap : t.manager.replyMap = s.manager.replyMap) : uuid ∈ t.manager.replyMap := by
    rw [same] at shown
    rw [replyMap]
    exact inv.tracked uuid status shown
  cases service_step_cases moved with
  | quiet manager _ kept => exact unmoved kept.statuses manager.replyMap
  | locked call _ _ _ replyMap _ _ same =>
      have statuses : t.statuses = Function.update s.statuses call.backupUuid (some .notStarted) :=
        (congrArg JobService.statuses same :)
      rw [replyMap, Finset.mem_insert]
      by_cases here : uuid = call.backupUuid
      · exact .inl here
      · rw [statuses, Function.update_of_ne here] at shown
        exact .inr (inv.tracked uuid status shown)
  | registered _ _ _ replyMap _ _ same =>
      exact unmoved (congrArg JobService.statuses same :) replyMap
  | built _ _ _ _ replyMap _ _ same => exact unmoved (congrArg JobService.statuses same :) replyMap
  | erased _ _ _ replyMap _ _ same => exact unmoved (congrArg JobService.statuses same :) replyMap
  | ended _ _ _ _ _ replyMap _ _ same =>
      exact unmoved (congrArg JobService.statuses same :) replyMap
  | exited _ _ _ _ same =>
      exact unmoved (congrArg JobService.statuses same :) (congrArg (·.manager.replyMap) same :)
  | advanced job thread _ here running _ manager _ _ _ _ _ others _ =>
      rw [manager.replyMap]
      by_cases mine : uuid = job
      · obtain ⟨source, member, named⟩ := inv.consistent.alive job thread here running
        rw [mine, ← named]
        exact inv.registered.jobsKnown source member
      · rw [others uuid mine] at shown
        exact inv.tracked uuid status shown

theorem soundService_step {e : ServiceEvent} (inv : SoundService s) (moved : s.step e = some t) :
    SoundService t := by
  refine ⟨?_, consistent_step inv.registered inv.consistent moved, ?_, tracked_step inv moved⟩
  · rcases manager_of_step moved with same | ⟨m, first⟩
    · rw [same]
      exact inv.registered
    · exact registered_step inv.registered first
  · rcases manager_of_step moved with same | ⟨m, first⟩
    · rw [same]
      exact inv.recorded
    · exact recorded_step inv.registered inv.recorded first

end Service

section Clients

variable {protobuf : Protobuf} {d t : Dattod}

private theorem take_inside {α : Type*} {short long : List α} {n : ℕ} (first : short <+: long)
    (inside : n ≤ short.length) : long.take n = short.take n := by
  obtain ⟨rest, rfl⟩ := first
  exact List.take_append_of_le_length inside

/-- Statuses that were shown stay behind the present ones. -/
private theorem shown_moves {older : List Answer} {s u : JobService} {e : ServiceEvent}
    (sound : SoundService s) (moved : s.step e = some u)
    (shown : ∀ uuid old, ⟨.backupStatus uuid, .backupStatus old⟩ ∈ older →
      ∃ now, s.statuses uuid = some now ∧ Precedes old now) (uuid : String) (old : BackupStatus)
    (member : ⟨.backupStatus uuid, .backupStatus old⟩ ∈ older) :
    ∃ now, u.statuses uuid = some now ∧ Precedes old now := by
  obtain ⟨now, found, before⟩ := shown uuid old member
  obtain ⟨new, next, moves⟩ :=
    status_moves sound.consistent (sound.tracked uuid now found) found moved
  exact ⟨new, next, precedes_trans before (precedes_of_moves moves)⟩

private theorem taken_of_not_called (outside : ∀ request calls, d.pc ≠ .called request calls) :
    taken d = d.service.manager.replies.length := by
  unfold taken
  split
  · rename_i here
    exact absurd here (outside _ _)
  · rfl

/-- The loop moves outside its calls, and no answer is added. -/
private theorem told_outside (inv : Told d)
    (before : ∀ request calls, d.pc ≠ .called request calls)
    (now : ∀ request calls, t.pc ≠ .called request calls)
    (answers : t.answers = d.answers) (service : t.service = d.service) : Told t := by
  have same : taken t = taken d := by
    rw [taken_of_not_called before, taken_of_not_called now, service]
  refine ⟨?_, ?_, fun uuid calls here => absurd here (now _ _),
    fun request calls here => absurd here (now _ _), ?_⟩
  · rw [answers, service, same]
    exact inv.started
  · rw [answers, service]
    exact inv.shown
  · rw [answers]
    exact inv.coherent

/-- A step beside the loop. -/
private theorem told_beside {e : ServiceEvent} (single : SingleCaller d) (single' : SingleCaller t)
    (sound : SoundService d.service) (inv : Told d) (moved : d.service.step e = some t.service)
    (pc : t.pc = d.pc) (answers : t.answers = d.answers)
    (replies : d.service.manager.replies <+: t.service.manager.replies)
    (made : callsMade t.service.manager = callsMade d.service.manager) : Told t := by
  have same : t.service.manager.replies.take (taken t) =
      d.service.manager.replies.take (taken d) := by
    by_cases outside : ∀ request calls, d.pc ≠ .called request calls
    · have length : t.service.manager.replies.length = d.service.manager.replies.length := by
        rw [← single.idle outside, ← single'.idle (by rwa [pc]), made]
      rw [taken_of_not_called outside, taken_of_not_called (by rwa [pc]), List.take_length,
        List.take_length]
      exact (replies.eq_of_length length.symm).symm
    · obtain ⟨request, calls, here⟩ : ∃ request calls, d.pc = .called request calls := by
        simpa only [not_forall, not_not] using outside
      have now : taken t = calls := by simp only [taken, pc, here]
      have then' : taken d = calls := by simp only [taken, here]
      rw [now, then']
      exact take_inside replies (single.called request calls here).2
  refine ⟨?_, ?_, fun uuid calls here => ?_, ?_, ?_⟩
  · rw [answers, same]
    exact inv.started
  · rw [answers]
    exact shown_moves sound moved inv.shown
  · rw [pc] at here
    obtain ⟨answer, found, stops⟩ := inv.stops uuid calls here
    obtain ⟨inside, _⟩ := List.getElem?_eq_some_iff.mp found
    refine ⟨answer, ?_, fun jobUuid is => ?_⟩
    · obtain ⟨rest, whole⟩ := replies
      rw [← whole, List.getElem?_append_left inside]
      exact found
    · rw [take_inside replies inside.le]
      exact stops jobUuid is
  · rw [pc]
    exact inv.calls
  · rw [answers]
    exact inv.coherent

/-- A job that is stopped while no call is under way was returned before. -/
private theorem returned_of_stopped {manager : BackupManager} {uuid jobUuid : String}
    (recorded : Recorded manager) (idle : manager.starting = none)
    (found : (manager.stopBackup uuid).replies[manager.replies.length]? =
      some (.stopped jobUuid)) : uuid ∈ returnedUuids manager.replies := by
  unfold BackupManager.stopBackup at found
  split_ifs at found with counted
  · obtain ⟨e, member, named⟩ := List.any_eq_true.mp counted
    obtain rfl := beq_iff_eq.mp named
    rcases recorded.entries e member with ⟨job, here, same⟩ | ⟨call, begun, _⟩
    · exact same ▸ recorded.jobs job here
    · rw [idle] at begun
      cases begun
  · simp [BackupManager.reply] at found

/-- The handler calls the manager. -/
private theorem told_called {request : Request} {m : ManagerEvent} (single : SingleCaller d)
    (sound : SoundService d.service) (inv : Told d) (here : d.pc = .handle request)
    (calls : Calls request m) (moved : d.service.step (.manager m) = some t.service)
    (pc : t.pc = .called request d.service.manager.replies.length)
    (answers : t.answers = d.answers) : Told t := by
  have outside : ∀ request calls, d.pc ≠ .called request calls := by simp [here]
  have first : d.service.manager.step m = some t.service.manager := manager_moved moved
  have replies := (callsMove_step first).replies
  have now : taken t = d.service.manager.replies.length := by simp only [taken, pc]
  have older := take_inside replies (le_refl d.service.manager.replies.length)
  refine ⟨?_, ?_, fun uuid calls' here' => ?_, fun request' calls' here' => ?_, ?_⟩
  · rw [answers, now, older, ← taken_of_not_called outside]
    exact inv.started
  · rw [answers]
    exact shown_moves sound moved inv.shown
  · obtain ⟨rfl, rfl⟩ := LoopPc.called.inj (pc.symm.trans here')
    cases calls with
    | stopBackup =>
        obtain same : d.service.manager.stopBackup uuid = t.service.manager :=
          Option.some.inj first
        have idle := (idle_of_outside single outside).2
        rw [older, List.take_length, ← same]
        have longer : d.service.manager.replies.length <
            (d.service.manager.stopBackup uuid).replies.length := by
          unfold BackupManager.stopBackup
          split_ifs <;> simp [BackupManager.reply]
        refine ⟨_, List.getElem?_eq_getElem longer, fun jobUuid is => ?_⟩
        exact returned_of_stopped sound.recorded idle
          ((List.getElem?_eq_getElem longer).trans (congrArg some is))
  · obtain ⟨rfl, rfl⟩ := LoopPc.called.inj (pc.symm.trans here')
    exact ⟨m, calls⟩
  · rw [answers]
    exact inv.coherent

/-- An answer about the status of a job. -/
private theorem follows_status (sound : SoundService d.service) (inv : Told d) (jobUuid : String) :
    Follows d.answers
      ⟨.backupStatus jobUuid, statusReply jobUuid (d.service.getReply jobUuid)⟩ := by
  refine ⟨fun uuid starts => ?_, fun uuid same => ?_, fun uuid asks member => ?_,
    fun uuid old member asks => ?_⟩
  · cases found : d.service.getReply jobUuid <;> simp [found, statusReply] at starts
  · cases same
  · obtain rfl := Request.backupStatus.inj asks
    have returned : jobUuid ∈ returnedUuids (d.service.manager.replies.take (taken d)) := by
      rw [← inv.started, List.mem_reverse]
      exact member
    have started := List.mem_of_mem_take (mem_returnedUuids.mp returned)
    obtain ⟨status, shown, _⟩ := status_of_started sound.consistent started
    exact ⟨status, by simp only [JobService.getReply, shown, statusReply]⟩
  · obtain rfl := Request.backupStatus.inj asks
    obtain ⟨now, shown, before⟩ := inv.shown jobUuid old member
    exact ⟨now, by simp only [JobService.getReply, shown, statusReply], before⟩

/-- An answer that the manager has given. -/
private theorem follows_returned {request : Request} {calls : ℕ} {answer : ManagerReply}
    (sound : SoundService d.service) (inv : Told d) (here : d.pc = .called request calls)
    (found : d.service.manager.replies[calls]? = some answer) :
    Follows d.answers ⟨request, replyOf answer⟩ := by
  have now : taken d = calls := by simp only [taken, here]
  have older : ∀ uuid, uuid ∈ startedUuids d.answers ↔
      uuid ∈ returnedUuids (d.service.manager.replies.take calls) := by
    intro uuid
    rw [← now, ← inv.started, List.mem_reverse]
  obtain ⟨m, kind⟩ := inv.calls request calls here
  refine ⟨fun uuid starts => ?_, fun uuid same => ?_, fun uuid asks => ?_, fun uuid _ _ asks => ?_⟩
  · rw [older]
    obtain ⟨inside, value⟩ := List.getElem?_eq_some_iff.mp found
    have started : answer = .started uuid := by
      cases answer with
      | started backupUuid => exact congrArg _ (Reply.startBackup.inj starts)
      | stopped jobUuid => cases starts
      | threw what => cases starts
    -- The replies are the earlier ones, this one and the later ones, and no UUID is in two.
    have once := sound.recorded.once
    rw [← List.take_append_drop calls d.service.manager.replies, List.drop_eq_getElem_cons inside,
      value, started, returnedUuids_append] at once
    intro before
    exact (List.nodup_append.mp once).2.2 uuid before uuid
      (mem_returnedUuids.mpr List.mem_cons_self) rfl
  · obtain ⟨rfl, stopped⟩ := Answer.mk.inj same
    rw [older]
    obtain ⟨answer', found', stops⟩ := inv.stops uuid calls here
    obtain rfl := Option.some.inj (found.symm.trans found')
    cases answer with
    | started backupUuid => cases stopped
    | stopped jobUuid => exact stops jobUuid rfl
    | threw what => cases stopped
  · subst asks
    cases kind
  · subst asks
    cases kind

private theorem follows_replies {request : Request} {reply : Reply} (sound : SoundService d.service)
    (inv : Told d) (replies : Replies d request reply) : Follows d.answers ⟨request, reply⟩ := by
  cases replies with
  | status jobUuid here => exact follows_status sound inv jobUuid
  | other here => exact ⟨by simp, by simp, by simp, by simp⟩
  | returned request calls answer here found => exact follows_returned sound inv here found

/-- The UUIDs given out after an answer are those that the manager has returned. -/
private theorem started_replies {request : Request} {reply : Reply} (single : SingleCaller d)
    (inv : Told d) (replies : Replies d request reply) :
    (startedUuids (⟨request, reply⟩ :: d.answers)).reverse =
      returnedUuids d.service.manager.replies := by
  have silent (uuids : Answer.startedUuid ⟨request, reply⟩ = none)
      (outside : ∀ request calls, d.pc ≠ .called request calls) :
      (startedUuids (⟨request, reply⟩ :: d.answers)).reverse =
        returnedUuids d.service.manager.replies := by
    have before := inv.started
    rw [taken_of_not_called outside, List.take_length] at before
    rw [startedUuids, List.filterMap_cons_none uuids]
    exact before
  cases replies with
  | status jobUuid here =>
      refine silent ?_ (by simp [here])
      cases found : d.service.getReply jobUuid <;> rfl
  | other here => exact silent rfl (by simp [here])
  | returned request calls answer here found =>
      have now : taken d = calls := by simp only [taken, here]
      have before := inv.started
      obtain ⟨inside, value⟩ := List.getElem?_eq_some_iff.mp found
      obtain ⟨count, _⟩ := single.called request calls here
      have most : d.service.manager.replies.length ≤ callsMade d.service.manager :=
        Nat.le_add_left _ _
      have whole : d.service.manager.replies =
          d.service.manager.replies.take calls ++ [answer] := by
        rw [← value, ← List.take_succ_eq_append_getElem inside, List.take_of_length_le (by omega)]
      have same : Answer.startedUuid ⟨request, replyOf answer⟩ = startedUuid answer := by
        cases answer <;> rfl
      rw [now] at before
      rw [whole, returnedUuids_append, ← before]
      cases uuid : startedUuid answer with
      | none =>
          rw [startedUuids, List.filterMap_cons_none (same.trans uuid)]
          simp [returnedUuids, startedUuids, uuid]
      | some uuid' =>
          rw [startedUuids, List.filterMap_cons_some (same.trans uuid)]
          simp [returnedUuids, startedUuids, uuid]

/-- The handler has an answer. -/
private theorem told_answered {request : Request} {reply : Reply} (single : SingleCaller d)
    (sound : SoundService d.service) (inv : Told d) (replies : Replies d request reply)
    (answers : t.answers = ⟨request, reply⟩ :: d.answers) (service : t.service = d.service)
    (pc : t.pc = .sendReply reply) : Told t := by
  have outside : ∀ request calls, t.pc ≠ .called request calls := by simp [pc]
  refine ⟨?_, fun uuid old member => ?_, fun uuid calls here => absurd here (outside _ _),
    fun request' calls here => absurd here (outside _ _), ?_⟩
  · rw [taken_of_not_called outside, List.take_length, answers, service]
    exact started_replies single inv replies
  · rw [answers] at member
    rw [service]
    rcases List.mem_cons.mp member with newest | older
    · obtain ⟨rfl, rfl⟩ := Answer.mk.inj newest
      generalize asked : Request.backupStatus uuid = request at replies
      generalize replied : Reply.backupStatus old = reply at replies
      cases replies with
      | status jobUuid here =>
          obtain rfl := Request.backupStatus.inj asked
          cases found : d.service.getReply uuid with
          | none => simp [found, statusReply] at replied
          | some status =>
              rw [found, statusReply] at replied
              exact ⟨old, by rw [Reply.backupStatus.inj replied]; exact found, precedes_refl old⟩
      | other here => cases asked
      | returned request calls answer here found =>
          obtain ⟨m, kind⟩ := inv.calls request calls here
          subst asked
          cases kind
    · exact inv.shown uuid old older
  · rw [answers]
    exact ⟨follows_replies sound inv replies, inv.coherent⟩

/-- The connection in hand has no answer before the handler gives one. -/
private theorem answers_answer {request : Request} {reply : Reply} (tended : Tended d)
    (replies : Replies d request reply) :
    (d.answer request reply).answers = ⟨request, reply⟩ :: d.answers := by
  have busy : d.pc.inHand = true ∧ ∀ reply, d.pc ≠ .sendReply reply := by
    cases replies with
    | status jobUuid here => simp [here, LoopPc.inHand]
    | other here => simp [here, LoopPc.inHand]
    | returned request calls answer here found => simp [here, LoopPc.inHand]
  obtain ⟨connection, older, listed, serves, _⟩ := newest_of_busy tended.tidy busy.1
  simp only [Dattod.answers, Dattod.answer, Dattod.changeNewest, listed, List.modifyHead_cons]
  rw [List.filterMap_cons_none (serves.unanswered busy.2)]
  rfl

/-- A change of the newest connection that leaves its answer. -/
private theorem answers_changeNewest {change : Connection → Connection}
    (keeps : ∀ connection, (change connection).answer = connection.answer) :
    (d.changeNewest change).answers = d.answers := by
  unfold Dattod.answers Dattod.changeNewest
  cases d.connections with
  | nil => rfl
  | cons connection older => simp only [List.modifyHead_cons, List.filterMap_cons, keeps]

private theorem told_step {e : DattodEvent} (tended : Tended d)
    (single : SingleCaller d) (single' : SingleCaller t) (sound : SoundService d.service)
    (inv : Told d) (taken : d.step protobuf e = some t) : Told t := by
  cases dattod_step_cases taken with
  | turned next log started turns same =>
      exact told_outside inv (fun request calls => (not_called_of_turns turns _ _).1)
        (fun request calls => by rw [same]; exact (not_called_of_turns turns _ _).2)
        (by rw [same]; rfl) (by rw [same])
  | accepted here same =>
      exact told_outside inv (by simp [here]) (by simp [same]) (by rw [same]; rfl) (by rw [same])
  | parsed request here same =>
      exact told_outside inv (by simp [here]) (by simp [same]) (by rw [same]; rfl) (by rw [same])
  | called request m here calls moved same =>
      exact told_called single sound inv here calls moved (by rw [same]) (by rw [same]; rfl)
  | answered request reply replies same =>
      refine told_answered single sound inv replies ?_ (by rw [same]; rfl) (by rw [same]; rfl)
      rw [same]
      exact answers_answer tended replies
  | finished change log killed ends same =>
      refine told_outside inv ends.not_called (fun request calls => ?_) ?_ (by rw [same]; rfl)
      · rw [same]
        cases killed <;> simp
      · rw [same]
        exact answers_changeNewest ends.answer
  | serviced e inner moved same =>
      obtain ⟨made, replies⟩ := calls_of_inner inner moved
      exact told_beside single single' sound inv moved (by rw [same]) (by rw [same]; rfl) replies
        made
  | stopping ready same =>
      refine ⟨?_, ?_, ?_, ?_, ?_⟩ <;> rw [same]
      exacts [inv.started, inv.shown, inv.stops, inv.calls, inv.coherent]
  | destroying here moved same =>
      have move := callsMove_step (manager_moved moved)
      exact told_beside single single' sound inv moved (by rw [same]) (by rw [same]; rfl)
        move.replies move.made
  | cancelling moved same =>
      have move := callsMove_step (manager_moved moved)
      exact told_beside single single' sound inv moved (by rw [same]) (by rw [same]; rfl)
        move.replies move.made

/-- A step of the daemon is one of the service, or leaves the service alone. -/
theorem service_of_step {e : DattodEvent} (taken : d.step protobuf e = some t) :
    t.service = d.service ∨ ∃ e', d.service.step e' = some t.service := by
  cases dattod_step_cases taken with
  | turned next log started turns same => exact .inl (by rw [same])
  | accepted here same => exact .inl (by rw [same])
  | parsed request here same => exact .inl (by rw [same])
  | called request m here calls moved same => exact .inr ⟨_, moved⟩
  | answered request reply replies same => exact .inl (by rw [same]; rfl)
  | finished change log killed ends same => exact .inl (by rw [same]; rfl)
  | serviced e inner moved same => exact .inr ⟨_, moved⟩
  | stopping ready same => exact .inl (by rw [same])
  | destroying here moved same => exact .inr ⟨_, moved⟩
  | cancelling moved same => exact .inr ⟨_, moved⟩

private theorem soundService_new : SoundService .new := by
  refine ⟨registered_new, ?_, ?_, by simp [JobService.new]⟩
  · exact (@consistent_run .new [] rfl).2
  · constructor <;>
      simp [JobService.new, BackupManager.new, returnedUuids, InProgressMap.empty]

theorem soundService_run {events : List DattodEvent}
    (reached : run (Dattod.step protobuf) .new events = some d) : SoundService d.service := by
  refine invariant (I := fun d : Dattod => SoundService d.service) ?_ soundService_new reached
  intro s e u sound taken
  rcases service_of_step taken with same | ⟨e', moved⟩
  · rw [same]
    exact sound
  · exact soundService_step sound moved

private theorem told_run {events : List DattodEvent}
    (reached : run (Dattod.step protobuf) .new events = some d) : Told d := by
  have start : Told .new :=
    ⟨rfl, by simp [Dattod.answers, Dattod.new], by simp [Dattod.new], by simp [Dattod.new], trivial⟩
  have all : (∃ events, run (Dattod.step protobuf) .new events = some d) ∧ Told d := by
    refine invariant (I := fun d : Dattod =>
      (∃ events, run (Dattod.step protobuf) .new events = some d) ∧ Told d) ?_
      ⟨⟨[], rfl⟩, start⟩ reached
    rintro s e u ⟨⟨past, before⟩, told⟩ taken
    have next : run (Dattod.step protobuf) .new (past ++ [e]) = some u :=
      run_append.mpr ⟨s, before, run_cons.mpr ⟨u, taken, rfl⟩⟩
    exact ⟨⟨_, next⟩, told_step (tended_run before) (singleCaller_run before)
      (singleCaller_run next) (soundService_run before) told taken⟩
  exact all.2

/-- A UUID that a client was told of is one that the manager has returned. -/
theorem started_of_answer {events : List DattodEvent} {uuid : String}
    (reached : run (Dattod.step protobuf) .new events = some d)
    (member : uuid ∈ startedUuids d.answers) : .started uuid ∈ d.service.manager.replies := by
  rw [← List.mem_reverse, (told_run reached).started, mem_returnedUuids] at member
  exact List.mem_of_mem_take member

/-- What clients are told is coherent: in every state of every run, each answer agrees with
those before it. A UUID is given out once; a stop succeeds only for a UUID that was given
out; a request for the status of such a UUID is answered with a status; and the statuses
that are given for a UUID, whoever asks, never go back. -/
theorem answers_coherent (protobuf : Protobuf) (events : List DattodEvent) (d : Dattod)
    (reached : run (Dattod.step protobuf) .new events = some d) : Coherent d.answers :=
  (told_run reached).coherent

end Clients

/-- Requests of one byte about one job. -/
def aboutOneJob : Protobuf where
  parseFromString
    | [1] => .startBackup ⟨[⟨"1b2c", "host", 1⟩], true⟩
    | [2] => .backupStatus "job-1"
    | [3] => .stopBackup "job-1"
    | _ => .other
  serialize _ := [0]

/-- A job is started, asked for, stopped, and asked for again when it has ended. -/
def stoppedByClient : List DattodEvent :=
  served [1] [.service (.manager (.lock 0 "job-1")), .service (.manager .addToInProgressSet),
    .service (.manager (.createBackup twoDisks)), .returned] (.wrote 4) ++
  served [2] [] (.wrote 4) ++ [.service (.backupInProgress "job-1")] ++
  served [3] [.returned] (.wrote 4) ++
  [.service (.manager (.finishSynchronizer "job-1" 0)), .service (.getFatalErrors "job-1"),
    .service (.isCancelled "job-1"), .service (.report "job-1")] ++ served [2] [] (.wrote 4)

theorem answers_coherent_stoppedByClient :
    ∃ d, run (Dattod.step aboutOneJob) .new stoppedByClient = some d ∧
      d.answers.map (·.reply) =
        [.backupStatus .cancelled, .stopBackup, .backupStatus .notStarted, .startBackup "job-1"] ∧
      Coherent d.answers := by
  have evaluated : (run (Dattod.step aboutOneJob) .new stoppedByClient).any fun d =>
      decide (d.answers.map (·.reply) = [.backupStatus .cancelled, .stopBackup,
        .backupStatus .notStarted, .startBackup "job-1"]) := by
    decide +kernel
  obtain ⟨d, reached, test⟩ := (Option.any_eq_true _ _).mp evaluated
  exact ⟨d, reached, of_decide_eq_true test,
    answers_coherent aboutOneJob stoppedByClient d reached⟩

end LinuxAgent.RequestListener
