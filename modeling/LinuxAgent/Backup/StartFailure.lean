/- module: LinuxAgent/Backup/StartFailure
   source: backup/backup_manager.cc (StartBackup), backup_status_tracker/backup_status_tracker.cc
   digest: When StartBackup throws, and what a call that throws leaves behind. -/

import LinuxAgent.Backup.Exclusivity

/-!
A call of `StartBackup` is made of steps of the manager, and between them come the steps
of other threads. What a failed call leaves is compared with what these steps of the
others alone make of the maps that the call found when it got `start_backup_mutex_`.
-/

set_option autoImplicit false
set_option relaxedAutoImplicit false

namespace LinuxAgent.Backup

open LinuxAgent.Lib.Run LinuxAgent.UnsyncedSectors

/-- A step that is not one of the call that holds the mutex. -/
def ManagerEvent.ofOthers : ManagerEvent → Bool
  | .lock _ _ | .addToInProgressSet | .createBackup _ | .eraseFailed => false
  | _ => true

/-- What a step of the others does to the map. -/
def InProgressMap.act (map : InProgressMap) : ManagerEvent → InProgressMap
  | .stopBackup jobUuid | .cancel jobUuid => map.cancel (· == jobUuid)
  | .cancelAll => map.cancel fun _ => true
  | .eraseFinished backupUuid => map.erase backupUuid
  | _ => map

/-- What a step of the others does to the builder. -/
def BackupBuilder.act (builder : BackupBuilder) : ManagerEvent → BackupBuilder
  | .device event => (builder.step event).getD builder
  | _ => builder

/-- The steps of others that come between those of one call, the UUID it makes and what
`CreateBackup` finds. Before the mutex is free, other calls may run to their end. -/
structure StartSurroundings where
  beforeLock : List ManagerEvent
  index : ℕ
  uuid : String
  beforeAdd : List ManagerEvent
  beforeCreate : List ManagerEvent
  world : ℕ → Surroundings
  beforeErase : List ManagerEvent
  others : ∀ e ∈ beforeAdd ++ beforeCreate ++ beforeErase, e.ofOthers = true

/-- The manager when the call got the mutex, the steps of others from then on, and the
manager when the call ended. -/
structure StartResult where
  before : BackupManager
  passed : List ManagerEvent
  after : BackupManager

namespace BackupManager

/-- The catch block around `CreateBackup`. -/
def catchFailed (created before : BackupManager) (around : StartSurroundings) :
    Option StartResult := do
  let catching ← run step created around.beforeErase
  let erased ← catching.step .eraseFailed
  return ⟨before, around.beforeAdd ++ around.beforeCreate ++ around.beforeErase, erased⟩

/-- `StartBackup` from the call of `CreateBackup` on. -/
def buildAndStart (added before : BackupManager) (around : StartSurroundings) :
    Option StartResult := do
  let building ← run step added around.beforeCreate
  let created ← building.step (.createBackup around.world)
  if created.starting = none then
    return ⟨before, around.beforeAdd ++ around.beforeCreate, created⟩
  else created.catchFailed before around

/-- `StartBackup` from the call of `AddToInProgressSet` on. -/
def enterAndBuild (locked before : BackupManager) (around : StartSurroundings) :
    Option StartResult := do
  let ready ← run step locked around.beforeAdd
  let added ← ready.step .addToInProgressSet
  if added.starting = none then return ⟨before, around.beforeAdd, added⟩
  else added.buildAndStart before around

/-- `StartBackup` from the mutex on. -/
def startLocked (before : BackupManager) (request : StartBackupRequest)
    (around : StartSurroundings) : Option StartResult := do
  let locked ← before.step (.lock around.index around.uuid)
  if before.waiting[around.index]? ≠ some request then none
  else if locked.starting = none then return ⟨before, [], locked⟩
  else locked.enterAndBuild before around

/-- `StartBackup`; each part of it ends where no call is under way any more. -/
def startBackup (manager : BackupManager) (request : StartBackupRequest)
    (around : StartSurroundings) : Option StartResult := do
  let entered ← manager.step (.startBackup request)
  if manager.destructorCalled then return ⟨manager, [], entered⟩
  else
    let before ← run step entered around.beforeLock
    before.startLocked request around

end BackupManager

/-- A device of the request is in progress when the call asks. -/
def StartSurroundings.Conflicts (around : StartSurroundings) (before : BackupManager)
    (request : StartBackupRequest) : Prop :=
  (around.beforeAdd.foldl InProgressMap.act before.inProgressMap).Conflicts
    request.blockDeviceUuids.toFinset

/-- `CreateBackup` throws, on the builder as the others have left it. -/
def StartSurroundings.CreateThrows (around : StartSurroundings) (before : BackupManager)
    (request : StartBackupRequest) : Prop :=
  ∃ what builder, ((around.beforeAdd ++ around.beforeCreate).foldl BackupBuilder.act
    before.backupBuilder).createBackup request.isFull around.world request.vectors =
      (.error what, builder)

namespace StartResult

variable (result : StartResult)

/-- The call ends with an exception. -/
def Threw : Prop := ∃ what, result.after.replies.getLast? = some (.threw what)

/-- The map of jobs, with the state of their coordinators, is as the others alone have
made it. -/
def MapRestored : Prop :=
  result.after.inProgressMap = result.passed.foldl InProgressMap.act result.before.inProgressMap

/-- The call throws exactly for one of the four reasons, and then it leaves no trace. -/
structure Meets (manager : BackupManager) (request : StartBackupRequest)
    (around : StartSurroundings) : Prop where
  throws : result.Threw ↔ manager.destructorCalled = true ∨ request.vectors = [] ∨
    around.Conflicts result.before request ∨ around.CreateThrows result.before request
  noTrace : result.Threw → result.MapRestored ∧ result.after.replyMap = result.before.replyMap

end StartResult

/-! ### Steps of the others -/

section Others

variable {map : InProgressMap} {manager after : BackupManager} {event : ManagerEvent}

private theorem map_ext {left right : InProgressMap} (same : left.entries = right.entries) :
    left = right := by
  cases left
  cases right
  cases same
  rfl

/-- The call that is under way and the tracker are left alone, and the map and the builder
change as the step says. -/
private structure LeavesCall (manager : BackupManager) (events : List ManagerEvent)
    (after : BackupManager) : Prop where
  starting : after.starting = manager.starting
  replyMap : after.replyMap = manager.replyMap
  map : after.inProgressMap = events.foldl InProgressMap.act manager.inProgressMap
  builder : after.backupBuilder = events.foldl BackupBuilder.act manager.backupBuilder

/-- To cancel a job that is not there changes nothing. -/
private theorem cancel_of_not_count {jobUuid : String} (absent : map.count jobUuid = false) :
    map.cancel (· == jobUuid) = map := by
  apply map_ext
  have unchanged : ∀ e ∈ map.entries,
      (e.1, { e.2 with cancelled := e.2.cancelled || (e.1 == jobUuid) }) = e := by
    intro e member
    have other : (e.1 == jobUuid) = false :=
      Bool.eq_false_iff.mpr (List.any_eq_false.mp absent e member)
    rw [other, Bool.or_false]
  exact (List.map_congr_left unchanged).trans (List.map_id' map.entries)

private theorem leavesCall_step (others : event.ofOthers = true)
    (taken : manager.step event = some after) : LeavesCall manager [event] after := by
  cases event with
  | startBackup request =>
    simp only [BackupManager.step] at taken
    split_ifs at taken
    · obtain rfl := Option.some.inj taken
      exact ⟨rfl, rfl, rfl, rfl⟩
    · obtain rfl := Option.some.inj taken
      exact ⟨rfl, rfl, rfl, rfl⟩
  | stopBackup jobUuid =>
    obtain rfl := Option.some.inj taken
    unfold BackupManager.stopBackup
    split_ifs with counted
    · exact ⟨rfl, rfl, rfl, rfl⟩
    · exact ⟨rfl, rfl, (cancel_of_not_count (Bool.eq_false_iff.mpr counted)).symm, rfl⟩
  | finishSynchronizer | callDestructor =>
    obtain rfl := Option.some.inj taken
    exact ⟨rfl, rfl, rfl, rfl⟩
  | doBackupReturns | eraseFinished | cancel | cancelAll =>
    simp only [BackupManager.step] at taken
    split_ifs at taken
    obtain rfl := Option.some.inj taken
    exact ⟨rfl, rfl, rfl, rfl⟩
  | device event =>
    simp only [BackupManager.step] at taken
    split at taken
    · cases taken
    · obtain ⟨builder, moved, rfl⟩ := Option.map_eq_some_iff.mp taken
      refine ⟨rfl, rfl, rfl, ?_⟩
      simp [BackupBuilder.act, moved]
  | lock | addToInProgressSet | createBackup | eraseFailed => cases others

private theorem leavesCall_run {events : List ManagerEvent}
    (others : ∀ e ∈ events, e.ofOthers = true)
    (reached : run BackupManager.step manager events = some after) :
    LeavesCall manager events after := by
  induction events generalizing manager with
  | nil =>
    obtain rfl := Option.some.inj reached
    exact ⟨rfl, rfl, rfl, rfl⟩
  | cons e events ih =>
    obtain ⟨middle, taken, rest⟩ := run_cons.mp reached
    have first := leavesCall_step (others e List.mem_cons_self) taken
    have later := ih (fun f member => others f (List.mem_cons_of_mem e member)) rest
    exact
      { starting := later.starting.trans first.starting
        replyMap := later.replyMap.trans first.replyMap
        map := by
          rw [later.map, first.map]
          rfl
        builder := by
          rw [later.builder, first.builder]
          rfl }

/-- What the others do to the map does not depend on one job's being in it. -/
private theorem erase_act (uuid : String) :
    (map.act event).erase uuid = (map.erase uuid).act event := by
  have cancels : ∀ chosen, (map.cancel chosen).erase uuid = (map.erase uuid).cancel chosen := by
    intro chosen
    apply map_ext
    simp only [InProgressMap.erase, InProgressMap.cancel, List.filter_map]
    rfl
  cases event with
  | stopBackup | cancel | cancelAll => exact cancels _
  | eraseFinished other =>
    apply map_ext
    simp only [InProgressMap.act, InProgressMap.erase, List.filter_filter]
    exact List.filter_congr fun e _ => Bool.and_comm _ _
  | _ => rfl

private theorem erase_foldl_act (uuid : String) (events : List ManagerEvent) :
    (events.foldl InProgressMap.act map).erase uuid =
      events.foldl InProgressMap.act (map.erase uuid) := by
  induction events generalizing map with
  | nil => rfl
  | cons e events ih => rw [List.foldl_cons, List.foldl_cons, ih, erase_act]

end Others

/-! ### Steps of the call -/

section Call

variable {manager after : BackupManager} {event : ManagerEvent} {request : StartBackupRequest}
  {uuid : String}

/-- The call that gets the mutex and finds no vector ends; every other one is under way
with a UUID that the tracker did not have. -/
private theorem lock_cases {index : ℕ} (asked : manager.waiting[index]? = some request)
    (taken : manager.step (.lock index uuid) = some after) :
    after.inProgressMap = manager.inProgressMap ∧ after.backupBuilder = manager.backupBuilder ∧
      (request.vectors = [] ∧ after.starting = none ∧ after.replyMap = manager.replyMap ∧
          after.replies.getLast? = some (.threw "No devices given to backup") ∨
        request.vectors ≠ [] ∧ after.starting = some ⟨request, uuid, .addToInProgressSet⟩ ∧
          uuid ∉ manager.replyMap ∧ after.replyMap = insert uuid manager.replyMap) := by
  simp only [BackupManager.step, BackupManager.lock, asked] at taken
  split at taken
  · rename_i found idle same
    obtain rfl := Option.some.inj same
    split_ifs at taken with empty used
    · obtain rfl := Option.some.inj taken
      refine ⟨rfl, rfl, .inl ⟨List.eq_nil_of_length_eq_zero empty, idle, rfl, ?_⟩⟩
      simp [BackupManager.reply]
    · obtain rfl := Option.some.inj taken
      refine ⟨rfl, rfl, .inr ⟨?_, rfl, used, rfl⟩⟩
      rintro none_given
      exact empty (by rw [none_given]; rfl)
  · cases taken

private theorem add_cases (begun : manager.starting = some ⟨request, uuid, .addToInProgressSet⟩)
    (taken : manager.step .addToInProgressSet = some after) :
    after.replyMap = manager.replyMap ∧ after.backupBuilder = manager.backupBuilder ∧
      (manager.inProgressMap.Conflicts request.blockDeviceUuids.toFinset ∧
          after.starting = none ∧ after.inProgressMap = manager.inProgressMap ∧
          after.replies.getLast? = some (.threw "Device is already being backed up") ∨
        ¬ manager.inProgressMap.Conflicts request.blockDeviceUuids.toFinset ∧
          after.starting = some ⟨request, uuid, .createBackup⟩ ∧
          after.inProgressMap.erase uuid = manager.inProgressMap.erase uuid ∧
          ∀ e ∈ after.inProgressMap.entries, e.1 = uuid ∨ e ∈ manager.inProgressMap.entries) := by
  simp only [BackupManager.step, begun, BackupManager.addToInProgressSet,
    InProgressMap.addToInProgressSet] at taken
  split_ifs at taken with conflict
  · obtain rfl := Option.some.inj taken
    refine ⟨rfl, rfl, .inl ⟨conflict, rfl, rfl, ?_⟩⟩
    simp [BackupManager.reply]
  · obtain rfl := Option.some.inj taken
    refine ⟨rfl, rfl, .inr ⟨conflict, rfl, ?_, ?_⟩⟩
    · apply map_ext
      simp [InProgressMap.erase, List.filter_filter]
    · intro e member
      rcases List.mem_cons.mp member with rfl | earlier
      · exact .inl rfl
      · exact .inr (List.mem_filter.mp earlier).1

private theorem create_cases {world : ℕ → Surroundings}
    (begun : manager.starting = some ⟨request, uuid, .createBackup⟩)
    (taken : manager.step (.createBackup world) = some after) :
    after.replyMap = manager.replyMap ∧ after.inProgressMap = manager.inProgressMap ∧
      ((∃ what builder, manager.backupBuilder.createBackup request.isFull world request.vectors =
            (.error what, builder) ∧
          after.starting = some ⟨request, uuid, .catchBlock what⟩) ∨
        (∃ synchronizers builder, manager.backupBuilder.createBackup request.isFull world
            request.vectors = (.ok synchronizers, builder)) ∧
          after.starting = none ∧ after.replies.getLast? = some (.started uuid)) := by
  simp only [BackupManager.step, begun, BackupManager.createBackup] at taken
  split at taken
  · rename_i what builder failed
    obtain rfl := Option.some.inj taken
    exact ⟨rfl, rfl, .inl ⟨what, builder, failed, rfl⟩⟩
  · rename_i synchronizers builder made
    obtain rfl := Option.some.inj taken
    refine ⟨rfl, rfl, .inr ⟨⟨synchronizers, builder, made⟩, rfl, ?_⟩⟩
    simp [BackupManager.reply]

private theorem erase_cases {what : String}
    (begun : manager.starting = some ⟨request, uuid, .catchBlock what⟩)
    (taken : manager.step .eraseFailed = some after) :
    after.replyMap = manager.replyMap ∧
      after.inProgressMap = manager.inProgressMap.erase uuid ∧
      after.replies.getLast? = some (.threw what) := by
  simp only [BackupManager.step, begun, BackupManager.eraseFailed] at taken
  obtain rfl := Option.some.inj taken
  refine ⟨rfl, rfl, ?_⟩
  simp [BackupManager.reply]

/-- The tracker has a reply for every job of the map. -/
private def EntriesKnown (manager : BackupManager) : Prop :=
  ∀ e ∈ manager.inProgressMap.entries, e.1 ∈ manager.replyMap

private theorem mem_act {map : InProgressMap} {e : String × InProgress}
    (member : e ∈ (map.act event).entries) : ∃ f ∈ map.entries, f.1 = e.1 := by
  have cancelled : ∀ chosen, e ∈ (map.cancel chosen).entries → ∃ f ∈ map.entries, f.1 = e.1 := by
    intro chosen inside
    obtain ⟨f, earlier, rfl⟩ := List.mem_map.mp inside
    exact ⟨f, earlier, rfl⟩
  cases event with
  | stopBackup | cancel | cancelAll => exact cancelled _ member
  | eraseFinished other => exact ⟨e, (List.mem_filter.mp member).1, rfl⟩
  | _ => exact ⟨e, member, rfl⟩

private theorem known_others (known : EntriesKnown manager) (others : event.ofOthers = true)
    (taken : manager.step event = some after) : EntriesKnown after := by
  have frame := leavesCall_step others taken
  intro e member
  rw [frame.map] at member
  obtain ⟨f, earlier, same⟩ := mem_act member
  rw [frame.replyMap, ← same]
  exact known f earlier

private theorem known_step (registered : Registered manager) (known : EntriesKnown manager)
    (taken : manager.step event = some after) : EntriesKnown after := by
  cases event with
  | lock index uuid =>
    cases asked : manager.waiting[index]? with
    | none => simp [BackupManager.step, BackupManager.lock, asked] at taken
    | some request =>
      obtain ⟨map, -, ended | begun⟩ := lock_cases asked taken
      · intro e member
        rw [ended.2.2.1]
        exact known e (map ▸ member)
      · intro e member
        rw [begun.2.2.2]
        exact Finset.mem_insert_of_mem (known e (map ▸ member))
  | addToInProgressSet =>
    rcases begun : manager.starting with _ | ⟨request, uuid, _ | _ | what⟩
    · simp [BackupManager.step, begun] at taken
    · obtain ⟨replyMap, -, refused | added⟩ := add_cases begun taken
      · intro e member
        rw [replyMap]
        exact known e (refused.2.2.1 ▸ member)
      · intro e member
        rw [replyMap]
        rcases added.2.2.2 e member with rfl | earlier
        · exact registered.startKnown _ begun
        · exact known e earlier
    · simp [BackupManager.step, begun] at taken
    · simp [BackupManager.step, begun] at taken
  | createBackup world =>
    rcases begun : manager.starting with _ | ⟨request, uuid, _ | _ | what⟩
    · simp [BackupManager.step, begun] at taken
    · simp [BackupManager.step, begun] at taken
    · obtain ⟨replyMap, map, -⟩ := create_cases begun taken
      intro e member
      rw [replyMap]
      exact known e (map ▸ member)
    · simp [BackupManager.step, begun] at taken
  | eraseFailed =>
    rcases begun : manager.starting with _ | ⟨request, uuid, _ | _ | what⟩
    · simp [BackupManager.step, begun] at taken
    · simp [BackupManager.step, begun] at taken
    · simp [BackupManager.step, begun] at taken
    · obtain ⟨replyMap, map, -⟩ := erase_cases begun taken
      intro e member
      rw [map] at member
      rw [replyMap]
      exact known e (List.mem_filter.mp member).1
  | _ => exact known_others known rfl taken

private theorem known_of_reached {events : List ManagerEvent}
    (reached : run BackupManager.step .new events = some manager) : EntriesKnown manager := by
  have both : Registered manager ∧ EntriesKnown manager := by
    refine invariant (I := fun m => Registered m ∧ EntriesKnown m) ?_ ?_ reached
    · rintro before e next ⟨registered, known⟩ taken
      exact ⟨registered_step registered taken, known_step registered known taken⟩
    · refine ⟨registered_new, ?_⟩
      intro e member
      cases member
  exact both.2

/-- A job that the tracker has no reply for is not in the map. -/
private theorem erase_unused (known : EntriesKnown manager) (unused : uuid ∉ manager.replyMap) :
    manager.inProgressMap.erase uuid = manager.inProgressMap := by
  apply map_ext
  refine List.filter_eq_self.mpr ?_
  intro e member
  simp only [ne_eq, decide_eq_true_eq]
  rintro rfl
  exact unused (known e member)

/-! ### The call as a whole -/

variable {around : StartSurroundings} {result : StartResult}

private theorem others_of (around : StartSurroundings) :
    (∀ e ∈ around.beforeAdd, e.ofOthers = true) ∧ (∀ e ∈ around.beforeCreate, e.ofOthers = true) ∧
      ∀ e ∈ around.beforeErase, e.ofOthers = true := by
  have others := around.others
  simp only [List.mem_append, or_imp, forall_and] at others
  exact ⟨others.1.1, others.1.2, others.2⟩

/-- The call is past the mutex and the others have taken the steps listed. -/
private structure Midway (before : BackupManager) (uuid : String) (events : List ManagerEvent)
    (manager : BackupManager) : Prop where
  unused : uuid ∉ before.replyMap
  replyMap : manager.replyMap = insert uuid before.replyMap
  map : manager.inProgressMap.erase uuid = events.foldl InProgressMap.act before.inProgressMap

private theorem midway_run {before : BackupManager} {events more : List ManagerEvent}
    (midway : Midway before uuid events manager) (others : ∀ e ∈ more, e.ofOthers = true)
    (reached : run BackupManager.step manager more = some after) :
    Midway before uuid (events ++ more) after ∧ after.starting = manager.starting := by
  have frame := leavesCall_run others reached
  refine ⟨⟨midway.unused, frame.replyMap.trans midway.replyMap, ?_⟩, frame.starting⟩
  rw [frame.map, erase_foldl_act, midway.map, List.foldl_append]

/-- The call ended with an exception after the tracker had got its UUID. -/
private structure Refused (before : BackupManager) (result : StartResult) : Prop where
  before : result.before = before
  threw : result.Threw
  map : result.MapRestored
  replyMap : result.after.replyMap ≠ result.before.replyMap

private theorem replyMap_ne {before : BackupManager} (unused : uuid ∉ before.replyMap)
    (inserted : manager.replyMap = insert uuid before.replyMap) :
    manager.replyMap ≠ before.replyMap := by
  intro same
  rw [← same, inserted] at unused
  exact unused (Finset.mem_insert_self uuid before.replyMap)

/-- The catch block takes the job out of the map and leaves the tracker as it is. -/
private theorem catchFailed_spec {before : BackupManager} {what : String}
    (midway : Midway before uuid (around.beforeAdd ++ around.beforeCreate) manager)
    (begun : manager.starting = some ⟨request, uuid, .catchBlock what⟩)
    (called : manager.catchFailed before around = some result) : Refused before result := by
  obtain ⟨catching, third, called⟩ := Option.bind_eq_some_iff.mp called
  obtain ⟨erased, wiped, called⟩ := Option.bind_eq_some_iff.mp called
  obtain rfl := Option.some.inj called
  obtain ⟨later, same⟩ := midway_run midway (others_of around).2.2 third
  obtain ⟨replyMap, map, last⟩ := erase_cases (same.trans begun) wiped
  exact
    { before := rfl
      threw := ⟨what, last⟩
      map := map.trans later.map
      replyMap := replyMap_ne later.unused (replyMap.trans later.replyMap) }

private theorem buildAndStart_spec {before : BackupManager}
    (midway : Midway before uuid around.beforeAdd manager)
    (builder : manager.backupBuilder =
      around.beforeAdd.foldl BackupBuilder.act before.backupBuilder)
    (begun : manager.starting = some ⟨request, uuid, .createBackup⟩)
    (called : manager.buildAndStart before around = some result) :
    around.CreateThrows before request ∧ Refused before result ∨
      ¬ around.CreateThrows before request ∧ result.before = before ∧ ¬ result.Threw := by
  obtain ⟨building, second, called⟩ := Option.bind_eq_some_iff.mp called
  obtain ⟨created, built, called⟩ := Option.bind_eq_some_iff.mp called
  obtain ⟨later, same⟩ := midway_run midway (others_of around).2.1 second
  have found : building.backupBuilder =
      (around.beforeAdd ++ around.beforeCreate).foldl BackupBuilder.act before.backupBuilder := by
    rw [(leavesCall_run (others_of around).2.1 second).builder, builder, List.foldl_append]
  obtain ⟨replyMap, map, failed | made⟩ := create_cases (same.trans begun) built
  · obtain ⟨what, left, failed, caught⟩ := failed
    rw [if_neg (by simp [caught])] at called
    rw [found] at failed
    have next : Midway before uuid (around.beforeAdd ++ around.beforeCreate) created :=
      ⟨later.unused, replyMap.trans later.replyMap, map ▸ later.map⟩
    exact .inl ⟨⟨what, left, failed⟩, catchFailed_spec next caught called⟩
  · obtain ⟨⟨synchronizers, left, made⟩, ended, last⟩ := made
    rw [if_pos ended] at called
    obtain rfl := Option.some.inj called
    rw [found] at made
    refine .inr ⟨?_, rfl, ?_⟩
    · rintro ⟨what, other, failed⟩
      cases congrArg Prod.fst (made.symm.trans failed)
    · rintro ⟨what, threw⟩
      cases last.symm.trans threw

private theorem enterAndBuild_spec {before : BackupManager} (known : EntriesKnown before)
    (unused : uuid ∉ before.replyMap) (replyMap : manager.replyMap = insert uuid before.replyMap)
    (map : manager.inProgressMap = before.inProgressMap)
    (builder : manager.backupBuilder = before.backupBuilder)
    (begun : manager.starting = some ⟨request, uuid, .addToInProgressSet⟩)
    (called : manager.enterAndBuild before around = some result) :
    (around.Conflicts before request ∨ around.CreateThrows before request) ∧
        Refused before result ∨
      ¬ (around.Conflicts before request ∨ around.CreateThrows before request) ∧
        result.before = before ∧ ¬ result.Threw := by
  obtain ⟨ready, first, called⟩ := Option.bind_eq_some_iff.mp called
  obtain ⟨added, tried, called⟩ := Option.bind_eq_some_iff.mp called
  have frame := leavesCall_run (others_of around).1 first
  have here : ready.inProgressMap =
      around.beforeAdd.foldl InProgressMap.act before.inProgressMap := by rw [frame.map, map]
  have inserted : ready.replyMap = insert uuid before.replyMap := frame.replyMap.trans replyMap
  obtain ⟨kept, same, refused | entered⟩ := add_cases (frame.starting.trans begun) tried
  · obtain ⟨conflict, ended, left, last⟩ := refused
    rw [if_pos ended] at called
    obtain rfl := Option.some.inj called
    rw [here] at conflict
    exact .inl ⟨.inl conflict,
      { before := rfl
        threw := ⟨_, last⟩
        map := left.trans here
        replyMap := replyMap_ne unused (kept.trans inserted) }⟩
  · obtain ⟨apart, entry, erased, -⟩ := entered
    rw [if_neg (by simp [entry])] at called
    rw [here] at apart
    have midway : Midway before uuid around.beforeAdd added := by
      refine ⟨unused, kept.trans inserted, ?_⟩
      rw [erased, here, erase_foldl_act, erase_unused known unused]
    have found : added.backupBuilder =
        around.beforeAdd.foldl BackupBuilder.act before.backupBuilder := by
      rw [same, frame.builder, builder]
    rcases buildAndStart_spec midway found entry called with ⟨throws, refused⟩ | ⟨made, started⟩
    · exact .inl ⟨.inr throws, refused⟩
    · exact .inr ⟨not_or.mpr ⟨apart, made⟩, started⟩

/-- What a call is like that has got the mutex. -/
private theorem startLocked_spec {before : BackupManager} (known : EntriesKnown before)
    (called : before.startLocked request around = some result) :
    result.before = before ∧
      (request.vectors = [] ∧ result.Threw ∧ result.MapRestored ∧
          result.after.replyMap = result.before.replyMap ∨
        request.vectors ≠ [] ∧
          ((around.Conflicts before request ∨ around.CreateThrows before request) ∧
              Refused before result ∨
            ¬ (around.Conflicts before request ∨ around.CreateThrows before request) ∧
              ¬ result.Threw)) := by
  obtain ⟨locked, got, called⟩ := Option.bind_eq_some_iff.mp called
  split_ifs at called with asked ended
  · have idle := ended
    obtain rfl := Option.some.inj called
    obtain ⟨map, builder, quits | begun⟩ := lock_cases (not_not.mp asked) got
    · exact ⟨rfl, .inl ⟨quits.1, ⟨_, quits.2.2.2⟩, map, quits.2.2.1⟩⟩
    · rw [begun.2.1] at idle
      cases idle
  · obtain ⟨map, builder, quits | begun⟩ := lock_cases (not_not.mp asked) got
    · exact absurd quits.2.1 ended
    · obtain ⟨given, starting, unused, replyMap⟩ := begun
      rcases enterAndBuild_spec known unused replyMap map builder starting called with
        ⟨reason, refused⟩ | ⟨none_applies, same, returned⟩
      · exact ⟨refused.before, .inr ⟨given, .inl ⟨reason, refused⟩⟩⟩
      · exact ⟨same, .inr ⟨given, .inr ⟨none_applies, returned⟩⟩⟩

/-- The call throws before it asks for an event handler, throws after that, or returns. -/
private theorem startBackup_cases {events : List ManagerEvent}
    (reached : run BackupManager.step .new events = some manager)
    (called : manager.startBackup request around = some result) :
    (manager.destructorCalled = true ∨ request.vectors = []) ∧ result.Threw ∧
        result.MapRestored ∧ result.after.replyMap = result.before.replyMap ∨
      ¬ (manager.destructorCalled = true ∨ request.vectors = []) ∧
        ((around.Conflicts result.before request ∨ around.CreateThrows result.before request) ∧
            Refused result.before result ∨
          ¬ (around.Conflicts result.before request ∨ around.CreateThrows result.before request) ∧
            ¬ result.Threw) := by
  obtain ⟨entered, taken, called⟩ := Option.bind_eq_some_iff.mp called
  split_ifs at called with down
  · simp only [BackupManager.step, if_pos down] at taken
    obtain rfl := Option.some.inj called
    obtain rfl := Option.some.inj taken
    refine .inl ⟨.inl down, ⟨"Unable to start backup, program is tearing down", ?_⟩, rfl, rfl⟩
    simp [BackupManager.reply]
  · obtain ⟨before, waited, called⟩ := Option.bind_eq_some_iff.mp called
    have earlier : run BackupManager.step .new (events ++ .startBackup request ::
        around.beforeLock) = some before :=
      run_append.mpr ⟨manager, reached, run_cons.mpr ⟨entered, taken, waited⟩⟩
    obtain ⟨rfl, quits | ⟨given, ends⟩⟩ := startLocked_spec (known_of_reached earlier) called
    · exact .inl ⟨.inr quits.1, quits.2⟩
    · exact .inr ⟨not_or.mpr ⟨down, given⟩, ends⟩

end Call

/-- In every reachable state and whatever the others do meanwhile, `StartBackup` throws
exactly for its four reasons and puts the map back. It leaves no trace at all exactly when
it is not refused after `CreateEventHandler`, whose reply nothing removes. -/
theorem startBackup_meets_iff {events : List ManagerEvent} {manager : BackupManager}
    (reached : run BackupManager.step .new events = some manager) (request : StartBackupRequest)
    (around : StartSurroundings) {result : StartResult}
    (called : manager.startBackup request around = some result) :
    ((result.Threw ↔ manager.destructorCalled = true ∨ request.vectors = [] ∨
        around.Conflicts result.before request ∨ around.CreateThrows result.before request) ∧
      (result.Threw → result.MapRestored)) ∧
    (result.Meets manager request around ↔
      (manager.destructorCalled = true ∨ request.vectors = [] ∨
        ¬ (around.Conflicts result.before request ∨
          around.CreateThrows result.before request))) := by
  rcases startBackup_cases reached called with
    ⟨early, threw, map, replyMap⟩ | ⟨late, ⟨reason, refused⟩ | ⟨no_reason, returned⟩⟩
  · have throws : result.Threw ↔ manager.destructorCalled = true ∨ request.vectors = [] ∨
        around.Conflicts result.before request ∨ around.CreateThrows result.before request :=
      iff_of_true threw (early.imp_right .inl)
    refine ⟨⟨throws, fun _ => map⟩, iff_of_true ⟨throws, fun _ => ⟨map, replyMap⟩⟩ ?_⟩
    exact early.imp_right .inl
  · have throws : result.Threw ↔ manager.destructorCalled = true ∨ request.vectors = [] ∨
        around.Conflicts result.before request ∨ around.CreateThrows result.before request :=
      iff_of_true refused.threw (.inr (.inr reason))
    refine ⟨⟨throws, fun _ => refused.map⟩, iff_of_false ?_ ?_⟩
    · intro meets
      exact refused.replyMap (meets.noTrace refused.threw).2
    · rw [← or_assoc]
      exact not_or.mpr ⟨late, not_not.mpr reason⟩
  · have throws : result.Threw ↔ manager.destructorCalled = true ∨ request.vectors = [] ∨
        around.Conflicts result.before request ∨ around.CreateThrows result.before request := by
      rw [← or_assoc]
      exact iff_of_false returned (not_or.mpr ⟨late, no_reason⟩)
    have nothing : result.Threw → result.MapRestored ∧
        result.after.replyMap = result.before.replyMap := fun threw => absurd threw returned
    exact ⟨⟨throws, fun threw => absurd threw returned⟩,
      iff_of_true ⟨throws, nothing⟩ (.inr (.inr no_reason))⟩

section Example

/-- Nobody else is there, and `CreateBackup` finds the given devices. -/
def alone (world : ℕ → Surroundings) : StartSurroundings where
  beforeLock := []
  index := 0
  uuid := "job-1"
  beforeAdd := []
  beforeCreate := []
  world := world
  beforeErase := []
  others := by simp

def oneDisk : StartBackupRequest := ⟨[⟨"1b2c", "host", 1⟩], true⟩

/-- The disk of the request does not exist. -/
def noDisk (_ : ℕ) : Surroundings where
  createMountableBlockDeviceFromUuid _ := .error "No device with that UUID"
  createRemoteBlockDevice _ port := .ok ⟨port.toUInt64, 4096⟩
  createDeviceTracer _ := none
  getInUseSectors _ := .ok []

/-- The first request of all is for a disk that does not exist: the exception leaves the
map empty and the reply of the job in the tracker. -/
theorem noDisk_leaves_reply : ∃ result,
    BackupManager.new.startBackup oneDisk (alone noDisk) = some result ∧ result.Threw ∧
      result.after.replyMap = {"job-1"} ∧ ¬ result.Meets .new oneDisk (alone noDisk) := by
  have evaluated : (BackupManager.new.startBackup oneDisk (alone noDisk)).any (fun result =>
      decide (result.after.replies.getLast? = some (.threw "No device with that UUID") ∧
        result.after.replyMap = {"job-1"} ∧ result.before.replyMap = ∅)) = true := by
    decide +kernel
  obtain ⟨result, called, test⟩ := (Option.any_eq_true _ _).mp evaluated
  obtain ⟨last, left, empty⟩ := of_decide_eq_true test
  refine ⟨result, called, ⟨_, last⟩, left, ?_⟩
  intro meets
  have same := (meets.noTrace ⟨_, last⟩).2
  rw [left, empty] at same
  exact absurd same (by decide)

/-- A request without vectors is refused and leaves nothing. -/
theorem startBackup_meets_noVectors : ∃ result,
    BackupManager.new.startBackup ⟨[], true⟩ (alone twoDisks) = some result ∧ result.Threw ∧
      result.Meets .new ⟨[], true⟩ (alone twoDisks) := by
  have evaluated : (BackupManager.new.startBackup ⟨[], true⟩ (alone twoDisks)).isSome = true := by
    decide +kernel
  obtain ⟨result, called⟩ := Option.isSome_iff_exists.mp evaluated
  have start : run BackupManager.step .new [] = some .new := rfl
  have all := startBackup_meets_iff start ⟨[], true⟩ (alone twoDisks) called
  exact ⟨result, called, all.1.1.mpr (.inr (.inl rfl)), all.2.mpr (.inr (.inl rfl))⟩

end Example

end LinuxAgent.Backup
