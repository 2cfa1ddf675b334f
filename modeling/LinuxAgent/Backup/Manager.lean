/- module: LinuxAgent/Backup/Manager
   source: backup/backup_manager.{h,cc}, backup_status_tracker/backup_status_tracker.cc
   digest: Starting, stopping and ending backup jobs, and what each step does to them. -/

import LinuxAgent.Backup.Builder
import Mathlib.Data.Finset.Basic

/-!
`StartBackup` holds `start_backup_mutex_` from its first line after the check of
`destructor_called_` to its end, so at most one call is past that point. The map
of jobs in progress has a mutex of its own, and stops and endings of other jobs
come between any two steps of the call. The devices of a job are entered into the
map as a set; the builder makes a synchronizer for each vector of the list.
-/

set_option autoImplicit false
set_option relaxedAutoImplicit false

namespace LinuxAgent.Backup

open LinuxAgent.Lib.Run LinuxAgent.UnsyncedSectors

structure StartBackupRequest where
  vectors : List Vector
  isFull : Bool
  deriving DecidableEq

def StartBackupRequest.blockDeviceUuids (request : StartBackupRequest) : List String :=
  request.vectors.map (·.blockDeviceUuid)

/-- The pair of a job in the map: its devices, and of its coordinator whether it has
been cancelled through the map. -/
structure InProgress where
  uuids : Finset String
  cancelled : Bool
  deriving DecidableEq

/-- `in_progress_map_`: no device belongs to two of its jobs. -/
structure InProgressMap where
  entries : List (String × InProgress)
  exclusive : entries.Pairwise fun e f => Disjoint e.2.uuids f.2.uuids

namespace InProgressMap

def empty : InProgressMap := ⟨[], .nil⟩

/-- A device of the set is in progress. -/
def Conflicts (map : InProgressMap) (toBackupUuids : Finset String) : Prop :=
  ∃ e ∈ map.entries, ¬ Disjoint toBackupUuids e.2.uuids

instance (map : InProgressMap) (toBackupUuids : Finset String) :
    Decidable (map.Conflicts toBackupUuids) :=
  inferInstanceAs (Decidable (∃ e ∈ map.entries, ¬ Disjoint toBackupUuids e.2.uuids))

def erase (map : InProgressMap) (backupUuid : String) : InProgressMap where
  entries := map.entries.filter (·.1 ≠ backupUuid)
  exclusive := map.exclusive.filter _

def addToInProgressSet (map : InProgressMap) (backupUuid : String)
    (request : StartBackupRequest) : Except String InProgressMap :=
  if conflict : map.Conflicts request.blockDeviceUuids.toFinset then
    .error "Device is already being backed up"
  else .ok {
    entries := (backupUuid, ⟨request.blockDeviceUuids.toFinset, false⟩) ::
      (map.erase backupUuid).entries
    exclusive := .cons
      (fun e member => by
        by_contra shared
        exact conflict ⟨e, (List.mem_filter.mp member).1, shared⟩)
      (map.erase backupUuid).exclusive }

/-- `Cancel` on the coordinators of the chosen jobs. -/
def cancel (map : InProgressMap) (chosen : String → Bool) : InProgressMap where
  entries := map.entries.map fun e => (e.1, { e.2 with cancelled := e.2.cancelled || chosen e.1 })
  exclusive := List.pairwise_map.mpr map.exclusive

def count (map : InProgressMap) (backupUuid : String) : Bool :=
  map.entries.any (·.1 == backupUuid)

end InProgressMap

/-- Where the call that holds `start_backup_mutex_` is. -/
inductive StartPc where
  | addToInProgressSet
  | createBackup
  | catchBlock (what : String)
  deriving DecidableEq

structure StartCall where
  request : StartBackupRequest
  backupUuid : String
  pc : StartPc
  deriving DecidableEq

/-- A synchronizer in the hands of a running `Backup`. -/
structure RunningSynchronizer where
  blockDeviceUuid : String
  finished : Bool
  deriving DecidableEq

/-- The detached thread of one job: in `DoBackup`, or past it and not yet erased. -/
structure Job where
  backupUuid : String
  synchronizers : List RunningSynchronizer
  returned : Bool
  deriving DecidableEq

/-- What a caller of `StartBackup` or `StopBackup` gets. -/
inductive ManagerReply where
  | started (backupUuid : String)
  | stopped (jobUuid : String)
  | threw (what : String)
  deriving DecidableEq

structure BackupManager where
  backupBuilder : BackupBuilder
  replyMap : Finset String
  inProgressMap : InProgressMap
  destructorCalled : Bool
  waiting : List StartBackupRequest
  starting : Option StartCall
  jobs : List Job
  replies : List ManagerReply

/-- The steps of the callers, of the threads of the jobs and of the destructor. `cancel` is one
pass of the loop of `CancelAll`, and `cancelAll` its return after the passes that are left. -/
inductive ManagerEvent where
  | startBackup (request : StartBackupRequest)
  | lock (index : ℕ) (uuid : String)
  | addToInProgressSet
  | createBackup (world : ℕ → Surroundings)
  | eraseFailed
  | stopBackup (jobUuid : String)
  | finishSynchronizer (backupUuid : String) (index : ℕ)
  | doBackupReturns (backupUuid : String)
  | eraseFinished (backupUuid : String)
  | callDestructor
  | cancel (jobUuid : String)
  | cancelAll
  | device (event : BuilderEvent)

namespace Job

def start (backupUuid : String) (synchronizers : List NewSynchronizer) : Job :=
  ⟨backupUuid, synchronizers.map fun synchronizer => ⟨synchronizer.blockDeviceUuid, false⟩, false⟩

def finish (job : Job) (index : ℕ) : Job :=
  { job with synchronizers := job.synchronizers.modify index fun synchronizer =>
      { synchronizer with finished := true } }

def blockDeviceUuids (job : Job) : List String := job.synchronizers.map (·.blockDeviceUuid)

/-- The sources of the synchronizers that have not finished. -/
def activeUuids (job : Job) : List String :=
  (job.synchronizers.filter (!·.finished)).map (·.blockDeviceUuid)

end Job

namespace BackupManager

def new : BackupManager := ⟨.new, ∅, .empty, false, [], none, [], []⟩

def reply (manager : BackupManager) (answer : ManagerReply) : BackupManager :=
  { manager with replies := manager.replies ++ [answer] }

def changeJob (manager : BackupManager) (backupUuid : String) (change : Job → Job) :
    BackupManager :=
  { manager with jobs := manager.jobs.map fun job =>
      if job.backupUuid = backupUuid then change job else job }

/-- No job had the UUID before. That `make_uuid` returns such UUIDs only is assumed in every
run: `uuid_generate_time` makes them of the time, the host and a counter. -/
def FreshUuid (manager : BackupManager) (uuid : String) : Prop := uuid ∉ manager.replyMap

instance (manager : BackupManager) (uuid : String) : Decidable (manager.FreshUuid uuid) :=
  inferInstanceAs (Decidable (uuid ∉ manager.replyMap))

/-- The call that gets the mutex counts its vectors and makes the UUID of its job. -/
def lock (manager : BackupManager) (index : ℕ) (uuid : String) : Option BackupManager :=
  match manager.starting, manager.waiting[index]? with
  | none, some request =>
      let locked := { manager with waiting := manager.waiting.eraseIdx index }
      if request.vectors.length = 0 then
        some (locked.reply (.threw "No devices given to backup"))
      else if manager.FreshUuid uuid then some { locked with
        replyMap := insert uuid manager.replyMap
        starting := some ⟨request, uuid, .addToInProgressSet⟩ }
      else none
  | _, _ => none

/-- The steps of the call that holds the mutex. -/
def addToInProgressSet (manager : BackupManager) (call : StartCall) : BackupManager :=
  match manager.inProgressMap.addToInProgressSet call.backupUuid call.request with
  | .error what => { manager with starting := none }.reply (.threw what)
  | .ok map =>
      { manager with inProgressMap := map, starting := some { call with pc := .createBackup } }

def createBackup (manager : BackupManager) (call : StartCall) (world : ℕ → Surroundings) :
    BackupManager :=
  match manager.backupBuilder.createBackup call.request.isFull world call.request.vectors with
  | (.error what, builder) =>
      { manager with
        backupBuilder := builder
        starting := some { call with pc := .catchBlock what } }
  | (.ok synchronizers, builder) =>
      { manager with
        backupBuilder := builder
        starting := none
        jobs := Job.start call.backupUuid synchronizers :: manager.jobs }.reply
          (.started call.backupUuid)

def eraseFailed (manager : BackupManager) (call : StartCall) (what : String) : BackupManager :=
  { manager with
    inProgressMap := manager.inProgressMap.erase call.backupUuid
    starting := none }.reply (.threw what)

def stopBackup (manager : BackupManager) (jobUuid : String) : BackupManager :=
  if manager.inProgressMap.count jobUuid then
    { manager with inProgressMap := manager.inProgressMap.cancel (· == jobUuid) }.reply
      (.stopped jobUuid)
  else manager.reply (.threw "Job not running")

def step (manager : BackupManager) : ManagerEvent → Option BackupManager
  | .startBackup request =>
      if manager.destructorCalled then
        some (manager.reply (.threw "Unable to start backup, program is tearing down"))
      else some { manager with waiting := manager.waiting ++ [request] }
  | .lock index uuid => manager.lock index uuid
  | .addToInProgressSet =>
      match manager.starting with
      | some ⟨request, uuid, .addToInProgressSet⟩ =>
          some (manager.addToInProgressSet ⟨request, uuid, .addToInProgressSet⟩)
      | _ => none
  | .createBackup world =>
      match manager.starting with
      | some ⟨request, uuid, .createBackup⟩ =>
          some (manager.createBackup ⟨request, uuid, .createBackup⟩ world)
      | _ => none
  | .eraseFailed =>
      match manager.starting with
      | some ⟨request, uuid, .catchBlock what⟩ =>
          some (manager.eraseFailed ⟨request, uuid, .catchBlock what⟩ what)
      | _ => none
  | .stopBackup jobUuid => some (manager.stopBackup jobUuid)
  | .finishSynchronizer backupUuid index =>
      some (manager.changeJob backupUuid (·.finish index))
  | .doBackupReturns backupUuid =>
      if manager.jobs.any fun job => job.backupUuid == backupUuid && job.activeUuids.isEmpty then
        some (manager.changeJob backupUuid fun job => { job with returned := true })
      else none
  | .eraseFinished backupUuid =>
      if manager.jobs.any fun job => job.backupUuid == backupUuid && job.returned then
        some { manager with
          inProgressMap := manager.inProgressMap.erase backupUuid
          jobs := manager.jobs.filter (·.backupUuid ≠ backupUuid) }
      else none
  | .callDestructor => some { manager with destructorCalled := true }
  | .cancel jobUuid =>
      if manager.destructorCalled then
        some { manager with inProgressMap := manager.inProgressMap.cancel (· == jobUuid) }
      else none
  | .cancelAll =>
      if manager.destructorCalled then
        some { manager with inProgressMap := manager.inProgressMap.cancel fun _ => true }
      else none
  | .device event =>
      match event with
      | .createDeviceSynchronizer _ _ _ => none
      | event =>
          (manager.backupBuilder.step event).map fun builder =>
            { manager with backupBuilder := builder }

end BackupManager

/-- The map has the devices under the job. -/
def InProgressMap.Reserves (map : InProgressMap) (uuid : String) (devices : List String) : Prop :=
  ∃ e ∈ map.entries, e.1 = uuid ∧ ∀ device ∈ devices, device ∈ e.2.uuids

/-- The jobs with the sources of their synchronizers. -/
def BackupManager.sources (manager : BackupManager) : List (String × List String) :=
  manager.jobs.map fun job => (job.backupUuid, job.blockDeviceUuids)

/-- No job begins or ends, and the call under way, if there is one left, is the same one
and comes no closer to its backup. -/
structure Quiet (manager after : BackupManager) : Prop where
  replyMap : after.replyMap = manager.replyMap
  starting : ∀ call, after.starting = some call → ∃ earlier, manager.starting = some earlier ∧
    earlier.backupUuid = call.backupUuid ∧ (call.pc = .createBackup → earlier = call)
  sources : after.sources = manager.sources
  reserves : ∀ uuid devices, manager.inProgressMap.Reserves uuid devices →
    after.inProgressMap.Reserves uuid devices
  builder : ∃ calls, run BackupBuilder.step manager.backupBuilder calls =
    some after.backupBuilder

/-- What a step does to the jobs, the call under way, the map and the builder. -/
inductive ManagerStep (manager : BackupManager) : ManagerEvent → BackupManager → Prop
  | quiet {event : ManagerEvent} {after : BackupManager} (same : Quiet manager after) :
      ManagerStep manager event after
  | locked {index : ℕ} {uuid : String} {request : StartBackupRequest} {after : BackupManager}
      (unused : uuid ∉ manager.replyMap)
      (replyMap : after.replyMap = insert uuid manager.replyMap)
      (starting : after.starting = some ⟨request, uuid, .addToInProgressSet⟩)
      (sources : after.sources = manager.sources)
      (map : after.inProgressMap = manager.inProgressMap)
      (builder : after.backupBuilder = manager.backupBuilder) :
      ManagerStep manager (.lock index uuid) after
  | registered {call : StartCall} {after : BackupManager}
      (begun : manager.starting = some call)
      (added : manager.inProgressMap.addToInProgressSet call.backupUuid call.request =
        .ok after.inProgressMap)
      (replyMap : after.replyMap = manager.replyMap)
      (starting : after.starting = some { call with pc := .createBackup })
      (sources : after.sources = manager.sources)
      (builder : after.backupBuilder = manager.backupBuilder) :
      ManagerStep manager .addToInProgressSet after
  | built {world : ℕ → Surroundings} {call : StartCall} {synchronizers : List NewSynchronizer}
      {after : BackupManager}
      (begun : manager.starting = some call) (ready : call.pc = .createBackup)
      (made : manager.backupBuilder.createBackup call.request.isFull world call.request.vectors =
        (.ok synchronizers, after.backupBuilder))
      (replyMap : after.replyMap = manager.replyMap)
      (starting : after.starting = none)
      (jobs : after.jobs = Job.start call.backupUuid synchronizers :: manager.jobs)
      (map : after.inProgressMap = manager.inProgressMap) :
      ManagerStep manager (.createBackup world) after
  | erased {call : StartCall} {after : BackupManager} (begun : manager.starting = some call)
      (replyMap : after.replyMap = manager.replyMap)
      (starting : after.starting = none)
      (sources : after.sources = manager.sources)
      (map : after.inProgressMap = manager.inProgressMap.erase call.backupUuid)
      (builder : after.backupBuilder = manager.backupBuilder) :
      ManagerStep manager .eraseFailed after
  | ended {uuid : String} {after : BackupManager}
      (present : ∃ job ∈ manager.sources, job.1 = uuid)
      (replyMap : after.replyMap = manager.replyMap)
      (starting : after.starting = manager.starting)
      (sources : after.sources = manager.sources.filter (·.1 ≠ uuid))
      (map : after.inProgressMap = manager.inProgressMap.erase uuid)
      (builder : after.backupBuilder = manager.backupBuilder) :
      ManagerStep manager (.eraseFinished uuid) after

section Steps

variable {manager after : BackupManager} {event : ManagerEvent}

private theorem reserves_cancel {map : InProgressMap} {uuid : String} {devices : List String}
    (chosen : String → Bool) (reserved : map.Reserves uuid devices) :
    (map.cancel chosen).Reserves uuid devices := by
  obtain ⟨e, member, rfl, inside⟩ := reserved
  exact ⟨_, List.mem_map_of_mem member, rfl, inside⟩

private theorem quiet_of_eq (replyMap : after.replyMap = manager.replyMap)
    (starting : after.starting = manager.starting) (jobs : after.jobs = manager.jobs)
    (map : after.inProgressMap = manager.inProgressMap)
    (builder : ∃ calls, run BackupBuilder.step manager.backupBuilder calls =
      some after.backupBuilder) : Quiet manager after where
  replyMap := replyMap
  starting := fun call begun => ⟨call, starting ▸ begun, rfl, fun _ => rfl⟩
  sources := by rw [BackupManager.sources, BackupManager.sources, jobs]
  reserves := fun uuid devices reserved => map ▸ reserved
  builder := builder

theorem Quiet.refl (manager : BackupManager) : Quiet manager manager :=
  quiet_of_eq rfl rfl rfl rfl ⟨[], rfl⟩

/-- The tests that a synchronizer is finished do not change its source. -/
private theorem sources_changeJob (uuid : String) {change : Job → Job}
    (uuids : ∀ job, (change job).backupUuid = job.backupUuid)
    (devices : ∀ job, (change job).blockDeviceUuids = job.blockDeviceUuids) :
    (manager.changeJob uuid change).sources = manager.sources := by
  simp only [BackupManager.sources, BackupManager.changeJob, List.map_map]
  refine List.map_congr_left fun job _ => ?_
  by_cases chosen : job.backupUuid = uuid
  · simp [chosen, uuids, devices]
  · simp [chosen]

private theorem quiet_changeJob (uuid : String) {change : Job → Job}
    (uuids : ∀ job, (change job).backupUuid = job.backupUuid)
    (devices : ∀ job, (change job).blockDeviceUuids = job.blockDeviceUuids) :
    Quiet manager (manager.changeJob uuid change) where
  replyMap := rfl
  starting := fun call begun => ⟨call, begun, rfl, fun _ => rfl⟩
  sources := sources_changeJob uuid uuids devices
  reserves := fun _ _ reserved => reserved
  builder := ⟨[], rfl⟩

private theorem blockDeviceUuids_finish (job : Job) (index : ℕ) :
    (job.finish index).blockDeviceUuids = job.blockDeviceUuids := by
  simp only [Job.blockDeviceUuids, Job.finish]
  refine List.ext_getElem? fun i => ?_
  rw [List.getElem?_map, List.getElem?_map, List.getElem?_modify]
  cases job.synchronizers[i]? with
  | none => rfl
  | some synchronizer => by_cases here : index = i <;> simp [here]

private theorem quiet_cancel (chosen : String → Bool)
    (replyMap : after.replyMap = manager.replyMap)
    (starting : after.starting = manager.starting) (jobs : after.jobs = manager.jobs)
    (map : after.inProgressMap = manager.inProgressMap.cancel chosen)
    (builder : after.backupBuilder = manager.backupBuilder) : Quiet manager after where
  replyMap := replyMap
  starting := fun call begun => ⟨call, starting ▸ begun, rfl, fun _ => rfl⟩
  sources := by rw [BackupManager.sources, BackupManager.sources, jobs]
  reserves := fun _ _ reserved => map ▸ reserves_cancel chosen reserved
  builder := ⟨[], builder ▸ rfl⟩

private theorem step_lock {index : ℕ} {uuid : String}
    (taken : manager.lock index uuid = some after) :
    ManagerStep manager (.lock index uuid) after := by
  unfold BackupManager.lock at taken
  split at taken
  · rename_i request idle _
    split_ifs at taken with none fresh
    · obtain rfl := Option.some.inj taken
      exact .quiet (quiet_of_eq rfl rfl rfl rfl ⟨[], rfl⟩)
    · obtain rfl := Option.some.inj taken
      exact .locked fresh rfl rfl rfl rfl rfl
  · cases taken

private theorem step_addToInProgressSet {call : StartCall}
    (begun : manager.starting = some call) :
    ManagerStep manager .addToInProgressSet (manager.addToInProgressSet call) := by
  unfold BackupManager.addToInProgressSet
  split
  · exact .quiet ⟨rfl, fun _ ended => (by cases ended), rfl, fun _ _ reserved => reserved,
      [], rfl⟩
  · rename_i map added
    exact .registered begun added rfl rfl rfl rfl

private theorem step_createBackup {call : StartCall} {world : ℕ → Surroundings}
    (begun : manager.starting = some call) (ready : call.pc = .createBackup) :
    ManagerStep manager (.createBackup world) (manager.createBackup call world) := by
  have reached := createBackup_reached manager.backupBuilder call.request.isFull world
    call.request.vectors
  unfold BackupManager.createBackup
  split
  · rename_i failed
    rw [failed] at reached
    refine .quiet ⟨rfl, fun later caught => ?_, rfl, fun _ _ reserved => reserved, reached⟩
    obtain rfl := Option.some.inj caught
    exact ⟨call, begun, rfl, fun back => by cases back⟩
  · rename_i synchronizers builder made
    exact .built begun ready made rfl rfl rfl rfl

private theorem step_eraseFinished {uuid : String}
    (taken : manager.step (.eraseFinished uuid) = some after) :
    ManagerStep manager (.eraseFinished uuid) after := by
  simp only [BackupManager.step] at taken
  split_ifs at taken with returned
  obtain rfl := Option.some.inj taken
  obtain ⟨job, member, test⟩ := List.any_eq_true.mp returned
  refine .ended ⟨_, List.mem_map_of_mem member, ?_⟩ rfl rfl ?_ rfl rfl
  · simp only [Bool.and_eq_true, beq_iff_eq] at test
    exact test.1
  · simp only [BackupManager.sources, List.filter_map]
    rfl

/-- Every step is one of those listed. -/
theorem manager_step_cases (taken : manager.step event = some after) :
    ManagerStep manager event after := by
  cases event with
  | startBackup request =>
      simp only [BackupManager.step] at taken
      split_ifs at taken
      · obtain rfl := Option.some.inj taken
        exact .quiet (quiet_of_eq rfl rfl rfl rfl ⟨[], rfl⟩)
      · obtain rfl := Option.some.inj taken
        exact .quiet (quiet_of_eq rfl rfl rfl rfl ⟨[], rfl⟩)
  | lock index uuid => exact step_lock taken
  | addToInProgressSet =>
      simp only [BackupManager.step] at taken
      split at taken
      · rename_i begun
        obtain rfl := Option.some.inj taken
        exact step_addToInProgressSet begun
      · cases taken
  | createBackup world =>
      simp only [BackupManager.step] at taken
      split at taken
      · rename_i begun
        obtain rfl := Option.some.inj taken
        exact step_createBackup begun rfl
      · cases taken
  | eraseFailed =>
      simp only [BackupManager.step] at taken
      split at taken
      · rename_i begun
        obtain rfl := Option.some.inj taken
        exact .erased begun rfl rfl rfl rfl rfl
      · cases taken
  | stopBackup jobUuid =>
      obtain rfl := Option.some.inj taken
      unfold BackupManager.stopBackup
      split_ifs
      · exact .quiet (quiet_cancel (· == jobUuid) rfl rfl rfl rfl rfl)
      · exact .quiet (quiet_of_eq rfl rfl rfl rfl ⟨[], rfl⟩)
  | finishSynchronizer uuid index =>
      obtain rfl := Option.some.inj taken
      exact .quiet (quiet_changeJob uuid (fun _ => rfl) (blockDeviceUuids_finish · index))
  | doBackupReturns uuid =>
      simp only [BackupManager.step] at taken
      split_ifs at taken
      obtain rfl := Option.some.inj taken
      exact .quiet (quiet_changeJob uuid (fun _ => rfl) (fun _ => rfl))
  | eraseFinished uuid => exact step_eraseFinished taken
  | callDestructor =>
      obtain rfl := Option.some.inj taken
      exact .quiet (quiet_of_eq rfl rfl rfl rfl ⟨[], rfl⟩)
  | cancel jobUuid =>
      simp only [BackupManager.step] at taken
      split_ifs at taken
      obtain rfl := Option.some.inj taken
      exact .quiet (quiet_cancel (· == jobUuid) rfl rfl rfl rfl rfl)
  | cancelAll =>
      simp only [BackupManager.step] at taken
      split_ifs at taken
      obtain rfl := Option.some.inj taken
      exact .quiet (quiet_cancel (fun _ => true) rfl rfl rfl rfl rfl)
  | device event =>
      simp only [BackupManager.step] at taken
      split at taken
      · cases taken
      · obtain ⟨builder, moved, rfl⟩ := Option.map_eq_some_iff.mp taken
        exact .quiet (quiet_of_eq rfl rfl rfl rfl
          ⟨[event], run_cons.mpr ⟨builder, moved, rfl⟩⟩)

/-- A step of the manager is a run of its builder. -/
private theorem backupBuilder_step (taken : manager.step event = some after) :
    ∃ calls, run BackupBuilder.step manager.backupBuilder calls = some after.backupBuilder := by
  cases manager_step_cases taken with
  | quiet same => exact same.builder
  | locked _ _ _ _ _ builder => exact ⟨[], builder ▸ rfl⟩
  | registered _ _ _ _ _ builder => exact ⟨[], builder ▸ rfl⟩
  | @built world call _ _ _ _ made _ _ _ _ =>
      have reached := createBackup_reached manager.backupBuilder call.request.isFull world
        call.request.vectors
      rwa [made] at reached
  | erased _ _ _ _ _ builder => exact ⟨[], builder ▸ rfl⟩
  | ended _ _ _ _ _ builder => exact ⟨[], builder ▸ rfl⟩

/-- In every run of the manager, its builder is as a run of the builder alone leaves it. -/
theorem backupBuilder_reached {events : List ManagerEvent}
    (reached : run BackupManager.step .new events = some manager) :
    ∃ calls, run BackupBuilder.step .new calls = some manager.backupBuilder :=
  invariant (I := fun manager : BackupManager =>
      ∃ calls, run BackupBuilder.step .new calls = some manager.backupBuilder)
    (fun _ _ _ earlier taken =>
      have ⟨calls, before⟩ := earlier
      have ⟨more, moved⟩ := backupBuilder_step taken
      ⟨calls ++ more, run_append.mpr ⟨_, before, moved⟩⟩)
    ⟨[], rfl⟩ reached

end Steps

end LinuxAgent.Backup
