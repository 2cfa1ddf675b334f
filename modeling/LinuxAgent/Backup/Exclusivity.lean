/- module: LinuxAgent/Backup/Exclusivity
   source: backup/backup_manager.{h,cc}, backup/backup_builder.cc
   digest: When no device is the source of two synchronizers at a time. -/

import LinuxAgent.Backup.Manager

/-!
The map keeps jobs apart: two jobs that run never share a device. It says nothing
about one job, whose devices it knows as a set while the job has a synchronizer
for each vector of the request.
-/

set_option autoImplicit false
set_option relaxedAutoImplicit false

namespace LinuxAgent.Backup

open LinuxAgent.Lib.Run LinuxAgent.UnsyncedSectors

/-- The sources of all synchronizers that are in the hands of a running backup and have
not finished. -/
def BackupManager.activeUuids (manager : BackupManager) : List String :=
  manager.jobs.flatMap Job.activeUuids

/-- No device is the source of two such synchronizers. -/
def Exclusive (manager : BackupManager) : Prop := manager.activeUuids.Nodup

instance (manager : BackupManager) : Decidable (Exclusive manager) :=
  inferInstanceAs (Decidable manager.activeUuids.Nodup)

/-- A request for which a backup is created names each device once. -/
def StartsDistinct (manager : BackupManager) : ManagerEvent → Prop
  | .createBackup world => ∀ call synchronizers builder, manager.starting = some call →
      manager.backupBuilder.createBackup call.request.isFull world call.request.vectors =
        (.ok synchronizers, builder) →
      call.request.blockDeviceUuids.Nodup
  | _ => True

/-- Every job that runs, and the call that is creating one, has its devices in the map
under a UUID of its own. -/
structure Registered (manager : BackupManager) : Prop where
  jobUuids : (manager.sources.map Prod.fst).Nodup
  jobsKnown : ∀ job ∈ manager.sources, job.1 ∈ manager.replyMap
  jobsReserved : ∀ job ∈ manager.sources, manager.inProgressMap.Reserves job.1 job.2
  startKnown : ∀ call, manager.starting = some call → call.backupUuid ∈ manager.replyMap
  startFresh : ∀ call, manager.starting = some call →
    ∀ job ∈ manager.sources, job.1 ≠ call.backupUuid
  startReserved : ∀ call, manager.starting = some call → call.pc = .createBackup →
    manager.inProgressMap.Reserves call.backupUuid call.request.blockDeviceUuids

/-- The synchronizers of one job have different sources. -/
def DistinctWithinJobs (manager : BackupManager) : Prop :=
  ∀ job ∈ manager.sources, job.2.Nodup

section Reservations

variable {map next : InProgressMap} {uuid other : String} {devices others : List String}

/-- Two jobs of the map share no device. -/
private theorem disjoint_of_reserves (first : map.Reserves uuid devices)
    (second : map.Reserves other others) (apart : uuid ≠ other) : devices.Disjoint others := by
  obtain ⟨e, left, rfl, inside⟩ := first
  obtain ⟨f, right, rfl, within⟩ := second
  have symmetric : Std.Symm fun e f : String × InProgress => Disjoint e.2.uuids f.2.uuids :=
    ⟨fun _ _ disjoint => disjoint.symm⟩
  have separate : Disjoint e.2.uuids f.2.uuids :=
    map.exclusive.forall left right fun same => apart (congrArg Prod.fst same)
  intro device here there
  exact Finset.disjoint_left.mp separate (inside device here) (within device there)

private theorem reserves_erase (reserved : map.Reserves uuid devices) (apart : uuid ≠ other) :
    (map.erase other).Reserves uuid devices := by
  obtain ⟨e, member, rfl, inside⟩ := reserved
  exact ⟨e, List.mem_filter.mpr ⟨member, by simpa using apart⟩, rfl, inside⟩

private theorem reserves_added {request : StartBackupRequest}
    (added : map.addToInProgressSet uuid request = .ok next) :
    next.Reserves uuid request.blockDeviceUuids := by
  unfold InProgressMap.addToInProgressSet at added
  split_ifs at added
  obtain rfl := Except.ok.inj added
  exact ⟨_, List.mem_cons_self, rfl, fun device member => List.mem_toFinset.mpr member⟩

private theorem reserves_of_added {request : StartBackupRequest}
    (added : map.addToInProgressSet other request = .ok next)
    (reserved : map.Reserves uuid devices) (apart : uuid ≠ other) :
    next.Reserves uuid devices := by
  obtain ⟨e, member, same, inside⟩ := reserves_erase reserved apart
  unfold InProgressMap.addToInProgressSet at added
  split_ifs at added
  obtain rfl := Except.ok.inj added
  exact ⟨e, List.mem_cons_of_mem _ member, same, inside⟩

end Reservations

section Invariant

variable {manager after : BackupManager} {event : ManagerEvent}

theorem registered_new : Registered .new := by
  constructor <;> simp [BackupManager.new, BackupManager.sources]

private theorem registered_quiet (inv : Registered manager) (same : Quiet manager after) :
    Registered after where
  jobUuids := same.sources ▸ inv.jobUuids
  jobsKnown := by
    rw [same.sources, same.replyMap]
    exact inv.jobsKnown
  jobsReserved := by
    rw [same.sources]
    exact fun job member => same.reserves _ _ (inv.jobsReserved job member)
  startKnown := fun call begun => by
    obtain ⟨earlier, known, uuid, _⟩ := same.starting call begun
    rw [same.replyMap, ← uuid]
    exact inv.startKnown earlier known
  startFresh := fun call begun => by
    obtain ⟨earlier, known, uuid, _⟩ := same.starting call begun
    rw [same.sources, ← uuid]
    exact inv.startFresh earlier known
  startReserved := fun call begun ready => by
    obtain ⟨earlier, known, _, unchanged⟩ := same.starting call begun
    obtain rfl := unchanged ready
    exact same.reserves _ _ (inv.startReserved earlier known ready)

/-- When no call is under way, the jobs are all there is to say. -/
private theorem registered_of_idle (idle : after.starting = none)
    (jobUuids : (after.sources.map Prod.fst).Nodup)
    (jobsKnown : ∀ job ∈ after.sources, job.1 ∈ after.replyMap)
    (jobsReserved : ∀ job ∈ after.sources, after.inProgressMap.Reserves job.1 job.2) :
    Registered after := by
  have nothing (call : StartCall) : after.starting ≠ some call := by
    rw [idle]
    simp
  exact ⟨jobUuids, jobsKnown, jobsReserved, fun call begun => absurd begun (nothing call),
    fun call begun => absurd begun (nothing call), fun call begun => absurd begun (nothing call)⟩

private theorem registered_locked {request : StartBackupRequest} {uuid : String}
    (inv : Registered manager) (unused : uuid ∉ manager.replyMap)
    (replyMap : after.replyMap = insert uuid manager.replyMap)
    (starting : after.starting = some ⟨request, uuid, .addToInProgressSet⟩)
    (sources : after.sources = manager.sources)
    (map : after.inProgressMap = manager.inProgressMap) : Registered after := by
  have only (call : StartCall) (begun : after.starting = some call) :
      call = ⟨request, uuid, .addToInProgressSet⟩ :=
    (Option.some.inj (starting.symm.trans begun)).symm
  refine ⟨sources ▸ inv.jobUuids, ?_, ?_, fun call begun => ?_, fun call begun job member => ?_,
    fun call begun ready => ?_⟩
  · rw [sources, replyMap]
    exact fun job member => Finset.mem_insert_of_mem (inv.jobsKnown job member)
  · rw [sources, map]
    exact inv.jobsReserved
  · rw [only call begun, replyMap]
    exact Finset.mem_insert_self _ _
  · rw [sources] at member
    rw [only call begun]
    rintro rfl
    exact unused (inv.jobsKnown job member)
  · rw [only call begun] at ready
    cases ready

private theorem registered_added {call : StartCall} (inv : Registered manager)
    (begun : manager.starting = some call)
    (added : manager.inProgressMap.addToInProgressSet call.backupUuid call.request =
      .ok after.inProgressMap)
    (replyMap : after.replyMap = manager.replyMap)
    (starting : after.starting = some { call with pc := .createBackup })
    (sources : after.sources = manager.sources) : Registered after := by
  have only (next : StartCall) (begun : after.starting = some next) :
      next = { call with pc := .createBackup } :=
    (Option.some.inj (starting.symm.trans begun)).symm
  refine ⟨sources ▸ inv.jobUuids, ?_, ?_, fun next begun' => ?_, fun next begun' => ?_,
    fun next begun' _ => ?_⟩
  · rw [sources, replyMap]
    exact inv.jobsKnown
  · rw [sources]
    exact fun job member => reserves_of_added added (inv.jobsReserved job member)
      (inv.startFresh call begun job member)
  · rw [only next begun', replyMap]
    exact inv.startKnown call begun
  · rw [only next begun', sources]
    exact inv.startFresh call begun
  · rw [only next begun']
    exact reserves_added added

private theorem registered_built {call : StartCall} (inv : Registered manager)
    (begun : manager.starting = some call) (ready : call.pc = .createBackup)
    (replyMap : after.replyMap = manager.replyMap) (starting : after.starting = none)
    (sources : after.sources = (call.backupUuid, call.request.blockDeviceUuids) :: manager.sources)
    (map : after.inProgressMap = manager.inProgressMap) : Registered after := by
  refine registered_of_idle starting ?_ ?_ ?_
  · rw [sources, List.map_cons, List.nodup_cons]
    refine ⟨fun member => ?_, inv.jobUuids⟩
    obtain ⟨job, here, same⟩ := List.mem_map.mp member
    exact inv.startFresh call begun job here same
  · rw [sources, replyMap, List.forall_mem_cons]
    exact ⟨inv.startKnown call begun, inv.jobsKnown⟩
  · rw [sources, map, List.forall_mem_cons]
    exact ⟨inv.startReserved call begun ready, inv.jobsReserved⟩

private theorem registered_erased {call : StartCall} (inv : Registered manager)
    (begun : manager.starting = some call) (replyMap : after.replyMap = manager.replyMap)
    (starting : after.starting = none) (sources : after.sources = manager.sources)
    (map : after.inProgressMap = manager.inProgressMap.erase call.backupUuid) :
    Registered after := by
  refine registered_of_idle starting (sources ▸ inv.jobUuids) ?_ ?_
  · rw [sources, replyMap]
    exact inv.jobsKnown
  · rw [sources, map]
    exact fun job member => reserves_erase (inv.jobsReserved job member)
      (inv.startFresh call begun job member)

private theorem registered_ended {uuid : String} (inv : Registered manager)
    (present : ∃ job ∈ manager.sources, job.1 = uuid)
    (replyMap : after.replyMap = manager.replyMap)
    (starting : after.starting = manager.starting)
    (sources : after.sources = manager.sources.filter (·.1 ≠ uuid))
    (map : after.inProgressMap = manager.inProgressMap.erase uuid) : Registered after := by
  have kept (job : String × List String) (member : job ∈ after.sources) :
      job ∈ manager.sources ∧ job.1 ≠ uuid := by
    rw [sources, List.mem_filter] at member
    exact ⟨member.1, by simpa using member.2⟩
  refine ⟨?_, fun job member => ?_, fun job member => ?_, ?_, fun call begun job member => ?_,
    fun call begun ready => ?_⟩
  · rw [sources]
    exact inv.jobUuids.sublist (List.filter_sublist.map Prod.fst)
  · rw [replyMap]
    exact inv.jobsKnown job (kept job member).1
  · rw [map]
    exact reserves_erase (inv.jobsReserved job (kept job member).1) (kept job member).2
  · rw [starting, replyMap]
    exact inv.startKnown
  · rw [starting] at begun
    exact inv.startFresh call begun job (kept job member).1
  · rw [starting] at begun
    rw [map]
    obtain ⟨job, member, rfl⟩ := present
    exact reserves_erase (inv.startReserved call begun ready)
      (inv.startFresh call begun job member).symm

theorem sources_start {call : StartCall} {world : ℕ → Surroundings}
    {synchronizers : List NewSynchronizer} {builder : BackupBuilder}
    (made : manager.backupBuilder.createBackup call.request.isFull world call.request.vectors =
      (.ok synchronizers, builder))
    (built : after.jobs = Job.start call.backupUuid synchronizers :: manager.jobs) :
    after.sources = (call.backupUuid, call.request.blockDeviceUuids) :: manager.sources := by
  have uuids : (Job.start call.backupUuid synchronizers).blockDeviceUuids =
      call.request.blockDeviceUuids := by
    rw [StartBackupRequest.blockDeviceUuids, ← createBackup_uuids made]
    simp [Job.start, Job.blockDeviceUuids]
  rw [BackupManager.sources, built, List.map_cons, uuids]
  rfl

theorem registered_step (inv : Registered manager) (taken : manager.step event = some after) :
    Registered after := by
  cases manager_step_cases taken with
  | quiet same => exact registered_quiet inv same
  | locked unused replyMap starting sources map _ =>
      exact registered_locked inv unused replyMap starting sources map
  | registered begun added replyMap starting sources _ =>
      exact registered_added inv begun added replyMap starting sources
  | built begun ready made replyMap starting jobs map =>
      exact registered_built inv begun ready replyMap starting (sources_start made jobs) map
  | erased begun replyMap starting sources map _ =>
      exact registered_erased inv begun replyMap starting sources map
  | ended present replyMap starting sources map _ =>
      exact registered_ended inv present replyMap starting sources map

/-- Only a new job can have two synchronizers of one source. -/
private theorem distinct_step (distinct : DistinctWithinJobs manager)
    (starts : StartsDistinct manager event) (taken : manager.step event = some after) :
    DistinctWithinJobs after := by
  unfold DistinctWithinJobs at distinct ⊢
  cases manager_step_cases taken with
  | quiet same => rwa [same.sources]
  | locked _ _ _ sources _ _ => rwa [sources]
  | registered _ _ _ _ sources _ => rwa [sources]
  | @built world call synchronizers _ begun _ made _ _ jobs _ =>
      rw [sources_start made jobs, List.forall_mem_cons]
      exact ⟨starts call synchronizers after.backupBuilder begun made, distinct⟩
  | erased _ _ _ sources _ _ => rwa [sources]
  | ended _ _ _ sources _ _ =>
      rw [sources]
      exact fun job member => distinct job (List.mem_filter.mp member).1

private theorem activeUuids_sublist (job : Job) :
    job.activeUuids.Sublist job.blockDeviceUuids :=
  List.filter_sublist.map _

/-- Two jobs share no device. -/
private theorem pairwise_disjoint_jobs (inv : Registered manager) :
    manager.jobs.Pairwise fun first second =>
      first.blockDeviceUuids.Disjoint second.blockDeviceUuids := by
  have uuids := inv.jobUuids
  rw [BackupManager.sources, List.map_map, List.Nodup, List.pairwise_map] at uuids
  refine uuids.imp_of_mem fun here there apart => ?_
  exact disjoint_of_reserves (inv.jobsReserved _ (List.mem_map_of_mem here))
    (inv.jobsReserved _ (List.mem_map_of_mem there)) apart

private theorem exclusive_of_registered (inv : Registered manager)
    (distinct : DistinctWithinJobs manager) : Exclusive manager := by
  refine List.nodup_flatMap.mpr ⟨fun job member => ?_, ?_⟩
  · exact (distinct _ (List.mem_map_of_mem member)).sublist (activeUuids_sublist job)
  · refine (pairwise_disjoint_jobs inv).imp fun {first second} disjoint => ?_
    exact List.disjoint_of_subset_left (activeUuids_sublist first).subset
      (List.disjoint_of_subset_right (activeUuids_sublist second).subset disjoint)

/-- A job that has just started is active on every device that its request names. -/
private theorem activeUuids_start (backupUuid : String) (synchronizers : List NewSynchronizer) :
    (Job.start backupUuid synchronizers).activeUuids =
      synchronizers.map (·.blockDeviceUuid) := by
  have unfinished : (Job.start backupUuid synchronizers).synchronizers.filter (!·.finished) =
      (Job.start backupUuid synchronizers).synchronizers := by
    refine List.filter_eq_self.mpr fun synchronizer member => ?_
    obtain ⟨_, _, rfl⟩ := List.mem_map.mp member
    rfl
  rw [Job.activeUuids, unfinished, Job.start, List.map_map]
  rfl

private theorem not_exclusive_of_repeated {world : ℕ → Surroundings} {call : StartCall}
    {synchronizers : List NewSynchronizer} {builder : BackupBuilder}
    (begun : manager.starting = some call)
    (made : manager.backupBuilder.createBackup call.request.isFull world call.request.vectors =
      (.ok synchronizers, builder))
    (repeated : ¬ call.request.blockDeviceUuids.Nodup)
    (taken : manager.step (.createBackup world) = some after) : ¬ Exclusive after := by
  intro exclusive
  simp only [BackupManager.step, begun] at taken
  split at taken
  · rename_i same
    obtain rfl := Option.some.inj same
    obtain rfl := Option.some.inj taken
    simp only [BackupManager.createBackup, made] at exclusive
    have first := (List.nodup_flatMap.mp exclusive).1 _ List.mem_cons_self
    rw [activeUuids_start, createBackup_uuids made] at first
    exact repeated first
  · cases taken

end Invariant

/-- In every run, and whatever the requests are, two jobs never share a device. -/
theorem jobs_never_share {events : List ManagerEvent} {manager : BackupManager}
    (reached : run BackupManager.step .new events = some manager) :
    manager.jobs.Pairwise fun first second =>
      first.blockDeviceUuids.Disjoint second.blockDeviceUuids :=
  pairwise_disjoint_jobs (invariant (I := Registered)
    (fun _ _ _ inv taken => registered_step inv taken) registered_new reached)

/-- No device has two synchronizers at a time, in every state of a run, exactly when each
request for which a backup is created names its devices once. -/
theorem exclusive_iff (events : List ManagerEvent)
    (completes : (run BackupManager.step .new events).isSome) :
    (∀ before after manager, events = before ++ after →
      run BackupManager.step .new before = some manager → Exclusive manager) ↔
      Along BackupManager.step StartsDistinct .new events := by
  refine good_iff_along (Q := fun _ => True)
    (I := fun manager => Registered manager ∧ DistinctWithinJobs manager)
    (fun manager inv => exclusive_of_registered inv.1 inv.2)
    (fun manager event after inv _ starts taken =>
      ⟨registered_step inv.1 taken, distinct_step inv.2 starts taken⟩)
    ?_ ⟨registered_new, by simp [DistinctWithinJobs, BackupManager.new, BackupManager.sources]⟩
    (fun _ _ => trivial) completes
  intro manager event after inv _ broken taken
  cases event with
  | createBackup world =>
      simp only [StartsDistinct, not_forall] at broken
      obtain ⟨call, synchronizers, builder, begun, made, repeated⟩ := broken
      exact not_exclusive_of_repeated begun made repeated taken
  | _ => exact absurd trivial broken

/-- Two disks and their copies; nothing fails. -/
def twoDisks (_ : ℕ) : Surroundings where
  createMountableBlockDeviceFromUuid uuid := .ok ⟨if uuid = "1b2c" then 8 else 9, 4096⟩
  createRemoteBlockDevice _ port := .ok ⟨port.toUInt64 + 100, 4096⟩
  createDeviceTracer _ := none
  getInUseSectors _ := .ok [⟨0, 4⟩]

/-- A backup of both disks runs while another request for one of them is refused. -/
def refusedRepeat : List ManagerEvent :=
  [.startBackup ⟨[⟨"1b2c", "host", 1⟩, ⟨"77d0", "host", 2⟩], true⟩, .lock 0 "job-1",
    .startBackup ⟨[⟨"77d0", "host", 3⟩], true⟩, .addToInProgressSet, .createBackup twoDisks,
    .lock 0 "job-2", .finishSynchronizer "job-1" 1, .addToInProgressSet, .stopBackup "job-1",
    .finishSynchronizer "job-1" 0, .doBackupReturns "job-1", .eraseFinished "job-1"]

theorem exclusive_iff_refusedRepeat :
    (∀ before after manager, refusedRepeat = before ++ after →
      run BackupManager.step .new before = some manager → Exclusive manager) ↔
      Along BackupManager.step StartsDistinct .new refusedRepeat :=
  exclusive_iff refusedRepeat (by decide +kernel)

/-- One request with two vectors for one disk. -/
def repeatedDisk : List ManagerEvent :=
  [.startBackup ⟨[⟨"1b2c", "host", 1⟩, ⟨"1b2c", "host", 2⟩], true⟩, .lock 0 "job-1",
    .addToInProgressSet, .createBackup twoDisks]

/-- The job runs with two synchronizers for the disk. -/
theorem repeatedDisk_not_exclusive : ∃ manager,
    run BackupManager.step .new repeatedDisk = some manager ∧
    manager.activeUuids = ["1b2c", "1b2c"] ∧ ¬ Exclusive manager := by
  have both : (run BackupManager.step .new repeatedDisk).any fun manager =>
      decide (manager.activeUuids = ["1b2c", "1b2c"] ∧ ¬ Exclusive manager) := by
    decide +kernel
  obtain ⟨manager, reached, test⟩ := (Option.any_eq_true _ _).mp both
  exact ⟨manager, reached, of_decide_eq_true test⟩

end LinuxAgent.Backup
