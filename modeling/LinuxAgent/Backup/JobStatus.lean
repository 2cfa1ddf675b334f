/- module: LinuxAgent/Backup/JobStatus
   source: backup/backup_manager.cc, backup/backup.cc,
     backup_status_tracker/backup_status_tracker.cc
   digest: The status, the map entry and the coordinator of a job, in every state of every run. -/

import LinuxAgent.Backup.LifeCycle

/-!
The status of a job is in the tracker, its devices and its coordinator are in the map,
and its thread goes from one to the other. What they have to do with each other is one
invariant, kept by each of the steps that `service_step_cases` lists. A thread that has
erased its job from the map has no part in it any more.
-/

set_option autoImplicit false
set_option relaxedAutoImplicit false

namespace LinuxAgent.Backup

open LinuxAgent.Lib.Run

/-- How the tracker, the map and the threads agree. -/
structure JobService.Consistent (s : JobService) : Prop where
  started : ∀ uuid, .started uuid ∈ s.manager.replies → uuid ∈ s.manager.replyMap ∧
    ((∃ job ∈ s.manager.sources, job.1 = uuid) ∨
      ∃ status, s.statuses uuid = some status ∧ status.isTerminal = true)
  running : ∀ job ∈ s.manager.sources, ∃ thread status, s.threads job.1 = some thread ∧
    thread.phase ≠ .erased ∧ s.statuses job.1 = some status ∧ thread.phase.Shows status ∧
    s.mapCoordinator job.1 = some thread.coordinator
  alive : ∀ uuid thread, s.threads uuid = some thread → thread.phase ≠ .erased →
    ∃ job ∈ s.manager.sources, job.1 = uuid
  startStatus : ∀ call, s.manager.starting = some call →
    s.statuses call.backupUuid = some .notStarted
  startOwn : ∀ call, s.manager.starting = some call →
    s.startCoordinator < s.coordinators.length ∧
    ∀ uuid, s.mapCoordinator uuid = some s.startCoordinator → uuid = call.backupUuid
  startMapped : ∀ call, s.manager.starting = some call → call.pc = .createBackup →
    s.mapCoordinator call.backupUuid = some s.startCoordinator
  valid : ∀ uuid pointer, s.mapCoordinator uuid = some pointer → pointer < s.coordinators.length
  own : ∀ uuid other pointer, s.mapCoordinator uuid = some pointer →
    s.mapCoordinator other = some pointer → uuid = other

section Consistency

variable {s t : JobService}

/-- What a quiet step of the manager keeps when the pointers and the statuses stay. -/
private theorem consistent_quiet (inv : s.Consistent) (same : Quiet s.manager t.manager)
    (replies : NoneStarted s.manager t.manager) (kept : s.Kept t) : t.Consistent := by
  obtain ⟨length, statuses, start, map, threads⟩ := kept
  refine ⟨?_, ?_, ?_, ?_, ?_, ?_, ?_, ?_⟩
  · rw [same.sources, same.replyMap, statuses]
    exact fun uuid began => inv.started uuid (replies uuid began)
  · rw [same.sources, statuses, map, threads]
    exact inv.running
  · rw [same.sources, threads]
    exact inv.alive
  · intro call begun
    obtain ⟨earlier, before, uuid, _⟩ := same.starting call begun
    rw [statuses, ← uuid]
    exact inv.startStatus earlier before
  · intro call begun
    obtain ⟨earlier, before, uuid, _⟩ := same.starting call begun
    rw [start, length, map, ← uuid]
    exact inv.startOwn earlier before
  · intro call begun ready
    obtain ⟨earlier, before, _, unchanged⟩ := same.starting call begun
    obtain rfl := unchanged ready
    rw [start, map]
    exact inv.startMapped earlier before ready
  · rw [map, length]
    exact inv.valid
  · rw [map]
    exact inv.own

private theorem consistent_locked {call : StartCall} (registered : Registered s.manager)
    (inv : s.Consistent) (fresh : call.backupUuid ∉ s.manager.replyMap)
    (pc : call.pc = .addToInProgressSet) (starting : t.manager.starting = some call)
    (replyMap : t.manager.replyMap = insert call.backupUuid s.manager.replyMap)
    (sources : t.manager.sources = s.manager.sources)
    (replies : NoneStarted s.manager t.manager)
    (same : t = { s.setStatus call.backupUuid .notStarted with
      manager := t.manager
      coordinators := s.coordinators ++ [.new call.request.vectors.length]
      startCoordinator := s.coordinators.length }) : t.Consistent := by
  have statuses : t.statuses = Function.update s.statuses call.backupUuid (some .notStarted) :=
    (congrArg JobService.statuses same :)
  have threads : t.threads = s.threads := (congrArg JobService.threads same :)
  have map : t.mapCoordinator = s.mapCoordinator := (congrArg JobService.mapCoordinator same :)
  have start : t.startCoordinator = s.coordinators.length :=
    (congrArg JobService.startCoordinator same :)
  have length : t.coordinators.length = s.coordinators.length + 1 :=
    (congrArg (List.length ∘ JobService.coordinators) same).trans List.length_append
  have only (other : StartCall) (begun : t.manager.starting = some other) : other = call :=
    Option.some.inj (begun.symm.trans starting)
  have older (uuid : String) (known : uuid ∈ s.manager.replyMap) :
      t.statuses uuid = s.statuses uuid := by
    rw [statuses, Function.update_of_ne]
    rintro rfl
    exact fresh known
  refine ⟨fun uuid began => ?_, fun job member => ?_, ?_, fun other begun => ?_,
    fun other begun => ?_, fun other begun ready => ?_, fun uuid pointer found => ?_, ?_⟩
  · obtain ⟨known, outcome⟩ := inv.started uuid (replies uuid began)
    rw [replyMap, sources, older uuid known]
    exact ⟨Finset.mem_insert_of_mem known, outcome⟩
  · rw [sources] at member
    rw [threads, map, older job.1 (registered.jobsKnown job member)]
    exact inv.running job member
  · rw [threads, sources]
    exact inv.alive
  · rw [only other begun, statuses, Function.update_self]
  · rw [start, length, map]
    refine ⟨Nat.lt_succ_self _, fun uuid found => ?_⟩
    exact absurd (inv.valid uuid _ found) (Nat.lt_irrefl _)
  · rw [only other begun, pc] at ready
    cases ready
  · rw [map] at found
    rw [length]
    exact Nat.lt_succ_of_lt (inv.valid uuid pointer found)
  · rw [map]
    exact inv.own

private theorem consistent_registered {call : StartCall} (registered : Registered s.manager)
    (inv : s.Consistent) (begun : s.manager.starting = some call)
    (starting : t.manager.starting = some { call with pc := .createBackup })
    (replyMap : t.manager.replyMap = s.manager.replyMap)
    (sources : t.manager.sources = s.manager.sources)
    (replies : NoneStarted s.manager t.manager)
    (same : t = { s.setPointer call.backupUuid (some s.startCoordinator) with
      manager := t.manager }) : t.Consistent := by
  have statuses : t.statuses = s.statuses := (congrArg JobService.statuses same :)
  have threads : t.threads = s.threads := (congrArg JobService.threads same :)
  have map : t.mapCoordinator =
      Function.update s.mapCoordinator call.backupUuid (some s.startCoordinator) :=
    (congrArg JobService.mapCoordinator same :)
  have start : t.startCoordinator = s.startCoordinator :=
    (congrArg JobService.startCoordinator same :)
  have coordinators : t.coordinators = s.coordinators := (congrArg JobService.coordinators same :)
  have only (other : StartCall) (begun : t.manager.starting = some other) :
      other = { call with pc := .createBackup } := Option.some.inj (begun.symm.trans starting)
  -- The pointer of another job is the one it had, and differs from the new one.
  have older (uuid : String) (pointer : ℕ) (found : t.mapCoordinator uuid = some pointer) :
      uuid = call.backupUuid ∧ pointer = s.startCoordinator ∨
        s.mapCoordinator uuid = some pointer ∧ uuid ≠ call.backupUuid := by
    rw [map] at found
    by_cases here : uuid = call.backupUuid
    · rw [here, Function.update_self] at found
      exact .inl ⟨here, (Option.some.inj found).symm⟩
    · rw [Function.update_of_ne here] at found
      exact .inr ⟨found, here⟩
  obtain ⟨inside, mine⟩ := inv.startOwn call begun
  refine ⟨fun uuid began => ?_, fun job member => ?_, ?_, fun other begun' => ?_,
    fun other begun' => ?_, fun other begun' _ => ?_, fun uuid pointer found => ?_,
    fun uuid other pointer first second => ?_⟩
  · rw [replyMap, sources, statuses]
    exact inv.started uuid (replies uuid began)
  · rw [sources] at member
    rw [threads, statuses, map,
      Function.update_of_ne (registered.startFresh call begun job member)]
    exact inv.running job member
  · rw [threads, sources]
    exact inv.alive
  · rw [only other begun', statuses]
    exact inv.startStatus call begun
  · rw [only other begun', start, coordinators]
    refine ⟨inside, fun uuid found => ?_⟩
    rcases older uuid _ found with ⟨here, _⟩ | ⟨there, _⟩
    · exact here
    · exact mine uuid there
  · rw [only other begun', map, start, Function.update_self]
  · rw [coordinators]
    rcases older uuid pointer found with ⟨_, rfl⟩ | ⟨there, _⟩
    · exact inside
    · exact inv.valid uuid pointer there
  · rcases older uuid pointer first with ⟨here, rfl⟩ | ⟨there, apart⟩
    · rcases older other _ second with ⟨here', _⟩ | ⟨there', apart'⟩
      · exact here.trans here'.symm
      · exact absurd (mine other there') apart'
    · rcases older other pointer second with ⟨here', rfl⟩ | ⟨there', apart'⟩
      · exact absurd (mine uuid there) apart
      · exact inv.own uuid other pointer there there'

private theorem consistent_built {call : StartCall} (registered : Registered s.manager)
    (inv : s.Consistent) (begun : s.manager.starting = some call) (ready : call.pc = .createBackup)
    (starting : t.manager.starting = none)
    (replyMap : t.manager.replyMap = s.manager.replyMap)
    (sources : t.manager.sources =
      (call.backupUuid, call.request.blockDeviceUuids) :: s.manager.sources)
    (replies : ∀ uuid, .started uuid ∈ t.manager.replies →
      .started uuid ∈ s.manager.replies ∨ uuid = call.backupUuid)
    (same : t = { s.setThread call.backupUuid (some ⟨s.startCoordinator, .created⟩) with
      manager := t.manager }) : t.Consistent := by
  have statuses : t.statuses = s.statuses := (congrArg JobService.statuses same :)
  have threads : t.threads =
      Function.update s.threads call.backupUuid (some ⟨s.startCoordinator, .created⟩) :=
    (congrArg JobService.threads same :)
  have map : t.mapCoordinator = s.mapCoordinator := (congrArg JobService.mapCoordinator same :)
  have coordinators : t.coordinators = s.coordinators := (congrArg JobService.coordinators same :)
  have nothing (other : StartCall) : t.manager.starting ≠ some other := by simp [starting]
  refine ⟨fun uuid began => ?_, ?_, fun uuid thread found running => ?_,
    fun other begun => absurd begun (nothing other),
    fun other begun => absurd begun (nothing other),
    fun other begun => absurd begun (nothing other), ?_, ?_⟩
  · rw [replyMap, sources, statuses]
    rcases replies uuid began with before | rfl
    · obtain ⟨known, outcome⟩ := inv.started uuid before
      refine ⟨known, outcome.imp_left ?_⟩
      rintro ⟨job, member, here⟩
      exact ⟨job, List.mem_cons_of_mem _ member, here⟩
    · exact ⟨registered.startKnown call begun, .inl ⟨_, List.mem_cons_self, rfl⟩⟩
  · rw [sources, List.forall_mem_cons, statuses, map, threads]
    constructor
    · exact ⟨_, .notStarted, Function.update_self .., by simp, inv.startStatus call begun, rfl,
        inv.startMapped call begun ready⟩
    · intro job member
      rw [Function.update_of_ne (registered.startFresh call begun job member)]
      exact inv.running job member
  · rw [sources]
    rw [threads] at found
    by_cases here : uuid = call.backupUuid
    · exact ⟨_, List.mem_cons_self, here.symm⟩
    · rw [Function.update_of_ne here] at found
      obtain ⟨job, member, there⟩ := inv.alive uuid thread found running
      exact ⟨job, List.mem_cons_of_mem _ member, there⟩
  · rw [map, coordinators]
    exact inv.valid
  · rw [map]
    exact inv.own

/-- Erasing an entry leaves the other pointers. -/
private theorem pointer_of_erased {uuid : String}
    (map : t.mapCoordinator = Function.update s.mapCoordinator uuid none) (other : String)
    (pointer : ℕ) (found : t.mapCoordinator other = some pointer) :
    s.mapCoordinator other = some pointer := by
  rw [map] at found
  by_cases same : other = uuid
  · rw [same, Function.update_self] at found
    cases found
  · rwa [Function.update_of_ne same] at found

private theorem consistent_erased {call : StartCall} (registered : Registered s.manager)
    (inv : s.Consistent) (begun : s.manager.starting = some call)
    (starting : t.manager.starting = none)
    (replyMap : t.manager.replyMap = s.manager.replyMap)
    (sources : t.manager.sources = s.manager.sources)
    (replies : NoneStarted s.manager t.manager)
    (same : t = { s.setPointer call.backupUuid none with manager := t.manager }) :
    t.Consistent := by
  have statuses : t.statuses = s.statuses := (congrArg JobService.statuses same :)
  have threads : t.threads = s.threads := (congrArg JobService.threads same :)
  have map : t.mapCoordinator = Function.update s.mapCoordinator call.backupUuid none :=
    (congrArg JobService.mapCoordinator same :)
  have coordinators : t.coordinators = s.coordinators := (congrArg JobService.coordinators same :)
  have nothing (other : StartCall) : t.manager.starting ≠ some other := by simp [starting]
  have older := pointer_of_erased map
  refine ⟨fun uuid began => ?_, fun job member => ?_, ?_,
    fun other begun => absurd begun (nothing other),
    fun other begun => absurd begun (nothing other),
    fun other begun => absurd begun (nothing other), fun uuid pointer found => ?_,
    fun uuid other pointer first second => ?_⟩
  · rw [replyMap, sources, statuses]
    exact inv.started uuid (replies uuid began)
  · rw [sources] at member
    rw [threads, statuses, map,
      Function.update_of_ne (registered.startFresh call begun job member)]
    exact inv.running job member
  · rw [threads, sources]
    exact inv.alive
  · rw [coordinators]
    exact inv.valid uuid pointer (older uuid pointer found)
  · exact inv.own uuid other pointer (older uuid pointer first) (older other pointer second)

/-- The thread of a job that erases it has made the status terminal. -/
private theorem consistent_ended {uuid : String} {thread : BackupThread}
    (registered : Registered s.manager) (inv : s.Consistent)
    (here : s.threads uuid = some thread) (phase : thread.phase = .returned)
    (starting : t.manager.starting = s.manager.starting)
    (replyMap : t.manager.replyMap = s.manager.replyMap)
    (sources : t.manager.sources = s.manager.sources.filter (·.1 ≠ uuid))
    (replies : NoneStarted s.manager t.manager)
    (same : t = { (s.setPointer uuid none).setThread uuid (some { thread with phase := .erased })
      with manager := t.manager }) : t.Consistent := by
  have statuses : t.statuses = s.statuses := (congrArg JobService.statuses same :)
  have threads : t.threads =
      Function.update s.threads uuid (some { thread with phase := .erased }) :=
    (congrArg JobService.threads same :)
  have map : t.mapCoordinator = Function.update s.mapCoordinator uuid none :=
    (congrArg JobService.mapCoordinator same :)
  have start : t.startCoordinator = s.startCoordinator :=
    (congrArg JobService.startCoordinator same :)
  have coordinators : t.coordinators = s.coordinators := (congrArg JobService.coordinators same :)
  have older := pointer_of_erased map
  have kept {job : String × List String} :
      job ∈ t.manager.sources ↔ job ∈ s.manager.sources ∧ job.1 ≠ uuid := by
    rw [sources, List.mem_filter]
    simp
  obtain ⟨mine, present, named⟩ := inv.alive uuid thread here (by simp [phase])
  refine ⟨fun other began => ?_, fun job member => ?_, fun other thread' found running => ?_,
    fun call begun => ?_, fun call begun => ?_, fun call begun ready => ?_,
    fun other pointer found => ?_, fun first second pointer left right => ?_⟩
  · obtain ⟨known, outcome⟩ := inv.started other (replies other began)
    rw [replyMap, statuses]
    refine ⟨known, ?_⟩
    by_cases same : other = uuid
    · obtain ⟨thread', status, found, _, shown, shows, _⟩ := inv.running mine present
      rw [named] at found shown
      obtain rfl := Option.some.inj (here.symm.trans found)
      rw [phase] at shows
      exact .inr ⟨status, same ▸ shown, shows⟩
    · refine outcome.imp_left ?_
      rintro ⟨job, member, there⟩
      exact ⟨job, kept.mpr ⟨member, there ▸ same⟩, there⟩
  · obtain ⟨before, apart⟩ := kept.mp member
    rw [threads, statuses, map, Function.update_of_ne apart, Function.update_of_ne apart]
    exact inv.running job before
  · rw [threads] at found
    by_cases same : other = uuid
    · rw [same, Function.update_self] at found
      exact absurd (Option.some.inj found ▸ rfl) running
    · rw [Function.update_of_ne same] at found
      obtain ⟨job, member, there⟩ := inv.alive other thread' found running
      exact ⟨job, kept.mpr ⟨member, there ▸ same⟩, there⟩
  · rw [starting] at begun
    rw [statuses]
    exact inv.startStatus call begun
  · rw [starting] at begun
    rw [start, coordinators]
    obtain ⟨inside, own⟩ := inv.startOwn call begun
    exact ⟨inside, fun other found => own other (older other _ found)⟩
  · rw [starting] at begun
    have apart : call.backupUuid ≠ uuid :=
      named ▸ (registered.startFresh call begun mine present).symm
    rw [map, start, Function.update_of_ne apart]
    exact inv.startMapped call begun ready
  · rw [coordinators]
    exact inv.valid other pointer (older other pointer found)
  · exact inv.own first second pointer (older first pointer left) (older second pointer right)

/-- A thread that has erased its job ends. -/
private theorem consistent_exited {uuid : String} {thread : BackupThread} (inv : s.Consistent)
    (here : s.threads uuid = some thread) (phase : thread.phase = .erased)
    (same : t = s.setThread uuid none) : t.Consistent := by
  subst same
  refine ⟨inv.started, fun job member => ?_, fun other thread' found running => ?_,
    inv.startStatus, inv.startOwn, inv.startMapped, inv.valid, inv.own⟩
  · obtain ⟨thread', status, found, running, rest⟩ := inv.running job member
    have apart : job.1 ≠ uuid := by
      rintro rfl
      obtain rfl := Option.some.inj (here.symm.trans found)
      exact running phase
    exact ⟨thread', status, (Function.update_of_ne apart _ _).trans found, running, rest⟩
  · have before : s.threads other = some thread' := by
      by_cases same : other = uuid
      · simp [JobService.setThread, same] at found
      · simpa [JobService.setThread, same] using found
    exact inv.alive other thread' before running

private theorem consistent_advanced {uuid : String} {thread : BackupThread} {next : JobPhase}
    (registered : Registered s.manager) (inv : s.Consistent)
    (here : s.threads uuid = some thread) (running : thread.phase ≠ .erased)
    (going : next ≠ .erased) (manager : Quiet s.manager t.manager)
    (replies : NoneStarted s.manager t.manager)
    (coordinators : t.coordinators = s.coordinators)
    (start : t.startCoordinator = s.startCoordinator)
    (map : t.mapCoordinator = s.mapCoordinator)
    (threads : t.threads = Function.update s.threads uuid (some { thread with phase := next }))
    (others : ∀ other, other ≠ uuid → t.statuses other = s.statuses other)
    (status : ∀ old, s.statuses uuid = some old → thread.phase.Shows old →
      ∃ new, t.statuses uuid = some new ∧ next.Shows new ∧ old.Moves new) : t.Consistent := by
  obtain ⟨mine, present, named⟩ := inv.alive uuid thread here running
  refine ⟨fun other began => ?_, fun job member => ?_, fun other thread' found going' => ?_,
    fun call begun => ?_, fun call begun => ?_, fun call begun ready => ?_, ?_, ?_⟩
  · obtain ⟨known, outcome⟩ := inv.started other (replies other began)
    rw [manager.replyMap, manager.sources]
    refine ⟨known, ?_⟩
    by_cases same : other = uuid
    · exact .inl ⟨mine, present, named.trans same.symm⟩
    · rwa [others other same]
  · rw [manager.sources] at member
    obtain ⟨thread', old, found, alive, shown, shows, mapped⟩ := inv.running job member
    rw [threads, map]
    by_cases same : job.1 = uuid
    · rw [same] at found shown mapped ⊢
      obtain rfl := Option.some.inj (here.symm.trans found)
      obtain ⟨new, now, shows', _⟩ := status old shown shows
      exact ⟨_, new, Function.update_self .., going, now, shows', mapped⟩
    · rw [Function.update_of_ne same, others job.1 same]
      exact ⟨thread', old, found, alive, shown, shows, mapped⟩
  · rw [manager.sources]
    rw [threads] at found
    by_cases same : other = uuid
    · exact ⟨mine, present, named.trans same.symm⟩
    · rw [Function.update_of_ne same] at found
      exact inv.alive other thread' found going'
  · obtain ⟨earlier, before, same, _⟩ := manager.starting call begun
    have apart : call.backupUuid ≠ uuid := by
      rw [← same, ← named]
      exact (registered.startFresh earlier before mine present).symm
    rw [others _ apart, ← same]
    exact inv.startStatus earlier before
  · obtain ⟨earlier, before, same, _⟩ := manager.starting call begun
    rw [start, coordinators, map, ← same]
    exact inv.startOwn earlier before
  · obtain ⟨earlier, before, _, unchanged⟩ := manager.starting call begun
    obtain rfl := unchanged ready
    rw [start, map]
    exact inv.startMapped earlier before ready
  · rw [map, coordinators]
    exact inv.valid
  · rw [map]
    exact inv.own

theorem consistent_step {e : ServiceEvent} (registered : Registered s.manager)
    (inv : s.Consistent) (taken : s.step e = some t) : t.Consistent := by
  cases service_step_cases taken with
  | quiet manager replies kept => exact consistent_quiet inv manager replies kept
  | locked call fresh pc starting replyMap sources replies same =>
      exact consistent_locked registered inv fresh pc starting replyMap sources replies same
  | registered call begun starting replyMap sources replies same =>
      exact consistent_registered registered inv begun starting replyMap sources replies same
  | built call begun ready starting replyMap sources replies same =>
      exact consistent_built registered inv begun ready starting replyMap sources replies same
  | erased call begun starting replyMap sources replies same =>
      exact consistent_erased registered inv begun starting replyMap sources replies same
  | ended uuid thread here phase starting replyMap sources replies same =>
      exact consistent_ended registered inv here phase starting replyMap sources replies same
  | exited uuid thread here phase same => exact consistent_exited inv here phase same
  | advanced uuid thread next here running going manager replies coordinators start map threads
      others status =>
      exact consistent_advanced registered inv here running going manager replies coordinators
        start map threads others status

theorem consistent_run {events : List ServiceEvent}
    (reached : run JobService.step .new events = some s) :
    Registered s.manager ∧ s.Consistent := by
  have start : JobService.new.Consistent := by
    constructor <;> simp [JobService.new, BackupManager.new, BackupManager.sources]
  refine invariant (I := fun s : JobService => Registered s.manager ∧ s.Consistent) ?_
    ⟨registered_new, start⟩ reached
  rintro s e t ⟨registered, inv⟩ taken
  refine ⟨?_, consistent_step registered inv taken⟩
  rcases manager_of_step taken with same | ⟨m, moved⟩
  · rwa [same]
  · exact registered_step registered moved

/-- A job that was returned has a status, and the job is there until it is terminal. -/
theorem status_of_started {uuid : String} (inv : s.Consistent)
    (started : .started uuid ∈ s.manager.replies) :
    ∃ status, s.statuses uuid = some status ∧
      (status.isTerminal = false → ∃ job ∈ s.manager.sources, job.1 = uuid) := by
  rcases (inv.started uuid started).2 with ⟨job, member, rfl⟩ | ⟨status, shown, terminal⟩
  · obtain ⟨_, status, _, _, shown, _⟩ := inv.running job member
    exact ⟨status, shown, fun _ => ⟨job, member, rfl⟩⟩
  · refine ⟨status, shown, fun running => ?_⟩
    rw [terminal] at running
    cases running

/-- A step moves the status of a job forward, if at all. -/
theorem status_moves {e : ServiceEvent} {uuid : String} {old : BackupStatus}
    (inv : s.Consistent) (known : uuid ∈ s.manager.replyMap)
    (shown : s.statuses uuid = some old) (taken : s.step e = some t) :
    ∃ new, t.statuses uuid = some new ∧ old.Moves new := by
  have unmoved (same : t.statuses = s.statuses) :
      ∃ new, t.statuses uuid = some new ∧ old.Moves new := ⟨old, same ▸ shown, .inl rfl⟩
  cases service_step_cases taken with
  | quiet _ _ kept => exact unmoved kept.statuses
  | locked call fresh _ _ _ _ _ same =>
      have statuses : t.statuses = Function.update s.statuses call.backupUuid (some .notStarted) :=
        (congrArg JobService.statuses same :)
      have apart : uuid ≠ call.backupUuid := by
        rintro rfl
        exact fresh known
      rw [statuses, Function.update_of_ne apart]
      exact ⟨old, shown, .inl rfl⟩
  | registered _ _ _ _ _ _ same => exact unmoved (congrArg JobService.statuses same :)
  | built _ _ _ _ _ _ _ same => exact unmoved (congrArg JobService.statuses same :)
  | erased _ _ _ _ _ _ same => exact unmoved (congrArg JobService.statuses same :)
  | ended _ _ _ _ _ _ _ _ same => exact unmoved (congrArg JobService.statuses same :)
  | exited _ _ _ _ same => exact unmoved (congrArg JobService.statuses same :)
  | advanced job thread next here running _ _ _ _ _ _ _ others status =>
      by_cases same : uuid = job
      · subst same
        obtain ⟨mine, present, rfl⟩ := inv.alive uuid thread here running
        obtain ⟨thread', old', found, _, shown', shows, _⟩ := inv.running mine present
        obtain rfl := Option.some.inj (here.symm.trans found)
        obtain rfl := Option.some.inj (shown.symm.trans shown')
        obtain ⟨new, now, _, moves⟩ := status old shown shows
        exact ⟨new, now, moves⟩
      · rw [others uuid same]
        exact ⟨old, shown, .inl rfl⟩

private theorem status_step {e : ServiceEvent} {uuid : String} {old : BackupStatus}
    (inv : s.Consistent) (started : .started uuid ∈ s.manager.replies)
    (shown : s.statuses uuid = some old) (taken : s.step e = some t) :
    ∃ new, t.statuses uuid = some new ∧ old.Moves new :=
  status_moves inv (inv.started uuid started).1 shown taken

private theorem count_of_reserves {map : InProgressMap} {uuid : String} {devices : List String}
    (reserved : map.Reserves uuid devices) : map.count uuid = true := by
  obtain ⟨e, member, named, _⟩ := reserved
  exact List.any_eq_true.mpr ⟨e, member, beq_iff_eq.mpr named⟩

private theorem stopBackup_step {uuid : String} {pointer : ℕ}
    (counted : s.manager.inProgressMap.count uuid = true)
    (mapped : s.mapCoordinator uuid = some pointer) :
    ∃ t, s.step (.manager (.stopBackup uuid)) = some t ∧
      t.manager.replies = s.manager.replies ++ [.stopped uuid] ∧
      t.coordinators = s.coordinators.modify pointer BackupCoordinator.cancel := by
  refine ⟨_, rfl, ?_, ?_⟩
  · rw [manager_cancelAt]
    simp only [BackupManager.stopBackup, counted, if_true, BackupManager.reply]
  · simp only [JobService.cancelAt, mapped]

private theorem addToInProgressSet_refused {uuid other device : String} {devices : List String}
    {request : StartBackupRequest}
    (reserved : s.manager.inProgressMap.Reserves uuid devices)
    (starting : s.manager.starting = some ⟨request, other, .addToInProgressSet⟩)
    (named : device ∈ request.blockDeviceUuids) (taken : device ∈ devices) :
    ∃ t, s.step (.manager .addToInProgressSet) = some t ∧
      t.manager.replies = s.manager.replies ++ [.threw "Device is already being backed up"] ∧
      t.manager.starting = none ∧ t.manager.jobs = s.manager.jobs := by
  have conflict : s.manager.inProgressMap.Conflicts request.blockDeviceUuids.toFinset := by
    obtain ⟨e, member, _, inside⟩ := reserved
    refine ⟨e, member, fun disjoint => ?_⟩
    exact Finset.disjoint_left.mp disjoint (List.mem_toFinset.mpr named) (inside device taken)
  have refused : s.manager.inProgressMap.addToInProgressSet other request =
      .error "Device is already being backed up" := by
    unfold InProgressMap.addToInProgressSet
    rw [dif_pos conflict]
  let answer : ManagerReply := .threw "Device is already being backed up"
  refine ⟨{ s with manager := BackupManager.reply { s.manager with starting := none } answer }, ?_,
    rfl, rfl, rfl⟩
  simp only [JobService.step, BackupManager.step, starting, BackupManager.addToInProgressSet,
    refused, Option.bind_some, JobService.follow, BackupManager.reply]
  rfl

end Consistency

/-- A job that can be stopped and keeps its devices: it is in the map with a coordinator
that no other job has, `StopBackup` on it succeeds and cancels this coordinator and no
other, and a `StartBackup` that names one of its devices is refused. -/
structure JobService.Controlled (s : JobService) (job : Job) (thread : BackupThread) : Prop where
  counted : s.manager.inProgressMap.count job.backupUuid = true
  mapped : s.mapCoordinator job.backupUuid = some thread.coordinator
  valid : thread.coordinator < s.coordinators.length
  own : ∀ other, s.mapCoordinator other = some thread.coordinator → other = job.backupUuid
  stops : ∃ t, s.step (.manager (.stopBackup job.backupUuid)) = some t ∧
    t.manager.replies = s.manager.replies ++ [.stopped job.backupUuid] ∧
    t.coordinators = s.coordinators.modify thread.coordinator BackupCoordinator.cancel
  refuses : ∀ request other device,
    s.manager.starting = some ⟨request, other, .addToInProgressSet⟩ →
    device ∈ request.blockDeviceUuids → device ∈ job.blockDeviceUuids →
    ∃ t, s.step (.manager .addToInProgressSet) = some t ∧
      t.manager.replies = s.manager.replies ++ [.threw "Device is already being backed up"] ∧
      t.manager.starting = none ∧ t.manager.jobs = s.manager.jobs

/-- Job life cycle: in every state of every run, a UUID that `StartBackup` returned has a
status; each step leaves it or moves it from `NOT_STARTED` to `IN_PROGRESS` or from there
to a terminal one; and until it is terminal the job runs, with the coordinator of its
entry in the map, and is under control. -/
theorem job_life_cycle (events : List ServiceEvent) (s : JobService)
    (reached : run JobService.step .new events = some s) (uuid : String)
    (started : .started uuid ∈ s.manager.replies) :
    ∃ status, s.getReply uuid = some status ∧
      (∀ e t, s.step e = some t → ∃ next, t.getReply uuid = some next ∧ status.Moves next) ∧
      (status.isTerminal = false → ∃ job ∈ s.manager.jobs, job.backupUuid = uuid ∧
        ∃ thread, s.threads uuid = some thread ∧ s.Controlled job thread) := by
  obtain ⟨registered, inv⟩ := consistent_run reached
  obtain ⟨status, shown, present⟩ := status_of_started inv started
  refine ⟨status, shown, fun e t taken => status_step inv started shown taken, fun open' => ?_⟩
  obtain ⟨source, member, named⟩ := present open'
  obtain ⟨thread, _, found, _, _, _, mapped⟩ := inv.running source member
  have reserved := registered.jobsReserved source member
  obtain ⟨job, running, rfl⟩ := List.mem_map.mp member
  refine ⟨job, running, named, thread, named ▸ found, count_of_reserves reserved, mapped,
    inv.valid _ _ mapped, fun other also => inv.own _ _ _ also mapped, ?_, ?_⟩
  · exact stopBackup_step (count_of_reserves reserved) mapped
  · intro request other device starting asked taken
    exact addToInProgressSet_refused reserved starting asked taken

/-- A job that is stopped while it runs, with its thread up to the report. -/
def stoppedJob : List ServiceEvent :=
  [.manager (.startBackup ⟨[⟨"1b2c", "host", 1⟩], true⟩), .manager (.lock 0 "job-1"),
    .manager .addToInProgressSet, .manager (.createBackup twoDisks), .backupInProgress "job-1",
    .manager (.stopBackup "job-1"), .worker "job-1" .signalFinished,
    .manager (.finishSynchronizer "job-1" 0), .getFatalErrors "job-1", .isCancelled "job-1",
    .report "job-1"]

theorem job_life_cycle_stoppedJob :
    ∃ s, run JobService.step .new stoppedJob = some s ∧
      .started "job-1" ∈ s.manager.replies ∧ s.getReply "job-1" = some .cancelled ∧
      ∀ e t, s.step e = some t → t.getReply "job-1" = some .cancelled := by
  have evaluated : (run JobService.step .new stoppedJob).any fun s =>
      decide (.started "job-1" ∈ s.manager.replies ∧ s.getReply "job-1" = some .cancelled) := by
    decide +kernel
  obtain ⟨s, reached, test⟩ := (Option.any_eq_true _ _).mp evaluated
  obtain ⟨started, shown⟩ := of_decide_eq_true test
  refine ⟨s, reached, started, shown, fun e t taken => ?_⟩
  obtain ⟨status, found, moves, _⟩ := job_life_cycle stoppedJob s reached "job-1" started
  obtain rfl := Option.some.inj (shown.symm.trans found)
  obtain ⟨next, now, same | ⟨first, _⟩ | ⟨second, _⟩⟩ := moves e t taken
  · rw [now, same]
  · cases first
  · cases second

end LinuxAgent.Backup
