/- module: LinuxAgent/Backup/Seeding
   source: backup/backup_builder.cc, unsynced_sector_manager/unsynced_sector_manager.cc
   digest: When an incremental backup is admitted only on a store that a full one has filled. -/

import LinuxAgent.Backup.Builder

/-!
An incremental call is admitted when the device is traced. That is enough as
long as each full call that clears the store fills it again. `GetInUseSectors`
comes between the two, and when it throws the tracer keeps running over an empty
store.
-/

set_option autoImplicit false
set_option relaxedAutoImplicit false

namespace LinuxAgent.Backup

open LinuxAgent.Lib.Run LinuxAgent.UnsyncedSectors

/-- Whether the tracer runs after these actions. -/
def traced : List DeviceAction → Bool :=
  List.foldl (fun running action =>
    match action with
    | .tracerStarted => true
    | .tracerStopped => false
    | _ => running) false

/-- The interval was added, and the store has not been cleared since. -/
def AddedSinceClear (history : List DeviceAction) (interval : SectorInterval) : Prop :=
  ∃ before after, history = before ++ .added interval :: after ∧ .cleared ∉ after

/-- The device has been traced without a break since a full call, and every interval
in use that this call found was added after the last clear. -/
def Seeded (history : List DeviceAction) : Prop :=
  ∃ before intervals after, history = before ++ .inUse intervals :: after ∧
    traced before = true ∧ .tracerStopped ∉ after ∧
    ∀ interval ∈ intervals, AddedSinceClear history interval

/-- A full call of the unbroken trace found nothing in use. -/
def NothingInUse (history : List DeviceAction) : Prop :=
  ∃ before after, history = before ++ .inUse [] :: after ∧
    traced before = true ∧ .tracerStopped ∉ after

/-- Every incremental call that succeeds in this state has a seeded source. -/
def AdmitsSeededOnly (builder : BackupBuilder) : Prop :=
  ∀ vector world source synchronizer after,
    world.createMountableBlockDeviceFromUuid vector.blockDeviceUuid = .ok source →
    builder.createDeviceSynchronizer vector false world = (.ok synchronizer, after) →
    Seeded (builder.history source.devT)

/-- `GetInUseSectors` does not throw in a full call, unless nothing has to be seeded:
an earlier full call of the same trace found no sector in use. -/
def KeepsSeed (builder : BackupBuilder) : BuilderEvent → Prop
  | .createDeviceSynchronizer vector true world =>
      ∀ device, InUseThrows builder vector world device → NothingInUse (builder.history device)
  | _ => True

section Histories

variable {history : List DeviceAction} {action : DeviceAction} {interval : SectorInterval}

/-- Where the last element of a list is when the list is split at an element. -/
private theorem split_concat {α : Type*} {list before after : List α} {last x : α}
    (split : list ++ [last] = before ++ x :: after) :
    (last = x ∧ after = []) ∨
      ∃ earlier, after = earlier ++ [last] ∧ list = before ++ x :: earlier := by
  rcases List.eq_nil_or_concat after with rfl | ⟨earlier, final, rfl⟩
  · exact Or.inl ⟨(List.append_inj' split rfl).2 |> List.singleton_inj.mp, rfl⟩
  · rw [List.concat_eq_append, ← List.cons_append, ← List.append_assoc] at split
    obtain ⟨rfl, same⟩ := List.append_inj' split rfl
    obtain rfl := List.singleton_inj.mp same
    exact Or.inr ⟨earlier, by simp, rfl⟩

theorem traced_append_of_running {before after : List DeviceAction}
    (running : traced before = true) (unbroken : .tracerStopped ∉ after) :
    traced (before ++ after) = true := by
  induction after using List.reverseRecOn with
  | nil => simpa using running
  | append_singleton after last ih =>
      have earlier := ih fun member => unbroken (List.mem_append_left _ member)
      rw [← List.append_assoc, traced, List.foldl_append]
      cases last with
      | tracerStopped => exact absurd (by simp) unbroken
      | tracerStarted => rfl
      | cleared => exact earlier
      | inUse intervals => exact earlier
      | added interval => exact earlier

theorem traced_started : traced (history ++ [.tracerStarted]) = true := by
  simp [traced]

theorem traced_stopped : traced (history ++ [.tracerStopped]) = false := by
  simp [traced]

theorem NothingInUse.traced_history (nothing : NothingInUse history) :
    traced history = true := by
  obtain ⟨before, after, rfl, running, unbroken⟩ := nothing
  exact traced_append_of_running running (by simpa using unbroken)

/-- Starting a tracer does not add an answer of `GetInUseSectors`. -/
private theorem nothingInUse_of_started
    (nothing : NothingInUse (history ++ [.tracerStarted])) : NothingInUse history := by
  obtain ⟨before, after, split, running, unbroken⟩ := nothing
  rcases split_concat split with ⟨same, _⟩ | ⟨earlier, rfl, rfl⟩
  · cases same
  · exact ⟨before, earlier, rfl, running, fun member => unbroken (by simp [member])⟩

private theorem not_added_of_cleared : ¬ AddedSinceClear (history ++ [.cleared]) interval := by
  rintro ⟨before, after, split, kept⟩
  rcases split_concat split with ⟨same, _⟩ | ⟨earlier, rfl, rfl⟩
  · cases same
  · exact kept (by simp)

/-- A store that has just been cleared is seeded only if nothing was owed to it. -/
theorem seeded_cleared_iff : Seeded (history ++ [.cleared]) ↔ NothingInUse history := by
  constructor
  · rintro ⟨before, intervals, after, split, running, unbroken, added⟩
    rcases split_concat split with ⟨same, _⟩ | ⟨earlier, rfl, rfl⟩
    · cases same
    · have none : intervals = [] := by
        refine List.eq_nil_iff_forall_not_mem.mpr fun interval member => ?_
        exact not_added_of_cleared (added interval member)
      subst none
      exact ⟨before, earlier, rfl, running, fun member => unbroken (by simp [member])⟩
  · rintro ⟨before, after, rfl, running, unbroken⟩
    refine ⟨before, [], after ++ [.cleared], by simp, running, ?_, by simp⟩
    simpa using unbroken

/-- A full call that is not interrupted seeds the store. -/
theorem seeded_filled (intervals : List SectorInterval) (running : traced history = true) :
    Seeded (history ++ .cleared :: .inUse intervals :: intervals.map .added) := by
  refine ⟨history ++ [.cleared], intervals, intervals.map .added, by simp,
    traced_append_of_running running (by simp), by simp, fun interval member => ?_⟩
  obtain ⟨first, rest, rfl⟩ := List.append_of_mem member
  exact ⟨history ++ .cleared :: .inUse (first ++ interval :: rest) :: first.map .added,
    rest.map .added, by simp, by simp⟩

end Histories

section Steps

variable {builder after : BackupBuilder} {vector : Vector} {world : Surroundings}
  {device : DevT}

/-- The histories are right about the tracers, and traced devices are seeded. -/
structure SeededWhenTraced (builder : BackupBuilder) : Prop where
  recorded : ∀ device, builder.sectorManager.isTracing device = traced (builder.history device)
  seeded : ∀ device, traced (builder.history device) = true → Seeded (builder.history device)

private theorem seededWhenTraced_new : SeededWhenTraced .new :=
  ⟨fun _ => rfl, fun _ running => by cases running⟩

private theorem traced_opening {opening : List DeviceAction}
    (inv : SeededWhenTraced builder) (opens : Opening builder device opening) :
    traced (builder.history device ++ opening) = true := by
  cases opens with
  | traced tracing =>
      rw [List.append_nil, ← inv.recorded device]
      exact tracing
  | started idle => exact traced_started

/-- Actions on one traced device keep the invariant when they leave it seeded. -/
private theorem seededWhenTraced_performed {actions : List DeviceAction}
    (inv : SeededWhenTraced builder) (done : Performed builder device actions after)
    (running : traced (builder.history device ++ actions) = true)
    (filled : Seeded (builder.history device ++ actions)) : SeededWhenTraced after := by
  constructor
  · intro other
    rw [done.tracing other, done.history]
    by_cases same : other = device
    · subst same
      simp [running]
    · simp [same, inv.recorded other]
  · intro other
    rw [done.history]
    by_cases same : other = device
    · subst same
      simpa using fun _ => filled
    · simpa [same] using inv.seeded other

private theorem seededWhenTraced_same (inv : SeededWhenTraced builder)
    (tracing : ∀ device, after.sectorManager.isTracing device =
      builder.sectorManager.isTracing device)
    (history : after.history = builder.history) : SeededWhenTraced after := by
  refine ⟨fun device => ?_, fun device => ?_⟩
  · rw [tracing device, history]
    exact inv.recorded device
  · rw [history]
    exact inv.seeded device

private theorem seededWhenTraced_stopTracer (inv : SeededWhenTraced builder) :
    SeededWhenTraced (builder.stopTracer device) := by
  refine ⟨fun other => ?_, fun other => ?_⟩
  · by_cases same : other = device
    · subst same
      simp [BackupBuilder.stopTracer, BackupBuilder.record, traced_stopped]
    · simp [BackupBuilder.stopTracer, BackupBuilder.record, same, inv.recorded other]
  · by_cases same : other = device
    · subst same
      simp [BackupBuilder.stopTracer, BackupBuilder.record, traced_stopped]
    · simpa [BackupBuilder.stopTracer, BackupBuilder.record, same] using inv.seeded other

private theorem seededWhenTraced_created {isFull : Bool}
    {result : Except String NewSynchronizer} (inv : SeededWhenTraced builder)
    (keeps : KeepsSeed builder (.createDeviceSynchronizer vector isFull world))
    (created : Creation builder vector world isFull result after) : SeededWhenTraced after := by
  cases created with
  | refused tracing history _ => exact seededWhenTraced_same inv tracing history
  | admitted _ _ => exact inv
  | @unseeded device opening what after throws opens done =>
      have nothing := keeps device throws
      have running := nothing.traced_history
      cases opens with
      | traced _ =>
          exact seededWhenTraced_performed inv done
            (traced_append_of_running running (by simp)) (seeded_cleared_iff.mpr nothing)
      | started idle =>
          rw [inv.recorded device, running] at idle
          cases idle
  | @seeded source opening intervals result after _ _ opens done =>
      have running := traced_opening inv opens
      refine seededWhenTraced_performed inv done ?_ ?_
      · rw [← List.append_assoc]
        exact traced_append_of_running running (by simp)
      · rw [← List.append_assoc]
        exact seeded_filled intervals running

private theorem seededWhenTraced_step {event : BuilderEvent} (inv : SeededWhenTraced builder)
    (keeps : KeepsSeed builder event) (taken : builder.step event = some after) :
    SeededWhenTraced after := by
  cases event with
  | createDeviceSynchronizer vector isFull world =>
      obtain rfl := Option.some.inj taken
      exact seededWhenTraced_created inv keeps (creation rfl)
  | stopTracer device =>
      obtain rfl := Option.some.inj taken
      exact seededWhenTraced_stopTracer inv
  | storeCall device call =>
      simp only [BackupBuilder.step] at taken
      split_ifs at taken
      obtain ⟨store, _, rfl⟩ := Option.map_eq_some_iff.mp taken
      exact seededWhenTraced_same inv
        (fun other => builder.sectorManager.isTracing_changeStore device other fun _ => store) rfl

/-- An incremental call that succeeds finds its source traced. -/
private theorem traced_of_admitted {source : BlockDevice} {synchronizer : NewSynchronizer}
    (found : world.createMountableBlockDeviceFromUuid vector.blockDeviceUuid = .ok source)
    (called : builder.createDeviceSynchronizer vector false world = (.ok synchronizer, after)) :
    builder.sectorManager.isTracing source.devT = true := by
  cases creation called with
  | @admitted other _ again tracing =>
      obtain rfl : source = other := Except.ok.inj (found.symm.trans again)
      exact tracing

private theorem admitsSeededOnly_of_inv (inv : SeededWhenTraced builder) :
    AdmitsSeededOnly builder := by
  intro vector world source synchronizer after found called
  have tracing := traced_of_admitted found called
  rw [inv.recorded source.devT] at tracing
  exact inv.seeded source.devT tracing

/-- Surroundings in which nothing fails for an incremental call on the device. -/
private def calm (device : DevT) : Surroundings where
  createMountableBlockDeviceFromUuid _ := .ok ⟨device, 0⟩
  createRemoteBlockDevice _ _ := .ok ⟨device + 1, 0⟩
  createDeviceTracer _ := none
  getInUseSectors _ := .ok []

private theorem admitted_when_traced
    (tracing : builder.sectorManager.isTracing device = true) :
    builder.createDeviceSynchronizer ⟨"", "", 0⟩ false (calm device) =
      (.ok ⟨"", ⟨device, 0⟩, ⟨device + 1, 0⟩⟩, builder) := by
  have apart : device ≠ device + 1 := by
    intro same
    have numbers := congrArg UInt64.toNat same
    rw [UInt64.toNat_add, UInt64.toNat_one] at numbers
    have wide := device.toNat_lt
    omega
  simp [BackupBuilder.createDeviceSynchronizer, BackupBuilder.ensureTracing, tracing, calm,
    NewSynchronizer.make, apart]

/-- When `GetInUseSectors` throws, the device is traced and its store is empty. -/
private theorem performed_of_throws (throws : InUseThrows builder vector world device)
    {result : Except String NewSynchronizer}
    (called : builder.createDeviceSynchronizer vector true world = (result, after)) :
    ∃ opening, Opening builder device opening ∧
      Performed builder device (opening ++ [.cleared]) after := by
  obtain ⟨source, remote, what, found, rfl, reached, starts, failed⟩ := throws
  cases creation called with
  | refused _ _ early =>
      exact absurd ⟨source, remote, what, found, rfl, reached, starts, failed⟩
        (early rfl source.devT)
  | unseeded throws opens done =>
      obtain ⟨other, _, _, again, rfl, _⟩ := throws
      obtain rfl : source = other := Except.ok.inj (found.symm.trans again)
      exact ⟨_, opens, done⟩
  | @seeded other _ _ _ _ again answered _ _ =>
      obtain rfl : source = other := Except.ok.inj (found.symm.trans again)
      rw [failed] at answered
      cases answered

private theorem not_admitsSeededOnly_of_throws
    (throws : InUseThrows builder vector world device)
    (owed : ¬ NothingInUse (builder.history device))
    (taken : builder.step (.createDeviceSynchronizer vector true world) = some after) :
    ¬ AdmitsSeededOnly after := by
  intro admits
  obtain rfl := Option.some.inj taken
  obtain ⟨opening, opens, done⟩ := performed_of_throws throws (Prod.mk.eta).symm
  have running := done.traced
  have seeded := admits _ _ _ _ _ rfl (admitted_when_traced running)
  change Seeded ((builder.createDeviceSynchronizer vector true world).2.history device) at seeded
  rw [done.history, Function.update_self, ← List.append_assoc, seeded_cleared_iff] at seeded
  cases opens with
  | traced _ => exact owed (by simpa using seeded)
  | started _ => exact owed (nothingInUse_of_started seeded)

end Steps

/-- Incremental calls are admitted on seeded stores only, in every state of a run,
exactly when no full call of the run clears a store and then fails to learn what is
in use. -/
theorem admitsSeededOnly_iff (events : List BuilderEvent)
    (completes : (run BackupBuilder.step .new events).isSome) :
    (∀ before after builder, events = before ++ after →
      run BackupBuilder.step .new before = some builder → AdmitsSeededOnly builder) ↔
      Along BackupBuilder.step KeepsSeed .new events := by
  refine good_iff_along (Q := fun _ => True) (I := SeededWhenTraced)
    (fun builder => admitsSeededOnly_of_inv)
    (fun builder event after inv _ keeps taken => seededWhenTraced_step inv keeps taken)
    ?_ seededWhenTraced_new (fun _ _ => trivial) completes
  intro builder event after inv _ broken taken
  cases event with
  | createDeviceSynchronizer vector isFull world =>
      cases isFull with
      | false => exact absurd trivial broken
      | true =>
          simp only [KeepsSeed, not_forall] at broken
          obtain ⟨device, throws, owed⟩ := broken
          exact not_admitsSeededOnly_of_throws throws owed taken
  | stopTracer device => exact absurd trivial broken
  | storeCall device call => exact absurd trivial broken

/-- The disk with number 8, its copy on another host, and the given answer about the
sectors in use. -/
def diskWorld (inUse : Except String (List SectorInterval)) : Surroundings where
  createMountableBlockDeviceFromUuid _ := .ok ⟨8, 4096⟩
  createRemoteBlockDevice _ _ := .ok ⟨43, 4096⟩
  createDeviceTracer _ := none
  getInUseSectors _ := inUse

def diskVector : Vector := ⟨"1b2c", "backup-host", 10809⟩

/-- A full backup, a write that is traced, and an incremental backup. -/
def fullThenIncremental : List BuilderEvent :=
  [.createDeviceSynchronizer diskVector true (diskWorld (.ok [⟨0, 4⟩, ⟨6, 8⟩])),
    .storeCall 8 (.addInterval ⟨2, 3⟩ 1000),
    .createDeviceSynchronizer diskVector false (diskWorld (.ok []))]

theorem admitsSeededOnly_iff_fullThenIncremental :
    (∀ before after builder, fullThenIncremental = before ++ after →
      run BackupBuilder.step .new before = some builder → AdmitsSeededOnly builder) ↔
      Along BackupBuilder.step KeepsSeed .new fullThenIncremental :=
  admitsSeededOnly_iff fullThenIncremental (by decide +kernel)

/-- A full backup whose filesystem cannot be read. -/
def interruptedSeed : List BuilderEvent :=
  [.createDeviceSynchronizer diskVector true
    (diskWorld (.error "Unable to read bitmap"))]

/-- After the interrupted full backup an incremental one succeeds on an empty store. -/
theorem interruptedSeed_admitted : ∃ builder synchronizer,
    run BackupBuilder.step .new interruptedSeed = some builder ∧
    builder.createDeviceSynchronizer diskVector false (diskWorld (.ok [])) =
      (.ok synchronizer, builder) ∧
    ¬ Seeded (builder.history 8) ∧
    ∀ sector, ¬ (builder.sectorManager.storeOf 8).Unsynced sector := by
  refine ⟨_, _, rfl, rfl, ?_, fun sector => ?_⟩
  · rintro ⟨before, intervals, after, split, _⟩
    have member : DeviceAction.inUse intervals ∈ [.tracerStarted, .cleared] := by
      have whole : [DeviceAction.tracerStarted, .cleared] = before ++ .inUse intervals :: after :=
        split
      rw [whole]
      simp
    simp at member
  · change ¬ (none : Option TimeT).isSome = true
    simp

section Stores

variable {builder after : BackupBuilder} {device : DevT} {history : List DeviceAction}
  {action : DeviceAction} {interval : SectorInterval}

/-- The sectors that were added since the last clear are in the store, still unsynced
or handed out for copying. -/
structure Backed (builder : BackupBuilder) : Prop where
  seconds : ∀ device, (builder.sectorManager.storeOf device).volatileSeconds =
    UnsyncedSectorManager.volatileSeconds
  accounted : ∀ device interval, AddedSinceClear (builder.history device) interval →
    ∀ sector ∈ interval, (builder.sectorManager.storeOf device).Accounted sector

private theorem backed_new : Backed .new := by
  refine ⟨fun _ => rfl, fun device interval added => ?_⟩
  obtain ⟨before, after, split, _⟩ := added
  have empty : ([] : List DeviceAction) = before ++ .added interval :: after := split
  simp at empty

private theorem addedSinceClear_concat (added : AddedSinceClear (history ++ [action]) interval) :
    action = .added interval ∨ AddedSinceClear history interval := by
  obtain ⟨before, after, split, kept⟩ := added
  rcases split_concat split with ⟨same, _⟩ | ⟨earlier, rfl, rfl⟩
  · exact Or.inl same
  · exact Or.inr ⟨before, earlier, rfl, fun member => kept (by simp [member])⟩

/-- One action that changes the store of its device and is recorded. -/
private theorem backed_action {manager : UnsyncedSectorManager} {store : UnsyncedSectorStore}
    (inv : Backed builder)
    (stores : ∀ other, manager.storeOf other =
      if other = device then store else builder.sectorManager.storeOf other)
    (seconds : store.volatileSeconds = UnsyncedSectorManager.volatileSeconds)
    (accounted : ∀ interval, AddedSinceClear (builder.history device ++ [action]) interval →
      ∀ sector ∈ interval, store.Accounted sector) :
    Backed ({ builder with sectorManager := manager }.record device [action]) := by
  refine ⟨fun other => ?_, fun other interval => ?_⟩
  · change (manager.storeOf other).volatileSeconds = _
    rw [stores other]
    split_ifs
    · exact seconds
    · exact inv.seconds other
  · change AddedSinceClear (Function.update builder.history device
      (builder.history device ++ [action]) other) interval →
        ∀ sector ∈ interval, (manager.storeOf other).Accounted sector
    rw [stores other]
    by_cases same : other = device
    · subst same
      simpa using accounted interval
    · simpa [same] using inv.accounted other interval

/-- An action on the tracer, or an answer that is only noted. -/
private theorem backed_noted {manager : UnsyncedSectorManager} (inv : Backed builder)
    (stores : ∀ other, manager.storeOf other = builder.sectorManager.storeOf other)
    (noAdd : ∀ interval, action ≠ .added interval) :
    Backed ({ builder with sectorManager := manager }.record device [action]) := by
  refine backed_action inv (fun other => ?_) (inv.seconds device) fun interval added => ?_
  · rw [stores other]
    split_ifs with same
    · rw [same]
    · rfl
  · exact inv.accounted device interval ((addedSinceClear_concat added).resolve_left
      (noAdd interval))

private theorem backed_clearIntervals (device : DevT) (inv : Backed builder) :
    Backed (builder.clearIntervals device) :=
  backed_action inv (builder.sectorManager.storeOf_changeStore device · _) (inv.seconds device)
    fun _ added => absurd added not_added_of_cleared

private theorem backed_addNonVolatileInterval (inv : Backed builder)
    (interval : SectorInterval) :
    Backed (builder.addNonVolatileInterval device interval) := by
  refine backed_action inv (builder.sectorManager.storeOf_changeStore device · _)
    (inv.seconds device) fun other added sector inside => ?_
  refine accounted_call (c := .addNonVolatileInterval interval) rfl rfl trivial ?_
  rcases addedSinceClear_concat added with here | earlier
  · obtain rfl := DeviceAction.added.inj here
    exact Or.inl inside
  · exact Or.inr (inv.accounted device other earlier sector inside)

private theorem backed_seed {world : Surroundings} (inv : Backed builder) :
    Backed (builder.seed device world).2 := by
  have adds (intervals : List SectorInterval) (start : BackupBuilder) (inv : Backed start) :
      Backed (intervals.foldl (BackupBuilder.addNonVolatileInterval device) start) := by
    induction intervals generalizing start with
    | nil => exact inv
    | cons interval intervals ih => exact ih _ (backed_addNonVolatileInterval inv interval)
  have emptied := backed_clearIntervals device inv
  unfold BackupBuilder.seed
  cases world.getInUseSectors device with
  | error what => exact emptied
  | ok intervals => exact adds intervals _ (backed_noted emptied (fun _ => rfl) (by simp))

private theorem backed_ensureTracing (device : DevT) (isFull : Bool) (world : Surroundings)
    (inv : Backed builder) : Backed (builder.ensureTracing device isFull world).2 := by
  have stores := builder.sectorManager.storeOf_startTracer device
  unfold BackupBuilder.ensureTracing
  split_ifs
  · exact inv
  · split
    · rename_i what manager started
      have same (other : DevT) := stores other (world.createDeviceTracer device)
      rw [started] at same
      refine ⟨fun other => ?_, fun other => ?_⟩
      · change (manager.storeOf other).volatileSeconds = _
        rw [same other]
        exact inv.seconds other
      · change ∀ interval, AddedSinceClear (builder.history other) interval →
          ∀ sector ∈ interval, (manager.storeOf other).Accounted sector
        rw [same other]
        exact inv.accounted other
    · rename_i manager started
      have same (other : DevT) := stores other (world.createDeviceTracer device)
      rw [started] at same
      exact backed_noted inv same (by simp)
  · exact inv

private theorem backed_createDeviceSynchronizer {vector : Vector} {isFull : Bool}
    {world : Surroundings} (inv : Backed builder) :
    Backed (builder.createDeviceSynchronizer vector isFull world).2 := by
  unfold BackupBuilder.createDeviceSynchronizer
  split
  · exact inv
  · rename_i source _
    split
    · exact inv
    · have opened := backed_ensureTracing source.devT isFull world inv
      split
      · rename_i ended
        rwa [ended] at opened
      · rename_i middle ended
        rw [ended] at opened
        have filled : Backed
            (if isFull then middle.seed source.devT world else (.ok (), middle)).2 := by
          split_ifs
          · exact backed_seed opened
          · exact opened
        split
        · rename_i closed
          rwa [closed] at filled
        · rename_i closed
          rwa [closed] at filled

private theorem losesNothing_ofWorker {store next : UnsyncedSectorStore} {call : StoreCall}
    (seconds : store.volatileSeconds = UnsyncedSectorManager.volatileSeconds)
    (worker : call.ofWorker = true) (taken : store.call call = some next) :
    call.clears = false ∧ LosesNothing store call ∧
      next.volatileSeconds = UnsyncedSectorManager.volatileSeconds := by
  cases call with
  | addInterval interval epoch =>
      obtain ⟨passed, rfl⟩ := (store.addInterval_eq_some interval epoch).mp taken
      refine ⟨rfl, fun zero => ?_, seconds⟩
      rw [seconds, zero] at passed
      exact absurd passed (by decide)
  | removeInterval interval =>
      obtain rfl := Option.some.inj taken
      exact ⟨rfl, trivial, seconds⟩
  | getInterval epoch =>
      obtain ⟨cursor, rfl⟩ := call_getInterval taken
      exact ⟨rfl, trivial, seconds⟩
  | addNonVolatileInterval _ => cases worker
  | clearIntervals => cases worker
  | clearSyncHistory => cases worker
  | reInsertSyncHistory => cases worker

private theorem backed_step {event : BuilderEvent} (inv : Backed builder)
    (taken : builder.step event = some after) : Backed after := by
  cases event with
  | createDeviceSynchronizer vector isFull world =>
      obtain rfl := Option.some.inj taken
      exact backed_createDeviceSynchronizer inv
  | stopTracer device =>
      obtain rfl := Option.some.inj taken
      exact backed_noted inv (builder.sectorManager.storeOf_stopTracer device) (by simp)
  | storeCall device call =>
      simp only [BackupBuilder.step] at taken
      split_ifs at taken with worker
      obtain ⟨store, called, rfl⟩ := Option.map_eq_some_iff.mp taken
      obtain ⟨kept, safe, seconds⟩ := losesNothing_ofWorker (inv.seconds device) worker called
      have stores := builder.sectorManager.storeOf_changeStore device
      refine ⟨fun other => ?_, fun other interval added sector inside => ?_⟩
      · rw [stores other]
        split_ifs
        · exact seconds
        · exact inv.seconds other
      · have before := inv.accounted other interval added sector inside
        rw [stores other]
        split_ifs with same
        · subst same
          exact accounted_call called kept safe (Or.inr before)
        · exact before

theorem backed_of_run {events : List BuilderEvent}
    (reached : run BackupBuilder.step .new events = some builder) : Backed builder :=
  invariant (I := Backed) (fun _ _ _ inv taken => backed_step inv taken) backed_new reached

/-- When an incremental call is admitted in a run that keeps the seeds, the sectors that
its full call found in use are all unsynced or already handed out for copying. -/
theorem admitted_accounted {events : List BuilderEvent}
    (keeps : Along BackupBuilder.step KeepsSeed .new events)
    (reached : run BackupBuilder.step .new events = some builder)
    {vector : Vector} {world : Surroundings} {source : BlockDevice}
    {synchronizer : NewSynchronizer}
    (found : world.createMountableBlockDeviceFromUuid vector.blockDeviceUuid = .ok source)
    (called : builder.createDeviceSynchronizer vector false world = (.ok synchronizer, after)) :
    ∃ before intervals rest,
      builder.history source.devT = before ++ .inUse intervals :: rest ∧
      .tracerStopped ∉ rest ∧
      ∀ interval ∈ intervals, ∀ sector ∈ interval,
        (builder.sectorManager.storeOf source.devT).Accounted sector := by
  have inv := invariant_along (I := SeededWhenTraced)
    (fun _ _ _ inv keeps taken => seededWhenTraced_step inv keeps taken)
    seededWhenTraced_new keeps reached
  have backed := backed_of_run reached
  obtain ⟨before, intervals, rest, split, _, unbroken, added⟩ :=
    admitsSeededOnly_of_inv inv vector world source synchronizer after found called
  exact ⟨before, intervals, rest, split, unbroken, fun interval member =>
    backed.accounted source.devT interval (added interval member)⟩

end Stores

end LinuxAgent.Backup
