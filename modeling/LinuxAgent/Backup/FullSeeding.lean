/- module: LinuxAgent/Backup/FullSeeding
   source: backup/backup_builder.cc (CreateDeviceSynchronizer), tracing/trace_handler.cc,
           unsynced_sector_manager/unsynced_sector_store.cc
   digest: Applications write while a full call seeds the store, and no write is lost. -/

import LinuxAgent.Backup.CreationSteps
import LinuxAgent.Backup.Seeding

/-!
A trace that comes before `ClearIntervals` is wiped out again, so the snapshot of the
sectors in use, which is taken after it, has to make up for it. A trace that comes later
meets the intervals of the snapshot in the store, and the larger epoch stays.
-/

set_option autoImplicit false
set_option relaxedAutoImplicit false

namespace LinuxAgent.Backup

open LinuxAgent.Lib.Run LinuxAgent.Lib.Segments LinuxAgent.UnsyncedSectors
open LinuxAgent.Tracing LinuxAgent.Synchronizer

/-- A sector that was free at the snapshot comes into use only by a write to it. -/
def AllocatesByWriting {β : Type*} (call : CreationCall β) : CallEvent β → Prop
  | .change device inUse =>
      match call.point with
      | .seeding source _ inUseSet _ =>
          device = source.devT → ∀ sector, (inUse.lookup sector).isSome = true →
            (call.disks device).InUse sector ∨ ∃ interval ∈ inUseSet, sector ∈ interval
      | _ => True
  | _ => True

/-- The answer of `GetInterval` for the sector would be "volatile". -/
def VolatileSector (store : UnsyncedSectorStore) (sector : ℕ) (now : TimeT) : Prop :=
  ∃ epoch, store.epochOf sector = some epoch ∧ epoch > now - store.volatileSeconds

/-- Nothing that is written during a full call on the device is lost when it returns. -/
structure LosesNoWrite {β : Type*} (vector : Vector) (start last : CreationCall β)
    (events : List (CallEvent β)) (device : DevT) : Prop where
  inUse : ∀ sector, (last.disks device).InUse sector → (last.device device).Covered sector
  traced : ∀ before index now after middle trace sector,
    events = before ++ .deliver device index now :: after →
    run (CreationCall.step vector true) start before = some middle →
    middle.point.pastClear = true → (middle.disks device).inFlight[index]? = some trace →
    trace.Covers sector →
    ∃ epoch, (last.device device).store.epochOf sector = some epoch ∧ now ≤ epoch
  staysVolatile : ∀ before after middle sector now, events = before ++ after →
    run (CreationCall.step vector true) start before = some middle →
    middle.point.pastClear = true → VolatileSector (middle.device device).store sector now →
    VolatileSector (last.device device).store sector now

section Epochs

variable {store middle after : UnsyncedSectorStore}

/-- Every sector of the store stays in it, and its epoch does not fall. -/
structure EpochsGrow (before after : UnsyncedSectorStore) : Prop where
  seconds : after.volatileSeconds = before.volatileSeconds
  epochs : ∀ sector epoch, before.epochOf sector = some epoch →
    ∃ later, after.epochOf sector = some later ∧ epoch ≤ later

theorem EpochsGrow.refl (store : UnsyncedSectorStore) : EpochsGrow store store :=
  ⟨rfl, fun _ epoch recorded => ⟨epoch, recorded, le_rfl⟩⟩

theorem EpochsGrow.trans (first : EpochsGrow store middle) (second : EpochsGrow middle after) :
    EpochsGrow store after := by
  refine ⟨second.seconds.trans first.seconds, fun sector epoch recorded => ?_⟩
  obtain ⟨later, kept, grown⟩ := first.epochs sector epoch recorded
  obtain ⟨last, keptAgain, grownAgain⟩ := second.epochs sector later kept
  exact ⟨last, keptAgain, grown.trans grownAgain⟩

theorem EpochsGrow.unsynced (grow : EpochsGrow store after) {sector : ℕ}
    (unsynced : store.Unsynced sector) : after.Unsynced sector := by
  obtain ⟨epoch, recorded⟩ := Option.isSome_iff_exists.mp unsynced
  obtain ⟨later, kept, _⟩ := grow.epochs sector epoch recorded
  exact Option.isSome_iff_exists.mpr ⟨later, kept⟩

theorem EpochsGrow.volatileSector (grow : EpochsGrow store after) {sector : ℕ} {now : TimeT}
    (isVolatile : VolatileSector store sector now) : VolatileSector after sector now := by
  obtain ⟨epoch, recorded, recent⟩ := isVolatile
  obtain ⟨later, kept, grown⟩ := grow.epochs sector epoch recorded
  refine ⟨later, kept, ?_⟩
  rw [grow.seconds]
  exact lt_of_lt_of_le recent grown

/-- Epochs combine to the larger one, so seeding leaves those of fresh traces alone. -/
theorem epochsGrow_addNonVolatileInterval (store : UnsyncedSectorStore)
    (interval : SectorInterval) : EpochsGrow store (store.addNonVolatileInterval interval) := by
  refine ⟨rfl, fun sector epoch recorded => ?_⟩
  rw [UnsyncedSectorStore.epochOf_addNonVolatileInterval, recorded]
  split_ifs
  · exact ⟨max epoch 1, rfl, le_max_left epoch 1⟩
  · exact ⟨epoch, rfl, le_rfl⟩

theorem epochsGrow_addTrace {trace : BlkIoTrace} {now : TimeT}
    (forward : 0 ≤ store.volatileSeconds) (added : addTrace store trace now = some after) :
    EpochsGrow store after := by
  obtain ⟨seconds, epochs⟩ := addTrace_eq_some forward added
  refine ⟨seconds, fun sector epoch recorded => ?_⟩
  rw [epochs, recorded]
  split_ifs
  · exact ⟨max epoch now, rfl, le_max_left epoch now⟩
  · exact ⟨epoch, rfl, le_rfl⟩

end Epochs

section Others

variable {β : Type*} {call after : CreationCall β} {device : DevT} {trace : BlkIoTrace}
  {contents : ℕ → β} {allocated : List SectorInterval} {index : ℕ} {now : TimeT}

/-- What the steps of the others leave to the call. -/
structure LeftAlone (call after : CreationCall β) : Prop where
  point : after.point = call.point
  tracing : ∀ device, after.builder.sectorManager.isTracing device =
    call.builder.sectorManager.isTracing device
  grow : ∀ device, EpochsGrow (call.device device).store (after.device device).store
  covered : ∀ device sector, (call.device device).Covered sector →
    (after.device device).Covered sector

private theorem leftAlone_of_device (device : DevT) (point : after.point = call.point)
    (tracing : ∀ device, after.builder.sectorManager.isTracing device =
      call.builder.sectorManager.isTracing device)
    (others : ∀ other ≠ device, after.device other = call.device other)
    (grow : EpochsGrow (call.device device).store (after.device device).store)
    (covered : ∀ sector, (call.device device).Covered sector →
      (after.device device).Covered sector) : LeftAlone call after := by
  refine ⟨point, tracing, fun other => ?_, fun other => ?_⟩
  · by_cases same : other = device
    · rw [same]
      exact grow
    · rw [others other same]
      exact EpochsGrow.refl _
  · by_cases same : other = device
    · rw [same]
      exact covered
    · rw [others other same]
      exact fun _ => id

private theorem leftAlone_write
    (taken : call.write device trace contents allocated = some after) :
    LeftAlone call after := by
  obtain ⟨_, written, moved, result⟩ := CreationCall.write_cases taken
  by_cases tracing : call.builder.sectorManager.isTracing device = true
  · have here := CreationCall.device_write tracing moved taken
    refine leftAlone_of_device device (by rw [result]) (fun _ => by rw [result])
      (fun other different => ?_) ?_ fun sector before => ?_
    · rw [result]
      exact CreationCall.device_of_ne different _
    · rw [here, (Device.write_eq_some.mp moved).2]
      exact EpochsGrow.refl _
    · rw [here]
      exact (Device.covered_write moved sector).mpr (Or.inr before)
  · refine leftAlone_of_device device (by rw [result]) (fun _ => by rw [result])
      (fun other different => ?_) ?_ fun sector before => ?_
    · rw [result]
      exact CreationCall.device_of_ne different _
    · rw [result]
      exact EpochsGrow.refl _
    · rw [result]
      simpa only [CreationCall.device, CreationCall.writtenDisk, Device.Covered,
        Function.update_self, if_neg tracing] using before

private theorem leftAlone_change (inUse : SectorSet) :
    LeftAlone call (call.change device inUse) := by
  refine leftAlone_of_device device rfl (fun _ => rfl)
    (fun other different => CreationCall.device_of_ne different _) (EpochsGrow.refl _)
    fun sector before => ?_
  simpa only [CreationCall.change, CreationCall.device, Device.Covered, Function.update_self]
    using before

private theorem leftAlone_deliver
    (forward : 0 ≤ (call.device device).store.volatileSeconds)
    (taken : call.deliver device index now = some after) : LeftAlone call after := by
  obtain ⟨handed, moved, result⟩ := CreationCall.deliver_cases taken
  have here := CreationCall.device_deliver moved taken
  refine leftAlone_of_device device (by rw [result])
    (fun other => by rw [result, UnsyncedSectorManager.isTracing_changeStore])
    (fun other different => CreationCall.device_deliver_of_ne different taken) ?_
    fun sector before => ?_
  · obtain ⟨trace, store, _, added, rfl⟩ := Device.deliver_eq_some.mp moved
    rw [here]
    exact epochsGrow_addTrace forward added
  · rw [here]
    exact (Device.covered_deliver forward moved sector).mpr before

private theorem inUse_allocated (sectors : SectorSet) (sector : ℕ) :
    ((allocated.foldl SectorSet.add sectors).lookup sector).isSome = true ↔
      (sectors.lookup sector).isSome = true ∨ ∃ interval ∈ allocated, sector ∈ interval := by
  induction allocated generalizing sectors with
  | nil => simp
  | cons interval allocated ih =>
      rw [List.foldl_cons, ih, SectorSet.contains_add, or_assoc]
      simp

private theorem covers_of_within (reports : Device.Reports trace) {interval : SectorInterval}
    {sector : ℕ} (within : trace.interval.lower ≤ interval.lower ∧
      interval.upper ≤ trace.interval.upper) (inside : sector ∈ interval) :
    trace.Covers sector := by
  have bounds := mem_interval.mp inside
  have member : sector ∈ trace.interval :=
    mem_interval.mpr ⟨within.1.trans bounds.1, lt_of_lt_of_le bounds.2 within.2⟩
  refine ⟨⟨reports.1, ?_⟩, member⟩
  by_contra none
  -- the interval of a trace without bytes is empty
  have zero : trace.bytes = 0 := by
    rw [← UInt32.toNat_inj]
    have := UInt32.lt_iff_toNat_lt.not.mp none
    simpa using this
  have range := mem_interval.mp member
  simp [BlkIoTrace.interval, zero] at range
  omega

/-- The sectors that a write to a traced device brings into use are covered by its trace. -/
theorem inUse_write (tracing : call.builder.sectorManager.isTracing device = true)
    (taken : call.write device trace contents allocated = some after) {sector : ℕ}
    (used : (after.disks device).InUse sector) :
    (call.disks device).InUse sector ∨ (after.device device).Covered sector := by
  obtain ⟨within, written, moved, result⟩ := CreationCall.write_cases taken
  have members : ((allocated.foldl SectorSet.add (call.disks device).inUse).lookup
      sector).isSome = true := by
    rw [result] at used
    simpa only [Disk.InUse, CreationCall.writtenDisk, Function.update_self] using used
  rcases (inUse_allocated _ sector).mp members with before | ⟨interval, member, inside⟩
  · exact Or.inl before
  · rw [CreationCall.device_write tracing moved taken]
    have covers := covers_of_within (Device.write_eq_some.mp moved).1 (within interval member)
      inside
    exact Or.inr ((Device.covered_write moved sector).mpr (Or.inl covers))

end Others

section Call

variable {β : Type*} {call after : CreationCall β} {vector : Vector} {world : Surroundings}

/-- Between the snapshot and the end of the loop: the intervals that have been added are
in the store, and what came into use since then has been traced. -/
private structure Seeding (call : CreationCall β) (source : DevT)
    (inUseSet remaining : List SectorInterval) : Prop where
  tracing : call.builder.sectorManager.isTracing source = true
  added : ∀ interval ∈ inUseSet, ∀ sector ∈ interval,
    (call.device source).store.Unsynced sector ∨ ∃ other ∈ remaining, sector ∈ other
  owed : ∀ sector, (call.disks source).InUse sector →
    (call.device source).Covered sector ∨ ∃ interval ∈ inUseSet, sector ∈ interval

private structure SeedingSound (call : CreationCall β) : Prop where
  seconds : ∀ device, (call.device device).store.volatileSeconds =
    UnsyncedSectorManager.volatileSeconds
  traced : ∀ source remote, call.point = .traced source remote ∨
    call.point = .cleared source remote →
    call.builder.sectorManager.isTracing source.devT = true
  seeding : ∀ source remote inUseSet remaining,
    call.point = .seeding source remote inUseSet remaining →
    Seeding call source.devT inUseSet remaining

private theorem SeedingSound.forward (sound : SeedingSound call) (device : DevT) :
    0 ≤ (call.device device).store.volatileSeconds := by
  rw [sound.seconds device]
  decide

/-- A step of the others keeps the invariant when new sectors in use are covered or
come from the snapshot. -/
private theorem sound_of_leftAlone (sound : SeedingSound call)
    (leftAlone : LeftAlone call after)
    (owed : ∀ source remote inUseSet remaining,
      call.point = .seeding source remote inUseSet remaining →
      Seeding call source.devT inUseSet remaining →
      ∀ sector, (after.disks source.devT).InUse sector →
        (call.disks source.devT).InUse sector ∨ (after.device source.devT).Covered sector ∨
          ∃ interval ∈ inUseSet, sector ∈ interval) : SeedingSound after := by
  refine ⟨fun device => ?_, fun source remote here => ?_, ?_⟩
  · rw [(leftAlone.grow device).seconds]
    exact sound.seconds device
  · rw [leftAlone.tracing]
    rw [leftAlone.point] at here
    exact sound.traced source remote here
  · intro source remote inUseSet remaining here
    rw [leftAlone.point] at here
    have before := sound.seeding source remote inUseSet remaining here
    refine ⟨(leftAlone.tracing _).trans before.tracing, ?_, ?_⟩
    · intro interval member sector inside
      exact (before.added interval member sector inside).imp_left
        (leftAlone.grow source.devT).unsynced
    · intro sector used
      rcases owed source remote inUseSet remaining here before sector used with
        earlier | covered | snapshot
      · exact (before.owed sector earlier).imp_left (leftAlone.covered source.devT sector)
      · exact Or.inl covered
      · exact Or.inr snapshot

private theorem sound_write {device : DevT} {trace : BlkIoTrace} {contents : ℕ → β}
    {allocated : List SectorInterval} (sound : SeedingSound call)
    (taken : call.write device trace contents allocated = some after) : SeedingSound after := by
  refine sound_of_leftAlone sound (leftAlone_write taken) ?_
  intro source remote inUseSet remaining here seeding sector used
  by_cases same : source.devT = device
  · have tracing := seeding.tracing
    rw [same] at used tracing ⊢
    rcases inUse_write tracing taken used with before | covered
    · exact Or.inl before
    · exact Or.inr (Or.inl covered)
  · obtain ⟨_, _, _, rfl⟩ := CreationCall.write_cases taken
    simp only [Function.update_of_ne same] at used
    exact Or.inl used

private theorem sound_change {device : DevT} {inUse : SectorSet} (sound : SeedingSound call)
    (allocates : AllocatesByWriting call (.change device inUse)) :
    SeedingSound (call.change device inUse) := by
  refine sound_of_leftAlone sound (leftAlone_change inUse) ?_
  intro source remote inUseSet remaining here seeding sector used
  by_cases same : device = source.devT
  · simp only [AllocatesByWriting, here] at allocates
    subst same
    have members : (inUse.lookup sector).isSome = true := by
      simpa only [CreationCall.change, Disk.InUse, Function.update_self] using used
    exact (allocates rfl sector members).imp_right Or.inr
  · simp only [CreationCall.change, Function.update_of_ne (Ne.symm same)] at used
    exact Or.inl used

private theorem sound_deliver {device : DevT} {index : ℕ} {now : TimeT}
    (sound : SeedingSound call) (taken : call.deliver device index now = some after) :
    SeedingSound after := by
  refine sound_of_leftAlone sound (leftAlone_deliver (sound.forward device) taken) ?_
  intro source remote inUseSet remaining here seeding sector used
  obtain ⟨_, _, rfl⟩ := CreationCall.deliver_cases taken
  by_cases same : source.devT = device
  · simp only [same, Disk.InUse, Function.update_self] at used ⊢
    exact Or.inl used
  · simp only [Function.update_of_ne same] at used
    exact Or.inl used

private theorem sound_start {builder : BackupBuilder} (backed : Backed builder)
    (disks : DevT → Disk β) : SeedingSound (CreationCall.start builder disks) :=
  ⟨backed.seconds, by simp [CreationCall.start], by simp [CreationCall.start]⟩

private theorem storeOf_clear (builder : BackupBuilder) (source device : DevT) :
    (builder.clearIntervals source).sectorManager.storeOf device =
      if device = source then (builder.sectorManager.storeOf source).clearIntervals
      else builder.sectorManager.storeOf device :=
  builder.sectorManager.storeOf_changeStore source device _

private theorem storeOf_add (builder : BackupBuilder) (source device : DevT)
    (interval : SectorInterval) :
    (builder.addNonVolatileInterval source interval).sectorManager.storeOf device =
      if device = source then
        (builder.sectorManager.storeOf source).addNonVolatileInterval interval
      else builder.sectorManager.storeOf device :=
  builder.sectorManager.storeOf_changeStore source device (·.addNonVolatileInterval interval)

private theorem sound_cleared {source remote : BlockDevice} (sound : SeedingSound call)
    (here : call.point = .traced source remote) :
    SeedingSound { call with
      builder := call.builder.clearIntervals source.devT
      point := .cleared source remote } := by
  refine ⟨fun device => ?_, ?_, by simp⟩
  · simp only [CreationCall.device, storeOf_clear]
    split_ifs with same
    · exact sound.seconds source.devT
    · exact sound.seconds device
  · rintro other _ (same | same)
    · cases same
    · obtain ⟨rfl, _⟩ := CallPoint.cleared.inj same
      exact (UnsyncedSectorManager.isTracing_changeStore _ _ _ _).trans
        (sound.traced source remote (Or.inl here))

/-- The snapshot is everything that is in use. -/
private theorem sound_answered {source remote : BlockDevice} (sound : SeedingSound call)
    (here : call.point = .cleared source remote) :
    SeedingSound { call with
      builder := call.builder.record source.devT [.inUse (call.disks source.devT).intervals]
      point := .seeding source remote (call.disks source.devT).intervals
        (call.disks source.devT).intervals } := by
  refine ⟨sound.seconds, by simp, ?_⟩
  rintro other _ inUseSet remaining same
  obtain ⟨rfl, _, rfl, rfl⟩ := CallPoint.seeding.inj same
  refine ⟨sound.traced source remote (Or.inr here), ?_, fun sector used => Or.inr ?_⟩
  · intro interval member sector inside
    exact Or.inr ⟨interval, member, inside⟩
  · obtain ⟨present, found⟩ := Option.isSome_iff_exists.mp used
    obtain ⟨interval, member, inside⟩ := IntervalMap.exists_segment _ found
    exact ⟨interval, List.mem_map.mpr ⟨_, member, rfl⟩, inside⟩

private theorem grow_added (call : CreationCall β) (source device : DevT)
    (interval : SectorInterval) (point : CallPoint) :
    EpochsGrow (call.device device).store
      (CreationCall.device ⟨call.builder.addNonVolatileInterval source interval, call.disks,
        point⟩ device).store := by
  simp only [CreationCall.device, storeOf_add]
  split_ifs with same
  · rw [same]
    exact epochsGrow_addNonVolatileInterval _ interval
  · exact EpochsGrow.refl _

private theorem sound_added {source remote : BlockDevice} {interval : SectorInterval}
    {inUseSet remaining : List SectorInterval} (sound : SeedingSound call)
    (here : call.point = .seeding source remote inUseSet (interval :: remaining)) :
    SeedingSound { call with
      builder := call.builder.addNonVolatileInterval source.devT interval
      point := .seeding source remote inUseSet remaining } := by
  have grow := grow_added call source.devT
  refine ⟨fun device => ?_, by simp, ?_⟩
  · rw [(grow device interval _).seconds]
    exact sound.seconds device
  · rintro other _ _ _ same
    obtain ⟨rfl, _, rfl, rfl⟩ := CallPoint.seeding.inj same
    have before := sound.seeding source remote inUseSet _ here
    have tracing := call.builder.sectorManager.isTracing_changeStore source.devT source.devT
      (·.addNonVolatileInterval interval)
    refine ⟨tracing.trans before.tracing, ?_, ?_⟩
    · intro first member sector inside
      rcases before.added first member sector inside with unsynced | ⟨next, left, within⟩
      · exact Or.inl ((grow source.devT interval _).unsynced unsynced)
      · rcases List.mem_cons.mp left with rfl | later
        · left
          simp [CreationCall.device, storeOf_add, UnsyncedSectorStore.Unsynced, within]
        · exact Or.inr ⟨next, later, within⟩
    · intro sector used
      rcases before.owed sector used with (unsynced | inFlight) | snapshot
      · exact Or.inl (Or.inl ((grow source.devT interval _).unsynced unsynced))
      · exact Or.inl (Or.inr inFlight)
      · exact Or.inr snapshot

private theorem sound_fullStep (sound : SeedingSound call)
    (taken : FullStep vector call after) : SeedingSound after := by
  cases taken with
  | threw stores =>
      refine ⟨fun device => ?_, by simp, by simp⟩
      simp only [CreationCall.device, stores]
      exact sound.seconds device
  | found here => exact ⟨sound.seconds, by simp, by simp⟩
  | traced here stores tracing =>
      refine ⟨fun device => ?_, ?_, by simp⟩
      · simp only [CreationCall.device, stores]
        exact sound.seconds device
      · rintro other _ (same | same)
        · obtain ⟨rfl, _⟩ := CallPoint.traced.inj same
          exact tracing
        · cases same
  | cleared here => exact sound_cleared sound here
  | answered here now =>
      subst now
      exact sound_answered sound here
  | added here => exact sound_added sound here
  | made here => exact ⟨sound.seconds, by simp, by simp⟩

private theorem sound_step {event : CallEvent β} (sound : SeedingSound call)
    (allocates : AllocatesByWriting call event)
    (taken : call.step vector true event = some after) : SeedingSound after := by
  cases event with
  | write device trace contents allocated => exact sound_write sound taken
  | change device inUse =>
      obtain rfl := Option.some.inj taken
      exact sound_change sound allocates
  | deliver device index now => exact sound_deliver sound taken
  | proceed world => exact sound_fullStep sound (fullStep_of_proceed taken)

/-- From the clear on, no step lets an epoch fall. -/
private theorem grow_step {event : CallEvent β} (sound : SeedingSound call)
    (cleared : call.point.pastClear = true)
    (taken : call.step vector true event = some after) :
    after.point.pastClear = true ∧
      ∀ device, EpochsGrow (call.device device).store (after.device device).store := by
  have others (leftAlone : LeftAlone call after) : after.point.pastClear = true ∧
      ∀ device, EpochsGrow (call.device device).store (after.device device).store :=
    ⟨leftAlone.point ▸ cleared, leftAlone.grow⟩
  cases event with
  | write device trace contents allocated => exact others (leftAlone_write taken)
  | change device inUse =>
      obtain rfl := Option.some.inj taken
      exact others (leftAlone_change inUse)
  | deliver device index now =>
      exact others (leftAlone_deliver (sound.forward device) taken)
  | proceed world =>
      cases fullStep_of_proceed taken with
      | threw stores =>
          refine ⟨rfl, fun device => ?_⟩
          simp only [CreationCall.device, stores]
          exact EpochsGrow.refl _
      | found here => simp [here, CallPoint.pastClear] at cleared
      | traced here _ _ => simp [here, CallPoint.pastClear] at cleared
      | cleared here => simp [here, CallPoint.pastClear] at cleared
      | answered here _ => exact ⟨rfl, fun device => EpochsGrow.refl _⟩
      | added here => exact ⟨rfl, fun device => grow_added call _ device _ _⟩
      | made here => exact ⟨rfl, fun device => EpochsGrow.refl _⟩

private theorem grow_run {last : CreationCall β} {events : List (CallEvent β)}
    (sound : SeedingSound call) (cleared : call.point.pastClear = true)
    (allocates : Along (CreationCall.step vector true) AllocatesByWriting call events)
    (reached : run (CreationCall.step vector true) call events = some last) (device : DevT) :
    EpochsGrow (call.device device).store (last.device device).store := by
  have carried := invariant_along
    (I := fun middle => SeedingSound middle ∧ middle.point.pastClear = true ∧
      EpochsGrow (call.device device).store (middle.device device).store)
    (fun middle event next inv allocates taken => by
      obtain ⟨past, grow⟩ := grow_step inv.1 inv.2.1 taken
      exact ⟨sound_step inv.1 allocates taken, past, inv.2.2.trans (grow device)⟩)
    ⟨sound, cleared, EpochsGrow.refl _⟩ allocates reached
  exact carried.2.2

/-- The epoch of a sector when a trace that covers it has been handed over. -/
private theorem epoch_deliver {device : DevT} {index : ℕ} {now : TimeT} {trace : BlkIoTrace}
    {sector : ℕ} (sound : SeedingSound call)
    (taken : call.deliver device index now = some after)
    (found : (call.disks device).inFlight[index]? = some trace) (covers : trace.Covers sector) :
    ∃ epoch, (after.device device).store.epochOf sector = some epoch ∧ now ≤ epoch := by
  obtain ⟨handed, moved, _⟩ := CreationCall.deliver_cases taken
  rw [CreationCall.device_deliver moved taken]
  obtain ⟨other, store, same, added, rfl⟩ := Device.deliver_eq_some.mp moved
  obtain rfl : trace = other := Option.some.inj (found.symm.trans same)
  have epochs := (addTrace_eq_some (sound.forward device) added).2 sector
  rw [if_pos covers] at epochs
  cases recorded : (call.device device).store.epochOf sector with
  | none =>
      rw [recorded] at epochs
      exact ⟨now, epochs, le_rfl⟩
  | some epoch =>
      rw [recorded] at epochs
      exact ⟨max epoch now, epochs, le_max_right epoch now⟩

/-- A full call that returns a synchronizer ends its loop with this step. -/
private theorem covered_of_returns {synchronizer : NewSynchronizer} (sound : SeedingSound call)
    (taken : call.proceed vector true world = some after)
    (returns : after.point = .returned (.ok synchronizer)) (sector : ℕ)
    (used : (after.disks synchronizer.sourceDevice.devT).InUse sector) :
    (after.device synchronizer.sourceDevice.devT).Covered sector := by
  cases fullStep_of_proceed taken with
  | threw stores => cases returns
  | found here => cases returns
  | traced here stores tracing => cases returns
  | cleared here => cases returns
  | answered here now => cases returns
  | added here => cases returns
  | @made source remote inUseSet here =>
      have seeding := sound.seeding source remote inUseSet [] here
      have made : NewSynchronizer.make vector source remote = .ok synchronizer :=
        CallPoint.returned.inj returns
      have same : synchronizer.sourceDevice = source := by
        unfold NewSynchronizer.make at made
        split_ifs at made
        obtain rfl := Except.ok.inj made
        rfl
      subst same
      rcases seeding.owed sector used with covered | ⟨interval, member, inside⟩
      · exact covered
      · rcases seeding.added interval member sector inside with unsynced | ⟨_, none, _⟩
        · exact Or.inl unsynced
        · cases none

end Call

/-- Applications write, tracers hand over traces and the file system changes while a full
call runs, in any order. When the call returns a synchronizer, every sector in use is in
the store or has a trace in flight, and no trace since the clear has lost its epoch. -/
theorem fullCall_loses_no_write {β : Type*} {earlier : List BuilderEvent}
    {builder : BackupBuilder} (before : run BackupBuilder.step .new earlier = some builder)
    (vector : Vector) (disks : DevT → Disk β) {events : List (CallEvent β)}
    {world : Surroundings} {last : CreationCall β} {synchronizer : NewSynchronizer}
    (allocates : Along (CreationCall.step vector true) AllocatesByWriting (.start builder disks)
      (events ++ [.proceed world]))
    (reached : run (CreationCall.step vector true) (.start builder disks)
      (events ++ [.proceed world]) = some last)
    (returns : last.point = .returned (.ok synchronizer)) :
    LosesNoWrite vector (.start builder disks) last (events ++ [.proceed world])
      synchronizer.sourceDevice.devT := by
  have start := sound_start (backed_of_run before) disks
  -- every state of the run is sound, and epochs grow from there to the end
  have soundAt {past rest : List (CallEvent β)} {middle : CreationCall β}
      (split : events ++ [.proceed world] = past ++ rest)
      (there : run (CreationCall.step vector true) (.start builder disks) past = some middle) :
      SeedingSound middle ∧
        Along (CreationCall.step vector true) AllocatesByWriting middle rest ∧
        run (CreationCall.step vector true) middle rest = some last := by
    rw [split] at allocates reached
    obtain ⟨same, toMiddle, onward⟩ := run_append.mp reached
    obtain rfl : middle = same := Option.some.inj (there.symm.trans toMiddle)
    refine ⟨?_, along_after allocates there, onward⟩
    exact invariant_along (fun _ _ _ sound allocates taken => sound_step sound allocates taken)
      start (along_of_append allocates) there
  refine ⟨?_, ?_, ?_⟩
  · intro sector used
    obtain ⟨middle, toMiddle, final⟩ := run_append.mp reached
    obtain ⟨same, taken, ended⟩ := run_cons.mp final
    obtain rfl : same = last := Option.some.inj ended
    exact covered_of_returns (soundAt rfl toMiddle).1 taken returns sector used
  · intro past index now rest middle trace sector split there cleared found covers
    obtain ⟨sound, along, onward⟩ := soundAt split there
    obtain ⟨next, taken, rest⟩ := run_cons.mp onward
    obtain ⟨epoch, recorded, fresh⟩ := epoch_deliver sound taken found covers
    have grow := grow_run (sound_step sound along.1 taken) (grow_step sound cleared taken).1
      (along.2 next taken) rest synchronizer.sourceDevice.devT
    obtain ⟨later, kept, grown⟩ := grow.epochs sector epoch recorded
    exact ⟨later, kept, fresh.trans grown⟩
  · intro past rest middle sector now split there cleared isVolatile
    obtain ⟨sound, along, onward⟩ := soundAt split there
    exact (grow_run sound cleared along onward _).volatileSector isVolatile

def blankDisks : DevT → Disk Unit := fun _ => ⟨fun _ => (), .empty, []⟩

def twoDevices : Surroundings where
  createMountableBlockDeviceFromUuid _ := .ok ⟨1, 8192⟩
  createRemoteBlockDevice _ _ := .ok ⟨2, 8192⟩
  createDeviceTracer _ := none
  getInUseSectors _ := .ok [⟨2, 6⟩]

/-- Sector 3 is written and traced before the clear, sectors 4 and 5 are allocated before the
snapshot, sector 8 after it. The trace of 4 and 5 arrives during the loop, that of 8 is
still in flight when the call returns. -/
def writesAroundSnapshot : List (CallEvent Unit) :=
  [.change 1 (SectorSet.add .empty ⟨2, 4⟩), .proceed twoDevices, .proceed twoDevices,
    .write 1 ⟨3, 512, blkTcAct blkTcWrite⟩ (fun _ => ()) [], .deliver 1 0 100,
    .proceed twoDevices, .write 1 ⟨4, 1024, blkTcAct blkTcWrite⟩ (fun _ => ()) [⟨4, 6⟩],
    .proceed twoDevices, .write 1 ⟨8, 512, blkTcAct blkTcWrite⟩ (fun _ => ()) [⟨8, 9⟩],
    .deliver 1 0 200, .proceed twoDevices]

theorem fullCall_loses_no_write_aroundSnapshot :
    ∃ last, run (CreationCall.step ⟨"", "", 0⟩ true) (.start .new blankDisks)
        (writesAroundSnapshot ++ [.proceed twoDevices]) = some last ∧
      last.point = .returned (.ok ⟨"", ⟨1, 8192⟩, ⟨2, 8192⟩⟩) ∧
      LosesNoWrite ⟨"", "", 0⟩ (.start .new blankDisks) last
        (writesAroundSnapshot ++ [.proceed twoDevices]) 1 := by
  have ends : (run (CreationCall.step ⟨"", "", 0⟩ true) (.start .new blankDisks)
      (writesAroundSnapshot ++ [.proceed twoDevices])).any (fun call =>
        decide (call.point = .returned (.ok ⟨"", ⟨1, 8192⟩, ⟨2, 8192⟩⟩))) = true := by
    decide +kernel
  obtain ⟨last, reached, returned⟩ := (Option.any_eq_true _ _).mp ends
  have returns := of_decide_eq_true returned
  have allocates : Along (CreationCall.step ⟨"", "", 0⟩ true) AllocatesByWriting
      (.start .new blankDisks) (writesAroundSnapshot ++ [.proceed twoDevices]) := by
    simp [writesAroundSnapshot, Along, AllocatesByWriting, CreationCall.start]
  have before : run BackupBuilder.step .new [] = some .new := rfl
  exact ⟨last, reached, returns,
    fullCall_loses_no_write before ⟨"", "", 0⟩ _ allocates reached returns⟩

end LinuxAgent.Backup
