/- module: LinuxAgent/Backup/CreationSteps
   source: backup/backup_builder.cc (CreateDeviceSynchronizer)
   digest: The steps of CreateDeviceSynchronizer, between those of applications and tracers. -/

import LinuxAgent.Backup.Builder
import LinuxAgent.Synchronizer.DoSync

/-!
`CreateDeviceSynchronizer` as a machine: between two of its steps applications write,
files are deleted, and tracers hand over traces. With nothing between them the steps
are the function that the builder has.
-/

set_option autoImplicit false
set_option relaxedAutoImplicit false

namespace LinuxAgent.Backup

open LinuxAgent.Lib.Run LinuxAgent.UnsyncedSectors LinuxAgent.Tracing
open LinuxAgent.Synchronizer

/-- A block device outside of this process: what it holds, the sectors that its file
system uses, and the traces that have not been handed over yet. -/
structure Disk (β : Type*) where
  sectors : ℕ → β
  inUse : SectorSet
  inFlight : List BlkIoTrace

/-- The file system uses the sector. -/
def Disk.InUse {β : Type*} (disk : Disk β) (sector : ℕ) : Prop :=
  (disk.inUse.lookup sector).isSome = true

/-- The intervals in the order of the iteration over the set. -/
def Disk.intervals {β : Type*} (disk : Disk β) : List SectorInterval :=
  disk.inUse.segments.map Prod.fst

/-- The next statement of `CreateDeviceSynchronizer`, with the local variables it needs. -/
inductive CallPoint where
  | entered
  | found (source remote : BlockDevice)
  | traced (source remote : BlockDevice)
  | cleared (source remote : BlockDevice)
  | seeding (source remote : BlockDevice) (inUseSet remaining : List SectorInterval)
  | returned (result : Except String NewSynchronizer)
  deriving DecidableEq

/-- The call will not clear a store any more. -/
def CallPoint.pastClear : CallPoint → Bool
  | .cleared _ _ | .seeding _ _ _ _ | .returned _ => true
  | _ => false

/-- One call of `CreateDeviceSynchronizer`, and the disks of the system. -/
structure CreationCall (β : Type*) where
  builder : BackupBuilder
  disks : DevT → Disk β
  point : CallPoint

inductive CallEvent (β : Type*) where
  /-- An application writes `contents`, and sectors of the write come into use. -/
  | write (device : DevT) (trace : BlkIoTrace) (contents : ℕ → β)
      (allocated : List SectorInterval)
  /-- Without a write, the sectors in use are others from now on. -/
  | change (device : DevT) (inUse : SectorSet)
  /-- A tracer hands over one of the traces in flight. -/
  | deliver (device : DevT) (index : ℕ) (now : TimeT)
  /-- The call takes its next step, and finds this around it. -/
  | proceed (world : Surroundings)

namespace CreationCall

variable {β : Type*}

/-- The device as a synchronizer sees it. -/
def device (call : CreationCall β) (device : DevT) : Device β :=
  ⟨(call.disks device).sectors, call.builder.sectorManager.storeOf device,
    (call.disks device).inFlight, false⟩

/-- The disk after a write. Only a device with a tracer reports its writes. -/
def writtenDisk (call : CreationCall β) (device : DevT) (allocated : List SectorInterval)
    (written : Device β) : Disk β where
  sectors := written.sectors
  inUse := allocated.foldl SectorSet.add (call.disks device).inUse
  inFlight := if call.builder.sectorManager.isTracing device then written.inFlight
    else (call.disks device).inFlight

def write (call : CreationCall β) (device : DevT) (trace : BlkIoTrace) (contents : ℕ → β)
    (allocated : List SectorInterval) : Option (CreationCall β) :=
  if ∀ interval ∈ allocated,
      trace.interval.lower ≤ interval.lower ∧ interval.upper ≤ trace.interval.upper then
    ((call.device device).step (.write trace contents)).map fun written =>
      { call with
        disks := Function.update call.disks device (call.writtenDisk device allocated written) }
  else none

def change (call : CreationCall β) (device : DevT) (inUse : SectorSet) : CreationCall β :=
  { call with
    disks := Function.update call.disks device { call.disks device with inUse := inUse } }

def deliver (call : CreationCall β) (device : DevT) (index : ℕ) (now : TimeT) :
    Option (CreationCall β) :=
  ((call.device device).step (.deliver index now)).map fun handed =>
    { call with
      builder := { call.builder with
        sectorManager := call.builder.sectorManager.changeStore device fun _ => handed.store }
      disks := Function.update call.disks device
        { call.disks device with inFlight := handed.inFlight } }

/-- One step of the call. `GetInUseSectors` throws, or answers with what is in use now. -/
def proceed (vector : Vector) (isFull : Bool) (call : CreationCall β) (world : Surroundings) :
    Option (CreationCall β) :=
  match call.point with
  | .entered =>
      match world.createMountableBlockDeviceFromUuid vector.blockDeviceUuid with
      | .error what => some { call with point := .returned (.error what) }
      | .ok source =>
          match world.createRemoteBlockDevice vector.destinationHost
              vector.destinationPort.toUInt16 with
          | .error what => some { call with point := .returned (.error what) }
          | .ok remote => some { call with point := .found source remote }
  | .found source remote =>
      match call.builder.ensureTracing source.devT isFull world with
      | (.error what, builder) =>
          some { call with builder := builder, point := .returned (.error what) }
      | (.ok (), builder) => some { call with builder := builder, point := .traced source remote }
  | .traced source remote =>
      if isFull then
        some { call with
          builder := call.builder.clearIntervals source.devT
          point := .cleared source remote }
      else some { call with point := .returned (NewSynchronizer.make vector source remote) }
  | .cleared source remote =>
      match world.getInUseSectors source.devT with
      | .error what => some { call with point := .returned (.error what) }
      | .ok inUseSet =>
          if inUseSet = (call.disks source.devT).intervals then
            some { call with
              builder := call.builder.record source.devT [.inUse inUseSet]
              point := .seeding source remote inUseSet inUseSet }
          else none
  | .seeding source remote inUseSet (interval :: remaining) =>
      some { call with
        builder := call.builder.addNonVolatileInterval source.devT interval
        point := .seeding source remote inUseSet remaining }
  | .seeding source remote _ [] =>
      some { call with point := .returned (NewSynchronizer.make vector source remote) }
  | .returned _ => none

def step (vector : Vector) (isFull : Bool) (call : CreationCall β) :
    CallEvent β → Option (CreationCall β)
  | .write device trace contents allocated => call.write device trace contents allocated
  | .change device inUse => some (call.change device inUse)
  | .deliver device index now => call.deliver device index now
  | .proceed world => call.proceed vector isFull world

/-- The call begins with the manager's stores as they are and with any disks. -/
def start (builder : BackupBuilder) (disks : DevT → Disk β) : CreationCall β :=
  ⟨builder, disks, .entered⟩

end CreationCall

namespace CreationCall

variable {β : Type*} {call after : CreationCall β} {device : DevT} {trace : BlkIoTrace}
  {contents : ℕ → β} {allocated : List SectorInterval} {index : ℕ} {now : TimeT}

/-- A device that a step has nothing to do with. -/
theorem device_of_ne {other : DevT} {disk : Disk β} (different : other ≠ device)
    (point : CallPoint) :
    (mk call.builder (Function.update call.disks device disk) point).device other =
      call.device other := by
  simp only [CreationCall.device, Function.update_of_ne different]

theorem write_cases (taken : call.write device trace contents allocated = some after) :
    (∀ interval ∈ allocated,
      trace.interval.lower ≤ interval.lower ∧ interval.upper ≤ trace.interval.upper) ∧
    ∃ written, (call.device device).step (.write trace contents) = some written ∧
      after = { call with
        disks := Function.update call.disks device
          (call.writtenDisk device allocated written) } := by
  unfold write at taken
  by_cases within : ∀ interval ∈ allocated,
      trace.interval.lower ≤ interval.lower ∧ interval.upper ≤ trace.interval.upper
  · rw [if_pos within] at taken
    obtain ⟨written, moved, rfl⟩ := Option.map_eq_some_iff.mp taken
    exact ⟨within, written, moved, rfl⟩
  · rw [if_neg within] at taken
    cases taken

theorem deliver_cases (taken : call.deliver device index now = some after) :
    ∃ handed, (call.device device).step (.deliver index now) = some handed ∧
      after = { call with
        builder := { call.builder with
          sectorManager := call.builder.sectorManager.changeStore device fun _ => handed.store }
        disks := Function.update call.disks device
          { call.disks device with inFlight := handed.inFlight } } := by
  obtain ⟨handed, moved, rfl⟩ := Option.map_eq_some_iff.mp taken
  exact ⟨handed, moved, rfl⟩

/-- The device after a write that is reported. -/
theorem device_write {written : Device β}
    (tracing : call.builder.sectorManager.isTracing device = true)
    (moved : (call.device device).step (.write trace contents) = some written)
    (taken : call.write device trace contents allocated = some after) :
    after.device device = written := by
  obtain ⟨_, result, again, rfl⟩ := write_cases taken
  obtain rfl : written = result := Option.some.inj (moved.symm.trans again)
  obtain ⟨_, rfl⟩ := Device.write_eq_some.mp moved
  simp only [CreationCall.device, writtenDisk, Function.update_self, if_pos tracing]

theorem device_deliver {handed : Device β}
    (moved : (call.device device).step (.deliver index now) = some handed)
    (taken : call.deliver device index now = some after) : after.device device = handed := by
  obtain ⟨result, again, rfl⟩ := deliver_cases taken
  obtain rfl : handed = result := Option.some.inj (moved.symm.trans again)
  obtain ⟨_, _, _, _, rfl⟩ := Device.deliver_eq_some.mp moved
  simp only [CreationCall.device, Function.update_self,
    UnsyncedSectorManager.storeOf_changeStore, if_true]

/-- A delivery is no business of the other devices. -/
theorem device_deliver_of_ne {other : DevT} (different : other ≠ device)
    (taken : call.deliver device index now = some after) :
    after.device other = call.device other := by
  obtain ⟨_, _, rfl⟩ := deliver_cases taken
  simp only [CreationCall.device, Function.update_of_ne different,
    UnsyncedSectorManager.storeOf_changeStore, if_neg different]

end CreationCall

section Call

variable {β : Type*} {call after : CreationCall β} {vector : Vector} {world : Surroundings}

/-- The steps of a full call. -/
inductive FullStep (vector : Vector) (call : CreationCall β) : CreationCall β → Prop
  | threw {builder : BackupBuilder} {what : String}
      (stores : ∀ device, builder.sectorManager.storeOf device =
        call.builder.sectorManager.storeOf device) :
      FullStep vector call ⟨builder, call.disks, .returned (.error what)⟩
  | found {source remote : BlockDevice} (here : call.point = .entered) :
      FullStep vector call { call with point := .found source remote }
  | traced {source remote : BlockDevice} {builder : BackupBuilder}
      (here : call.point = .found source remote)
      (stores : ∀ device, builder.sectorManager.storeOf device =
        call.builder.sectorManager.storeOf device)
      (tracing : builder.sectorManager.isTracing source.devT = true) :
      FullStep vector call ⟨builder, call.disks, .traced source remote⟩
  | cleared {source remote : BlockDevice} (here : call.point = .traced source remote) :
      FullStep vector call { call with
        builder := call.builder.clearIntervals source.devT
        point := .cleared source remote }
  | answered {source remote : BlockDevice} {inUseSet : List SectorInterval}
      (here : call.point = .cleared source remote)
      (now : inUseSet = (call.disks source.devT).intervals) :
      FullStep vector call { call with
        builder := call.builder.record source.devT [.inUse inUseSet]
        point := .seeding source remote inUseSet inUseSet }
  | added {source remote : BlockDevice} {inUseSet remaining : List SectorInterval}
      {interval : SectorInterval}
      (here : call.point = .seeding source remote inUseSet (interval :: remaining)) :
      FullStep vector call { call with
        builder := call.builder.addNonVolatileInterval source.devT interval
        point := .seeding source remote inUseSet remaining }
  | made {source remote : BlockDevice} {inUseSet : List SectorInterval}
      (here : call.point = .seeding source remote inUseSet []) :
      FullStep vector call { call with
        point := .returned (NewSynchronizer.make vector source remote) }

private theorem ensureTracing_full {builder opened : BackupBuilder} {device : DevT}
    {result : Except String Unit}
    (ended : builder.ensureTracing device true world = (result, opened)) :
    (∀ other, opened.sectorManager.storeOf other = builder.sectorManager.storeOf other) ∧
      (result = .ok () → opened.sectorManager.isTracing device = true) := by
  have stores (other : DevT) := builder.sectorManager.storeOf_startTracer device other
    (world.createDeviceTracer device)
  unfold BackupBuilder.ensureTracing at ended
  by_cases tracing : builder.sectorManager.isTracing device = true
  · rw [if_pos tracing] at ended
    obtain ⟨rfl, rfl⟩ := Prod.mk.inj ended
    exact ⟨fun _ => rfl, fun _ => tracing⟩
  · rw [if_neg tracing, if_pos rfl] at ended
    have idle := Bool.eq_false_iff.mpr tracing
    cases created : world.createDeviceTracer device with
    | some what =>
        obtain ⟨manager, failed, _⟩ := builder.sectorManager.startTracer_failed device idle what
        simp only [created, failed, Prod.mk.injEq] at ended stores
        obtain ⟨rfl, rfl⟩ := ended
        exact ⟨stores, nofun⟩
    | none =>
        obtain ⟨manager, started, running⟩ :=
          builder.sectorManager.startTracer_started device idle
        simp only [created, started, Prod.mk.injEq] at ended stores
        obtain ⟨rfl, rfl⟩ := ended
        exact ⟨stores, fun _ => (running device).trans (if_pos rfl)⟩

theorem fullStep_of_proceed (taken : call.proceed vector true world = some after) :
    FullStep vector call after := by
  unfold CreationCall.proceed at taken
  cases here : call.point with
  | entered =>
      simp only [here] at taken
      cases asked : world.createMountableBlockDeviceFromUuid vector.blockDeviceUuid with
      | error what =>
          simp only [asked, Option.some.injEq] at taken
          obtain rfl := taken
          exact .threw fun _ => rfl
      | ok source =>
          cases reached : world.createRemoteBlockDevice vector.destinationHost
              vector.destinationPort.toUInt16 with
          | error what =>
              simp only [asked, reached, Option.some.injEq] at taken
              obtain rfl := taken
              exact .threw fun _ => rfl
          | ok remote =>
              simp only [asked, reached, Option.some.injEq] at taken
              obtain rfl := taken
              exact .found here
  | found source remote =>
      simp only [here] at taken
      cases ended : call.builder.ensureTracing source.devT true world with
      | mk result builder =>
          obtain ⟨stores, tracing⟩ := ensureTracing_full ended
          cases result with
          | error what =>
              simp only [ended, Option.some.injEq] at taken
              obtain rfl := taken
              exact .threw stores
          | ok done =>
              simp only [ended, Option.some.injEq] at taken
              obtain rfl := taken
              exact .traced here stores (tracing rfl)
  | traced source remote =>
      simp only [here, if_true, Option.some.injEq] at taken
      obtain rfl := taken
      exact .cleared here
  | cleared source remote =>
      simp only [here] at taken
      cases answer : world.getInUseSectors source.devT with
      | error what =>
          simp only [answer, Option.some.injEq] at taken
          obtain rfl := taken
          exact .threw fun _ => rfl
      | ok inUseSet =>
          simp only [answer] at taken
          split_ifs at taken with now
          obtain rfl := Option.some.inj taken
          exact .answered here now
  | seeding source remote inUseSet remaining =>
      cases remaining with
      | nil =>
          simp only [here, Option.some.injEq] at taken
          obtain rfl := taken
          exact .made here
      | cons interval remaining =>
          simp only [here, Option.some.injEq] at taken
          obtain rfl := taken
          exact .added here
  | returned result =>
      simp only [here] at taken
      cases taken

end Call

section Alone

variable {β : Type*} {vector : Vector} {isFull : Bool} {world : Surroundings}
  {call middle last : CreationCall β}

/-- The call gets there when nobody else takes a step. -/
private def Alone (vector : Vector) (isFull : Bool) (world : Surroundings)
    (call last : CreationCall β) : Prop :=
  ∃ steps, run (CreationCall.step vector isFull) call
    (List.replicate steps (.proceed world)) = some last

private theorem alone_refl (call : CreationCall β) : Alone vector isFull world call call :=
  ⟨0, rfl⟩

private theorem alone_step (taken : call.proceed vector isFull world = some middle)
    (rest : Alone vector isFull world middle last) : Alone vector isFull world call last := by
  obtain ⟨steps, reached⟩ := rest
  exact ⟨steps + 1, run_cons.mpr ⟨middle, taken, reached⟩⟩

private theorem alone_seeding (builder : BackupBuilder) (disks : DevT → Disk β)
    (source remote : BlockDevice) (inUseSet remaining : List SectorInterval) :
    Alone vector isFull world ⟨builder, disks, .seeding source remote inUseSet remaining⟩
      ⟨remaining.foldl (BackupBuilder.addNonVolatileInterval source.devT) builder, disks,
        .returned (NewSynchronizer.make vector source remote)⟩ := by
  induction remaining generalizing builder with
  | nil => exact alone_step rfl (alone_refl _)
  | cons interval remaining ih => exact alone_step rfl (ih _)

/-- The part of the call after the tracer has been seen to. -/
private theorem alone_seed (vector : Vector) (builder : BackupBuilder)
    (disks : DevT → Disk β) (source remote : BlockDevice)
    (answers : ∀ device inUseSet, world.getInUseSectors device = .ok inUseSet →
      inUseSet = (disks device).intervals) :
    Alone vector true world ⟨builder, disks, .traced source remote⟩
      (match builder.seed source.devT world with
      | (.error what, seeded) => ⟨seeded, disks, .returned (.error what)⟩
      | (.ok (), seeded) =>
          ⟨seeded, disks, .returned (NewSynchronizer.make vector source remote)⟩) := by
  have clearing : CreationCall.proceed vector true ⟨builder, disks, .traced source remote⟩
      world = some ⟨builder.clearIntervals source.devT, disks, .cleared source remote⟩ := rfl
  refine alone_step clearing ?_
  cases answer : world.getInUseSectors source.devT with
  | error what =>
      simp only [BackupBuilder.seed, answer]
      refine alone_step ?_ (alone_refl _)
      simp only [CreationCall.proceed, answer]
  | ok inUseSet =>
      simp only [BackupBuilder.seed, answer]
      refine alone_step ?_ (alone_seeding _ disks source remote inUseSet inUseSet)
      simp only [CreationCall.proceed, answer, if_pos (answers source.devT inUseSet answer)]

/-- The steps of the machine, with nothing between them, are `CreateDeviceSynchronizer`
as the builder has it. -/
theorem proceed_alone (builder : BackupBuilder) (vector : Vector) (isFull : Bool)
    (world : Surroundings) (disks : DevT → Disk β)
    (answers : ∀ device inUseSet, world.getInUseSectors device = .ok inUseSet →
      inUseSet = (disks device).intervals) :
    ∃ steps, run (CreationCall.step vector isFull) (.start builder disks)
        (List.replicate steps (.proceed world)) =
      some ⟨(builder.createDeviceSynchronizer vector isFull world).2, disks,
        .returned (builder.createDeviceSynchronizer vector isFull world).1⟩ := by
  change Alone vector isFull world _ _
  cases asked : world.createMountableBlockDeviceFromUuid vector.blockDeviceUuid with
  | error what =>
      refine alone_step ?_ (alone_refl _)
      simp only [CreationCall.start, CreationCall.proceed,
        BackupBuilder.createDeviceSynchronizer, asked]
  | ok source =>
      cases connected : world.createRemoteBlockDevice vector.destinationHost
          vector.destinationPort.toUInt16 with
      | error what =>
          refine alone_step ?_ (alone_refl _)
          simp only [CreationCall.start, CreationCall.proceed,
            BackupBuilder.createDeviceSynchronizer, asked, connected]
      | ok remote =>
          have opening : (CreationCall.start builder disks).proceed vector isFull world =
              some ⟨builder, disks, .found source remote⟩ := by
            simp only [CreationCall.start, CreationCall.proceed, asked, connected]
          refine alone_step opening ?_
          simp only [BackupBuilder.createDeviceSynchronizer, asked, connected]
          cases ended : builder.ensureTracing source.devT isFull world with
          | mk result traced =>
              cases result with
              | error what =>
                  refine alone_step ?_ (alone_refl _)
                  simp only [CreationCall.proceed, ended]
              | ok done =>
                  have tracing : CreationCall.proceed vector isFull
                      ⟨builder, disks, .found source remote⟩ world =
                        some ⟨traced, disks, .traced source remote⟩ := by
                    simp only [CreationCall.proceed, ended]
                  refine alone_step tracing ?_
                  cases isFull with
                  | false => exact alone_step rfl (alone_refl _)
                  | true =>
                      have seeded := alone_seed vector traced disks source remote answers
                      simp only [if_true]
                      cases filled : traced.seed source.devT world with
                      | mk verdict after =>
                          rw [filled] at seeded
                          cases verdict with
                          | error what => exact seeded
                          | ok done => exact seeded

end Alone

end LinuxAgent.Backup
