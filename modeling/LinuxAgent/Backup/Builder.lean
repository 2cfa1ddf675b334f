/- module: LinuxAgent/Backup/Builder
   source: backup/backup_builder.{h,cc}, device_synchronizer/device_synchronizer.cc (constructor)
   digest: Creating synchronizers, and when an incremental one starts from a seeded store. -/

import LinuxAgent.UnsyncedSectors.Manager

/-!
`CreateDeviceSynchronizer` starts the tracer, clears the store and fills it with
the sectors in use, and each of these is a step that may fail. The only question
it asks of an incremental backup is whether the device is traced. The history of
a device lists what was done to its tracer and its store; nothing reads it but
the properties.
-/

set_option autoImplicit false
set_option relaxedAutoImplicit false

namespace LinuxAgent.Backup

open LinuxAgent.Lib.Run LinuxAgent.UnsyncedSectors

/-- One source and destination of a backup request. -/
structure Vector where
  blockDeviceUuid : String
  destinationHost : String
  destinationPort : UInt32
  deriving DecidableEq

structure BlockDevice where
  devT : DevT
  deviceSizeBytes : UInt64
  deriving DecidableEq

/-- What one call finds around it: the devices that the factory makes, the exception
of `CreateDeviceTracer` if it throws, and the answer of `GetInUseSectors`. -/
structure Surroundings where
  createMountableBlockDeviceFromUuid : String → Except String BlockDevice
  createRemoteBlockDevice : String → UInt16 → Except String BlockDevice
  createDeviceTracer : DevT → Option String
  getInUseSectors : DevT → Except String (List SectorInterval)

/-- What is done to the tracer and the store of one device. -/
inductive DeviceAction where
  | tracerStarted
  | tracerStopped
  | cleared
  | inUse (intervals : List SectorInterval)
  | added (interval : SectorInterval)
  deriving DecidableEq

structure BackupBuilder where
  sectorManager : UnsyncedSectorManager
  history : DevT → List DeviceAction

/-- The members of a new `DeviceSynchronizer`, and the UUID that its source has in the request. -/
structure NewSynchronizer where
  blockDeviceUuid : String
  sourceDevice : BlockDevice
  destinationDevice : BlockDevice
  deriving DecidableEq

namespace NewSynchronizer

/-- The checks of the constructor. -/
def make (vector : Vector) (source destination : BlockDevice) :
    Except String NewSynchronizer :=
  if source.devT = destination.devT then
    .error "Refusing to synchronize a device with itself"
  else if source.deviceSizeBytes > destination.deviceSizeBytes then
    .error "Destination device is too small"
  else .ok ⟨vector.blockDeviceUuid, source, destination⟩

end NewSynchronizer

namespace BackupBuilder

def new : BackupBuilder := ⟨.new, fun _ => []⟩

def record (builder : BackupBuilder) (device : DevT) (actions : List DeviceAction) :
    BackupBuilder :=
  { builder with
    history := Function.update builder.history device (builder.history device ++ actions) }

def stopTracer (builder : BackupBuilder) (device : DevT) : BackupBuilder :=
  { builder with sectorManager := builder.sectorManager.stopTracer device }.record device
    [.tracerStopped]

/-- A device that is not traced is traced from now on by a full backup, and makes
an incremental one fail. -/
def ensureTracing (builder : BackupBuilder) (device : DevT) (isFull : Bool)
    (world : Surroundings) : Except String Unit × BackupBuilder :=
  if builder.sectorManager.isTracing device then (.ok (), builder)
  else if isFull then
    match builder.sectorManager.startTracer device (world.createDeviceTracer device) with
    | (.error what, manager) => (.error what, { builder with sectorManager := manager })
    | (.ok (), manager) =>
        (.ok (), { builder with sectorManager := manager }.record device [.tracerStarted])
  else (.error "No trace data exists for source", builder)

def clearIntervals (builder : BackupBuilder) (device : DevT) : BackupBuilder :=
  { builder with
    sectorManager := builder.sectorManager.changeStore device (·.clearIntervals) }.record device
      [.cleared]

def addNonVolatileInterval (device : DevT) (builder : BackupBuilder)
    (interval : SectorInterval) : BackupBuilder :=
  { builder with
    sectorManager := builder.sectorManager.changeStore device
      (·.addNonVolatileInterval interval) }.record device [.added interval]

/-- The store of the device is cleared before the sectors in use are asked for. -/
def seed (builder : BackupBuilder) (device : DevT) (world : Surroundings) :
    Except String Unit × BackupBuilder :=
  let emptied := builder.clearIntervals device
  match world.getInUseSectors device with
  | .error what => (.error what, emptied)
  | .ok intervals =>
      (.ok (), intervals.foldl (addNonVolatileInterval device)
        (emptied.record device [.inUse intervals]))

def createDeviceSynchronizer (builder : BackupBuilder) (vector : Vector) (isFull : Bool)
    (world : Surroundings) : Except String NewSynchronizer × BackupBuilder :=
  match world.createMountableBlockDeviceFromUuid vector.blockDeviceUuid with
  | .error what => (.error what, builder)
  | .ok source =>
      match world.createRemoteBlockDevice vector.destinationHost
          vector.destinationPort.toUInt16 with
      | .error what => (.error what, builder)
      | .ok remote =>
          match builder.ensureTracing source.devT isFull world with
          | (.error what, traced) => (.error what, traced)
          | (.ok (), traced) =>
              match (if isFull then traced.seed source.devT world else (.ok (), traced)) with
              | (.error what, seeded) => (.error what, seeded)
              | (.ok (), seeded) => (NewSynchronizer.make vector source remote, seeded)

/-- One synchronizer for each vector; the surroundings may change from one to the next. -/
def createBackup (builder : BackupBuilder) (isFull : Bool) (world : ℕ → Surroundings) :
    List Vector → Except String (List NewSynchronizer) × BackupBuilder
  | [] => (.ok [], builder)
  | vector :: vectors =>
      match builder.createDeviceSynchronizer vector isFull (world 0) with
      | (.error what, after) => (.error what, after)
      | (.ok synchronizer, after) =>
          match after.createBackup isFull (fun i => world (i + 1)) vectors with
          | (.error what, last) => (.error what, last)
          | (.ok synchronizers, last) => (.ok (synchronizer :: synchronizers), last)

end BackupBuilder

/-- What happens to the builder's devices. -/
inductive BuilderEvent where
  | createDeviceSynchronizer (vector : Vector) (isFull : Bool) (world : Surroundings)
  | stopTracer (device : DevT)
  | storeCall (device : DevT) (call : StoreCall)

namespace BackupBuilder

def step (builder : BackupBuilder) : BuilderEvent → Option BackupBuilder
  | .createDeviceSynchronizer vector isFull world =>
      some (builder.createDeviceSynchronizer vector isFull world).2
  | .stopTracer device => some (builder.stopTracer device)
  | .storeCall device call =>
      if call.ofWorker then
        ((builder.sectorManager.storeOf device).call call).map fun store =>
          { builder with
            sectorManager := builder.sectorManager.changeStore device fun _ => store }
      else none

end BackupBuilder

/-- The actions were done on the device, in this order, and it is traced now. -/
structure Performed (builder : BackupBuilder) (device : DevT) (actions : List DeviceAction)
    (after : BackupBuilder) : Prop where
  tracing : ∀ other, after.sectorManager.isTracing other =
    if other = device then true else builder.sectorManager.isTracing other
  history : after.history =
    Function.update builder.history device (builder.history device ++ actions)

/-- What a full call does before it clears the store. -/
inductive Opening (builder : BackupBuilder) (device : DevT) : List DeviceAction → Prop
  | traced (tracing : builder.sectorManager.isTracing device = true) : Opening builder device []
  | started (idle : builder.sectorManager.isTracing device = false) :
      Opening builder device [.tracerStarted]

/-- A full call gets as far as `GetInUseSectors`, which throws. -/
def InUseThrows (builder : BackupBuilder) (vector : Vector) (world : Surroundings)
    (device : DevT) : Prop :=
  ∃ source remote what,
    world.createMountableBlockDeviceFromUuid vector.blockDeviceUuid = .ok source ∧
    source.devT = device ∧
    world.createRemoteBlockDevice vector.destinationHost vector.destinationPort.toUInt16 =
      .ok remote ∧
    (builder.sectorManager.isTracing device = true ∨ world.createDeviceTracer device = none) ∧
    world.getInUseSectors device = .error what

/-- The ways in which a call ends. -/
inductive Creation (builder : BackupBuilder) (vector : Vector) (world : Surroundings) :
    Bool → Except String NewSynchronizer → BackupBuilder → Prop
  | refused {isFull : Bool} {what : String} {after : BackupBuilder}
      (tracing : ∀ device, after.sectorManager.isTracing device =
        builder.sectorManager.isTracing device)
      (history : after.history = builder.history)
      (early : isFull = true → ∀ device, ¬ InUseThrows builder vector world device) :
      Creation builder vector world isFull (.error what) after
  | admitted {source : BlockDevice} {result : Except String NewSynchronizer}
      (found : world.createMountableBlockDeviceFromUuid vector.blockDeviceUuid = .ok source)
      (tracing : builder.sectorManager.isTracing source.devT = true) :
      Creation builder vector world false result builder
  | unseeded {device : DevT} {opening : List DeviceAction} {what : String}
      {after : BackupBuilder} (throws : InUseThrows builder vector world device)
      (opens : Opening builder device opening)
      (done : Performed builder device (opening ++ [.cleared]) after) :
      Creation builder vector world true (.error what) after
  | seeded {source : BlockDevice} {opening : List DeviceAction}
      {intervals : List SectorInterval} {result : Except String NewSynchronizer}
      {after : BackupBuilder}
      (found : world.createMountableBlockDeviceFromUuid vector.blockDeviceUuid = .ok source)
      (answered : world.getInUseSectors source.devT = .ok intervals)
      (opens : Opening builder source.devT opening)
      (done : Performed builder source.devT
        (opening ++ .cleared :: .inUse intervals :: intervals.map .added) after) :
      Creation builder vector world true result after

section Creating

variable {builder after : BackupBuilder} {vector : Vector} {world : Surroundings}
  {device : DevT} {isFull : Bool}

private theorem performed_of_manager {manager : UnsyncedSectorManager}
    (actions : List DeviceAction)
    (tracing : ∀ other, manager.isTracing other =
      if other = device then true else builder.sectorManager.isTracing other) :
    Performed builder device actions
      ({ builder with sectorManager := manager }.record device actions) :=
  ⟨tracing, rfl⟩

private theorem tracing_self (tracing : builder.sectorManager.isTracing device = true)
    (other : DevT) :
    builder.sectorManager.isTracing other =
      if other = device then true else builder.sectorManager.isTracing other := by
  split_ifs with same
  · rw [same, tracing]
  · rfl

theorem Performed.traced {actions : List DeviceAction}
    (done : Performed builder device actions after) :
    after.sectorManager.isTracing device = true := by
  rw [done.tracing device, if_pos rfl]

private theorem Performed.trans {middle : BackupBuilder} {first second : List DeviceAction}
    (left : Performed builder device first middle)
    (right : Performed middle device second after) :
    Performed builder device (first ++ second) after := by
  refine ⟨fun other => ?_, ?_⟩
  · rw [right.tracing other, left.tracing other]
    split_ifs <;> rfl
  · rw [right.history, left.history]
    simp only [Function.update_self, Function.update_idem, List.append_assoc]

private theorem performed_clear (tracing : builder.sectorManager.isTracing device = true) :
    Performed builder device [.cleared] (builder.clearIntervals device) :=
  performed_of_manager [.cleared] fun other => by
    rw [UnsyncedSectorManager.isTracing_changeStore]
    exact tracing_self tracing other

/-- The loop over the intervals in use adds each of them, in order. -/
private theorem performed_adds (intervals : List SectorInterval)
    (tracing : builder.sectorManager.isTracing device = true) :
    Performed builder device (intervals.map .added)
      (intervals.foldl (BackupBuilder.addNonVolatileInterval device) builder) := by
  induction intervals generalizing builder with
  | nil => exact ⟨tracing_self tracing, by simp⟩
  | cons interval intervals ih =>
      have here : Performed builder device [.added interval]
          (builder.addNonVolatileInterval device interval) :=
        performed_of_manager [.added interval] fun other => by
          rw [UnsyncedSectorManager.isTracing_changeStore]
          exact tracing_self tracing other
      exact here.trans (ih here.traced)

private theorem performed_seed {intervals : List SectorInterval}
    (tracing : builder.sectorManager.isTracing device = true)
    (answered : world.getInUseSectors device = .ok intervals) :
    ∃ after, builder.seed device world = (.ok (), after) ∧
      Performed builder device (.cleared :: .inUse intervals :: intervals.map .added) after := by
  have clear := performed_clear tracing
  have noted : Performed (builder.clearIntervals device) device [.inUse intervals]
      ((builder.clearIntervals device).record device [.inUse intervals]) :=
    ⟨tracing_self clear.traced, rfl⟩
  have adds := performed_adds intervals (clear.trans noted).traced
  refine ⟨_, ?_, (clear.trans noted).trans adds⟩
  simp [BackupBuilder.seed, answered]

private theorem seed_failed {what : String}
    (answered : world.getInUseSectors device = .error what) :
    builder.seed device world = (.error what, builder.clearIntervals device) := by
  simp [BackupBuilder.seed, answered]

private theorem ensureTracing_traced
    (tracing : builder.sectorManager.isTracing device = true) :
    builder.ensureTracing device isFull world = (.ok (), builder) := by
  simp [BackupBuilder.ensureTracing, tracing]

private theorem ensureTracing_started
    (idle : builder.sectorManager.isTracing device = false)
    (created : world.createDeviceTracer device = none) :
    ∃ after, builder.ensureTracing device true world = (.ok (), after) ∧
      Performed builder device [.tracerStarted] after := by
  obtain ⟨manager, started, tracing⟩ := builder.sectorManager.startTracer_started device idle
  refine ⟨_, ?_, performed_of_manager _ tracing⟩
  simp [BackupBuilder.ensureTracing, idle, created, started]

private theorem ensureTracing_failed {what : String}
    (idle : builder.sectorManager.isTracing device = false)
    (failing : world.createDeviceTracer device = some what) :
    ∃ after, builder.ensureTracing device true world = (.error what, after) ∧
      (∀ other, after.sectorManager.isTracing other =
        builder.sectorManager.isTracing other) ∧
      after.history = builder.history := by
  obtain ⟨manager, failed, tracing⟩ := builder.sectorManager.startTracer_failed device idle what
  refine ⟨{ builder with sectorManager := manager }, ?_, tracing, rfl⟩
  simp [BackupBuilder.ensureTracing, idle, failing, failed]

section Full

variable {source remote : BlockDevice} {result : Except String NewSynchronizer}
  (found : world.createMountableBlockDeviceFromUuid vector.blockDeviceUuid = .ok source)
  (reached : world.createRemoteBlockDevice vector.destinationHost
    vector.destinationPort.toUInt16 = .ok remote)
  (called : builder.createDeviceSynchronizer vector true world = (result, after))
include found reached called

/-- What follows the tracing check of a full call. -/
private theorem creation_opened {middle : BackupBuilder} {opening : List DeviceAction}
    (ensured : builder.ensureTracing source.devT true world = (.ok (), middle))
    (starts : builder.sectorManager.isTracing source.devT = true ∨
      world.createDeviceTracer source.devT = none)
    (opens : Opening builder source.devT opening)
    (opened : Performed builder source.devT opening middle) :
    Creation builder vector world true result after := by
  simp only [BackupBuilder.createDeviceSynchronizer, found, reached, ensured, if_true] at called
  cases answered : world.getInUseSectors source.devT with
  | error what =>
      rw [seed_failed answered] at called
      obtain ⟨rfl, rfl⟩ := Prod.mk.inj called
      exact .unseeded ⟨source, remote, what, found, rfl, reached, starts, answered⟩ opens
        (opened.trans (performed_clear opened.traced))
  | ok intervals =>
      obtain ⟨last, ended, filled⟩ := performed_seed opened.traced answered
      simp only [ended] at called
      obtain ⟨rfl, rfl⟩ := Prod.mk.inj called
      exact .seeded found answered opens (opened.trans filled)

private theorem creation_full : Creation builder vector world true result after := by
  cases tracing : builder.sectorManager.isTracing source.devT with
  | true =>
      have opened : Performed builder source.devT [] builder :=
        ⟨tracing_self tracing, by simp⟩
      exact creation_opened found reached called (ensureTracing_traced tracing)
        (Or.inl tracing) (.traced tracing) opened
  | false =>
      cases created : world.createDeviceTracer source.devT with
      | none =>
          obtain ⟨middle, ensured, opened⟩ := ensureTracing_started tracing created
          exact creation_opened found reached called ensured (Or.inr created)
            (.started tracing) opened
      | some what =>
          obtain ⟨middle, ensured, same, kept⟩ := ensureTracing_failed tracing created
          simp only [BackupBuilder.createDeviceSynchronizer, found, reached, ensured] at called
          obtain ⟨rfl, rfl⟩ := Prod.mk.inj called
          refine .refused same kept fun _ device throws => ?_
          obtain ⟨other, _, _, again, rfl, _, starts, _⟩ := throws
          obtain rfl : source = other := Except.ok.inj (found.symm.trans again)
          simp [tracing, created] at starts

end Full

/-- An incremental call is admitted when the device is traced, and changes nothing. -/
private theorem creation_incremental {source remote : BlockDevice}
    (found : world.createMountableBlockDeviceFromUuid vector.blockDeviceUuid = .ok source)
    (reached : world.createRemoteBlockDevice vector.destinationHost
      vector.destinationPort.toUInt16 = .ok remote)
    {result : Except String NewSynchronizer}
    (called : builder.createDeviceSynchronizer vector false world = (result, after)) :
    Creation builder vector world false result after := by
  cases tracing : builder.sectorManager.isTracing source.devT with
  | true =>
      simp only [BackupBuilder.createDeviceSynchronizer, found, reached,
        BackupBuilder.ensureTracing, tracing, if_true] at called
      obtain ⟨_, rfl⟩ := Prod.mk.inj called
      exact .admitted found tracing
  | false =>
      simp only [BackupBuilder.createDeviceSynchronizer, found, reached,
        BackupBuilder.ensureTracing, tracing, Bool.false_eq_true, if_false] at called
      obtain ⟨rfl, rfl⟩ := Prod.mk.inj called
      exact .refused (fun _ => rfl) rfl (by simp)

/-- Every call ends in one of the ways listed. -/
theorem creation {result : Except String NewSynchronizer}
    (called : builder.createDeviceSynchronizer vector isFull world = (result, after)) :
    Creation builder vector world isFull result after := by
  cases found : world.createMountableBlockDeviceFromUuid vector.blockDeviceUuid with
  | error what =>
      simp only [BackupBuilder.createDeviceSynchronizer, found] at called
      obtain ⟨rfl, rfl⟩ := Prod.mk.inj called
      refine .refused (fun _ => rfl) rfl fun _ device throws => ?_
      obtain ⟨_, _, _, again, _⟩ := throws
      rw [found] at again
      cases again
  | ok source =>
      cases reached : world.createRemoteBlockDevice vector.destinationHost
          vector.destinationPort.toUInt16 with
      | error what =>
          simp only [BackupBuilder.createDeviceSynchronizer, found, reached] at called
          obtain ⟨rfl, rfl⟩ := Prod.mk.inj called
          refine .refused (fun _ => rfl) rfl fun _ device throws => ?_
          obtain ⟨_, _, _, _, _, again, _⟩ := throws
          rw [reached] at again
          cases again
      | ok remote =>
          cases isFull with
          | true => exact creation_full found reached called
          | false => exact creation_incremental found reached called

end Creating

section Backups

variable {builder after : BackupBuilder} {isFull : Bool}

private theorem blockDeviceUuid_of_created {vector : Vector} {world : Surroundings}
    {synchronizer : NewSynchronizer}
    (called : builder.createDeviceSynchronizer vector isFull world = (.ok synchronizer, after)) :
    synchronizer.blockDeviceUuid = vector.blockDeviceUuid := by
  unfold BackupBuilder.createDeviceSynchronizer at called
  split at called
  · cases called
  · split at called
    · cases called
    · split at called
      · cases called
      · split at called
        · cases called
        · have made := (Prod.mk.inj called).1
          unfold NewSynchronizer.make at made
          split_ifs at made
          rw [← Except.ok.inj made]

/-- A backup has one synchronizer for each vector, in order. -/
theorem createBackup_uuids {world : ℕ → Surroundings} {vectors : List Vector}
    {synchronizers : List NewSynchronizer}
    (called : builder.createBackup isFull world vectors = (.ok synchronizers, after)) :
    synchronizers.map (·.blockDeviceUuid) = vectors.map (·.blockDeviceUuid) := by
  induction vectors generalizing builder world synchronizers with
  | nil =>
      obtain ⟨made, _⟩ := Prod.mk.inj called
      rw [← Except.ok.inj made]
      rfl
  | cons vector vectors ih =>
      unfold BackupBuilder.createBackup at called
      split at called
      · cases called
      · rename_i synchronizer middle first
        split at called
        · cases called
        · rename_i others last rest
          obtain ⟨made, _⟩ := Prod.mk.inj called
          rw [← Except.ok.inj made, List.map_cons, List.map_cons,
            blockDeviceUuid_of_created first]
          obtain ⟨_, rfl⟩ := Prod.mk.inj called
          rw [ih rest]

/-- Creating a backup is a run of the builder, also when one of its calls throws. -/
theorem createBackup_reached (builder : BackupBuilder) (isFull : Bool)
    (world : ℕ → Surroundings) (vectors : List Vector) :
    ∃ events, run BackupBuilder.step builder events =
      some (builder.createBackup isFull world vectors).2 := by
  induction vectors generalizing builder world with
  | nil => exact ⟨[], rfl⟩
  | cons vector vectors ih =>
      cases first : builder.createDeviceSynchronizer vector isFull (world 0) with
      | mk result middle =>
          have taken : builder.step (.createDeviceSynchronizer vector isFull (world 0)) =
              some middle := by
            simp [BackupBuilder.step, first]
          cases result with
          | error what =>
              refine ⟨[_], run_cons.mpr ⟨middle, taken, ?_⟩⟩
              simp [BackupBuilder.createBackup, first]
          | ok synchronizer =>
              obtain ⟨events, later⟩ := ih middle fun i => world (i + 1)
              refine ⟨_ :: events, run_cons.mpr ⟨middle, taken, later.trans ?_⟩⟩
              simp only [BackupBuilder.createBackup, first]
              cases middle.createBackup isFull (fun i => world (i + 1)) vectors with
              | mk result last => cases result <;> rfl

end Backups

end LinuxAgent.Backup
