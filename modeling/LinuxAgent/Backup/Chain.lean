/- module: LinuxAgent/Backup/Chain
   source: backup/backup_builder.cc, device_synchronizer/device_synchronizer.cc,
           unsynced_sector_manager/unsynced_sector_store.cc, tracing/trace_handler.cc
   digest: Full and incremental backups of one device into one image, one after the other. -/

import LinuxAgent.Backup.FullSeeding
import LinuxAgent.Synchronizer.Retarget

/-!
A chain of backups of one device: calls of `CreateDeviceSynchronizer`, full or
incremental, each followed by a `DoSync` into the same image, while applications
write and tracers report. Calls for other devices may come at any time.
-/

set_option autoImplicit false
set_option relaxedAutoImplicit false

namespace LinuxAgent.Backup

open LinuxAgent.Lib.Run LinuxAgent.Lib.Segments LinuxAgent.UnsyncedSectors
open LinuxAgent.Tracing LinuxAgent.Synchronizer

/-- One more action in the account of the last snapshot. -/
def noteAction (taken : Option (List SectorInterval × List SectorInterval)) :
    DeviceAction → Option (List SectorInterval × List SectorInterval)
  | .cleared => none
  | .inUse intervals => some (intervals, [])
  | .added interval => taken.map fun both => (both.1, both.2 ++ [interval])
  | .tracerStarted | .tracerStopped => taken

/-- The intervals of the last snapshot and those that have been added since, unless the
store was cleared after it. -/
def snapshot (history : List DeviceAction) :
    Option (List SectorInterval × List SectorInterval) :=
  history.foldl noteAction none

/-- The whole of the last snapshot has been added. -/
def SnapshotAdded (history : List DeviceAction) : Prop :=
  ∃ intervals, snapshot history = some (intervals, intervals)

instance (history : List DeviceAction) : Decidable (SnapshotAdded history) :=
  decidable_of_iff ((snapshot history).any (fun both => both.1 = both.2) = true) (by
    cases found : snapshot history with
    | none => simp [SnapshotAdded, found]
    | some both =>
        obtain ⟨intervals, added⟩ := both
        simp [SnapshotAdded, found, eq_comm])

@[simp] theorem snapshot_concat (history : List DeviceAction) (action : DeviceAction) :
    snapshot (history ++ [action]) = noteAction (snapshot history) action := by
  simp only [snapshot, List.foldl_append, List.foldl_cons, List.foldl_nil]

/-- The call is between the clearing of the device's store and the end of its seed. -/
def CallPoint.Fills (device : DevT) : CallPoint → Prop
  | .cleared source _ | .seeding source _ _ _ => source.devT = device
  | _ => False

/-- The life of one device. `request` belongs to the last call, `fresh` says that the
synchronizer it returned has not been run yet. -/
structure Chain (β : Type*) where
  call : CreationCall β
  request : Vector × Bool
  fresh : Bool
  frozen : Bool
  coordinator : BackupCoordinator
  sync : DeviceSynchronizer β

inductive ChainEvent (β : Type*) where
  | enter (vector : Vector) (isFull : Bool)
  | call (e : CallEvent β)
  | start (blockSize : BlockSize) (coordinator : BackupCoordinator)
  | sync (e : SyncEvent)
  | unfreeze (e : UnfreezeEvent)
  | others (coordinator : BackupCoordinator)

/-- No `DoSync` is under way. -/
def atRest {β : Type*} : Pc β → Bool
  | .unstarted | .done _ => true
  | _ => false

namespace Chain

variable {β : Type*}

/-- The first call begins; the image is whatever it is. -/
def new (vector : Vector) (isFull : Bool) (disks : DevT → Disk β) (blockSize : BlockSize)
    (image : ℕ → β) : Chain β where
  call := .start .new disks
  request := (vector, isFull)
  fresh := true
  frozen := false
  coordinator := .new 0
  sync := { DeviceSynchronizer.new blockSize image with pc := .unstarted }

def history (chain : Chain β) (device : DevT) : List DeviceAction :=
  chain.call.builder.history device

def isTracing (chain : Chain β) (device : DevT) : Bool :=
  chain.call.builder.sectorManager.isTracing device

/-- The device's file system uses the sector. -/
def InUse (chain : Chain β) (device : DevT) (sector : ℕ) : Prop :=
  (chain.call.disks device).InUse sector

/-- What the steps of `DoSync` act on. -/
def view (device : DevT) (chain : Chain β) : SyncState β :=
  ⟨chain.coordinator, { chain.call.device device with frozen := chain.frozen }, chain.sync⟩

/-- The chain after a step of `DoSync`, which changes the store and no sector. -/
def put (device : DevT) (chain : Chain β) (after : SyncState β) : Chain β where
  call := { chain.call with
    builder := { chain.call.builder with
      sectorManager := chain.call.builder.sectorManager.changeStore device
        fun _ => after.device.store } }
  request := chain.request
  fresh := chain.fresh
  frozen := after.device.frozen
  coordinator := after.coordinator
  sync := after.sync

/-- Only a call that has returned is followed by another one, and a synchronizer is run
once, when no other one of the device is at work. It starts before the next call is entered: a
job with several vectors makes all its calls first, so its runs are those here up to the
place of `start`, which does nothing that the calls for the other vectors look at. -/
def step (device : DevT) (chain : Chain β) : ChainEvent β → Option (Chain β)
  | .enter vector isFull =>
      match chain.call.point with
      | .returned _ => some { chain with
          call := { chain.call with point := .entered }
          request := (vector, isFull)
          fresh := true }
      | _ => none
  | .call e => (chain.call.step chain.request.1 chain.request.2 e).map fun call =>
      { chain with call := call }
  | .start blockSize coordinator =>
      match chain.call.point with
      | .returned (.ok synchronizer) =>
          if synchronizer.sourceDevice.devT = device ∧ chain.fresh = true ∧
              atRest chain.sync.pc = true then
            some { chain with
              fresh := false
              coordinator := coordinator
              sync := .new blockSize chain.sync.destination }
          else none
      | _ => none
  | .sync e => ((chain.view device).doSync e).map (chain.put device)
  | .unfreeze e => ((chain.view device).unfreeze e).map (chain.put device)
  | .others coordinator => some { chain with coordinator := coordinator }

/-- The next step of the call clears the store of the device. -/
def clears (chain : Chain β) (device : DevT) : Prop :=
  match chain.call.point with
  | .traced source _ => chain.request.2 = true ∧ source.devT = device
  | _ => False

/-- A sector that was free at the last snapshot comes into use only by a write, the store
is not cleared under a running `DoSync`, a synchronizer is run only on a store that holds
its whole seed, and no exception of `DoSync` forgets a sector. -/
def Careful (device : DevT) (chain : Chain β) : ChainEvent β → Prop
  | .call (.change changed inUse) =>
      changed = device → ∀ taken ∈ snapshot (chain.history device),
        ∀ segment ∈ inUse.segments, ∀ sector ∈ segment.1,
          chain.InUse device sector ∨ ∃ interval ∈ taken.1, sector ∈ interval
  | .call (.proceed _) => chain.clears device → atRest chain.sync.pc = true
  | .start _ _ => SnapshotAdded (chain.history device)
  | .sync e => (chain.view device).ForgetsNothing (.sync e)
  | _ => True

end Chain

section Calls

variable {β : Type*} {call after : CreationCall β} {vector : Vector} {isFull : Bool}
  {world : Surroundings}

/-- The builder after a step that touches no store. -/
structure Spared (before after : BackupBuilder) : Prop where
  stores : ∀ device, after.sectorManager.storeOf device = before.sectorManager.storeOf device
  tracing : ∀ device, before.sectorManager.isTracing device = true →
    after.sectorManager.isTracing device = true
  snapshots : ∀ device, snapshot (after.history device) = snapshot (before.history device)

private theorem Spared.refl (builder : BackupBuilder) : Spared builder builder :=
  ⟨fun _ => rfl, fun _ => id, fun _ => rfl⟩

private theorem spared_ensureTracing {builder opened : BackupBuilder} {device : DevT}
    {result : Except String Unit}
    (ended : builder.ensureTracing device isFull world = (result, opened)) :
    Spared builder opened ∧
      (result = .ok () → opened.sectorManager.isTracing device = true) := by
  have stores (other : DevT) := builder.sectorManager.storeOf_startTracer device other
    (world.createDeviceTracer device)
  unfold BackupBuilder.ensureTracing at ended
  split_ifs at ended with tracing full
  · obtain ⟨rfl, rfl⟩ := Prod.mk.inj ended
    exact ⟨.refl builder, fun _ => tracing⟩
  · have idle := Bool.eq_false_iff.mpr tracing
    cases created : world.createDeviceTracer device with
    | some what =>
        obtain ⟨manager, failed, same⟩ :=
          builder.sectorManager.startTracer_failed device idle what
        simp only [created, failed, Prod.mk.injEq] at ended stores
        obtain ⟨rfl, rfl⟩ := ended
        exact ⟨⟨stores, fun other before => (same other).trans before, fun _ => rfl⟩, by simp⟩
    | none =>
        obtain ⟨manager, started, running⟩ :=
          builder.sectorManager.startTracer_started device idle
        simp only [created, started, Prod.mk.injEq] at ended stores
        obtain ⟨rfl, rfl⟩ := ended
        refine ⟨⟨stores, fun other before => ?_, fun other => ?_⟩,
          fun _ => (running device).trans (if_pos rfl)⟩
        · refine (running other).trans ?_
          rw [before, ite_self]
        · by_cases same : other = device
          · simp [BackupBuilder.record, same, noteAction]
          · simp [BackupBuilder.record, Function.update_of_ne same]
  · obtain ⟨rfl, rfl⟩ := Prod.mk.inj ended
    exact ⟨.refl builder, by simp⟩

/-- What a step of a call, full or incremental, does to the stores and to their histories. -/
inductive CallEffect (isFull : Bool) (call : CreationCall β) : CreationCall β → Prop
  | passed {builder : BackupBuilder} {point : CallPoint} (spared : Spared call.builder builder)
      (traced : ∀ source remote, point = .traced source remote →
        builder.sectorManager.isTracing source.devT = true)
      (elsewhere : ∀ device, ¬ point.Fills device) :
      CallEffect isFull call ⟨builder, call.disks, point⟩
  | cleared {source remote : BlockDevice} (full : isFull = true)
      (here : call.point = .traced source remote) :
      CallEffect isFull call { call with
        builder := call.builder.clearIntervals source.devT
        point := .cleared source remote }
  | answered {source remote : BlockDevice} (here : call.point = .cleared source remote) :
      CallEffect isFull call { call with
        builder := call.builder.record source.devT
          [.inUse (call.disks source.devT).intervals]
        point := .seeding source remote (call.disks source.devT).intervals
          (call.disks source.devT).intervals }
  | added {source remote : BlockDevice} {inUseSet remaining : List SectorInterval}
      {interval : SectorInterval}
      (here : call.point = .seeding source remote inUseSet (interval :: remaining)) :
      CallEffect isFull call { call with
        builder := call.builder.addNonVolatileInterval source.devT interval
        point := .seeding source remote inUseSet remaining }

private theorem passed_unchanged (point : CallPoint)
    (untraced : ∀ source remote, point ≠ .traced source remote)
    (elsewhere : ∀ device, ¬ point.Fills device) :
    CallEffect isFull call { call with point := point } :=
  .passed (.refl call.builder) (fun source remote here => absurd here (untraced source remote))
    elsewhere

private theorem returned_effect (result : Except String NewSynchronizer) :
    CallEffect isFull call { call with point := .returned result } :=
  passed_unchanged _ (by simp) fun _ => id

theorem callEffect_of_proceed (taken : call.proceed vector isFull world = some after) :
    CallEffect isFull call after := by
  unfold CreationCall.proceed at taken
  cases here : call.point with
  | entered =>
      simp only [here] at taken
      cases asked : world.createMountableBlockDeviceFromUuid vector.blockDeviceUuid with
      | error what =>
          simp only [asked, Option.some.injEq] at taken
          exact taken ▸ returned_effect _
      | ok source =>
          cases reached : world.createRemoteBlockDevice vector.destinationHost
              vector.destinationPort.toUInt16 with
          | error what =>
              simp only [asked, reached, Option.some.injEq] at taken
              exact taken ▸ returned_effect _
          | ok remote =>
              simp only [asked, reached, Option.some.injEq] at taken
              exact taken ▸ passed_unchanged _ (by simp) fun _ => id
  | found source remote =>
      simp only [here] at taken
      cases ended : call.builder.ensureTracing source.devT isFull world with
      | mk result builder =>
          obtain ⟨spared, tracing⟩ := spared_ensureTracing ended
          cases result with
          | error what =>
              simp only [ended, Option.some.injEq] at taken
              exact taken ▸ .passed spared (by simp) fun _ => id
          | ok done =>
              simp only [ended, Option.some.injEq] at taken
              refine taken ▸ .passed spared (fun other far same => ?_) fun _ => id
              obtain ⟨rfl, rfl⟩ := CallPoint.traced.inj same
              exact tracing rfl
  | traced source remote =>
      simp only [here] at taken
      split_ifs at taken with full
      · exact Option.some.inj taken ▸ .cleared full here
      · exact Option.some.inj taken ▸ returned_effect _
  | cleared source remote =>
      simp only [here] at taken
      cases answer : world.getInUseSectors source.devT with
      | error what =>
          simp only [answer, Option.some.injEq] at taken
          exact taken ▸ returned_effect _
      | ok inUseSet =>
          simp only [answer] at taken
          split_ifs at taken with now
          subst now
          exact Option.some.inj taken ▸ .answered here
  | seeding source remote inUseSet remaining =>
      cases remaining with
      | nil =>
          simp only [here, Option.some.injEq] at taken
          exact taken ▸ returned_effect _
      | cons interval remaining =>
          simp only [here, Option.some.injEq] at taken
          exact taken ▸ .added here
  | returned result => simp [here] at taken

end Calls

end LinuxAgent.Backup
