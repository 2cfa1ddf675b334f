/- module: LinuxAgent/UnsyncedSectors/Manager
   source: unsynced_sector_manager/unsynced_sector_manager.{h,cc}
   digest: The maps of stores and tracers, and which calls start and end the tracing of a device. -/

import LinuxAgent.UnsyncedSectors.Conservation
import Mathlib.Logic.Function.Basic

/-!
The manager keeps a store and a tracer for each device number. A store is made
when it is first asked for and is never replaced, so the map holds the stores
themselves. `CreateDeviceTracer` may throw: its exception is an argument.
-/

set_option autoImplicit false
set_option relaxedAutoImplicit false

namespace LinuxAgent.UnsyncedSectors

/-- `dev_t`, the number of a block device. -/
abbrev DevT := UInt64

/-- The calls that tracers and synchronizers make on a store. -/
def StoreCall.ofWorker : StoreCall → Bool
  | .addInterval _ _ | .removeInterval _ | .getInterval _ => true
  | _ => false

/-- An entry of `tracer_map_`. Reading it with `[]` leaves a null pointer behind. -/
inductive TracerEntry where
  | absent
  | null
  | tracer
  deriving DecidableEq

structure UnsyncedSectorManager where
  storeMap : DevT → Option UnsyncedSectorStore
  tracerMap : DevT → TracerEntry

namespace UnsyncedSectorManager

/-- `VOLATILE_SECONDS`. -/
def volatileSeconds : ℤ := 10

def new : UnsyncedSectorManager := ⟨fun _ => none, fun _ => .absent⟩

def isTracing (manager : UnsyncedSectorManager) (device : DevT) : Bool :=
  manager.tracerMap device == .tracer

/-- The store of the device, and the manager that has it from now on. -/
def getStore (manager : UnsyncedSectorManager) (device : DevT) :
    UnsyncedSectorStore × UnsyncedSectorManager :=
  match manager.storeMap device with
  | some store => (store, manager)
  | none =>
      let store := UnsyncedSectorStore.new volatileSeconds
      (store, { manager with storeMap := Function.update manager.storeMap device (some store) })

def startTracer (manager : UnsyncedSectorManager) (device : DevT)
    (createDeviceTracer : Option String) : Except String Unit × UnsyncedSectorManager :=
  if manager.isTracing device then
    (.error "Already tracing block device", manager)
  else
    let read := { manager with tracerMap := Function.update manager.tracerMap device .null }
    let opened := (read.getStore device).2
    match createDeviceTracer with
    | some what => (.error what, opened)
    | none =>
        (.ok (), { opened with tracerMap := Function.update opened.tracerMap device .tracer })

def stopTracer (manager : UnsyncedSectorManager) (device : DevT) : UnsyncedSectorManager :=
  { manager with tracerMap := Function.update manager.tracerMap device .null }

/-- `StartTracer` up to the call of `CreateDeviceTracer`. -/
def openTracer (manager : UnsyncedSectorManager) (device : DevT) : UnsyncedSectorManager :=
  ({ manager with tracerMap := Function.update manager.tracerMap device .null }.getStore device).2

/-- The last statement of `StartTracer`. -/
def putTracer (manager : UnsyncedSectorManager) (device : DevT) : UnsyncedSectorManager :=
  { manager with tracerMap := Function.update manager.tracerMap device .tracer }

/-- A caller that has the store of the device changes it. -/
def changeStore (manager : UnsyncedSectorManager) (device : DevT)
    (change : UnsyncedSectorStore → UnsyncedSectorStore) : UnsyncedSectorManager :=
  let (store, opened) := manager.getStore device
  { opened with storeMap := Function.update opened.storeMap device (some (change store)) }

section Calls

variable (manager : UnsyncedSectorManager) (device other : DevT)

@[simp] theorem tracerMap_getStore :
    (manager.getStore device).2.tracerMap = manager.tracerMap := by
  unfold getStore
  cases manager.storeMap device <;> rfl

@[simp] theorem isTracing_changeStore (change : UnsyncedSectorStore → UnsyncedSectorStore) :
    (manager.changeStore device change).isTracing other = manager.isTracing other := by
  simp [changeStore, isTracing]

@[simp] theorem isTracing_stopTracer :
    (manager.stopTracer device).isTracing other =
      if other = device then false else manager.isTracing other := by
  by_cases same : other = device
  · simp [stopTracer, isTracing, same]
  · simp [stopTracer, isTracing, same]

/-- The two parts of `StartTracer` are all of it. -/
theorem startTracer_eq (idle : manager.isTracing device = false)
    (createDeviceTracer : Option String) :
    manager.startTracer device createDeviceTracer =
      match createDeviceTracer with
      | some what => (.error what, manager.openTracer device)
      | none => (.ok (), (manager.openTracer device).putTracer device) := by
  unfold startTracer
  rw [if_neg (by simp [idle])]
  cases createDeviceTracer <;> rfl

theorem isTracing_openTracer :
    (manager.openTracer device).isTracing other =
      if other = device then false else manager.isTracing other := by
  by_cases same : other = device
  · simp [openTracer, isTracing, same]
  · simp [openTracer, isTracing, same]

theorem isTracing_putTracer :
    (manager.putTracer device).isTracing other =
      if other = device then true else manager.isTracing other := by
  by_cases same : other = device
  · simp [putTracer, isTracing, same]
  · simp [putTracer, isTracing, same]

/-- A tracer that cannot be created leaves a null pointer: the device is not traced. -/
theorem startTracer_failed (idle : manager.isTracing device = false) (what : String) :
    ∃ after, manager.startTracer device (some what) = (.error what, after) ∧
      ∀ other, after.isTracing other = manager.isTracing other := by
  refine ⟨_, manager.startTracer_eq device idle (some what), fun other => ?_⟩
  rw [isTracing_openTracer]
  split_ifs with same
  · rw [same, idle]
  · rfl

theorem startTracer_started (idle : manager.isTracing device = false) :
    ∃ after, manager.startTracer device none = (.ok (), after) ∧
      ∀ other, after.isTracing other =
        if other = device then true else manager.isTracing other := by
  refine ⟨_, manager.startTracer_eq device idle none, fun other => ?_⟩
  rw [isTracing_putTracer]
  by_cases same : other = device
  · rw [if_pos same, if_pos same]
  · rw [if_neg same, if_neg same, isTracing_openTracer, if_neg same]

@[simp] theorem storeMap_stopTracer :
    (manager.stopTracer device).storeMap = manager.storeMap := rfl

end Calls

section Stores

variable (manager : UnsyncedSectorManager) (device other : DevT)

/-- The store that the manager has for the device, or would make for it. -/
def storeOf : UnsyncedSectorStore := (manager.getStore device).1

theorem storeOf_eq :
    manager.storeOf device = (manager.storeMap device).getD (.new volatileSeconds) := by
  unfold storeOf getStore
  cases manager.storeMap device <;> rfl

@[simp] theorem storeOf_getStore :
    (manager.getStore device).2.storeOf other = manager.storeOf other := by
  unfold getStore
  cases found : manager.storeMap device with
  | some store => rfl
  | none =>
      rw [storeOf_eq, storeOf_eq]
      by_cases same : other = device
      · simp [same, found]
      · simp [same]

theorem storeOf_changeStore (change : UnsyncedSectorStore → UnsyncedSectorStore) :
    (manager.changeStore device change).storeOf other =
      if other = device then change (manager.storeOf device) else manager.storeOf other := by
  have others := manager.storeOf_getStore device other
  rw [storeOf_eq] at others ⊢
  by_cases same : other = device
  · simp [changeStore, same, storeOf]
  · simpa [changeStore, same] using others

/-- Starting a tracer makes a store at most. -/
theorem storeOf_startTracer (createDeviceTracer : Option String) :
    (manager.startTracer device createDeviceTracer).2.storeOf other = manager.storeOf other := by
  have opened := ({ manager with
    tracerMap := Function.update manager.tracerMap device .null }).storeOf_getStore device other
  unfold startTracer
  split_ifs with tracing
  · rfl
  · cases createDeviceTracer with
    | some what => simpa [storeOf_eq] using opened
    | none => simpa [storeOf_eq] using opened

theorem storeOf_stopTracer :
    (manager.stopTracer device).storeOf other = manager.storeOf other := by
  simp [storeOf_eq]

end Stores

end UnsyncedSectorManager

end LinuxAgent.UnsyncedSectors
