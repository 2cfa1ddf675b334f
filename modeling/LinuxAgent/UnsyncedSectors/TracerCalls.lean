/- module: LinuxAgent/UnsyncedSectors/TracerCalls
   source: unsynced_sector_manager/unsynced_sector_manager.{h,cc}
   digest: The manager with its pointers, under any sequence of calls on any devices. -/

import LinuxAgent.Lib.Run
import LinuxAgent.UnsyncedSectors.Manager

/-!
Here the two maps hold pointers, as they do in the code: an entry is missing, null or an
object, and `[]` puts a null pointer where there was no entry. Stores and tracers are
objects with a number of their own, so that two calls return the same store exactly when
they return the same number. A call through a null pointer has no result.
-/

set_option autoImplicit false
set_option relaxedAutoImplicit false

namespace LinuxAgent.UnsyncedSectors

open LinuxAgent.Lib.Run

/-- A `std::map` from device numbers to `std::shared_ptr`. -/
abbrev PointerMap (α : Type) := DevT → Option (Option α)

namespace PointerMap

variable {α : Type}

/-- `map[device]` as a value. -/
def index (map : PointerMap α) (device : DevT) : Option α := (map device).join

def assign (map : PointerMap α) (device : DevT) (pointer : Option α) : PointerMap α :=
  Function.update map device (some pointer)

/-- What the evaluation of `map[device]` leaves. -/
def indexed (map : PointerMap α) (device : DevT) : PointerMap α :=
  map.assign device (map.index device)

end PointerMap

/-- A `DeviceTracer`: its own number and the number of the store it was given. -/
structure TracerObject where
  number : ℕ
  store : ℕ
  deriving DecidableEq

/-- The members of `UnsyncedSectorManager`, the stores and how many objects were made. -/
structure PointerManager where
  storeMap : PointerMap ℕ
  tracerMap : PointerMap TracerObject
  heap : ℕ → UnsyncedSectorStore
  made : ℕ

inductive TracerCall where
  | startTracer (device : DevT) (createDeviceTracer : Option String)
  | stopTracer (device : DevT)
  | flushTracer (device : DevT)
  | isTracing (device : DevT)
  | getStore (device : DevT)
  deriving DecidableEq

/-- What a call does: an exception of `StartTracer` itself or of `CreateDeviceTracer`, the
tracer on which `FlushBuffers` is called, the value that is returned. -/
inductive CallOutcome where
  | threw (what : String)
  | createThrew (store : ℕ) (what : String)
  | started (tracer : TracerObject)
  | stopped
  | flushed (tracer : TracerObject)
  | notFlushed
  | answered (tracing : Bool)
  | store (store : ℕ)
  deriving DecidableEq

namespace PointerManager

def new : PointerManager :=
  ⟨fun _ => none, fun _ => none, fun _ => .new UnsyncedSectorManager.volatileSeconds, 0⟩

def isTracing (manager : PointerManager) (device : DevT) : Bool :=
  match manager.tracerMap device with
  | some tracer => tracer.isSome
  | none => false

def getStore (manager : PointerManager) (device : DevT) : ℕ × PointerManager :=
  match manager.storeMap.index device with
  | some store => (store, { manager with storeMap := manager.storeMap.indexed device })
  | none =>
      (manager.made,
        { manager with
          storeMap := (manager.storeMap.indexed device).assign device (some manager.made)
          heap := Function.update manager.heap manager.made
            (.new UnsyncedSectorManager.volatileSeconds)
          made := manager.made + 1 })

def startTracer (manager : PointerManager) (device : DevT) (createDeviceTracer : Option String) :
    CallOutcome × PointerManager :=
  let read := { manager with tracerMap := manager.tracerMap.indexed device }
  match manager.tracerMap.index device with
  | some _ => (.threw "Already tracing block device", read)
  | none =>
      let (store, opened) := read.getStore device
      match createDeviceTracer with
      | some what => (.createThrew store what, opened)
      | none =>
          let tracer := ⟨opened.made, store⟩
          (.started tracer,
            { opened with
              storeMap := opened.storeMap.assign device (some store)
              tracerMap := opened.tracerMap.assign device (some tracer)
              made := opened.made + 1 })

def stopTracer (manager : PointerManager) (device : DevT) : PointerManager :=
  { manager with tracerMap := manager.tracerMap.assign device none }

/-- `count` does not tell a null pointer from a tracer. -/
def flushTracer (manager : PointerManager) (device : DevT) :
    Option (CallOutcome × PointerManager) :=
  if (manager.tracerMap device).isSome then
    (manager.tracerMap.index device).map fun tracer =>
      (.flushed tracer, { manager with tracerMap := manager.tracerMap.indexed device })
  else some (.notFlushed, manager)

def call (manager : PointerManager) : TracerCall → Option (CallOutcome × PointerManager)
  | .startTracer device createDeviceTracer =>
      some (manager.startTracer device createDeviceTracer)
  | .stopTracer device => some (.stopped, manager.stopTracer device)
  | .flushTracer device => manager.flushTracer device
  | .isTracing device => some (.answered (manager.isTracing device), manager)
  | .getStore device =>
      let (store, after) := manager.getStore device
      some (.store store, after)

end PointerManager

/-- The manager and the calls so far with their outcomes. -/
structure Recorded where
  manager : PointerManager
  log : List (TracerCall × CallOutcome)

namespace Recorded

def start : Recorded := ⟨.new, []⟩

def step (s : Recorded) (c : TracerCall) : Option Recorded :=
  (s.manager.call c).map fun result => ⟨result.2, s.log ++ [(c, result.1)]⟩

/-- `FlushTracer` is called while the entry of the device is a null pointer. -/
def FlushesNull (s : Recorded) (c : TracerCall) : Prop :=
  ∃ device, c = .flushTracer device ∧ s.manager.tracerMap device = some none

end Recorded

/-- The call begins or ends the tracing of the device. -/
def Changes (device : DevT) (r : TracerCall × CallOutcome) : Prop :=
  r.1 = .stopTracer device ∨ ∃ tracer, r = (.startTracer device none, .started tracer)

/-- The last successful `StartTracer` of the device made this tracer, and no `StopTracer`
followed. -/
def StartedLast (device : DevT) (tracer : TracerObject)
    (log : List (TracerCall × CallOutcome)) : Prop :=
  ∃ before after, log = before ++ (.startTracer device none, .started tracer) :: after ∧
    ∀ r ∈ after, ¬ Changes device r

/-- The call returns the store as that of the device, or hands it to a tracer of it. -/
inductive Hands (device : DevT) (store : ℕ) : TracerCall × CallOutcome → Prop
  | returned : Hands device store (.getStore device, .store store)
  | created (tracer : TracerObject) (same : tracer.store = store) :
      Hands device store (.startTracer device none, .started tracer)
  | tried (what : String) :
      Hands device store (.startTracer device (some what), .createThrew store what)

/-- What the manager promises in a state that its calls have led to. -/
structure Recorded.Meets (s : Recorded) : Prop where
  tracing : ∀ device, s.manager.isTracing device = true ↔
    ∃ tracer, StartedLast device tracer s.log
  refuses : ∀ device create, (∃ after, s.manager.startTracer device create =
    (.threw "Already tracing block device", after)) ↔ s.manager.isTracing device = true
  flushes : ∀ device tracer, (∃ after, s.manager.flushTracer device =
    some (.flushed tracer, after)) ↔ StartedLast device tracer s.log
  oneStore : ∀ device, ∃ store, ∀ r ∈ s.log, ∀ other, Hands device other r → other = store

/-- `StartTracer` or `StopTracer` of the device, whatever comes of it. -/
def TracerCall.Touches (device : DevT) (c : TracerCall) : Prop :=
  (∃ create, c = .startTracer device create) ∨ c = .stopTracer device

/-! ### What one call does -/

/-- The effect of a call on the two maps, for every device. -/
structure Effect (before : PointerManager) (c : TracerCall) (outcome : CallOutcome)
    (after : PointerManager) : Prop where
  tracer : ∀ device tracer, after.tracerMap device = some (some tracer) ↔
    (c, outcome) = (.startTracer device none, .started tracer) ∨
      ¬ Changes device (c, outcome) ∧ before.tracerMap device = some (some tracer)
  absent : ∀ device, after.tracerMap device = none ↔
    ¬ c.Touches device ∧ before.tracerMap device = none
  keeps : ∀ device store, before.storeMap device = some (some store) →
    after.storeMap device = some (some store)
  hands : ∀ device store, Hands device store (c, outcome) →
    after.storeMap device = some (some store)

section Calls

variable {manager after : PointerManager} {device other : DevT}

private theorem indexed_of_some {α : Type} {map : PointerMap α} {pointer : Option α}
    (present : map device = some pointer) : map.indexed device = map := by
  unfold PointerMap.indexed PointerMap.assign PointerMap.index
  rw [present]
  exact Function.update_eq_self_iff.mpr present.symm

private theorem index_eq_some {α : Type} {map : PointerMap α} {object : α} :
    map.index device = some object ↔ map device = some (some object) := by
  unfold PointerMap.index
  exact Option.join_eq_some_iff

private theorem isTracing_iff :
    manager.isTracing device = true ↔
      ∃ tracer, manager.tracerMap device = some (some tracer) := by
  unfold PointerManager.isTracing
  cases found : manager.tracerMap device with
  | none => simp
  | some pointer => simp [Option.isSome_iff_exists]

/-- `GetStore` makes a store where there is none and changes nothing else. -/
private theorem getStore_spec (manager : PointerManager) (device : DevT) :
    (manager.getStore device).2.tracerMap = manager.tracerMap ∧
      (manager.getStore device).2.storeMap device = some (some (manager.getStore device).1) ∧
      ∀ other store, manager.storeMap other = some (some store) →
        (manager.getStore device).2.storeMap other = some (some store) := by
  unfold PointerManager.getStore
  cases found : manager.storeMap.index device with
  | some store =>
    have present := index_eq_some.mp found
    have same := indexed_of_some present
    refine ⟨rfl, ?_, ?_⟩
    · show manager.storeMap.indexed device device = _
      rw [same, present]
    · intro other store kept
      show manager.storeMap.indexed device other = _
      rw [same, kept]
  | none =>
    refine ⟨rfl, by simp [PointerMap.assign], ?_⟩
    intro other store kept
    have different : other ≠ device := by
      rintro rfl
      simp [index_eq_some.mpr kept] at found
    simpa [PointerMap.indexed, PointerMap.assign, different] using kept

private theorem effect_getStore (manager : PointerManager) (device : DevT) :
    Effect manager (.getStore device) (.store (manager.getStore device).1)
      (manager.getStore device).2 := by
  obtain ⟨tracers, own, kept⟩ := getStore_spec manager device
  refine ⟨?_, ?_, kept, ?_⟩
  · intro other tracer
    simp [tracers, Changes]
  · intro other
    simp [tracers, TracerCall.Touches]
  · intro other store handed
    cases handed
    exact own

/-- A call that leaves both maps, does not touch a tracer and hands out no store. -/
private theorem effect_same {c : TracerCall} {outcome : CallOutcome}
    (untouched : ∀ device, ¬ c.Touches device)
    (silent : ∀ device store, ¬ Hands device store (c, outcome)) :
    Effect manager c outcome manager := by
  have unchanged : ∀ device, ¬ Changes device (c, outcome) := by
    rintro device (stops | ⟨tracer, starts⟩)
    · exact untouched device (.inr stops)
    · exact untouched device (.inl ⟨none, congrArg Prod.fst starts⟩)
  refine ⟨?_, ?_, fun _ _ kept => kept, fun device store handed => absurd handed (silent _ _)⟩
  · intro device tracer
    refine ⟨fun present => .inr ⟨unchanged device, present⟩, ?_⟩
    rintro (starts | ⟨-, present⟩)
    · exact absurd (.inr ⟨tracer, starts⟩) (unchanged device)
    · exact present
  · intro device
    exact ⟨fun missing => ⟨untouched device, missing⟩, And.right⟩

private theorem effect_stopTracer (manager : PointerManager) (device : DevT) :
    Effect manager (.stopTracer device) .stopped (manager.stopTracer device) := by
  refine ⟨?_, ?_, fun _ _ kept => kept, ?_⟩
  · intro other tracer
    by_cases same : other = device
    · simp [PointerManager.stopTracer, PointerMap.assign, Changes, same]
    · simp [PointerManager.stopTracer, PointerMap.assign, Changes, same, Ne.symm same]
  · intro other
    by_cases same : other = device
    · simp [PointerManager.stopTracer, PointerMap.assign, TracerCall.Touches, same]
    · simp [PointerManager.stopTracer, PointerMap.assign, TracerCall.Touches, same, Ne.symm same]
  · intro other store handed
    cases handed

/-- `StartTracer` of a device that is not traced, up to `CreateDeviceTracer`. -/
private def opened (manager : PointerManager) (device : DevT) : ℕ × PointerManager :=
  { manager with tracerMap := manager.tracerMap.indexed device }.getStore device

private theorem startTracer_of_traced {tracer : TracerObject}
    (traced : manager.tracerMap device = some (some tracer)) (create : Option String) :
    manager.startTracer device create = (.threw "Already tracing block device", manager) := by
  unfold PointerManager.startTracer
  rw [index_eq_some.mpr traced, indexed_of_some traced]

private theorem startTracer_of_idle (idle : manager.tracerMap.index device = none)
    (create : Option String) :
    manager.startTracer device create =
      match create with
      | some what => (.createThrew (opened manager device).1 what, (opened manager device).2)
      | none =>
          (.started ⟨(opened manager device).2.made, (opened manager device).1⟩,
            { (opened manager device).2 with
              storeMap := (opened manager device).2.storeMap.assign device
                (some (opened manager device).1)
              tracerMap := (opened manager device).2.tracerMap.assign device
                (some ⟨(opened manager device).2.made, (opened manager device).1⟩)
              made := (opened manager device).2.made + 1 }) := by
  unfold PointerManager.startTracer
  rw [idle]
  cases create <;> rfl

private theorem tracerMap_opened (idle : manager.tracerMap.index device = none) :
    (opened manager device).2.tracerMap = manager.tracerMap.assign device none := by
  have spec := getStore_spec { manager with tracerMap := manager.tracerMap.indexed device } device
  rw [opened, spec.1]
  unfold PointerMap.indexed
  rw [idle]

private theorem storeMap_opened (manager : PointerManager) (device : DevT) :
    (opened manager device).2.storeMap device = some (some (opened manager device).1) ∧
      ∀ other store, manager.storeMap other = some (some store) →
        (opened manager device).2.storeMap other = some (some store) :=
  (getStore_spec { manager with tracerMap := manager.tracerMap.indexed device } device).2

/-- The assignment of the store that is already there. -/
private theorem storeMap_assigned (manager : PointerManager) (device : DevT) :
    (opened manager device).2.storeMap.assign device (some (opened manager device).1) =
      (opened manager device).2.storeMap :=
  Function.update_eq_self_iff.mpr (storeMap_opened manager device).1.symm

private theorem not_traced (idle : manager.tracerMap.index device = none) (tracer : TracerObject) :
    manager.tracerMap device ≠ some (some tracer) := by
  intro traced
  rw [index_eq_some.mpr traced] at idle
  cases idle

private theorem effect_failed (idle : manager.tracerMap.index device = none) (what : String) :
    Effect manager (.startTracer device (some what))
      (.createThrew (opened manager device).1 what) (opened manager device).2 := by
  have tracers := tracerMap_opened idle
  obtain ⟨own, kept⟩ := storeMap_opened manager device
  refine ⟨?_, ?_, kept, ?_⟩
  · intro other tracer
    by_cases same : other = device
    · have missing := not_traced idle tracer
      simp [tracers, PointerMap.assign, Changes, same, missing]
    · simp [tracers, PointerMap.assign, Changes, same]
  · intro other
    by_cases same : other = device
    · simp [tracers, PointerMap.assign, TracerCall.Touches, same]
    · simp [tracers, PointerMap.assign, TracerCall.Touches, same, Ne.symm same]
  · intro other store handed
    cases handed
    exact own

private theorem effect_started (idle : manager.tracerMap.index device = none) :
    Effect manager (.startTracer device none) (manager.startTracer device none).1
      (manager.startTracer device none).2 := by
  have tracers := tracerMap_opened idle
  obtain ⟨own, kept⟩ := storeMap_opened manager device
  rw [startTracer_of_idle idle none]
  simp only [tracers, storeMap_assigned]
  refine ⟨?_, ?_, kept, ?_⟩
  · intro other tracer
    by_cases same : other = device
    · simp [PointerMap.assign, Changes, same]
    · simp [PointerMap.assign, Changes, same, Ne.symm same]
  · intro other
    by_cases same : other = device
    · simp [PointerMap.assign, TracerCall.Touches, same]
    · simp [PointerMap.assign, TracerCall.Touches, same, Ne.symm same]
  · intro other store handed
    cases handed with
    | created tracer same =>
      rw [← same]
      exact own

/-- `StartTracer` that throws because the device is traced. -/
private theorem effect_refused {tracer : TracerObject}
    (traced : manager.tracerMap device = some (some tracer)) (create : Option String)
    (what : String) : Effect manager (.startTracer device create) (.threw what) manager := by
  refine ⟨?_, ?_, fun _ _ kept => kept, ?_⟩
  · intro other found
    simp [Changes]
  · intro other
    refine ⟨fun missing => ⟨?_, missing⟩, And.right⟩
    rintro (⟨_, starts⟩ | stops)
    · obtain ⟨rfl, -⟩ := TracerCall.startTracer.inj starts
      simp [traced] at missing
    · cases stops
  · intro other store handed
    cases handed

private theorem effect_startTracer (manager : PointerManager) (device : DevT)
    (create : Option String) :
    Effect manager (.startTracer device create) (manager.startTracer device create).1
      (manager.startTracer device create).2 := by
  cases found : manager.tracerMap.index device with
  | some tracer =>
    have traced := index_eq_some.mp found
    rw [startTracer_of_traced traced]
    exact effect_refused traced create _
  | none =>
    cases create with
    | none => exact effect_started found
    | some what =>
      rw [startTracer_of_idle found]
      exact effect_failed found what

theorem call_effect {c : TracerCall} {outcome : CallOutcome}
    (taken : manager.call c = some (outcome, after)) : Effect manager c outcome after := by
  cases c with
  | startTracer device create =>
    have result : manager.startTracer device create = (outcome, after) := Option.some.inj taken
    have effect := effect_startTracer manager device create
    rw [result] at effect
    exact effect
  | stopTracer device =>
    obtain ⟨rfl, rfl⟩ := Prod.mk.inj (Option.some.inj taken)
    exact effect_stopTracer manager device
  | flushTracer device =>
    have untouched : ∀ other, ¬ (TracerCall.flushTracer device).Touches other := by
      simp [TracerCall.Touches]
    simp only [PointerManager.call, PointerManager.flushTracer] at taken
    split_ifs at taken with counted
    · obtain ⟨tracer, found, result⟩ := Option.map_eq_some_iff.mp taken
      obtain ⟨rfl, rfl⟩ := Prod.mk.inj result
      rw [indexed_of_some (index_eq_some.mp found)]
      exact effect_same untouched fun _ _ handed => by cases handed
    · obtain ⟨rfl, rfl⟩ := Prod.mk.inj (Option.some.inj taken)
      exact effect_same untouched fun _ _ handed => by cases handed
  | isTracing device =>
    obtain ⟨rfl, rfl⟩ := Prod.mk.inj (Option.some.inj taken)
    exact effect_same (by simp [TracerCall.Touches]) fun _ _ handed => by cases handed
  | getStore device =>
    obtain ⟨rfl, rfl⟩ := Prod.mk.inj (Option.some.inj taken)
    exact effect_getStore manager device

end Calls

/-! ### Sequences of calls -/

/-- The last call either starts the tracer itself or leaves it alone. -/
private theorem startedLast_append {device : DevT} {tracer : TracerObject}
    {log : List (TracerCall × CallOutcome)} {r : TracerCall × CallOutcome} :
    StartedLast device tracer (log ++ [r]) ↔
      r = (.startTracer device none, .started tracer) ∨
        ¬ Changes device r ∧ StartedLast device tracer log := by
  constructor
  · rintro ⟨before, after, split, quiet⟩
    rcases List.eq_nil_or_concat after with rfl | ⟨rest, last, rfl⟩
    · have ends := (List.append_inj' split rfl).2
      exact .inl (List.cons.inj ends).1
    · have regrouped : log ++ [r] =
          (before ++ (.startTracer device none, .started tracer) :: rest) ++ [last] := by
        rw [split]
        simp
      obtain ⟨shorter, ends⟩ := List.append_inj' regrouped rfl
      obtain rfl := (List.cons.inj ends).1
      exact .inr ⟨quiet r (by simp), before, rest, shorter,
        fun other member => quiet other (by simp [member])⟩
  · rintro (rfl | ⟨quiet, before, after, rfl, others⟩)
    · exact ⟨log, [], rfl, by simp⟩
    · refine ⟨before, after ++ [r], by simp, ?_⟩
      intro other member
      rcases List.mem_append.mp member with inside | last
      · exact others other inside
      · rw [List.mem_singleton.mp last]
        exact quiet

namespace Recorded

/-- What the maps have to do with the calls so far. -/
structure Consistent (s : Recorded) : Prop where
  entry : ∀ device tracer, s.manager.tracerMap device = some (some tracer) ↔
    StartedLast device tracer s.log
  untouched : ∀ device, s.manager.tracerMap device = none ↔
    ∀ r ∈ s.log, ¬ r.1.Touches device
  handed : ∀ device store, ∀ r ∈ s.log, Hands device store r →
    s.manager.storeMap device = some (some store)

variable {s t : Recorded} {c : TracerCall}

private theorem step_inv (taken : s.step c = some t) :
    ∃ outcome, Effect s.manager c outcome t.manager ∧ t.log = s.log ++ [(c, outcome)] := by
  obtain ⟨⟨outcome, after⟩, called, rfl⟩ := Option.map_eq_some_iff.mp taken
  exact ⟨outcome, call_effect called, rfl⟩

private theorem consistent_start : start.Consistent where
  entry device tracer := by simp [start, PointerManager.new, StartedLast]
  untouched device := by simp [start, PointerManager.new]
  handed device store r member := by simp [start] at member

private theorem consistent_step (before : s.Consistent) (taken : s.step c = some t) :
    t.Consistent := by
  obtain ⟨outcome, effect, log⟩ := step_inv taken
  refine ⟨?_, ?_, ?_⟩
  · intro device tracer
    rw [effect.tracer, before.entry, log, startedLast_append]
  · intro device
    rw [effect.absent, before.untouched, log]
    simp only [List.mem_append, List.mem_singleton, or_imp, forall_and, forall_eq]
    exact and_comm
  · intro device store r member hands
    rw [log] at member
    rcases List.mem_append.mp member with earlier | last
    · exact effect.keeps device store (before.handed device store r earlier hands)
    · rw [List.mem_singleton.mp last] at hands
      exact effect.hands device store hands

/-- A null entry is what an unsuccessful `StartTracer` or a `StopTracer` leaves. -/
theorem tracerMap_null_iff {calls : List TracerCall} (reached : run step start calls = some s)
    (device : DevT) :
    s.manager.tracerMap device = some none ↔
      (∃ r ∈ s.log, r.1.Touches device) ∧ ¬ ∃ tracer, StartedLast device tracer s.log := by
  have consistent : s.Consistent :=
    invariant (fun _ _ _ inv taken => consistent_step inv taken) consistent_start reached
  have missing := consistent.untouched device
  have traced := consistent.entry device
  simp only [← traced]
  rcases found : s.manager.tracerMap device with _ | _ | tracer
  · have none_touches := missing.mp found
    simpa using none_touches
  · have touched := mt missing.mpr (by simp [found])
    push Not at touched
    simpa using touched
  · simp

private theorem meets_of_consistent (consistent : s.Consistent) : s.Meets where
  tracing device := by
    rw [isTracing_iff]
    exact exists_congr fun tracer => consistent.entry device tracer
  refuses device create := by
    rw [isTracing_iff]
    constructor
    · rintro ⟨after, refused⟩
      cases found : s.manager.tracerMap.index device with
      | some tracer => exact ⟨tracer, index_eq_some.mp found⟩
      | none =>
        rw [startTracer_of_idle found] at refused
        cases create <;> cases congrArg Prod.fst refused
    · rintro ⟨tracer, traced⟩
      exact ⟨s.manager, startTracer_of_traced traced create⟩
  flushes device tracer := by
    rw [← consistent.entry, ← index_eq_some]
    unfold PointerManager.flushTracer
    constructor
    · rintro ⟨after, flushed⟩
      split_ifs at flushed with counted
      · obtain ⟨found, present, result⟩ := Option.map_eq_some_iff.mp flushed
        obtain ⟨same, -⟩ := Prod.mk.inj result
        rw [present, CallOutcome.flushed.inj same]
      · cases congrArg Prod.fst (Option.some.inj flushed)
    · intro present
      rw [if_pos (by rw [index_eq_some.mp present]; rfl), present]
      exact ⟨_, rfl⟩
  oneStore device := by
    refine ⟨(s.manager.storeMap.index device).getD 0, ?_⟩
    intro r member store hands
    rw [index_eq_some.mpr (consistent.handed device store r member hands), Option.getD_some]

/-- A call has a result unless it goes through a null pointer. -/
private theorem step_isSome_iff : (s.step c).isSome ↔ ¬ s.FlushesNull c := by
  rw [step, Option.isSome_map, FlushesNull]
  cases c with
  | flushTracer device =>
    simp only [PointerManager.call, PointerManager.flushTracer, PointerMap.index,
      TracerCall.flushTracer.injEq, exists_eq_left']
    rcases found : s.manager.tracerMap device with _ | _ | tracer <;> simp
  | startTracer device create => simp [PointerManager.call]
  | stopTracer device => simp [PointerManager.call]
  | isTracing device => simp [PointerManager.call]
  | getStore device => simp [PointerManager.call]

private theorem completes_iff {calls : List TracerCall} (s : Recorded) :
    (run step s calls).isSome ↔ Along step (fun s c => ¬ s.FlushesNull c) s calls := by
  induction calls generalizing s with
  | nil => simp [Along]
  | cons c calls ih =>
    rw [Along, ← step_isSome_iff, run]
    cases next : s.step c with
    | none => simp
    | some t => simpa using ih t

/-- The manager under any sequence of calls: after each of them it keeps what it promises,
and none goes through a null pointer, exactly when `FlushTracer` is not called for a device
that has a null entry. -/
theorem tracerCalls_meet_iff (calls : List TracerCall) :
    (∀ before after, calls = before ++ after →
      ∃ s, run step start before = some s ∧ s.Meets) ↔
        Along step (fun s c => ¬ s.FlushesNull c) start calls := by
  constructor
  · intro every
    obtain ⟨s, reached, -⟩ := every calls [] (by simp)
    exact (completes_iff start).mp (by simp [reached])
  · rintro safe before after rfl
    have completes := (completes_iff start).mpr (along_of_append safe)
    obtain ⟨s, reached⟩ := Option.isSome_iff_exists.mp completes
    have consistent : s.Consistent :=
      invariant (fun _ _ _ inv taken => consistent_step inv taken) consistent_start reached
    exact ⟨s, reached, meets_of_consistent consistent⟩

/-- A device is traced, the tracer is stopped, and then it is flushed. -/
theorem flush_after_stop_null :
    ¬ ∀ before after, [.startTracer 0 none, .stopTracer 0, .flushTracer 0] = before ++ after →
      ∃ s, run step start before = some s ∧ s.Meets := by
  intro every
  obtain ⟨s, reached, -⟩ := every _ [] (List.append_nil _).symm
  have none_reached : run step start [.startTracer 0 none, .stopTracer 0, .flushTracer 0] = none :=
    by rfl
  rw [none_reached] at reached
  cases reached

end Recorded

/-! ### The manager whose map holds the stores themselves -/

namespace PointerManager

/-- The manager without its pointers. -/
def toManager (manager : PointerManager) : UnsyncedSectorManager where
  storeMap device := (manager.storeMap.index device).map manager.heap
  tracerMap device :=
    match manager.tracerMap device with
    | none => .absent
    | some none => .null
    | some (some _) => .tracer

/-- Objects have numbers that were given out. -/
def Allocated (manager : PointerManager) : Prop :=
  ∀ device store, manager.storeMap device = some (some store) → store < manager.made

variable {manager : PointerManager} {device : DevT}

private theorem isTracing_toManager (manager : PointerManager) (device : DevT) :
    manager.toManager.isTracing device = manager.isTracing device := by
  unfold UnsyncedSectorManager.isTracing isTracing toManager
  rcases found : manager.tracerMap device with _ | _ | tracer <;> simp [found]

private theorem toManager_assign (manager : PointerManager) (device : DevT)
    (pointer : Option TracerObject) :
    { manager with tracerMap := manager.tracerMap.assign device pointer }.toManager =
      { manager.toManager with
        tracerMap := Function.update manager.toManager.tracerMap device
          (if pointer.isSome then .tracer else .null) } := by
  unfold toManager
  congr 1
  funext other
  by_cases same : other = device
  · subst same
    cases pointer <;> simp [PointerMap.assign]
  · simp [PointerMap.assign, same]

private theorem toManager_getStore (allocated : manager.Allocated) (device : DevT) :
    (manager.getStore device).2.toManager = (manager.toManager.getStore device).2 := by
  unfold getStore UnsyncedSectorManager.getStore
  cases found : manager.storeMap.index device with
  | some store =>
    have there : manager.toManager.storeMap device = some (manager.heap store) := by
      simp [toManager, found]
    simp only [there, indexed_of_some (index_eq_some.mp found)]
  | none =>
    have missing : manager.toManager.storeMap device = none := by simp [toManager, found]
    simp only [missing]
    unfold toManager
    congr 1
    funext other
    by_cases same : other = device
    · simp [PointerMap.index, PointerMap.assign, same]
    · cases entry : manager.storeMap.index other with
      | none =>
        have unset : (manager.storeMap other).join = none := entry
        simp [PointerMap.index, PointerMap.indexed, PointerMap.assign, same, unset]
      | some store =>
        have older := allocated other store (index_eq_some.mp entry)
        have kept : (manager.storeMap other).join = some store := entry
        simp [PointerMap.index, PointerMap.indexed, PointerMap.assign, same, kept, older.ne]

private theorem allocated_getStore (allocated : manager.Allocated) (device : DevT) :
    (manager.getStore device).2.Allocated := by
  unfold getStore
  cases found : manager.storeMap.index device with
  | some store =>
    simp only [indexed_of_some (index_eq_some.mp found)]
    exact allocated
  | none =>
    intro other store present
    by_cases same : other = device
    · simp [PointerMap.assign, same] at present
      simp [← present]
    · simp [PointerMap.indexed, PointerMap.assign, same] at present
      exact (allocated other store present).trans (Nat.lt_succ_self _)

/-- `StartTracer` of a device that is not traced up to `CreateDeviceTracer`, in both models. -/
private theorem toManager_opened (allocated : manager.Allocated)
    (idle : manager.tracerMap.index device = none) :
    (opened manager device).2.toManager = manager.toManager.openTracer device := by
  have read : manager.tracerMap.indexed device = manager.tracerMap.assign device none := by
    unfold PointerMap.indexed
    rw [idle]
  have kept : { manager with tracerMap := manager.tracerMap.indexed device }.Allocated := allocated
  unfold opened UnsyncedSectorManager.openTracer
  rw [toManager_getStore kept, read, toManager_assign]
  rfl

private theorem toManager_startTracer (allocated : manager.Allocated) (create : Option String) :
    (manager.startTracer device create).2.toManager =
      (manager.toManager.startTracer device create).2 := by
  cases found : manager.tracerMap.index device with
  | some tracer =>
    have traced := index_eq_some.mp found
    have tracing : manager.toManager.isTracing device = true := by
      rw [isTracing_toManager]
      exact isTracing_iff.mpr ⟨tracer, traced⟩
    rw [startTracer_of_traced traced, UnsyncedSectorManager.startTracer, if_pos tracing]
  | none =>
    have idle : manager.toManager.isTracing device = false := by
      rw [isTracing_toManager, Bool.eq_false_iff, ne_eq, isTracing_iff]
      rintro ⟨tracer, traced⟩
      exact not_traced found tracer traced
    have both := toManager_opened allocated found
    rw [startTracer_of_idle found, UnsyncedSectorManager.startTracer_eq _ _ idle]
    cases create with
    | some what => exact both
    | none =>
      simp only [storeMap_assigned]
      rw [← both]
      exact toManager_assign (opened manager device).2 device (some _)

private theorem allocated_startTracer (allocated : manager.Allocated) (create : Option String) :
    (manager.startTracer device create).2.Allocated := by
  cases found : manager.tracerMap.index device with
  | some tracer =>
    rw [startTracer_of_traced (index_eq_some.mp found)]
    exact allocated
  | none =>
    have read : { manager with tracerMap := manager.tracerMap.indexed device }.Allocated :=
      allocated
    have both : (opened manager device).2.Allocated := allocated_getStore read device
    rw [startTracer_of_idle found]
    cases create with
    | some what => exact both
    | none =>
      intro other store present
      simp only [storeMap_assigned] at present
      exact (both other store present).trans (Nat.lt_succ_self _)

end PointerManager

/-- The effect of a call on the manager without pointers. -/
def UnsyncedSectorManager.apply (manager : UnsyncedSectorManager) :
    TracerCall → UnsyncedSectorManager
  | .startTracer device create => (manager.startTracer device create).2
  | .stopTracer device => manager.stopTracer device
  | .flushTracer _ | .isTracing _ => manager
  | .getStore device => (manager.getStore device).2

private theorem toManager_call {manager after : PointerManager} {c : TracerCall}
    {outcome : CallOutcome} (allocated : manager.Allocated)
    (taken : manager.call c = some (outcome, after)) :
    after.Allocated ∧ after.toManager = manager.toManager.apply c := by
  cases c with
  | startTracer device create =>
    obtain rfl : (manager.startTracer device create).2 = after :=
      congrArg Prod.snd (Option.some.inj taken)
    exact ⟨PointerManager.allocated_startTracer allocated create,
      PointerManager.toManager_startTracer allocated create⟩
  | stopTracer device =>
    obtain rfl : manager.stopTracer device = after := congrArg Prod.snd (Option.some.inj taken)
    exact ⟨allocated, PointerManager.toManager_assign manager device none⟩
  | flushTracer device =>
    simp only [PointerManager.call, PointerManager.flushTracer] at taken
    split_ifs at taken with counted
    · obtain ⟨tracer, found, result⟩ := Option.map_eq_some_iff.mp taken
      obtain ⟨-, rfl⟩ := Prod.mk.inj result
      rw [indexed_of_some (index_eq_some.mp found)]
      exact ⟨allocated, rfl⟩
    · obtain ⟨-, rfl⟩ := Prod.mk.inj (Option.some.inj taken)
      exact ⟨allocated, rfl⟩
  | isTracing device =>
    obtain rfl : manager = after := congrArg Prod.snd (Option.some.inj taken)
    exact ⟨allocated, rfl⟩
  | getStore device =>
    obtain rfl : (manager.getStore device).2 = after := congrArg Prod.snd (Option.some.inj taken)
    exact ⟨PointerManager.allocated_getStore allocated device,
      PointerManager.toManager_getStore allocated device⟩

/-- A run of the manager with its pointers is a run of the one whose map holds the stores. -/
theorem Recorded.run_toManager {calls : List TracerCall} {s : Recorded}
    (reached : run Recorded.step Recorded.start calls = some s) :
    s.manager.toManager = calls.foldl UnsyncedSectorManager.apply .new := by
  have carried : s.manager.Allocated ∧
      s.manager.toManager = calls.foldl UnsyncedSectorManager.apply .new := by
    refine history (I := fun past s => s.manager.Allocated ∧
      s.manager.toManager = past.foldl UnsyncedSectorManager.apply .new) ?_ ?_ reached
    · rintro past before c after ⟨allocated, same⟩ taken
      obtain ⟨⟨outcome, next⟩, called, rfl⟩ := Option.map_eq_some_iff.mp taken
      obtain ⟨kept, moved⟩ := toManager_call allocated called
      refine ⟨kept, ?_⟩
      rw [List.foldl_append, ← same]
      exact moved
    · refine ⟨?_, rfl⟩
      intro device store present
      cases present
  exact carried.2

end LinuxAgent.UnsyncedSectors
