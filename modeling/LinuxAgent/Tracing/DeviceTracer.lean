/- module: LinuxAgent/Tracing/DeviceTracer
   source: tracing/device_tracer.{h,cc}, unsynced_sector_manager/unsynced_sector_manager.{h,cc}
   digest: The trace threads behind the tracer map, and when a traced device has lost one. -/

import LinuxAgent.Tracing.CpuTracer
import LinuxAgent.UnsyncedSectors.Manager

/-!
A `DeviceTracer` has one `CpuTracer` for each CPU. `StartTracer` puts it into the map
after all its threads have been started, and `StopTracer` takes it out before it stops
them. `IsTracing` looks at the pointer in the map and at no thread.

The calls of `StartTracer` and `StopTracer` follow each other, and the threads run
beside them. Any exception in the constructor of the `DeviceTracer` is one event.
-/

set_option autoImplicit false
set_option relaxedAutoImplicit false

namespace LinuxAgent.Tracing

open LinuxAgent.Lib.Run LinuxAgent.UnsyncedSectors

/-- The call that is in progress, with the threads of its `DeviceTracer`. -/
inductive DeviceTracerCall where
  | idle
  | creating (device : DevT) (cpuTracers : List CpuTracer)
  | destroying (device : DevT) (cpuTracers : List CpuTracer)

/-- The manager with the threads of the tracers in its map. -/
structure TracedDevices where
  manager : UnsyncedSectorManager
  cpuTracers : DevT → List CpuTracer
  call : DeviceTracerCall

/-- A thread of a tracer in the map, or one that the call in progress holds. -/
inductive ThreadId where
  | registered (device : DevT) (cpu : ℕ)
  | pending (cpu : ℕ)
  deriving DecidableEq

inductive TracerEvent where
  | startTracer (device : DevT)
  | newCpuTracer
  | throw (what : String)
  | register
  | stopTracer (device : DevT)
  | stopTrace (cpu : ℕ)
  | join
  | flushBuffer (device : DevT) (cpu : ℕ)
  | thread (id : ThreadId) (e : TraceEvent) (now : TimeT)

/-- What a step of a trace thread does to the store of its device: `AddTrace` puts the
record there, or throws before that, which may happen with any record. If the check in
`AddInterval` fails there is no step, as the process is aborted. -/
def handle (manager : UnsyncedSectorManager) (device : DevT) (tracer : CpuTracer) (e : TraceEvent)
    (now : TimeT) : Option UnsyncedSectorManager :=
  match e, tracer.pc with
  | .addTrace true, .adding r =>
      (addTrace (manager.storeOf device) r.trace now).map fun store =>
        manager.changeStore device fun _ => store
  | _, _ => some manager

namespace TracedDevices

def new : TracedDevices := ⟨.new, fun _ => [], .idle⟩

/-- The device of a thread, and the threads it is one of. -/
def threads (s : TracedDevices) : ThreadId → Option (DevT × List CpuTracer × ℕ)
  | .registered device cpu => some (device, s.cpuTracers device, cpu)
  | .pending cpu =>
      match s.call with
      | .idle => none
      | .creating device cpuTracers => some (device, cpuTracers, cpu)
      | .destroying device cpuTracers => some (device, cpuTracers, cpu)

/-- The threads after one of them changed. -/
def putThreads (s : TracedDevices) (cpuTracers : List CpuTracer) : ThreadId → TracedDevices
  | .registered device _ =>
      { s with cpuTracers := Function.update s.cpuTracers device cpuTracers }
  | .pending _ =>
      match s.call with
      | .idle => s
      | .creating device _ => { s with call := .creating device cpuTracers }
      | .destroying device _ => { s with call := .destroying device cpuTracers }

/-- One step of the manager's caller or of a trace thread, on a machine with `cpus` CPUs. -/
def step (cpus : ℕ) (s : TracedDevices) : TracerEvent → Option TracedDevices
  | .startTracer device =>
      match s.call with
      | .idle =>
          if s.manager.isTracing device then some s
          else some { s with
            manager := s.manager.openTracer device
            call := .creating device [] }
      | _ => none
  | .newCpuTracer =>
      match s.call with
      | .creating device cpuTracers =>
          if cpuTracers.length < cpus then
            some { s with call := .creating device (cpuTracers ++ [.new]) }
          else none
      | _ => none
  | .throw _ =>
      match s.call with
      | .creating device cpuTracers => some { s with call := .destroying device cpuTracers }
      | _ => none
  | .register =>
      match s.call with
      | .creating device cpuTracers =>
          if cpuTracers.length = cpus then
            some
              { manager := s.manager.putTracer device
                cpuTracers := Function.update s.cpuTracers device cpuTracers
                call := .idle }
          else none
      | _ => none
  | .stopTracer device =>
      match s.call with
      | .idle => some
          { manager := s.manager.stopTracer device
            cpuTracers := Function.update s.cpuTracers device []
            call := .destroying device (s.cpuTracers device) }
      | _ => none
  | .stopTrace cpu =>
      match s.call with
      | .destroying device cpuTracers =>
          let stopped := cpuTracers.modify cpu fun tracer => { tracer with stopTrace := true }
          some { s with call := .destroying device stopped }
      | _ => none
  | .join =>
      match s.call with
      | .destroying _ cpuTracers =>
          if ∀ tracer ∈ cpuTracers, tracer.pc = .exited then some { s with call := .idle } else none
      | _ => none
  | .flushBuffer device cpu =>
      let requested := (s.cpuTracers device).modify cpu fun tracer =>
        { tracer with flushBuffers := true }
      some { s with cpuTracers := Function.update s.cpuTracers device requested }
  | .thread id e now =>
      (s.threads id).bind fun (device, cpuTracers, cpu) =>
        (cpuTracers[cpu]?).bind fun tracer =>
          (tracer.step e).bind fun next =>
            (handle s.manager device tracer e now).map fun manager =>
              { s with manager := manager }.putThreads (cpuTracers.set cpu next) id

/-- Every thread of a device that counts as traced is in its loop. -/
def Alive (s : TracedDevices) : Prop :=
  ∀ device, s.manager.isTracing device = true → ∀ (cpu : ℕ) (tracer : CpuTracer),
    (s.cpuTracers device)[cpu]? = some tracer → tracer.pc ≠ .exited

/-- No thread of a registered tracer meets a condition that ends its loop, and no tracer
is registered after a thread of it has met one. -/
def KeepsTracing (s : TracedDevices) : TracerEvent → Prop
  | .thread (.registered device cpu) e _ =>
      ∀ tracer, (s.cpuTracers device)[cpu]? = some tracer → tracer.leaves e = false
  | .register =>
      match s.call with
      | .creating _ cpuTracers =>
          ∀ (cpu : ℕ) (tracer : CpuTracer), cpuTracers[cpu]? = some tracer → tracer.pc ≠ .exited
      | _ => True
  | _ => True

instance (s : TracedDevices) (e : TracerEvent) : Decidable (s.KeepsTracing e) := by
  unfold KeepsTracing
  split
  next device cpu e _ =>
    exact decidable_of_iff (((s.cpuTracers device)[cpu]?).all fun tracer => !tracer.leaves e)
      (by cases (s.cpuTracers device)[cpu]? <;> simp)
  next =>
    split
    next cpuTracers _ =>
      exact decidable_of_iff (∀ tracer ∈ cpuTracers, tracer.pc ≠ .exited)
        (by simp only [List.mem_iff_getElem?]; tauto)
    next => exact inferInstanceAs (Decidable True)
  next => exact inferInstanceAs (Decidable True)

/-- A device without a tracer in the map has no threads there. -/
structure Sound (s : TracedDevices) : Prop where
  alive : s.Alive
  unregistered : ∀ device, s.manager.isTracing device = false → s.cpuTracers device = []

end TracedDevices

private theorem isTracing_handle {manager next : UnsyncedSectorManager} {device : DevT}
    {tracer : CpuTracer} {e : TraceEvent} {now : TimeT}
    (handled : handle manager device tracer e now = some next) (other : DevT) :
    next.isTracing other = manager.isTracing other := by
  unfold handle at handled
  split at handled
  · obtain ⟨store, _, rfl⟩ := Option.map_eq_some_iff.mp handled
    exact manager.isTracing_changeStore device other _
  · obtain rfl := Option.some.inj handled
    rfl

/-- What a step does to the entries of the map and to the threads behind them. -/
inductive TracerStep (s t : TracedDevices) : TracerEvent → Prop where
  | quiet (e : TracerEvent) (keeps : s.KeepsTracing e)
      (entries : ∀ other, t.manager.isTracing other = s.manager.isTracing other)
      (threads : t.cpuTracers = s.cpuTracers) : TracerStep s t e
  | registers (device : DevT) (cpuTracers : List CpuTracer)
      (call : s.call = .creating device cpuTracers)
      (entries : ∀ other, t.manager.isTracing other =
        if other = device then true else s.manager.isTracing other)
      (threads : t.cpuTracers = Function.update s.cpuTracers device cpuTracers) :
      TracerStep s t .register
  | stops (device : DevT)
      (entries : ∀ other, t.manager.isTracing other =
        if other = device then false else s.manager.isTracing other)
      (threads : t.cpuTracers = Function.update s.cpuTracers device []) :
      TracerStep s t (.stopTracer device)
  | requests (device : DevT) (cpu : ℕ)
      (entries : ∀ other, t.manager.isTracing other = s.manager.isTracing other)
      (threads : t.cpuTracers = Function.update s.cpuTracers device
        ((s.cpuTracers device).modify cpu fun tracer => { tracer with flushBuffers := true })) :
      TracerStep s t (.flushBuffer device cpu)
  | moves (device : DevT) (cpu : ℕ) (e : TraceEvent) (now : TimeT) (tracer next : CpuTracer)
      (here : (s.cpuTracers device)[cpu]? = some tracer) (moved : tracer.step e = some next)
      (entries : ∀ other, t.manager.isTracing other = s.manager.isTracing other)
      (threads : t.cpuTracers =
        Function.update s.cpuTracers device ((s.cpuTracers device).set cpu next)) :
      TracerStep s t (.thread (.registered device cpu) e now)

private theorem thread_taken_cases {cpus : ℕ} {s t : TracedDevices} {id : ThreadId}
    {e : TraceEvent} {now : TimeT} (taken : s.step cpus (.thread id e now) = some t) :
    TracerStep s t (.thread id e now) := by
  cases id with
  | registered device cpu =>
      obtain ⟨tracer, here, rest⟩ := Option.bind_eq_some_iff.mp taken
      obtain ⟨next, moved, rest⟩ := Option.bind_eq_some_iff.mp rest
      obtain ⟨manager, handled, rfl⟩ := Option.map_eq_some_iff.mp rest
      exact .moves device cpu e now tracer next here moved (isTracing_handle handled) rfl
  | pending cpu =>
      obtain ⟨⟨_, _, _⟩, found, rest⟩ := Option.bind_eq_some_iff.mp taken
      obtain ⟨tracer, here, rest⟩ := Option.bind_eq_some_iff.mp rest
      obtain ⟨next, moved, rest⟩ := Option.bind_eq_some_iff.mp rest
      obtain ⟨manager, handled, rfl⟩ := Option.map_eq_some_iff.mp rest
      unfold TracedDevices.putThreads
      cases s.call with
      | idle | creating | destroying => exact .quiet _ trivial (isTracing_handle handled) rfl

theorem tracerStep_cases {cpus : ℕ} {s t : TracedDevices} {e : TracerEvent}
    (taken : s.step cpus e = some t) : TracerStep s t e := by
  cases e with
  | thread id e now => exact thread_taken_cases taken
  | flushBuffer device cpu =>
      obtain rfl := Option.some.inj taken
      exact .requests device cpu (fun _ => rfl) rfl
  | startTracer device =>
      simp only [TracedDevices.step] at taken
      split at taken
      case h_2 => cases taken
      split_ifs at taken with tracing <;> obtain rfl := Option.some.inj taken
      · exact .quiet _ trivial (fun _ => rfl) rfl
      · refine .quiet _ trivial (fun other => ?_) rfl
        rw [UnsyncedSectorManager.isTracing_openTracer]
        split_ifs with same
        · rw [same, Bool.eq_false_iff.mpr tracing]
        · rfl
  | register =>
      simp only [TracedDevices.step] at taken
      split at taken
      case h_2 => cases taken
      next device cpuTracers call =>
        split_ifs at taken
        obtain rfl := Option.some.inj taken
        exact .registers device cpuTracers call (s.manager.isTracing_putTracer device) rfl
  | stopTracer device =>
      simp only [TracedDevices.step] at taken
      split at taken
      case h_2 => cases taken
      obtain rfl := Option.some.inj taken
      exact .stops device (s.manager.isTracing_stopTracer device) rfl
  | newCpuTracer | join =>
      simp only [TracedDevices.step] at taken
      split at taken
      case h_2 => cases taken
      split_ifs at taken
      obtain rfl := Option.some.inj taken
      exact .quiet _ trivial (fun _ => rfl) rfl
  | throw | stopTrace =>
      simp only [TracedDevices.step] at taken
      split at taken
      case h_2 => cases taken
      obtain rfl := Option.some.inj taken
      exact .quiet _ trivial (fun _ => rfl) rfl

/-- The entry and the threads of one device change. -/
private theorem sound_of_update {s t : TracedDevices} {device : DevT} {entry : Bool}
    {cpuTracers : List CpuTracer} (inv : s.Sound)
    (entries : ∀ other, t.manager.isTracing other =
      if other = device then entry else s.manager.isTracing other)
    (threads : t.cpuTracers = Function.update s.cpuTracers device cpuTracers)
    (alive : entry = true → ∀ (cpu : ℕ) (tracer : CpuTracer),
      cpuTracers[cpu]? = some tracer → tracer.pc ≠ .exited)
    (unregistered : entry = false → cpuTracers = []) : t.Sound := by
  refine ⟨fun other tracing => ?_, fun other idle => ?_⟩
  · rw [entries] at tracing
    by_cases same : other = device
    · subst same
      rw [if_pos rfl] at tracing
      rw [threads, Function.update_self]
      exact alive tracing
    · rw [if_neg same] at tracing
      rw [threads, Function.update_of_ne same]
      exact inv.alive other tracing
  · rw [entries] at idle
    by_cases same : other = device
    · subst same
      rw [if_pos rfl] at idle
      rw [threads, Function.update_self]
      exact unregistered idle
    · rw [if_neg same] at idle
      rw [threads, Function.update_of_ne same]
      exact inv.unregistered other idle

/-- A device with threads behind its entry counts as traced. -/
private theorem traced_of_thread {s : TracedDevices} {device : DevT} {cpu : ℕ} {tracer : CpuTracer}
    (inv : s.Sound) (here : (s.cpuTracers device)[cpu]? = some tracer) :
    s.manager.isTracing device = true := by
  by_contra idle
  rw [inv.unregistered device (Bool.eq_false_iff.mpr idle)] at here
  cases here

private theorem entries_same {s t : TracedDevices} (device : DevT)
    (entries : ∀ other, t.manager.isTracing other = s.manager.isTracing other) (other : DevT) :
    t.manager.isTracing other =
      if other = device then s.manager.isTracing device else s.manager.isTracing other := by
  rw [entries]
  split_ifs with same
  · rw [same]
  · rfl

private theorem sound_step {cpus : ℕ} {s t : TracedDevices} {e : TracerEvent} (inv : s.Sound)
    (keeps : s.KeepsTracing e) (taken : s.step cpus e = some t) : t.Sound := by
  cases tracerStep_cases taken with
  | quiet e _ entries threads =>
      refine ⟨fun device tracing => ?_, fun device idle => ?_⟩
      · rw [threads]
        exact inv.alive device ((entries device).symm.trans tracing)
      · rw [threads]
        exact inv.unregistered device ((entries device).symm.trans idle)
  | registers device cpuTracers call entries threads =>
      simp only [TracedDevices.KeepsTracing, call] at keeps
      exact sound_of_update inv entries threads (fun _ => keeps) nofun
  | stops device entries threads =>
      exact sound_of_update inv entries threads nofun (fun _ => rfl)
  | requests device cpu entries threads =>
      refine sound_of_update inv (entries_same device entries) threads ?_ ?_
      · intro traced other tracer found
        rw [List.getElem?_modify] at found
        obtain ⟨before, here, rfl⟩ := Option.map_eq_some_iff.mp found
        have still := inv.alive device traced other before here
        split_ifs
        · exact still
        · exact still
      · intro idle
        rw [inv.unregistered device idle, List.modify_nil]
  | moves device cpu e now tracer next here moved entries threads =>
      have traced := traced_of_thread inv here
      refine sound_of_update inv (entries_same device entries) threads ?_ ?_
      · intro _ other found there
        rw [List.getElem?_set] at there
        split_ifs at there
        · obtain rfl := Option.some.inj there
          intro exited
          have leaves := (CpuTracer.exits_iff moved).mp exited
          rw [keeps _ here] at leaves
          cases leaves
        · exact inv.alive device traced other found there
      · intro idle
        rw [traced] at idle
        cases idle

/-- A step that the condition excludes leaves a device traced by a thread that has ended. -/
private theorem dead_step {cpus : ℕ} {s t : TracedDevices} {e : TracerEvent} (inv : s.Sound)
    (breaks : ¬ s.KeepsTracing e) (taken : s.step cpus e = some t) : ¬ t.Alive := by
  intro alive
  cases tracerStep_cases taken with
  | quiet e keeps entries threads => exact breaks keeps
  | stops | requests => exact breaks trivial
  | registers device cpuTracers call entries threads =>
      apply breaks
      simp only [TracedDevices.KeepsTracing, call]
      have entry : t.manager.isTracing device = true := by rw [entries, if_pos rfl]
      have all := alive device entry
      rwa [threads, Function.update_self] at all
  | moves device cpu e now tracer next here moved entries threads =>
      apply breaks
      intro other same
      obtain rfl := Option.some.inj (here.symm.trans same)
      have entry : t.manager.isTracing device = true :=
        (entries device).trans (traced_of_thread inv here)
      have within : cpu < (s.cpuTracers device).length := (List.getElem?_eq_some_iff.mp here).1
      have there : (t.cpuTracers device)[cpu]? = some next := by
        rw [threads, Function.update_self, List.getElem?_set_self within]
      have running := alive device entry cpu next there
      exact Bool.eq_false_iff.mpr fun leaves =>
        running ((CpuTracer.exits_iff moved).mpr leaves)

/-- Tracing is never silently dead in exactly those runs in which no thread of a
registered tracer meets a condition that ends its loop, and none has met one before the
tracer is registered. -/
theorem tracing_alive_iff (cpus : ℕ) (events : List TracerEvent)
    (completes : (run (TracedDevices.step cpus) .new events).isSome) :
    (∀ before after s, events = before ++ after →
      run (TracedDevices.step cpus) .new before = some s → s.Alive) ↔
      Along (TracedDevices.step cpus) TracedDevices.KeepsTracing .new events := by
  have start : TracedDevices.new.Sound := ⟨nofun, fun _ _ => rfl⟩
  exact good_iff_along (Q := fun _ => True) (fun _ inv => inv.alive)
    (fun _ _ _ inv _ keeps taken => sound_step inv keeps taken)
    (fun _ _ _ inv _ breaks taken => dead_step inv breaks taken)
    start (fun _ _ => trivial) completes

/-- Tracing starts on a machine with one CPU, and `poll` fails. -/
def failedPoll : List TracerEvent :=
  [.startTracer 8, .newCpuTracer, .register, .thread (.registered 8 0) .testStop 0,
    .thread (.registered 8 0) (.poll (-1)) 0]

/-- The device still counts as traced, and its only thread has left the loop. -/
theorem failedPoll_dead :
    ∃ s, run (TracedDevices.step 1) .new failedPoll = some s ∧
      s.manager.isTracing 8 = true ∧ (s.cpuTracers 8)[0]? = some ⟨false, false, .exited⟩ :=
  ⟨_, rfl, rfl, rfl⟩

/-- A thread that finds nothing to read and goes on. -/
def idleTracing : List TracerEvent :=
  [.startTracer 8, .newCpuTracer, .register, .thread (.registered 8 0) .testStop 0,
    .thread (.registered 8 0) (.poll 0) 0, .thread (.registered 8 0) .testFlush 0]

theorem tracing_alive_iff_idleTracing :
    (run (TracedDevices.step 1) .new idleTracing).isSome ∧
      ∀ before after s, idleTracing = before ++ after →
        run (TracedDevices.step 1) .new before = some s → s.Alive :=
  ⟨rfl, (tracing_alive_iff 1 idleTracing rfl).mpr (by decide)⟩

end LinuxAgent.Tracing
