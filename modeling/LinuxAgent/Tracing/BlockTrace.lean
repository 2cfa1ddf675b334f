/- module: LinuxAgent/Tracing/BlockTrace
   source: tracing/device_tracer.{h,cc}, tracing/cpu_tracer.cc
   digest: The traces that tracers set up in the kernel, and devices that share a request queue. -/

import LinuxAgent.Lib.Ownership
import LinuxAgent.Lib.Run
import Mathlib.Data.Fintype.Basic

/-!
The kernel keeps one trace for each request queue, and the partitions of a disk share the
queue of the disk. `BLKTRACESETUP` fails if the queue has a trace, `BLKTRACESTART` if it has
none or a running one, `BLKTRACESTOP` if it has none that is running, and `BLKTRACETEARDOWN`
if it has none. The calls do not ask who set the trace up.

The constructor of a `DeviceTracer` calls `CleanupBlockTrace` after any exception, and so
also after a `BLKTRACESETUP` that was refused because the trace of another tracer is there.

There is one tracer for each device at a time. Any of the calls may also fail for a reason
of its own, so a refusal is possible in every state.
-/

set_option autoImplicit false
set_option relaxedAutoImplicit false

namespace LinuxAgent.Tracing.BlockTrace

open LinuxAgent.Lib.Ownership LinuxAgent.Lib.Run

/-- What the constructor of a `DeviceTracer` throws. -/
inductive TraceFailure where
  | openDevice
  | setup
  | start
  | stat
  | badPath (path : String)
  | openTracePath
  | other (what : String)
  deriving DecidableEq

/-- What `GetTracePath` and the constructor of the `CpuTracer` throw for a path. -/
def TraceFailure.ofCpuTracer (path : String) : TraceFailure → Bool
  | .stat | .openTracePath | .other _ => true
  | .badPath bad => bad == path
  | .openDevice | .setup | .start => false

def debugFsPath : String := "/sys/kernel/debug"

/-- The path of `GetTracePath`. -/
def getTracePath (traceName : String) (cpuNum : ℕ) : String :=
  debugFsPath ++ "/block/" ++ traceName ++ "/trace" ++ toString cpuNum

/-- Where a tracer stands. `CleanupBlockTrace` is called by the constructor with the exception
that it is going to rethrow, and by the destructor with none. -/
inductive TracerPc where
  | outside
  | opened
  | setUp
  | started (cpuTracers : ℕ)
  | constructed
  | cleaning (rethrown : Option TraceFailure)
  | stopped (rethrown : Option TraceFailure)
  | closing (rethrown : Option TraceFailure)
  | threw (failure : TraceFailure)
  | destroyed
  deriving DecidableEq

namespace TracerPc

/-- No object exists. -/
def idle : TracerPc → Bool
  | .outside | .threw _ | .destroyed => true
  | _ => false

/-- The tracer has set up a trace and its `BLKTRACETEARDOWN` is to come. -/
def holds : TracerPc → Bool
  | .setUp | .started _ | .constructed => true
  | .cleaning rethrown | .stopped rethrown => rethrown != some .setup
  | _ => false

/-- The tracer has started its trace and its `BLKTRACESTOP` is to come. -/
def tracing : TracerPc → Bool
  | .started _ | .constructed => true
  | .cleaning rethrown => rethrown != some .setup && rethrown != some .start
  | _ => false

/-- The tracer has an open descriptor. -/
def hasFd : TracerPc → Bool
  | .outside | .threw _ | .destroyed => false
  | _ => true

/-- Where an exception in `CleanupBlockTrace` is logged. The constructor then closes the
descriptor, and the destructor is left at once. -/
def afterThrow : Option TraceFailure → TracerPc
  | some failure => .closing (some failure)
  | none => .destroyed

/-- Where `close` leads. -/
def afterClose : Option TraceFailure → TracerPc
  | some failure => .threw failure
  | none => .destroyed

end TracerPc

/-- The tracer of a device on the given queue: `blockDevFds` counts the descriptors that are
open for the device, those that no object has any more included. -/
structure DeviceTracer (κ : Type*) where
  queue : κ
  traceName : String
  blockDevFds : ℕ
  pc : TracerPc

namespace DeviceTracer

variable {κ : Type*}

def new (queue : κ) : DeviceTracer κ := ⟨queue, "", 0, .outside⟩

def goto (tracer : DeviceTracer κ) (pc : TracerPc) : DeviceTracer κ := { tracer with pc := pc }

/-- The queue whose trace is the tracer's. -/
def traces (tracer : DeviceTracer κ) : Option κ :=
  if tracer.pc.holds then some tracer.queue else none

end DeviceTracer

/-- The tracers, and for each queue who set up its trace and whether it is running. -/
structure BlockTraces (ι κ : Type*) where
  tracers : ι → DeviceTracer κ
  owner : κ → Option ι
  running : κ → Bool

/-- The steps of a tracer, with what the calls return. `BLKTRACESETUP` returns the name of
the trace. -/
inductive TraceAction where
  | openDevice (ok : Bool)
  | blktraceSetup (name : Option String)
  | blktraceStart (ok : Bool)
  | newCpuTracer (failure : Option TraceFailure)
  | returns
  | destroy
  | blktraceStop (ok : Bool)
  | blktraceTeardown (ok : Bool)
  | close

namespace BlockTraces

variable {ι κ : Type*} [DecidableEq ι] [DecidableEq κ]

omit [DecidableEq ι] [DecidableEq κ] in
/-- No tracer has been made yet. -/
def new (queue : ι → κ) : BlockTraces ι κ :=
  ⟨fun i => .new (queue i), fun _ => none, fun _ => false⟩

def put (s : BlockTraces ι κ) (i : ι) (tracer : DeviceTracer κ) : BlockTraces ι κ :=
  { s with tracers := Function.update s.tracers i tracer }

/-- One step of a tracer, on a machine with `cpus` CPUs. -/
def step (cpus : ℕ) (s : BlockTraces ι κ) : ι × TraceAction → Option (BlockTraces ι κ)
  | (i, action) =>
    let tracer := s.tracers i
    let k := tracer.queue
    match action, tracer.pc with
    | .openDevice true, pc =>
        if pc.idle then
          some (s.put i { tracer with blockDevFds := tracer.blockDevFds + 1, pc := .opened })
        else none
    | .openDevice false, pc =>
        if pc.idle then some (s.put i (tracer.goto (.threw .openDevice))) else none
    | .blktraceSetup (some name), .opened =>
        if (s.owner k).isNone then
          some
            { s.put i { tracer with traceName := name, pc := .setUp } with
              owner := Function.update s.owner k (some i)
              running := Function.update s.running k false }
        else none
    | .blktraceSetup none, .opened => some (s.put i (tracer.goto (.cleaning (some .setup))))
    | .blktraceStart true, .setUp =>
        if (s.owner k).isSome && !s.running k then
          some
            { s.put i (tracer.goto (.started 0)) with
              running := Function.update s.running k true }
        else none
    | .blktraceStart false, .setUp => some (s.put i (tracer.goto (.cleaning (some .start))))
    | .newCpuTracer none, .started cpu =>
        if cpu < cpus then some (s.put i (tracer.goto (.started (cpu + 1)))) else none
    | .newCpuTracer (some failure), .started cpu =>
        if cpu < cpus && failure.ofCpuTracer (getTracePath tracer.traceName cpu) then
          some (s.put i (tracer.goto (.cleaning (some failure))))
        else none
    | .returns, .started cpu =>
        if cpu = cpus then some (s.put i (tracer.goto .constructed)) else none
    | .destroy, .constructed => some (s.put i (tracer.goto (.cleaning none)))
    | .blktraceStop true, .cleaning rethrown =>
        if (s.owner k).isSome && s.running k then
          some
            { s.put i (tracer.goto (.stopped rethrown)) with
              running := Function.update s.running k false }
        else none
    | .blktraceStop false, .cleaning rethrown => some (s.put i (tracer.goto (.afterThrow rethrown)))
    | .blktraceTeardown true, .stopped rethrown =>
        if (s.owner k).isSome then
          some
            { s.put i (tracer.goto (.closing rethrown)) with
              owner := Function.update s.owner k none }
        else none
    | .blktraceTeardown false, .stopped rethrown =>
        some (s.put i (tracer.goto (.afterThrow rethrown)))
    | .close, .closing rethrown =>
        some
          (s.put i
            { tracer with
              blockDevFds := tracer.blockDevFds - 1
              pc := .afterClose rethrown })
    | _, _ => none

end BlockTraces

section Steps

variable {ι κ : Type*} [DecidableEq ι] [DecidableEq κ]

/-- What a step does. The first group only moves the tracer on. -/
inductive BlockTraceStep (cpus : ℕ) (s : BlockTraces ι κ) (i : ι) :
    TraceAction → BlockTraces ι κ → Prop where
  | openFails (pc : (s.tracers i).pc.idle = true) :
      BlockTraceStep cpus s i (.openDevice false)
        (s.put i ((s.tracers i).goto (.threw .openDevice)))
  | setupRefused (pc : (s.tracers i).pc = .opened) :
      BlockTraceStep cpus s i (.blktraceSetup none)
        (s.put i ((s.tracers i).goto (.cleaning (some .setup))))
  | startRefused (pc : (s.tracers i).pc = .setUp) :
      BlockTraceStep cpus s i (.blktraceStart false)
        (s.put i ((s.tracers i).goto (.cleaning (some .start))))
  | newCpuTracer (cpu : ℕ) (pc : (s.tracers i).pc = .started cpu) (more : cpu < cpus) :
      BlockTraceStep cpus s i (.newCpuTracer none)
        (s.put i ((s.tracers i).goto (.started (cpu + 1))))
  | cpuTracerThrows (cpu : ℕ) (failure : TraceFailure) (pc : (s.tracers i).pc = .started cpu)
      (thrown : failure.ofCpuTracer (getTracePath (s.tracers i).traceName cpu) = true) :
      BlockTraceStep cpus s i (.newCpuTracer (some failure))
        (s.put i ((s.tracers i).goto (.cleaning (some failure))))
  | returns (pc : (s.tracers i).pc = .started cpus) :
      BlockTraceStep cpus s i .returns (s.put i ((s.tracers i).goto .constructed))
  | destroy (pc : (s.tracers i).pc = .constructed) :
      BlockTraceStep cpus s i .destroy (s.put i ((s.tracers i).goto (.cleaning none)))
  | stopRefused (rethrown : Option TraceFailure) (pc : (s.tracers i).pc = .cleaning rethrown) :
      BlockTraceStep cpus s i (.blktraceStop false)
        (s.put i ((s.tracers i).goto (.afterThrow rethrown)))
  | teardownRefused (rethrown : Option TraceFailure) (pc : (s.tracers i).pc = .stopped rethrown) :
      BlockTraceStep cpus s i (.blktraceTeardown false)
        (s.put i ((s.tracers i).goto (.afterThrow rethrown)))
  | opens (pc : (s.tracers i).pc.idle = true) :
      BlockTraceStep cpus s i (.openDevice true)
        (s.put i
          { s.tracers i with blockDevFds := (s.tracers i).blockDevFds + 1, pc := .opened })
  | setup (name : String) (pc : (s.tracers i).pc = .opened)
      (free : s.owner (s.tracers i).queue = none) :
      BlockTraceStep cpus s i (.blktraceSetup (some name))
        { s.put i { s.tracers i with traceName := name, pc := .setUp } with
          owner := Function.update s.owner (s.tracers i).queue (some i)
          running := Function.update s.running (s.tracers i).queue false }
  | start (pc : (s.tracers i).pc = .setUp) :
      BlockTraceStep cpus s i (.blktraceStart true)
        { s.put i ((s.tracers i).goto (.started 0)) with
          running := Function.update s.running (s.tracers i).queue true }
  | stop (rethrown : Option TraceFailure) (pc : (s.tracers i).pc = .cleaning rethrown)
      (set : s.owner (s.tracers i).queue ≠ none) (runs : s.running (s.tracers i).queue = true) :
      BlockTraceStep cpus s i (.blktraceStop true)
        { s.put i ((s.tracers i).goto (.stopped rethrown)) with
          running := Function.update s.running (s.tracers i).queue false }
  | teardown (rethrown : Option TraceFailure) (pc : (s.tracers i).pc = .stopped rethrown) :
      BlockTraceStep cpus s i (.blktraceTeardown true)
        { s.put i ((s.tracers i).goto (.closing rethrown)) with
          owner := Function.update s.owner (s.tracers i).queue none }
  | close (rethrown : Option TraceFailure) (pc : (s.tracers i).pc = .closing rethrown) :
      BlockTraceStep cpus s i .close
        (s.put i
          { s.tracers i with
            blockDevFds := (s.tracers i).blockDevFds - 1
            pc := .afterClose rethrown })

theorem traceStep_cases {cpus : ℕ} {s t : BlockTraces ι κ} {i : ι} {action : TraceAction}
    (taken : s.step cpus (i, action) = some t) : BlockTraceStep cpus s i action t := by
  simp only [BlockTraces.step] at taken
  split at taken
  all_goals
    simp only [Option.ite_none_right_eq_some, Option.some.injEq, Bool.and_eq_true,
      Option.isNone_iff_eq_none, ← Option.ne_none_iff_isSome, reduceCtorEq] at taken
  case h_1 =>
    obtain ⟨idle, rfl⟩ := taken
    exact .opens idle
  case h_2 =>
    obtain ⟨idle, rfl⟩ := taken
    exact .openFails idle
  case h_3 pc =>
    obtain ⟨free, rfl⟩ := taken
    exact .setup _ pc free
  case h_5 pc =>
    obtain ⟨_, rfl⟩ := taken
    exact .start pc
  case h_7 pc =>
    obtain ⟨more, rfl⟩ := taken
    exact .newCpuTracer _ pc more
  case h_8 pc =>
    obtain ⟨⟨_, thrown⟩, rfl⟩ := taken
    exact .cpuTracerThrows _ _ pc thrown
  case h_9 pc =>
    obtain ⟨rfl, rfl⟩ := taken
    exact .returns pc
  case h_11 pc =>
    obtain ⟨⟨set, runs⟩, rfl⟩ := taken
    exact .stop _ pc set runs
  case h_13 pc =>
    obtain ⟨_, rfl⟩ := taken
    exact .teardown _ pc
  all_goals
    obtain rfl := taken
    constructor
    assumption

/-- A tracer stays on its queue. -/
theorem queue_step {cpus : ℕ} {s t : BlockTraces ι κ} {i : ι} {action : TraceAction}
    (taken : BlockTraceStep cpus s i action t) (j : ι) :
    (t.tracers j).queue = (s.tracers j).queue := by
  by_cases own : j = i
  · subst own
    cases taken <;> simp [BlockTraces.put, DeviceTracer.goto]
  · cases taken <;> simp [BlockTraces.put, own]

end Steps

section Invariant

variable {ι κ : Type*}

/-- The tracers and the kernel agree: from its `BLKTRACESTART` to its `BLKTRACESTOP` a tracer
has a running trace of its own, each trace is one that its tracer is going to take down, and
no descriptor is open but that of a tracer. -/
structure BlockTraces.Kept (s : BlockTraces ι κ) : Prop where
  traced : ∀ i, (s.tracers i).pc.tracing = true →
    s.owner (s.tracers i).queue = some i ∧ s.running (s.tracers i).queue = true
  cared : ∀ k i, s.owner k = some i → (s.tracers i).queue = k ∧ (s.tracers i).pc.holds = true
  descriptors : ∀ i, (s.tracers i).blockDevFds = (s.tracers i).pc.hasFd.toNat

/-- A `BLKTRACESTOP` succeeds for the tracer that set the trace up and for no other, and
its `BLKTRACETEARDOWN` is not refused. -/
def StopsOwn (s : BlockTraces ι κ) : ι × TraceAction → Prop
  | (i, .blktraceStop true) => s.owner (s.tracers i).queue = some i
  | (i, .blktraceStop false) => s.owner (s.tracers i).queue ≠ some i
  | (_, .blktraceTeardown false) => False
  | _ => True

/-- A tracer that is set up finds its trace as it left it. -/
def DeviceTracer.Finds (tracer : DeviceTracer κ) (running : κ → Bool) : Prop :=
  tracer.pc.holds = true → running tracer.queue = tracer.pc.tracing

/-- A tracer that was refused has stopped nothing, and each has the descriptor it opened. -/
structure DeviceTracer.Proper (tracer : DeviceTracer κ) : Prop where
  modest : tracer.pc ≠ .stopped (some .setup)
  descriptor : tracer.blockDevFds = tracer.pc.hasFd.toNat

structure BlockTraces.Orderly (s : BlockTraces ι κ) : Prop where
  traces : Exact s.owner (Held DeviceTracer.traces s.tracers)
  finds : ∀ i, (s.tracers i).Finds s.running
  proper : ∀ i, (s.tracers i).Proper

theorem traces_eq_some {tracer : DeviceTracer κ} {k : κ} :
    tracer.traces = some k ↔ tracer.pc.holds = true ∧ tracer.queue = k := by
  unfold DeviceTracer.traces
  split_ifs with holds <;> simp [holds]

theorem holds_of_tracing {pc : TracerPc} (tracing : pc.tracing = true) : pc.holds = true := by
  cases pc <;> simp_all [TracerPc.tracing, TracerPc.holds]

theorem idle_without {pc : TracerPc} (idle : pc.idle = true) :
    pc.holds = false ∧ pc.hasFd = false := by
  cases pc <;> simp_all [TracerPc.idle, TracerPc.holds, TracerPc.hasFd]

/-- What is thrown for a CPU comes after the trace was set up and started. -/
theorem ofCpuTracer_ne {path : String} {failure : TraceFailure}
    (thrown : failure.ofCpuTracer path = true) : failure ≠ .setup ∧ failure ≠ .start := by
  cases failure <;> simp_all [TraceFailure.ofCpuTracer]

theorem orderly_new (queue : ι → κ) : (BlockTraces.new queue).Orderly := by
  refine ⟨fun i k => ?_, fun i holds => ?_, fun i => ⟨?_, rfl⟩⟩
  · simp [BlockTraces.new, DeviceTracer.new, Held, DeviceTracer.traces, TracerPc.holds]
  · cases holds
  · simp [BlockTraces.new, DeviceTracer.new]

namespace BlockTraces.Orderly

variable {s : BlockTraces ι κ} {i : ι}

/-- The trace of a queue is the tracer's exactly while the tracer holds it. -/
theorem owner_iff (inv : s.Orderly) :
    s.owner (s.tracers i).queue = some i ↔ (s.tracers i).pc.holds = true :=
  (inv.traces i _).trans (traces_eq_some.trans (and_iff_left rfl))

theorem kept (inv : s.Orderly) : s.Kept := by
  refine ⟨fun i tracing => ?_, fun k i owner => ?_, fun i => (inv.proper i).descriptor⟩
  · have holds := holds_of_tracing tracing
    exact ⟨inv.owner_iff.mpr holds, (inv.finds i holds).trans tracing⟩
  · obtain ⟨holds, queue⟩ := traces_eq_some.mp ((inv.traces i k).mp owner)
    exact ⟨queue, holds⟩

/-- Only its own trace has been stopped by a tracer. -/
theorem holds_of_stopped (inv : s.Orderly) {rethrown : Option TraceFailure}
    (pc : (s.tracers i).pc = .stopped rethrown) : (s.tracers i).pc.holds = true := by
  have own : rethrown ≠ some .setup := by simpa [pc] using (inv.proper i).modest
  simp [pc, own, TracerPc.holds]

end BlockTraces.Orderly

section Update

variable {s : BlockTraces ι κ} {i : ι} {tracer : DeviceTracer κ}

/-- Nobody else finds a change in the trace of a queue whose trace is not theirs. -/
private theorem finds_others [DecidableEq κ] (inv : s.Orderly) (flag : Bool)
    (alone : ∀ j, j ≠ i → s.owner (s.tracers i).queue ≠ some j) (j : ι) (other : j ≠ i) :
    (s.tracers j).Finds (Function.update s.running (s.tracers i).queue flag) := by
  intro holds
  have apart : (s.tracers j).queue ≠ (s.tracers i).queue := by
    intro same
    have owner := inv.owner_iff.mpr holds
    rw [same] at owner
    exact alone j other owner
  rw [Function.update_of_ne apart]
  exact inv.finds j holds

variable [DecidableEq ι]

private theorem finds_put {running : κ → Bool} (own : tracer.Finds running)
    (others : ∀ j, j ≠ i → (s.tracers j).Finds running) :
    ∀ j, ((s.put i tracer).tracers j).Finds running :=
  (Function.forall_update_iff s.tracers fun _ member => member.Finds running).mpr ⟨own, others⟩

private theorem proper_put (inv : s.Orderly) (own : tracer.Proper) :
    ∀ j, ((s.put i tracer).tracers j).Proper :=
  (Function.forall_update_iff s.tracers fun _ member => member.Proper).mpr
    ⟨own, fun j _ => inv.proper j⟩

/-- A step that leaves the traces alone. -/
private theorem orderly_put (inv : s.Orderly) (traces : tracer.traces = (s.tracers i).traces)
    (finds : tracer.Finds s.running) (proper : tracer.Proper) : (s.put i tracer).Orderly :=
  ⟨inv.traces.keep traces, finds_put finds fun j _ => inv.finds j, proper_put inv proper⟩

/-- A step of a tracer that holds no trace, before and after it. -/
private theorem orderly_without (inv : s.Orderly) (before : (s.tracers i).pc.holds = false)
    (after : tracer.pc.holds = false) (proper : tracer.Proper) : (s.put i tracer).Orderly := by
  refine orderly_put inv ?_ ?_ proper
  · simp [DeviceTracer.traces, before, after]
  · intro holds
    rw [after] at holds
    cases holds

/-- A step of a tracer that holds its trace, with no call in between. -/
private theorem orderly_with (inv : s.Orderly) (pc : TracerPc)
    (before : (s.tracers i).pc.holds = true) (after : pc.holds = true)
    (tracing : pc.tracing = (s.tracers i).pc.tracing) (proper : ((s.tracers i).goto pc).Proper) :
    (s.put i ((s.tracers i).goto pc)).Orderly := by
  refine orderly_put inv ?_ (fun _ => ?_) proper
  · simp [DeviceTracer.traces, DeviceTracer.goto, before, after]
  · exact (inv.finds i before).trans tracing.symm

/-- A step that starts or stops the trace of the tracer. -/
private theorem orderly_switch [DecidableEq κ] (inv : s.Orderly) (pc : TracerPc)
    (before : (s.tracers i).pc.holds = true) (after : pc.holds = true)
    (proper : ((s.tracers i).goto pc).Proper) :
    BlockTraces.Orderly
      { s.put i ((s.tracers i).goto pc) with
        running := Function.update s.running (s.tracers i).queue pc.tracing } := by
  have owner := inv.owner_iff.mpr before
  refine ⟨inv.traces.keep ?_, finds_put (fun _ => ?_) ?_,
    proper_put inv proper⟩
  · simp [DeviceTracer.traces, DeviceTracer.goto, before, after]
  · simp [DeviceTracer.goto]
  · refine finds_others inv _ fun j other also => other ?_
    exact Option.some.inj (also.symm.trans owner)

/-- A tracer whose cleanup throws leaves its trace behind. -/
private theorem not_kept_afterThrow (inv : s.Orderly)
    (holds : (s.tracers i).pc.holds = true) (rethrown : Option TraceFailure) :
    ¬ (s.put i ((s.tracers i).goto (.afterThrow rethrown))).Kept := by
  intro kept
  have still := (kept.cared _ i (inv.owner_iff.mpr holds)).2
  cases rethrown <;>
    simp [BlockTraces.put, DeviceTracer.goto, TracerPc.afterThrow, TracerPc.holds] at still

end Update

/-- A descriptor stays open from `open` to `close`. -/
private theorem proper_goto {tracer : DeviceTracer κ} (proper : tracer.Proper) {pc : TracerPc}
    (same : pc.hasFd = tracer.pc.hasFd) (modest : pc ≠ .stopped (some .setup)) :
    (tracer.goto pc).Proper :=
  ⟨modest, proper.descriptor.trans (by rw [← same]; rfl)⟩

variable [DecidableEq ι] [DecidableEq κ]

private theorem orderly_step {cpus : ℕ} {s t : BlockTraces ι κ} {i : ι} {action : TraceAction}
    (inv : s.Orderly) (stopsOwn : StopsOwn s (i, action))
    (taken : BlockTraceStep cpus s i action t) : t.Orderly := by
  have proper := inv.proper i
  cases taken with
  | openFails idle =>
      obtain ⟨without, closed⟩ := idle_without idle
      exact orderly_without inv without rfl (proper_goto proper closed.symm (by simp))
  | setupRefused pc =>
      refine orderly_without inv ?_ rfl (proper_goto proper ?_ ?_)
      all_goals simp [pc, TracerPc.holds, TracerPc.hasFd]
  | startRefused pc | newCpuTracer cpu pc | returns pc | destroy pc =>
      refine orderly_with inv _ ?_ ?_ ?_ (proper_goto proper ?_ ?_)
      all_goals simp [pc, TracerPc.holds, TracerPc.hasFd, TracerPc.tracing]
  | cpuTracerThrows cpu failure pc thrown =>
      have later := ofCpuTracer_ne thrown
      refine orderly_with inv _ ?_ ?_ ?_ (proper_goto proper ?_ ?_)
      all_goals simp [pc, later, TracerPc.holds, TracerPc.hasFd, TracerPc.tracing]
  | stopRefused rethrown pc =>
      have without : ¬ (s.tracers i).pc.holds = true := mt inv.owner_iff.mpr stopsOwn
      obtain rfl : rethrown = some .setup := by simpa [pc, TracerPc.holds] using without
      refine orderly_without inv (by simpa using without) rfl (proper_goto proper ?_ ?_)
      all_goals simp [pc, TracerPc.hasFd, TracerPc.afterThrow]
  | teardownRefused rethrown pc => exact stopsOwn.elim
  | opens idle =>
      obtain ⟨without, closed⟩ := idle_without idle
      refine orderly_without inv without rfl ⟨by simp, ?_⟩
      have unopened := proper.descriptor
      rw [closed] at unopened
      simp [unopened, TracerPc.hasFd]
  | setup name pc free =>
      have without : (s.tracers i).pc.holds = false := by rw [pc]; rfl
      refine ⟨inv.traces.take free ?_ ?_, finds_put ?_ ?_,
        proper_put inv ⟨by simp, ?_⟩⟩
      · simp [DeviceTracer.traces, without]
      · simp [DeviceTracer.traces, TracerPc.holds]
      · simp [DeviceTracer.Finds, TracerPc.tracing]
      · refine finds_others inv _ fun j _ also => ?_
        rw [free] at also
        cases also
      · simp [proper.descriptor, pc, TracerPc.hasFd]
  | start pc =>
      refine orderly_switch inv (.started 0) ?_ rfl (proper_goto proper ?_ ?_)
      all_goals simp [pc, TracerPc.holds, TracerPc.hasFd]
  | stop rethrown pc set runs =>
      have holds : (s.tracers i).pc.holds = true := inv.owner_iff.mp stopsOwn
      have own : rethrown ≠ some .setup := by simpa [pc, TracerPc.holds] using holds
      refine orderly_switch inv (.stopped rethrown) holds ?_ (proper_goto proper ?_ ?_)
      all_goals simp [pc, own, TracerPc.holds, TracerPc.hasFd]
  | teardown rethrown pc =>
      have own := traces_eq_some.mpr ⟨inv.holds_of_stopped pc, rfl⟩
      refine ⟨inv.traces.give own ?_, finds_put ?_ ?_,
        proper_put inv (proper_goto proper ?_ ?_)⟩
      · simp [DeviceTracer.traces, DeviceTracer.goto, TracerPc.holds]
      · simp [DeviceTracer.Finds, DeviceTracer.goto, TracerPc.holds]
      · exact fun j _ => inv.finds j
      · simp [pc, TracerPc.hasFd]
      · simp
  | close rethrown pc =>
      refine orderly_without inv ?_ ?_ ⟨?_, ?_⟩
      · simp [pc, TracerPc.holds]
      · cases rethrown <;> rfl
      · cases rethrown <;> simp [TracerPc.afterClose]
      · cases rethrown <;> simp [proper.descriptor, pc, TracerPc.hasFd, TracerPc.afterClose]

private theorem not_kept {cpus : ℕ} {s t : BlockTraces ι κ} {i : ι} {action : TraceAction}
    (inv : s.Orderly) (disturbed : ¬ StopsOwn s (i, action))
    (taken : BlockTraceStep cpus s i action t) : ¬ t.Kept := by
  cases taken with
  | stopRefused rethrown pc =>
      exact not_kept_afterThrow inv (inv.owner_iff.mp (not_not.mp disturbed)) rethrown
  | teardownRefused rethrown pc =>
      exact not_kept_afterThrow inv (inv.holds_of_stopped pc) rethrown
  | stop rethrown pc set runs =>
      -- the trace is that of another tracer, which had it running
      intro kept
      obtain ⟨j, owner⟩ := Option.ne_none_iff_exists'.mp set
      have other : j ≠ i := fun same => disturbed (same ▸ owner)
      obtain ⟨holds, shared⟩ := traces_eq_some.mp ((inv.traces j _).mp owner)
      have tracing := inv.finds j holds
      rw [shared, runs] at tracing
      have traced := (kept.traced j (by simp [BlockTraces.put, other, ← tracing])).2
      simp [BlockTraces.put, other, shared] at traced
  | _ => exact absurd trivial disturbed

/-- What keeps the kernel's traces and the tracers together, whatever devices are traced and
however the calls are answered: in every state of a run each started tracer has a running
trace of its own, no trace is left to nobody and no descriptor is lost, exactly if
`BLKTRACESTOP` succeeds for the tracers that set up the trace of their queue and for no
others, and no `BLKTRACETEARDOWN` is refused. -/
theorem traces_kept_iff (cpus : ℕ) (queue : ι → κ) (events : List (ι × TraceAction))
    (completes : (run (BlockTraces.step cpus) (.new queue) events).isSome) :
    (∀ before after t, events = before ++ after →
      run (BlockTraces.step cpus) (.new queue) before = some t → t.Kept) ↔
      Along (BlockTraces.step cpus) StopsOwn (.new queue) events :=
  good_iff_along (Q := fun _ => True) (fun _ inv => inv.kept)
    (fun _ _ _ inv _ stopsOwn taken => orderly_step inv stopsOwn (traceStep_cases taken))
    (fun _ _ _ inv _ disturbed taken => not_kept inv disturbed (traceStep_cases taken))
    (orderly_new queue) (fun _ _ => trivial) completes

instance (s : BlockTraces ι κ) : (e : ι × TraceAction) → Decidable (StopsOwn s e)
  | (i, .blktraceStop true) =>
      inferInstanceAs (Decidable (s.owner (s.tracers i).queue = some i))
  | (i, .blktraceStop false) =>
      inferInstanceAs (Decidable (s.owner (s.tracers i).queue ≠ some i))
  | (_, .blktraceTeardown false) => .isFalse id
  | (_, .blktraceTeardown true) | (_, .openDevice _) | (_, .blktraceSetup _)
  | (_, .blktraceStart _) | (_, .newCpuTracer _) | (_, .returns) | (_, .destroy) | (_, .close) =>
      .isTrue trivial

/-- What a constructor does that succeeds on a machine with one CPU. -/
def construct : List TraceAction :=
  [.openDevice true, .blktraceSetup (some "sda"), .blktraceStart true, .newCpuTracer none,
    .returns]

/-- A second device of the same disk: its tracer is refused and cleans up. -/
def sharedQueue : List (Bool × TraceAction) :=
  construct.map (false, ·) ++
    [.openDevice true, .blktraceSetup none, .blktraceStop true, .blktraceTeardown true,
      .close].map (true, ·)

/-- Here the first tracer has no trace any more, while the second has reported a failure. -/
theorem traces_kept_iff_sharedQueue :
    ((run (BlockTraces.step 1) (.new fun _ => ()) sharedQueue).any fun s =>
      (s.tracers false).pc == .constructed && (s.tracers true).pc == .threw .setup &&
        (s.owner ()).isNone) ∧
    ∃ before after t, sharedQueue = before ++ after ∧
      run (BlockTraces.step 1) (.new fun _ => ()) before = some t ∧ ¬ t.Kept := by
  refine ⟨by decide +kernel, ?_⟩
  have completes : (run (BlockTraces.step 1) (.new fun _ => ()) sharedQueue).isSome := by
    decide +kernel
  have disturbed : ¬ Along (BlockTraces.step 1) StopsOwn (.new fun _ => ()) sharedQueue := by
    decide +kernel
  by_contra kept
  push Not at kept
  exact disturbed ((traces_kept_iff 1 _ sharedQueue completes).mp kept)

end Invariant

section Queues

variable {ι κ : Type*}

/-- The calls on a trace that is there are refused only for the state it is in. -/
def Answered (s : BlockTraces ι κ) : ι × TraceAction → Prop
  | (i, .blktraceStart false) =>
      s.owner (s.tracers i).queue = none ∨ s.running (s.tracers i).queue = true
  | (i, .blktraceStop false) =>
      s.owner (s.tracers i).queue = none ∨ s.running (s.tracers i).queue = false
  | (i, .blktraceTeardown false) => s.owner (s.tracers i).queue = none
  | _ => True

/-- One device is traced, and the tracer of another one is refused. -/
def collide (i j : ι) : List (ι × TraceAction) :=
  [(i, .openDevice true), (i, .blktraceSetup (some "")), (i, .blktraceStart true),
    (j, .openDevice true), (j, .blktraceSetup none), (j, .blktraceStop true)]

private theorem answered_collide {i j : ι} {e : ι × TraceAction} (member : e ∈ collide i j)
    (s : BlockTraces ι κ) : Answered s e := by
  simp only [collide, List.mem_cons, List.not_mem_nil, or_false] at member
  rcases member with rfl | rfl | rfl | rfl | rfl | rfl <;> trivial

/-- The tracers are where they were put, and none failed to start its own trace. -/
structure BlockTraces.Alone (queue : ι → κ) (s : BlockTraces ι κ) : Prop extends s.Orderly where
  queues : ∀ i, (s.tracers i).queue = queue i
  started : ∀ i, (s.tracers i).pc ≠ .cleaning (some .start)

variable [DecidableEq ι] [DecidableEq κ] {cpus : ℕ} {queue : ι → κ} {s t : BlockTraces ι κ} {i : ι}
  {action : TraceAction}

/-- On queues of their own the tracers do not disturb each other. -/
private theorem undisturbed_of_alone (apart : Function.Injective queue) (inv : s.Alone queue)
    (answered : Answered s (i, action)) (taken : BlockTraceStep cpus s i action t) :
    StopsOwn s (i, action) := by
  cases taken with
  | stop rethrown pc set runs =>
      obtain ⟨j, owner⟩ := Option.ne_none_iff_exists'.mp set
      obtain ⟨-, shared⟩ := traces_eq_some.mp ((inv.traces j _).mp owner)
      rw [inv.queues, inv.queues] at shared
      exact apart shared ▸ owner
  | stopRefused rethrown pc =>
      intro owner
      have holds := inv.owner_iff.mp owner
      have tracing := inv.finds i holds
      have started := inv.started i
      rcases answered with unset | halted
      · rw [unset] at owner
        cases owner
      · simp_all [TracerPc.holds, TracerPc.tracing]
  | teardownRefused rethrown pc =>
      have owner := inv.owner_iff.mpr (inv.holds_of_stopped pc)
      exact absurd (owner.symm.trans answered) (by simp)
  | _ => trivial

private theorem alone_step (apart : Function.Injective queue) (inv : s.Alone queue)
    (answered : Answered s (i, action)) (taken : BlockTraceStep cpus s i action t) :
    t.Alone queue := by
  refine ⟨orderly_step inv.toOrderly (undisturbed_of_alone apart inv answered taken) taken,
    fun j => (queue_step taken j).trans (inv.queues j), fun j => ?_⟩
  by_cases own : j = i
  · subst own
    cases taken with
    | startRefused pc =>
        have holds : (s.tracers j).pc.holds = true := by rw [pc]; rfl
        have halted := inv.finds j holds
        rcases answered with unset | running
        · exact absurd (unset.symm.trans (inv.owner_iff.mpr holds)) (by simp)
        · rw [running, pc] at halted
          cases halted
    | cpuTracerThrows cpu failure pc thrown =>
        simp [BlockTraces.put, DeviceTracer.goto, (ofCpuTracer_ne thrown).2]
    | stopRefused rethrown pc | teardownRefused rethrown pc =>
        cases rethrown <;> simp [BlockTraces.put, DeviceTracer.goto, TracerPc.afterThrow]
    | close rethrown pc => cases rethrown <;> simp [BlockTraces.put, TracerPc.afterClose]
    | _ => simp [BlockTraces.put, DeviceTracer.goto]
  · have same : (t.tracers j).pc = (s.tracers j).pc := by
      cases taken <;> simp [BlockTraces.put, own]
    rw [same]
    exact inv.started j

private theorem collide_halts (cpus : ℕ) {j : ι} (other : i ≠ j) (shared : queue i = queue j) :
    ∃ t, run (BlockTraces.step cpus) (.new queue) (collide i j) = some t ∧
      (t.tracers i).pc = .started 0 ∧ t.running (t.tracers i).queue = false := by
  simp [collide, run, BlockTraces.step, BlockTraces.new, DeviceTracer.new, BlockTraces.put,
    DeviceTracer.goto, TracerPc.idle, other, other.symm, shared]

/-- The tracers and the kernel's traces stay together in every run, with calls that are
refused only for the state of the trace, exactly if no two of the devices share a request
queue. A device whose queue is another's, as with two partitions of a disk, stops the
other's trace when it is to be traced itself. -/
theorem traces_kept_iff_injective (cpus : ℕ) (queue : ι → κ) :
    (∀ events t, Along (BlockTraces.step cpus) Answered (.new queue) events →
      run (BlockTraces.step cpus) (.new queue) events = some t → t.Kept) ↔
      Function.Injective queue := by
  constructor
  · intro kept i j shared
    by_contra other
    obtain ⟨t, reached, pc, halted⟩ := collide_halts cpus other shared
    have along : Along (BlockTraces.step cpus) Answered (.new queue) (collide i j) :=
      along_iff.mpr fun before e after t split _ =>
        answered_collide (i := i) (j := j) (by simp [split]) t
    have traced := ((kept (collide i j) t along reached).traced i (by rw [pc]; rfl)).2
    rw [halted] at traced
    cases traced
  · intro apart events t along reached
    have start : (BlockTraces.new queue).Alone queue :=
      ⟨orderly_new queue, fun _ => rfl, fun _ => by simp [BlockTraces.new, DeviceTracer.new]⟩
    have inv := invariant_along (I := BlockTraces.Alone queue)
      (fun _ _ _ inv answered taken => alone_step apart inv answered (traceStep_cases taken))
      start along reached
    exact inv.kept

end Queues

end LinuxAgent.Tracing.BlockTrace
