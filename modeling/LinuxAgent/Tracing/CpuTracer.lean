/- module: LinuxAgent/Tracing/CpuTracer
   source: tracing/cpu_tracer.{h,cc}
   digest: The DoTrace loop with all its exits, and what FlushBuffer guarantees when it returns. -/

import LinuxAgent.Lib.Run
import LinuxAgent.Tracing.TraceHandler
import Mathlib.Data.List.Infix

/-!
`DoTrace` is the body of a thread that reads one CPU's trace file. What `poll`, `read`
and `AddTrace` return is part of the events, so the loop is modelled for every stream
of bytes: a record is whatever the buffer `trace` holds after a `read` that returned
some bytes.

`FlushBuffer` sets `flush_buffers_` and spins until the loop clears it. The loop clears
it some steps after the `read` that found the buffer empty.
-/

set_option autoImplicit false
set_option relaxedAutoImplicit false

namespace LinuxAgent.Tracing

open LinuxAgent.Lib.Run

/-- The fields of `struct blk_io_trace` that `DoTrace` and the trace handler read. -/
structure TraceRecord where
  magic : UInt32
  trace : BlkIoTrace
  pduLen : UInt16
  deriving DecidableEq

/-- `BLK_IO_TRACE_MAGIC | BLK_IO_TRACE_VERSION` of linux/blktrace_api.h. -/
def blkIoTraceMagic : UInt32 := 0x65617400 ||| 0x07

inductive ReadResult where
  | failed
  | empty
  | record (r : TraceRecord)
  deriving DecidableEq

/-- Where `DoTrace` stands in its loop; `exited` is behind the loop. -/
inductive TracePc where
  | testing
  | polling
  | testingFlush
  | reading
  | clearing
  | checking (r : TraceRecord)
  | adding (r : TraceRecord)
  | skipping (amount : ℕ)
  | exited
  deriving DecidableEq

structure CpuTracer where
  stopTrace : Bool
  flushBuffers : Bool
  pc : TracePc
  deriving DecidableEq

/-- The steps of `DoTrace`. `skip` is a `read` in `SkipNonseekableFD`, with the number
of bytes or `none` for -1. -/
inductive TraceEvent where
  | testStop
  | poll (result : ℤ)
  | testFlush
  | read (result : ReadResult)
  | clearFlush
  | checkMagic
  | addTrace (added : Bool)
  | skip (bytes : Option ℕ)
  deriving DecidableEq

/-- Where the loop goes on after a record was added. -/
def TraceRecord.next (r : TraceRecord) : TracePc :=
  if r.pduLen ≠ 0 then .skipping r.pduLen.toNat else .testing

namespace CpuTracer

/-- The constructor starts the thread. -/
def new : CpuTracer := ⟨false, false, .testing⟩

def goto (tracer : CpuTracer) (pc : TracePc) : CpuTracer := { tracer with pc := pc }

def step (tracer : CpuTracer) (e : TraceEvent) : Option CpuTracer :=
  match e, tracer.pc with
  | .testStop, .testing => some (tracer.goto (if tracer.stopTrace then .exited else .polling))
  | .poll result, .polling => some (tracer.goto
      (if result < 0 then .exited else if result = 0 then .testingFlush else .reading))
  | .testFlush, .testingFlush =>
      some (tracer.goto (if tracer.flushBuffers then .reading else .testing))
  | .read .failed, .reading => some (tracer.goto .exited)
  | .read .empty, .reading => some (tracer.goto .clearing)
  | .read (.record r), .reading => some (tracer.goto (.checking r))
  | .clearFlush, .clearing => some { tracer with flushBuffers := false, pc := .testing }
  | .checkMagic, .checking r =>
      some (tracer.goto (if r.magic = blkIoTraceMagic then .adding r else .exited))
  | .addTrace added, .adding r => some (tracer.goto (if added then r.next else .exited))
  | .skip none, .skipping _ => some (tracer.goto .exited)
  | .skip (some bytes), .skipping amount =>
      if bytes ≤ min amount 512 then
        some (tracer.goto (if bytes < amount then .skipping (amount - bytes) else .testing))
      else none
  | _, _ => none

/-- The conditions on which the loop ends. -/
def leaves (tracer : CpuTracer) (e : TraceEvent) : Bool :=
  match e, tracer.pc with
  | .testStop, _ => tracer.stopTrace
  | .poll result, _ => decide (result < 0)
  | .read result, _ => decide (result = .failed)
  | .checkMagic, .checking r => decide (r.magic ≠ blkIoTraceMagic)
  | .addTrace added, _ => !added
  | .skip bytes, _ => bytes.isNone
  | _, _ => false

end CpuTracer

/-- What a step of the loop does. -/
inductive CpuTraceStep (tracer : CpuTracer) : TraceEvent → CpuTracer → Prop where
  | stopped (pc : tracer.pc = .testing) (stop : tracer.stopTrace = true) :
      CpuTraceStep tracer .testStop (tracer.goto .exited)
  | notStopped (pc : tracer.pc = .testing) (stop : tracer.stopTrace = false) :
      CpuTraceStep tracer .testStop (tracer.goto .polling)
  | pollFailed (result : ℤ) (pc : tracer.pc = .polling) (failed : result < 0) :
      CpuTraceStep tracer (.poll result) (tracer.goto .exited)
  | timedOut (pc : tracer.pc = .polling) :
      CpuTraceStep tracer (.poll 0) (tracer.goto .testingFlush)
  | readable (result : ℤ) (pc : tracer.pc = .polling) (ready : 0 < result) :
      CpuTraceStep tracer (.poll result) (tracer.goto .reading)
  | forced (pc : tracer.pc = .testingFlush) (flush : tracer.flushBuffers = true) :
      CpuTraceStep tracer .testFlush (tracer.goto .reading)
  | notForced (pc : tracer.pc = .testingFlush) (flush : tracer.flushBuffers = false) :
      CpuTraceStep tracer .testFlush (tracer.goto .testing)
  | readFailed (pc : tracer.pc = .reading) :
      CpuTraceStep tracer (.read .failed) (tracer.goto .exited)
  | foundEmpty (pc : tracer.pc = .reading) :
      CpuTraceStep tracer (.read .empty) (tracer.goto .clearing)
  | took (r : TraceRecord) (pc : tracer.pc = .reading) :
      CpuTraceStep tracer (.read (.record r)) (tracer.goto (.checking r))
  | clearFlush (pc : tracer.pc = .clearing) :
      CpuTraceStep tracer .clearFlush { tracer with flushBuffers := false, pc := .testing }
  | goodMagic (r : TraceRecord) (pc : tracer.pc = .checking r)
      (good : r.magic = blkIoTraceMagic) :
      CpuTraceStep tracer .checkMagic (tracer.goto (.adding r))
  | badMagic (r : TraceRecord) (pc : tracer.pc = .checking r) (bad : r.magic ≠ blkIoTraceMagic) :
      CpuTraceStep tracer .checkMagic (tracer.goto .exited)
  | added (r : TraceRecord) (pc : tracer.pc = .adding r) :
      CpuTraceStep tracer (.addTrace true) (tracer.goto r.next)
  | refused (r : TraceRecord) (pc : tracer.pc = .adding r) :
      CpuTraceStep tracer (.addTrace false) (tracer.goto .exited)
  | skipFailed (amount : ℕ) (pc : tracer.pc = .skipping amount) :
      CpuTraceStep tracer (.skip none) (tracer.goto .exited)
  | skippedSome (amount bytes : ℕ) (pc : tracer.pc = .skipping amount) (more : bytes < amount) :
      CpuTraceStep tracer (.skip (some bytes)) (tracer.goto (.skipping (amount - bytes)))
  | skippedAll (amount bytes : ℕ) (pc : tracer.pc = .skipping amount) (all : bytes = amount) :
      CpuTraceStep tracer (.skip (some bytes)) (tracer.goto .testing)

theorem traceStep_cases {tracer next : CpuTracer} {e : TraceEvent}
    (taken : tracer.step e = some next) : CpuTraceStep tracer e next := by
  unfold CpuTracer.step at taken
  split at taken
  case h_11 bytes amount pc =>
    split_ifs at taken with short more <;> obtain rfl := Option.some.inj taken
    · exact .skippedSome amount bytes pc more
    · exact .skippedAll amount bytes pc (by omega)
  case h_12 => cases taken
  all_goals obtain rfl := Option.some.inj taken
  case h_1 pc =>
    split_ifs with stop
    · exact .stopped pc stop
    · exact .notStopped pc (by simpa using stop)
  case h_2 result pc =>
    split_ifs with failed timeout
    · exact .pollFailed result pc failed
    · exact timeout ▸ .timedOut pc
    · exact .readable result pc (by omega)
  case h_3 pc =>
    split_ifs with flush
    · exact .forced pc flush
    · exact .notForced pc (by simpa using flush)
  case h_8 r pc =>
    split_ifs with good
    · exact .goodMagic r pc good
    · exact .badMagic r pc good
  case h_9 added r pc =>
    cases added with
    | true => exact .added r pc
    | false => exact .refused r pc
  case h_4 pc => exact .readFailed pc
  case h_5 pc => exact .foundEmpty pc
  case h_6 r pc => exact .took r pc
  case h_7 pc => exact .clearFlush pc
  case h_10 amount pc => exact .skipFailed amount pc

namespace CpuTracer

/-- The loop ends exactly on these conditions. -/
theorem exits_iff {tracer next : CpuTracer} {e : TraceEvent} (taken : tracer.step e = some next) :
    next.pc = .exited ↔ tracer.leaves e = true := by
  unfold leaves
  cases traceStep_cases taken with
  | added r pc =>
      unfold TraceRecord.next
      by_cases payload : r.pduLen = 0 <;> simp [goto, payload]
  | pollFailed result pc failed => simp [goto, failed]
  | readable result pc ready => simp [goto, ready.le]
  | _ => simp [goto, *]

end CpuTracer

section Flushing

/-- One trace thread, the records that can be read from its file, and one caller of
`FlushBuffer`. `passed` and `requested` are not in the code: the records given to
`AddTrace` so far, and all records that were in the buffer or taken from it before the
latest call. -/
structure FlushState where
  tracer : CpuTracer
  buffer : List TraceRecord
  spinning : Bool
  passed : List TraceRecord
  requested : List TraceRecord
  deriving DecidableEq

/-- The kernel appends a record, the thread takes a step, or the caller does: it calls
`FlushBuffer`, whose first statement sets the flag, or tests the flag. -/
inductive FlushEvent where
  | append (r : TraceRecord)
  | thread (e : TraceEvent)
  | flushBuffer
  | testFlag
  deriving DecidableEq

namespace FlushState

def new : FlushState := ⟨.new, [], false, [], []⟩

/-- The record that was read and not yet added. -/
def inFlight (s : FlushState) : List TraceRecord :=
  match s.tracer.pc with
  | .checking r | .adding r => [r]
  | _ => []

/-- Every record that has been added or still can be. -/
def all (s : FlushState) : List TraceRecord := s.passed ++ s.inFlight ++ s.buffer

/-- The buffer after a step of the thread. A `read` takes the oldest record, and
returns 0 when there is none. -/
def bufferAfter (s : FlushState) : TraceEvent → Option (List TraceRecord)
  | .read .empty => if s.buffer = [] then some [] else none
  | .read (.record r) => if s.buffer.head? = some r then some s.buffer.tail else none
  | _ => some s.buffer

def passedAfter (s : FlushState) (e : TraceEvent) : List TraceRecord :=
  match e, s.tracer.pc with
  | .addTrace _, .adding r => s.passed ++ [r]
  | _, _ => s.passed

def step (s : FlushState) : FlushEvent → Option FlushState
  | .append r => some { s with buffer := s.buffer ++ [r] }
  | .thread e =>
      (s.bufferAfter e).bind fun buffer => (s.tracer.step e).map fun tracer =>
        { s with tracer := tracer, buffer := buffer, passed := s.passedAfter e }
  | .flushBuffer =>
      if s.spinning then none
      else some
        { s with
          tracer := { s.tracer with flushBuffers := true }
          spinning := true
          requested := s.all }
  | .testFlag =>
      if s.spinning then some { s with spinning := s.tracer.flushBuffers } else none

/-- `FlushBuffer` does not set the flag when the loop is about to clear it after a
`read` that found no record, while there are records by now. -/
def FlushesInTime (s : FlushState) (e : FlushEvent) : Prop :=
  e = .flushBuffer → s.tracer.pc = .clearing → s.buffer = []

instance (s : FlushState) (e : FlushEvent) : Decidable (s.FlushesInTime e) :=
  inferInstanceAs (Decidable (_ → _))

end FlushState

private theorem thread_taken {s t : FlushState} {e : TraceEvent}
    (taken : s.step (.thread e) = some t) :
    ∃ buffer tracer, s.bufferAfter e = some buffer ∧ s.tracer.step e = some tracer ∧
      t = { s with tracer := tracer, buffer := buffer, passed := s.passedAfter e } := by
  obtain ⟨buffer, read, rest⟩ := Option.bind_eq_some_iff.mp taken
  obtain ⟨tracer, moved, rfl⟩ := Option.map_eq_some_iff.mp rest
  exact ⟨buffer, tracer, read, moved, rfl⟩

private theorem passed_prefix (s : FlushState) (e : TraceEvent) :
    s.passed <+: s.passedAfter e := by
  unfold FlushState.passedAfter
  split
  · exact List.prefix_append s.passed _
  · exact List.prefix_refl s.passed

private theorem inFlight_next (s : FlushState) (r : TraceRecord) (pc : s.tracer.pc = r.next) :
    s.inFlight = [] := by
  unfold FlushState.inFlight
  rw [pc]
  unfold TraceRecord.next
  split_ifs <;> rfl

/-- While the loop runs, a step of the thread loses no record and reorders none. -/
private theorem all_thread {s t : FlushState} {e : TraceEvent}
    (taken : s.step (.thread e) = some t) (running : t.tracer.pc ≠ .exited) : t.all = s.all := by
  obtain ⟨buffer, tracer, read, moved, rfl⟩ := thread_taken taken
  cases traceStep_cases moved with
  | stopped | pollFailed | readFailed | badMagic | refused | skipFailed =>
      exact absurd rfl running
  | foundEmpty pc =>
      simp only [FlushState.bufferAfter] at read
      split_ifs at read with none
      obtain rfl := Option.some.inj read
      simp [FlushState.all, FlushState.inFlight, FlushState.passedAfter, CpuTracer.goto, pc, none]
  | took r pc =>
      simp only [FlushState.bufferAfter] at read
      split_ifs at read with oldest
      obtain rfl := Option.some.inj read
      have first : s.buffer = r :: s.buffer.tail := List.eq_cons_of_mem_head? oldest
      simp only [FlushState.all, FlushState.inFlight, FlushState.passedAfter, CpuTracer.goto, pc]
      rw [List.append_nil, List.append_assoc, List.singleton_append, ← first]
  | added r pc =>
      obtain rfl := Option.some.inj read
      unfold FlushState.all
      rw [inFlight_next _ r rfl]
      simp [FlushState.inFlight, FlushState.passedAfter, pc]
  | _ =>
      obtain rfl := Option.some.inj read
      simp [FlushState.all, FlushState.inFlight, FlushState.passedAfter, CpuTracer.goto, *]

private theorem all_of_clearing {s : FlushState} (pc : s.tracer.pc = .clearing)
    (empty : s.buffer = []) : s.all = s.passed := by
  simp [FlushState.all, FlushState.inFlight, pc, empty]

/-- The loop reaches the statement that clears the flag only with an empty buffer. -/
private theorem clearing_thread {s t : FlushState} {e : TraceEvent}
    (taken : s.step (.thread e) = some t) (pc : t.tracer.pc = .clearing) :
    t.buffer = [] ∧ t.tracer.flushBuffers = s.tracer.flushBuffers := by
  obtain ⟨buffer, tracer, read, moved, rfl⟩ := thread_taken taken
  cases traceStep_cases moved with
  | foundEmpty before =>
      simp only [FlushState.bufferAfter] at read
      split_ifs at read
      exact ⟨(Option.some.inj read).symm, rfl⟩
  | added r before =>
      change r.next = .clearing at pc
      unfold TraceRecord.next at pc
      split_ifs at pc
  | _ => cases pc

private theorem flag_thread {s t : FlushState} {e : TraceEvent}
    (taken : s.step (.thread e) = some t) :
    t.tracer.flushBuffers = s.tracer.flushBuffers ∨
      s.tracer.pc = .clearing ∧ t.tracer.flushBuffers = false := by
  obtain ⟨buffer, tracer, read, moved, rfl⟩ := thread_taken taken
  cases traceStep_cases moved with
  | clearFlush pc => exact .inr ⟨pc, rfl⟩
  | _ => exact .inl rfl

private theorem running_thread {s t : FlushState} {e : TraceEvent}
    (taken : s.step (.thread e) = some t) : s.tracer.pc ≠ .exited := by
  obtain ⟨buffer, tracer, read, moved, rfl⟩ := thread_taken taken
  intro exited
  cases traceStep_cases moved <;> simp_all

/-- What a caller that spins can rely on. -/
structure FlushState.Flushing (s : FlushState) : Prop where
  kept : s.spinning = true → s.tracer.flushBuffers = true → s.tracer.pc ≠ .exited →
    s.requested <+: s.all
  clearing : s.spinning = true → s.tracer.pc = .clearing → s.requested <+: s.passed
  cleared : s.spinning = true → s.tracer.flushBuffers = false → s.requested <+: s.passed

private theorem flushing_thread {s t : FlushState} {e : TraceEvent} (inv : s.Flushing)
    (taken : s.step (.thread e) = some t) : t.Flushing := by
  have running := running_thread taken
  have flag := flag_thread taken
  have grown : s.passed <+: t.passed := by
    obtain ⟨buffer, tracer, read, moved, rfl⟩ := thread_taken taken
    exact passed_prefix s e
  have caller : t.spinning = s.spinning ∧ t.requested = s.requested := by
    obtain ⟨buffer, tracer, read, moved, rfl⟩ := thread_taken taken
    exact ⟨rfl, rfl⟩
  constructor
  · rw [caller.1, caller.2]
    intro spins flush still
    have before : s.tracer.flushBuffers = true := by
      rcases flag with same | ⟨_, cleared⟩
      · exact same.symm.trans flush
      · exact absurd (cleared.symm.trans flush) Bool.false_ne_true
    rw [all_thread taken still]
    exact inv.kept spins before running
  · rw [caller.1, caller.2]
    intro spins pc
    obtain ⟨empty, same⟩ := clearing_thread taken pc
    have still : t.tracer.pc ≠ .exited := by simp [pc]
    cases flush : s.tracer.flushBuffers with
    | true =>
        have kept := inv.kept spins flush running
        rwa [← all_thread taken still, all_of_clearing pc empty] at kept
    | false => exact (inv.cleared spins flush).trans grown
  · rw [caller.1, caller.2]
    intro spins flush
    rcases flag with same | ⟨pc, _⟩
    · exact (inv.cleared spins (same.symm.trans flush)).trans grown
    · exact (inv.clearing spins pc).trans grown

private theorem flushing_step {s t : FlushState} {e : FlushEvent} (inv : s.Flushing)
    (inTime : s.FlushesInTime e) (taken : s.step e = some t) : t.Flushing := by
  cases e with
  | thread e => exact flushing_thread inv taken
  | append r =>
      obtain rfl := Option.some.inj taken
      refine ⟨fun spins flush still => ?_, inv.clearing, inv.cleared⟩
      have more : FlushState.all { s with buffer := s.buffer ++ [r] } = s.all ++ [r] := by
        simp [FlushState.all, FlushState.inFlight]
      rw [more]
      exact (inv.kept spins flush still).trans (List.prefix_append s.all [r])
  | flushBuffer =>
      simp only [FlushState.step] at taken
      split_ifs at taken
      obtain rfl := Option.some.inj taken
      refine ⟨fun _ _ _ => List.prefix_refl s.all, fun _ pc => ?_, fun _ cleared => ?_⟩
      · have place : s.tracer.pc = .clearing := pc
        change s.all <+: s.passed
        rw [all_of_clearing place (inTime rfl place)]
      · cases cleared
  | testFlag =>
      simp only [FlushState.step] at taken
      split_ifs at taken with spins
      obtain rfl := Option.some.inj taken
      exact ⟨fun _ => inv.kept spins, fun _ => inv.clearing spins, fun _ => inv.cleared spins⟩

/-- A request that comes too late for a `read` is acknowledged by the next step of the
loop, with the records still in the buffer. -/
private theorem unflushed_of_late {s t : FlushState} (late : ¬ s.FlushesInTime .flushBuffer)
    (taken : s.step .flushBuffer = some t) :
    ∃ u v, run FlushState.step t [.thread .clearFlush] = some u ∧
      u.step .testFlag = some v ∧ v.spinning = false ∧ ¬ u.requested <+: u.passed := by
  unfold FlushState.FlushesInTime at late
  push Not at late
  obtain ⟨_, pc, records⟩ := late
  simp only [FlushState.step] at taken
  split_ifs at taken
  obtain rfl := Option.some.inj taken
  refine ⟨_, _, by simp [run, FlushState.step, FlushState.bufferAfter, CpuTracer.step, pc]; rfl,
    rfl, rfl, fun flushed => ?_⟩
  have short : s.passed.length + s.buffer.length ≤ s.passed.length := by
    simpa [FlushState.all, FlushState.inFlight, FlushState.passedAfter, pc] using flushed.length_le
  exact records (List.length_eq_zero_iff.mp (by omega))

/-- Flush completeness: when the test of the flag ends `FlushBuffer`, every record that
was in the buffer when it was called has been given to `AddTrace`, as long as no call
comes between an empty `read` and the clearing of the flag with a record appended in
between. Such a call can return at once with its records still in the buffer. -/
theorem flush_completes (events : List FlushEvent) (s : FlushState)
    (reached : run FlushState.step .new events = some s) :
    (Along FlushState.step FlushState.FlushesInTime .new events →
      ∀ t, s.step .testFlag = some t → t.spinning = false → s.requested <+: s.passed) ∧
    ∀ t, s.step .flushBuffer = some t → ¬ s.FlushesInTime .flushBuffer →
      ∃ u v, run FlushState.step t [.thread .clearFlush] = some u ∧
        u.step .testFlag = some v ∧ v.spinning = false ∧ ¬ u.requested <+: u.passed := by
  refine ⟨fun inTime t taken returns => ?_, fun t taken late => unflushed_of_late late taken⟩
  have start : FlushState.new.Flushing := ⟨nofun, nofun, nofun⟩
  have inv : s.Flushing := invariant_along
    (fun _ _ _ inv inTime taken => flushing_step inv inTime taken) start inTime reached
  simp only [FlushState.step] at taken
  split_ifs at taken with spins
  obtain rfl := Option.some.inj taken
  exact inv.cleared spins returns

def writeRecord : TraceRecord := ⟨blkIoTraceMagic, ⟨8, 512, blkTcAct blkTcWrite⟩, 0⟩

/-- The loop finds the buffer empty. A record arrives and `FlushBuffer` is called before
the loop clears the flag. -/
def lateRequest : List FlushEvent :=
  [.thread .testStop, .thread (.poll 1), .thread (.read .empty), .append writeRecord,
    .flushBuffer, .thread .clearFlush]

/-- `FlushBuffer` returns, and the record that was in the buffer when it was called has
not been given to `AddTrace`. -/
theorem lateRequest_unflushed :
    ∃ s t, run FlushState.step .new lateRequest = some s ∧ s.step .testFlag = some t ∧
      t.spinning = false ∧ s.requested = [writeRecord] ∧ s.passed = [] :=
  ⟨_, _, rfl, rfl, rfl, rfl, rfl⟩

/-- The record is appended and requested before the `read`. -/
def earlyRequest : List FlushEvent :=
  [.append writeRecord, .flushBuffer, .thread .testStop, .thread (.poll 0), .thread .testFlush,
    .thread (.read (.record writeRecord)), .thread .checkMagic, .thread (.addTrace true),
    .thread .testStop, .thread (.poll 0), .thread .testFlush, .thread (.read .empty),
    .thread .clearFlush]

theorem flush_completes_earlyRequest :
    ∃ s t, run FlushState.step .new earlyRequest = some s ∧ s.step .testFlag = some t ∧
      t.spinning = false ∧ s.requested = [writeRecord] ∧ s.requested <+: s.passed := by
  refine ⟨_, _, rfl, rfl, rfl, rfl, ?_⟩
  exact (flush_completes earlyRequest _ rfl).1 (by decide) _ rfl rfl

end Flushing

end LinuxAgent.Tracing
