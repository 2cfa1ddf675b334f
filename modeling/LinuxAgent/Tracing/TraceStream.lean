/- module: LinuxAgent/Tracing/TraceStream
   source: tracing/cpu_tracer.cc (DoTrace, SkipNonseekableFD), tracing/trace_handler.cc
   digest: DoTrace on the bytes of a trace file: it adds every header once and never a payload. -/

import LinuxAgent.Lib.ByteStream
import LinuxAgent.Tracing.CpuTracer

/-!
The loop of `DoTrace` is the one of `CpuTracer`; here its reads take bytes from a file.
A header is read into the local variable `trace`, which is not initialised, and
`AddTrace` gets what that variable holds. A payload is read in pieces of at most 512
bytes, each as long as what is ready.
-/

set_option autoImplicit false
set_option relaxedAutoImplicit false

namespace LinuxAgent.Tracing

open LinuxAgent.Lib LinuxAgent.Lib.Run LinuxAgent.Lib.ByteStream LinuxAgent.UnsyncedSectors

/-- The size of `struct blk_io_trace`. -/
def headerSize : ℕ := 48

/-- An integer field of a struct, in the byte order of the machine. -/
def structField (bytes : List UInt8) (offset width : ℕ) : ℕ :=
  ofLittleEndian ((bytes.drop offset).take width)

/-- The fields of `struct blk_io_trace` at their offsets. -/
def TraceRecord.ofBytes (header : List UInt8) : TraceRecord where
  magic := UInt32.ofNat (structField header 0 4)
  trace :=
    { sector := UInt64.ofNat (structField header 16 8)
      bytes := UInt32.ofNat (structField header 24 4)
      action := UInt32.ofNat (structField header 28 4) }
  pduLen := UInt16.ofNat (structField header 46 2)

/-- A record as the kernel writes it: a header with the right magic and as many payload
bytes as the header says. -/
structure RawRecord where
  header : List UInt8
  payload : List UInt8
  whole : header.length = headerSize
  magic : (TraceRecord.ofBytes header).magic = blkIoTraceMagic
  complete : payload.length = (TraceRecord.ofBytes header).pduLen.toNat

def RawRecord.record (r : RawRecord) : TraceRecord := .ofBytes r.header

def RawRecord.bytes (r : RawRecord) : List UInt8 := r.header ++ r.payload

/-- The bytes of a trace file. -/
def fileOf (records : List RawRecord) : List UInt8 := records.flatMap RawRecord.bytes

/-- The steps that read nothing and add nothing. -/
def TraceEvent.isLocal : TraceEvent → Bool
  | .testStop | .poll _ | .testFlush | .clearFlush | .checkMagic => true
  | _ => false

/-- The places of the loop between two records. -/
def TracePc.betweenRecords : TracePc → Bool
  | .testing | .polling | .testingFlush | .reading | .clearing => true
  | _ => false

/-- A trace thread with what is still to be read of its file, the variable `trace` and the
store behind the trace handler. `passed` is not in the code: what `AddTrace` was called with. -/
structure TraceFile where
  tracer : CpuTracer
  file : List UInt8
  trace : List UInt8
  store : UnsyncedSectorStore
  passed : List (List UInt8)

/-- The steps of the thread, and the requests of other threads. A read finds a number of
bytes ready, or fails. -/
inductive FileEvent where
  | thread (e : TraceEvent)
  | read (ready : Option ℕ)
  | addTrace (now : TimeT)
  | skip (ready : Option ℕ)
  | requestFlush
  | requestStop
  deriving DecidableEq

namespace TraceFile

def start (file memory : List UInt8) (store : UnsyncedSectorStore) : TraceFile :=
  ⟨.new, file, memory, store, []⟩

/-- What `read(trace_fd_, &trace, sizeof(trace))` leaves in the variable. -/
def traceAfter (s : TraceFile) (ready : ℕ) : List UInt8 :=
  overwrite s.trace (received headerSize ready s.file)

/-- The loop learns from the same read whether there was a record. -/
def readResult (s : TraceFile) (ready : ℕ) : ReadResult :=
  if received headerSize ready s.file = [] then .empty else .record (.ofBytes (s.traceAfter ready))

def step (s : TraceFile) : FileEvent → Option TraceFile
  | .thread e =>
      if e.isLocal then (s.tracer.step e).map fun tracer => { s with tracer := tracer } else none
  | .read none => (s.tracer.step (.read .failed)).map fun tracer => { s with tracer := tracer }
  | .read (some ready) =>
      (s.tracer.step (.read (s.readResult ready))).map fun tracer =>
        { s with
          tracer := tracer
          file := unread headerSize ready s.file
          trace := s.traceAfter ready }
  | .addTrace now =>
      (addTrace s.store (TraceRecord.ofBytes s.trace).trace now).bind fun store =>
        (s.tracer.step (.addTrace true)).map fun tracer =>
          { s with tracer := tracer, store := store, passed := s.passed ++ [s.trace] }
  | .skip none => (s.tracer.step (.skip none)).map fun tracer => { s with tracer := tracer }
  | .skip (some ready) =>
      match s.tracer.pc with
      | .skipping amount =>
          (s.tracer.step (.skip (some (received (min amount 512) ready s.file).length))).map
            fun tracer => { s with tracer := tracer, file := unread (min amount 512) ready s.file }
      | _ => none
  | .requestFlush => some { s with tracer := { s.tracer with flushBuffers := true } }
  | .requestStop => some { s with tracer := { s.tracer with stopTrace := true } }

end TraceFile

namespace FileEvent

/-- A read at a header returns all of it. -/
def headersWhole : FileEvent → Prop
  | .read (some ready) => headerSize ≤ ready
  | _ => True

/-- A step of a thread that is not stopped and whose file is readable: `poll` reports
that, no read fails, and a read inside a payload returns at least one byte. -/
def proceeds : FileEvent → Prop
  | .thread (.poll result) => 0 < result
  | .read ready => ∃ bytes, ready = some bytes ∧ headerSize ≤ bytes
  | .skip ready => ∃ bytes, ready = some bytes ∧ 0 < bytes
  | .requestStop => False
  | _ => True

/-- The thread takes the step itself. -/
def ofThread : FileEvent → Bool
  | .requestFlush | .requestStop => false
  | _ => true

end FileEvent

/-- Everything that a step can do. -/
inductive FileStep (s : TraceFile) : FileEvent → TraceFile → Prop where
  | moved (e : TraceEvent) (tracer : CpuTracer) (quiet : e.isLocal = true)
      (loop : s.tracer.step e = some tracer) : FileStep s (.thread e) { s with tracer := tracer }
  | readFailed (tracer : CpuTracer) (loop : s.tracer.step (.read .failed) = some tracer) :
      FileStep s (.read none) { s with tracer := tracer }
  | read (ready : ℕ) (tracer : CpuTracer)
      (loop : s.tracer.step (.read (s.readResult ready)) = some tracer) :
      FileStep s (.read (some ready))
        { s with
          tracer := tracer
          file := unread headerSize ready s.file
          trace := s.traceAfter ready }
  | added (now : TimeT) (store : UnsyncedSectorStore) (tracer : CpuTracer)
      (accepted : addTrace s.store (TraceRecord.ofBytes s.trace).trace now = some store)
      (loop : s.tracer.step (.addTrace true) = some tracer) :
      FileStep s (.addTrace now)
        { s with tracer := tracer, store := store, passed := s.passed ++ [s.trace] }
  | skipFailed (tracer : CpuTracer) (loop : s.tracer.step (.skip none) = some tracer) :
      FileStep s (.skip none) { s with tracer := tracer }
  | skipped (ready amount : ℕ) (tracer : CpuTracer) (pc : s.tracer.pc = .skipping amount)
      (loop : s.tracer.step
        (.skip (some (received (min amount 512) ready s.file).length)) = some tracer) :
      FileStep s (.skip (some ready))
        { s with tracer := tracer, file := unread (min amount 512) ready s.file }
  | requestFlush : FileStep s .requestFlush
      { s with tracer := { s.tracer with flushBuffers := true } }
  | requestStop : FileStep s .requestStop
      { s with tracer := { s.tracer with stopTrace := true } }

theorem fileStep_cases {s t : TraceFile} {e : FileEvent} (taken : s.step e = some t) :
    FileStep s e t := by
  unfold TraceFile.step at taken
  split at taken
  next e =>
    split_ifs at taken with quiet
    obtain ⟨tracer, loop, rfl⟩ := Option.map_eq_some_iff.mp taken
    exact .moved e tracer quiet loop
  next =>
    obtain ⟨tracer, loop, rfl⟩ := Option.map_eq_some_iff.mp taken
    exact .readFailed tracer loop
  next ready =>
    obtain ⟨tracer, loop, rfl⟩ := Option.map_eq_some_iff.mp taken
    exact .read ready tracer loop
  next now =>
    obtain ⟨store, accepted, rest⟩ := Option.bind_eq_some_iff.mp taken
    obtain ⟨tracer, loop, rfl⟩ := Option.map_eq_some_iff.mp rest
    exact .added now store tracer accepted loop
  next =>
    obtain ⟨tracer, loop, rfl⟩ := Option.map_eq_some_iff.mp taken
    exact .skipFailed tracer loop
  next ready =>
    split at taken
    next amount pc =>
      obtain ⟨tracer, loop, rfl⟩ := Option.map_eq_some_iff.mp taken
      exact .skipped ready amount tracer pc loop
    next => cases taken
  next => exact Option.some.inj taken ▸ .requestFlush
  next => exact Option.some.inj taken ▸ .requestStop

/-- Where the thread stands in the file: between two records, with a header in its
variable, inside a payload, or behind its loop. -/
inductive Position (records : List RawRecord) (s : TraceFile) : Prop
  | between (done todo : List RawRecord) (split : records = done ++ todo)
      (passed : s.passed = done.map RawRecord.header)
      (pc : s.tracer.pc.betweenRecords = true) (file : s.file = fileOf todo)
  | holding (done : List RawRecord) (r : RawRecord) (todo : List RawRecord)
      (split : records = done ++ r :: todo) (passed : s.passed = done.map RawRecord.header)
      (pc : s.tracer.pc = .checking r.record ∨ s.tracer.pc = .adding r.record)
      (trace : s.trace = r.header) (file : s.file = r.payload ++ fileOf todo)
  | inside (done todo : List RawRecord) (payload : List UInt8) (split : records = done ++ todo)
      (passed : s.passed = done.map RawRecord.header)
      (pc : s.tracer.pc = .skipping payload.length) (file : s.file = payload ++ fileOf todo)
  | exited (done todo : List RawRecord) (split : records = done ++ todo)
      (passed : s.passed = done.map RawRecord.header) (pc : s.tracer.pc = .exited)

section Positions

variable {records : List RawRecord} {s t : TraceFile} {tracer : CpuTracer}

private theorem betweenRecords_of {pc : TracePc} (here : s.tracer.pc = pc)
    (between : s.tracer.pc.betweenRecords = true) : pc.betweenRecords = true := here ▸ between

/-- A thread that leaves its loop keeps what it has added. -/
private theorem position_exited (inv : Position records s) (gone : t.tracer.pc = .exited)
    (same : t.passed = s.passed) : Position records t := by
  cases inv with
  | between done todo split passed => exact .exited done todo split (same.trans passed) gone
  | holding done r todo split passed =>
      exact .exited done (r :: todo) split (same.trans passed) gone
  | inside done todo payload split passed =>
      exact .exited done todo split (same.trans passed) gone
  | exited done todo split passed => exact .exited done todo split (same.trans passed) gone

private theorem position_local {e : TraceEvent} (inv : Position records s)
    (quiet : e.isLocal = true) (taken : s.tracer.step e = some tracer) :
    Position records { s with tracer := tracer } := by
  cases inv with
  | between done todo split passed pc file =>
      cases traceStep_cases taken with
      | stopped | pollFailed =>
          exact position_exited (.between done todo split passed pc file) rfl rfl
      | notStopped | timedOut | readable | forced | notForced | clearFlush =>
          exact .between done todo split passed rfl file
      | goodMagic r here | badMagic r here => cases betweenRecords_of here pc
      | _ => cases quiet
  | holding done r todo split passed pc trace file =>
      have magic : r.record.magic = blkIoTraceMagic := r.magic
      rcases pc with pc | pc
      · cases traceStep_cases taken with
        | goodMagic held here =>
            obtain rfl := TracePc.checking.inj (here.symm.trans pc)
            exact .holding done r todo split passed (.inr rfl) trace file
        | badMagic held here bad =>
            obtain rfl := TracePc.checking.inj (here.symm.trans pc)
            exact absurd magic bad
        | _ => simp_all
      · cases traceStep_cases taken with
        | added | refused => cases quiet
        | _ => simp_all
  | inside done todo payload split passed pc file =>
      cases traceStep_cases taken with
      | skipFailed | skippedSome | skippedAll => cases quiet
      | _ => simp_all
  | exited done todo split passed pc =>
      cases traceStep_cases taken <;> simp_all

private theorem fileOf_cons (r : RawRecord) (todo : List RawRecord) :
    fileOf (r :: todo) = r.header ++ (r.payload ++ fileOf todo) := by
  simp [fileOf, RawRecord.bytes]

/-- A read between two records takes the next header, all of it. -/
private theorem position_read {ready : ℕ} (inv : Position records s)
    (sized : s.trace.length = headerSize) (enough : headerSize ≤ ready)
    (loop : s.tracer.step (.read (s.readResult ready)) = some tracer) :
    Position records
      { s with
        tracer := tracer
        file := unread headerSize ready s.file
        trace := s.traceAfter ready } := by
  have reading : s.tracer.pc = .reading := by
    unfold TraceFile.readResult at loop
    split_ifs at loop <;> cases traceStep_cases loop <;> assumption
  cases inv with
  | between done todo split passed pc file =>
      cases todo with
      | nil =>
          have nothing : received headerSize ready s.file = [] := by
            rw [file, received]
            exact List.take_nil
          rw [TraceFile.readResult, if_pos nothing] at loop
          cases traceStep_cases loop with
          | foundEmpty =>
              refine .between done [] split passed rfl ?_
              rw [file, unread]
              exact List.drop_nil
      | cons r todo =>
          have header : received headerSize ready s.file = r.header := by
            rw [file, fileOf_cons, received_append r.whole enough]
          have nonempty : r.header ≠ [] := by
            intro empty
            have zero := r.whole
            rw [empty] at zero
            cases zero
          have loaded : s.traceAfter ready = r.header := by
            rw [TraceFile.traceAfter, header, overwrite_whole]
            rw [sized, r.whole]
          rw [TraceFile.readResult, header, if_neg nonempty, loaded] at loop
          cases traceStep_cases loop with
          | took =>
              refine .holding done r todo split passed (.inl rfl) loaded ?_
              rw [file, fileOf_cons, unread_append r.whole enough]
  | holding done r todo split passed pc trace file => rcases pc with pc | pc <;> simp_all
  | inside done todo payload split passed pc file => simp_all
  | exited done todo split passed pc => simp_all

private theorem position_addTrace {store : UnsyncedSectorStore} (inv : Position records s)
    (loop : s.tracer.step (.addTrace true) = some tracer) :
    Position records
      { s with tracer := tracer, store := store, passed := s.passed ++ [s.trace] } := by
  cases traceStep_cases loop with
  | added held here =>
      cases inv with
      | between done todo split passed pc file => cases betweenRecords_of here pc
      | inside done todo payload split passed pc file => simp_all
      | exited done todo split passed pc => simp_all
      | holding done r todo split passed pc trace file =>
          have same : held = r.record := by
            rcases pc with pc | pc
            · cases here.symm.trans pc
            · exact TracePc.adding.inj (here.symm.trans pc)
          subst same
          have split : records = (done ++ [r]) ++ todo := by simpa using split
          have passed : s.passed ++ [s.trace] = (done ++ [r]).map RawRecord.header := by
            simp [passed, trace]
          by_cases payload : r.record.pduLen = 0
          · have empty : r.payload = [] := by
              apply List.eq_nil_of_length_eq_zero
              rw [r.complete]
              exact congrArg UInt16.toNat payload
            refine .between (done ++ [r]) todo split passed ?_ ?_
            · simp [CpuTracer.goto, TraceRecord.next, payload, TracePc.betweenRecords]
            · simpa [empty] using file
          · refine .inside (done ++ [r]) todo r.payload split passed ?_ file
            simp only [CpuTracer.goto, TraceRecord.next, if_pos payload, r.complete]
            rfl

/-- A read inside a payload stays inside it. -/
private theorem position_skip {ready amount : ℕ} (inv : Position records s)
    (here : s.tracer.pc = .skipping amount)
    (loop : s.tracer.step
      (.skip (some (received (min amount 512) ready s.file).length)) = some tracer) :
    Position records
      { s with tracer := tracer, file := unread (min amount 512) ready s.file } := by
  cases inv with
  | between done todo split passed pc file => cases betweenRecords_of here pc
  | holding done r todo split passed pc trace file => rcases pc with pc | pc <;> simp_all
  | exited done todo split passed pc => simp_all
  | inside done todo payload split passed pc file =>
      obtain rfl : amount = payload.length := TracePc.skipping.inj (here.symm.trans pc)
      have behind : unread (min payload.length 512) ready s.file =
          unread (min payload.length 512) ready payload ++ fileOf todo := by
        rw [file, unread_inside (by omega)]
      have size : (received (min payload.length 512) ready s.file).length =
          min (min payload.length 512) ready := by
        rw [length_received, file, List.length_append]
        omega
      have remaining := length_unread (min payload.length 512) ready payload
      rw [size] at loop
      cases traceStep_cases loop with
      | skippedSome whole bytes place more =>
          obtain rfl := TracePc.skipping.inj (place.symm.trans pc)
          refine .inside done todo (unread (min payload.length 512) ready payload) split passed ?_
            behind
          rw [remaining]
          rfl
      | skippedAll whole bytes place all =>
          obtain rfl := TracePc.skipping.inj (place.symm.trans pc)
          have empty : unread (min payload.length 512) ready payload = [] := by
            apply List.eq_nil_of_length_eq_zero
            omega
          refine .between done todo split passed rfl ?_
          rw [behind, empty, List.nil_append]

private theorem position_step {e : FileEvent} (inv : Position records s)
    (sized : s.trace.length = headerSize) (whole : e.headersWhole) (taken : s.step e = some t) :
    Position records t := by
  cases fileStep_cases taken with
  | moved e tracer quiet loop => exact position_local inv quiet loop
  | readFailed tracer loop =>
      cases traceStep_cases loop with
      | readFailed => exact position_exited inv rfl rfl
  | read ready tracer loop => exact position_read inv sized whole loop
  | added now store tracer accepted loop => exact position_addTrace inv loop
  | skipFailed tracer loop =>
      cases traceStep_cases loop with
      | skipFailed => exact position_exited inv rfl rfl
  | skipped ready amount tracer pc loop => exact position_skip inv pc loop
  | requestFlush | requestStop =>
      cases inv with
      | between done todo split passed pc file => exact .between done todo split passed pc file
      | holding done r todo split passed pc trace file =>
          exact .holding done r todo split passed pc trace file
      | inside done todo payload split passed pc file =>
          exact .inside done todo payload split passed pc file
      | exited done todo split passed pc => exact .exited done todo split passed pc

end Positions

namespace TraceFile

/-- All of the file has been read, and the thread is between two records. -/
def Exhausted (s : TraceFile) : Prop := s.file = [] ∧ s.tracer.pc.betweenRecords = true

instance (s : TraceFile) : Decidable s.Exhausted := inferInstanceAs (Decidable (_ ∧ _))

end TraceFile

/-- What holds of the thread, its file and the store as long as headers are read whole. -/
structure Decodes (records : List RawRecord) (store : UnsyncedSectorStore) (s : TraceFile) :
    Prop where
  position : Position records s
  sized : s.trace.length = headerSize
  forward : 0 ≤ s.store.volatileSeconds
  stored : ∀ sector, s.store.Unsynced sector ↔ store.Unsynced sector ∨
    ∃ header ∈ s.passed, (TraceRecord.ofBytes header).trace.Covers sector

section Decoding

variable {records : List RawRecord} {store : UnsyncedSectorStore} {s t : TraceFile}
  {e : FileEvent}

private theorem sized_step (sized : s.trace.length = headerSize) (taken : s.step e = some t) :
    t.trace.length = headerSize := by
  cases fileStep_cases taken with
  | read ready tracer loop =>
      have fits : (received headerSize ready s.file).length ≤ s.trace.length := by
        rw [length_received, sized]
        omega
      exact (length_overwrite fits).trans sized
  | _ => exact sized

private theorem stored_step (inv : Decodes records store s) (taken : s.step e = some t) :
    0 ≤ t.store.volatileSeconds ∧ ∀ sector, t.store.Unsynced sector ↔ store.Unsynced sector ∨
      ∃ header ∈ t.passed, (TraceRecord.ofBytes header).trace.Covers sector := by
  cases fileStep_cases taken with
  | added now after tracer accepted loop =>
      refine ⟨(addTrace_eq_some inv.forward accepted).1 ▸ inv.forward, fun sector => ?_⟩
      rw [unsynced_addTrace inv.forward accepted, inv.stored sector]
      simp only [List.mem_append, List.mem_singleton, or_and_right, exists_or, exists_eq_left]
      exact or_comm.trans or_assoc
  | _ => exact ⟨inv.forward, inv.stored⟩

private theorem decodes_step (inv : Decodes records store s) (whole : e.headersWhole)
    (taken : s.step e = some t) : Decodes records store t :=
  have ⟨forward, stored⟩ := stored_step inv taken
  ⟨position_step inv.position inv.sized whole taken, sized_step inv.sized taken, forward, stored⟩

private theorem decodes_start {memory : List UInt8} (uninitialised : memory.length = headerSize)
    (forward : 0 ≤ store.volatileSeconds) :
    Decodes records store (.start (fileOf records) memory store) :=
  ⟨.between [] records rfl rfl rfl rfl, uninitialised, forward, by simp [TraceFile.start]⟩

end Decoding

/-- The places of the loop in the order of one round, counted down. -/
def TracePc.rank : TracePc → ℕ
  | .reading | .exited => 0
  | .polling => 1
  | .testing => 2
  | .testingFlush | .clearing | .skipping _ => 3
  | .adding _ => 4
  | .checking _ => 5

/-- What the thread still has to do, as a number that each of its steps makes smaller. -/
def TraceFile.todo (s : TraceFile) : ℕ := 8 * s.file.length + s.tracer.pc.rank

section Progress

variable {records : List RawRecord} {store : UnsyncedSectorStore} {s t : TraceFile}
  {e : FileEvent}

private theorem headersWhole_of_proceeds (proceeds : e.proceeds) : e.headersWhole := by
  cases e with
  | read ready =>
      obtain ⟨bytes, rfl, enough⟩ := proceeds
      exact enough
  | _ => trivial

private theorem rank_next (r : TraceRecord) : r.next.rank ≤ 3 := by
  unfold TraceRecord.next
  split_ifs
  · exact le_rfl
  · decide

private theorem stopTrace_loop {tracer next : CpuTracer} {e : TraceEvent}
    (loop : tracer.step e = some next) : next.stopTrace = tracer.stopTrace := by
  cases traceStep_cases loop <;> rfl

/-- No record in the file has a bad magic. -/
private theorem magic_of_checking {r : TraceRecord} (inv : Position records s)
    (here : s.tracer.pc = .checking r) : r.magic = blkIoTraceMagic := by
  cases inv with
  | between done todo split passed pc => cases betweenRecords_of here pc
  | holding done held todo split passed pc =>
      rcases pc with pc | pc
      · obtain rfl := TracePc.checking.inj (here.symm.trans pc)
        exact held.magic
      · cases here.symm.trans pc
  | inside done todo payload split passed pc => cases here.symm.trans pc
  | exited done todo split passed pc => cases here.symm.trans pc

/-- A payload that is being skipped is in the file. -/
private theorem payload_in_file {amount : ℕ} (inv : Position records s)
    (here : s.tracer.pc = .skipping amount) : amount ≤ s.file.length := by
  cases inv with
  | between done todo split passed pc => cases betweenRecords_of here pc
  | holding done held todo split passed pc => rcases pc with pc | pc <;> cases here.symm.trans pc
  | inside done todo payload split passed pc file =>
      obtain rfl := TracePc.skipping.inj (here.symm.trans pc)
      rw [file, List.length_append]
      exact Nat.le_add_right _ _
  | exited done todo split passed pc => cases here.symm.trans pc

/-- A local step of a thread that proceeds is none of the exits. -/
private theorem leaves_local {e : TraceEvent} (inv : Position records s)
    (free : s.tracer.stopTrace = false) (quiet : e.isLocal = true)
    (proceeds : (FileEvent.thread e).proceeds) : s.tracer.leaves e = false := by
  cases e with
  | testStop => exact free
  | poll result =>
      have positive : 0 < result := proceeds
      simp [CpuTracer.leaves, positive.le]
  | checkMagic =>
      unfold CpuTracer.leaves
      cases here : s.tracer.pc with
      | checking r => simp [magic_of_checking inv here]
      | _ => rfl
  | testFlush | clearFlush => rfl
  | read | addTrace | skip => cases quiet

private theorem running_step (inv : Position records s) (running : s.tracer.pc ≠ .exited)
    (free : s.tracer.stopTrace = false) (proceeds : e.proceeds) (taken : s.step e = some t) :
    t.tracer.pc ≠ .exited ∧ t.tracer.stopTrace = false := by
  have stays {event : TraceEvent} {tracer : CpuTracer} (loop : s.tracer.step event = some tracer)
      (inside : s.tracer.leaves event = false) :
      tracer.pc ≠ .exited ∧ tracer.stopTrace = false := by
    refine ⟨fun exited => ?_, (stopTrace_loop loop).trans free⟩
    exact Bool.false_ne_true (inside.symm.trans ((CpuTracer.exits_iff loop).mp exited))
  cases fileStep_cases taken with
  | moved e tracer quiet loop => exact stays loop (leaves_local inv free quiet proceeds)
  | readFailed tracer loop =>
      obtain ⟨bytes, impossible, -⟩ := proceeds
      cases impossible
  | read ready tracer loop =>
      refine stays loop ?_
      unfold TraceFile.readResult CpuTracer.leaves
      split_ifs <;> rfl
  | added now after tracer accepted loop => exact stays loop rfl
  | skipFailed tracer loop =>
      obtain ⟨bytes, impossible, -⟩ := proceeds
      cases impossible
  | skipped ready amount tracer pc loop => exact stays loop rfl
  | requestFlush => exact ⟨running, free⟩
  | requestStop => cases proceeds

/-- Outside of the reads, the thread goes on to a later statement of its loop. -/
private theorem todo_local {e : TraceEvent} {tracer : CpuTracer} (inv : Position records s)
    (free : s.tracer.stopTrace = false) (quiet : e.isLocal = true)
    (proceeds : (FileEvent.thread e).proceeds) (loop : s.tracer.step e = some tracer) :
    { s with tracer := tracer }.todo < s.todo := by
  unfold TraceFile.todo
  cases traceStep_cases loop with
  | stopped pc stop => exact absurd (free.symm.trans stop) Bool.false_ne_true
  | pollFailed result pc failed => exact absurd proceeds (not_lt.mpr failed.le)
  | timedOut => exact absurd proceeds (lt_irrefl 0)
  | badMagic r pc bad => exact absurd (magic_of_checking inv pc) bad
  | readFailed | foundEmpty | took | added | refused | skipFailed | skippedSome
    | skippedAll => cases quiet
  | _ => simp [CpuTracer.goto, TracePc.rank, *]

/-- A read at a header takes the header away, or finds the end of the file. -/
private theorem todo_read {ready : ℕ} {tracer : CpuTracer} (enough : headerSize ≤ ready)
    (loop : s.tracer.step (.read (s.readResult ready)) = some tracer) :
    TraceFile.Exhausted { s with
        tracer := tracer
        file := unread headerSize ready s.file
        trace := s.traceAfter ready } ∨
      TraceFile.todo { s with
        tracer := tracer
        file := unread headerSize ready s.file
        trace := s.traceAfter ready } < s.todo := by
  have shrinks := length_unread headerSize ready s.file
  unfold TraceFile.readResult at loop
  split_ifs at loop with nothing
  · left
    cases traceStep_cases loop with
    | foundEmpty =>
        have empty : s.file = [] := by
          rw [received_of_ready enough] at nothing
          exact (List.take_eq_nil_iff.mp nothing).resolve_left (by decide)
        refine ⟨?_, rfl⟩
        simp [empty, unread]
  · right
    have some_bytes : 0 < s.file.length := by
      apply List.length_pos_of_ne_nil
      intro empty
      exact nothing (by simp [empty, received])
    cases traceStep_cases loop with
    | took r pc =>
        have first (held : TraceRecord) : (s.tracer.goto (.checking held)).pc.rank = 5 := rfl
        simp only [TraceFile.todo, first, shrinks]
        unfold headerSize at enough ⊢
        omega

/-- A read inside a payload takes some of it away, or leaves the payload. -/
private theorem todo_skip {ready amount : ℕ} {tracer : CpuTracer} (inv : Position records s)
    (positive : 0 < ready) (pc : s.tracer.pc = .skipping amount)
    (loop : s.tracer.step
      (.skip (some (received (min amount 512) ready s.file).length)) = some tracer) :
    TraceFile.todo { s with tracer := tracer, file := unread (min amount 512) ready s.file } <
      s.todo := by
  have here : s.tracer.pc.rank = 3 := by rw [pc]; rfl
  have shrinks := length_unread (min amount 512) ready s.file
  have size := length_received (min amount 512) ready s.file
  cases traceStep_cases loop with
  | skippedSome whole bytes place more =>
      obtain rfl := TracePc.skipping.inj (place.symm.trans pc)
      have enough := payload_in_file inv pc
      have after (rest : ℕ) : (s.tracer.goto (.skipping rest)).pc.rank = 3 := rfl
      simp only [TraceFile.todo, after, here, shrinks]
      omega
  | skippedAll whole bytes place all =>
      have after : (s.tracer.goto .testing).pc.rank = 2 := rfl
      simp only [TraceFile.todo, after, here, shrinks]
      omega

/-- Each step of a thread that proceeds leaves it less to do, or finds the end of the
file. -/
private theorem todo_step (inv : Position records s) (free : s.tracer.stopTrace = false)
    (proceeds : e.proceeds) (acts : e.ofThread = true) (taken : s.step e = some t) :
    t.Exhausted ∨ t.todo < s.todo := by
  cases fileStep_cases taken with
  | moved e tracer quiet loop => exact Or.inr (todo_local inv free quiet proceeds loop)
  | readFailed tracer loop =>
      obtain ⟨bytes, impossible, -⟩ := proceeds
      cases impossible
  | read ready tracer loop =>
      obtain ⟨bytes, same, enough⟩ := proceeds
      obtain rfl := Option.some.inj same
      exact todo_read enough loop
  | added now after tracer accepted loop =>
      right
      cases traceStep_cases loop with
      | added r pc =>
          have lower := rank_next r
          have here : s.tracer.pc.rank = 4 := by rw [pc]; rfl
          simp only [TraceFile.todo, CpuTracer.goto, here]
          omega
  | skipFailed tracer loop =>
      obtain ⟨bytes, impossible, -⟩ := proceeds
      cases impossible
  | skipped ready amount tracer pc loop =>
      obtain ⟨bytes, same, positive⟩ := proceeds
      obtain rfl := Option.some.inj same
      exact Or.inr (todo_skip inv positive pc loop)
  | requestFlush | requestStop => cases acts

private theorem exhausted_step (ended : s.Exhausted)
    (free : s.tracer.stopTrace = false) (proceeds : e.proceeds) (taken : s.step e = some t) :
    t.Exhausted := by
  obtain ⟨empty, between⟩ := ended
  cases fileStep_cases taken with
  | moved e tracer quiet loop =>
      refine ⟨empty, ?_⟩
      cases traceStep_cases loop with
      | stopped pc stop => simp_all
      | pollFailed result pc failed => exact absurd proceeds (not_lt.mpr failed.le)
      | goodMagic r pc | badMagic r pc => cases betweenRecords_of pc between
      | readFailed | foundEmpty | took | added | refused | skipFailed | skippedSome
        | skippedAll => cases quiet
      | _ => rfl
  | readFailed tracer loop =>
      obtain ⟨bytes, impossible, -⟩ := proceeds
      cases impossible
  | read ready tracer loop =>
      have nothing : received headerSize ready s.file = [] := by simp [empty, received]
      rw [TraceFile.readResult, if_pos nothing] at loop
      cases traceStep_cases loop with
      | foundEmpty => exact ⟨by simp [empty, unread], rfl⟩
  | added now after tracer accepted loop =>
      cases traceStep_cases loop with
      | added r pc => cases betweenRecords_of pc between
  | skipFailed tracer loop =>
      obtain ⟨bytes, impossible, -⟩ := proceeds
      cases impossible
  | skipped ready amount tracer pc loop => cases betweenRecords_of pc between
  | requestFlush => exact ⟨empty, between⟩
  | requestStop => cases proceeds

private theorem addTrace_accepts (store : UnsyncedSectorStore) (trace : BlkIoTrace) :
    ∃ now after, addTrace store trace now = some after := by
  refine ⟨store.volatileSeconds + 1, ?_⟩
  unfold addTrace
  split_ifs
  · exact ⟨_, (store.addInterval_eq_some _ _).mpr ⟨Int.lt_succ _, rfl⟩⟩
  · exact ⟨store, rfl⟩
  · exact ⟨store, rfl⟩

/-- A thread that has not left its loop has a next step. -/
private theorem exists_step (running : s.tracer.pc ≠ .exited) :
    ∃ e, e.proceeds ∧ e.ofThread = true ∧ (s.step e).isSome := by
  cases here : s.tracer.pc with
  | testing =>
      refine ⟨.thread .testStop, trivial, rfl, ?_⟩
      simp [TraceFile.step, TraceEvent.isLocal, CpuTracer.step, here]
  | polling =>
      refine ⟨.thread (.poll 1), Int.one_pos, rfl, ?_⟩
      simp [TraceFile.step, TraceEvent.isLocal, CpuTracer.step, here]
  | testingFlush =>
      refine ⟨.thread .testFlush, trivial, rfl, ?_⟩
      simp [TraceFile.step, TraceEvent.isLocal, CpuTracer.step, here]
  | reading =>
      refine ⟨.read (some headerSize), ⟨_, rfl, le_rfl⟩, rfl, ?_⟩
      simp only [TraceFile.step, TraceFile.readResult, Option.isSome_map]
      split_ifs <;> simp [CpuTracer.step, here]
  | clearing =>
      refine ⟨.thread .clearFlush, trivial, rfl, ?_⟩
      simp [TraceFile.step, TraceEvent.isLocal, CpuTracer.step, here]
  | checking r =>
      refine ⟨.thread .checkMagic, trivial, rfl, ?_⟩
      simp [TraceFile.step, TraceEvent.isLocal, CpuTracer.step, here]
  | adding r =>
      obtain ⟨now, after, accepted⟩ :=
        addTrace_accepts s.store (TraceRecord.ofBytes s.trace).trace
      refine ⟨.addTrace now, trivial, rfl, ?_⟩
      simp [TraceFile.step, accepted, CpuTracer.step, here]
  | skipping amount =>
      refine ⟨.skip (some 512), ⟨_, rfl, by decide⟩, rfl, ?_⟩
      have fits : (received (min amount 512) 512 s.file).length ≤ min amount 512 := by
        rw [length_received]
        omega
      simp [TraceFile.step, CpuTracer.step, here, le_min_iff.mp fits]
  | exited => exact absurd here running

/-- What a thread that proceeds has done so far, and what is left. -/
private structure Underway (records : List RawRecord) (store : UnsyncedSectorStore) (whole : ℕ)
    (past : List FileEvent) (s : TraceFile) : Prop where
  decodes : Decodes records store s
  running : s.tracer.pc ≠ .exited
  free : s.tracer.stopTrace = false
  advanced : s.Exhausted ∨ past.countP FileEvent.ofThread + s.todo ≤ whole

private theorem underway_step {whole : ℕ} {past : List FileEvent}
    (inv : Underway records store whole past s) (proceeds : e.proceeds)
    (taken : s.step e = some t) : Underway records store whole (past ++ [e]) t := by
  have position := inv.decodes.position
  obtain ⟨running, free⟩ := running_step position inv.running inv.free proceeds taken
  refine ⟨decodes_step inv.decodes (headersWhole_of_proceeds proceeds) taken, running, free, ?_⟩
  rcases inv.advanced with ended | bounded
  · exact .inl (exhausted_step ended inv.free proceeds taken)
  · rw [List.countP_append, List.countP_singleton]
    cases acts : e.ofThread with
    | true =>
        rcases todo_step position inv.free proceeds acts taken with ended | smaller
        · exact .inl ended
        · refine .inr ?_
          rw [if_pos rfl]
          omega
    | false =>
        have same : t.todo = s.todo := by
          cases fileStep_cases taken with
          | requestFlush | requestStop => rfl
          | _ => cases acts
        refine .inr ?_
        rw [if_neg Bool.false_ne_true]
        omega

private theorem fileOf_eq_nil {todo : List RawRecord} (empty : fileOf todo = []) : todo = [] := by
  cases todo with
  | nil => rfl
  | cons r todo =>
      have zero := congrArg List.length empty
      rw [fileOf_cons, List.length_append, r.whole] at zero
      cases (Nat.add_eq_zero_iff.mp zero).1

private theorem covers_iff (trace : BlkIoTrace) (sector : ℕ) :
    trace.Covers sector ↔ trace.isWrite = true ∧ sector ∈ trace.interval := by
  refine ⟨fun covers => ⟨covers.1.1, covers.2⟩, fun ⟨write, inside⟩ => ⟨⟨write, ?_⟩, inside⟩⟩
  by_contra empty
  have zero : trace.bytes = 0 := by
    rw [gt_iff_lt, UInt32.lt_iff_toNat_lt, UInt32.toNat_zero] at empty
    exact UInt32.toNat_inj.mp (by rw [UInt32.toNat_zero]; omega)
  have bounds := Segments.mem_interval.mp inside
  have nothing : ((0 : UInt32) / sectorSize).toUInt64 = 0 := rfl
  simp only [BlkIoTrace.interval, zero, nothing, UInt64.add_zero] at bounds
  omega

private theorem unsynced_iff {done : List RawRecord} (inv : Decodes records store s)
    (passed : s.passed = done.map RawRecord.header) (sector : ℕ) :
    s.store.Unsynced sector ↔ store.Unsynced sector ∨
      ∃ r ∈ done, r.record.trace.isWrite = true ∧ sector ∈ r.record.trace.interval := by
  rw [inv.stored sector, passed]
  simp only [List.mem_map, exists_exists_and_eq_and, covers_iff]
  rfl

private theorem decoded_so_far (inv : Decodes records store s) :
    ∃ done todo, records = done ++ todo ∧ s.passed = done.map RawRecord.header ∧
      (s.Exhausted → todo = []) := by
  cases inv.position with
  | between done todo split passed pc file =>
      exact ⟨done, todo, split, passed, fun ended => fileOf_eq_nil (file.symm.trans ended.1)⟩
  | holding done r todo split passed pc =>
      refine ⟨done, r :: todo, split, passed, fun ended => ?_⟩
      rcases pc with pc | pc <;> cases betweenRecords_of pc ended.2
  | inside done todo payload split passed pc =>
      exact ⟨done, todo, split, passed, fun ended => nomatch betweenRecords_of pc ended.2⟩
  | exited done todo split passed pc =>
      exact ⟨done, todo, split, passed, fun ended => nomatch betweenRecords_of pc ended.2⟩

/-- Trace-stream decoding: whatever the sizes of the reads inside payloads, `AddTrace`
has been called with the headers of the records read so far, in order and once each, and
the store has gained their written sectors and no others. At the end of the file these
are all records, and a thread that proceeds always has a next step and is there after a
bounded number of them. -/
theorem doTrace_decodes (records : List RawRecord) (memory : List UInt8)
    (store : UnsyncedSectorStore) (uninitialised : memory.length = headerSize)
    (forward : 0 ≤ store.volatileSeconds) (events : List FileEvent) (t : TraceFile)
    (whole : ∀ e ∈ events, e.headersWhole)
    (reached : run TraceFile.step (.start (fileOf records) memory store) events = some t) :
    (∃ done todo, records = done ++ todo ∧ t.passed = done.map RawRecord.header ∧
      ∀ sector, t.store.Unsynced sector ↔ store.Unsynced sector ∨
        ∃ r ∈ done, r.record.trace.isWrite = true ∧ sector ∈ r.record.trace.interval) ∧
    (t.Exhausted → t.passed = records.map RawRecord.header ∧
      ∀ sector, t.store.Unsynced sector ↔ store.Unsynced sector ∨
        ∃ r ∈ records, r.record.trace.isWrite = true ∧ sector ∈ r.record.trace.interval) ∧
    ((∀ e ∈ events, e.proceeds) →
      (8 * (fileOf records).length + 2 < events.countP FileEvent.ofThread → t.Exhausted) ∧
      ∃ e, e.proceeds ∧ e.ofThread = true ∧ (t.step e).isSome) := by
  have start : Decodes records store (.start (fileOf records) memory store) :=
    decodes_start uninitialised forward
  have inv : Decodes records store t := invariant_along (P := fun _ e => e.headersWhole)
    (fun _ _ _ inv whole taken => decodes_step inv whole taken) start
    (along_iff.mpr fun _ e _ _ split _ => whole e (by simp [split])) reached
  obtain ⟨done, todo, split, passed, ended⟩ := decoded_so_far inv
  refine ⟨⟨done, todo, split, passed, unsynced_iff inv passed⟩, fun exhausted => ?_, fun all => ?_⟩
  · obtain rfl : records = done := by rw [split, ended exhausted, List.append_nil]
    exact ⟨passed, unsynced_iff inv passed⟩
  · have before : Underway records store (8 * (fileOf records).length + 2) []
        (.start (fileOf records) memory store) :=
      ⟨start, by simp [TraceFile.start, CpuTracer.new], rfl, .inr (Nat.le_of_eq (Nat.zero_add _))⟩
    have after := history_along (P := fun _ e => e.proceeds)
      (fun _ _ _ _ inv proceeds taken => underway_step inv proceeds taken) [] before
      (along_iff.mpr fun _ e _ _ split _ => all e (by simp [split])) reached
    rw [List.nil_append] at after
    refine ⟨fun long => ?_, exists_step after.running⟩
    rcases after.advanced with exhausted | bounded
    · exact exhausted
    · omega

end Progress

section Example

/-- The header of a write to sector 8 that is followed by three payload bytes. -/
def writeHeader : List UInt8 :=
  [0x07, 0x74, 0x61, 0x65] ++ List.replicate 12 0 ++ [8, 0, 0, 0, 0, 0, 0, 0] ++ [0, 2, 0, 0] ++
    [0, 0, 2, 0] ++ List.replicate 14 0 ++ [3, 0]

/-- The payload begins like a header. -/
def writeWithPayload : RawRecord :=
  ⟨writeHeader, [0x07, 0x74, 0x61], by decide, by decide, by decide⟩

/-- The payload is read in two pieces, and the next read finds the end of the file. -/
def readInPieces : List FileEvent :=
  [.thread .testStop, .thread (.poll 1), .read (some 51), .thread .checkMagic, .addTrace 100,
    .skip (some 2), .skip (some 9), .thread .testStop, .thread (.poll 1), .read (some 48)]

theorem doTrace_decodes_readInPieces :
    ∃ t, run TraceFile.step (.start (fileOf [writeWithPayload]) (List.replicate 48 0) (.new 10))
        readInPieces = some t ∧ t.Exhausted ∧ t.passed = [writeHeader] ∧ t.store.Unsynced 8 := by
  have evaluated : (run TraceFile.step
      (.start (fileOf [writeWithPayload]) (List.replicate 48 0) (.new 10)) readInPieces).any
        (fun t => decide t.Exhausted) = true := by decide +kernel
  obtain ⟨t, reached, ended⟩ := (Option.any_eq_true _ _).mp evaluated
  have exhausted : t.Exhausted := of_decide_eq_true ended
  have whole : ∀ e ∈ readInPieces, e.headersWhole := by
    simp [readInPieces, FileEvent.headersWhole, headerSize]
  obtain ⟨passed, stored⟩ := (doTrace_decodes [writeWithPayload] (List.replicate 48 0) (.new 10)
    (by decide) (by decide) readInPieces t whole reached).2.1 exhausted
  refine ⟨t, reached, exhausted, passed, (stored 8).mpr (.inr ⟨writeWithPayload, ?_, ?_⟩)⟩
  · exact List.mem_singleton_self _
  · decide

end Example

end LinuxAgent.Tracing
