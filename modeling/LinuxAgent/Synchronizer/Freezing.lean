/- module: LinuxAgent/Synchronizer/Freezing
   source: device_synchronizer/device_synchronizer.cc, freeze_helper/freeze_helper.cc,
     unsynced_sector_manager/unsynced_sector_store.cc, tracing/cpu_tracer.cc
   digest: What the freezes of DoSync guarantee: volatile intervals, and the state at completion. -/

import LinuxAgent.Synchronizer.Coverage

/-!
`DoSync` freezes the file system for two purposes. An interval with a recent write
is copied while frozen; the decision is taken by `GetInterval`, before the interval
is removed. And the last count is taken while frozen, so that a zero count should
mean that the destination holds the frozen source; the calls that would flush the
tracer are commented out, so traces can still be in flight at that moment.
-/

set_option autoImplicit false
set_option relaxedAutoImplicit false

namespace LinuxAgent.Synchronizer

open LinuxAgent.Lib.Run LinuxAgent.Lib.Segments LinuxAgent.UnsyncedSectors LinuxAgent.Tracing
open LinuxAgent.Backup

variable {β : Type*}

/-- The local count was read last by the callback of `RunWhileFrozen`, or is large. -/
def Pc.holdsCount : Pc β → Bool
  | .ending .count _ | .testing => true
  | _ => false

def Event.isRecount : Event β → Bool
  | .sync .recount => true
  | _ => false

namespace SyncState

/-- The store records a write of the interval within the volatile seconds before `now`. -/
def RecentlyWritten (s : SyncState β) (interval : SectorInterval) (now : TimeT) : Prop :=
  ∃ sector ∈ interval, ∃ epoch, s.device.store.epochOf sector = some epoch ∧
    epoch > now - s.device.store.volatileSeconds

/-- An interval that is about to be removed is volatile if the store knows a recent
write of it, and a volatile block is read and written within `RunWhileFrozen`. -/
def FreezesVolatile (s : SyncState β) : Prop :=
  match s.sync.pc with
  | .removing interval isVolatile now => s.RecentlyWritten interval now → isVolatile = true
  | .reading block attempts => block.isVolatile = true → 0 < attempts
  | .writing block attempts _ => block.isVolatile = true → 0 < attempts
  | _ => True

/-- A recent write of the interval reaches the store between `GetInterval`, which
did not find the interval volatile, and `RemoveInterval`. -/
def DeliversLate (s : SyncState β) (e : Event β) : Prop :=
  match e, s.sync.pc with
  | .device (.deliver index later), .removing interval false now =>
      later > now - s.device.store.volatileSeconds ∧
        ∃ trace ∈ s.device.inFlight[index]?, ∃ sector ∈ interval, trace.Covers sector
  | _, _ => False

/-- What carries `FreezesVolatile` along a run. -/
structure Decided (s : SyncState β) : Prop where
  forward : 0 ≤ s.device.store.volatileSeconds
  placed : s.sync.pc.Placed
  decided : ∀ interval isVolatile now, s.sync.pc = .removing interval isVolatile now →
    s.RecentlyWritten interval now → isVolatile = true

end SyncState

section Decision

variable {s t : SyncState β} {e : Event β}

private theorem freezesVolatile_of_decided (decided : s.Decided) : s.FreezesVolatile := by
  have placed := decided.placed
  unfold SyncState.FreezesVolatile
  split
  next interval isVolatile now pc => exact decided.decided interval isVolatile now pc
  next block attempts pc =>
    rw [pc] at placed
    exact placed.2.mp
  next block attempts buf pc =>
    rw [pc] at placed
    exact placed.2.mp
  next => trivial

/-- Only `GetInterval` leads to a removal. -/
private theorem removing_doSync {e : SyncEvent} (taken : s.DoSyncStep e t)
    {interval : SectorInterval} {isVolatile : Bool} {now : TimeT}
    (pc : t.sync.pc = .removing interval isVolatile now) :
    ∃ store, s.device.store.getInterval now = some ((interval, isVolatile), store) ∧
      t.device = { s.device with store := store } := by
  cases SyncState.arrival taken with
  | passing plain =>
      rw [pc] at plain
      cases plain
  | removing later found answer store got device here =>
      rw [pc] at here
      cases here
      exact ⟨store, got, device⟩
  | writing block attempts here => cases here ▸ pc
  | recounted attempts _ own here => cases here ▸ pc
  | testing attempts _ here => cases here ▸ pc
  | done outcome _ here => cases here ▸ pc
  | _ => cases pc.symm.trans ‹t.sync.pc = _›

private theorem decided_doSync {e : SyncEvent} (taken : s.DoSyncStep e t)
    {interval : SectorInterval} {isVolatile : Bool} {now : TimeT}
    (pc : t.sync.pc = .removing interval isVolatile now)
    (recent : t.RecentlyWritten interval now) : isVolatile = true := by
  obtain ⟨store, got, device⟩ := removing_doSync taken pc
  obtain ⟨rfl, answer⟩ := s.device.store.getInterval_eq_some now got
  obtain ⟨sector, inside, epoch, recorded, young⟩ := recent
  rw [device] at recorded young
  obtain ⟨modified, found, rfl⟩ := answer sector inside
  obtain rfl : epoch = modified := Option.some.inj (recorded.symm.trans found)
  exact decide_eq_true young

/-- A delivery raises the epochs of the covered sectors to its own time at most. -/
private theorem decided_deliver {index : ℕ} {later : TimeT} {device : Device β}
    (decided : s.Decided) (early : ¬ s.DeliversLate (.device (.deliver index later)))
    (moved : s.device.step (.deliver index later) = some device)
    {interval : SectorInterval} {isVolatile : Bool} {now : TimeT}
    (pc : s.sync.pc = .removing interval isVolatile now)
    (recent : SyncState.RecentlyWritten { s with device := device } interval now) :
    isVolatile = true := by
  have before := decided.decided interval isVolatile now pc
  obtain ⟨sector, inside, epoch, recorded, young⟩ := recent
  have seconds := Device.volatileSeconds_step decided.forward moved
  obtain ⟨trace, store, found, added, rfl⟩ := Device.deliver_eq_some.mp moved
  rw [seconds] at young
  rw [(addTrace_eq_some decided.forward added).2 sector] at recorded
  cases isVolatile with
  | true => rfl
  | false =>
      split_ifs at recorded with covers
      · simp only [SyncState.DeliversLate, pc, not_and] at early
        have old : ¬ later > now - s.device.store.volatileSeconds :=
          fun young => early young ⟨trace, found, sector, inside, covers⟩
        obtain rfl := Option.some.inj recorded
        cases known : s.device.store.epochOf sector with
        | none =>
            rw [known] at young
            exact absurd young old
        | some modified =>
            rw [known] at young
            refine before ⟨sector, inside, modified, known, ?_⟩
            exact (lt_max_iff.mp young).resolve_right old
      · exact before ⟨sector, inside, epoch, recorded, young⟩

private theorem decided_step (decided : s.Decided) (early : ¬ s.DeliversLate e)
    (taken : s.step e = some t) : t.Decided := by
  refine ⟨volatileSeconds_step decided.forward taken ▸ decided.forward,
    placed_step decided.placed taken, fun interval isVolatile now pc recent => ?_⟩
  have before := decided.decided interval isVolatile now
  cases e with
  | sync e => exact decided_doSync (SyncState.doSync_cases taken) pc recent
  | unfreeze e =>
      obtain ⟨frozen, thread, rfl⟩ := SyncState.unfreeze_cases taken
      exact before pc recent
  | device e =>
      obtain ⟨device, moved, rfl⟩ := Option.map_eq_some_iff.mp taken
      cases e with
      | write trace contents =>
          obtain ⟨_, rfl⟩ := Device.write_eq_some.mp moved
          exact before pc recent
      | deliver index later => exact decided_deliver decided early moved pc recent
  | others coordinator =>
      obtain rfl := Option.some.inj taken
      exact before pc recent

/-- A late delivery makes the decision wrong. -/
private theorem not_freezesVolatile_of_late (forward : 0 ≤ s.device.store.volatileSeconds)
    (late : s.DeliversLate e) (taken : s.step e = some t) : ¬ t.FreezesVolatile := by
  unfold SyncState.DeliversLate at late
  split at late
  next index later interval now pc =>
    obtain ⟨young, trace, found, sector, inside, covers⟩ := late
    obtain ⟨device, moved, rfl⟩ := Option.map_eq_some_iff.mp taken
    have seconds := Device.volatileSeconds_step forward moved
    obtain ⟨other, store, same, added, rfl⟩ := Device.deliver_eq_some.mp moved
    obtain rfl : trace = other := Option.some.inj (found.symm.trans same)
    have recorded := (addTrace_eq_some forward added).2 sector
    rw [if_pos covers] at recorded
    have recent : SyncState.RecentlyWritten
        { s with device := { s.device with
          store := store, inFlight := s.device.inFlight.eraseIdx index } } interval now := by
      refine ⟨sector, inside, _, recorded, ?_⟩
      rw [seconds]
      cases s.device.store.epochOf sector with
      | none => exact young
      | some modified => exact lt_max_of_lt_right young
    intro freezes
    simp only [SyncState.FreezesVolatile, pc] at freezes
    exact absurd (freezes recent) Bool.false_ne_true
  next => exact absurd late id

/-- The freeze decision matches what is removed, in every state of a run, exactly
when no recent write of the chosen interval reaches the store between a
`GetInterval` that did not find it volatile and the `RemoveInterval` that follows. -/
theorem freezeDecision_iff (coordinator : BackupCoordinator) (device : Device β)
    (blockSize : BlockSize) (destination : ℕ → β) (forward : 0 ≤ device.store.volatileSeconds)
    (events : List (Event β)) (completes :
      (run SyncState.step (.new coordinator device blockSize destination) events).isSome) :
    (∀ before after s, events = before ++ after →
      run SyncState.step (.new coordinator device blockSize destination) before = some s →
      s.FreezesVolatile) ↔
    Along SyncState.step (fun s e => ¬ s.DeliversLate e)
      (.new coordinator device blockSize destination) events := by
  refine good_iff_along (Q := fun _ => True) (fun _ => freezesVolatile_of_decided)
    (fun _ _ _ decided _ early taken => decided_step decided early taken)
    (fun _ _ _ decided _ late taken =>
      not_freezesVolatile_of_late decided.forward (not_not.mp late) taken)
    ⟨forward, trivial, ?_⟩ (fun _ _ => trivial) completes
  intro interval isVolatile now pc
  cases pc

theorem freezeDecision_iff_untilBlockLoop :
    (∀ before after s, untilBlockLoop = before ++ after →
      run SyncState.step (.new (.new 1) seededDevice twoSectors blankDestination) before =
        some s → s.FreezesVolatile) ↔
    Along SyncState.step (fun s e => ¬ s.DeliversLate e)
      (.new (.new 1) seededDevice twoSectors blankDestination) untilBlockLoop :=
  freezeDecision_iff (.new 1) seededDevice twoSectors blankDestination (by decide)
    untilBlockLoop (by decide)

/-- The first sector is written before the interval is chosen, and the trace arrives
right after it was found not volatile. -/
def lateDelivery : List (Event ℕ) :=
  [.device (.write (writeTrace 0) fun _ => 7)] ++ untilBlockLoop.dropLast ++
    [.device (.deliver 0 1003)]

/-- The removed interval holds a write of the same second, and its first block is
read without a freeze. -/
theorem lateDelivery_not_frozen :
    (∃ s, run SyncState.step (.new (.new 1) seededDevice twoSectors blankDestination)
        lateDelivery = some s ∧ s.sync.pc = .removing ⟨0, 3⟩ false 1003 ∧
      s.device.store.epochOf 0 = some 1003 ∧ ¬ s.FreezesVolatile) ∧
    ∃ t, run SyncState.step (.new (.new 1) seededDevice twoSectors blankDestination)
        (lateDelivery ++ [.sync .removeInterval]) = some t ∧
      t.sync.pc = .reading ⟨⟨0, 3⟩, false, 0, 0⟩ 0 := by
  refine ⟨⟨_, rfl, rfl, rfl, fun freezes => ?_⟩, ⟨_, rfl, rfl⟩⟩
  exact absurd (freezes ⟨0, by decide, 1003, rfl, by decide⟩) Bool.false_ne_true

end Decision

section Completion

namespace SyncState

/-- The next step of `DoSync` calls `SignalFinished`. -/
def SignalsFinished (s : SyncState β) : Prop :=
  s.sync.pc = .testing ∧ s.sync.flushTime > 0 ∧ s.sync.unsyncedSectorCount = 0 ∧
    s.sync.wasDone = false

/-- When the callback of `RunWhileFrozen` reads a zero count, the traces still in
flight report only writes that have been copied already. -/
def TracesArrived (s : SyncState β) (e : Event β) : Prop :=
  e.isRecount = true → s.device.store.unsyncedSectorCount = 0 →
    ∀ trace ∈ s.device.inFlight, ∀ sector ∈ trace.interval, trace.Covers sector →
      s.device.sectors sector = s.sync.destination sector

instance [DecidableEq β] (s : SyncState β) (e : Event β) : Decidable (s.TracesArrived e) :=
  inferInstanceAs (Decidable (_ → _ → ∀ trace ∈ s.device.inFlight, ∀ sector ∈ trace.interval,
    trace.Covers sector → s.device.sectors sector = s.sync.destination sector))

/-- Applications do not write while the file system is frozen. -/
def respectsFreeze (s : SyncState β) : Event β → Bool
  | .device (.write _ _) => !s.device.frozen
  | _ => true

/-- A zero count that was read while frozen stands for equal devices. -/
structure CountedConsistently (s : SyncState β) : Prop where
  consistent : s.sync.pc.failed = false → s.Consistent
  counted : s.sync.pc.holdsCount = true → s.sync.unsyncedSectorCount = 0 →
    s.sync.frozenSource = some s.sync.destination

end SyncState

variable {s t : SyncState β} {e : Event β}

/-- With a zero count and no trace of an uncopied write in flight, nothing differs. -/
private theorem sectors_eq_destination (consistent : s.Consistent) {attempts : ℕ}
    (pc : s.sync.pc = .recounting attempts) (zero : s.device.store.unsyncedSectorCount = 0)
    (arrived : s.TracesArrived (.sync .recount)) : s.device.sectors = s.sync.destination := by
  funext sector
  by_contra differs
  rcases consistent.tracked sector differs with (unsynced | ⟨trace, member, covers⟩) | pending
  · exact s.device.store.unsyncedSectorCount_eq_zero_iff.mp zero sector unsynced
  · exact differs (arrived rfl zero trace member sector covers.2 covers)
  · rw [DeviceSynchronizer.notYetWritten, pc] at pending
    exact absurd pending.2 (Nat.not_lt_zero sector)

private theorem holdsCount_of_plain {pc : Pc β} (plain : pc.plain = true) :
    pc.holdsCount = false := by
  cases pc <;> first | rfl | cases plain

private theorem counted_doSync {e : SyncEvent} (inv : s.CountedConsistently)
    (arrived : s.TracesArrived (.sync e)) (taken : s.DoSyncStep e t)
    (holds : t.sync.pc.holdsCount = true) (zero : t.sync.unsyncedSectorCount = 0) :
    t.sync.frozenSource = some t.sync.destination := by
  cases SyncState.arrival taken with
  | passing plain => exact absurd (holds.symm.trans (holdsCount_of_plain plain)) (by simp)
  | writing block attempts here => cases here ▸ holds
  | recounted attempts pc own here =>
      subst own here
      have consistent := inv.consistent (by rw [pc]; rfl)
      exact congrArg some (sectors_eq_destination consistent pc zero arrived)
  | manyLeft here many =>
      rw [zero] at many
      exact absurd many (by decide)
  | testing attempts pc here =>
      subst here
      exact inv.counted (by rw [pc]; rfl) zero
  | done outcome pc here => cases here ▸ holds
  | _ =>
      rw [‹t.sync.pc = _›] at holds
      cases holds

private theorem countedConsistently_step (inv : s.CountedConsistently)
    (arrived : s.TracesArrived e) (taken : s.step e = some t) : t.CountedConsistently := by
  refine ⟨fun working => ?_, fun holds zero => ?_⟩
  · have ⟨earlier, whole⟩ := working_step taken working
    exact consistent_step (inv.consistent earlier) (fun broken => absurd broken whole) taken
  · cases e with
    | sync e => exact counted_doSync inv arrived (SyncState.doSync_cases taken) holds zero
    | unfreeze e =>
        obtain ⟨frozen, thread, rfl⟩ := SyncState.unfreeze_cases taken
        exact inv.counted holds zero
    | device e =>
        obtain ⟨device, moved, rfl⟩ := Option.map_eq_some_iff.mp taken
        exact inv.counted holds zero
    | others coordinator =>
        obtain rfl := Option.some.inj taken
        exact inv.counted holds zero

/-- Consistency at completion: whenever `DoSync` is about to call `SignalFinished`,
the destination is the source as it was at the frozen instant in which the zero
count was read, provided that at each such instant no trace of an uncopied write was
still in flight. -/
theorem completes_consistently (coordinator : BackupCoordinator) (device : Device β)
    (blockSize : BlockSize) (destination : ℕ → β) (forward : 0 ≤ device.store.volatileSeconds)
    (covered : ∀ sector, device.sectors sector ≠ destination sector → device.Covered sector)
    (events : List (Event β)) (s : SyncState β)
    (reached : run SyncState.step (.new coordinator device blockSize destination) events = some s)
    (arrived : Along SyncState.step SyncState.TracesArrived
      (.new coordinator device blockSize destination) events)
    (signals : s.SignalsFinished) : s.sync.frozenSource = some s.sync.destination := by
  have start : (SyncState.new coordinator device blockSize destination).CountedConsistently :=
    ⟨fun _ => consistent_new coordinator device blockSize destination forward covered,
      fun holds => by cases holds⟩
  have inv := invariant_along
    (fun _ _ _ inv arrived taken => countedConsistently_step inv arrived taken)
    start arrived reached
  exact inv.counted (by rw [signals.1]; rfl) signals.2.2.1

/-- Both blocks of the seeded interval are copied, and the count is taken again. -/
def wholeCopy : List (Event ℕ) :=
  untilBlockLoop ++
    [.sync (.pread .full), .sync (.pwrite .full), .sync (.pread .full), .sync (.pwrite .full),
      .sync .updateSyncedCount, .sync .isCancelled, .sync (.unsyncedSectorCount 1004 1004),
      .sync (.beginRequiredFreezeBlock (.froze true)), .unfreeze .setFrozen, .sync .recount,
      .sync .endRequiredFreezeBlock]

theorem completes_consistently_wholeCopy :
    ∃ s, run SyncState.step (.new (.new 1) seededDevice twoSectors blankDestination)
        wholeCopy = some s ∧
      s.SignalsFinished ∧ s.sync.frozenSource = some s.sync.destination := by
  refine ⟨_, rfl, ⟨rfl, by decide, rfl, rfl⟩, ?_⟩
  exact completes_consistently (.new 1) seededDevice twoSectors blankDestination (by decide)
    seededDevice_covered wholeCopy _ rfl (by decide) ⟨rfl, by decide, rfl, rfl⟩

/-- Everything has been copied. A sector is written before the freeze, and its trace
does not reach the store before the count is read. -/
def unflushedTrace : List (Event ℕ) :=
  [.sync (.openDevices none), .sync .isCancelled, .device (.write (writeTrace 0) fun _ => 7),
    .sync (.unsyncedSectorCount 1000 1000), .sync (.beginRequiredFreezeBlock (.froze true)),
    .unfreeze .setFrozen, .sync .recount, .sync .endRequiredFreezeBlock]

/-- `SignalFinished` is called although the destination lacks a write that was made
before the freeze. -/
theorem unflushedTrace_incomplete :
    Along SyncState.step (fun s e => s.respectsFreeze e = true)
      (.new (.new 1) ⟨blankDestination, .new 10, [], false⟩ twoSectors blankDestination)
      unflushedTrace ∧
    ∃ s, run SyncState.step
        (.new (.new 1) ⟨blankDestination, .new 10, [], false⟩ twoSectors blankDestination)
        unflushedTrace = some s ∧
      s.SignalsFinished ∧
      ∃ source, s.sync.frozenSource = some source ∧ source 0 = 7 ∧ s.sync.destination 0 = 0 :=
  ⟨by decide, _, rfl, ⟨rfl, by decide, rfl, rfl⟩, _, rfl, rfl, rfl⟩

end Completion

end LinuxAgent.Synchronizer
