/- module: LinuxAgent/Synchronizer/Coverage
   source: device_synchronizer/device_synchronizer.cc, tracing/trace_handler.cc,
     unsynced_sector_manager/unsynced_sector_store.cc
   digest: Every sector that differs is in the store, in flight or still to be written. -/

import LinuxAgent.Synchronizer.DoSync

/-!
`DoSync` takes an interval out of the store before it copies its blocks. From then
on the sectors of the interval are remembered by the position of the block loop
alone, unless a later write reports them again. The invariant says that this is
enough as long as the loop runs to its end, and which steps that leave the loop
keep it.
-/

set_option autoImplicit false
set_option relaxedAutoImplicit false

namespace LinuxAgent.Synchronizer

open LinuxAgent.Lib.Run LinuxAgent.Lib.Segments LinuxAgent.UnsyncedSectors LinuxAgent.Tracing
open LinuxAgent.Backup

variable {β : Type*}

/-- The sectors of the interval from the present block on, or from the next one on
when the present block has been written at least once. -/
def BlockCopy.rest (block : BlockCopy) (sectorsPerBlock : ℕ) (once : Prop) [Decidable once] :
    SectorInterval :=
  ⟨block.interval.lower + (if once then block.i + sectorsPerBlock else block.i),
    block.interval.upper⟩

/-- The part of the interval being copied that has not been written yet. -/
def Pc.notYetWritten (sectorsPerBlock : ℕ) : Pc β → SectorInterval
  | .freezing (.copy block) attempts => block.rest sectorsPerBlock (0 < attempts)
  | .reading block attempts => block.rest sectorsPerBlock (1 < attempts)
  | .writing block attempts _ => block.rest sectorsPerBlock (1 < attempts)
  | .ending (.copy block) _ => block.rest sectorsPerBlock True
  | _ => ⟨0, 0⟩

def DeviceSynchronizer.notYetWritten (sync : DeviceSynchronizer β) : SectorInterval :=
  sync.pc.notYetWritten sync.blockSize.sectorsPerBlock

/-- The call has thrown. -/
def Pc.failed : Pc β → Bool
  | .leaving (.threw _) | .done (.threw _) => true
  | _ => false

/-- The offset belongs to the block. -/
def BlockCopy.Placed (block : BlockCopy) : Prop :=
  block.offset = (block.interval.lower + block.i) * 512

/-- The blocks of a volatile interval are copied by `RunWhileFrozen`, the others without it. -/
def Pc.Placed : Pc β → Prop
  | .freezing (.copy block) _ => block.Placed ∧ block.isVolatile = true
  | .reading block attempts => block.Placed ∧ (block.isVolatile = true ↔ 0 < attempts)
  | .writing block attempts _ => block.Placed ∧ (block.isVolatile = true ↔ 0 < attempts)
  | .ending (.copy block) attempts => block.Placed ∧ block.isVolatile = true ∧ 0 < attempts
  | _ => True

/-- Where the buffer differs from the source by now, the write is covered. -/
def Pc.Buffered (device : Device β) : Pc β → Prop
  | .writing _ _ buf => ∀ sector, buf sector ≠ device.sectors sector → device.Covered sector
  | _ => True

namespace SyncState

/-- The step throws out of the block loop: a transfer that is not full, the last
permitted attempt used up, or a freeze that fails. -/
def Interrupted (s : SyncState β) : Event β → Prop
  | .sync (.pread result) => result ≠ .full
  | .sync (.pwrite result) => result ≠ .full
  | .sync (.beginRequiredFreezeBlock result) =>
      match s.sync.pc with
      | .freezing (.copy _) attempts =>
          10 ≤ attempts ∨ s.sync.unfreezeThread = .idle ∧ ∀ mounted, result ≠ .froze mounted
      | _ => False
  | _ => False

/-- The step writes the sector although it does not complete the block. -/
def Transfers (s : SyncState β) (e : Event β) (sector : ℕ) : Prop :=
  match e, s.sync.pc with
  | .sync (.pwrite (.short sectors)), .writing block _ _ =>
      DeviceSynchronizer.Within block (sectors * 512) sector
  | _, _ => False

/-- Nothing that only the position of the block loop remembers is lost by the step. -/
def ForgetsNothing (s : SyncState β) (e : Event β) : Prop :=
  s.Interrupted e → ∀ sector ∈ s.sync.notYetWritten, ¬ s.Transfers e sector →
    s.device.sectors sector = s.sync.destination sector ∨ s.device.Covered sector

/-- A sector that differs is covered or still to be written. -/
def Tracked (s : SyncState β) : Prop :=
  ∀ sector, s.device.sectors sector ≠ s.sync.destination sector →
    s.device.Covered sector ∨ sector ∈ s.sync.notYetWritten

/-- The invariant of the sync loop. -/
structure Consistent (s : SyncState β) : Prop where
  forward : 0 ≤ s.device.store.volatileSeconds
  placed : s.sync.pc.Placed
  buffered : s.sync.pc.Buffered s.device
  tracked : s.Tracked

end SyncState

section Blocks

variable {block : BlockCopy} {sectorsPerBlock sector : ℕ}

theorem mem_rest {once : Prop} [Decidable once] :
    sector ∈ block.rest sectorsPerBlock once ↔
      block.interval.lower + (if once then block.i + sectorsPerBlock else block.i) ≤ sector ∧
        sector < block.interval.upper := Iff.rfl

theorem placed_blockLoop (placed : block.Placed) :
    (DeviceSynchronizer.blockLoop block : Pc β).Placed := by
  unfold DeviceSynchronizer.blockLoop
  split_ifs with more isVolatile
  · exact ⟨placed, isVolatile⟩
  · exact ⟨placed, by simp [isVolatile]⟩
  · trivial

/-- At the head of the block loop all sectors from the present block on are to be written. -/
theorem mem_notYetWritten_blockLoop :
    sector ∈ (DeviceSynchronizer.blockLoop block : Pc β).notYetWritten sectorsPerBlock ↔
      block.interval.lower + block.i ≤ sector ∧ sector < block.interval.upper := by
  unfold DeviceSynchronizer.blockLoop
  split_ifs with more isVolatile
  · simp [Pc.notYetWritten, mem_rest]
  · simp [Pc.notYetWritten, mem_rest]
  · simp only [HalfOpen.cardinality] at more
    simp only [Pc.notYetWritten, mem_interval]
    omega

theorem placed_nextBlock (sync : DeviceSynchronizer β) (placed : block.Placed) :
    (sync.nextBlock block).Placed := by
  have size := sync.blockSize.bytes_eq.1
  refine placed_blockLoop ?_
  simp only [BlockCopy.Placed] at placed ⊢
  omega

theorem mem_notYetWritten_nextBlock (sync : DeviceSynchronizer β) :
    sector ∈ (sync.nextBlock block).notYetWritten sectorsPerBlock ↔
      block.interval.lower + (block.i + sync.blockSize.sectorsPerBlock) ≤ sector ∧
        sector < block.interval.upper :=
  mem_notYetWritten_blockLoop

/-- A full block reaches from its first sector to the next block. -/
theorem within_iff (blockSize : BlockSize) (placed : block.Placed) (sector : ℕ) :
    DeviceSynchronizer.Within block blockSize.bytes sector ↔
      block.interval.lower + block.i ≤ sector ∧
        sector < block.interval.lower + (block.i + blockSize.sectorsPerBlock) := by
  have size := blockSize.bytes_eq.1
  simp only [DeviceSynchronizer.Within, BlockCopy.Placed] at placed ⊢
  omega

end Blocks

section Steps

variable {s t : SyncState β} {e : SyncEvent}

private theorem placed_doSync (placed : s.sync.pc.Placed) (taken : s.DoSyncStep e t) :
    t.sync.pc.Placed := by
  cases taken with
  | counted now flushed pc =>
      unfold SyncState.unsyncedSectorCount
      dsimp only
      split_ifs <;> trivial
  | stillFrozen task _ _ pc | froze task _ _ pc =>
      rw [pc] at placed
      cases task with
      | count => trivial
      | copy block => exact ⟨placed.1, by simp [placed.2]⟩
  | ended task attempts pc =>
      rw [pc] at placed
      cases task with
      | count => trivial
      | copy block => exact placed_nextBlock s.sync placed.1
  | retried task attempts pc =>
      rw [pc] at placed
      cases task with
      | count => trivial
      | copy block => exact ⟨placed.1, placed.2.1⟩
  | tested pc =>
      unfold SyncState.testComplete
      dsimp only
      split_ifs <;> trivial
  | waited pc =>
      simp only [SyncState.goto]
      split_ifs <;> trivial
  | removed interval isVolatile now pc => exact placed_blockLoop (by simp [BlockCopy.Placed])
  | read block attempts pc =>
      rw [pc] at placed
      exact placed
  | wrote block attempts buf pc =>
      rw [pc] at placed
      simp only [SyncState.afterWrite]
      split_ifs with isVolatile
      · exact ⟨placed.1, isVolatile, placed.2.mp isVolatile⟩
      · exact placed_nextBlock s.sync placed.1
  | _ => trivial

private theorem buffered_of_plain {pc : Pc β} (plain : pc.plain = true) (device : Device β) :
    pc.Buffered device := by
  cases pc <;> trivial

private theorem buffered_doSync (taken : s.DoSyncStep e t) : t.sync.pc.Buffered t.device := by
  cases SyncState.arrival taken with
  | passing plain => exact buffered_of_plain plain t.device
  | writing block attempts here =>
      subst here
      exact fun _ differs => absurd rfl differs
  | recounted attempts pc own here =>
      subst here
      trivial
  | testing attempts pc here =>
      subst here
      trivial
  | done outcome pc here =>
      subst here
      trivial
  | _ =>
      rw [‹t.sync.pc = _›]
      trivial

private theorem notYetWritten_of_pc {pc : Pc β} (here : s.sync.pc = pc) :
    s.sync.notYetWritten = pc.notYetWritten s.sync.blockSize.sectorsPerBlock := by
  rw [DeviceSynchronizer.notYetWritten, here]

/-- A step that changes no sector and uncovers none keeps the invariant when the
part still to be written does not shrink. -/
private theorem tracked_quiet (tracked : s.Tracked)
    (sectors : t.device.sectors = s.device.sectors)
    (destination : t.sync.destination = s.sync.destination)
    (covered : ∀ sector, s.device.Covered sector → t.device.Covered sector)
    (grows : ∀ sector ∈ s.sync.notYetWritten, sector ∈ t.sync.notYetWritten) : t.Tracked := by
  intro sector differs
  rw [sectors, destination] at differs
  exact (tracked sector differs).imp (covered sector) (grows sector)

/-- An exception loses what only the block loop remembered. -/
private theorem tracked_throw (tracked : s.Tracked)
    (sectors : t.device.sectors = s.device.sectors)
    (destination : t.sync.destination = s.sync.destination)
    (covered : ∀ sector, s.device.Covered sector → t.device.Covered sector)
    (forgets : ∀ sector ∈ s.sync.notYetWritten,
      s.device.sectors sector = s.sync.destination sector ∨ s.device.Covered sector) :
    t.Tracked := by
  intro sector differs
  rw [sectors, destination] at differs
  refine Or.inl (covered sector ((tracked sector differs).elim id fun pending => ?_))
  exact (forgets sector pending).resolve_left differs

private theorem tracked_removed {interval : SectorInterval} {isVolatile : Bool} {now : TimeT}
    (tracked : s.Tracked) (pc : s.sync.pc = .removing interval isVolatile now) :
    SyncState.Tracked { s with
      device := { s.device with store := s.device.store.removeInterval interval }
      sync := { s.sync with
        pc := DeviceSynchronizer.blockLoop ⟨interval, isVolatile, 0, interval.lower * 512⟩ } } := by
  intro sector differs
  by_cases inside : sector ∈ interval
  · exact Or.inr (mem_notYetWritten_blockLoop.mpr inside)
  · rcases tracked sector differs with covered | pending
    · refine Or.inl (covered.imp_left fun unsynced => ?_)
      exact (s.device.store.unsynced_removeInterval interval sector).mpr ⟨inside, unsynced⟩
    · exact absurd pending (by simp [notYetWritten_of_pc pc, Pc.notYetWritten, mem_interval])

/-- After a full `pwrite` the block agrees with the source wherever the source has
not been written meanwhile. -/
private theorem tracked_wrote {block : BlockCopy} {attempts : ℕ} {buf : ℕ → β}
    (consistent : s.Consistent) (pc : s.sync.pc = .writing block attempts buf) :
    SyncState.Tracked { s with sync := { s.sync with
      destination := s.sync.written block s.sync.blockSize.bytes buf
      pc := s.afterWrite block attempts } } := by
  have placed := consistent.placed
  have buffered := consistent.buffered
  rw [pc] at placed buffered
  have next (sector : ℕ) :
      sector ∈ (s.afterWrite block attempts).notYetWritten s.sync.blockSize.sectorsPerBlock ↔
        block.interval.lower + (block.i + s.sync.blockSize.sectorsPerBlock) ≤ sector ∧
          sector < block.interval.upper := by
    unfold SyncState.afterWrite
    split_ifs
    · simp [Pc.notYetWritten, mem_rest]
    · exact mem_notYetWritten_nextBlock s.sync
  intro sector differs
  have whole := within_iff s.sync.blockSize placed.1 sector
  by_cases inside : DeviceSynchronizer.Within block s.sync.blockSize.bytes sector
  · simp only [DeviceSynchronizer.written, inside, if_true] at differs
    exact Or.inl (buffered sector (Ne.symm differs))
  · simp only [DeviceSynchronizer.written, inside, if_false] at differs
    refine (consistent.tracked sector differs).imp_right fun pending => (next sector).mpr ?_
    rw [notYetWritten_of_pc pc, Pc.notYetWritten, mem_rest] at pending
    rw [whole] at inside
    split_ifs at pending <;> omega

/-- A short `pwrite` completes some sectors and loses the rest of the interval. -/
private theorem tracked_wroteShort {block : BlockCopy} {attempts sectors : ℕ} {buf : ℕ → β}
    (consistent : s.Consistent) (pc : s.sync.pc = .writing block attempts buf)
    (forgets : ∀ sector ∈ s.sync.notYetWritten,
      ¬ DeviceSynchronizer.Within block (sectors * 512) sector →
      s.device.sectors sector = s.sync.destination sector ∨ s.device.Covered sector)
    (what : String) :
    SyncState.Tracked { s with sync := { s.sync with
      destination := s.sync.written block (sectors * 512) buf
      pc := .leaving (.threw what) } } := by
  have buffered := consistent.buffered
  rw [pc] at buffered
  intro sector differs
  refine Or.inl ?_
  by_cases inside : DeviceSynchronizer.Within block (sectors * 512) sector
  · simp only [DeviceSynchronizer.written, inside, if_true] at differs
    exact buffered sector (Ne.symm differs)
  · simp only [DeviceSynchronizer.written, inside, if_false] at differs
    exact (consistent.tracked sector differs).elim id fun pending =>
      (forgets sector pending inside).resolve_left differs

private theorem forgets_freezing {task : FrozenTask} {attempts : ℕ} {result : FreezeResult}
    (keeps : s.ForgetsNothing (.sync (.beginRequiredFreezeBlock result)))
    (pc : s.sync.pc = .freezing task attempts)
    (givesUp : 10 ≤ attempts ∨
      s.sync.unfreezeThread = .idle ∧ ∀ mounted, result ≠ .froze mounted) :
    ∀ sector ∈ s.sync.notYetWritten,
      s.device.sectors sector = s.sync.destination sector ∨ s.device.Covered sector := by
  intro sector pending
  cases task with
  | count =>
      have nothing : sector ∉ s.sync.notYetWritten := by
        simp [notYetWritten_of_pc pc, Pc.notYetWritten, mem_interval]
      exact absurd pending nothing
  | copy block =>
      refine keeps ?_ sector pending id
      simpa only [SyncState.Interrupted, pc] using givesUp

private theorem grows_callback {task : FrozenTask} {attempts sectorsPerBlock sector : ℕ}
    (pending : sector ∈ (Pc.freezing task attempts : Pc β).notYetWritten sectorsPerBlock) :
    sector ∈ (SyncState.callback task (attempts + 1) : Pc β).notYetWritten sectorsPerBlock := by
  cases task with
  | count => exact pending
  | copy block => simpa [SyncState.callback, Pc.notYetWritten, mem_rest] using pending

private theorem tracked_doSync (consistent : s.Consistent) (keeps : s.ForgetsNothing (.sync e))
    (taken : s.DoSyncStep e t) : t.Tracked := by
  have tracked := consistent.tracked
  have placed := consistent.placed
  have nothing {pc : Pc β} (here : s.sync.pc = pc)
      (idle : pc.notYetWritten s.sync.blockSize.sectorsPerBlock = ⟨0, 0⟩) :
      ∀ sector ∈ s.sync.notYetWritten, sector ∈ t.sync.notYetWritten := by
    intro sector pending
    rw [notYetWritten_of_pc here, idle, mem_interval] at pending
    exact absurd pending.2 (Nat.not_lt_zero sector)
  cases taken with
  | opened pc => exact tracked_quiet tracked rfl rfl (fun _ => id) (nothing pc rfl)
  | openFailed what pc => exact tracked_quiet tracked rfl rfl (fun _ => id) (nothing pc rfl)
  | cancelled pc => exact tracked_quiet tracked rfl rfl (fun _ => id) (nothing pc rfl)
  | continued pc => exact tracked_quiet tracked rfl rfl (fun _ => id) (nothing pc rfl)
  | counted now flushed pc =>
      have same := s.unsyncedSectorCount_frame now flushed
      exact tracked_quiet tracked (by rw [same.1]) same.2 (by simp [same.1]) (nothing pc rfl)
  | tired task attempts result pc tired =>
      exact tracked_throw tracked rfl rfl (fun _ => id) (forgets_freezing keeps pc (.inl tired))
  | stillFrozen task attempts result pc permitted asleep =>
      refine tracked_quiet tracked rfl rfl (fun _ => id) fun sector pending => ?_
      exact grows_callback (notYetWritten_of_pc pc ▸ pending)
  | froze task attempts mounted pc permitted idle =>
      refine tracked_quiet tracked rfl rfl (fun _ => id) fun sector pending => ?_
      exact grows_callback (notYetWritten_of_pc pc ▸ pending)
  | freezeFailed task attempts what pc idle =>
      exact tracked_throw tracked rfl rfl (fun _ => id)
        (forgets_freezing keeps pc (.inr ⟨idle, by simp⟩))
  | thawFailed task attempts what pc idle =>
      exact tracked_throw tracked rfl rfl (fun _ => id)
        (forgets_freezing keeps pc (.inr ⟨idle, by simp⟩))
  | recounted attempts pc => exact tracked_quiet tracked rfl rfl (fun _ => id) (nothing pc rfl)
  | ended task attempts pc =>
      refine tracked_quiet tracked rfl rfl (fun _ => id) fun sector pending => ?_
      cases task with
      | count => exact nothing pc rfl sector pending
      | copy block =>
          rw [notYetWritten_of_pc pc, Pc.notYetWritten, mem_rest, if_pos trivial] at pending
          exact (mem_notYetWritten_nextBlock s.sync).mpr pending
  | retried task attempts pc =>
      refine tracked_quiet tracked rfl rfl (fun _ => id) fun sector pending => ?_
      cases task with
      | count => exact nothing pc rfl sector pending
      | copy block =>
          rw [pc] at placed
          rw [notYetWritten_of_pc pc, Pc.notYetWritten, mem_rest, if_pos trivial] at pending
          rw [notYetWritten_of_pc rfl, SyncState.goto]
          simpa only [Pc.notYetWritten, mem_rest, placed.2.2, if_true] using pending
  | tested pc =>
      have same := s.testComplete_frame
      exact tracked_quiet tracked (by rw [same.1]) same.2 (by simp [same.1]) (nothing pc rfl)
  | waited pc => exact tracked_quiet tracked rfl rfl (fun _ => id) (nothing pc rfl)
  | got now interval isVolatile store pc got =>
      obtain ⟨rfl, _⟩ := s.device.store.getInterval_eq_some now got
      exact tracked_quiet tracked rfl rfl (fun _ => id) (nothing pc rfl)
  | removed interval isVolatile now pc => exact tracked_removed tracked pc
  | read block attempts pc =>
      refine tracked_quiet tracked rfl rfl (fun _ => id) fun sector pending => ?_
      rwa [notYetWritten_of_pc pc] at pending
  | readFailed block attempts result what pc partly =>
      exact tracked_throw tracked rfl rfl (fun _ => id)
        fun sector pending => keeps partly sector pending id
  | wrote block attempts buf pc => exact tracked_wrote consistent pc
  | writeFailed block attempts buf pc =>
      exact tracked_throw tracked rfl rfl (fun _ => id)
        fun sector pending => keeps (by simp [SyncState.Interrupted]) sector pending id
  | wroteShort block attempts buf sectors pc short =>
      refine tracked_wroteShort consistent pc (fun sector pending outside => ?_) _
      refine keeps (by simp [SyncState.Interrupted]) sector pending ?_
      simpa only [SyncState.Transfers, pc] using outside
  | updated interval totalBytesSent pc =>
      exact tracked_quiet tracked rfl rfl (fun _ => id) (nothing pc rfl)
  | left outcome pc idle => exact tracked_quiet tracked rfl rfl (fun _ => id) (nothing pc rfl)

/-- The source may change under the synchronizer as long as each sector that changes or
loses its cover is covered afterwards. -/
private theorem consistent_of_covers {device : Device β} (consistent : s.Consistent)
    (forward : 0 ≤ device.store.volatileSeconds)
    (covers : ∀ sector, device.Covered sector ∨
      device.sectors sector = s.device.sectors sector ∧ ¬ s.device.Covered sector) :
    SyncState.Consistent { s with device := device } := by
  have covered {sector : ℕ}
      (before : device.sectors sector = s.device.sectors sector → s.device.Covered sector) :
      device.Covered sector :=
    (covers sector).resolve_right fun other => other.2 (before other.1)
  refine ⟨forward, consistent.placed, ?_, fun sector differs => ?_⟩
  · have buffered := consistent.buffered
    cases pc : s.sync.pc with
    | writing block attempts buf =>
        rw [pc] at buffered
        intro sector differs
        refine covered fun same => buffered sector ?_
        rwa [same] at differs
    | _ => trivial
  · rcases covers sector with now | ⟨same, uncovered⟩
    · exact Or.inl now
    · rw [same] at differs
      exact Or.inr ((consistent.tracked sector differs).resolve_left uncovered)

private theorem consistent_device {e : DeviceEvent β} {device : Device β}
    (consistent : s.Consistent) (taken : s.device.step e = some device) :
    SyncState.Consistent { s with device := device } := by
  have forward := consistent.forward
  refine consistent_of_covers consistent (Device.volatileSeconds_step forward taken ▸ forward)
    fun sector => ?_
  cases e with
  | write trace contents =>
      rw [Device.covered_write taken sector]
      obtain ⟨_, rfl⟩ := Device.write_eq_some.mp taken
      by_cases changed : trace.Covers sector
      · exact Or.inl (Or.inl changed)
      · simp only [changed, false_or, if_false, true_and]
        exact em _
  | deliver index now =>
      rw [Device.covered_deliver forward taken sector]
      obtain ⟨trace, store, _, _, rfl⟩ := Device.deliver_eq_some.mp taken
      simp only [true_and]
      exact em _

end Steps

section Runs

variable {s t : SyncState β} {e : Event β}

theorem volatileSeconds_step (forward : 0 ≤ s.device.store.volatileSeconds)
    (taken : s.step e = some t) :
    t.device.store.volatileSeconds = s.device.store.volatileSeconds := by
  cases e with
  | sync e => exact SyncState.volatileSeconds_doSync (SyncState.doSync_cases taken)
  | unfreeze e =>
      obtain ⟨frozen, thread, rfl⟩ := SyncState.unfreeze_cases taken
      rfl
  | device e =>
      obtain ⟨device, moved, rfl⟩ := Option.map_eq_some_iff.mp taken
      exact Device.volatileSeconds_step forward moved
  | others coordinator =>
      obtain rfl := Option.some.inj taken
      rfl

/-- The other threads do not move the program counter. -/
theorem pc_step (taken : s.step e = some t) (other : ∀ own, e ≠ .sync own) :
    t.sync.pc = s.sync.pc := by
  cases e with
  | sync e => exact absurd rfl (other e)
  | unfreeze e =>
      obtain ⟨frozen, thread, rfl⟩ := SyncState.unfreeze_cases taken
      rfl
  | device e =>
      obtain ⟨device, moved, rfl⟩ := Option.map_eq_some_iff.mp taken
      rfl
  | others coordinator =>
      obtain rfl := Option.some.inj taken
      rfl

theorem placed_step (placed : s.sync.pc.Placed) (taken : s.step e = some t) :
    t.sync.pc.Placed := by
  cases e with
  | sync e => exact placed_doSync placed (SyncState.doSync_cases taken)
  | _ => rwa [pc_step taken (by simp)]

/-- One step keeps the invariant unless it throws away an unwritten rest. -/
theorem consistent_step (consistent : s.Consistent) (keeps : s.ForgetsNothing e)
    (taken : s.step e = some t) : t.Consistent := by
  cases e with
  | sync e =>
      have taken := SyncState.doSync_cases taken
      exact ⟨SyncState.volatileSeconds_doSync taken ▸ consistent.forward,
        placed_doSync consistent.placed taken, buffered_doSync taken,
        tracked_doSync consistent keeps taken⟩
  | unfreeze e =>
      obtain ⟨frozen, thread, rfl⟩ := SyncState.unfreeze_cases taken
      exact ⟨consistent.forward, consistent.placed, consistent.buffered, consistent.tracked⟩
  | device e =>
      obtain ⟨device, moved, rfl⟩ := Option.map_eq_some_iff.mp taken
      exact consistent_device consistent moved
  | others coordinator =>
      obtain rfl := Option.some.inj taken
      exact ⟨consistent.forward, consistent.placed, consistent.buffered, consistent.tracked⟩

private theorem failed_doSync {e : SyncEvent} (taken : s.DoSyncStep e t)
    (failed : s.sync.pc.failed = true) : t.sync.pc.failed = true := by
  cases taken
  case left outcome pc idle =>
    rw [pc] at failed
    cases outcome <;> exact failed
  all_goals
    rw [‹s.sync.pc = _›] at failed
    exact absurd failed Bool.false_ne_true

private theorem interrupted_doSync {e : SyncEvent} (taken : s.DoSyncStep e t)
    (interrupted : s.Interrupted (.sync e)) : t.sync.pc.failed = true := by
  cases taken with
  | tired => rfl
  | stillFrozen task attempts result pc permitted asleep =>
      cases task with
      | count => simp [SyncState.Interrupted, pc] at interrupted
      | copy block =>
          simp only [SyncState.Interrupted, pc, asleep] at interrupted
          rcases interrupted with tired | ⟨idle, _⟩
          · omega
          · cases idle
  | froze task attempts mounted pc permitted idle =>
      cases task with
      | count => simp [SyncState.Interrupted, pc] at interrupted
      | copy block =>
          simp only [SyncState.Interrupted, pc] at interrupted
          rcases interrupted with tired | ⟨_, fails⟩
          · omega
          · exact absurd rfl (fails mounted)
  | freezeFailed => rfl
  | thawFailed => rfl
  | read => exact absurd rfl interrupted
  | readFailed => rfl
  | wrote => exact absurd rfl interrupted
  | writeFailed => rfl
  | wroteShort => rfl
  | _ => exact absurd interrupted id

/-- A step that throws out of the block loop changes no more than what it transfers. -/
private theorem interrupted_frame {e : SyncEvent} (taken : s.DoSyncStep e t)
    (interrupted : s.Interrupted (.sync e)) :
    t.device.sectors = s.device.sectors ∧
      (∀ sector, t.device.Covered sector → s.device.Covered sector) ∧
      ∀ sector, ¬ s.Transfers (.sync e) sector →
        t.sync.destination sector = s.sync.destination sector := by
  cases taken with
  | wroteShort block attempts buf sectors pc short =>
      refine ⟨rfl, fun _ => id, fun sector untouched => ?_⟩
      simp only [SyncState.Transfers, pc] at untouched
      simp [DeviceSynchronizer.written, untouched]
  | wrote => exact absurd rfl interrupted
  | counted => exact absurd interrupted id
  | tested => exact absurd interrupted id
  | got => exact absurd interrupted id
  | removed => exact absurd interrupted id
  | _ => exact ⟨rfl, fun _ => id, fun _ _ => rfl⟩

/-- A step that forgets something leaves a differing sector that nothing remembers. -/
theorem not_tracked_of_forgets (forgets : ¬ s.ForgetsNothing e) (taken : s.step e = some t) :
    ¬ t.Tracked := by
  simp only [SyncState.ForgetsNothing, not_forall, not_or] at forgets
  obtain ⟨interrupted, sector, _, untouched, differs, uncovered⟩ := forgets
  cases e with
  | sync e =>
      have taken := SyncState.doSync_cases taken
      obtain ⟨sectors, covered, destination⟩ := interrupted_frame taken interrupted
      intro tracked
      rcases tracked sector (by rwa [sectors, destination sector untouched]) with known | pending
      · exact uncovered (covered sector known)
      · have failed := interrupted_doSync taken interrupted
        rw [DeviceSynchronizer.notYetWritten] at pending
        cases pc : t.sync.pc <;> rw [pc] at failed pending <;>
          first | cases failed | exact absurd pending.2 (Nat.not_lt_zero sector)
  | _ => exact absurd interrupted id

/-- A call that has not thrown has not been interrupted. -/
theorem working_step (taken : s.step e = some t) (working : t.sync.pc.failed = false) :
    s.sync.pc.failed = false ∧ ¬ s.Interrupted e := by
  cases e with
  | sync e =>
      have taken := SyncState.doSync_cases taken
      refine ⟨?_, fun interrupted => ?_⟩
      · by_contra failed
        simp [failed_doSync taken (by simpa using failed)] at working
      · simp [interrupted_doSync taken interrupted] at working
  | unfreeze e =>
      obtain ⟨frozen, thread, rfl⟩ := SyncState.unfreeze_cases taken
      exact ⟨working, id⟩
  | device e =>
      obtain ⟨device, moved, rfl⟩ := Option.map_eq_some_iff.mp taken
      exact ⟨working, id⟩
  | others coordinator =>
      obtain rfl := Option.some.inj taken
      exact ⟨working, id⟩

theorem consistent_new (coordinator : BackupCoordinator) (device : Device β)
    (blockSize : BlockSize) (destination : ℕ → β) (forward : 0 ≤ device.store.volatileSeconds)
    (covered : ∀ sector, device.sectors sector ≠ destination sector → device.Covered sector) :
    (SyncState.new coordinator device blockSize destination).Consistent :=
  ⟨forward, trivial, trivial, fun sector differs => Or.inl (covered sector differs)⟩

/-- No update is lost: from a state in which every differing sector is in the store
or in flight, every interleaving of writes, deliveries, the unfreeze thread, other
users of the coordinator and the steps of `DoSync` leads to a state in which every
differing sector is in the store, in flight or not yet written, as long as `DoSync`
has not thrown. -/
theorem no_lost_update (coordinator : BackupCoordinator) (device : Device β)
    (blockSize : BlockSize) (destination : ℕ → β) (forward : 0 ≤ device.store.volatileSeconds)
    (covered : ∀ sector, device.sectors sector ≠ destination sector → device.Covered sector)
    (events : List (Event β)) (s : SyncState β)
    (reached : run SyncState.step (.new coordinator device blockSize destination) events = some s)
    (working : s.sync.pc.failed = false) (sector : ℕ)
    (differs : s.device.sectors sector ≠ s.sync.destination sector) :
    s.device.store.Unsynced sector ∨
      (∃ trace ∈ s.device.inFlight, trace.Covers sector) ∨
      sector ∈ s.sync.notYetWritten := by
  have consistent : s.sync.pc.failed = false → s.Consistent :=
    invariant (I := fun s : SyncState β => s.sync.pc.failed = false → s.Consistent)
      (fun _ _ _ before taken working =>
        have ⟨earlier, whole⟩ := working_step taken working
        consistent_step (before earlier) (fun interrupted => absurd interrupted whole) taken)
      (fun _ => consistent_new coordinator device blockSize destination forward covered) reached
  exact or_assoc.mp ((consistent working).tracked sector differs)

end Runs

section Example

/-- A device with three sectors in use, as a full backup finds it. -/
def seededDevice : Device ℕ where
  sectors := fun sector => if sector < 3 then 1 else 0
  store := (UnsyncedSectorStore.new 10).addNonVolatileInterval ⟨0, 3⟩
  inFlight := []
  frozen := false

def blankDestination : ℕ → ℕ := fun _ => 0

/-- A write of one sector. -/
def writeTrace (sector : UInt64) : BlkIoTrace := ⟨sector, 512, blkTcAct blkTcWrite⟩

theorem seededDevice_covered (sector : ℕ)
    (differs : seededDevice.sectors sector ≠ blankDestination sector) :
    seededDevice.Covered sector := by
  have used : sector < 3 := by
    by_contra unused
    simp [seededDevice, blankDestination, unused] at differs
  left
  simp [seededDevice, UnsyncedSectorStore.Unsynced, mem_interval, used]

/-- The first call up to the block loop of the seeded interval. -/
def untilBlockLoop : List (Event ℕ) :=
  [.sync (.openDevices none), .sync .isCancelled, .sync (.unsyncedSectorCount 1000 1000),
    .sync (.beginRequiredFreezeBlock (.froze true)), .unfreeze .setFrozen, .sync .recount,
    .sync .endRequiredFreezeBlock, .sync .testComplete, .unfreeze .clearFrozen,
    .unfreeze (.thaw false), .sync (.getInterval 1003), .sync .removeInterval]

/-- A write between `pread` and `pwrite` of the first of two blocks. -/
def writeDuringCopy : List (Event ℕ) :=
  untilBlockLoop ++
    [.sync (.pread .full), .device (.write (writeTrace 1) fun _ => 7), .sync (.pwrite .full)]

theorem no_lost_update_writeDuringCopy :
    ∃ s, run SyncState.step (.new (.new 1) seededDevice twoSectors blankDestination)
        writeDuringCopy = some s ∧
      (s.device.sectors 1 ≠ s.sync.destination 1 ∧ s.device.sectors 2 ≠ s.sync.destination 2) ∧
      ∀ sector, s.device.sectors sector ≠ s.sync.destination sector →
        s.device.store.Unsynced sector ∨
          (∃ trace ∈ s.device.inFlight, trace.Covers sector) ∨
          sector ∈ s.sync.notYetWritten := by
  have evaluated : (run SyncState.step (.new (.new 1) seededDevice twoSectors blankDestination)
      writeDuringCopy).any (fun s => decide (s.sync.pc.failed = false ∧
        s.device.sectors 1 ≠ s.sync.destination 1 ∧
        s.device.sectors 2 ≠ s.sync.destination 2)) = true := by decide
  obtain ⟨s, reached, facts⟩ := (Option.any_eq_true _ _).mp evaluated
  obtain ⟨working, differ⟩ := of_decide_eq_true facts
  exact ⟨s, reached, differ, no_lost_update (.new 1) seededDevice twoSectors blankDestination
    (by decide) seededDevice_covered writeDuringCopy s reached working⟩

end Example

end LinuxAgent.Synchronizer
