/- module: LinuxAgent/Synchronizer/BlockLoop
   source: device_synchronizer/device_synchronizer.cc
   digest: Which transfers the block loop issues for an interval, and when the source holds them. -/

import LinuxAgent.Synchronizer.DoSync
import LinuxAgent.UnsyncedSectors.Rounds

/-!
The block loop steps through an interval in blocks that start at its lower bound. Each
round copies a whole block, so the last one goes beyond the interval unless the block
size divides its length. What the loop issues does not depend on the store, on other
threads or on how often a frozen copy is repeated: it is round 0, round 1 and so on, as
far as the interval reaches.
-/

set_option autoImplicit false
set_option relaxedAutoImplicit false

namespace LinuxAgent.Synchronizer

open LinuxAgent.Lib.Run LinuxAgent.Lib.Segments LinuxAgent.UnsyncedSectors

variable {β : Type*}

/-- Round `k` of the block loop for an interval. -/
def BlockCopy.round (blockSize : BlockSize) (interval : SectorInterval) (isVolatile : Bool)
    (k : ℕ) : BlockCopy :=
  ⟨interval, isVolatile, k * blockSize.sectorsPerBlock,
    interval.lower * 512 + k * blockSize.bytes⟩

/-- The block that `DoSync` is about to read or to write. -/
def Pc.transfer : Pc β → Option BlockCopy
  | .reading block _ | .writing block _ _ => some block
  | _ => none

/-- The rounds that the interval has. -/
def rounds (blockSize : BlockSize) (interval : SectorInterval) : ℕ :=
  (interval.cardinality + blockSize.sectorsPerBlock - 1) / blockSize.sectorsPerBlock

/-- The whole blocks from the lower bound on that cover the interval end within the
first `sectors` sectors. -/
def BlocksFit (blockSize : BlockSize) (interval : SectorInterval) (sectors : ℕ) : Prop :=
  interval.upper ≤ interval.lower ∨
    interval.lower + rounds blockSize interval * blockSize.sectorsPerBlock ≤ sectors

/-- What `DoSync` does to the store before the block loop is one round of it. -/
theorem getAndRemove_of_doSync {s t : SyncState β} {now : TimeT}
    (reached : run SyncState.step s [.sync (.getInterval now), .sync .removeInterval] = some t)
    (returned : List SectorInterval) :
    ∃ interval, Handout.getAndRemove ⟨s.device.store, returned⟩ now =
      some ⟨t.device.store, returned ++ [interval]⟩ := by
  obtain ⟨middle, first, rest⟩ := run_cons.mp reached
  obtain ⟨last, second, same⟩ := run_cons.mp rest
  obtain rfl := Option.some.inj same
  have second : middle.DoSyncStep .removeInterval last := SyncState.doSync_cases second
  cases SyncState.doSync_cases first with
  | got _ interval isVolatile store pc found =>
      cases second with
      | removed other _ _ here =>
          obtain ⟨rfl, _⟩ := Pc.removing.inj here
          exact ⟨interval, congrArg (Option.map _) found⟩

namespace SyncState

/-- `t` follows `s` before the loop's end is counted: within one execution of the loop. -/
def Reaches (s t : SyncState β) : Prop :=
  ∃ events, (∀ e ∈ events, e ≠ .sync .updateSyncedCount) ∧ run SyncState.step s events = some t

/-- `DoSync` issues a `pread` or a `pwrite` of the block before the end of the loop. -/
def Issues (s : SyncState β) (block : BlockCopy) : Prop :=
  ∃ t, s.Reaches t ∧ t.sync.pc.transfer = some block

theorem Reaches.refl (s : SyncState β) : s.Reaches s := ⟨[], nofun, rfl⟩

theorem Reaches.trans {s t u : SyncState β} (first : s.Reaches t) (second : t.Reaches u) :
    s.Reaches u := by
  obtain ⟨es, early, reached⟩ := first
  obtain ⟨fs, late, continued⟩ := second
  refine ⟨es ++ fs, fun e member => ?_, run_append.mpr ⟨t, reached, continued⟩⟩
  exact (List.mem_append.mp member).elim (early e) (late e)

theorem Reaches.step {s t : SyncState β} {e : Event β} (other : e ≠ .sync .updateSyncedCount)
    (taken : s.step e = some t) : s.Reaches t :=
  ⟨[e], by simpa using other, run_cons.mpr ⟨t, taken, rfl⟩⟩

/-- The loop for the interval is about to start, is under way or is over. -/
def Looping (blockSize : BlockSize) (interval : SectorInterval) (isVolatile : Bool) :
    Pc β → Prop
  | .removing got flag _ => got = interval ∧ flag = isVolatile
  | .freezing (.copy block) _ | .reading block _ | .writing block _ _
  | .ending (.copy block) _ =>
      ∃ k, block = .round blockSize interval isVolatile k ∧
        k * blockSize.sectorsPerBlock < interval.cardinality
  | .copied _ | .leaving _ | .done _ => True
  | _ => False

end SyncState

section Rounds

variable (blockSize : BlockSize) (interval : SectorInterval) (isVolatile : Bool)

private theorem round_zero :
    BlockCopy.round blockSize interval isVolatile 0 =
      ⟨interval, isVolatile, 0, interval.lower * 512⟩ := by
  simp [BlockCopy.round]

private theorem nextBlock_round {sync : DeviceSynchronizer β} (size : sync.blockSize = blockSize)
    (k : ℕ) :
    sync.nextBlock (.round blockSize interval isVolatile k) =
      DeviceSynchronizer.blockLoop (.round blockSize interval isVolatile (k + 1)) := by
  simp only [DeviceSynchronizer.nextBlock, BlockCopy.round, size, Nat.succ_mul, Nat.add_assoc]

private theorem looping_blockLoop (k : ℕ) :
    SyncState.Looping blockSize interval isVolatile
      (DeviceSynchronizer.blockLoop (.round blockSize interval isVolatile k) : Pc β) := by
  unfold DeviceSynchronizer.blockLoop
  split_ifs with more frozen
  · exact ⟨k, rfl, more⟩
  · exact ⟨k, rfl, more⟩
  · trivial

variable {blockSize interval isVolatile}

private theorem looping_nextBlock {sync : DeviceSynchronizer β} {block : BlockCopy}
    (size : sync.blockSize = blockSize)
    (under : ∃ k, block = .round blockSize interval isVolatile k ∧
      k * blockSize.sectorsPerBlock < interval.cardinality) :
    SyncState.Looping blockSize interval isVolatile (sync.nextBlock block) := by
  obtain ⟨k, rfl, _⟩ := under
  rw [nextBlock_round blockSize interval isVolatile size]
  exact looping_blockLoop blockSize interval isVolatile (k + 1)

private theorem looping_doSync {s t : SyncState β} {e : SyncEvent}
    (size : s.sync.blockSize = blockSize)
    (looping : SyncState.Looping blockSize interval isVolatile s.sync.pc)
    (other : e ≠ .updateSyncedCount) (taken : s.DoSyncStep e t) :
    t.sync.blockSize = blockSize ∧
      SyncState.Looping blockSize interval isVolatile t.sync.pc := by
  cases taken with
  | updated => exact absurd rfl other
  | stillFrozen task attempts result pc | froze task attempts mounted pc
  | retried task attempts pc =>
      rw [pc] at looping
      cases task with
      | count => exact looping.elim
      | copy block => exact ⟨size, looping⟩
  | ended task attempts pc =>
      rw [pc] at looping
      cases task with
      | count => exact looping.elim
      | copy block => exact ⟨size, looping_nextBlock size looping⟩
  | removed got flag now pc =>
      rw [pc] at looping
      obtain ⟨rfl, rfl⟩ := looping
      have first := looping_blockLoop (β := β) blockSize got flag 0
      rw [round_zero] at first
      exact ⟨size, first⟩
  | read block attempts pc =>
      rw [pc] at looping
      exact ⟨size, looping⟩
  | wrote block attempts buf pc =>
      rw [pc] at looping
      refine ⟨size, ?_⟩
      simp only [SyncState.afterWrite]
      split_ifs
      · exact looping
      · exact looping_nextBlock size looping
  | opened pc | cancelled pc | continued pc | counted _ _ pc | recounted _ pc | tested pc
  | waited pc | got _ _ _ _ pc =>
      rw [pc] at looping
      exact looping.elim
  | openFailed | tired | freezeFailed | thawFailed | readFailed | writeFailed | wroteShort
  | left => exact ⟨size, trivial⟩

private theorem looping_step {s t : SyncState β} {e : Event β}
    (inv : s.sync.blockSize = blockSize ∧
      SyncState.Looping blockSize interval isVolatile s.sync.pc)
    (other : e ≠ .sync .updateSyncedCount) (taken : s.step e = some t) :
    t.sync.blockSize = blockSize ∧
      SyncState.Looping blockSize interval isVolatile t.sync.pc := by
  cases e with
  | sync e =>
      exact looping_doSync inv.1 inv.2 (fun same => other (congrArg _ same))
        (SyncState.doSync_cases taken)
  | unfreeze e =>
      obtain ⟨_, _, rfl⟩ := SyncState.unfreeze_cases taken
      exact inv
  | device e =>
      obtain ⟨_, _, rfl⟩ := Option.map_eq_some_iff.mp taken
      exact inv
  | others coordinator =>
      obtain rfl := Option.some.inj taken
      exact inv

/-- The loop issues rounds of the interval and nothing else. -/
private theorem round_of_issues {s : SyncState β} {now : TimeT} {block : BlockCopy}
    (pc : s.sync.pc = .removing interval isVolatile now) (issues : s.Issues block) :
    ∃ k, block = .round s.sync.blockSize interval isVolatile k ∧
      k * s.sync.blockSize.sectorsPerBlock < interval.cardinality := by
  obtain ⟨t, ⟨events, others, reached⟩, transfer⟩ := issues
  have start : SyncState.Looping s.sync.blockSize interval isVolatile s.sync.pc := by
    rw [pc]
    exact ⟨rfl, rfl⟩
  have inv := invariant_along (P := fun _ e => e ≠ .sync .updateSyncedCount)
    (I := fun t : SyncState β => t.sync.blockSize = s.sync.blockSize ∧
      SyncState.Looping s.sync.blockSize interval isVolatile t.sync.pc)
    (fun _ _ _ inv other taken => looping_step inv other taken) ⟨rfl, start⟩
    (along_iff.mpr fun _ e _ _ split _ => others e (by simp [split])) reached
  have looping := inv.2
  unfold Pc.transfer at transfer
  split at transfer
  case h_1 here | h_2 here =>
    rw [here] at looping
    obtain rfl := Option.some.inj transfer
    exact looping
  case h_3 => cases transfer

/-- The caller begins a frozen copy while the device is frozen. -/
private theorem reaches_sleeping {s : SyncState β} {block : BlockCopy}
    (pc : s.sync.pc = .freezing (.copy block) 0) (asleep : s.sync.unfreezeThread = .sleeping) :
    ∃ t, s.Reaches t ∧ t.sync.pc = .reading block 1 ∧ t.sync.unfreezeThread = .sleeping ∧
      t.sync.blockSize = s.sync.blockSize := by
  have begins : s.Reaches (s.goto (.reading block 1)) :=
    .step (e := .sync (.beginRequiredFreezeBlock (.froze true))) nofun (by
      simp [SyncState.step, SyncState.doSync, SyncState.beginRequiredFreezeBlock, pc, asleep,
        SyncState.callback])
  exact ⟨_, begins, rfl, asleep, rfl⟩

/-- The caller has to freeze the device, and the thread sets the flag at once. -/
private theorem reaches_idle {s : SyncState β} {block : BlockCopy}
    (pc : s.sync.pc = .freezing (.copy block) 0) (idle : s.sync.unfreezeThread = .idle) :
    ∃ t, s.Reaches t ∧ t.sync.pc = .reading block 1 ∧ t.sync.unfreezeThread = .sleeping ∧
      t.sync.blockSize = s.sync.blockSize := by
  let frozen : SyncState β :=
    { s with
      device := { s.device with frozen := s.device.frozen || true }
      sync := { s.sync with unfreezeThread := .froze, pc := .reading block 1 } }
  have begins : s.Reaches frozen :=
    .step (e := .sync (.beginRequiredFreezeBlock (.froze true))) nofun (by
      simp [SyncState.step, SyncState.doSync, SyncState.beginRequiredFreezeBlock, pc, idle,
        SyncState.callback, frozen])
  have sleeps : frozen.Reaches
      { frozen with sync := { frozen.sync with unfreezeThread := .sleeping } } :=
    .step (e := .unfreeze .setFrozen) nofun rfl
  exact ⟨_, begins.trans sleeps, rfl, rfl, rfl⟩

/-- Whatever the unfreeze thread is doing, the caller can get at a frozen device. -/
private theorem reaches_frozen {s : SyncState β} {block : BlockCopy}
    (pc : s.sync.pc = .freezing (.copy block) 0) :
    ∃ t, s.Reaches t ∧ t.sync.pc = .reading block 1 ∧ t.sync.unfreezeThread = .sleeping ∧
      t.sync.blockSize = s.sync.blockSize := by
  cases thread : s.sync.unfreezeThread with
  | sleeping => exact reaches_sleeping pc thread
  | idle => exact reaches_idle pc thread
  | froze =>
      let asleep : SyncState β := { s with sync := { s.sync with unfreezeThread := .sleeping } }
      have sleeps : s.Reaches asleep :=
        .step (e := .unfreeze .setFrozen) nofun (by
          simp [SyncState.step, SyncState.unfreeze, thread, asleep])
      obtain ⟨t, reached, here⟩ := reaches_sleeping (s := asleep) pc rfl
      exact ⟨t, sleeps.trans reached, here⟩
  | waking =>
      let thawed : SyncState β :=
        { s with
          device := { s.device with frozen := s.device.frozen && false }
          sync := { s.sync with unfreezeThread := .idle } }
      have thaws : s.Reaches thawed :=
        .step (e := .unfreeze (.thaw false)) nofun (by
          simp [SyncState.step, SyncState.unfreeze, thread, thawed])
      obtain ⟨t, reached, here⟩ := reaches_idle (s := thawed) pc rfl
      exact ⟨t, thaws.trans reached, here⟩

/-- At the head of the loop, a round that the interval has is issued. -/
private theorem reaches_reading {s : SyncState β} {block : BlockCopy}
    (pc : s.sync.pc = DeviceSynchronizer.blockLoop block)
    (more : block.i < block.interval.cardinality) :
    ∃ t attempts, s.Reaches t ∧ t.sync.pc = .reading block attempts ∧
      (block.isVolatile = true → t.sync.unfreezeThread = .sleeping) ∧
      t.sync.blockSize = s.sync.blockSize := by
  unfold DeviceSynchronizer.blockLoop at pc
  rw [if_pos more] at pc
  by_cases frozen : block.isVolatile = true
  · rw [if_pos frozen] at pc
    obtain ⟨t, reached, here, asleep, size⟩ := reaches_frozen pc
    exact ⟨t, 1, reached, here, fun _ => asleep, size⟩
  · rw [if_neg frozen] at pc
    exact ⟨s, 0, .refl s, pc, fun isVolatile => absurd isVolatile frozen, rfl⟩

/-- Full transfers take the loop to the next round. -/
private theorem reaches_nextBlock {s : SyncState β} {block : BlockCopy} {attempts : ℕ}
    (pc : s.sync.pc = .reading block attempts)
    (asleep : block.isVolatile = true → s.sync.unfreezeThread = .sleeping) :
    ∃ t, s.Reaches t ∧ t.sync.pc = s.sync.nextBlock block ∧
      t.sync.blockSize = s.sync.blockSize := by
  let reading : SyncState β := s.goto (.writing block attempts s.device.sectors)
  have reads : s.Reaches reading :=
    .step (e := .sync (.pread .full)) nofun (by
      simp [SyncState.step, SyncState.doSync, pc, reading])
  let written : SyncState β :=
    { s with sync := { s.sync with
      destination := s.sync.written block s.sync.blockSize.bytes s.device.sectors
      pc := s.afterWrite block attempts } }
  have writes : reading.Reaches written := .step (e := .sync (.pwrite .full)) nofun rfl
  by_cases frozen : block.isVolatile = true
  · have place : written.sync.pc = .ending (.copy block) attempts := if_pos frozen
    have ends : written.Reaches (written.goto (s.sync.nextBlock block)) :=
      .step (e := .sync .endRequiredFreezeBlock) nofun (by
        have sleeping : written.sync.unfreezeThread = .sleeping := asleep frozen
        simp only [SyncState.step, SyncState.doSync, place, sleeping]
        rfl)
    exact ⟨_, (reads.trans writes).trans ends, rfl, rfl⟩
  · exact ⟨written, reads.trans writes, if_neg frozen, rfl⟩

/-- The loop gets to the head of each round that the interval reaches. -/
private theorem reaches_round {s : SyncState β} {now : TimeT}
    (pc : s.sync.pc = .removing interval isVolatile now) (k : ℕ)
    (before : ∀ j < k, j * s.sync.blockSize.sectorsPerBlock < interval.cardinality) :
    ∃ t, s.Reaches t ∧
      t.sync.pc = DeviceSynchronizer.blockLoop (.round s.sync.blockSize interval isVolatile k) ∧
      t.sync.blockSize = s.sync.blockSize := by
  induction k with
  | zero =>
      have removes : s.Reaches { s with
          device := { s.device with store := s.device.store.removeInterval interval }
          sync := { s.sync with
            pc := DeviceSynchronizer.blockLoop
              ⟨interval, isVolatile, 0, interval.lower * 512⟩ } } :=
        .step (e := .sync .removeInterval) nofun (by
          simp only [SyncState.step, SyncState.doSync, pc])
      exact ⟨_, removes, by rw [round_zero], rfl⟩
  | succ k ih =>
      obtain ⟨t, reached, head, size⟩ := ih fun j less => before j (by omega)
      obtain ⟨u, attempts, onward, reading, asleep, same⟩ :=
        reaches_reading head (before k (by omega))
      obtain ⟨v, further, next, again⟩ := reaches_nextBlock reading asleep
      refine ⟨v, (reached.trans onward).trans further, ?_, (again.trans same).trans size⟩
      rw [next]
      exact nextBlock_round s.sync.blockSize interval isVolatile (same.trans size) k

/-- What the loop issues: the rounds that begin inside the interval. -/
private theorem issues_iff {s : SyncState β} {now : TimeT}
    (pc : s.sync.pc = .removing interval isVolatile now) (block : BlockCopy) :
    s.Issues block ↔ ∃ k, block = .round s.sync.blockSize interval isVolatile k ∧
      k * s.sync.blockSize.sectorsPerBlock < interval.cardinality := by
  refine ⟨round_of_issues pc, ?_⟩
  rintro ⟨k, rfl, begins⟩
  have before (j : ℕ) (less : j < k) :
      j * s.sync.blockSize.sectorsPerBlock < interval.cardinality :=
    (Nat.mul_le_mul_right _ less.le).trans_lt begins
  obtain ⟨t, reached, head, _⟩ := reaches_round pc k before
  obtain ⟨u, attempts, onward, reading, _⟩ := reaches_reading head begins
  exact ⟨u, reached.trans onward, by rw [reading]; rfl⟩

/-- The last round begins inside the interval and ends at or behind its upper bound. -/
private theorem rounds_spec (blockSize : BlockSize) (interval : SectorInterval) :
    interval.cardinality ≤ rounds blockSize interval * blockSize.sectorsPerBlock ∧
      rounds blockSize interval * blockSize.sectorsPerBlock <
        interval.cardinality + blockSize.sectorsPerBlock := by
  have positive := blockSize.bytes_eq.2
  have below := Nat.div_mul_le_self (interval.cardinality + blockSize.sectorsPerBlock - 1)
    blockSize.sectorsPerBlock
  have above := Nat.lt_div_mul_add positive
    (a := interval.cardinality + blockSize.sectorsPerBlock - 1)
  unfold rounds
  omega

/-- Round `k` ends where `k + 1` blocks from the lower bound on end. -/
private theorem round_inside_iff (blockSize : BlockSize) (interval : SectorInterval)
    (isVolatile : Bool) (k sectors : ℕ) :
    (BlockCopy.round blockSize interval isVolatile k).offset + blockSize.bytes ≤ sectors * 512 ↔
      interval.lower + (k + 1) * blockSize.sectorsPerBlock ≤ sectors := by
  have product : k * (blockSize.sectorsPerBlock * 512) = k * blockSize.sectorsPerBlock * 512 :=
    (Nat.mul_assoc _ _ _).symm
  simp only [BlockCopy.round, blockSize.bytes_eq.1, Nat.succ_mul]
  omega

/-- All rounds stay inside when the last one does. -/
private theorem rounds_inside_iff (blockSize : BlockSize) (interval : SectorInterval)
    (sectors : ℕ) :
    (∀ k, k * blockSize.sectorsPerBlock < interval.cardinality →
      interval.lower + (k + 1) * blockSize.sectorsPerBlock ≤ sectors) ↔
      BlocksFit blockSize interval sectors := by
  obtain ⟨covers, tight⟩ := rounds_spec blockSize interval
  have length : interval.cardinality = interval.upper - interval.lower := rfl
  constructor
  · intro all
    by_cases empty : interval.upper ≤ interval.lower
    · exact .inl empty
    · have nonzero : rounds blockSize interval ≠ 0 := by
        intro zero
        rw [zero] at covers
        omega
      obtain ⟨last, same⟩ := Nat.exists_eq_succ_of_ne_zero nonzero
      rw [same, Nat.succ_mul] at tight
      refine .inr ?_
      rw [same]
      exact all last (by omega)
  · rintro (empty | fits) k begins
    · omega
    · have less : k < rounds blockSize interval :=
        Nat.lt_of_mul_lt_mul_right (begins.trans_le covers)
      have whole : (k + 1) * blockSize.sectorsPerBlock ≤
          rounds blockSize interval * blockSize.sectorsPerBlock :=
        Nat.mul_le_mul_right _ less
      omega

end Rounds

/-- Copies stay inside the source: the transfers that the block loop issues for an
interval lie within the first `sectors` sectors exactly when the whole blocks from the
interval's lower bound on that cover it do. -/
theorem copies_inside_iff (s : SyncState β) (interval : SectorInterval) (isVolatile : Bool)
    (now : TimeT) (pc : s.sync.pc = .removing interval isVolatile now) (sectors : ℕ) :
    (∀ block, s.Issues block → block.offset + s.sync.blockSize.bytes ≤ sectors * 512) ↔
      BlocksFit s.sync.blockSize interval sectors := by
  rw [← rounds_inside_iff]
  constructor
  · intro all k begins
    exact (round_inside_iff _ _ isVolatile k sectors).mp
      (all _ ((issues_iff pc _).mpr ⟨k, rfl, begins⟩))
  · intro all block issues
    obtain ⟨k, rfl, begins⟩ := (issues_iff pc block).mp issues
    exact (round_inside_iff _ _ isVolatile k sectors).mpr (all k begins)

/-- A source of which only the given sectors are unsynced. -/
def unsyncedOnly (interval : SectorInterval) : Device ℕ where
  sectors := fun _ => 1
  store := (UnsyncedSectorStore.new 10).addNonVolatileInterval interval
  inFlight := []
  frozen := false

/-- `DoSync` up to the interval that `GetInterval` returns. -/
def untilGotten : List (Event ℕ) :=
  [.sync (.openDevices none), .sync .isCancelled, .sync (.unsyncedSectorCount 1000 1000),
    .sync (.beginRequiredFreezeBlock (.froze true)), .unfreeze .setFrozen, .sync .recount,
    .sync .endRequiredFreezeBlock, .sync .testComplete, .sync (.getInterval 1000)]

theorem copies_inside_iff_wholeBlocks :
    ∃ s, run SyncState.step (.new (.new 1) (unsyncedOnly ⟨0, 2⟩) twoSectors fun _ => 0)
        untilGotten = some s ∧
      ∀ block, s.Issues block → block.offset + 1024 ≤ 3 * 512 := by
  refine ⟨_, rfl, ?_⟩
  exact (copies_inside_iff _ ⟨0, 2⟩ false 1000 rfl 3).mpr (.inr (by decide))

/-- The last sector of a source of three: the loop reads and writes two sectors there,
and the short read that this has to give ends the backup with an error. -/
theorem lastSector_overruns :
    ∃ s, run SyncState.step (.new (.new 1) (unsyncedOnly ⟨2, 3⟩) twoSectors fun _ => 0)
        untilGotten = some s ∧
      s.sync.pc = .removing ⟨2, 3⟩ false 1000 ∧
      (∃ block, s.Issues block ∧ 3 * 512 < block.offset + s.sync.blockSize.bytes) ∧
      ∃ t, run SyncState.step s [.sync .removeInterval, .sync (.pread (.short 1))] = some t ∧
        t.sync.pc = .leaving (.threw "Unexpected read result") := by
  refine ⟨_, rfl, rfl, ⟨⟨⟨2, 3⟩, false, 0, 1024⟩, ⟨_, ⟨[.sync .removeInterval], ?_, rfl⟩, rfl⟩, ?_⟩,
    _, rfl, rfl⟩
  · simp
  · decide

end LinuxAgent.Synchronizer
