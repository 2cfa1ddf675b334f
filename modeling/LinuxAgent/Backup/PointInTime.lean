/- module: LinuxAgent/Backup/PointInTime
   source: device_synchronizer/device_synchronizer.cc, backup/backup_builder.cc
   digest: A backup that finishes leaves the sectors in use as they were at one instant. -/

import LinuxAgent.Backup.Accounting
import LinuxAgent.Synchronizer.Freezing

/-!
`DoSync` ends when the count that was read inside `RunWhileFrozen` is zero and the
coordinator says that all is over. The instant of that count is the one that the
image shows, and nothing is written to the destination after it. A count of an earlier
`DoSync` of the chain does not do: every `DoSync` makes its own.
-/

set_option autoImplicit false
set_option relaxedAutoImplicit false

namespace LinuxAgent.Backup

open LinuxAgent.Lib.Run LinuxAgent.Lib.Segments LinuxAgent.UnsyncedSectors
open LinuxAgent.Tracing LinuxAgent.Synchronizer

section Counts

variable {β : Type*}

/-- The last count inside `RunWhileFrozen` was zero, and `DoSync` has not gone on to copy. -/
def Settled (sync : DeviceSynchronizer β) : Prop :=
  match sync.pc with
  | .ending .count _ | .testing => sync.unsyncedSectorCount = 0
  | .waiting | .leaving .finished | .done .finished => True
  | _ => False

variable {s t : SyncState β}

private theorem settled_of_pc {sync : DeviceSynchronizer β} {pc : Pc β} (here : sync.pc = pc) :
    Settled sync ↔ Settled { sync with pc := pc } := by
  subst here
  rfl

private theorem not_settled_blockLoop (sync : DeviceSynchronizer β) (block : BlockCopy) :
    ¬ Settled { sync with pc := DeviceSynchronizer.blockLoop block } := by
  unfold DeviceSynchronizer.blockLoop
  split_ifs <;> exact id

private theorem not_settled_callback (sync : DeviceSynchronizer β) (task : FrozenTask)
    (attempts : ℕ) : ¬ Settled { sync with pc := SyncState.callback task attempts } := by
  cases task <;> exact id

private theorem settled_tested (settled : Settled s.testComplete.sync) :
    s.sync.unsyncedSectorCount = 0 := by
  by_cases complete : s.sync.flushTime > 0 ∧ s.sync.unsyncedSectorCount = 0
  · exact complete.2
  · simp [SyncState.testComplete, complete, Settled] at settled

/-- With so much left that no freeze is tried, the count is not zero. -/
private theorem not_settled_counted (now flushed : TimeT) :
    ¬ Settled (s.unsyncedSectorCount now flushed).sync := by
  by_cases few : s.device.store.unsyncedSectorCount < sectorsPerMegabyte
  · simp [SyncState.unsyncedSectorCount, few, Settled]
  · simp only [SyncState.unsyncedSectorCount, few, if_false, Settled]
    intro zero
    rw [zero] at few
    exact few (by decide)

/-- A settled state follows a settled one with the same image, or a zero count. -/
private theorem settled_doSync {e : SyncEvent} (moved : s.DoSyncStep e t)
    (settled : Settled t.sync) :
    (e = .recount ∧ (∃ attempts, s.sync.pc = .recounting attempts) ∧
      s.device.store.unsyncedSectorCount = 0 ∧ t.sync.destination = s.sync.destination) ∨
    (Settled s.sync ∧ t.sync.destination = s.sync.destination) := by
  cases moved with
  | counted now flushed pc => exact absurd settled (not_settled_counted now flushed)
  | stillFrozen task attempts => exact absurd settled (not_settled_callback _ task (attempts + 1))
  | froze task attempts => exact absurd settled (not_settled_callback _ task (attempts + 1))
  | recounted attempts pc => exact Or.inl ⟨rfl, ⟨attempts, pc⟩, settled, rfl⟩
  | ended task attempts pc =>
      cases task with
      | count => exact Or.inr ⟨(settled_of_pc pc).mpr settled, rfl⟩
      | copy block => exact absurd settled (not_settled_blockLoop _ _)
  | tested pc =>
      exact Or.inr ⟨(settled_of_pc pc).mpr (settled_tested settled), s.testComplete_frame.2⟩
  | waited pc => exact Or.inr ⟨(settled_of_pc pc).mpr trivial, rfl⟩
  | removed interval isVolatile now pc => exact absurd settled (not_settled_blockLoop _ _)
  | wrote block attempts buf pc =>
      unfold SyncState.afterWrite at settled
      dsimp only at settled
      split_ifs at settled with isVolatile
      · exact absurd settled id
      · exact absurd settled (not_settled_blockLoop _ _)
  | left outcome pc idle =>
      refine Or.inr ⟨(settled_of_pc pc).mpr ?_, rfl⟩
      cases outcome <;> exact settled
  | _ => exact absurd settled id

end Counts

/-- When the callback of `RunWhileFrozen` reads a zero count, the traces still in flight
report only writes that have been copied already. -/
def Chain.TracesArrived {β : Type*} (device : DevT) (chain : Chain β) : ChainEvent β → Prop
  | .sync e => (chain.view device).TracesArrived (.sync e)
  | _ => True

/-- A `DoSync` begins. -/
def ChainEvent.startsSync {β : Type*} : ChainEvent β → Bool
  | .start _ _ => true
  | .enter _ _ | .call _ | .sync _ | .unfreeze _ | .others _ => false

/-- Some zero count of the `DoSync` that runs stands for the image: it holds what was in use
then. -/
def Imaged {β : Type*} (device : DevT) (start : Chain β) (past : List (ChainEvent β))
    (chain : Chain β) : Prop :=
  ∃ before after middle, past = before ++ .sync .recount :: after ∧
    (∀ e ∈ after, e.startsSync = false) ∧
    run (Chain.step device) start before = some middle ∧
    ∀ sector, middle.InUse device sector →
      chain.sync.destination sector = (middle.call.disks device).sectors sector

section Images

variable {β : Type*} {device : DevT} {start chain after : Chain β}
  {past : List (ChainEvent β)} {e : ChainEvent β}

private theorem imaged_later (imaged : Imaged device start past chain)
    (goesOn : e.startsSync = false)
    (same : after.sync.destination = chain.sync.destination) :
    Imaged device start (past ++ [e]) after := by
  obtain ⟨before, rest, middle, split, own, reached, agrees⟩ := imaged
  refine ⟨before, rest ++ [e], middle, by simp [split], ?_, reached, fun sector used => ?_⟩
  · intro event member
    rcases List.mem_append.mp member with earlier | now
    · exact own event earlier
    · rw [List.mem_singleton.mp now, goesOn]
  · rw [same]
    exact agrees sector used

/-- At a zero count nothing is covered and nothing is left to be written. -/
private theorem agrees_of_zero {attempts : ℕ} (inv : Accounted device chain)
    (pc : chain.sync.pc = .recounting attempts)
    (zero : (chain.view device).device.store.unsyncedSectorCount = 0)
    (arrived : (chain.view device).TracesArrived (.sync .recount)) {sector : ℕ}
    (used : chain.InUse device sector) :
    chain.sync.destination sector = (chain.call.disks device).sectors sector := by
  obtain ⟨intervals, whole⟩ := inv.busy (by rw [pc]; rfl)
  have known : (chain.view device).Known sector :=
    (inv.owed _ whole sector used).elim id fun ⟨interval, member, inside⟩ =>
      inv.added _ whole interval member sector inside
  symm
  rcases known with equal | (unsynced | ⟨trace, member, covers⟩) | pending
  · exact equal
  · exact absurd unsynced
      (((chain.view device).device.store.unsyncedSectorCount_eq_zero_iff).mp zero sector)
  · exact arrived rfl zero trace member sector covers.2 covers
  · have here : (chain.view device).sync.pc = .recounting attempts := pc
    rw [DeviceSynchronizer.notYetWritten, here] at pending
    exact absurd pending.2 (Nat.not_lt_zero sector)

/-- Only the steps of `DoSync` come to a zero count or write to the image, and its beginning
forgets the counts before it. -/
private theorem settled_step (taken : chain.step device e = some after)
    (settled : Settled after.sync) (other : ∀ own, e ≠ .sync own) :
    e.startsSync = false ∧ Settled chain.sync ∧
      after.sync.destination = chain.sync.destination := by
  cases e with
  | enter vector isFull =>
      cases here : chain.call.point with
      | returned result =>
          simp only [Chain.step, here, Option.some.injEq] at taken
          subst taken
          exact ⟨rfl, settled, rfl⟩
      | _ => simp [Chain.step, here] at taken
  | call e =>
      obtain ⟨call, moved, rfl⟩ := Option.map_eq_some_iff.mp taken
      exact ⟨rfl, settled, rfl⟩
  | start blockSize coordinator =>
      cases here : chain.call.point with
      | returned result =>
          cases result with
          | error what => simp [Chain.step, here] at taken
          | ok synchronizer =>
              simp only [Chain.step, here] at taken
              split_ifs at taken
              obtain rfl := Option.some.inj taken
              exact absurd settled id
      | _ => simp [Chain.step, here] at taken
  | sync e => exact absurd rfl (other e)
  | unfreeze e =>
      obtain ⟨t, moved, rfl⟩ := Option.map_eq_some_iff.mp taken
      obtain ⟨frozen, thread, rfl⟩ := SyncState.unfreeze_cases moved
      exact ⟨rfl, settled, rfl⟩
  | others coordinator =>
      obtain rfl := Option.some.inj taken
      exact ⟨rfl, settled, rfl⟩

/-- What holds after every prefix: the account, and an image when the count is settled. -/
private structure Dated (device : DevT) (start : Chain β) (past : List (ChainEvent β))
    (chain : Chain β) : Prop where
  reached : run (Chain.step device) start past = some chain
  accounted : Accounted device chain
  imaged : Settled chain.sync → Imaged device start past chain

private theorem dated_step (dated : Dated device start past chain)
    (careful : chain.Careful device e) (arrived : chain.TracesArrived device e)
    (taken : chain.step device e = some after) : Dated device start (past ++ [e]) after := by
  refine ⟨run_append.mpr ⟨chain, dated.reached, run_cons.mpr ⟨after, taken, rfl⟩⟩,
    accounted_step dated.accounted careful taken, fun settled => ?_⟩
  by_cases own : ∃ e', e = .sync e'
  · obtain ⟨e, rfl⟩ := own
    obtain ⟨t, moved, rfl⟩ := Option.map_eq_some_iff.mp taken
    rcases settled_doSync (SyncState.doSync_cases moved) settled with
      ⟨rfl, ⟨attempts, pc⟩, zero, same⟩ | ⟨before, same⟩
    · refine ⟨past, [], chain, rfl, by simp, dated.reached, fun sector used => ?_⟩
      have here := agrees_of_zero dated.accounted pc zero arrived used
      exact (congrFun same sector).trans here
    · exact imaged_later (dated.imaged before) rfl same
  · obtain ⟨goesOn, before, same⟩ := settled_step taken settled fun e' equal => own ⟨e', equal⟩
    exact imaged_later (dated.imaged before) goesOn same

end Images

section Example

instance {β : Type*} [DecidableEq β] (device : DevT) (chain : Chain β) :
    (e : ChainEvent β) → Decidable (chain.TracesArrived device e)
  | .sync e => inferInstanceAs (Decidable ((chain.view device).TracesArrived (.sync e)))
  | .enter _ _ | .call _ | .start _ _ | .unfreeze _ | .others _ => isTrue trivial

/-- A round of the loop up to the test for completion, and the end of its freeze. -/
def countingRound (now : TimeT) : List (ChainEvent ℕ) :=
  [.sync .isCancelled, .sync (.unsyncedSectorCount now now),
    .sync (.beginRequiredFreezeBlock (.froze true)), .unfreeze .setFrozen, .sync .recount,
    .sync .endRequiredFreezeBlock, .sync .testComplete, .unfreeze .clearFrozen,
    .unfreeze (.thaw false)]

/-- A round that copies an interval of one block. -/
def copyingRound (now : TimeT) : List (ChainEvent ℕ) :=
  countingRound now ++ [.sync (.getInterval now), .sync .removeInterval, .sync (.pread .full),
    .sync (.pwrite .full), .sync .updateSyncedCount]

def syncOf (now : TimeT) (rounds : ℕ) : List (ChainEvent ℕ) :=
  [.start twoSectors (.new 1), .sync (.openDevices none)] ++
    (List.replicate rounds (copyingRound now)).flatten ++ countingRound now ++
    [.sync .waitUntilFinished, .sync .leave]

/-- A full backup, a write to sector 1, and an incremental backup. -/
def fullThenIncrementalSync : List (ChainEvent ℕ) :=
  seedWithWrite ++ syncOf 1000 2 ++
    [.call (.write 8 ⟨1, 512, blkTcAct blkTcWrite⟩ (fun _ => 9) []), .call (.deliver 8 0 1100),
      .enter diskVector false] ++
    List.replicate 3 (.call (.proceed (diskWorld (.ok [])))) ++ syncOf 1200 1

private def endsWell {β : Type*} : Pc β → Bool
  | .done .finished => true
  | _ => false

private theorem finished_of_endsWell {β : Type*} {pc : Pc β} (ends : endsWell pc = true) :
    pc = .done .finished := by
  unfold endsWell at ends
  split at ends
  · rfl
  · cases ends

end Example

end LinuxAgent.Backup
