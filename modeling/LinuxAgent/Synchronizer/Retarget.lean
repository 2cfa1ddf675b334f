/- module: LinuxAgent/Synchronizer/Retarget
   source: device_synchronizer/device_synchronizer.cc
   digest: DoSync never reads the destination, so its invariant holds for each sector alone. -/

import LinuxAgent.Synchronizer.Coverage

/-!
The destination is written and never read. A run of `DoSync` is therefore possible
with any image behind the destination, and the two images differ afterwards only
where no block was written. One consequence is used on: a sector that is accounted
for stays so, whatever the other sectors of the image hold.
-/

set_option autoImplicit false
set_option relaxedAutoImplicit false

namespace LinuxAgent.Synchronizer

open LinuxAgent.Lib.Run LinuxAgent.Lib.Segments LinuxAgent.UnsyncedSectors LinuxAgent.Tracing
open LinuxAgent.Backup

variable {β : Type*}

namespace SyncState

/-- The same state with another image behind the destination. -/
def retarget (s : SyncState β) (image : ℕ → β) : SyncState β :=
  { s with sync := { s.sync with destination := image } }

/-- The step writes the sector of the destination. -/
def Writes (s : SyncState β) (e : Event β) (sector : ℕ) : Prop :=
  match e, s.sync.pc with
  | .sync (.pwrite .full), .writing block _ _ =>
      DeviceSynchronizer.Within block s.sync.blockSize.bytes sector
  | .sync (.pwrite (.short sectors)), .writing block _ _ =>
      DeviceSynchronizer.Within block (sectors * 512) sector
  | _, _ => False

/-- No step of the run writes the sector. -/
def Spares (s : SyncState β) (events : List (Event β)) (sector : ℕ) : Prop :=
  Along SyncState.step (fun s e => ¬ s.Writes e sector) s events

/-- The sector is the same on both sides, or covered, or still to be written. -/
def Known (s : SyncState β) (sector : ℕ) : Prop :=
  s.device.sectors sector = s.sync.destination sector ∨ s.device.Covered sector ∨
    sector ∈ s.sync.notYetWritten

/-- The part of the invariant of the sync loop that does not speak of the destination. -/
structure Sound (s : SyncState β) : Prop where
  forward : 0 ≤ s.device.store.volatileSeconds
  placed : s.sync.pc.Placed
  buffered : s.sync.pc.Buffered s.device

end SyncState

section Steps

variable {s t : SyncState β} {e : Event β} {image : ℕ → β}

/-- The same step from the other image, and what it makes of the two images. -/
structure Mirrors (s : SyncState β) (e : Event β) (t : SyncState β) (image after : ℕ → β) :
    Prop where
  taken : (s.retarget image).step e = some (t.retarget after)
  written : ∀ sector, s.Writes e sector → after sector = t.sync.destination sector
  spared : ∀ sector, ¬ s.Writes e sector →
    after sector = image sector ∧ t.sync.destination sector = s.sync.destination sector

private theorem mirrors_quiet (taken : (s.retarget image).step e = some (t.retarget image))
    (same : t.sync.destination = s.sync.destination)
    (quiet : ∀ sector, ¬ s.Writes e sector) : Mirrors s e t image image :=
  ⟨taken, fun sector writes => absurd writes (quiet sector), fun _ _ => ⟨rfl, by rw [same]⟩⟩

private theorem retarget_written {block : BlockCopy} {bytes : ℕ} {buf : ℕ → β}
    (taken : (s.retarget image).step e =
      some (t.retarget ((s.retarget image).sync.written block bytes buf)))
    (written : t.sync.destination = s.sync.written block bytes buf)
    (writes : ∀ sector, s.Writes e sector ↔ DeviceSynchronizer.Within block bytes sector) :
    Mirrors s e t image ((s.retarget image).sync.written block bytes buf) := by
  refine ⟨taken, fun sector inside => ?_, fun sector outside => ?_⟩
  · rw [writes] at inside
    simp only [written, DeviceSynchronizer.written, inside, if_true]
  · rw [writes] at outside
    simp [written, DeviceSynchronizer.written, outside, SyncState.retarget]

private theorem retarget_counted (now flushed : TimeT) :
    (s.retarget image).unsyncedSectorCount now flushed =
      (s.unsyncedSectorCount now flushed).retarget image := by
  unfold SyncState.unsyncedSectorCount SyncState.retarget
  dsimp only
  split_ifs <;> rfl

private theorem retarget_tested :
    (s.retarget image).testComplete = s.testComplete.retarget image := by
  unfold SyncState.testComplete SyncState.retarget
  dsimp only
  split_ifs <;> rfl

private theorem retarget_beginRequiredFreezeBlock (task : FrozenTask) (attempts : ℕ)
    (result : FreezeResult) :
    (s.retarget image).beginRequiredFreezeBlock task attempts result =
      (s.beginRequiredFreezeBlock task attempts result).map (·.retarget image) := by
  have thread : (s.retarget image).sync.unfreezeThread = s.sync.unfreezeThread := rfl
  unfold SyncState.beginRequiredFreezeBlock
  rw [thread]
  split_ifs
  · rfl
  · cases s.sync.unfreezeThread <;> cases result <;> rfl

/-- Apart from `pwrite`, a step of `DoSync` does the same whatever the image holds. -/
private theorem retarget_doSync {e : SyncEvent} (moved : s.DoSyncStep e t)
    (quiet : ∀ result, e ≠ .pwrite result) :
    (s.retarget image).doSync e = (s.doSync e).map (·.retarget image) := by
  have point : (s.retarget image).sync.pc = s.sync.pc := rfl
  cases moved with
  | wrote | writeFailed | wroteShort => exact absurd rfl (quiet _)
  | counted now flushed pc =>
      simp only [SyncState.doSync, point, pc, retarget_counted, Option.map_some]
  | tested pc => simp only [SyncState.doSync, point, pc, retarget_tested, Option.map_some]
  | tired _ _ _ pc | stillFrozen _ _ _ pc | froze _ _ _ pc | freezeFailed _ _ _ pc
  | thawFailed _ _ _ pc =>
      simp only [SyncState.doSync, point, pc, retarget_beginRequiredFreezeBlock]
  | got now interval isVolatile store pc got =>
      simp only [SyncState.doSync, pc, got, SyncState.retarget, Option.map_some]
  | left outcome pc idle =>
      have thread : (s.retarget image).sync.unfreezeThread = .idle := idle
      simp only [SyncState.doSync, point, pc, thread, idle, if_true]
      rfl
  | readFailed block attempts result what pc partly =>
      cases result <;> simp only [SyncState.doSync, point, pc] <;> rfl
  | _ =>
      simp only [SyncState.doSync, point, ‹s.sync.pc = _›]
      rfl

private theorem destination_doSync {e : SyncEvent} (moved : s.DoSyncStep e t)
    (quiet : ∀ result, e ≠ .pwrite result) : t.sync.destination = s.sync.destination := by
  cases moved with
  | wrote | writeFailed | wroteShort => exact absurd rfl (quiet _)
  | counted now flushed pc => exact (s.unsyncedSectorCount_frame now flushed).2
  | tested pc => exact s.testComplete_frame.2
  | _ => rfl

private theorem mirrors_doSync {e : SyncEvent} (taken : s.doSync e = some t) (image : ℕ → β) :
    ∃ after, Mirrors s (.sync e) t image after := by
  have point : (s.retarget image).sync.pc = s.sync.pc := rfl
  have moved := SyncState.doSync_cases taken
  by_cases quiet : ∀ result, e ≠ .pwrite result
  · refine ⟨image, mirrors_quiet ?_ (destination_doSync moved quiet) fun sector writes => ?_⟩
    · rw [SyncState.step, retarget_doSync moved quiet, taken, Option.map_some]
    · unfold SyncState.Writes at writes
      split at writes
      next same _ => exact quiet _ (Event.sync.inj same)
      next same _ => exact quiet _ (Event.sync.inj same)
      next => exact writes
  · simp only [not_forall, not_not] at quiet
    obtain ⟨result, rfl⟩ := quiet
    cases moved with
    | wrote block attempts buf pc =>
        refine ⟨_, retarget_written ?_ rfl fun sector => by simp only [SyncState.Writes, pc]⟩
        simp only [SyncState.step, SyncState.doSync, point, pc]
        rfl
    | writeFailed block attempts buf pc =>
        refine ⟨image, mirrors_quiet ?_ rfl fun sector => id⟩
        simp only [SyncState.step, SyncState.doSync, point, pc]
        rfl
    | wroteShort block attempts buf sectors pc short =>
        refine ⟨_, retarget_written ?_ rfl fun sector => by simp only [SyncState.Writes, pc]⟩
        simp only [SyncState.step, SyncState.doSync, point, pc]
        exact if_pos short

/-- Every step is possible with every image behind the destination. -/
theorem mirrors_step (taken : s.step e = some t) (image : ℕ → β) :
    ∃ after, Mirrors s e t image after := by
  cases e with
  | sync e => exact mirrors_doSync taken image
  | unfreeze e =>
      refine ⟨image, mirrors_quiet ?_ ?_ fun sector => id⟩
      · have same : (s.retarget image).unfreeze e = (s.unfreeze e).map (·.retarget image) := by
          unfold SyncState.unfreeze SyncState.retarget
          cases e <;> cases s.sync.unfreezeThread <;> rfl
        rw [SyncState.step, same, show s.unfreeze e = some t from taken, Option.map_some]
      · obtain ⟨frozen, thread, rfl⟩ := SyncState.unfreeze_cases taken
        rfl
  | device e =>
      obtain ⟨device, moved, rfl⟩ := Option.map_eq_some_iff.mp taken
      refine ⟨image, mirrors_quiet ?_ rfl fun sector => id⟩
      exact Option.map_eq_some_iff.mpr ⟨device, moved, rfl⟩
  | others coordinator =>
      obtain rfl := Option.some.inj taken
      exact ⟨image, mirrors_quiet rfl rfl fun sector => id⟩

end Steps

section Runs

variable {s t : SyncState β} {e : Event β}

/-- What a run makes of a second image: the sectors that it writes hold the same
afterwards, and so do those that held the same before. -/
private theorem mirrors_run {events : List (Event β)}
    (reached : run SyncState.step s events = some t) (image : ℕ → β) :
    ∃ after, run SyncState.step (s.retarget image) events = some (t.retarget after) ∧
      ∀ sector,
        (s.Spares events sector →
          after sector = image sector ∧ t.sync.destination sector = s.sync.destination sector) ∧
        (image sector = s.sync.destination sector ∨ ¬ s.Spares events sector →
          after sector = t.sync.destination sector) := by
  induction events generalizing s image with
  | nil =>
      obtain rfl := Option.some.inj reached
      refine ⟨image, rfl, fun sector => ⟨fun _ => ⟨rfl, rfl⟩, fun same => ?_⟩⟩
      exact same.resolve_right fun written => written trivial
  | cons e events ih =>
      obtain ⟨middle, taken, rest⟩ := run_cons.mp reached
      obtain ⟨between, first⟩ := mirrors_step taken image
      obtain ⟨after, later, sectors⟩ := ih rest between
      refine ⟨after, run_cons.mpr ⟨_, first.taken, later⟩, fun sector => ⟨?_, fun same => ?_⟩⟩
      · rintro ⟨spared, further⟩
        have here := first.spared sector spared
        have onwards := (sectors sector).1 (further middle taken)
        exact ⟨onwards.1.trans here.1, onwards.2.trans here.2⟩
      · refine (sectors sector).2 ?_
        by_cases writes : s.Writes e sector
        · exact Or.inl (first.written sector writes)
        · have here := first.spared sector writes
          refine same.imp (fun equal => by rw [here.1, here.2, equal]) fun written further => ?_
          refine written ⟨writes, fun other again => ?_⟩
          obtain rfl := Option.some.inj (taken.symm.trans again)
          exact further

/-- The course of a sync does not depend on what the destination holds: with any other
image behind it the same events lead to the same state, and the two images agree
wherever a block was written and are as they were everywhere else. -/
theorem sync_ignores_destination (start last : SyncState β) (image : ℕ → β)
    (events : List (Event β)) (reached : run SyncState.step start events = some last) :
    ∃ after, run SyncState.step (start.retarget image) events = some (last.retarget after) ∧
      ∀ sector,
        (start.Spares events sector → after sector = image sector ∧
          last.sync.destination sector = start.sync.destination sector) ∧
        (¬ start.Spares events sector → after sector = last.sync.destination sector) := by
  obtain ⟨after, same, sectors⟩ := mirrors_run reached image
  exact ⟨after, same, fun sector =>
    ⟨(sectors sector).1, fun written => (sectors sector).2 (Or.inr written)⟩⟩

private theorem consistent_retarget (sound : s.Sound) (image : ℕ → β)
    (tracked : (s.retarget image).Tracked) : (s.retarget image).Consistent :=
  ⟨sound.forward, sound.placed, sound.buffered, tracked⟩

/-- With the source itself as the image there is nothing to forget. -/
theorem syncSound_step (sound : s.Sound) (taken : s.step e = some t) : t.Sound := by
  obtain ⟨after, mirrored⟩ := mirrors_step taken s.device.sectors
  have consistent := consistent_retarget sound s.device.sectors fun _ differs => absurd rfl differs
  have next := consistent_step consistent (fun _ _ _ _ => Or.inl rfl) mirrored.taken
  exact ⟨next.forward, next.placed, next.buffered⟩

/-- The source, and the destination at one sector. -/
private def onlyAt (s : SyncState β) (sector : ℕ) : ℕ → β :=
  fun other => if other = sector then s.sync.destination other else s.device.sectors other

private theorem tracked_onlyAt {sector : ℕ} (known : s.Known sector) :
    (s.retarget (onlyAt s sector)).Tracked := by
  intro other differs
  by_cases same : other = sector
  · subst same
    exact known.resolve_left fun equal => differs (equal.trans (if_pos rfl).symm)
  · exact absurd (if_neg same).symm differs

private theorem forgetsNothing_onlyAt (keeps : s.ForgetsNothing e) (sector : ℕ) :
    (s.retarget (onlyAt s sector)).ForgetsNothing e := by
  intro interrupted other pending untouched
  by_cases same : other = sector
  · refine (keeps interrupted other pending untouched).imp_left fun equal => ?_
    exact equal.trans (if_pos same).symm
  · exact Or.inl (if_neg same).symm

/-- A sector stays accounted for, whatever the rest of the image is like: the rest is
replaced by the source, and the invariant of the sync loop speaks of this sector alone. -/
theorem sectorKnown_step (sound : s.Sound) (keeps : s.ForgetsNothing e) (taken : s.step e = some t)
    {sector : ℕ} (known : s.Known sector) : t.Known sector := by
  obtain ⟨after, mirrored⟩ := mirrors_step taken (onlyAt s sector)
  have consistent := consistent_retarget sound _ (tracked_onlyAt known)
  have next := consistent_step consistent (forgetsNothing_onlyAt keeps sector) mirrored.taken
  have agrees : after sector = t.sync.destination sector := by
    by_cases writes : s.Writes e sector
    · exact mirrored.written sector writes
    · obtain ⟨left, right⟩ := mirrored.spared sector writes
      rw [left, right]
      exact if_pos rfl
  by_cases equal : t.device.sectors sector = t.sync.destination sector
  · exact Or.inl equal
  · exact Or.inr (next.tracked sector fun same => equal (same.trans agrees))

end Runs

section Example

/-- With an old image behind the destination the interrupted copy takes the same course. -/
theorem sync_ignores_destination_writeDuringCopy :
    ∃ last, run SyncState.step (.new (.new 1) seededDevice twoSectors blankDestination)
        writeDuringCopy = some last ∧
      ∃ after, run SyncState.step (.new (.new 1) seededDevice twoSectors fun _ => 5)
        writeDuringCopy = some (last.retarget after) := by
  have completes : (run SyncState.step (.new (.new 1) seededDevice twoSectors blankDestination)
      writeDuringCopy).isSome = true := by decide
  obtain ⟨last, reached⟩ := Option.isSome_iff_exists.mp completes
  obtain ⟨after, same, _⟩ := sync_ignores_destination _ last (fun _ => 5) writeDuringCopy reached
  exact ⟨last, reached, after, same⟩

end Example

end LinuxAgent.Synchronizer
