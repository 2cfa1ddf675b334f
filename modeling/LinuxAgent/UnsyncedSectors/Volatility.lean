/- module: LinuxAgent/UnsyncedSectors/Volatility
   source: unsynced_sector_manager/unsynced_sector_store.{h,cc},
     unsynced_sector_manager/timed_sector_map.h
   digest: The recorded epoch of every sector after any calls, and what GetInterval says of it. -/

import LinuxAgent.UnsyncedSectors.Conservation
import Mathlib.Order.Bounds.Basic

/-!
The epoch that the store records for a sector is a function of the calls alone:
the largest epoch of the additions that no later removal or clear covered, in
whatever order they came. The segments of the map group sectors of one epoch,
so an interval has one epoch, and `GetInterval` tests it against the clock.
-/

set_option autoImplicit false
set_option relaxedAutoImplicit false

namespace LinuxAgent.UnsyncedSectors

open LinuxAgent.Lib.Run LinuxAgent.Lib.Segments

namespace StoreCall

/-- The epoch that a call records for the sectors it adds. -/
def recorded : StoreCall → Option TimeT
  | .addInterval _ epoch => some epoch
  | .addNonVolatileInterval _ => some 1
  | _ => none

/-- A removal or clear that covers the sector. -/
def Drops (sector : ℕ) : StoreCall → Prop
  | .removeInterval interval => sector ∈ interval
  | .clearIntervals => True
  | _ => False

/-- The calls that pass their `CHECK_GT`. -/
def Admissible (volatileSeconds : ℤ) : StoreCall → Prop
  | .addInterval _ epoch => epoch > volatileSeconds
  | .getInterval epoch => epoch > volatileSeconds
  | _ => True

instance (volatileSeconds : ℤ) (c : StoreCall) : Decidable (c.Admissible volatileSeconds) := by
  cases c <;> unfold Admissible <;> infer_instance

end StoreCall

/-- The call `c` added the sector, and no later call dropped it. -/
def Pending (calls : List StoreCall) (sector : ℕ) (c : StoreCall) : Prop :=
  ∃ before after, calls = before ++ c :: after ∧ c.Adds sector ∧ ∀ d ∈ after, ¬ d.Drops sector

/-- The epochs of the additions of a sector since it was last dropped. -/
def recordedEpochs (calls : List StoreCall) (sector : ℕ) : Set TimeT :=
  {epoch | ∃ c, Pending calls sector c ∧ c.recorded = some epoch}

open UnsyncedSectorStore (call new)

section Histories

variable {past : List StoreCall} {sector : ℕ} {c d : StoreCall}

private theorem not_drops_of_adds (adds : c.Adds sector) : ¬ c.Drops sector := by
  cases c with
  | addInterval _ _ => exact id
  | addNonVolatileInterval _ => exact id
  | removeInterval _ | getInterval _ | clearIntervals | clearSyncHistory
  | reInsertSyncHistory => exact adds.elim

private theorem recorded_of_adds (adds : c.Adds sector) : ∃ epoch, c.recorded = some epoch := by
  cases c with
  | addInterval _ epoch => exact ⟨epoch, rfl⟩
  | addNonVolatileInterval _ => exact ⟨1, rfl⟩
  | removeInterval _ | getInterval _ | clearIntervals | clearSyncHistory
  | reInsertSyncHistory => exact adds.elim

/-- What one more call does to the pending additions. -/
private theorem pending_concat :
    Pending (past ++ [c]) sector d ↔
      (d = c ∧ c.Adds sector) ∨ (¬ c.Drops sector ∧ Pending past sector d) := by
  constructor
  · rintro ⟨before, after, split, adds, kept⟩
    rcases List.eq_nil_or_concat' after with rfl | ⟨after, last, rfl⟩
    · obtain ⟨_, same⟩ := List.append_inj' split rfl
      obtain rfl := List.singleton_inj.mp same
      exact Or.inl ⟨rfl, adds⟩
    · rw [← List.cons_append, ← List.append_assoc] at split
      obtain ⟨rfl, same⟩ := List.append_inj' split rfl
      obtain rfl := List.singleton_inj.mp same
      exact Or.inr ⟨kept c (by simp), before, after, rfl, adds,
        fun e member => kept e (List.mem_append_left _ member)⟩
  · rintro (⟨rfl, adds⟩ | ⟨keeps, before, after, rfl, adds, kept⟩)
    · exact ⟨past, [], rfl, adds, by simp⟩
    · refine ⟨before, after ++ [c], by simp, adds, fun e member => ?_⟩
      rcases List.mem_append.mp member with earlier | here
      · exact kept e earlier
      · rwa [List.mem_singleton.mp here]

private theorem recordedEpochs_adds {epoch : TimeT} (adds : c.Adds sector)
    (records : c.recorded = some epoch) :
    recordedEpochs (past ++ [c]) sector = insert epoch (recordedEpochs past sector) := by
  ext e
  constructor
  · rintro ⟨d, pending, records'⟩
    rcases pending_concat.mp pending with ⟨rfl, _⟩ | ⟨_, earlier⟩
    · exact Or.inl (Option.some.inj (records'.symm.trans records))
    · exact Or.inr ⟨d, earlier, records'⟩
  · rintro (rfl | ⟨d, earlier, records'⟩)
    · exact ⟨c, pending_concat.mpr (Or.inl ⟨rfl, adds⟩), records⟩
    · exact ⟨d, pending_concat.mpr (Or.inr ⟨not_drops_of_adds adds, earlier⟩), records'⟩

private theorem recordedEpochs_drops (drops : c.Drops sector) :
    recordedEpochs (past ++ [c]) sector = ∅ := by
  refine Set.eq_empty_iff_forall_notMem.mpr ?_
  rintro e ⟨d, pending, _⟩
  rcases pending_concat.mp pending with ⟨_, adds⟩ | ⟨keeps, _⟩
  · exact not_drops_of_adds adds drops
  · exact keeps drops

private theorem recordedEpochs_keeps (quiet : ¬ c.Adds sector) (keeps : ¬ c.Drops sector) :
    recordedEpochs (past ++ [c]) sector = recordedEpochs past sector := by
  ext e
  simp [recordedEpochs, pending_concat, quiet, keeps]

private theorem recordedEpochs_nonempty :
    (recordedEpochs past sector).Nonempty ↔ ∃ c, Pending past sector c := by
  constructor
  · rintro ⟨_, c, pending, _⟩
    exact ⟨c, pending⟩
  · rintro ⟨c, pending⟩
    have ⟨_, _, _, adds, _⟩ := pending
    obtain ⟨epoch, records⟩ := recorded_of_adds adds
    exact ⟨epoch, c, pending, records⟩

end Histories

/-- The epoch of a sector before and after a call: raised by an addition, gone after a
drop, and otherwise the same. -/
inductive EpochStep (sector : ℕ) (c : StoreCall) (before : Option TimeT) : Option TimeT → Prop
  | adds (epoch : TimeT) : c.Adds sector → c.recorded = some epoch →
      EpochStep sector c before (some (before.elim epoch fun recorded => max recorded epoch))
  | drops : c.Drops sector → EpochStep sector c before none
  | keeps : ¬ c.Adds sector → ¬ c.Drops sector → EpochStep sector c before before

/-- The greatest element of a set of epochs, if it has one. -/
def MaximumOf (epochs : Set TimeT) : Option TimeT → Prop
  | none => epochs = ∅
  | some epoch => IsGreatest epochs epoch

private theorem MaximumOf.isSome_iff {epochs : Set TimeT} {recorded : Option TimeT}
    (maximum : MaximumOf epochs recorded) : recorded.isSome ↔ epochs.Nonempty := by
  cases recorded with
  | none =>
      rw [show epochs = ∅ from maximum]
      simp
  | some epoch => exact iff_of_true rfl (IsGreatest.nonempty maximum)

private theorem MaximumOf.eq_some_iff {epochs : Set TimeT} {recorded : Option TimeT}
    {epoch : TimeT} (maximum : MaximumOf epochs recorded) :
    recorded = some epoch ↔ IsGreatest epochs epoch := by
  cases recorded with
  | none =>
      rw [show epochs = ∅ from maximum]
      exact iff_of_false nofun fun greatest => greatest.1
  | some found =>
      constructor
      · intro same
        obtain rfl := Option.some.inj same
        exact maximum
      · intro greatest
        exact congrArg some (IsGreatest.unique maximum greatest)

section Steps

variable {store after : UnsyncedSectorStore} {c : StoreCall} {sector : ℕ}

/-- An addition of the map, as the store's calls make it: the epoch is positive. -/
private theorem epochStep_add {interval : SectorInterval} {epoch : TimeT} (positive : 0 < epoch)
    (adds : sector ∈ interval ↔ c.Adds sector) (records : c.recorded = some epoch)
    (keeps : ¬ c.Drops sector) :
    EpochStep sector c (store.unsyncedSectorMap.lookup sector)
      ((TimedSectorMap.add store.unsyncedSectorMap interval epoch).lookup sector) := by
  rw [UnsyncedSectorStore.epochOf_add]
  split_ifs with added
  · exact .adds epoch (adds.mp added.2) records
  · exact .keeps (fun here => added ⟨positive.ne', adds.mpr here⟩) keeps

private theorem epochStep_call (nonnegative : 0 ≤ store.volatileSeconds)
    (taken : store.call c = some after) :
    EpochStep sector c (store.epochOf sector) (after.epochOf sector) := by
  cases c with
  | addInterval interval epoch =>
      obtain ⟨passed, rfl⟩ := (store.addInterval_eq_some interval epoch).mp taken
      exact epochStep_add (nonnegative.trans_lt passed) Iff.rfl rfl id
  | addNonVolatileInterval interval =>
      obtain rfl := Option.some.inj taken
      exact epochStep_add Int.one_pos Iff.rfl rfl id
  | removeInterval interval =>
      obtain rfl := Option.some.inj taken
      rw [store.epochOf_removeInterval]
      split_ifs with inside
      · exact .drops inside
      · exact .keeps id inside
  | getInterval epoch =>
      obtain ⟨cursor, rfl⟩ := call_getInterval taken
      exact .keeps id id
  | clearIntervals =>
      obtain rfl := Option.some.inj taken
      exact .drops trivial
  | clearSyncHistory =>
      obtain rfl := Option.some.inj taken
      exact .keeps id id
  | reInsertSyncHistory =>
      obtain rfl := Option.some.inj taken
      rw [store.reInsertSyncHistory_eq]
      exact .keeps id id

private theorem volatileSeconds_call (taken : store.call c = some after) :
    after.volatileSeconds = store.volatileSeconds := by
  cases c with
  | addInterval interval epoch =>
      obtain ⟨_, rfl⟩ := (store.addInterval_eq_some interval epoch).mp taken
      rfl
  | getInterval epoch =>
      obtain ⟨cursor, rfl⟩ := call_getInterval taken
      rfl
  | addNonVolatileInterval _ | removeInterval _ | clearIntervals | clearSyncHistory
  | reInsertSyncHistory =>
      obtain rfl := Option.some.inj taken
      rfl

private theorem exists_call (passes : c.Admissible store.volatileSeconds) :
    ∃ after, store.call c = some after := by
  cases c with
  | addInterval interval epoch => exact ⟨_, if_pos passes⟩
  | getInterval epoch =>
      have got : store.getInterval epoch = some _ := if_pos passes
      exact ⟨_, congrArg (Option.map Prod.snd) got⟩
  | addNonVolatileInterval _ | removeInterval _ | clearIntervals | clearSyncHistory
  | reInsertSyncHistory => exact ⟨_, rfl⟩

/-- The recorded epoch stays the maximum of the pending additions. -/
private theorem maximumOf_step {past : List StoreCall} {before next : Option TimeT}
    (maximum : MaximumOf (recordedEpochs past sector) before)
    (moved : EpochStep sector c before next) :
    MaximumOf (recordedEpochs (past ++ [c]) sector) next := by
  cases moved with
  | adds epoch adds records =>
      rw [recordedEpochs_adds adds records]
      cases before with
      | none =>
          rw [show recordedEpochs past sector = ∅ from maximum, insert_empty_eq]
          exact isGreatest_singleton
      | some recorded =>
          have raised := IsGreatest.insert epoch (show IsGreatest _ recorded from maximum)
          rw [max_comm] at raised
          exact raised
  | drops drops => exact recordedEpochs_drops drops
  | keeps quiet keeps =>
      rw [recordedEpochs_keeps quiet keeps]
      exact maximum

/-- Admissible calls do not abort, and leave every sector with the maximum of its
pending additions. -/
private theorem maximumOf_run {volatileSeconds : ℤ} (nonnegative : 0 ≤ volatileSeconds)
    {calls : List StoreCall} (admissible : ∀ c ∈ calls, c.Admissible volatileSeconds) :
    ∃ store, run call (new volatileSeconds) calls = some store ∧
      store.volatileSeconds = volatileSeconds ∧
      ∀ sector, MaximumOf (recordedEpochs calls sector) (store.epochOf sector) := by
  have takes (store : UnsyncedSectorStore) (c : StoreCall)
      (same : store.volatileSeconds = volatileSeconds) (passes : c.Admissible volatileSeconds) :
      ∃ after, store.call c = some after ∧ after.volatileSeconds = volatileSeconds := by
    obtain ⟨after, taken⟩ := exists_call (same.symm ▸ passes)
    exact ⟨after, taken, (volatileSeconds_call taken).trans same⟩
  obtain ⟨store, reached, same⟩ := completes_of (s := new volatileSeconds) takes rfl admissible
  have carried := history (I := fun past (store : UnsyncedSectorStore) =>
      store.volatileSeconds = volatileSeconds ∧
        ∀ sector, MaximumOf (recordedEpochs past sector) (store.epochOf sector))
    (fun past store c after inv taken => ⟨(volatileSeconds_call taken).trans inv.1,
      fun sector => maximumOf_step (inv.2 sector)
        (epochStep_call (inv.1.symm ▸ nonnegative) taken)⟩)
    ⟨rfl, fun sector => by
      refine Set.eq_empty_iff_forall_notMem.mpr ?_
      rintro epoch ⟨c, ⟨before, after, split, _⟩, _⟩
      simp at split⟩ reached
  exact ⟨store, reached, same, carried.2⟩

end Steps

section Answers

variable {store : UnsyncedSectorStore} {calls : List StoreCall} {sector : ℕ} {epoch : TimeT}

/-- On a store that is not empty `GetInterval` returns sectors of one epoch. -/
private theorem getInterval_of_unsynced {now : TimeT} (passed : now > store.volatileSeconds)
    (unsynced : store.Unsynced sector) :
    ∃ output modified after,
      store.getInterval now =
        some ((output, decide (modified > now - store.volatileSeconds)), after) ∧
      output.lower < output.upper ∧ ∀ k ∈ output, store.epochOf k = some modified := by
  obtain ⟨epoch, recorded⟩ := Option.isSome_iff_exists.mp unsynced
  obtain ⟨interval, segment, _⟩ := store.unsyncedSectorMap.exists_segment recorded
  cases chosen : store.nextSegment with
  | none => simp [store.nextSegment_eq_none.mp chosen] at segment
  | some pair =>
      obtain ⟨output, modified⟩ := pair
      have member := store.nextSegment_mem chosen
      exact ⟨output, modified, _, store.getInterval_of_nextSegment now passed chosen,
        store.unsyncedSectorMap.nonempty _ member,
        fun k inside => store.unsyncedSectorMap.lookup_of_segment member inside⟩

/-- A sector with only non-volatile additions has epoch 1. -/
private theorem epoch_of_nonVolatile (greatest : IsGreatest (recordedEpochs calls sector) epoch)
    (untraced : ∀ interval t, ¬ Pending calls sector (.addInterval interval t)) : epoch = 1 := by
  obtain ⟨c, pending, records⟩ := greatest.1
  cases c with
  | addInterval interval t => exact absurd pending (untraced interval t)
  | addNonVolatileInterval _ => exact (Option.some.inj records).symm
  | removeInterval _ | getInterval _ | clearIntervals | clearSyncHistory
  | reInsertSyncHistory => simp [StoreCall.recorded] at records

end Answers

/-- After any admissible calls a sector is unsynced exactly when an addition of it is
pending, and its epoch is the maximum of the pending ones. `GetInterval` returns sectors of
one epoch with the answer for that epoch, so what is only non-volatile is never volatile,
and what was traced in the last `volatileSeconds` always is. -/
theorem volatility_exact (volatileSeconds : ℤ) (nonnegative : 0 ≤ volatileSeconds)
    (calls : List StoreCall) (admissible : ∀ c ∈ calls, c.Admissible volatileSeconds) :
    ∃ store, run call (new volatileSeconds) calls = some store ∧
      (∀ sector, (store.Unsynced sector ↔ ∃ c, Pending calls sector c) ∧
        ∀ epoch, store.epochOf sector = some epoch ↔
          IsGreatest (recordedEpochs calls sector) epoch) ∧
      ∀ now > volatileSeconds, (∃ sector, store.Unsynced sector) →
        ∃ output isVolatile after epoch,
          store.getInterval now = some ((output, isVolatile), after) ∧
          output.lower < output.upper ∧
          (∀ sector ∈ output, store.epochOf sector = some epoch) ∧
          (isVolatile = true ↔ epoch > now - volatileSeconds) ∧
          ∀ sector ∈ output,
            ((∀ interval t, ¬ Pending calls sector (.addInterval interval t)) →
              isVolatile = false) ∧
            ∀ interval t, Pending calls sector (.addInterval interval t) →
              t > now - volatileSeconds → isVolatile = true := by
  obtain ⟨store, reached, same, maximum⟩ := maximumOf_run nonnegative admissible
  refine ⟨store, reached, fun sector => ⟨?_, fun epoch => (maximum sector).eq_some_iff⟩,
    fun now passed nonempty => ?_⟩
  · exact (maximum sector).isSome_iff.trans recordedEpochs_nonempty
  obtain ⟨_, unsynced⟩ := nonempty
  obtain ⟨output, epoch, after, got, proper, recorded⟩ :=
    getInterval_of_unsynced (same.symm ▸ passed) unsynced
  rw [same] at got
  refine ⟨output, _, after, epoch, got, proper, recorded, decide_eq_true_iff,
    fun sector inside => ?_⟩
  have greatest := (maximum sector).eq_some_iff.mp (recorded sector inside)
  constructor
  · intro untraced
    obtain rfl := epoch_of_nonVolatile greatest untraced
    exact decide_eq_false (not_lt.mpr (Int.sub_pos_of_lt passed))
  · intro interval t pending recent
    exact decide_eq_true (lt_of_lt_of_le recent (greatest.2 ⟨_, pending, rfl⟩))

/-- A full backup seeds sectors that are traced before and after it, the later trace with
an earlier epoch, and some of them are handed out. -/
def seededBetweenTraces : List StoreCall :=
  [.addInterval ⟨2, 5⟩ 1004, .addNonVolatileInterval ⟨0, 8⟩, .addInterval ⟨4, 6⟩ 1001,
    .removeInterval ⟨0, 1⟩]

theorem volatility_exact_seededBetweenTraces :
    ∃ store, run call (new 10) seededBetweenTraces = some store ∧ store.Unsynced 3 ∧
      ∃ output isVolatile after epoch,
        store.getInterval 1013 = some ((output, isVolatile), after) ∧
        (∀ sector ∈ output, store.epochOf sector = some epoch) ∧
        (isVolatile = true ↔ epoch > 1013 - 10) := by
  obtain ⟨store, reached, recorded, answers⟩ :=
    volatility_exact 10 (by decide) seededBetweenTraces (by decide)
  have pending : Pending seededBetweenTraces 3 (.addInterval ⟨2, 5⟩ 1004) := by
    refine ⟨[], _, rfl, by simp [StoreCall.Adds, mem_interval], ?_⟩
    simp [StoreCall.Drops, mem_interval]
  have unsynced := (recorded 3).1.mpr ⟨_, pending⟩
  obtain ⟨output, isVolatile, after, epoch, got, _, same, answer, _⟩ :=
    answers 1013 (by decide) ⟨3, unsynced⟩
  exact ⟨store, reached, unsynced, output, isVolatile, after, epoch, got, same, answer⟩

end LinuxAgent.UnsyncedSectors
