/- module: LinuxAgent/UnsyncedSectors/Conservation
   source: unsynced_sector_manager/unsynced_sector_store.{h,cc}
   digest: Which sequences of store calls keep every added sector and re-insert the history. -/

import LinuxAgent.UnsyncedSectors.Store

/-!
A sector that was added to the store should stay known to it, as unsynced or as
synced, until the store is cleared. `RemoveInterval` moves sectors from the map
to the history. `ReInsertSyncHistory` should move them back, but it inserts them
with the epoch that the map ignores, so it keeps exactly the sectors of the
history that happen to be unsynced as well.
-/

set_option autoImplicit false
set_option relaxedAutoImplicit false

namespace LinuxAgent.UnsyncedSectors

open LinuxAgent.Lib.Run LinuxAgent.Lib.Segments

/-- The calls that change a store. -/
inductive StoreCall where
  | addInterval (interval : SectorInterval) (epoch : TimeT)
  | addNonVolatileInterval (interval : SectorInterval)
  | removeInterval (interval : SectorInterval)
  | getInterval (epoch : TimeT)
  | clearIntervals
  | clearSyncHistory
  | reInsertSyncHistory
  deriving DecidableEq

namespace UnsyncedSectorStore

/-- The store after a call, `none` when the call aborts the process. -/
def call (store : UnsyncedSectorStore) : StoreCall → Option UnsyncedSectorStore
  | .addInterval interval epoch => store.addInterval interval epoch
  | .addNonVolatileInterval interval => some (store.addNonVolatileInterval interval)
  | .removeInterval interval => some (store.removeInterval interval)
  | .getInterval epoch => (store.getInterval epoch).map Prod.snd
  | .clearIntervals => some store.clearIntervals
  | .clearSyncHistory => some store.clearSyncHistory
  | .reInsertSyncHistory => some store.reInsertSyncHistory

/-- The sector is in the unsynced map or in the synced set. -/
def Accounted (store : UnsyncedSectorStore) (sector : ℕ) : Prop :=
  store.Unsynced sector ∨ store.Synced sector

instance (store : UnsyncedSectorStore) (sector : ℕ) : Decidable (store.Accounted sector) :=
  inferInstanceAs (Decidable (store.Unsynced sector ∨ store.Synced sector))

end UnsyncedSectorStore

def StoreCall.Adds (sector : ℕ) : StoreCall → Prop
  | .addInterval interval _ => sector ∈ interval
  | .addNonVolatileInterval interval => sector ∈ interval
  | _ => False

def StoreCall.clears : StoreCall → Bool
  | .clearIntervals | .clearSyncHistory => true
  | _ => false

open UnsyncedSectorStore (call new)

/-- What the documentation asks of `ReInsertSyncHistory`. -/
structure ReInserted (before after : UnsyncedSectorStore) : Prop where
  unsynced : ∀ sector, after.Unsynced sector ↔ before.Accounted sector
  epochs : ∀ sector epoch, before.epochOf sector = some epoch →
    after.epochOf sector = some epoch
  history : ∀ sector, ¬ after.Synced sector

/-- Every sector added so far is accounted for after each call of the sequence,
and each of its `ReInsertSyncHistory` calls does what is documented. -/
def ConservesSectors (volatileSeconds : ℤ) (calls : List StoreCall) : Prop :=
  (∀ done rest store, calls = done ++ rest →
    run call (new volatileSeconds) done = some store →
    ∀ sector, (∃ c ∈ done, c.Adds sector) → store.Accounted sector) ∧
  (∀ done rest store after, calls = done ++ .reInsertSyncHistory :: rest →
    run call (new volatileSeconds) done = some store →
    store.call .reInsertSyncHistory = some after → ReInserted store after)

/-- The calls that lose nothing: a history is re-inserted only when its sectors
are all unsynced already, and no unknown sector is added with epoch 0. -/
def LosesNothing (store : UnsyncedSectorStore) : StoreCall → Prop
  | .reInsertSyncHistory => ∀ sector, store.Synced sector → store.Unsynced sector
  | .addInterval interval epoch => epoch = 0 → ∀ sector ∈ interval, store.Accounted sector
  | _ => True

section Steps

variable {store after : UnsyncedSectorStore} {c : StoreCall} {sector : ℕ}

private theorem unsynced_add (sectors : TimedSectorMap) (interval : SectorInterval)
    (epoch : TimeT) :
    ((TimedSectorMap.add sectors interval epoch).lookup sector).isSome ↔
      (epoch ≠ 0 ∧ sector ∈ interval) ∨ (sectors.lookup sector).isSome := by
  rw [UnsyncedSectorStore.epochOf_add]
  split_ifs with inserted
  · simp [inserted]
  · simp [inserted]

/-- `GetInterval` changes nothing but the cursor. -/
theorem call_getInterval {epoch : TimeT} (taken : store.call (.getInterval epoch) = some after) :
    ∃ cursor, after = { store with endOfLastContinuous := cursor } := by
  obtain ⟨⟨⟨output, isVolatile⟩, moved⟩, got, rfl⟩ := Option.map_eq_some_iff.mp taken
  exact ⟨output.upper, (store.getInterval_eq_some epoch got).1⟩

/-- A call other than a clear keeps the sectors that are accounted for and
accounts for those it adds, when it loses nothing. -/
theorem accounted_call (taken : store.call c = some after)
    (kept : c.clears = false) (safe : LosesNothing store c)
    (known : c.Adds sector ∨ store.Accounted sector) : after.Accounted sector := by
  cases c with
  | addInterval interval epoch =>
      obtain ⟨_, rfl⟩ := (store.addInterval_eq_some interval epoch).mp taken
      rcases known with added | known
      · by_cases identity : epoch = 0
        · rcases safe identity sector added with unsynced | synced
          · exact Or.inl ((unsynced_add _ _ _).mpr (Or.inr unsynced))
          · exact Or.inr synced
        · exact Or.inl ((unsynced_add _ _ _).mpr (Or.inl ⟨identity, added⟩))
      · exact known.imp_left fun unsynced => (unsynced_add _ _ _).mpr (Or.inr unsynced)
  | addNonVolatileInterval interval =>
      obtain rfl := Option.some.inj taken
      rcases known with added | known
      · exact Or.inl ((unsynced_add _ _ _).mpr (Or.inl ⟨by decide, added⟩))
      · exact known.imp_left fun unsynced => (unsynced_add _ _ _).mpr (Or.inr unsynced)
  | removeInterval interval =>
      obtain rfl := Option.some.inj taken
      have known : store.Accounted sector := known.resolve_left id
      by_cases inside : sector ∈ interval
      · exact Or.inr ((store.synced_removeInterval interval sector).mpr (Or.inl inside))
      · exact known.imp
          (fun unsynced => (store.unsynced_removeInterval interval sector).mpr ⟨inside, unsynced⟩)
          (fun synced => (store.synced_removeInterval interval sector).mpr (Or.inr synced))
  | getInterval epoch =>
      obtain ⟨cursor, rfl⟩ := call_getInterval taken
      exact known.resolve_left id
  | clearIntervals => simp [StoreCall.clears] at kept
  | clearSyncHistory => simp [StoreCall.clears] at kept
  | reInsertSyncHistory =>
      obtain rfl := Option.some.inj taken
      rw [store.reInsertSyncHistory_eq]
      exact Or.inl ((known.resolve_left id).elim id (safe sector))

/-- The re-insertion does what is documented exactly when it has nothing to do. -/
private theorem reInserted_iff :
    ReInserted store store.reInsertSyncHistory ↔
      ∀ sector, store.Synced sector → store.Unsynced sector := by
  rw [store.reInsertSyncHistory_eq]
  constructor
  · intro done sector synced
    exact (done.unsynced sector).mpr (Or.inr synced)
  · intro already
    exact ⟨fun sector => ⟨Or.inl, fun known => known.elim id (already sector)⟩,
      fun _ _ recorded => recorded, fun sector => by simp [UnsyncedSectorStore.Synced]⟩

/-- A call that accounts for what it adds, and re-inserts as documented, loses nothing. -/
private theorem losesNothing_of_accounted (taken : store.call c = some after)
    (accounted : ∀ sector, c.Adds sector → after.Accounted sector)
    (reInserted : c = .reInsertSyncHistory → ReInserted store after) : LosesNothing store c := by
  cases c with
  | reInsertSyncHistory =>
      obtain rfl := Option.some.inj taken
      exact reInserted_iff.mp (reInserted rfl)
  | addInterval interval epoch =>
      intro identity sector inside
      have known := accounted sector inside
      obtain ⟨_, rfl⟩ := (store.addInterval_eq_some interval epoch).mp taken
      simpa [UnsyncedSectorStore.Accounted, UnsyncedSectorStore.Unsynced,
        UnsyncedSectorStore.epochOf, UnsyncedSectorStore.Synced, TimedSectorMap.add,
        identity] using known
  | addNonVolatileInterval _ => trivial
  | removeInterval _ => trivial
  | getInterval _ => trivial
  | clearIntervals => trivial
  | clearSyncHistory => trivial

/-- Calls that lose nothing account for every sector that one of them added. -/
private theorem accounted_of_along {start : UnsyncedSectorStore} {calls : List StoreCall}
    (noClear : ∀ c ∈ calls, c.clears = false) (along : Along call LosesNothing start calls)
    (reached : run call start calls = some after) :
    ∀ sector, (∃ c ∈ calls, c.Adds sector) → after.Accounted sector := by
  have carried := history_along
    (P := fun store c => LosesNothing store c ∧ c.clears = false)
    (I := fun past store => ∀ sector, (∃ c ∈ past, c.Adds sector) → store.Accounted sector)
    (fun past store c after known cond taken sector added => by
      refine accounted_call taken cond.2 cond.1 ?_
      obtain ⟨d, member, adds⟩ := added
      rcases List.mem_append.mp member with earlier | here
      · exact Or.inr (known sector ⟨d, earlier, adds⟩)
      · obtain rfl := List.mem_singleton.mp here
        exact Or.inl adds)
    [] (by simp) (along_with noClear along) reached
  simpa using carried

end Steps

/-- Every sequence of calls without a clear conserves the sectors exactly when
each of its calls loses nothing in the store it is made on. -/
theorem conservesSectors_iff (volatileSeconds : ℤ) (calls : List StoreCall)
    (noClear : ∀ c ∈ calls, c.clears = false)
    (completes : (run call (new volatileSeconds) calls).isSome) :
    ConservesSectors volatileSeconds calls ↔
      Along call LosesNothing (new volatileSeconds) calls := by
  constructor
  · rintro ⟨accounted, reInserted⟩
    refine along_iff.mpr fun done c rest store split reached => ?_
    obtain ⟨after, taken, next⟩ := taken_of_completes completes split reached
    refine losesNothing_of_accounted taken (fun sector added => ?_) fun here => ?_
    · exact accounted (done ++ [c]) rest after (by simp [split]) next sector
        ⟨c, by simp, added⟩
    · subst here
      exact reInserted done rest store after split reached taken
  · intro along
    constructor
    · rintro done rest store rfl reached
      exact accounted_of_along (fun c member => noClear c (List.mem_append_left rest member))
        (along_of_append along) reached
    · rintro done rest store after rfl reached taken
      obtain rfl := Option.some.inj taken
      exact reInserted_iff.mpr (along_iff.mp along done _ rest store rfl reached)

/-- A sector is traced, handed out, traced again and looked at before the history returns. -/
def tracedAgain : List StoreCall :=
  [.addInterval ⟨4, 6⟩ 1000, .removeInterval ⟨4, 6⟩, .addInterval ⟨3, 6⟩ 1003,
    .getInterval 1005, .reInsertSyncHistory]

theorem conservesSectors_iff_tracedAgain :
    ConservesSectors 10 tracedAgain ↔ Along call LosesNothing (new 10) tracedAgain :=
  conservesSectors_iff 10 tracedAgain (by decide) (by decide)

/-- One sector is traced and handed out, and the backup is stopped. -/
def stoppedBackup : List StoreCall :=
  [.addInterval ⟨0, 1⟩ 1000, .removeInterval ⟨0, 1⟩, .reInsertSyncHistory]

/-- The sector of the stopped backup is in neither part of the store afterwards. -/
theorem stoppedBackup_not_conserved :
    (∀ c ∈ stoppedBackup, c.clears = false) ∧ ¬ ConservesSectors 10 stoppedBackup := by
  refine ⟨by decide, fun conserves => ?_⟩
  have lost : ∀ store, run call (new 10) stoppedBackup = some store →
      ¬ store.Accounted 0 := by
    rintro store ⟨⟩
    decide
  cases reached : run call (new 10) stoppedBackup with
  | none => exact absurd reached (by decide)
  | some store =>
      exact lost store reached (conserves.1 stoppedBackup [] store rfl reached 0
        ⟨.addInterval ⟨0, 1⟩ 1000, by simp [stoppedBackup], ⟨le_rfl, Nat.zero_lt_one⟩⟩)

end LinuxAgent.UnsyncedSectors
