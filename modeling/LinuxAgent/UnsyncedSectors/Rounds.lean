/- module: LinuxAgent/UnsyncedSectors/Rounds
   source: unsynced_sector_manager/unsynced_sector_store.{h,cc},
     device_synchronizer/device_synchronizer.cc
   digest: GetInterval called again and again: alone, and with RemoveInterval as DoSync does. -/

import LinuxAgent.Lib.Tour
import LinuxAgent.UnsyncedSectors.Conservation

/-!
Calls of `GetInterval` alone go round the segments of the map like a tour with
the cursor `end_of_last_continuous_`. The cursor is the exclusive end of the last
interval and is compared strictly, so a segment that touches the one before is
passed over: the round is fair exactly when segments touch only at the cursor.

With a `RemoveInterval` after each `GetInterval` the order does not matter. Each
pair of calls takes one whole segment out of the map and changes no other one,
so the store is empty after as many rounds as it had segments.
-/

set_option autoImplicit false
set_option relaxedAutoImplicit false

namespace LinuxAgent.UnsyncedSectors

open LinuxAgent.Lib.Run LinuxAgent.Lib.Segments LinuxAgent.Lib.Tour

/-- The intervals of the map's segments, in order of position. -/
def UnsyncedSectorStore.intervals (store : UnsyncedSectorStore) : List SectorInterval :=
  store.unsyncedSectorMap.segments.map Prod.fst

/-- A store with the intervals that were returned from it. -/
structure Handout where
  store : UnsyncedSectorStore
  returned : List SectorInterval

namespace Handout

def get (h : Handout) (epoch : TimeT) : Option Handout :=
  (h.store.getInterval epoch).map fun got => ⟨got.2, h.returned ++ [got.1.1]⟩

/-- The two calls that `DoSync` makes for an interval. -/
def getAndRemove (h : Handout) (epoch : TimeT) : Option Handout :=
  (h.store.getInterval epoch).map fun got =>
    ⟨got.2.removeInterval got.1.1, h.returned ++ [got.1.1]⟩

end Handout

section Tours

variable (store : UnsyncedSectorStore)

private theorem ordered_intervals : Ordered HalfOpen.lower HalfOpen.upper store.intervals := by
  constructor
  · intro interval member
    obtain ⟨segment, segments, rfl⟩ := List.mem_map.mp member
    exact store.unsyncedSectorMap.nonempty segment segments
  · exact List.pairwise_map.mpr (store.unsyncedSectorMap.separated.imp separated_order)

/-- `GetInterval` chooses the next stop of the tour. -/
private theorem nextSegment_of_next {interval : SectorInterval}
    (chosen : next HalfOpen.lower store.intervals store.endOfLastContinuous = some interval) :
    ∃ modified, store.nextSegment = some (interval, modified) := by
  have same : next HalfOpen.lower store.intervals store.endOfLastContinuous =
      store.nextSegment.map Prod.fst := by
    rw [next, UnsyncedSectorStore.intervals, List.find?_map, List.head?_map, ← Option.map_or]
    rfl
  obtain ⟨⟨_, modified⟩, found, rfl⟩ := Option.map_eq_some_iff.mp (same.symm.trans chosen)
  exact ⟨modified, found⟩

private theorem exists_next {stops : List SectorInterval} (nonempty : stops ≠ []) (cursor : ℕ) :
    ∃ interval, next HalfOpen.lower stops cursor = some interval := by
  refine Option.ne_none_iff_exists'.mp fun missing => nonempty ?_
  exact List.head?_eq_none_iff.mp (Option.or_eq_none_iff.mp missing).2

/-- Calls of `GetInterval` return the stops of the tour. -/
private theorem run_get {epochs : List TimeT} (returned : List SectorInterval)
    (few : epochs.length ≤ store.intervals.length)
    (admissible : ∀ epoch ∈ epochs, epoch > store.volatileSeconds) :
    ∃ cursor, run Handout.get ⟨store, returned⟩ epochs = some
      ⟨{ store with endOfLastContinuous := cursor }, returned ++
        tour HalfOpen.lower HalfOpen.upper store.intervals store.endOfLastContinuous
          epochs.length⟩ := by
  induction epochs generalizing store returned with
  | nil => exact ⟨store.endOfLastContinuous, by simp [tour]⟩
  | cons epoch epochs ih =>
      have few : epochs.length + 1 ≤ store.intervals.length := few
      have nonempty : store.intervals ≠ [] := List.ne_nil_of_length_pos (by omega)
      obtain ⟨interval, chosen⟩ := exists_next nonempty store.endOfLastContinuous
      obtain ⟨modified, segment⟩ := nextSegment_of_next store chosen
      have got := store.getInterval_of_nextSegment epoch (admissible epoch List.mem_cons_self)
        segment
      obtain ⟨cursor, rest⟩ := ih { store with endOfLastContinuous := interval.upper }
        (returned ++ [interval]) (Nat.le_of_succ_le few)
        fun e member => admissible e (List.mem_cons_of_mem epoch member)
      refine ⟨cursor, run_cons.mpr ⟨_, congrArg (Option.map _) got, rest.trans ?_⟩⟩
      simp only [List.length_cons, tour, chosen, List.append_assoc, List.singleton_append]
      rfl

end Tours

/-- As many calls of `GetInterval` as there are segments return each segment once and in
cyclic order exactly when segments touch only where the cursor stands in the first of the
two. They also begin with the segment directly after the cursor exactly when, in addition,
no segment starts at the cursor, unless it is the only one. -/
theorem rounds_fair_iff (store : UnsyncedSectorStore) (epochs : List TimeT)
    (rounds : epochs.length = store.intervals.length)
    (admissible : ∀ epoch ∈ epochs, epoch > store.volatileSeconds) :
    ∃ after, run Handout.get ⟨store, []⟩ epochs = some after ∧
      (store.intervals.IsRotated after.returned ↔
        TouchOnlyAt HalfOpen.lower HalfOpen.upper store.intervals store.endOfLastContinuous) ∧
      (after.returned = fromCursor HalfOpen.lower store.intervals store.endOfLastContinuous ↔
        TouchOnlyAt HalfOpen.lower HalfOpen.upper store.intervals store.endOfLastContinuous ∧
          (store.intervals.length ≤ 1 ∨
            ∀ interval ∈ store.intervals, interval.lower ≠ store.endOfLastContinuous)) := by
  obtain ⟨cursor, reached⟩ := run_get store [] rounds.le admissible
  refine ⟨_, reached, ?_, ?_⟩
  · simp only [List.nil_append, rounds]
    exact isRotated_tour_iff (ordered_intervals store)
  · simp only [List.nil_append, rounds]
    exact tour_eq_fromCursor_iff (ordered_intervals store)

/-- Two non-volatile intervals with a gap between them. -/
def twoIntervals : UnsyncedSectorStore :=
  ((UnsyncedSectorStore.new 10).addNonVolatileInterval ⟨2, 4⟩).addNonVolatileInterval ⟨6, 7⟩

theorem rounds_fair_iff_twoIntervals :
    twoIntervals.intervals = [⟨2, 4⟩, ⟨6, 7⟩] ∧
      ∃ after, run Handout.get ⟨twoIntervals, []⟩ [1000, 1001] = some after ∧
        twoIntervals.intervals.IsRotated after.returned := by
  have two : twoIntervals.intervals = [⟨2, 4⟩, ⟨6, 7⟩] := by decide
  obtain ⟨after, reached, rotated, _⟩ :=
    rounds_fair_iff twoIntervals [1000, 1001] (by rw [two]; rfl) (by decide)
  refine ⟨two, after, reached, rotated.mpr ?_⟩
  rw [two]
  simp [TouchOnlyAt]

/-- Neighbouring sectors are traced one second apart. -/
def touchingTraces : List StoreCall :=
  [.addInterval ⟨5, 6⟩ 1000, .addInterval ⟨6, 7⟩ 1001]

/-- Two calls return the first of the two segments twice and the second one never. -/
theorem touchingTraces_unfair :
    ∃ store after, run UnsyncedSectorStore.call (.new 10) touchingTraces = some store ∧
      store.intervals = [⟨5, 6⟩, ⟨6, 7⟩] ∧
      run Handout.get ⟨store, []⟩ [1005, 1006] = some after ∧
      after.returned = [⟨5, 6⟩, ⟨5, 6⟩] ∧ ¬ store.intervals.IsRotated after.returned := by
  have evaluated : (run UnsyncedSectorStore.call (.new 10) touchingTraces).any fun store =>
      decide (store.intervals = [⟨5, 6⟩, ⟨6, 7⟩]) &&
        (run Handout.get ⟨store, []⟩ [1005, 1006]).any fun after =>
          decide (after.returned = [⟨5, 6⟩, ⟨5, 6⟩]) := by decide +kernel
  obtain ⟨store, reached, test⟩ := (Option.any_eq_true _ _).mp evaluated
  obtain ⟨two, test⟩ := Bool.and_eq_true_iff.mp test
  obtain ⟨after, visited, once⟩ := (Option.any_eq_true _ _).mp test
  have two := of_decide_eq_true two
  have once := of_decide_eq_true once
  refine ⟨store, after, reached, two, visited, once, fun rotated => ?_⟩
  rw [two, once] at rotated
  have member : (⟨6, 7⟩ : SectorInterval) ∈ [(⟨5, 6⟩ : SectorInterval), ⟨5, 6⟩] :=
    rotated.mem_iff.mp (by simp)
  simp at member

/-- What the rounds so far have done to a store that was the given one at first. -/
structure Handout.Drains (first : UnsyncedSectorStore) (h : Handout) : Prop where
  volatileSeconds : h.store.volatileSeconds = first.volatileSeconds
  rounds : h.returned.length + h.store.intervals.length = first.intervals.length
  disjoint : h.returned.Pairwise fun I J => ∀ sector ∈ I, sector ∉ J
  taken : ∀ I ∈ h.returned, ∀ sector ∈ I, ¬ h.store.Unsynced sector
  unsynced : ∀ sector, first.Unsynced sector ↔
    h.store.Unsynced sector ∨ ∃ I ∈ h.returned, sector ∈ I
  synced : ∀ sector, h.store.Synced sector ↔
    first.Synced sector ∨ ∃ I ∈ h.returned, sector ∈ I

section Draining

variable {first : UnsyncedSectorStore} {h next : Handout} {epoch : TimeT}

/-- One round on a store that is not empty: a whole segment leaves the map. -/
inductive Handout.Round (h : Handout) : Handout → Prop
  | mk (interval : SectorInterval) (modified : TimeT)
      (segment : (interval, modified) ∈ h.store.unsyncedSectorMap.segments) :
      Round h
        ⟨{ h.store with endOfLastContinuous := interval.upper }.removeInterval interval,
          h.returned ++ [interval]⟩

private theorem exists_round (drains : h.Drains first)
    (few : h.returned.length < first.intervals.length) (passed : epoch > first.volatileSeconds) :
    ∃ next, h.getAndRemove epoch = some next ∧ h.Round next := by
  have nonempty : h.store.intervals ≠ [] := by
    have rounds := drains.rounds
    exact List.ne_nil_of_length_pos (by omega)
  rw [← drains.volatileSeconds] at passed
  obtain ⟨interval, chosen⟩ := exists_next nonempty h.store.endOfLastContinuous
  obtain ⟨modified, found⟩ := nextSegment_of_next h.store chosen
  have got := h.store.getInterval_of_nextSegment epoch passed found
  exact ⟨_, congrArg (Option.map _) got, .mk interval modified (h.store.nextSegment_mem found)⟩

private theorem unsynced_of_segment {store : UnsyncedSectorStore} {interval : SectorInterval}
    {modified : TimeT} (segment : (interval, modified) ∈ store.unsyncedSectorMap.segments)
    {sector : ℕ} (inside : sector ∈ interval) : store.Unsynced sector := by
  rw [UnsyncedSectorStore.Unsynced, UnsyncedSectorStore.epochOf,
    store.unsyncedSectorMap.lookup_of_segment segment inside]
  rfl

private theorem returned_concat {returned : List SectorInterval} {interval : SectorInterval}
    {sector : ℕ} :
    (∃ I ∈ returned ++ [interval], sector ∈ I) ↔
      (∃ I ∈ returned, sector ∈ I) ∨ sector ∈ interval := by
  simp only [List.mem_append, List.mem_singleton, or_and_right, exists_or, exists_eq_left]

private theorem drains_round (drains : h.Drains first) (round : h.Round next) :
    next.Drains first := by
  obtain ⟨interval, modified, segment⟩ := round
  have unsynced (sector : ℕ) := UnsyncedSectorStore.unsynced_removeInterval
    { h.store with endOfLastContinuous := interval.upper } interval sector
  have synced (sector : ℕ) := UnsyncedSectorStore.synced_removeInterval
    { h.store with endOfLastContinuous := interval.upper } interval sector
  constructor
  · exact drains.volatileSeconds
  · have fewer := List.length_erase_add_one segment
    have rounds := drains.rounds
    simp only [UnsyncedSectorStore.intervals, List.length_map, List.length_append,
      List.length_singleton, UnsyncedSectorStore.removeInterval,
      IntervalMap.segments_erase segment] at rounds ⊢
    omega
  · refine List.pairwise_append.mpr ⟨drains.disjoint, List.pairwise_singleton _ _, ?_⟩
    intro I member J here sector inside also
    rw [List.mem_singleton.mp here] at also
    exact drains.taken I member sector inside (unsynced_of_segment segment also)
  · intro I member sector inside still
    obtain ⟨outside, before⟩ := (unsynced sector).mp still
    rcases List.mem_append.mp member with earlier | here
    · exact drains.taken I earlier sector inside before
    · rw [List.mem_singleton.mp here] at inside
      exact outside inside
  · intro sector
    rw [drains.unsynced sector, unsynced sector, returned_concat]
    by_cases inside : sector ∈ interval
    · simp [inside, unsynced_of_segment segment inside]
    · simp [inside, UnsyncedSectorStore.Unsynced, UnsyncedSectorStore.epochOf]
  · intro sector
    rw [synced sector, returned_concat, ← or_assoc, ← drains.synced sector]
    exact or_comm

/-- A round lowers the count of unsynced sectors by the interval that it returns. -/
private theorem count_round (round : h.Round next) :
    ∃ interval, next.returned = h.returned ++ [interval] ∧ interval.lower < interval.upper ∧
      h.store.unsyncedSectorCount =
        next.store.unsyncedSectorCount + interval.cardinality := by
  obtain ⟨interval, modified, segment⟩ := round
  exact ⟨interval, rfl, h.store.unsyncedSectorMap.nonempty _ segment,
    IntervalMap.cardinality_erase segment⟩

/-- Rounds go on as long as there are segments. -/
private theorem drains_run {epochs : List TimeT} (drains : h.Drains first)
    (few : h.returned.length + epochs.length ≤ first.intervals.length)
    (admissible : ∀ epoch ∈ epochs, epoch > first.volatileSeconds) :
    ∃ after, run Handout.getAndRemove h epochs = some after ∧ after.Drains first ∧
      after.returned.length = h.returned.length + epochs.length := by
  induction epochs generalizing h with
  | nil => exact ⟨h, rfl, drains, rfl⟩
  | cons epoch epochs ih =>
      have few : h.returned.length + (epochs.length + 1) ≤ first.intervals.length := few
      obtain ⟨next, taken, round⟩ :=
        exists_round drains (by omega) (admissible epoch List.mem_cons_self)
      have length : next.returned.length = h.returned.length + 1 := by
        obtain ⟨interval, returned, _⟩ := count_round round
        simp [returned]
      obtain ⟨after, rest, drained, total⟩ := ih (drains_round drains round) (by omega)
        fun e member => admissible e (List.mem_cons_of_mem epoch member)
      refine ⟨after, run_cons.mpr ⟨next, taken, rest⟩, drained, ?_⟩
      rw [total, length, List.length_cons]
      omega

private theorem drains_start (store : UnsyncedSectorStore) : (Handout.mk store []).Drains store :=
  ⟨rfl, by simp, .nil, by simp, by simp, by simp⟩

end Draining

/-- As many rounds as the map has segments empty the store, and no fewer do. Each returns a
non-empty interval and lowers the count by its cardinality, the intervals are disjoint,
together they are what was unsynced, and the history has grown by exactly that. -/
theorem rounds_drain (store : UnsyncedSectorStore) (epochs : List TimeT)
    (rounds : epochs.length = store.unsyncedSectorMap.segments.length)
    (admissible : ∀ epoch ∈ epochs, epoch > store.volatileSeconds) :
    ∃ after, run Handout.getAndRemove ⟨store, []⟩ epochs = some after ∧
      after.store.unsyncedSectorCount = 0 ∧
      (∀ before epoch rest, epochs = before ++ epoch :: rest →
        ∃ h next interval, run Handout.getAndRemove ⟨store, []⟩ before = some h ∧
          h.store.unsyncedSectorCount ≠ 0 ∧ h.getAndRemove epoch = some next ∧
          next.returned = h.returned ++ [interval] ∧ interval.lower < interval.upper ∧
          h.store.unsyncedSectorCount =
            next.store.unsyncedSectorCount + interval.cardinality) ∧
      after.returned.Pairwise (fun I J => ∀ sector ∈ I, sector ∉ J) ∧
      (∀ sector, (∃ I ∈ after.returned, sector ∈ I) ↔ store.Unsynced sector) ∧
      ∀ sector, after.store.Synced sector ↔
        store.Synced sector ∨ ∃ I ∈ after.returned, sector ∈ I := by
  have rounds : epochs.length = store.intervals.length := by
    rw [rounds, UnsyncedSectorStore.intervals, List.length_map]
  obtain ⟨after, reached, drained, total⟩ :=
    drains_run (drains_start store) (by simp [rounds]) admissible
  have zero : after.store.unsyncedSectorCount = 0 := by
    have left := drained.rounds
    simp only [List.length_nil, Nat.zero_add] at total
    have empty : after.store.intervals = [] := List.eq_nil_of_length_eq_zero (by omega)
    simp [UnsyncedSectorStore.unsyncedSectorCount, IntervalMap.cardinality,
      List.map_eq_nil_iff.mp empty]
  have none := after.store.unsyncedSectorCount_eq_zero_iff.mp zero
  refine ⟨after, reached, zero, ?_, drained.disjoint, fun sector => ?_, drained.synced⟩
  · rintro before epoch rest rfl
    simp only [List.length_append, List.length_cons] at rounds
    obtain ⟨h, started, drains, length⟩ := drains_run (drains_start store)
      (by simp only [List.length_nil]; omega)
      fun e member => admissible e (List.mem_append_left _ member)
    obtain ⟨next, taken, round⟩ := exists_round drains
      (by simp only [List.length_nil] at length; omega) (admissible epoch (by simp))
    obtain ⟨interval, returned, proper, lowered⟩ := count_round round
    refine ⟨h, next, interval, started, ?_, taken, returned, proper, lowered⟩
    unfold HalfOpen.cardinality at lowered
    omega
  · rw [drained.unsynced sector]
    simp [none sector]

theorem rounds_drain_touchingTraces :
    ∃ store after, run UnsyncedSectorStore.call (.new 10) touchingTraces = some store ∧
      run Handout.getAndRemove ⟨store, []⟩ [1005, 1006] = some after ∧
      after.store.unsyncedSectorCount = 0 := by
  have evaluated : (run UnsyncedSectorStore.call (.new 10) touchingTraces).any fun store =>
      decide (2 = store.unsyncedSectorMap.segments.length ∧ store.volatileSeconds = 10) := by
    decide +kernel
  obtain ⟨store, reached, test⟩ := (Option.any_eq_true _ _).mp evaluated
  obtain ⟨two, ten⟩ := of_decide_eq_true test
  obtain ⟨after, drained, zero, _⟩ :=
    rounds_drain store [1005, 1006] two (by rw [ten]; decide)
  exact ⟨store, after, reached, drained, zero⟩

end LinuxAgent.UnsyncedSectors
