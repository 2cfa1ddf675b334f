/- module: LinuxAgent/Lib/Segments
   source: none (general library)
   digest: Finite maps from natural keys kept as sorted, disjoint and joined segments. -/

import Mathlib.Algebra.GroupWithZero.Nat
import Mathlib.Data.List.Basic
import Mathlib.Algebra.Order.BigOperators.Group.List
import Mathlib.Order.Interval.Finset.Nat

/-!
An interval map is a finite map from ℕ whose entries are grouped into segments:
half-open intervals of consecutive keys with one value. The segment list of a
map is canonical. Its intervals are non-empty, in increasing order, and two of
them touch only when their values differ, so the segments are the maximal runs
of consecutive keys with equal value.

The operations are given by what they do to each key. `ofFun` groups the values
of a function into the canonical list, and insertion and removal rebuild the
map from its pointwise description.
-/

set_option autoImplicit false
set_option relaxedAutoImplicit false

namespace LinuxAgent.Lib.Segments

/-- The half-open interval [lower, upper), empty when upper ≤ lower. -/
structure HalfOpen where
  lower : ℕ
  upper : ℕ
  deriving DecidableEq

instance : Membership ℕ HalfOpen := ⟨fun I k => I.lower ≤ k ∧ k < I.upper⟩

instance (I : HalfOpen) (k : ℕ) : Decidable (k ∈ I) :=
  inferInstanceAs (Decidable (I.lower ≤ k ∧ k < I.upper))

theorem mem_interval {I : HalfOpen} {k : ℕ} : k ∈ I ↔ I.lower ≤ k ∧ k < I.upper := Iff.rfl

instance (I : HalfOpen) (P : ℕ → Prop) [DecidablePred P] : Decidable (∀ k ∈ I, P k) :=
  decidable_of_iff (∀ k < I.upper, I.lower ≤ k → P k)
    ⟨fun all k inside => all k inside.2 inside.1, fun all k upper lower => all k ⟨lower, upper⟩⟩

def HalfOpen.cardinality (I : HalfOpen) : ℕ := I.upper - I.lower

variable {ν : Type*}

/-- The order of two segments: a gap between them, or different values where they touch. -/
def Separated (p q : HalfOpen × ν) : Prop :=
  p.1.upper < q.1.lower ∨ (p.1.upper = q.1.lower ∧ p.2 ≠ q.2)

/-- The value that a segment list gives to a key. -/
def valueAt (segments : List (HalfOpen × ν)) (k : ℕ) : Option ν :=
  (segments.find? fun p => decide (k ∈ p.1)).map Prod.snd

/-- A finite map as its canonical list of segments. -/
structure IntervalMap (ν : Type*) where
  segments : List (HalfOpen × ν)
  nonempty : ∀ p ∈ segments, p.1.lower < p.1.upper
  separated : segments.Pairwise Separated

namespace IntervalMap

def lookup (m : IntervalMap ν) (k : ℕ) : Option ν := valueAt m.segments k

def empty : IntervalMap ν := ⟨[], by simp, by simp⟩

@[simp] theorem lookup_empty (k : ℕ) : (empty : IntervalMap ν).lookup k = none := rfl

/-- The number of keys of the map. -/
def cardinality (m : IntervalMap ν) : ℕ := (m.segments.map fun p => p.1.cardinality).sum

/-- A bound above every key of the map. -/
def bound (m : IntervalMap ν) : ℕ := m.segments.foldr (fun p b => max p.1.upper b) 0

end IntervalMap

section Segments

variable {segments : List (HalfOpen × ν)} {k : ℕ} {v : ν}

private theorem valueAt_cons (I : HalfOpen) (v : ν) (rest : List (HalfOpen × ν)) (k : ℕ) :
    valueAt ((I, v) :: rest) k = if k ∈ I then some v else valueAt rest k := by
  by_cases inside : k ∈ I <;> simp [valueAt, inside]

private theorem mem_of_valueAt (found : valueAt segments k = some v) :
    ∃ I, (I, v) ∈ segments ∧ k ∈ I := by
  obtain ⟨⟨I, w⟩, hit, rfl⟩ := Option.map_eq_some_iff.mp found
  exact ⟨I, List.mem_of_find?_eq_some hit, of_decide_eq_true (List.find?_some hit :)⟩

theorem separated_order {p q : HalfOpen × ν} (order : Separated p q) :
    p.1.upper ≤ q.1.lower := by
  rcases order with gap | ⟨touch, _⟩
  · exact gap.le
  · exact touch.le

private theorem valueAt_of_mem (separated : segments.Pairwise Separated) {I : HalfOpen}
    (member : (I, v) ∈ segments) (inside : k ∈ I) : valueAt segments k = some v := by
  induction segments with
  | nil => simp at member
  | cons p rest ih =>
      obtain ⟨first, later⟩ := List.pairwise_cons.mp separated
      rcases List.mem_cons.mp member with rfl | member
      · rw [valueAt_cons, if_pos inside]
      · have order := separated_order (first _ member)
        have miss : ¬ k ∈ p.1 := by
          rw [mem_interval] at inside ⊢
          dsimp only at order
          omega
        rw [show p = (p.1, p.2) from rfl, valueAt_cons, if_neg miss]
        exact ih later member

private theorem valueAt_eq_none (miss : ∀ p ∈ segments, ¬ k ∈ p.1) :
    valueAt segments k = none := by
  cases found : valueAt segments k with
  | none => rfl
  | some v =>
      obtain ⟨I, member, inside⟩ := mem_of_valueAt found
      exact absurd inside (miss _ member)

end Segments

section Grouping

variable [DecidableEq ν]

/-- Put one key in front of a segment list, joining it to the first segment
when that segment starts right after the key and has the same value. -/
def push (k : ℕ) (v : ν) : List (HalfOpen × ν) → List (HalfOpen × ν)
  | [] => [(⟨k, k + 1⟩, v)]
  | (J, w) :: rest =>
      if J.lower = k + 1 ∧ w = v then (⟨k, J.upper⟩, v) :: rest
      else (⟨k, k + 1⟩, v) :: (J, w) :: rest

/-- The segments of the function values at the keys k, ..., k + n - 1. -/
def scan (f : ℕ → Option ν) (k : ℕ) : ℕ → List (HalfOpen × ν)
  | 0 => []
  | n + 1 =>
      match f k with
      | none => scan f (k + 1) n
      | some v => push k v (scan f (k + 1) n)

/-- The canonical segments of a list whose keys all lie in [k, k + n). -/
private structure Grouped (segments : List (HalfOpen × ν)) (k n : ℕ) : Prop where
  nonempty : ∀ p ∈ segments, p.1.lower < p.1.upper
  inside : ∀ p ∈ segments, k ≤ p.1.lower ∧ p.1.upper ≤ k + n
  separated : segments.Pairwise Separated

private theorem push_grouped {segments : List (HalfOpen × ν)} {k n : ℕ} (v : ν)
    (rest : Grouped segments (k + 1) n) : Grouped (push k v segments) k (n + 1) := by
  cases segments with
  | nil => exact ⟨by simp [push], by simp [push], by simp [push]⟩
  | cons p tail =>
      obtain ⟨J, w⟩ := p
      obtain ⟨first, later⟩ := List.pairwise_cons.mp rest.separated
      have range := rest.inside _ List.mem_cons_self
      have proper := rest.nonempty _ List.mem_cons_self
      dsimp only at range proper
      simp only [push]
      split_ifs with joined
      · refine ⟨?_, ?_, List.pairwise_cons.mpr ⟨?_, later⟩⟩
        · intro q member
          rcases List.mem_cons.mp member with rfl | member
          · dsimp only; omega
          · exact rest.nonempty q (List.mem_cons_of_mem _ member)
        · intro q member
          rcases List.mem_cons.mp member with rfl | member
          · dsimp only; omega
          · have := rest.inside q (List.mem_cons_of_mem _ member)
            omega
        · intro q member
          simpa only [Separated, joined.2] using first q member
      · refine ⟨?_, ?_, List.pairwise_cons.mpr ⟨?_, rest.separated⟩⟩
        · intro q member
          rcases List.mem_cons.mp member with rfl | member
          · dsimp only; omega
          · exact rest.nonempty q member
        · intro q member
          rcases List.mem_cons.mp member with rfl | member
          · dsimp only; omega
          · have := rest.inside q member
            omega
        · intro q member
          rcases List.mem_cons.mp member with rfl | member
          · simp only [Separated]
            by_cases touch : J.lower = k + 1
            · exact Or.inr ⟨touch.symm, fun same => joined ⟨touch, same.symm⟩⟩
            · exact Or.inl (by omega)
          · have := separated_order (first q member)
            exact Or.inl (by dsimp only at this ⊢; omega)

private theorem scan_grouped (f : ℕ → Option ν) (k n : ℕ) : Grouped (scan f k n) k n := by
  induction n generalizing k with
  | zero => exact ⟨by simp [scan], by simp [scan], by simp [scan]⟩
  | succ n ih =>
      have rest := ih (k + 1)
      cases value : f k with
      | none =>
          simp only [scan, value]
          refine ⟨rest.nonempty, fun p member => ?_, rest.separated⟩
          have := rest.inside p member
          omega
      | some v =>
          simp only [scan, value]
          exact push_grouped v rest

private theorem valueAt_push {segments : List (HalfOpen × ν)} {k n : ℕ} (v : ν)
    (rest : Grouped segments (k + 1) n) (s : ℕ) :
    valueAt (push k v segments) s = if s = k then some v else valueAt segments s := by
  have single : s ∈ (⟨k, k + 1⟩ : HalfOpen) ↔ s = k := by
    rw [mem_interval]
    dsimp only
    omega
  cases segments with
  | nil => simp only [push, valueAt_cons, single]
  | cons p tail =>
      obtain ⟨J, w⟩ := p
      have proper := rest.nonempty _ List.mem_cons_self
      by_cases joined : J.lower = k + 1 ∧ w = v
      · obtain ⟨start, rfl⟩ := joined
        have extended : s ∈ (⟨k, J.upper⟩ : HalfOpen) ↔ s = k ∨ s ∈ J := by
          rw [mem_interval, mem_interval]
          dsimp only at proper ⊢
          omega
        simp only [push, start, and_self, if_true, valueAt_cons, extended]
        by_cases same : s = k <;> simp [same]
      · simp only [push, joined, if_false, valueAt_cons (I := ⟨k, k + 1⟩), single]

private theorem valueAt_scan (f : ℕ → Option ν) (k n s : ℕ) :
    valueAt (scan f k n) s = if k ≤ s ∧ s < k + n then f s else none := by
  induction n generalizing k with
  | zero =>
      rw [if_neg (by omega)]
      rfl
  | succ n ih =>
      by_cases same : s = k
      · subst same
        rw [if_pos (by omega)]
        cases value : f s with
        | none =>
            simp only [scan, value, ih]
            rw [if_neg (by omega)]
        | some v => simp [scan, value, valueAt_push v (scan_grouped f (s + 1) n)]
      · have agree : (k ≤ s ∧ s < k + (n + 1)) ↔ (k + 1 ≤ s ∧ s < k + 1 + n) := by omega
        cases value : f k with
        | none => simp only [scan, value, ih, agree]
        | some v =>
            simp only [scan, value, valueAt_push v (scan_grouped f (k + 1) n), same,
              if_false, ih, agree]

end Grouping

namespace IntervalMap

section Lookup

variable (m : IntervalMap ν) {k : ℕ} {v : ν}

/-- Every key of a segment has the segment's value. -/
theorem lookup_of_segment {I : HalfOpen} (member : (I, v) ∈ m.segments) (inside : k ∈ I) :
    m.lookup k = some v :=
  valueAt_of_mem m.separated member inside

/-- Every key of the map lies in one of its segments. -/
theorem exists_segment (found : m.lookup k = some v) : ∃ I, (I, v) ∈ m.segments ∧ k ∈ I :=
  mem_of_valueAt found

private theorem upper_le_foldr_max {segments : List (HalfOpen × ν)} {p : HalfOpen × ν}
    (member : p ∈ segments) :
    p.1.upper ≤ segments.foldr (fun q b => max q.1.upper b) 0 := by
  induction segments with
  | nil => simp at member
  | cons q rest ih =>
      rcases List.mem_cons.mp member with rfl | member
      · exact le_max_left _ _
      · exact (ih member).trans (le_max_right _ _)

theorem lookup_eq_none_of_bound_le (large : m.bound ≤ k) : m.lookup k = none := by
  refine valueAt_eq_none fun p member inside => ?_
  have upper := upper_le_foldr_max member
  have := (mem_interval.mp inside).2
  unfold bound at large
  omega

/-- Only the empty map has cardinality zero. -/
theorem cardinality_eq_zero_iff : m.cardinality = 0 ↔ ∀ k, m.lookup k = none := by
  constructor
  · intro zero k
    refine valueAt_eq_none fun p member inside => ?_
    have small := List.sum_eq_zero_iff_forall_eq_nat.mp zero _ (List.mem_map_of_mem member)
    have := mem_interval.mp inside
    unfold HalfOpen.cardinality at small
    omega
  · intro absent
    refine List.sum_eq_zero_iff_forall_eq_nat.mpr fun n member => ?_
    obtain ⟨⟨I, v⟩, segment, rfl⟩ := List.mem_map.mp member
    have proper := m.nonempty _ segment
    have first := m.lookup_of_segment segment (mem_interval.mpr ⟨le_rfl, proper⟩)
    exact absurd first (by simp [absent])

end Lookup

section Canonical

variable {m : IntervalMap ν} {I J : HalfOpen} {k : ℕ} {v : ν}

theorem lookup_eq_some_iff : m.lookup k = some v ↔ ∃ I, (I, v) ∈ m.segments ∧ k ∈ I :=
  ⟨m.exists_segment, fun ⟨_, member, inside⟩ => m.lookup_of_segment member inside⟩

private theorem segments_compare {p q : HalfOpen × ν} (member : p ∈ m.segments)
    (other : q ∈ m.segments) : p = q ∨ Separated p q ∨ Separated q p := by
  obtain ⟨before, after, split⟩ := List.append_of_mem member
  have separated := m.separated
  rw [split] at separated other
  obtain ⟨_, later, crossing⟩ := List.pairwise_append.mp separated
  rcases List.mem_append.mp other with earlier | other
  · exact Or.inr (Or.inr (crossing q earlier p List.mem_cons_self))
  · rcases List.mem_cons.mp other with rfl | other
    · exact Or.inl rfl
    · exact Or.inr (Or.inl ((List.pairwise_cons.mp later).1 q other))

/-- Two segments with a key in common are the same. -/
private theorem segments_eq_of_mem {p q : HalfOpen × ν} (member : p ∈ m.segments)
    (other : q ∈ m.segments) (inside : k ∈ p.1) (also : k ∈ q.1) : p = q := by
  have left := mem_interval.mp inside
  have right := mem_interval.mp also
  rcases segments_compare member other with same | order | order
  · exact same
  · have := separated_order order
    omega
  · have := separated_order order
    omega

/-- Between two segments of one value there is a gap. -/
private theorem gap_of_value (member : (I, v) ∈ m.segments) (other : (J, v) ∈ m.segments) :
    I = J ∨ I.upper < J.lower ∨ J.upper < I.lower := by
  rcases segments_compare member other with same | (gap | ⟨_, differ⟩) | (gap | ⟨_, differ⟩)
  · exact Or.inl (congrArg Prod.fst same)
  · exact Or.inr (Or.inl gap)
  · exact absurd rfl differ
  · exact Or.inr (Or.inr gap)
  · exact absurd rfl differ

/-- The keys right beside a segment do not have its value. -/
private theorem lookup_beside_ne (member : (I, v) ∈ m.segments) (near : I.lower ≤ k + 1)
    (below : k ≤ I.upper) (outside : ¬ k ∈ I) : m.lookup k ≠ some v := by
  intro found
  obtain ⟨J, other, inside⟩ := m.exists_segment found
  have bounds := mem_interval.mp inside
  rcases gap_of_value member other with rfl | gap | gap
  · exact outside inside
  · omega
  · omega

/-- The segments are the maximal runs of consecutive keys with one value. -/
theorem mem_segments_iff :
    (I, v) ∈ m.segments ↔ I.lower < I.upper ∧ (∀ k ∈ I, m.lookup k = some v) ∧
      m.lookup I.upper ≠ some v ∧ ∀ k, k + 1 = I.lower → m.lookup k ≠ some v := by
  constructor
  · intro member
    have proper : I.lower < I.upper := m.nonempty _ member
    refine ⟨proper, fun k inside => m.lookup_of_segment member inside, ?_, fun k below => ?_⟩
    · refine lookup_beside_ne member (by omega) le_rfl fun inside => ?_
      exact absurd (mem_interval.mp inside).2 (lt_irrefl _)
    · refine lookup_beside_ne member below.ge (by omega) fun inside => ?_
      have := mem_interval.mp inside
      omega
  · rintro ⟨proper, values, above, below⟩
    obtain ⟨⟨lower, upper⟩, member, inside⟩ :=
      m.exists_segment (values I.lower (mem_interval.mpr ⟨le_rfl, proper⟩))
    have bounds := mem_interval.mp inside
    dsimp only at bounds
    have start : lower = I.lower := by
      by_contra differ
      refine below (I.lower - 1) (by omega) (m.lookup_of_segment member ?_)
      exact mem_interval.mpr (by dsimp only; omega)
    have finish : upper = I.upper := by
      rcases Nat.lt_trichotomy upper I.upper with short | same | long
      · refine absurd (values upper (mem_interval.mpr (by omega)))
          (lookup_beside_ne member (by dsimp only; omega) le_rfl fun inside => ?_)
        exact absurd (mem_interval.mp inside).2 (lt_irrefl _)
      · exact same
      · refine absurd (m.lookup_of_segment member ?_) above
        exact mem_interval.mpr (by dsimp only; omega)
    subst start finish
    exact member

theorem nodup_segments (m : IntervalMap ν) : m.segments.Nodup := by
  refine m.separated.imp_of_mem fun {p q} member _ order same => ?_
  have proper := m.nonempty p member
  have := separated_order order
  rw [← same] at this
  omega

/-- A map is determined by the values of its keys. -/
theorem ext_lookup {m n : IntervalMap ν} (same : ∀ k, m.lookup k = n.lookup k) : m = n := by
  have permuted : m.segments.Perm n.segments := by
    refine (List.perm_ext_iff_of_nodup m.nodup_segments n.nodup_segments).mpr ?_
    rintro ⟨I, v⟩
    simp only [mem_segments_iff, same]
  have equal : m.segments = n.segments := by
    refine permuted.eq_of_pairwise (fun p q member other before after => ?_) m.separated n.separated
    have left := separated_order before
    have right := separated_order after
    have proper := m.nonempty p member
    have := n.nonempty q other
    omega
  cases m
  cases n
  simpa using equal

end Canonical

section Operations

variable [DecidableEq ν]

/-- The map that agrees with a function below a bound. -/
def ofFun (f : ℕ → Option ν) (n : ℕ) : IntervalMap ν :=
  ⟨scan f 0 n, (scan_grouped f 0 n).nonempty, (scan_grouped f 0 n).separated⟩

theorem lookup_ofFun (f : ℕ → Option ν) (n k : ℕ) :
    (ofFun f n).lookup k = if k < n then f k else none := by
  rw [lookup, ofFun, valueAt_scan]
  simp

/-- Add a segment: keys without a value take `v`, and the others combine theirs with `v`. -/
def insertWith (combine : ν → ν → ν) (m : IntervalMap ν) (I : HalfOpen) (v : ν) :
    IntervalMap ν :=
  ofFun (fun k => if k ∈ I then some ((m.lookup k).elim v fun w => combine w v)
    else m.lookup k) (max m.bound I.upper)

/-- Remove every key of an interval. -/
def erase (m : IntervalMap ν) (I : HalfOpen) : IntervalMap ν :=
  ofFun (fun k => if k ∈ I then none else m.lookup k) m.bound

@[simp] theorem lookup_insertWith (combine : ν → ν → ν) (m : IntervalMap ν) (I : HalfOpen)
    (v : ν) (k : ℕ) :
    (insertWith combine m I v).lookup k =
      if k ∈ I then some ((m.lookup k).elim v fun w => combine w v) else m.lookup k := by
  rw [insertWith, lookup_ofFun]
  split
  · rfl
  · rename_i large
    have outside : ¬ k ∈ I := by
      rw [mem_interval]
      omega
    rw [if_neg outside, m.lookup_eq_none_of_bound_le (by omega)]

@[simp] theorem lookup_erase (m : IntervalMap ν) (I : HalfOpen) (k : ℕ) :
    (m.erase I).lookup k = if k ∈ I then none else m.lookup k := by
  rw [erase, lookup_ofFun]
  split
  · rfl
  · rename_i large
    rw [m.lookup_eq_none_of_bound_le (by omega), ite_self]

/-- The map without one of its segments. -/
private def without (m : IntervalMap ν) (p : HalfOpen × ν) : IntervalMap ν :=
  ⟨m.segments.erase p, fun q member => m.nonempty q (List.mem_of_mem_erase member),
    m.separated.sublist List.erase_sublist⟩

private theorem lookup_without {m : IntervalMap ν} {I : HalfOpen} {v : ν}
    (member : (I, v) ∈ m.segments) (k : ℕ) :
    (m.without (I, v)).lookup k = if k ∈ I then none else m.lookup k := by
  refine Option.ext fun w => ?_
  simp only [lookup_eq_some_iff, without, m.nodup_segments.mem_erase_iff]
  split_ifs with inside
  · simp only [iff_false]
    rintro ⟨J, ⟨differ, other⟩, also⟩
    exact differ (segments_eq_of_mem other member also inside)
  · rw [lookup_eq_some_iff]
    refine exists_congr fun J => and_congr_left fun also => and_iff_right ?_
    rintro ⟨rfl, rfl⟩
    exact inside also

/-- Removing the interval of a segment removes that segment and changes no other one. -/
theorem segments_erase {m : IntervalMap ν} {I : HalfOpen} {v : ν} (member : (I, v) ∈ m.segments) :
    (m.erase I).segments = m.segments.erase (I, v) := by
  have same : m.erase I = m.without (I, v) :=
    ext_lookup fun k => (lookup_erase m I k).trans (lookup_without member k).symm
  rw [same]
  rfl

theorem cardinality_erase {m : IntervalMap ν} {I : HalfOpen} {v : ν}
    (member : (I, v) ∈ m.segments) :
    m.cardinality = (m.erase I).cardinality + I.cardinality := by
  have moved := (List.perm_cons_erase member).map fun p => p.1.cardinality
  rw [cardinality, cardinality, segments_erase member, moved.sum_eq, List.map_cons, List.sum_cons,
    Nat.add_comm]

end Operations

end IntervalMap

end LinuxAgent.Lib.Segments
