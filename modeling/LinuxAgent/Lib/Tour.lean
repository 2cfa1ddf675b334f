/- module: LinuxAgent/Lib/Tour
   source: none (general library)
   digest: Going round a sorted list of stops by a cursor that is compared strictly. -/

import Mathlib.Data.List.Rotate
import Mathlib.Order.Lattice

/-!
A tour visits stops that are laid out in increasing order. Each stop occupies
[start, finish). The cursor is the finish of the last visited stop, and the
next stop is the first that starts strictly after the cursor, or the first of
all when there is none.

A stop that starts at the finish of the one before is passed over. So as many
visits as there are stops go round once exactly when stops touch only where the
tour begins.
-/

set_option autoImplicit false
set_option relaxedAutoImplicit false

namespace LinuxAgent.Lib.Tour

variable {α κ : Type*} [LinearOrder κ] (start finish : α → κ)

/-- The first stop after the cursor, else the first one. -/
def next (stops : List α) (cursor : κ) : Option α :=
  (stops.find? fun p => decide (cursor < start p)).or stops.head?

/-- The stops of the next visits. -/
def tour (stops : List α) : κ → ℕ → List α
  | _, 0 => []
  | cursor, n + 1 =>
      match next start stops cursor with
      | none => []
      | some p => p :: tour stops (finish p) n

/-- Every stop has an extent and ends before the later ones start. -/
structure Ordered (stops : List α) : Prop where
  proper : ∀ p ∈ stops, start p < finish p
  sorted : stops.Pairwise fun p q => finish p ≤ start q

/-- Two stops touch only where the cursor stands in the first of them. -/
def TouchOnlyAt (stops : List α) (cursor : κ) : Prop :=
  ∀ p ∈ stops, ∀ q ∈ stops, finish p = start q → start p ≤ cursor ∧ cursor < finish p

/-- The stops in cyclic order, from the first one that starts at the cursor or later. -/
def fromCursor (stops : List α) (cursor : κ) : List α :=
  (stops.dropWhile fun p => decide (start p < cursor)) ++
    stops.takeWhile fun p => decide (start p < cursor)

variable {start finish} {stops : List α} {cursor : κ}

section Next

theorem next_of_split {passed rest : List α} {p : α} (split : stops = passed ++ p :: rest)
    (behind : ∀ q ∈ passed, start q ≤ cursor) (ahead : cursor < start p) :
    next start stops cursor = some p := by
  have missed : passed.find? (fun q => decide (cursor < start q)) = none :=
    List.find?_eq_none.mpr fun q member => by simpa using behind q member
  rw [next, split, List.find?_append, missed]
  simp [ahead]

theorem next_of_behind (behind : ∀ q ∈ stops, start q ≤ cursor) :
    next start stops cursor = stops.head? := by
  have missed : stops.find? (fun q => decide (cursor < start q)) = none :=
    List.find?_eq_none.mpr fun q member => by simpa using behind q member
  rw [next, missed, Option.none_or]

/-- The next stop lies after the cursor with everything before it behind, or the tour
starts again because nothing lies after the cursor. -/
theorem next_cases {p : α} (chosen : next start stops cursor = some p) :
    (cursor < start p ∧ ∃ passed rest, stops = passed ++ p :: rest ∧
      ∀ q ∈ passed, start q ≤ cursor) ∨
    ((∀ q ∈ stops, start q ≤ cursor) ∧ ∃ rest, stops = p :: rest) := by
  rcases Option.or_eq_some_iff.mp chosen with found | ⟨missed, first⟩
  · obtain ⟨ahead, passed, rest, split, behind⟩ := List.find?_eq_some_iff_append.mp found
    exact Or.inl ⟨of_decide_eq_true ahead, passed, rest, split,
      fun q member => by simpa using behind q member⟩
  · refine Or.inr ⟨fun q member => by simpa using List.find?_eq_none.mp missed q member, ?_⟩
    exact ⟨stops.tail, (List.cons_head?_tail first).symm⟩

end Next

section Order

variable (ordered : Ordered start finish stops)

include ordered

private theorem finish_le_of_split {passed rest : List α} {p q : α}
    (split : stops = passed ++ p :: rest) (later : q ∈ rest) : finish p ≤ start q := by
  have sorted := ordered.sorted
  rw [split] at sorted
  exact (List.pairwise_cons.mp (List.pairwise_append.mp sorted).2.1).1 q later

private theorem finish_le_of_passed {passed rest : List α} {p q : α}
    (split : stops = passed ++ p :: rest) (earlier : q ∈ passed) : finish q ≤ start p := by
  have sorted := ordered.sorted
  rw [split] at sorted
  exact (List.pairwise_append.mp sorted).2.2 q earlier p List.mem_cons_self

/-- Where two stops touch, the first one stands before the second. -/
private theorem passed_of_touch {passed rest : List α} {p q : α} (member : p ∈ stops)
    (touch : finish p = start q) (split : stops = passed ++ q :: rest) : p ∈ passed := by
  have extent := ordered.proper p member
  rw [split] at member
  rcases List.mem_append.mp member with earlier | member
  · exact earlier
  · exfalso
    rcases List.mem_cons.mp member with rfl | later
    · exact extent.ne touch.symm
    · have order := finish_le_of_split ordered split later
      have proper := ordered.proper q (by simp [split])
      exact lt_irrefl _ ((extent.trans_eq touch).trans (proper.trans_le order))

/-- Touching stops are neighbours. -/
private theorem split_of_touch {p q : α} (member : p ∈ stops) (other : q ∈ stops)
    (touch : finish p = start q) : ∃ passed rest, stops = passed ++ p :: q :: rest := by
  obtain ⟨passed, rest, split⟩ := List.append_of_mem other
  have before := passed_of_touch ordered member touch split
  rcases List.eq_nil_or_concat' passed with rfl | ⟨passed, r, rfl⟩
  · simp at before
  · rcases List.mem_append.mp before with earlier | same
    · have split' : stops = passed ++ r :: (q :: rest) := by simp [split]
      have first := finish_le_of_passed ordered split' earlier
      have proper := ordered.proper r (by simp [split])
      have second := finish_le_of_split ordered split' List.mem_cons_self
      exact absurd touch (first.trans_lt (proper.trans_le second)).ne
    · obtain rfl := List.mem_singleton.mp same
      exact ⟨passed, rest, by simp [split]⟩

/-- A stop that touches the one before it is not the next stop from there. -/
private theorem next_ne_touching {p q : α} (member : p ∈ stops) (touch : finish p = start q) :
    next start stops (finish p) ≠ some q := by
  intro chosen
  rcases next_cases chosen with ⟨ahead, _⟩ | ⟨_, rest, split⟩
  · exact ahead.ne touch
  · have before := passed_of_touch ordered member touch
      (show stops = [] ++ q :: rest from split)
    simp at before

end Order

section Visits

private theorem tour_succ {p : α} (n : ℕ) (chosen : next start stops cursor = some p) :
    tour start finish stops cursor (n + 1) = p :: tour start finish stops (finish p) n := by
  simp only [tour, chosen]

/-- A tour that is not empty begins with the next stop and goes on from its finish. -/
private theorem next_of_tour {n : ℕ} {q : α} {rest : List α}
    (visited : tour start finish stops cursor n = q :: rest) :
    next start stops cursor = some q ∧ ∃ m, tour start finish stops (finish q) m = rest := by
  cases n with
  | zero => simp [tour] at visited
  | succ n =>
      cases chosen : next start stops cursor with
      | none => simp [tour, chosen] at visited
      | some p =>
          rw [tour_succ n chosen] at visited
          obtain ⟨rfl, later⟩ := List.cons.inj visited
          exact ⟨rfl, n, later⟩

/-- In a tour each stop is the next one from the finish of the stop before it. -/
private theorem next_of_adjacent {n : ℕ} {earlier rest : List α} {p q : α}
    (visited : tour start finish stops cursor n = earlier ++ p :: q :: rest) :
    next start stops (finish p) = some q := by
  induction earlier generalizing cursor n with
  | nil =>
      obtain ⟨_, _, later⟩ := next_of_tour visited
      exact (next_of_tour later).1
  | cons r earlier ih =>
      obtain ⟨_, _, later⟩ := next_of_tour visited
      exact ih later

/-- A tour walks through neighbouring stops that lie ahead and do not touch each other. -/
private theorem tour_block (ordered : Ordered start finish stops) {passed block rest : List α}
    (split : stops = passed ++ block ++ rest) (behind : ∀ p ∈ passed, start p ≤ cursor)
    (ahead : ∀ q ∈ block, cursor < start q)
    (gapped : block.Pairwise fun p q => finish p < start q) :
    ∃ end_, (∀ p ∈ passed ++ block, start p ≤ end_) ∧
      ∀ n, tour start finish stops cursor (block.length + n) =
        block ++ tour start finish stops end_ n := by
  -- The induction moves the first stop of the block to those behind the cursor.
  induction block generalizing passed cursor with
  | nil => exact ⟨cursor, by simpa using behind, fun n => by simp⟩
  | cons p block ih =>
      obtain ⟨first, gapped⟩ := List.pairwise_cons.mp gapped
      have split' : stops = passed ++ p :: (block ++ rest) := by simp [split]
      have extent := ordered.proper p (by simp [split])
      have behind' : ∀ q ∈ passed ++ [p], start q ≤ finish p := by
        intro q member
        rcases List.mem_append.mp member with earlier | same
        · have order := finish_le_of_passed ordered split' earlier
          have proper := ordered.proper q (by simp [split, earlier])
          exact (proper.trans_le (order.trans extent.le)).le
        · rw [List.mem_singleton.mp same]
          exact extent.le
      obtain ⟨end_, reached, visits⟩ := ih (by simp [split]) behind' first gapped
      refine ⟨end_, by simpa using reached, fun n => ?_⟩
      have chosen := next_of_split split' behind (ahead p List.mem_cons_self)
      rw [List.length_cons, Nat.add_right_comm, tour_succ _ chosen, visits n]
      rfl

/-- A tour through stops that touch neither ahead of the cursor nor behind it. -/
private theorem tour_of_gapped (ordered : Ordered start finish stops) {passed rest : List α}
    (split : stops = passed ++ rest) (behind : ∀ p ∈ passed, start p ≤ cursor)
    (ahead : ∀ q ∈ rest, cursor < start q)
    (gappedBehind : passed.Pairwise fun p q => finish p < start q)
    (gappedAhead : rest.Pairwise fun p q => finish p < start q) :
    tour start finish stops cursor stops.length = rest ++ passed := by
  obtain ⟨end_, reached, visits⟩ :=
    tour_block ordered (by simp [split] : stops = passed ++ rest ++ []) behind ahead gappedAhead
  rw [split, List.length_append, Nat.add_comm, ← split, visits passed.length]
  congr 1
  cases passed with
  | nil => rfl
  | cons p passed =>
      obtain ⟨first, gapped⟩ := List.pairwise_cons.mp gappedBehind
      have chosen : next start stops end_ = some p := by
        rw [next_of_behind (split ▸ reached), split]
        rfl
      have extent := ordered.proper p (by simp [split])
      obtain ⟨_, _, again⟩ := tour_block ordered
        (by simp [split] : stops = [p] ++ passed ++ rest)
        (by simpa using extent.le) first gapped
      rw [List.length_cons, tour_succ _ chosen, ← Nat.add_zero passed.length, again 0]
      simp [tour]

end Visits

section Rounds

/-- A rotation keeps two neighbours together unless it cuts between them. -/
private theorem rotated_pair {left right passed rest : List α} {p q : α}
    (whole : left ++ right = passed ++ p :: q :: rest) :
    (∃ earlier later, right ++ left = earlier ++ p :: q :: later) ∨ right = q :: rest := by
  rcases List.append_eq_append_iff.mp whole with ⟨middle, _, rfl⟩ | ⟨middle, rfl, later⟩
  · exact Or.inl ⟨middle, rest ++ left, by simp⟩
  · rcases middle with - | ⟨r, - | ⟨r', middle⟩⟩
    · exact Or.inl ⟨[], rest ++ passed, by simp [show right = p :: q :: rest from later.symm]⟩
    · exact Or.inr (List.cons.inj later).2.symm
    · obtain ⟨rfl, tails⟩ := List.cons.inj later
      obtain ⟨rfl, _⟩ := List.cons.inj tails
      exact Or.inl ⟨right ++ passed, middle, by simp⟩

private theorem isRotated_fromCursor (stops : List α) (cursor : κ) :
    stops.IsRotated (fromCursor start stops cursor) := by
  have rotated : (stops.takeWhile (fun p => decide (start p < cursor)) ++
      stops.dropWhile (fun p => decide (start p < cursor))).IsRotated
        (fromCursor start stops cursor) := List.isRotated_append
  rwa [List.takeWhile_append_dropWhile] at rotated

private theorem fromCursor_of_split {passed rest : List α} (split : stops = passed ++ rest)
    (earlier : ∀ p ∈ passed, start p < cursor) (later : ∀ q ∈ rest, cursor ≤ start q) :
    fromCursor start stops cursor = rest ++ passed := by
  have before : ∀ p ∈ passed, decide (start p < cursor) = true := fun p member =>
    decide_eq_true (earlier p member)
  rw [fromCursor, split, List.dropWhile_append_of_pos before, List.takeWhile_append_of_pos before]
  cases rest with
  | nil => simp
  | cons q rest => simp [(later q List.mem_cons_self).not_gt]

private theorem eq_of_isRotated_single {visited : List α} (single : stops.length ≤ 1)
    (rotated : stops.IsRotated visited) : visited = stops := by
  match stops, single with
  | [], _ => exact (List.isRotated_nil_iff'.mp rotated).symm
  | [p], _ => exact (List.isRotated_singleton_iff'.mp rotated).symm

variable (ordered : Ordered start finish stops)

include ordered

/-- A cursor splits the stops into those that start at it or before, and those after. -/
private theorem exists_split (cursor : κ) :
    ∃ passed rest, stops = passed ++ rest ∧ (∀ p ∈ passed, start p ≤ cursor) ∧
      ∀ q ∈ rest, cursor < start q := by
  induction stops with
  | nil => exact ⟨[], [], rfl, by simp, by simp⟩
  | cons p later ih =>
      obtain ⟨first, sorted⟩ := List.pairwise_cons.mp ordered.sorted
      have proper := ordered.proper p List.mem_cons_self
      by_cases here : start p ≤ cursor
      · obtain ⟨passed, rest, split, behind, ahead⟩ :=
          ih ⟨fun q member => ordered.proper q (List.mem_cons_of_mem p member), sorted⟩
        exact ⟨p :: passed, rest, by simp [split], by simpa [here] using behind, ahead⟩
      · refine ⟨[], p :: later, rfl, by simp, fun q member => ?_⟩
        rcases List.mem_cons.mp member with rfl | member
        · exact not_le.mp here
        · exact (not_le.mp here).trans (proper.trans_le (first q member))

/-- Stops that touch only at the cursor are visited once each, from the cursor on. -/
private theorem tour_of_touchOnlyAt (touching : TouchOnlyAt start finish stops cursor)
    {passed rest : List α} (split : stops = passed ++ rest)
    (behind : ∀ p ∈ passed, start p ≤ cursor) (ahead : ∀ q ∈ rest, cursor < start q) :
    tour start finish stops cursor stops.length = rest ++ passed := by
  have sorted := ordered.sorted
  rw [split] at sorted
  obtain ⟨first, second, _⟩ := List.pairwise_append.mp sorted
  refine tour_of_gapped ordered split behind ahead ?_ ?_
  · refine first.imp_of_mem fun {p q} member other order => order.lt_of_ne fun touch => ?_
    have inside := touching p (by simp [split, member]) q (by simp [split, other]) touch
    exact absurd (behind q other) (touch ▸ inside.2).not_ge
  · refine second.imp_of_mem fun {p q} member other order => order.lt_of_ne fun touch => ?_
    have inside := touching p (by simp [split, member]) q (by simp [split, other]) touch
    exact absurd inside.1 (ahead p member).not_ge

/-- As many visits as there are stops visit each stop once and in cyclic order, exactly
when stops touch only at the cursor. -/
theorem isRotated_tour_iff :
    stops.IsRotated (tour start finish stops cursor stops.length) ↔
      TouchOnlyAt start finish stops cursor := by
  constructor
  · intro rotated p member q other touch
    obtain ⟨passed, rest, split⟩ := split_of_touch ordered member other touch
    obtain ⟨n, small, visited⟩ := List.isRotated_iff_mod.mp rotated
    rw [List.rotate_eq_drop_append_take small] at visited
    rcases rotated_pair ((List.take_append_drop n stops).trans split) with
      ⟨earlier, later, together⟩ | cut
    · rw [together] at visited
      exact absurd (next_of_adjacent visited.symm) (next_ne_touching ordered member touch)
    · rw [cut, List.cons_append] at visited
      rcases next_cases (next_of_tour visited.symm).1 with
        ⟨ahead, before, after, split', behind⟩ | ⟨_, after, split'⟩
      · exact ⟨behind p (passed_of_touch ordered member touch split'), touch ▸ ahead⟩
      · have before := passed_of_touch ordered member touch
          (show stops = [] ++ q :: after from split')
        simp at before
  · intro touching
    obtain ⟨passed, rest, split, behind, ahead⟩ := exists_split ordered cursor
    rw [tour_of_touchOnlyAt ordered touching split behind ahead, split]
    exact List.isRotated_append

/-- A stop that starts at the cursor itself comes last and not first. -/
private theorem tour_of_at {passed rest : List α} {p : α}
    (touching : TouchOnlyAt start finish stops cursor) (split : stops = passed ++ p :: rest)
    (here : start p = cursor) :
    tour start finish stops cursor stops.length = (rest ++ passed) ++ [p] ∧
      fromCursor start stops cursor = p :: (rest ++ passed) := by
  have extent := ordered.proper p (by simp [split])
  have earlier : ∀ q ∈ passed, start q < cursor := fun q member =>
    (ordered.proper q (by simp [split, member])).trans_le
      ((finish_le_of_passed ordered split member).trans_eq here)
  have later : ∀ q ∈ rest, cursor < start q := fun q member =>
    here ▸ extent.trans_le (finish_le_of_split ordered split member)
  constructor
  · rw [tour_of_touchOnlyAt ordered touching (by simp [split] : stops = (passed ++ [p]) ++ rest)
      ?_ later, List.append_assoc]
    intro q member
    rcases List.mem_append.mp member with before | same
    · exact (earlier q before).le
    · rw [List.mem_singleton.mp same]
      exact here.le
  · refine fromCursor_of_split split earlier fun q member => ?_
    rcases List.mem_cons.mp member with rfl | after
    · exact here.ge
    · exact (later q after).le

/-- The rotation also begins right at the cursor exactly when, in addition, no stop starts
at the cursor itself, unless it is the only one. -/
theorem tour_eq_fromCursor_iff :
    tour start finish stops cursor stops.length = fromCursor start stops cursor ↔
      TouchOnlyAt start finish stops cursor ∧
        (stops.length ≤ 1 ∨ ∀ p ∈ stops, start p ≠ cursor) := by
  constructor
  · intro same
    have touching : TouchOnlyAt start finish stops cursor :=
      (isRotated_tour_iff ordered).mp (same ▸ isRotated_fromCursor stops cursor)
    refine ⟨touching, or_iff_not_imp_left.mpr fun several p member here => ?_⟩
    obtain ⟨passed, rest, split⟩ := List.append_of_mem member
    obtain ⟨visited, expected⟩ := tour_of_at ordered touching split here
    rw [visited, expected] at same
    have extent := ordered.proper p member
    cases others : rest ++ passed with
    | nil =>
        obtain ⟨rfl, rfl⟩ := List.append_eq_nil_iff.mp others
        simp [split] at several
    | cons r others' =>
        rw [others, List.cons_append] at same
        obtain rfl := (List.cons.inj same).1
        have again : r ∈ rest ++ passed := by simp [others]
        rcases List.mem_append.mp again with later | earlier
        · exact extent.not_ge (finish_le_of_split ordered split later)
        · exact extent.not_ge (finish_le_of_passed ordered split earlier)
  · rintro ⟨touching, single | off⟩
    · rw [eq_of_isRotated_single single ((isRotated_tour_iff ordered).mpr touching),
        eq_of_isRotated_single single (isRotated_fromCursor stops cursor)]
    · obtain ⟨passed, rest, split, behind, ahead⟩ := exists_split ordered cursor
      rw [tour_of_touchOnlyAt ordered touching split behind ahead,
        fromCursor_of_split split (fun p member => (behind p member).lt_of_ne
          (off p (by simp [split, member]))) fun q member => (ahead q member).le]

end Rounds

end LinuxAgent.Lib.Tour
