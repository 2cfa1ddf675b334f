/- module: LinuxAgent/Lib/Run
   source: none (general library)
   digest: Finite runs of a partial step function, and the rules for invariants of them. -/

import Mathlib.Algebra.BigOperators.Group.Finset.Basic
import Mathlib.Algebra.BigOperators.Group.Finset.Piecewise
import Mathlib.Data.Fintype.Card

/-!
A machine is a partial step function: `step s e` is the state after event `e`,
or `none` when `e` cannot happen in `s`. Every choice that the code does not
make itself (scheduling, clocks, results of system calls) is part of the event,
so a run is determined by its list of events.

The invariant rules come in three strengths: plain, under a condition that
every step of the run meets, and with the list of past events as an argument.
-/

set_option autoImplicit false
set_option relaxedAutoImplicit false

namespace LinuxAgent.Lib.Run

variable {σ ε : Type*}

/-- The state after a list of events, `none` when one of them cannot happen. -/
def run (step : σ → ε → Option σ) : σ → List ε → Option σ
  | s, [] => some s
  | s, e :: es => (step s e).bind fun t => run step t es

/-- Every step of the run from `s` is taken in a state that meets `P`. -/
def Along (step : σ → ε → Option σ) (P : σ → ε → Prop) : σ → List ε → Prop
  | _, [] => True
  | s, e :: es => P s e ∧ ∀ t, step s e = some t → Along step P t es

/-- How many steps of the run from `s` meet a test. -/
def countAlong (step : σ → ε → Option σ) (p : σ → ε → Bool) : σ → List ε → ℕ
  | _, [] => 0
  | s, e :: es => (p s e).toNat + (step s e).elim 0 fun t => countAlong step p t es

/-- A condition that can be tested at each step can be tested along a run. -/
instance decidableAlong (step : σ → ε → Option σ) (P : σ → ε → Prop)
    [∀ s e, Decidable (P s e)] : (s : σ) → (es : List ε) → Decidable (Along step P s es)
  | _, [] => inferInstanceAs (Decidable True)
  | s, e :: es =>
      match next : step s e with
      | none => decidable_of_iff (P s e)
          ⟨fun here => ⟨here, fun t taken => by simp [next] at taken⟩, And.left⟩
      | some t =>
          have := decidableAlong step P t es
          decidable_of_iff (P s e ∧ Along step P t es)
            ⟨fun both => ⟨both.1, fun u taken => Option.some.inj (next.symm.trans taken) ▸ both.2⟩,
              fun along => ⟨along.1, along.2 t next⟩⟩

section Rules

variable {step : σ → ε → Option σ}

@[simp] theorem run_nil (s : σ) : run step s [] = some s := rfl

theorem run_cons {s u : σ} {e : ε} {es : List ε} :
    run step s (e :: es) = some u ↔ ∃ t, step s e = some t ∧ run step t es = some u := by
  simp only [run, Option.bind_eq_some_iff]

/-- The general rule: the invariant may mention the past events, and each step
may assume the condition that the run meets along the way. -/
theorem history_along {P : σ → ε → Prop} {I : List ε → σ → Prop}
    (stable : ∀ past s e t, I past s → P s e → step s e = some t → I (past ++ [e]) t)
    (past : List ε) {es : List ε} {s u : σ} (start : I past s) (along : Along step P s es)
    (reached : run step s es = some u) : I (past ++ es) u := by
  induction es generalizing past s with
  | nil =>
      obtain rfl : s = u := Option.some.inj reached
      simpa using start
  | cons e es ih =>
      obtain ⟨t, taken, rest⟩ := run_cons.mp reached
      have next := ih (past ++ [e]) (stable past s e t start along.1 taken)
        (along.2 t taken) rest
      simpa only [List.append_assoc, List.singleton_append] using next

theorem run_append {s u : σ} {es fs : List ε} :
    run step s (es ++ fs) = some u ↔ ∃ t, run step s es = some t ∧ run step t fs = some u := by
  induction es generalizing s with
  | nil => simp
  | cons e es ih =>
      simp only [List.cons_append, run_cons, ih]
      constructor
      · rintro ⟨t, taken, m, left, right⟩
        exact ⟨m, ⟨t, taken, left⟩, right⟩
      · rintro ⟨m, ⟨t, taken, left⟩, right⟩
        exact ⟨t, taken, m, left, right⟩

/-- A condition holds along a run exactly when it holds at each of its steps. -/
theorem along_iff {P : σ → ε → Prop} {s : σ} {es : List ε} :
    Along step P s es ↔ ∀ before e after t,
      es = before ++ e :: after → run step s before = some t → P t e := by
  induction es generalizing s with
  | nil => simp [Along]
  | cons e es ih =>
      constructor
      · rintro ⟨here, later⟩ before f after t split reached
        cases before with
        | nil =>
            obtain ⟨rfl, rfl⟩ := List.cons.inj split
            obtain rfl : s = t := Option.some.inj reached
            exact here
        | cons g before =>
            obtain ⟨rfl, rest⟩ := List.cons.inj split
            obtain ⟨m, taken, reached⟩ := run_cons.mp reached
            exact ih.mp (later m taken) before f after t rest reached
      · intro all
        refine ⟨all [] e es s rfl rfl, fun t taken => ih.mpr ?_⟩
        intro before f after u split reached
        exact all (e :: before) f after u (by rw [split]; rfl)
          (run_cons.mpr ⟨t, taken, reached⟩)

theorem along_of_append {P : σ → ε → Prop} {s : σ} {es fs : List ε}
    (along : Along step P s (es ++ fs)) : Along step P s es :=
  along_iff.mpr fun before e after t split reached =>
    along_iff.mp along before e (after ++ fs) t (by simp [split]) reached

theorem along_after {P : σ → ε → Prop} {s t : σ} {es fs : List ε}
    (along : Along step P s (es ++ fs)) (reached : run step s es = some t) :
    Along step P t fs :=
  along_iff.mpr fun before e after u split continued =>
    along_iff.mp along (es ++ before) e after u (by simp [split])
      (run_append.mpr ⟨t, reached, continued⟩)

theorem along_with {P : σ → ε → Prop} {Q : ε → Prop} {s : σ} {es : List ε}
    (all : ∀ e ∈ es, Q e) (along : Along step P s es) :
    Along step (fun s e => P s e ∧ Q e) s es :=
  along_iff.mpr fun before e after t split reached =>
    ⟨along_iff.mp along before e after t split reached, all e (by simp [split])⟩

theorem along_mono {P Q : σ → ε → Prop} (weaker : ∀ s e, P s e → Q s e) {s : σ} {es : List ε}
    (along : Along step P s es) : Along step Q s es :=
  along_iff.mpr fun before e after t split reached =>
    weaker t e (along_iff.mp along before e after t split reached)

/-- In a run that completes, the event after a prefix is taken. -/
theorem taken_of_completes {s t : σ} {es before after : List ε} {e : ε}
    (completes : (run step s es).isSome) (split : es = before ++ e :: after)
    (reached : run step s before = some t) :
    ∃ u, step t e = some u ∧ run step s (before ++ [e]) = some u := by
  obtain ⟨final, whole⟩ := Option.isSome_iff_exists.mp completes
  rw [split] at whole
  obtain ⟨middle, same, later⟩ := run_append.mp whole
  obtain rfl : t = middle := Option.some.inj (reached.symm.trans same)
  obtain ⟨u, taken, _⟩ := run_cons.mp later
  exact ⟨u, taken, run_append.mpr ⟨t, reached, run_cons.mpr ⟨u, taken, rfl⟩⟩⟩

/-- A run of events that can all be taken under an invariant completes. -/
theorem completes_of {Q : ε → Prop} {I : σ → Prop}
    (takes : ∀ s e, I s → Q e → ∃ t, step s e = some t ∧ I t)
    {es : List ε} {s : σ} (start : I s) (all : ∀ e ∈ es, Q e) :
    ∃ t, run step s es = some t ∧ I t := by
  induction es generalizing s with
  | nil => exact ⟨s, rfl, start⟩
  | cons e es ih =>
      obtain ⟨t, taken, next⟩ := takes s e start (all e List.mem_cons_self)
      obtain ⟨u, rest, last⟩ := ih next fun f member => all f (List.mem_cons_of_mem e member)
      exact ⟨u, run_cons.mpr ⟨t, taken, rest⟩, last⟩

theorem along_trivial (s : σ) (es : List ε) :
    Along step (fun _ _ => True) s es := by
  induction es generalizing s with
  | nil => trivial
  | cons e es ih => exact ⟨trivial, fun t _ => ih t⟩

theorem along_of_forall (step : σ → ε → Option σ) {Q : ε → Prop} (s : σ) {es : List ε}
    (all : ∀ e ∈ es, Q e) :
    Along step (fun _ e => Q e) s es :=
  along_mono (fun _ _ both => both.2) (along_with all (along_trivial s es))

/-- An invariant of the past events and the present state, from the initial state on. -/
theorem history {I : List ε → σ → Prop}
    (stable : ∀ past s e t, I past s → step s e = some t → I (past ++ [e]) t)
    {es : List ε} {s u : σ} (start : I [] s) (reached : run step s es = some u) :
    I es u := by
  have carried := history_along (P := fun _ _ => True)
    (fun past s e t inv _ taken => stable past s e t inv taken)
    [] start (along_trivial s es) reached
  simpa using carried

/-- An invariant that each step keeps when it is taken in a state that meets `P`. -/
theorem invariant_along {P : σ → ε → Prop} {I : σ → Prop}
    (stable : ∀ s e t, I s → P s e → step s e = some t → I t)
    {es : List ε} {s u : σ} (start : I s) (along : Along step P s es)
    (reached : run step s es = some u) : I u :=
  history_along (I := fun _ => I)
    (fun _ s e t inv cond taken => stable s e t inv cond taken) [] start along reached

/-- An invariant that every step keeps. -/
theorem invariant {I : σ → Prop}
    (stable : ∀ s e t, I s → step s e = some t → I t)
    {es : List ε} {s u : σ} (start : I s) (reached : run step s es = some u) : I u :=
  history (I := fun _ => I) (fun _ s e t inv taken => stable s e t inv taken) start reached

/-- A measure that no step raises and that the chosen events lower bounds how many of these
there are. -/
theorem countP_le_of_measure {P : σ → ε → Prop} {I : σ → Prop} (measure : σ → ℕ)
    (chosen : ε → Bool)
    (lowers : ∀ s e t, I s → P s e → step s e = some t →
      I t ∧ measure t + (chosen e).toNat ≤ measure s)
    {es : List ε} {s u : σ} (start : I s) (along : Along step P s es)
    (reached : run step s es = some u) : I u ∧ es.countP chosen + measure u ≤ measure s := by
  induction es generalizing s with
  | nil =>
      obtain rfl := Option.some.inj reached
      exact ⟨start, by simp⟩
  | cons e es ih =>
      obtain ⟨t, taken, rest⟩ := run_cons.mp reached
      obtain ⟨next, less⟩ := lowers s e t start along.1 taken
      obtain ⟨last, bounded⟩ := ih next (along.2 t taken) rest
      have counted : (if chosen e = true then 1 else 0) = (chosen e).toNat := by
        cases chosen e <;> rfl
      exact ⟨last, by rw [List.countP_cons, counted]; omega⟩

/-- A measure that every step lowers bounds the length of the runs. -/
theorem length_le_of_measure {P : σ → ε → Prop} {I : σ → Prop} (measure : σ → ℕ)
    (lowers : ∀ s e t, I s → P s e → step s e = some t → I t ∧ measure t < measure s)
    {es : List ε} {s u : σ} (start : I s) (along : Along step P s es)
    (reached : run step s es = some u) : I u ∧ es.length + measure u ≤ measure s := by
  have counted := countP_le_of_measure (P := P) (I := I) measure (fun _ => true) lowers start along
    reached
  simpa using counted

/-- A quantity that grows only at the steps that meet a test, and by one. -/
theorem le_countAlong {P : σ → ε → Prop} (quantity : σ → ℕ) (p : σ → ε → Bool)
    (grows : ∀ s e t, P s e → step s e = some t → quantity t ≤ quantity s + (p s e).toNat)
    {es : List ε} {s u : σ} (along : Along step P s es) (reached : run step s es = some u) :
    quantity u ≤ quantity s + countAlong step p s es := by
  induction es generalizing s with
  | nil =>
      obtain rfl := Option.some.inj reached
      exact Nat.le_add_right _ _
  | cons e es ih =>
      obtain ⟨t, taken, rest⟩ := run_cons.mp reached
      have first := grows s e t along.1 taken
      have later := ih (along.2 t taken) rest
      simp only [countAlong, taken, Option.elim_some]
      omega

/-- A condition on the steps is exactly what keeps every state of a run good, when it
keeps an invariant of good states and each step that breaks it leads to a bad state. -/
theorem good_iff_along {P : σ → ε → Prop} {Q : ε → Prop} {I Good : σ → Prop}
    (good : ∀ s, I s → Good s)
    (stable : ∀ s e t, I s → Q e → P s e → step s e = some t → I t)
    (breaks : ∀ s e t, I s → Q e → ¬ P s e → step s e = some t → ¬ Good t)
    {es : List ε} {s : σ} (start : I s) (all : ∀ e ∈ es, Q e)
    (completes : (run step s es).isSome) :
    (∀ before after t, es = before ++ after → run step s before = some t → Good t) ↔
      Along step P s es := by
  constructor
  · intro every
    induction es generalizing s with
    | nil => trivial
    | cons e es ih =>
        obtain ⟨final, whole⟩ := Option.isSome_iff_exists.mp completes
        obtain ⟨t, taken, rest⟩ := run_cons.mp whole
        have here : P s e := by
          by_contra broken
          exact breaks s e t start (all e List.mem_cons_self) broken taken
            (every [e] es t rfl (run_cons.mpr ⟨t, taken, rfl⟩))
        refine ⟨here, fun u again => ?_⟩
        obtain rfl : t = u := Option.some.inj (taken.symm.trans again)
        refine ih (stable s e t start (all e List.mem_cons_self) here taken)
          (fun f member => all f (List.mem_cons_of_mem e member)) (by simp [rest]) ?_
        intro before after u split reached
        exact every (e :: before) after u (by simp [split]) (run_cons.mpr ⟨t, taken, reached⟩)
  · rintro along before after t rfl reached
    refine good t (invariant_along (P := fun s e => P s e ∧ Q e)
      (fun _ _ _ inv cond taken => stable _ _ _ inv cond.2 cond.1 taken) start ?_ reached)
    exact along_with (fun e member => all e (List.mem_append_left after member))
      (along_of_append along)

/-- Runs of one machine seen as runs of another: each step that is taken under the
condition from a state with the invariant is a run of the other machine. -/
theorem simulates {τ δ : Type*} {other : τ → δ → Option τ} (view : σ → τ)
    {P : σ → ε → Prop} {I : σ → Prop}
    (moves : ∀ s e t, I s → P s e → step s e = some t →
      I t ∧ ∃ ds, run other (view s) ds = some (view t))
    {es : List ε} {s u : σ} (start : I s) (along : Along step P s es)
    (reached : run step s es = some u) :
    I u ∧ ∃ ds, run other (view s) ds = some (view u) :=
  invariant_along (I := fun t => I t ∧ ∃ ds, run other (view s) ds = some (view t))
    (fun _ _ _ inv cond taken =>
      have ⟨next, ds, moved⟩ := moves _ _ _ inv.1 cond taken
      have ⟨before, past⟩ := inv.2
      ⟨next, before ++ ds, run_append.mpr ⟨_, past, moved⟩⟩)
    ⟨start, [], rfl⟩ along reached

end Rules

section Family

variable {ι α : Type*} [Fintype ι]

/-- The number of members of a family that satisfy a test. -/
def tally (p : α → Bool) (f : ι → α) : ℕ := (Finset.univ.filter fun i => p (f i) = true).card

theorem tally_pos {p : α → Bool} {f : ι → α} {i : ι} (member : p (f i) = true) :
    0 < tally p f :=
  Finset.card_pos.mpr ⟨i, by simp [member]⟩

theorem exists_of_tally_pos {p : α → Bool} {f : ι → α} (positive : 0 < tally p f) :
    ∃ i, p (f i) = true := by
  obtain ⟨i, member⟩ := Finset.card_pos.mp positive
  exact ⟨i, (Finset.mem_filter.mp member).2⟩

theorem tally_le_card (p : α → Bool) (f : ι → α) : tally p f ≤ Fintype.card ι :=
  Finset.card_le_univ _

theorem tally_const_true (p : α → Bool) (f : ι → α) (all : ∀ i, p (f i) = true) :
    tally p f = Fintype.card ι := by
  simp [tally, all]

private theorem tally_split [DecidableEq ι] (p : α → Bool) (f : ι → α) (i : ι) :
    tally p f = (p (f i)).toNat + ∑ j ∈ Finset.univ.erase i, (p (f j)).toNat := by
  rw [Finset.add_sum_erase _ (fun j => (p (f j)).toNat) (Finset.mem_univ i), tally,
    Finset.card_filter]
  exact Finset.sum_congr rfl fun j _ => by cases p (f j) <;> rfl

/-- Replacing one member changes the tally by that member alone. -/
theorem tally_update [DecidableEq ι] (p : α → Bool) (f : ι → α) (i : ι) (a : α) :
    tally p (Function.update f i a) + (p (f i)).toNat = tally p f + (p a).toNat := by
  have others : ∑ j ∈ Finset.univ.erase i, (p (Function.update f i a j)).toNat =
      ∑ j ∈ Finset.univ.erase i, (p (f j)).toNat := by
    refine Finset.sum_congr rfl fun j member => ?_
    rw [Function.update_of_ne (Finset.ne_of_mem_erase member)]
  rw [tally_split p (Function.update f i a) i, tally_split p f i, others,
    Function.update_self]
  omega

end Family

end LinuxAgent.Lib.Run
