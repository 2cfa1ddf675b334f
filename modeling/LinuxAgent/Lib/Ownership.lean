/- module: LinuxAgent/Lib/Ownership
   source: none (general library)
   digest: A table that says who holds what, and holders who know what is theirs. -/

import Mathlib.Logic.Function.Basic

/-!
The table is the truth: it gives the holder of each key. What the holders take for theirs is
a relation of its own, since nothing but their discipline keeps the two together.
-/

set_option autoImplicit false
set_option relaxedAutoImplicit false

namespace LinuxAgent.Lib.Ownership

variable {η κ : Type*}

/-- The holders hold exactly what the table gives them. -/
def Exact (table : κ → Option η) (holds : η → κ → Prop) : Prop :=
  ∀ holder key, table key = some holder ↔ holds holder key

namespace Exact

variable {table : κ → Option η} {holds after : η → κ → Prop} {holder other : η} {key : κ}

theorem congr (inv : Exact table holds) (same : ∀ holder key, after holder key ↔ holds holder key) :
    Exact table after := fun holder key => (inv holder key).trans (same holder key).symm

/-- Nobody holds what is free. -/
theorem not_holds (inv : Exact table holds) (free : table key = none) : ¬ holds holder key := by
  intro held
  have taken := (inv holder key).mpr held
  rw [free] at taken
  cases taken

variable [DecidableEq κ]

/-- A holder takes a free key. -/
theorem acquire (inv : Exact table holds) (free : table key = none)
    (took : ∀ h k, after h k ↔ holds h k ∨ (h = holder ∧ k = key)) :
    Exact (Function.update table key (some holder)) after := by
  intro h k
  rw [took]
  by_cases same : k = key
  · subst same
    have nobody : ¬ holds h k := inv.not_holds free
    simp [nobody, eq_comm]
  · simp [same, inv h k]

/-- A holder gives up a key of its own. -/
theorem release (inv : Exact table holds) (held : holds holder key)
    (gave : ∀ h k, after h k ↔ holds h k ∧ ¬ (h = holder ∧ k = key)) :
    Exact (Function.update table key none) after := by
  intro h k
  rw [gave]
  by_cases same : k = key
  · subst same
    have owner := (inv holder k).mpr held
    have alone : holds h k → h = holder := fun also =>
      Option.some.inj (((inv h k).mpr also).symm.trans owner)
    simpa using alone
  · simp [same, inv h k]

/-- Emptying a place that is empty. -/
theorem release_free (inv : Exact table holds) (free : table key = none) :
    Exact (Function.update table key none) holds := by
  rwa [← free, Function.update_eq_self]

/-- Emptying the place of a key that somebody holds leaves that holder without it. -/
theorem lost (inv : Exact table holds) (taken : table key ≠ none) :
    ∃ holder, holds holder key ∧ Function.update table key none key ≠ some holder := by
  obtain ⟨holder, owner⟩ := Option.ne_none_iff_exists'.mp taken
  exact ⟨holder, (inv holder key).mp owner, by simp⟩

end Exact

section Family

variable {ι σ : Type*} {table : κ → Option ι} {members : ι → σ} {key : σ → Option κ} {i j : ι}
  {member : σ} {k : κ}

/-- The members of a family that each hold at most one key. -/
def Held (key : σ → Option κ) (members : ι → σ) (i : ι) (k : κ) : Prop := key (members i) = some k

/-- One key is not held by two members. -/
theorem Exact.unique (inv : Exact table (Held key members)) (one : key (members i) = some k)
    (two : key (members j) = some k) : i = j :=
  Option.some.inj (((inv i k).mpr one).symm.trans ((inv j k).mpr two))

variable [DecidableEq ι]

private theorem held_update :
    Held key (Function.update members i member) j k ↔
      if j = i then key member = some k else Held key members j k := by
  unfold Held
  by_cases same : j = i
  · subst same
    simp
  · simp [same]

theorem Exact.keep (inv : Exact table (Held key members)) (same : key member = key (members i)) :
    Exact table (Held key (Function.update members i member)) := by
  refine inv.congr fun j k => held_update.trans ?_
  by_cases own : j = i
  · rw [if_pos own, own, same]
    rfl
  · rw [if_neg own]

variable [DecidableEq κ]

theorem Exact.take (inv : Exact table (Held key members)) (free : table k = none)
    (before : key (members i) = none) (after : key member = some k) :
    Exact (Function.update table k (some i))
      (Held key (Function.update members i member)) := by
  refine inv.acquire free fun j k => held_update.trans ?_
  by_cases own : j = i
  · subst own
    simp [Held, before, after, eq_comm]
  · simp [own]

theorem Exact.give (inv : Exact table (Held key members)) (before : key (members i) = some k)
    (after : key member = none) :
    Exact (Function.update table k none) (Held key (Function.update members i member)) := by
  have held : Held key members i k := before
  refine inv.release held fun j k => held_update.trans ?_
  by_cases own : j = i
  · subst own
    simp [Held, before, after, eq_comm]
  · simp [own]

end Family

end LinuxAgent.Lib.Ownership
