/- module: LinuxAgent/Tracing/SkipPayload
   source: tracing/cpu_tracer.cc (SkipNonseekableFD, StopTrace)
   digest: The loop that skips a payload ends unless the stream goes dry inside the payload. -/

import LinuxAgent.Tracing.CpuTracer
import Mathlib.Algebra.Order.BigOperators.Group.Finset

/-!
`SkipNonseekableFD` reads until the payload is skipped. The trace descriptor is opened
with `O_NONBLOCK`; what its reads find is the number of bytes that are ready at each of
them, or `none` for a read that fails. A read returns as many of the ready bytes as were
asked for, so every sequence of results is one of these.
-/

set_option autoImplicit false
set_option relaxedAutoImplicit false

namespace LinuxAgent.Tracing

/-- `SkipNonseekableFD`, `none` when it is still reading after `rounds` rounds. -/
def skipNonseekableFD (ready : ℕ → Option ℕ) : (rounds : ℕ) → (amountToSkip : ℤ) →
    Option (Except String Unit)
  | 0, amountToSkip => if amountToSkip > 0 then none else some (.ok ())
  | rounds + 1, amountToSkip =>
      if amountToSkip > 0 then
        match ready 0 with
        | none => some (.error "Couldn't read file descriptor")
        | some bytes =>
            skipNonseekableFD (fun i => ready (i + 1)) rounds
              (amountToSkip - min (bytes : ℤ) (min amountToSkip 512))
      else some (.ok ())

/-- What the first `n` reads return as long as more than that is to be skipped. -/
def returned (ready : ℕ → Option ℕ) (n : ℕ) : ℤ :=
  ∑ i ∈ Finset.range n, min (((ready i).getD 0 : ℕ) : ℤ) 512

/-- From some read on nothing is ready any more, no read before it failed, and what
they returned is less than the payload. -/
def Stalls (ready : ℕ → Option ℕ) (amountToSkip : ℤ) : Prop :=
  ∃ n, (∀ i < n, ready i ≠ none) ∧ returned ready n < amountToSkip ∧
    ∀ i, n ≤ i → ready i = some 0

section Termination

variable {ready : ℕ → Option ℕ} {amount : ℤ}

private theorem returned_nonneg (ready : ℕ → Option ℕ) (n : ℕ) : 0 ≤ returned ready n := by
  apply Finset.sum_nonneg
  intro i _
  exact le_min (Int.natCast_nonneg _) (by decide)

private theorem returned_succ {bytes : ℕ} (first : ready 0 = some bytes) (n : ℕ) :
    returned ready (n + 1) = returned (fun i => ready (i + 1)) n + min (bytes : ℤ) 512 := by
  have split := Finset.sum_range_succ' (fun i => min (((ready i).getD 0 : ℕ) : ℤ) 512) n
  rwa [first, Option.getD_some] at split

private theorem stalls_pos (stalls : Stalls ready amount) : 0 < amount := by
  obtain ⟨n, -, short, -⟩ := stalls
  exact lt_of_le_of_lt (returned_nonneg ready n) short

/-- A stalling stream stalls before and after its first read. -/
private theorem stalls_iff (positive : 0 < amount) :
    Stalls ready amount ↔ ∃ bytes, ready 0 = some bytes ∧
      Stalls (fun i => ready (i + 1)) (amount - min (bytes : ℤ) (min amount 512)) := by
  constructor
  · rintro ⟨n, intact, short, dry⟩
    cases n with
    | zero =>
        refine ⟨0, dry 0 le_rfl, 0, fun i inside => absurd inside (Nat.not_lt_zero i), ?_, ?_⟩
        · have nothing : returned (fun i => ready (i + 1)) 0 = 0 := rfl
          omega
        · intro i _
          exact dry (i + 1) (Nat.zero_le _)
    | succ n =>
        obtain ⟨bytes, first⟩ := Option.ne_none_iff_exists'.mp (intact 0 n.succ_pos)
        have split := returned_succ first n
        have nonneg := returned_nonneg (fun i => ready (i + 1)) n
        refine ⟨bytes, first, n, fun i inside => intact (i + 1) (by omega), by omega, ?_⟩
        intro i later
        exact dry (i + 1) (by omega)
  · rintro ⟨bytes, first, later⟩
    have more := stalls_pos later
    obtain ⟨n, intact, short, dry⟩ := later
    have split := returned_succ first n
    refine ⟨n + 1, ?_, by omega, ?_⟩
    · intro i inside
      cases i with
      | zero => simp [first]
      | succ i => exact intact i (by omega)
    · intro i after
      obtain ⟨j, rfl⟩ : ∃ j, i = j + 1 := ⟨i - 1, by omega⟩
      exact dry j (by omega)

private theorem not_stalls_of_skipped {rounds : ℕ}
    (ends : (skipNonseekableFD ready rounds amount).isSome) : ¬ Stalls ready amount := by
  induction rounds generalizing ready amount with
  | zero =>
      intro stalls
      simp [skipNonseekableFD, stalls_pos stalls] at ends
  | succ rounds ih =>
      intro stalls
      have positive := stalls_pos stalls
      obtain ⟨bytes, first, later⟩ := (stalls_iff positive).mp stalls
      rw [skipNonseekableFD, if_pos positive, first] at ends
      exact ih ends later

/-- One round that returns some bytes, followed by a loop that ends. -/
private theorem skipped_of_later {bytes : ℕ} (first : ready 0 = some bytes)
    (later : ∃ rounds, (skipNonseekableFD (fun i => ready (i + 1)) rounds
      (amount - min (bytes : ℤ) (min amount 512))).isSome) :
    ∃ rounds, (skipNonseekableFD ready rounds amount).isSome := by
  obtain ⟨rounds, ends⟩ := later
  refine ⟨rounds + 1, ?_⟩
  rw [skipNonseekableFD, first]
  split_ifs
  · exact ends
  · rfl

private theorem skipped_of_failed (failed : ready 0 = none) :
    ∃ rounds, (skipNonseekableFD ready rounds amount).isSome := by
  refine ⟨1, ?_⟩
  rw [skipNonseekableFD, failed]
  split_ifs <;> rfl

private theorem skipped_of_nonpos (done : ¬ 0 < amount) :
    ∃ rounds, (skipNonseekableFD ready rounds amount).isSome := by
  refine ⟨0, ?_⟩
  rw [skipNonseekableFD, if_neg done]
  rfl

/-- The measure is what is left to skip, and then the distance to the next read that
does not return 0. -/
private theorem skipped_of_not_stalls (flows : ¬ Stalls ready amount) :
    ∃ rounds, (skipNonseekableFD ready rounds amount).isSome := by
  obtain ⟨left, size⟩ : ∃ left, amount.toNat = left := ⟨_, rfl⟩
  induction left using Nat.strong_induction_on generalizing ready amount with
  | _ left shorter =>
      by_cases positive : 0 < amount
      swap
      · exact skipped_of_nonpos positive
      have progress : ∃ i, ready i ≠ some 0 := by
        by_contra none
        push Not at none
        exact flows ⟨0, fun i inside => absurd inside (Nat.not_lt_zero i), positive,
          fun i _ => none i⟩
      obtain ⟨i, moves⟩ := progress
      induction i generalizing ready with
      | zero =>
          cases first : ready 0 with
          | none => exact skipped_of_failed first
          | some bytes =>
              have nonempty : bytes ≠ 0 := fun zero => moves (zero ▸ first)
              apply skipped_of_later first
              refine shorter _ ?_ ?_ rfl
              · omega
              · exact fun later => flows ((stalls_iff positive).mpr ⟨bytes, first, later⟩)
      | succ i ih =>
          cases first : ready 0 with
          | none => exact skipped_of_failed first
          | some bytes =>
              have next : ¬ Stalls (fun i => ready (i + 1))
                  (amount - min (bytes : ℤ) (min amount 512)) :=
                fun later => flows ((stalls_iff positive).mpr ⟨bytes, first, later⟩)
              apply skipped_of_later first
              by_cases empty : bytes = 0
              · have same : amount - min (bytes : ℤ) (min amount 512) = amount := by omega
                rw [same] at next ⊢
                exact ih next moves
              · exact shorter _ (by omega) next rfl

end Termination

namespace CpuTracer

/-- The next step of a thread that was told to stop: a read of the payload, or the test
at the head of the loop. -/
def stopping (ready : Option ℕ) (tracer : CpuTracer) : TraceEvent :=
  match tracer.pc with
  | .skipping amount => .skip (ready.map fun bytes => min bytes (min amount 512))
  | _ => .testStop

/-- The thread after that many of these steps. -/
def stopAfter (ready : ℕ → Option ℕ) : ℕ → CpuTracer → Option CpuTracer
  | 0, tracer => some tracer
  | steps + 1, tracer =>
      (tracer.step (tracer.stopping (ready 0))).bind
        (stopAfter (fun i => ready (i + 1)) steps)

end CpuTracer

/-- `StopTrace` has set the flag while the thread skips a payload. -/
def stoppedInPayload (flushBuffers : Bool) (amount : ℕ) : CpuTracer :=
  ⟨true, flushBuffers, .skipping amount⟩

section Stopping

variable {ready : ℕ → Option ℕ} {amount : ℕ} {flushBuffers : Bool}

private theorem stopAfter_failed (failed : ready 0 = none) :
    CpuTracer.stopAfter ready 1 (stoppedInPayload flushBuffers amount) =
      some ⟨true, flushBuffers, .exited⟩ := by
  simp [CpuTracer.stopAfter, stoppedInPayload, CpuTracer.stopping, failed, CpuTracer.step,
    CpuTracer.goto]

private theorem stopAfter_succ {bytes : ℕ} (first : ready 0 = some bytes) (steps : ℕ) :
    CpuTracer.stopAfter ready (steps + 1) (stoppedInPayload flushBuffers amount) =
      CpuTracer.stopAfter (fun i => ready (i + 1)) steps
        (if min bytes (min amount 512) < amount then
          stoppedInPayload flushBuffers (amount - min bytes (min amount 512))
        else ⟨true, flushBuffers, .testing⟩) := by
  have moved : (stoppedInPayload flushBuffers amount).step
      ((stoppedInPayload flushBuffers amount).stopping (ready 0)) =
        some (if min bytes (min amount 512) < amount then
          stoppedInPayload flushBuffers (amount - min bytes (min amount 512))
        else ⟨true, flushBuffers, .testing⟩) := by
    rw [first]
    simp only [stoppedInPayload, CpuTracer.stopping, CpuTracer.step, Option.map_some,
      CpuTracer.goto]
    rw [if_pos (min_le_right bytes _)]
    split_ifs <;> rfl
  rw [CpuTracer.stopAfter, moved, Option.bind_some]

/-- As long as the stream is stalled the thread stays inside the payload. -/
private theorem stuck_of_stalls (flushBuffers : Bool) (stalls : Stalls ready amount) (steps : ℕ) :
    ∃ left, CpuTracer.stopAfter ready steps (stoppedInPayload flushBuffers amount) =
      some (stoppedInPayload flushBuffers left) := by
  induction steps generalizing ready amount with
  | zero => exact ⟨amount, rfl⟩
  | succ steps ih =>
      obtain ⟨bytes, first, later⟩ := (stalls_iff (stalls_pos stalls)).mp stalls
      have more := stalls_pos later
      have cast : (amount : ℤ) - min (bytes : ℤ) (min (amount : ℤ) 512) =
          ((amount - min bytes (min amount 512) : ℕ) : ℤ) := by omega
      rw [stopAfter_succ first, if_pos (by omega)]
      rw [cast] at later
      exact ih later

private theorem exits_of_skipped {rounds : ℕ}
    (ends : (skipNonseekableFD ready rounds amount).isSome) :
    ∃ steps last, CpuTracer.stopAfter ready steps (stoppedInPayload flushBuffers amount) =
      some last ∧ last.pc = .exited := by
  induction rounds generalizing ready amount with
  | zero =>
      have nothing : amount = 0 := by
        by_contra nonzero
        rw [skipNonseekableFD, if_pos (by omega)] at ends
        cases ends
      subst nothing
      cases first : ready 0 with
      | none => exact ⟨1, _, stopAfter_failed first, rfl⟩
      | some bytes =>
          refine ⟨2, ⟨true, flushBuffers, .exited⟩, ?_, rfl⟩
          rw [stopAfter_succ first, if_neg (by omega)]
          rfl
  | succ rounds ih =>
      cases first : ready 0 with
      | none => exact ⟨1, _, stopAfter_failed first, rfl⟩
      | some bytes =>
          by_cases more : min bytes (min amount 512) < amount
          · have cast : (amount : ℤ) - min (bytes : ℤ) (min (amount : ℤ) 512) =
                ((amount - min bytes (min amount 512) : ℕ) : ℤ) := by omega
            rw [skipNonseekableFD, if_pos (by omega), first] at ends
            simp only [cast] at ends
            obtain ⟨steps, last, reached, exited⟩ := ih ends
            refine ⟨steps + 1, last, ?_, exited⟩
            rw [stopAfter_succ first, if_pos more, reached]
          · refine ⟨2, ⟨true, flushBuffers, .exited⟩, ?_, rfl⟩
            rw [stopAfter_succ first, if_neg more]
            rfl

/-- `SkipNonseekableFD` returns or throws after finitely many reads, and a thread that
`StopTrace` finds inside a payload ends, exactly when the stream does not go dry inside
the payload. A read that returns 0 is no progress, and the loop does not test for it. -/
theorem skipNonseekableFD_terminates_iff (ready : ℕ → Option ℕ) :
    (∀ amountToSkip : ℤ, (∃ rounds, (skipNonseekableFD ready rounds amountToSkip).isSome) ↔
      ¬ Stalls ready amountToSkip) ∧
    ∀ (amount : ℕ) (flushBuffers : Bool),
      (∃ steps last, CpuTracer.stopAfter ready steps (stoppedInPayload flushBuffers amount) =
        some last ∧ last.pc = .exited) ↔ ¬ Stalls ready amount := by
  have loop : ∀ amountToSkip : ℤ,
      (∃ rounds, (skipNonseekableFD ready rounds amountToSkip).isSome) ↔
        ¬ Stalls ready amountToSkip := by
    intro amountToSkip
    constructor
    · rintro ⟨rounds, ends⟩
      exact not_stalls_of_skipped ends
    · exact skipped_of_not_stalls
  refine ⟨loop, fun amount flushBuffers => ⟨?_, fun flows => ?_⟩⟩
  · rintro ⟨steps, last, reached, exited⟩ stalls
    obtain ⟨left, stuck⟩ := stuck_of_stalls flushBuffers stalls steps
    obtain rfl := Option.some.inj (stuck.symm.trans reached)
    cases exited
  · obtain ⟨rounds, ends⟩ := (loop amount).mpr flows
    exact exits_of_skipped ends

/-- A record of one payload byte is truncated: every read returns 0. The loop does not end,
and neither does the thread that `StopTrace` joins. -/
theorem truncated_payload_not_skipped :
    (∀ rounds, skipNonseekableFD (fun _ => some 0) rounds 1 = none) ∧
      ∀ steps last, CpuTracer.stopAfter (fun _ => some 0) steps (stoppedInPayload false 1) =
        some last → last.pc ≠ .exited := by
  have stalls : Stalls (fun _ => some 0) ((1 : ℕ) : ℤ) :=
    ⟨0, fun i inside => absurd inside (Nat.not_lt_zero i), by decide, fun _ _ => rfl⟩
  constructor
  · intro rounds
    rw [← Option.not_isSome_iff_eq_none]
    exact fun ends => not_stalls_of_skipped ends stalls
  · intro steps last reached exited
    obtain ⟨left, stuck⟩ := stuck_of_stalls false stalls steps
    obtain rfl := Option.some.inj (stuck.symm.trans reached)
    cases exited

end Stopping

end LinuxAgent.Tracing
