/- module: LinuxAgent/Freeze/Wakeups
   source: freeze_helper/freeze_helper.{h,cc}
   digest: When a notification of the unfreeze thread can be lost, and that it is lost only then. -/

import LinuxAgent.Freeze.FreezeHelper

/-!
The caller tests the flags and then blocks, and the unfreeze thread sets a flag and
then notifies. Nothing keeps the thread from doing both between the test and the wait:
it does not take `continue_mutex_`. The notification is then lost, and with
`did_freeze_` set no second one is due for it.
-/

set_option autoImplicit false
set_option relaxedAutoImplicit false

namespace LinuxAgent.Freeze

open LinuxAgent.Lib.Run

/-- The thread has set `did_freeze_` and has yet to notify. -/
def owesFrozenNotice (thread : Option UnfreezePc) : Prop :=
  thread = some .didSet ∨ thread = some .frozenSet

/-- The thread has set `was_error_` and has yet to notify. -/
def owesErrorNotice (thread : Option UnfreezePc) : Prop := thread = some .errorSet

namespace FreezeHelper

/-- The caller is blocked although a flag it waits for is set, and the notification for
that flag has been issued. -/
def Stuck (h : FreezeHelper) : Prop :=
  ∃ attempts, h.caller = .blocked attempts ∧
    (h.didFreeze = true ∧ ¬ owesFrozenNotice h.unfreezeThread ∨
      h.wasError = true ∧ ¬ owesErrorNotice h.unfreezeThread)

/-- The caller found `did_freeze_` false and has not blocked yet. -/
def testedDid (h : FreezeHelper) : Bool :=
  match h.caller with
  | .testingError _ | .waiting _ => true
  | _ => false

/-- The caller found both flags false and has not blocked yet. -/
def testedError (h : FreezeHelper) : Bool :=
  match h.caller with
  | .waiting _ => true
  | _ => false

/-- No flag is notified between the caller's test of it and the wait. -/
def NotifiesInTime (h : FreezeHelper) : FreezeEvent → Prop
  | .thread .notifyFrozen => h.testedDid = false
  | .thread .notifyError => h.testedError = false
  | _ => True

instance (h : FreezeHelper) (e : FreezeEvent) : Decidable (h.NotifiesInTime e) := by
  unfold NotifiesInTime
  split <;> infer_instance

/-- Between its tests and the end of its wait the caller can rely on a notification
for each flag that has been set since. -/
structure Awaited (h : FreezeHelper) : Prop where
  did : h.testedDid = true ∨ (∃ attempts, h.caller = .blocked attempts) →
    h.didFreeze = true → owesFrozenNotice h.unfreezeThread
  error : h.testedError = true ∨ (∃ attempts, h.caller = .blocked attempts) →
    h.wasError = true → owesErrorNotice h.unfreezeThread

theorem Awaited.not_stuck {h : FreezeHelper} (inv : h.Awaited) : ¬ h.Stuck := by
  rintro ⟨attempts, pc, did | error⟩
  · exact did.2 (inv.did (.inr ⟨attempts, pc⟩) did.1)
  · exact error.2 (inv.error (.inr ⟨attempts, pc⟩) error.1)

end FreezeHelper

private theorem awaited_callerStep {h t : FreezeHelper} {e : CallerEvent} (inv : h.Awaited)
    (taken : CallerStep h e t) : t.Awaited := by
  cases taken with
  | didNotFreeze attempts pc not =>
      refine ⟨fun _ did => ?_, ?_⟩
      · exact absurd (not.symm.trans did) Bool.false_ne_true
      · rintro (tested | ⟨others, blocked⟩) error
        · cases tested
        · cases blocked
  | noError attempts pc none =>
      refine ⟨fun _ did => ?_, fun _ error => ?_⟩
      · exact inv.did (.inl (by simp [FreezeHelper.testedDid, pc])) did
      · exact absurd (none.symm.trans error) Bool.false_ne_true
  | wait attempts pc =>
      refine ⟨fun _ did => ?_, fun _ error => ?_⟩
      · exact inv.did (.inl (by simp [FreezeHelper.testedDid, pc])) did
      · exact inv.error (.inl (by simp [FreezeHelper.testedError, pc])) error
  | _ =>
      constructor <;> rintro (tested | ⟨others, blocked⟩)
      · cases tested
      · cases blocked
      · cases tested
      · cases blocked

/-- After a notification the caller is not blocked, and it has tested what it had tested. -/
private theorem tested_notifyOne (h : FreezeHelper) :
    (∀ attempts, h.notifyOne.caller ≠ .blocked attempts) ∧
      (h.notifyOne.testedDid = true → h.testedDid = true) ∧
      (h.notifyOne.testedError = true → h.testedError = true) := by
  unfold FreezeHelper.testedDid FreezeHelper.testedError
  rcases h.caller_notifyOne with ⟨same, awake⟩ | ⟨attempts, _, testing⟩
  · rw [same]
    exact ⟨awake, id, id⟩
  · rw [testing]
    exact ⟨nofun, nofun, nofun⟩

private theorem testedDid_of_testedError {h : FreezeHelper} (tested : h.testedError = true) :
    h.testedDid = true := by
  unfold FreezeHelper.testedError at tested
  unfold FreezeHelper.testedDid
  split at tested
  next pc => rw [pc]
  next => cases tested

private theorem awaited_threadStep {h t : FreezeHelper} {e : ThreadEvent} (inv : h.Awaited)
    (inTime : h.NotifiesInTime (.thread e)) (taken : ThreadStep h e t) : t.Awaited := by
  cases taken with
  | notifyFrozen pc =>
      obtain ⟨awake, did, error⟩ := tested_notifyOne (h.toThread .sleeping)
      have untested : h.testedDid = false := inTime
      constructor
      · rintro (tested | ⟨attempts, blocked⟩)
        · exact absurd (untested.symm.trans (did tested)) Bool.false_ne_true
        · exact absurd blocked (awake attempts)
      · rintro (tested | ⟨attempts, blocked⟩)
        · have both : h.testedDid = true := testedDid_of_testedError (error tested)
          exact absurd (untested.symm.trans both) Bool.false_ne_true
        · exact absurd blocked (awake attempts)
  | notifyError pc =>
      obtain ⟨awake, did, error⟩ := tested_notifyOne (h.toThread .ended)
      have untested : h.testedError = false := inTime
      constructor
      · rintro (tested | ⟨attempts, blocked⟩) set
        · rw [FreezeHelper.didFreeze_notifyOne] at set
          have owed := inv.did (.inl (did tested)) set
          simp [owesFrozenNotice, pc] at owed
        · exact absurd blocked (awake attempts)
      · rintro (tested | ⟨attempts, blocked⟩)
        · exact absurd (untested.symm.trans (error tested)) Bool.false_ne_true
        · exact absurd blocked (awake attempts)
  | setDid pc =>
      refine ⟨fun _ _ => .inl rfl, fun waits error => ?_⟩
      exact absurd (inv.error waits error) (by simp [owesErrorNotice, pc])
  | setFrozen pc =>
      refine ⟨fun _ _ => .inr rfl, fun waits error => ?_⟩
      exact absurd (inv.error waits error) (by simp [owesErrorNotice, pc])
  | setError what pc =>
      refine ⟨fun waits did => ?_, fun _ _ => rfl⟩
      exact absurd (inv.did waits did) (by simp [owesFrozenNotice, pc])
  | _ =>
      rename_i pc
      constructor
      · intro waits did
        exact absurd (inv.did waits did) (by simp [owesFrozenNotice, pc])
      · intro waits error
        exact absurd (inv.error waits error) (by simp [owesErrorNotice, pc])

private theorem awaited_step {h t : FreezeHelper} {e : FreezeEvent} (inv : h.Awaited)
    (inTime : h.NotifiesInTime e) (taken : h.step e = some t) : t.Awaited := by
  cases e with
  | caller e => exact awaited_callerStep inv (callerStep_cases taken)
  | thread e => exact awaited_threadStep inv inTime (threadStep_cases taken)

private theorem awaited_new (didFreeze : Bool) : (FreezeHelper.new didFreeze).Awaited := by
  constructor <;> rintro (tested | ⟨attempts, blocked⟩)
  · cases tested
  · cases blocked
  · cases tested
  · cases blocked

/-- What the place of the unfreeze thread says about the flags. -/
def FreezeHelper.Flagged (h : FreezeHelper) : Prop :=
  match h.unfreezeThread with
  | none | some .ended => True
  | some .didSet | some .frozenSet => h.didFreeze = true ∧ h.wasError = false
  | some .errorSet => h.wasError = true
  | some _ => h.wasError = false

private theorem flagged_step {h t : FreezeHelper} {e : FreezeEvent} (inv : h.Flagged)
    (taken : h.step e = some t) : t.Flagged := by
  unfold FreezeHelper.Flagged at inv ⊢
  cases e with
  | caller e =>
      cases callerStep_cases taken with
      | join | joinInDestructor => trivial
      | startThread => rfl
      | _ => exact inv
  | thread e =>
      cases threadStep_cases taken with
      | notifyFrozen pc | notifyError pc =>
          rw [pc] at inv
          simp [FreezeHelper.toThread, inv]
      | setDid pc =>
          rw [pc] at inv
          exact ⟨rfl, inv⟩
      | setFrozen pc =>
          rw [pc] at inv
          exact inv
      | setError => rfl
      | thawReturn => trivial
      | _ =>
          rename_i pc
          rw [pc] at inv
          exact inv

private theorem flagged_run {didFreeze : Bool} {events : List FreezeEvent} {h : FreezeHelper}
    (reached : run FreezeHelper.step (.new didFreeze) events = some h) : h.Flagged :=
  invariant (fun _ _ _ inv taken => flagged_step inv taken)
    (show (FreezeHelper.new didFreeze).Flagged from trivial) reached

private theorem notifyOne_of_waiting {h : FreezeHelper} {attempts : ℕ}
    (pc : h.caller = .waiting attempts) : h.notifyOne = h := by
  simp only [FreezeHelper.notifyOne, pc]

private theorem step_wait {h : FreezeHelper} {attempts : ℕ} (pc : h.caller = .waiting attempts) :
    h.step (.caller .wait) = some (h.goto (.blocked attempts)) := by
  simp only [FreezeHelper.step, FreezeHelper.callerStep, pc]

/-- A notification that comes after the test and before the wait leaves the caller blocked
with none due for the flag, as soon as the caller goes on. -/
private theorem stuck_of_late {h t : FreezeHelper} {e : FreezeEvent} (flagged : h.Flagged)
    (late : ¬ h.NotifiesInTime e) (taken : h.step e = some t) :
    ∃ (steps : List CallerEvent) (u : FreezeHelper),
      run FreezeHelper.step t (steps.map .caller) = some u ∧ u.Stuck := by
  unfold FreezeHelper.Flagged at flagged
  unfold FreezeHelper.NotifiesInTime at late
  split at late
  next =>
    cases threadStep_cases taken with
    | notifyFrozen pc =>
      rw [pc] at flagged
      have tested : h.testedDid = true := by simpa using late
      unfold FreezeHelper.testedDid at tested
      split at tested
      next attempts place =>
        refine ⟨[.testError, .wait], (h.toThread .sleeping).goto (.blocked attempts), ?_,
          attempts, rfl, .inl ⟨flagged.1, by simp [owesFrozenNotice, FreezeHelper.toThread,
            FreezeHelper.goto]⟩⟩
        simp [run, FreezeHelper.step, FreezeHelper.callerStep, FreezeHelper.notifyOne,
          FreezeHelper.toThread, FreezeHelper.goto, place, flagged.2]
      next attempts place =>
        refine ⟨[.wait], (h.toThread .sleeping).goto (.blocked attempts), ?_,
          attempts, rfl, .inl ⟨flagged.1, by simp [owesFrozenNotice, FreezeHelper.toThread,
            FreezeHelper.goto]⟩⟩
        rw [notifyOne_of_waiting (show (h.toThread .sleeping).caller = _ from place)]
        exact run_cons.mpr ⟨_, step_wait place, rfl⟩
      next => cases tested
  next =>
    cases threadStep_cases taken with
    | notifyError pc =>
      rw [pc] at flagged
      have tested : h.testedError = true := by simpa using late
      unfold FreezeHelper.testedError at tested
      split at tested
      next attempts place =>
        refine ⟨[.wait], (h.toThread .ended).goto (.blocked attempts), ?_,
          attempts, rfl, .inr ⟨flagged, by simp [owesErrorNotice, FreezeHelper.toThread,
            FreezeHelper.goto]⟩⟩
        rw [notifyOne_of_waiting (show (h.toThread .ended).caller = _ from place)]
        exact run_cons.mpr ⟨_, step_wait place, rfl⟩
      next => cases tested
  next => exact absurd trivial late

/-- No lost wakeup as long as no flag is notified between the caller's test of it and
its wait. A notification in that gap does leave the caller stuck, as soon as the caller
goes on to wait. -/
theorem wakeups_kept (didFreeze : Bool) (events : List FreezeEvent) (h : FreezeHelper)
    (reached : run FreezeHelper.step (.new didFreeze) events = some h) :
    (Along FreezeHelper.step FreezeHelper.NotifiesInTime (.new didFreeze) events → ¬ h.Stuck) ∧
      ∀ e t, h.step e = some t → ¬ h.NotifiesInTime e →
        ∃ (steps : List CallerEvent) (u : FreezeHelper),
          run FreezeHelper.step t (steps.map .caller) = some u ∧ u.Stuck := by
  constructor
  · intro inTime
    have inv : h.Awaited := invariant_along
      (fun _ _ _ inv inTime taken => awaited_step inv inTime taken)
      (awaited_new didFreeze) inTime reached
    exact inv.not_stuck
  · intro e t taken late
    exact stuck_of_late (flagged_run reached) late taken

/-- The caller tests both flags before the thread freezes the device, and waits after
the thread has notified. -/
def testedTooEarly : List FreezeEvent :=
  [.caller .runWhileFrozen, .caller .attempt, .caller .testFrozen, .caller .join,
    .caller .startThread, .caller .testDid, .caller .testError, .thread .freezeCall,
    .thread (.freezeReturn none), .thread .setDid, .thread .setFrozen, .thread .notifyFrozen,
    .caller .wait]

/-- The wakeup is lost: the caller blocks with `did_freeze_` set and notified. -/
theorem testedTooEarly_stuck :
    ∃ h, run FreezeHelper.step (.new false) testedTooEarly = some h ∧ h.Stuck := by
  refine ⟨_, rfl, 1, rfl, .inl ⟨rfl, ?_⟩⟩
  rintro (didSet | frozenSet)
  · cases didSet
  · cases frozenSet

/-- The caller waits before the thread freezes the device, and is woken. -/
def waitedInTime : List FreezeEvent :=
  [.caller .runWhileFrozen, .caller .attempt, .caller .testFrozen, .caller .join,
    .caller .startThread, .caller .testDid, .caller .testError, .caller .wait,
    .thread .freezeCall, .thread (.freezeReturn none), .thread .setDid, .thread .setFrozen,
    .thread .notifyFrozen, .caller .testDid, .caller .checkError]

theorem wakeups_kept_waitedInTime :
    ∃ h, run FreezeHelper.step (.new false) waitedInTime = some h ∧ h.caller = .ready 1 ∧
      ¬ h.Stuck := by
  refine ⟨_, rfl, rfl, ?_⟩
  exact (wakeups_kept false waitedInTime _ rfl).1 (by decide)

end LinuxAgent.Freeze
