/- module: LinuxAgent/Freeze/FreezeHelper
   source: freeze_helper/freeze_helper.{h,cc}
   digest: The caller of RunWhileFrozen and the unfreeze thread, one step per shared access. -/

import LinuxAgent.Lib.Run

/-!
`FreezeHelper` is used by one caller. `BeginRequiredFreezeBlock` starts a thread
that freezes the device, sleeps and thaws it, and the two talk through three flags
and a condition variable. The unfreeze thread takes no lock, so the mutex of the
caller excludes nobody. Each read or write of a flag is a step, and the calls of
`Freeze` and `Thaw` are two steps each, their start and their return.

A notification reaches the caller only when it is blocked in `wait`. The log is not
in the code: it lists the calls on the device and the executions of the callback.
-/

set_option autoImplicit false
set_option relaxedAutoImplicit false

namespace LinuxAgent.Freeze

open LinuxAgent.Lib.Run

/-- Where the unfreeze thread stands. `caught` is the entry of its catch block. -/
inductive UnfreezePc where
  | created
  | inFreeze
  | froze
  | didSet
  | frozenSet
  | sleeping
  | waking
  | inThaw
  | caught (what : String)
  | errorSet
  | ended
  deriving DecidableEq

/-- Where the caller stands; the number is `freeze_attempts`. -/
inductive CallerPc where
  | outside
  | attempting (attempts : ℕ)
  | testingFrozen (attempts : ℕ)
  | joining (attempts : ℕ)
  | starting (attempts : ℕ)
  | testingDid (attempts : ℕ)
  | testingError (attempts : ℕ)
  | waiting (attempts : ℕ)
  | blocked (attempts : ℕ)
  | checkingError (attempts : ℕ)
  | ready (attempts : ℕ)
  | running (attempts : ℕ)
  | ending (attempts : ℕ)
  | destroying
  | destroyed
  deriving DecidableEq

inductive FreezeAction where
  | called
  | freezeCalled
  | freezeReturned
  | freezeFailed
  | thawCalled
  | callbackStarted
  | callbackEnded
  | returned
  | threw (what : String)
  deriving DecidableEq

structure FreezeHelper where
  isFrozen : Bool
  didFreeze : Bool
  wasError : Bool
  freezeException : String
  unfreezeThread : Option UnfreezePc
  caller : CallerPc
  log : List FreezeAction
  deriving DecidableEq

/-- The steps of the caller. -/
inductive CallerEvent where
  | runWhileFrozen
  | attempt
  | testFrozen
  | join
  | startThread
  | testDid
  | testError
  | wait
  | wakeSpuriously
  | checkError
  | startCallback
  | endCallback
  | throwFromCallback (what : String)
  | endRequiredFreezeBlock
  | destroy
  | joinInDestructor
  deriving DecidableEq

/-- The steps of the unfreeze thread; a call that fails throws the given text. -/
inductive ThreadEvent where
  | freezeCall
  | freezeReturn (failure : Option String)
  | setDid
  | setFrozen
  | notifyFrozen
  | clearFrozen
  | thawCall
  | thawReturn (failure : Option String)
  | setError
  | notifyError
  deriving DecidableEq

inductive FreezeEvent where
  | caller (e : CallerEvent)
  | thread (e : ThreadEvent)
  deriving DecidableEq

namespace FreezeHelper

/-- A new helper. The constructor does not initialize `did_freeze_`. -/
def new (didFreeze : Bool) : FreezeHelper :=
  ⟨false, didFreeze, false, "", none, .outside, []⟩

def goto (h : FreezeHelper) (pc : CallerPc) : FreezeHelper := { h with caller := pc }

def toThread (h : FreezeHelper) (pc : UnfreezePc) : FreezeHelper :=
  { h with unfreezeThread := some pc }

def note (h : FreezeHelper) (action : FreezeAction) : FreezeHelper :=
  { h with log := h.log ++ [action] }

/-- An exception leaves `RunWhileFrozen`. -/
def throw (h : FreezeHelper) (what : String) : FreezeHelper := (h.goto .outside).note (.threw what)

/-- `notify_one` wakes the caller if it is blocked, and is lost otherwise. -/
def notifyOne (h : FreezeHelper) : FreezeHelper :=
  match h.caller with
  | .blocked attempts => h.goto (.testingDid attempts)
  | _ => h

/-- The thread object after `join`, when the thread has ended or there is none. -/
def joined (h : FreezeHelper) (pc : CallerPc) : Option FreezeHelper :=
  if h.unfreezeThread = none ∨ h.unfreezeThread = some .ended then
    some { h with unfreezeThread := none, caller := pc }
  else none

def callerStep (h : FreezeHelper) (e : CallerEvent) : Option FreezeHelper :=
  match e, h.caller with
  | .runWhileFrozen, .outside => some ((h.goto (.attempting 0)).note .called)
  | .attempt, .attempting attempts =>
      if attempts + 1 > 10 then some (h.throw "Unable to read off of disk quickly enough")
      else some (h.goto (.testingFrozen (attempts + 1)))
  | .testFrozen, .testingFrozen attempts =>
      some (h.goto (if h.isFrozen then .ready attempts else .joining attempts))
  | .join, .joining attempts => h.joined (.starting attempts)
  | .startThread, .starting attempts => some
      { h with
        didFreeze := false
        wasError := false
        unfreezeThread := some .created
        caller := .testingDid attempts }
  | .testDid, .testingDid attempts =>
      some (h.goto (if h.didFreeze then .checkingError attempts else .testingError attempts))
  | .testError, .testingError attempts =>
      some (h.goto (if h.wasError then .checkingError attempts else .waiting attempts))
  | .wait, .waiting attempts => some (h.goto (.blocked attempts))
  | .wakeSpuriously, .blocked attempts => some (h.goto (.testingDid attempts))
  | .checkError, .checkingError attempts =>
      if h.wasError then some (h.throw h.freezeException) else some (h.goto (.ready attempts))
  | .startCallback, .ready attempts => some ((h.goto (.running attempts)).note .callbackStarted)
  | .endCallback, .running attempts => some ((h.goto (.ending attempts)).note .callbackEnded)
  | .throwFromCallback what, .running _ => some (h.throw what)
  | .endRequiredFreezeBlock, .ending attempts =>
      if h.isFrozen then some ((h.goto .outside).note .returned)
      else some (h.goto (.attempting attempts))
  | .destroy, .outside => some (h.goto .destroying)
  | .joinInDestructor, .destroying => h.joined .destroyed
  | _, _ => none

def threadStep (h : FreezeHelper) (e : ThreadEvent) : Option FreezeHelper :=
  match e, h.unfreezeThread with
  | .freezeCall, some .created => some ((h.toThread .inFreeze).note .freezeCalled)
  | .freezeReturn none, some .inFreeze => some ((h.toThread .froze).note .freezeReturned)
  | .freezeReturn (some what), some .inFreeze =>
      some ((h.toThread (.caught what)).note .freezeFailed)
  | .setDid, some .froze => some { h.toThread .didSet with didFreeze := true }
  | .setFrozen, some .didSet => some { h.toThread .frozenSet with isFrozen := true }
  | .notifyFrozen, some .frozenSet => some (h.toThread .sleeping).notifyOne
  | .clearFrozen, some .sleeping => some { h.toThread .waking with isFrozen := false }
  | .thawCall, some .waking => some ((h.toThread .inThaw).note .thawCalled)
  | .thawReturn none, some .inThaw => some (h.toThread .ended)
  | .thawReturn (some what), some .inThaw => some (h.toThread (.caught what))
  | .setError, some (.caught what) => some
      { h.toThread .errorSet with freezeException := what, wasError := true }
  | .notifyError, some .errorSet => some (h.toThread .ended).notifyOne
  | _, _ => none

def step (h : FreezeHelper) : FreezeEvent → Option FreezeHelper
  | .caller e => h.callerStep e
  | .thread e => h.threadStep e

end FreezeHelper

/-- What a step of the caller does. -/
inductive CallerStep (h : FreezeHelper) : CallerEvent → FreezeHelper → Prop where
  | runWhileFrozen (pc : h.caller = .outside) :
      CallerStep h .runWhileFrozen ((h.goto (.attempting 0)).note .called)
  | giveUp (attempts : ℕ) (pc : h.caller = .attempting attempts) (many : 10 ≤ attempts) :
      CallerStep h .attempt (h.throw "Unable to read off of disk quickly enough")
  | attempt (attempts : ℕ) (pc : h.caller = .attempting attempts) (few : attempts < 10) :
      CallerStep h .attempt (h.goto (.testingFrozen (attempts + 1)))
  | stillFrozen (attempts : ℕ) (pc : h.caller = .testingFrozen attempts)
      (frozen : h.isFrozen = true) : CallerStep h .testFrozen (h.goto (.ready attempts))
  | notFrozen (attempts : ℕ) (pc : h.caller = .testingFrozen attempts)
      (thawed : h.isFrozen = false) : CallerStep h .testFrozen (h.goto (.joining attempts))
  | join (attempts : ℕ) (pc : h.caller = .joining attempts)
      (exited : h.unfreezeThread = none ∨ h.unfreezeThread = some .ended) :
      CallerStep h .join { h with unfreezeThread := none, caller := .starting attempts }
  | startThread (attempts : ℕ) (pc : h.caller = .starting attempts) :
      CallerStep h .startThread
        { h with
          didFreeze := false
          wasError := false
          unfreezeThread := some .created
          caller := .testingDid attempts }
  | didFreeze (attempts : ℕ) (pc : h.caller = .testingDid attempts) (did : h.didFreeze = true) :
      CallerStep h .testDid (h.goto (.checkingError attempts))
  | didNotFreeze (attempts : ℕ) (pc : h.caller = .testingDid attempts)
      (not : h.didFreeze = false) : CallerStep h .testDid (h.goto (.testingError attempts))
  | wasError (attempts : ℕ) (pc : h.caller = .testingError attempts) (error : h.wasError = true) :
      CallerStep h .testError (h.goto (.checkingError attempts))
  | noError (attempts : ℕ) (pc : h.caller = .testingError attempts) (none : h.wasError = false) :
      CallerStep h .testError (h.goto (.waiting attempts))
  | wait (attempts : ℕ) (pc : h.caller = .waiting attempts) :
      CallerStep h .wait (h.goto (.blocked attempts))
  | wakeSpuriously (attempts : ℕ) (pc : h.caller = .blocked attempts) :
      CallerStep h .wakeSpuriously (h.goto (.testingDid attempts))
  | rethrow (attempts : ℕ) (pc : h.caller = .checkingError attempts) (error : h.wasError = true) :
      CallerStep h .checkError (h.throw h.freezeException)
  | begun (attempts : ℕ) (pc : h.caller = .checkingError attempts) (fine : h.wasError = false) :
      CallerStep h .checkError (h.goto (.ready attempts))
  | startCallback (attempts : ℕ) (pc : h.caller = .ready attempts) :
      CallerStep h .startCallback ((h.goto (.running attempts)).note .callbackStarted)
  | endCallback (attempts : ℕ) (pc : h.caller = .running attempts) :
      CallerStep h .endCallback ((h.goto (.ending attempts)).note .callbackEnded)
  | throwFromCallback (attempts : ℕ) (what : String) (pc : h.caller = .running attempts) :
      CallerStep h (.throwFromCallback what) (h.throw what)
  | returns (attempts : ℕ) (pc : h.caller = .ending attempts) (frozen : h.isFrozen = true) :
      CallerStep h .endRequiredFreezeBlock ((h.goto .outside).note .returned)
  | again (attempts : ℕ) (pc : h.caller = .ending attempts) (thawed : h.isFrozen = false) :
      CallerStep h .endRequiredFreezeBlock (h.goto (.attempting attempts))
  | destroy (pc : h.caller = .outside) : CallerStep h .destroy (h.goto .destroying)
  | joinInDestructor (pc : h.caller = .destroying)
      (exited : h.unfreezeThread = none ∨ h.unfreezeThread = some .ended) :
      CallerStep h .joinInDestructor { h with unfreezeThread := none, caller := .destroyed }

private theorem joined_eq_some {h t : FreezeHelper} {pc : CallerPc} (taken : h.joined pc = some t) :
    (h.unfreezeThread = none ∨ h.unfreezeThread = some .ended) ∧
      t = { h with unfreezeThread := none, caller := pc } := by
  unfold FreezeHelper.joined at taken
  split_ifs at taken with exited
  exact ⟨exited, (Option.some.inj taken).symm⟩

theorem callerStep_cases {h t : FreezeHelper} {e : CallerEvent}
    (taken : h.callerStep e = some t) : CallerStep h e t := by
  unfold FreezeHelper.callerStep at taken
  split at taken
  case h_2 attempts pc =>
    split_ifs at taken with many <;> obtain rfl := Option.some.inj taken
    · exact .giveUp attempts pc (by omega)
    · exact .attempt attempts pc (by omega)
  case h_3 attempts pc =>
    obtain rfl := Option.some.inj taken
    cases frozen : h.isFrozen with
    | true => exact .stillFrozen attempts pc frozen
    | false => exact .notFrozen attempts pc frozen
  case h_4 attempts pc =>
    obtain ⟨exited, rfl⟩ := joined_eq_some taken
    exact .join attempts pc exited
  case h_6 attempts pc =>
    obtain rfl := Option.some.inj taken
    cases did : h.didFreeze with
    | true => exact .didFreeze attempts pc did
    | false => exact .didNotFreeze attempts pc did
  case h_7 attempts pc =>
    obtain rfl := Option.some.inj taken
    cases error : h.wasError with
    | true => exact .wasError attempts pc error
    | false => exact .noError attempts pc error
  case h_10 attempts pc =>
    split_ifs at taken with error <;> obtain rfl := Option.some.inj taken
    · exact .rethrow attempts pc error
    · exact .begun attempts pc (by simpa using error)
  case h_14 attempts pc =>
    split_ifs at taken with frozen <;> obtain rfl := Option.some.inj taken
    · exact .returns attempts pc frozen
    · exact .again attempts pc (by simpa using frozen)
  case h_16 pc =>
    obtain ⟨exited, rfl⟩ := joined_eq_some taken
    exact .joinInDestructor pc exited
  case h_17 => cases taken
  all_goals
    obtain rfl := Option.some.inj taken
    constructor
    assumption

/-- What a step of the unfreeze thread does. -/
inductive ThreadStep (h : FreezeHelper) : ThreadEvent → FreezeHelper → Prop where
  | freezeCall (pc : h.unfreezeThread = some .created) :
      ThreadStep h .freezeCall ((h.toThread .inFreeze).note .freezeCalled)
  | freezeReturn (pc : h.unfreezeThread = some .inFreeze) :
      ThreadStep h (.freezeReturn none) ((h.toThread .froze).note .freezeReturned)
  | freezeFail (what : String) (pc : h.unfreezeThread = some .inFreeze) :
      ThreadStep h (.freezeReturn (some what)) ((h.toThread (.caught what)).note .freezeFailed)
  | setDid (pc : h.unfreezeThread = some .froze) :
      ThreadStep h .setDid { h.toThread .didSet with didFreeze := true }
  | setFrozen (pc : h.unfreezeThread = some .didSet) :
      ThreadStep h .setFrozen { h.toThread .frozenSet with isFrozen := true }
  | notifyFrozen (pc : h.unfreezeThread = some .frozenSet) :
      ThreadStep h .notifyFrozen (h.toThread .sleeping).notifyOne
  | clearFrozen (pc : h.unfreezeThread = some .sleeping) :
      ThreadStep h .clearFrozen { h.toThread .waking with isFrozen := false }
  | thawCall (pc : h.unfreezeThread = some .waking) :
      ThreadStep h .thawCall ((h.toThread .inThaw).note .thawCalled)
  | thawReturn (pc : h.unfreezeThread = some .inThaw) :
      ThreadStep h (.thawReturn none) (h.toThread .ended)
  | thawFail (what : String) (pc : h.unfreezeThread = some .inThaw) :
      ThreadStep h (.thawReturn (some what)) (h.toThread (.caught what))
  | setError (what : String) (pc : h.unfreezeThread = some (.caught what)) :
      ThreadStep h .setError
        { h.toThread .errorSet with freezeException := what, wasError := true }
  | notifyError (pc : h.unfreezeThread = some .errorSet) :
      ThreadStep h .notifyError (h.toThread .ended).notifyOne

theorem threadStep_cases {h t : FreezeHelper} {e : ThreadEvent}
    (taken : h.threadStep e = some t) : ThreadStep h e t := by
  unfold FreezeHelper.threadStep at taken
  split at taken
  case h_13 => cases taken
  all_goals
    obtain rfl := Option.some.inj taken
    constructor
    assumption

namespace FreezeHelper

private theorem notifyOne_frame (h : FreezeHelper) :
    h.notifyOne = { h with caller := h.notifyOne.caller } := by
  unfold notifyOne
  split <;> rfl

@[simp] theorem isFrozen_notifyOne (h : FreezeHelper) : h.notifyOne.isFrozen = h.isFrozen := by
  rw [notifyOne_frame]

@[simp] theorem didFreeze_notifyOne (h : FreezeHelper) : h.notifyOne.didFreeze = h.didFreeze := by
  rw [notifyOne_frame]

@[simp] theorem wasError_notifyOne (h : FreezeHelper) : h.notifyOne.wasError = h.wasError := by
  rw [notifyOne_frame]

@[simp] theorem unfreezeThread_notifyOne (h : FreezeHelper) :
    h.notifyOne.unfreezeThread = h.unfreezeThread := by
  rw [notifyOne_frame]

@[simp] theorem log_notifyOne (h : FreezeHelper) : h.notifyOne.log = h.log := by
  rw [notifyOne_frame]

/-- A notification moves a blocked caller back to the test, and no other caller. -/
theorem caller_notifyOne (h : FreezeHelper) :
    h.notifyOne.caller = h.caller ∧ (∀ attempts, h.caller ≠ .blocked attempts) ∨
      ∃ attempts, h.caller = .blocked attempts ∧ h.notifyOne.caller = .testingDid attempts := by
  unfold notifyOne
  split
  case h_1 attempts pc => exact .inr ⟨attempts, pc, rfl⟩
  case h_2 other => exact .inl ⟨rfl, other⟩

end FreezeHelper

end LinuxAgent.Freeze
