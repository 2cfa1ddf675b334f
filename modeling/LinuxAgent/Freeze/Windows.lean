/- module: LinuxAgent/Freeze/Windows
   source: freeze_helper/freeze_helper.{h,cc}
   digest: Freeze and Thaw alternate, and a call returns only after a callback in one window. -/

import LinuxAgent.Freeze.FreezeHelper
import Mathlib.Data.List.Infix

/-!
A window is open from the return of `Freeze` to the start of the next `Thaw`. The
flag `is_frozen_` is up only inside a window, but not during all of it, and a
callback that began in one window may end in a later one or outside. The caller reads
the flag after the callback. The reading is sound since the unfreeze thread that is
alive then was alive when the callback began: only `BeginRequiredFreezeBlock` starts
another one.
-/

set_option autoImplicit false
set_option relaxedAutoImplicit false

namespace LinuxAgent.Freeze

open LinuxAgent.Lib.Run

inductive DeviceCall where
  | freeze
  | thaw
  deriving DecidableEq

def FreezeAction.deviceCall : FreezeAction → Option DeviceCall
  | .freezeCalled => some .freeze
  | .thawCalled => some .thaw
  | _ => none

/-- The calls made on the device, in order. -/
def deviceCalls (log : List FreezeAction) : List DeviceCall := log.filterMap FreezeAction.deviceCall

/-- The calls are `Freeze`, `Thaw`, `Freeze`, and so on. -/
def Alternating (calls : List DeviceCall) : Prop :=
  ∀ i call, calls[i]? = some call → call = if i % 2 = 0 then .freeze else .thaw

/-- The last `Freeze` that returned has not been followed by a call of `Thaw`. -/
def windowOpen (log : List FreezeAction) : Bool :=
  log.foldl (fun isOpen action => match action with
    | .freezeReturned => true
    | .thawCalled => false
    | _ => isOpen) false

/-- How often the callback was started by the latest call of `RunWhileFrozen`. -/
def executions (log : List FreezeAction) : ℕ :=
  log.foldl (fun count action => match action with
    | .called => 0
    | .callbackStarted => count + 1
    | _ => count) 0

/-- The latest call executed the callback completely inside a window. -/
def SomeExecutionFrozen (log : List FreezeAction) : Prop :=
  ∃ earlier during later,
    log = earlier ++ .callbackStarted :: (during ++ .callbackEnded :: later) ∧
      .called ∉ during ++ later ∧ .callbackStarted ∉ during ∧
      windowOpen earlier = true ∧ .thawCalled ∉ during

/-- The last execution of the callback is one of the latest call and lies completely
inside a window. -/
def LastExecutionFrozen (log : List FreezeAction) : Prop :=
  ∃ earlier during later,
    log = earlier ++ .callbackStarted :: (during ++ .callbackEnded :: later) ∧
      .called ∉ during ++ later ∧ .callbackStarted ∉ during ++ later ∧
      windowOpen earlier = true ∧ .thawCalled ∉ during

theorem LastExecutionFrozen.some {log : List FreezeAction} (last : LastExecutionFrozen log) :
    SomeExecutionFrozen log := by
  obtain ⟨earlier, during, later, split, one, only, opened, still⟩ := last
  exact ⟨earlier, during, later, split, one,
    fun started => only (List.mem_append_left later started), opened, still⟩

section Logs

variable (log : List FreezeAction) (action : FreezeAction)

theorem deviceCalls_concat :
    deviceCalls (log ++ [action]) = deviceCalls log ++ action.deviceCall.toList := by
  unfold deviceCalls
  rw [List.filterMap_append]
  cases action <;> rfl

theorem windowOpen_concat :
    windowOpen (log ++ [action]) = match action with
      | .freezeReturned => true
      | .thawCalled => false
      | _ => windowOpen log := by
  simp only [windowOpen, List.foldl_append, List.foldl_cons, List.foldl_nil]

theorem executions_concat :
    executions (log ++ [action]) = match action with
      | .called => 0
      | .callbackStarted => executions log + 1
      | _ => executions log := by
  simp only [executions, List.foldl_append, List.foldl_cons, List.foldl_nil]

end Logs

private theorem alternating_concat {calls : List DeviceCall} {call : DeviceCall}
    (alternating : Alternating calls)
    (next : call = if calls.length % 2 = 0 then .freeze else .thaw) :
    Alternating (calls ++ [call]) := by
  intro i other found
  rcases Nat.lt_trichotomy i calls.length with within | rfl | beyond
  · exact alternating i other (by rwa [List.getElem?_append_left within] at found)
  · rw [List.getElem?_concat_length] at found
    rw [← Option.some.inj found, next]
  · rw [List.getElem?_eq_none (by simp; omega)] at found
    cases found

/-- In an alternating list of even length each `Freeze` is followed by a `Thaw`. -/
private theorem thaw_follows {calls : List DeviceCall} (alternating : Alternating calls)
    (even : calls.length % 2 = 0) (i : ℕ) (frozen : calls[i]? = some .freeze) :
    calls[i + 1]? = some .thaw := by
  have within : i < calls.length := (List.getElem?_eq_some_iff.mp frozen).1
  have position : i % 2 = 0 := by
    by_contra odd
    have wrong := alternating i .freeze frozen
    rw [if_neg odd] at wrong
    cases wrong
  have next : i + 1 < calls.length := by omega
  have found : calls[i + 1]? = some calls[i + 1] := List.getElem?_eq_getElem next
  have call := alternating (i + 1) _ found
  rw [if_neg (by omega)] at call
  rw [found, call]

section Device

/-- The thread stands where `is_frozen_` is up. -/
def flagUp : Option UnfreezePc → Bool
  | some .frozenSet | some .sleeping => true
  | _ => false

/-- The thread stands between the return of `Freeze` and the call of `Thaw`. -/
def inWindow : Option UnfreezePc → Bool
  | some .froze | some .didSet | some .frozenSet | some .sleeping | some .waking => true
  | _ => false

/-- The thread has called `Freeze` and has yet to call `Thaw`. -/
def owesThaw : Option UnfreezePc → Bool
  | some .inFreeze => true
  | thread => inWindow thread

/-- The thread has set `did_freeze_`. -/
def pastFreeze : Option UnfreezePc → Bool
  | none | some .created | some .inFreeze | some .froze => false
  | _ => true

/-- How the flag and the log follow the unfreeze thread. -/
structure FreezeHelper.Device (h : FreezeHelper) : Prop where
  flag : h.isFrozen = flagUp h.unfreezeThread
  window : windowOpen h.log = inWindow h.unfreezeThread
  alternating : Alternating (deviceCalls h.log)
  owed : (deviceCalls h.log).length % 2 = (owesThaw h.unfreezeThread).toNat

theorem inWindow_of_flagUp {thread : Option UnfreezePc} (up : flagUp thread = true) :
    inWindow thread = true ∧ pastFreeze thread = true := by
  unfold flagUp at up
  split at up
  · exact ⟨rfl, rfl⟩
  · exact ⟨rfl, rfl⟩
  · cases up

/-- A step that neither calls the device nor moves the thread across the ends of a
window keeps the invariant, as long as the flag follows the thread. -/
private theorem FreezeHelper.Device.undisturbed {h t : FreezeHelper} (inv : h.Device)
    (flag : t.isFrozen = flagUp t.unfreezeThread) (calls : deviceCalls t.log = deviceCalls h.log)
    (isOpen : windowOpen t.log = windowOpen h.log)
    (window : inWindow t.unfreezeThread = inWindow h.unfreezeThread)
    (owed : owesThaw t.unfreezeThread = owesThaw h.unfreezeThread) : t.Device := by
  refine ⟨flag, ?_, ?_, ?_⟩
  · rw [isOpen, window, inv.window]
  · rw [calls]
    exact inv.alternating
  · rw [calls, owed, inv.owed]

/-- A call on the device that is the next in turn. -/
private theorem calls_concat {log : List FreezeAction} {call : DeviceCall} (action : FreezeAction)
    (alternating : Alternating (deviceCalls log)) (calls : action.deviceCall = some call)
    (next : call = if (deviceCalls log).length % 2 = 0 then .freeze else .thaw) :
    Alternating (deviceCalls (log ++ [action])) ∧
      (deviceCalls (log ++ [action])).length = (deviceCalls log).length + 1 := by
  rw [deviceCalls_concat, calls]
  exact ⟨alternating_concat alternating next, List.length_append⟩

private theorem device_threadStep {h t : FreezeHelper} {e : ThreadEvent} (inv : h.Device)
    (succeeds : ∀ what, e ≠ .freezeReturn (some what)) (taken : ThreadStep h e t) : t.Device := by
  have flag := inv.flag
  have owed := inv.owed
  cases taken with
  | freezeFail what pc => exact absurd rfl (succeeds what)
  | freezeCall pc =>
      rw [pc] at flag owed
      have even : (deviceCalls h.log).length % 2 = 0 := owed
      obtain ⟨alternating, more⟩ := calls_concat .freezeCalled inv.alternating rfl
        (if_pos even).symm
      refine ⟨flag, ?_, alternating, ?_⟩
      · exact (windowOpen_concat h.log _).trans (inv.window.trans (by rw [pc]; rfl))
      · change (deviceCalls (h.log ++ [_])).length % 2 = 1
        omega
  | thawCall pc =>
      rw [pc] at flag owed
      have odd : (deviceCalls h.log).length % 2 = 1 := owed
      obtain ⟨alternating, more⟩ := calls_concat .thawCalled inv.alternating rfl
        (if_neg (by omega)).symm
      refine ⟨flag, windowOpen_concat h.log _, alternating, ?_⟩
      change (deviceCalls (h.log ++ [_])).length % 2 = 0
      omega
  | freezeReturn pc =>
      rw [pc] at flag owed
      have same : deviceCalls (h.log ++ [.freezeReturned]) = deviceCalls h.log := by
        rw [deviceCalls_concat]
        exact List.append_nil _
      exact ⟨flag, windowOpen_concat h.log _, same ▸ inv.alternating, same ▸ owed⟩
  | notifyFrozen pc =>
      rw [pc] at flag
      apply inv.undisturbed <;> simp [FreezeHelper.toThread, flag, pc] <;> rfl
  | notifyError pc =>
      rw [pc] at flag
      apply inv.undisturbed <;> simp [FreezeHelper.toThread, flag, pc] <;> rfl
  | setFrozen pc | clearFrozen pc =>
      refine inv.undisturbed rfl rfl rfl ?_ ?_ <;> rw [pc] <;> rfl
  | setDid pc | thawReturn pc | thawFail what pc | setError what pc =>
      rw [pc] at flag
      refine inv.undisturbed flag rfl rfl ?_ ?_ <;> rw [pc] <;> rfl

private theorem calls_note {log : List FreezeAction} {action : FreezeAction}
    (calls : action.deviceCall = none) :
    deviceCalls (log ++ [action]) = deviceCalls log := by
  rw [deviceCalls_concat, calls]
  exact List.append_nil _

/-- The caller calls nothing on the device. It replaces the thread object only when no
thread runs. -/
private theorem device_callerStep {h t : FreezeHelper} {e : CallerEvent} (inv : h.Device)
    (idle : ∀ attempts, h.caller = .starting attempts → h.unfreezeThread = none)
    (taken : CallerStep h e t) : t.Device := by
  have flag := inv.flag
  cases taken with
  | runWhileFrozen | giveUp | rethrow | startCallback | endCallback | throwFromCallback
  | returns =>
      exact inv.undisturbed flag (calls_note rfl) (windowOpen_concat h.log _) rfl rfl
  | join attempts pc exited | joinInDestructor pc exited =>
      rcases exited with none | ended
      · rw [none] at flag
        refine inv.undisturbed flag rfl rfl ?_ ?_ <;> rw [none]
      · rw [ended] at flag
        refine inv.undisturbed flag rfl rfl ?_ ?_ <;> rw [ended] <;> rfl
  | startThread attempts pc =>
      rw [idle attempts pc] at flag
      refine inv.undisturbed flag rfl rfl ?_ ?_ <;> rw [idle attempts pc] <;> rfl
  | attempt | stillFrozen | notFrozen | didFreeze | didNotFreeze | wasError | noError | wait
  | wakeSpuriously | begun | again | destroy =>
      exact inv.undisturbed flag rfl rfl rfl rfl

end Device

section Caller

/-- What the place of the caller says about the thread and the flags. -/
def FreezeHelper.Placed (h : FreezeHelper) : Prop :=
  match h.caller with
  | .starting _ | .destroyed => h.unfreezeThread = none
  | .testingDid _ | .testingError _ | .waiting _ | .blocked _ =>
      h.didFreeze = true → pastFreeze h.unfreezeThread = true
  | .checkingError _ =>
      (h.didFreeze = true → pastFreeze h.unfreezeThread = true) ∧
        (h.didFreeze = true ∨ h.wasError = true)
  | .ready _ | .running _ | .ending _ => pastFreeze h.unfreezeThread = true
  | _ => True

theorem placed_callerStep {h t : FreezeHelper} {e : CallerEvent}
    (flag : h.isFrozen = flagUp h.unfreezeThread) (inv : h.Placed) (taken : CallerStep h e t) :
    t.Placed := by
  unfold FreezeHelper.Placed at inv
  cases taken with
  | runWhileFrozen | giveUp | attempt | notFrozen | rethrow | throwFromCallback | returns | again
  | destroy => trivial
  | join | joinInDestructor => rfl
  | startThread => exact fun did => absurd did Bool.false_ne_true
  | stillFrozen attempts pc frozen =>
      exact (inWindow_of_flagUp (flag ▸ frozen)).2
  | didFreeze attempts pc did =>
      rw [pc] at inv
      exact ⟨inv, .inl did⟩
  | wasError attempts pc error =>
      rw [pc] at inv
      exact ⟨inv, .inr error⟩
  | begun attempts pc fine =>
      rw [pc] at inv
      have did : h.didFreeze = true := by simpa [fine] using inv.2
      exact inv.1 did
  | didNotFreeze attempts pc | noError attempts pc | wait attempts pc | wakeSpuriously attempts pc
  | startCallback attempts pc | endCallback attempts pc =>
      rw [pc] at inv
      exact inv

/-- What the unfreeze thread can do to the caller in one step. -/
structure Forward (h t : FreezeHelper) : Prop where
  alive : h.unfreezeThread ≠ none
  past : pastFreeze h.unfreezeThread = true → pastFreeze t.unfreezeThread = true
  did : h.didFreeze = true → t.didFreeze = true
  didPast : t.didFreeze = true → h.didFreeze = true ∨ pastFreeze t.unfreezeThread = true
  error : h.wasError = true → t.wasError = true
  caller : t.caller = h.caller ∨
    ∃ attempts, h.caller = .blocked attempts ∧ t.caller = .testingDid attempts
  log : t.log = h.log ∨
    ∃ action ∈ [FreezeAction.freezeCalled, .freezeReturned, .freezeFailed, .thawCalled],
      t.log = h.log ++ [action]
  window : pastFreeze h.unfreezeThread = true → inWindow t.unfreezeThread = true →
    inWindow h.unfreezeThread = true ∧ t.log = h.log

private theorem caller_notifyOne_weak (h : FreezeHelper) :
    h.notifyOne.caller = h.caller ∨
      ∃ attempts, h.caller = .blocked attempts ∧ h.notifyOne.caller = .testingDid attempts :=
  h.caller_notifyOne.imp And.left id

theorem threadStep_forward {h t : FreezeHelper} {e : ThreadEvent}
    (taken : ThreadStep h e t) : Forward h t := by
  cases taken with
  | notifyFrozen pc | notifyError pc =>
      constructor
      case caller => exact caller_notifyOne_weak (h.toThread _)
      all_goals simp +contextual [FreezeHelper.toThread, pc, pastFreeze, inWindow]
  | _ =>
      rename_i pc
      constructor <;>
        simp +contextual [FreezeHelper.toThread, FreezeHelper.note, pc, pastFreeze, inWindow]

theorem placed_threadStep {h t : FreezeHelper} (inv : h.Placed) (moved : Forward h t) :
    t.Placed := by
  have did : (h.didFreeze = true → pastFreeze h.unfreezeThread = true) →
      t.didFreeze = true → pastFreeze t.unfreezeThread = true := fun before now =>
    (moved.didPast now).elim (fun earlier => moved.past (before earlier)) id
  unfold FreezeHelper.Placed at inv ⊢
  rcases moved.caller with same | ⟨attempts, before, after⟩
  · rw [same]
    cases pc : h.caller <;> rw [pc] at inv
    case starting | destroyed => exact absurd inv moved.alive
    case testingDid | testingError | waiting | blocked => exact did inv
    case checkingError => exact ⟨did inv.1, inv.2.imp moved.did moved.error⟩
    case ready | running | ending => exact moved.past inv
    all_goals trivial
  · rw [before] at inv
    rw [after]
    exact did inv

end Caller

section Executions

/-- How the number of executions follows `freeze_attempts`. -/
def CallerPc.Counted (count : ℕ) : CallerPc → Prop
  | .attempting attempts | .running attempts | .ending attempts =>
      count = attempts ∧ attempts ≤ 10
  | .outside | .destroying | .destroyed => True
  | .testingFrozen attempts | .joining attempts | .starting attempts | .testingDid attempts
  | .testingError attempts | .waiting attempts | .blocked attempts | .checkingError attempts
  | .ready attempts => count + 1 = attempts ∧ attempts ≤ 10

private theorem counted_callerStep {h t : FreezeHelper} {e : CallerEvent}
    (inv : h.caller.Counted (executions h.log)) (taken : CallerStep h e t) :
    t.caller.Counted (executions t.log) := by
  cases taken with
  | giveUp | rethrow | throwFromCallback | returns | destroy | joinInDestructor => trivial
  | runWhileFrozen pc => exact ⟨executions_concat h.log _, Nat.zero_le 10⟩
  | attempt attempts pc few =>
      rw [pc] at inv
      exact ⟨congrArg (· + 1) inv.1, few⟩
  | startCallback attempts pc =>
      rw [pc] at inv
      exact ⟨(executions_concat h.log _).trans inv.1, inv.2⟩
  | endCallback attempts pc =>
      rw [pc] at inv
      exact ⟨(executions_concat h.log _).trans inv.1, inv.2⟩
  | _ =>
      simp only [*] at inv
      exact inv

private theorem executions_threadStep {h t : FreezeHelper} (moved : Forward h t) :
    executions t.log = executions h.log := by
  rcases moved.log with same | ⟨action, device, more⟩
  · rw [same]
  · rw [more, executions_concat]
    simp only [List.mem_cons, List.not_mem_nil, or_false] at device
    rcases device with rfl | rfl | rfl | rfl <;> rfl

private theorem counted_threadStep {h t : FreezeHelper}
    (inv : h.caller.Counted (executions h.log)) (moved : Forward h t) :
    t.caller.Counted (executions t.log) := by
  rw [executions_threadStep moved]
  rcases moved.caller with same | ⟨attempts, before, after⟩
  · rwa [same]
  · rw [before] at inv
    rw [after]
    exact inv

/-- The callback runs: it was started by this call, and if a window is open now it was
open then and has not been closed since. -/
def Executing (thread : Option UnfreezePc) (log : List FreezeAction) : Prop :=
  ∃ earlier during, log = earlier ++ .callbackStarted :: during ∧
    .called ∉ during ∧ .callbackStarted ∉ during ∧
    (inWindow thread = true → windowOpen earlier = true ∧ .thawCalled ∉ during)

/-- The callback has ended: if a window is open now the execution was inside it. -/
def Executed (thread : Option UnfreezePc) (log : List FreezeAction) : Prop :=
  ∃ earlier during later,
    log = earlier ++ .callbackStarted :: (during ++ .callbackEnded :: later) ∧
      .called ∉ during ++ later ∧ .callbackStarted ∉ during ++ later ∧
      (inWindow thread = true → windowOpen earlier = true ∧ .thawCalled ∉ during)

def FreezeHelper.Tracked (h : FreezeHelper) : Prop :=
  match h.caller with
  | .running _ => Executing h.unfreezeThread h.log
  | .ending _ => Executed h.unfreezeThread h.log
  | _ => True

private theorem executing_start {thread : Option UnfreezePc} {log : List FreezeAction}
    (window : windowOpen log = inWindow thread) : Executing thread (log ++ [.callbackStarted]) :=
  ⟨log, [], rfl, List.not_mem_nil, List.not_mem_nil,
    fun within => ⟨window.trans within, List.not_mem_nil⟩⟩

private theorem executed_end {thread : Option UnfreezePc} {log : List FreezeAction}
    (executing : Executing thread log) : Executed thread (log ++ [.callbackEnded]) := by
  obtain ⟨earlier, during, rfl, own, only, within⟩ := executing
  exact ⟨earlier, during, [], by simp, by simpa using own, by simpa using only, within⟩

private theorem tracked_callerStep {h t : FreezeHelper} {e : CallerEvent} (device : h.Device)
    (inv : h.Tracked) (taken : CallerStep h e t) : t.Tracked := by
  cases taken with
  | startCallback attempts pc => exact executing_start device.window
  | endCallback attempts pc =>
      unfold FreezeHelper.Tracked at inv
      rw [pc] at inv
      exact executed_end inv
  | _ => trivial

/-- The action of the unfreeze thread is no part of a call. -/
private theorem device_action {action : FreezeAction}
    (device : action ∈ [FreezeAction.freezeCalled, .freezeReturned, .freezeFailed, .thawCalled]) :
    .called ≠ action ∧ .callbackStarted ≠ action ∧ .returned ≠ action := by
  simp only [List.mem_cons, List.not_mem_nil, or_false] at device
  rcases device with rfl | rfl | rfl | rfl <;> simp

private theorem not_mem_concat {α : Type*} {a b : α} {list : List α} (absent : a ∉ list)
    (other : a ≠ b) : a ∉ list ++ [b] := by
  simp [absent, other]

private theorem executing_threadStep {h t : FreezeHelper}
    (executing : Executing h.unfreezeThread h.log) (past : pastFreeze h.unfreezeThread = true)
    (moved : Forward h t) : Executing t.unfreezeThread t.log := by
  obtain ⟨earlier, during, split, own, only, within⟩ := executing
  rcases moved.log with same | ⟨action, device, more⟩
  · exact ⟨earlier, during, same.trans split, own, only,
      fun now => within (moved.window past now).1⟩
  · obtain ⟨call, start, _⟩ := device_action device
    refine ⟨earlier, during ++ [action], by rw [more, split]; simp,
      not_mem_concat own call, not_mem_concat only start, fun now => ?_⟩
    have same := (moved.window past now).2
    simp [same] at more

private theorem executed_threadStep {h t : FreezeHelper}
    (executed : Executed h.unfreezeThread h.log) (past : pastFreeze h.unfreezeThread = true)
    (moved : Forward h t) : Executed t.unfreezeThread t.log := by
  obtain ⟨earlier, during, later, split, own, only, within⟩ := executed
  have window : inWindow t.unfreezeThread = true →
      windowOpen earlier = true ∧ .thawCalled ∉ during := fun now =>
    within (moved.window past now).1
  rcases moved.log with same | ⟨action, device, more⟩
  · exact ⟨earlier, during, later, same.trans split, own, only, window⟩
  · obtain ⟨call, start, _⟩ := device_action device
    refine ⟨earlier, during, later ++ [action], by rw [more, split]; simp, ?_, ?_, window⟩
    · rw [← List.append_assoc]
      exact not_mem_concat own call
    · rw [← List.append_assoc]
      exact not_mem_concat only start

private theorem tracked_threadStep {h t : FreezeHelper} (placed : h.Placed) (inv : h.Tracked)
    (moved : Forward h t) : t.Tracked := by
  unfold FreezeHelper.Placed at placed
  unfold FreezeHelper.Tracked at inv ⊢
  rcases moved.caller with same | ⟨attempts, before, after⟩
  · rw [same]
    cases pc : h.caller <;> rw [pc] at inv placed
    case running => exact executing_threadStep inv placed moved
    case ending => exact executed_threadStep inv placed moved
    all_goals trivial
  · rw [after]
    trivial

end Executions

section Calls

/-- What holds of every call recorded in the log. -/
structure Answered (log : List FreezeAction) : Prop where
  returned : ∀ before, before ++ [.returned] <+: log → LastExecutionFrozen before
  few : ∀ before, before <+: log → executions before ≤ 10

private theorem answered_concat {log : List FreezeAction} {action : FreezeAction}
    (inv : Answered log) (frozen : .returned = action → LastExecutionFrozen log)
    (count : executions (log ++ [action]) ≤ 10) : Answered (log ++ [action]) := by
  constructor
  · intro before recorded
    rcases List.prefix_concat_iff.mp recorded with whole | earlier
    · obtain ⟨rfl, same⟩ := List.append_inj' whole rfl
      exact frozen (List.singleton_inj.mp same)
    · exact inv.returned before earlier
  · intro before recorded
    rcases List.prefix_concat_iff.mp recorded with rfl | earlier
    · exact count
    · exact inv.few before earlier

private theorem answered_threadStep {h t : FreezeHelper} (inv : Answered h.log)
    (moved : Forward h t) : Answered t.log := by
  have count := executions_threadStep moved
  rcases moved.log with same | ⟨action, device, more⟩
  · rwa [same]
  · rw [more] at count ⊢
    refine answered_concat inv (fun returned => ?_) ?_
    · exact absurd returned (device_action device).2.2
    · rw [count]
      exact inv.few h.log (List.prefix_refl h.log)

/-- The flag is read after the callback, so the window is that of the execution. -/
private theorem lastExecutionFrozen {h : FreezeHelper} {attempts : ℕ} (device : h.Device)
    (tracked : h.Tracked) (pc : h.caller = .ending attempts) (frozen : h.isFrozen = true) :
    LastExecutionFrozen h.log := by
  unfold FreezeHelper.Tracked at tracked
  rw [pc] at tracked
  obtain ⟨earlier, during, later, split, own, only, within⟩ := tracked
  have opened : inWindow h.unfreezeThread = true :=
    (inWindow_of_flagUp (device.flag ▸ frozen)).1
  exact ⟨earlier, during, later, split, own, only, within opened⟩

private theorem answered_callerStep {h t : FreezeHelper} {e : CallerEvent} (device : h.Device)
    (counted : h.caller.Counted (executions h.log)) (tracked : h.Tracked) (inv : Answered h.log)
    (taken : CallerStep h e t) : Answered t.log := by
  have few : executions h.log ≤ 10 := inv.few h.log (List.prefix_refl h.log)
  cases taken with
  | runWhileFrozen =>
      refine answered_concat inv nofun ?_
      exact (executions_concat h.log _).trans_le (Nat.zero_le 10)
  | giveUp | rethrow | throwFromCallback | endCallback =>
      refine answered_concat inv nofun ?_
      exact (executions_concat h.log _).trans_le few
  | startCallback attempts pc =>
      rw [pc] at counted
      refine answered_concat inv nofun ?_
      exact (executions_concat h.log _).trans_le (counted.1.trans_le counted.2)
  | returns attempts pc frozen =>
      have last := lastExecutionFrozen device tracked pc frozen
      refine answered_concat inv (fun _ => last) ?_
      exact (executions_concat h.log _).trans_le few
  | _ => exact inv

end Calls

/-- The whole invariant of a run in which `Freeze` succeeds. -/
structure FreezeHelper.Windowed (h : FreezeHelper) : Prop where
  device : h.Device
  placed : h.Placed
  counted : h.caller.Counted (executions h.log)
  tracked : h.Tracked
  answered : Answered h.log

private theorem windowed_step {h t : FreezeHelper} {e : FreezeEvent} (inv : h.Windowed)
    (succeeds : ∀ what, e ≠ .thread (.freezeReturn (some what))) (taken : h.step e = some t) :
    t.Windowed := by
  obtain ⟨device, placed, counted, tracked, answered⟩ := inv
  cases e with
  | caller e =>
      have move := callerStep_cases taken
      have idle : ∀ attempts, h.caller = .starting attempts → h.unfreezeThread = none := by
        intro attempts pc
        unfold FreezeHelper.Placed at placed
        rwa [pc] at placed
      exact ⟨device_callerStep device idle move, placed_callerStep device.flag placed move,
        counted_callerStep counted move, tracked_callerStep device tracked move,
        answered_callerStep device counted tracked answered move⟩
  | thread e =>
      have move := threadStep_cases taken
      have moved := threadStep_forward move
      have success : ∀ what, e ≠ .freezeReturn (some what) := fun what same =>
        succeeds what (congrArg _ same)
      exact ⟨device_threadStep device success move, placed_threadStep placed moved,
        counted_threadStep counted moved, tracked_threadStep placed tracked moved,
        answered_threadStep answered moved⟩

private theorem windowed_new (didFreeze : Bool) : (FreezeHelper.new didFreeze).Windowed := by
  refine ⟨⟨rfl, rfl, ?_, rfl⟩, trivial, trivial, trivial, ⟨?_, ?_⟩⟩
  · intro i call found
    cases found
  · intro before recorded
    exact absurd (List.prefix_nil.mp recorded) (by simp)
  · intro before recorded
    rw [List.prefix_nil.mp recorded]
    exact Nat.zero_le 10

private theorem windowed_run {didFreeze : Bool} {events : List FreezeEvent} {h : FreezeHelper}
    (succeeds : ∀ what, .thread (.freezeReturn (some what)) ∉ events)
    (reached : run FreezeHelper.step (.new didFreeze) events = some h) : h.Windowed := by
  refine invariant_along (P := fun _ e => ∀ what, e ≠ .thread (.freezeReturn (some what)))
    (fun _ _ _ inv success taken => windowed_step inv success taken) (windowed_new didFreeze)
    (along_iff.mpr ?_) reached
  intro before e after t split reached what same
  refine succeeds what ?_
  rw [split, same]
  simp

/-- `BeginRequiredFreezeBlock` with a new thread that freezes before the caller tests. -/
def beginFreeze : List FreezeEvent :=
  [.caller .runWhileFrozen, .caller .attempt, .caller .testFrozen, .caller .join,
    .caller .startThread, .thread .freezeCall, .thread (.freezeReturn none), .thread .setDid,
    .thread .setFrozen, .thread .notifyFrozen, .caller .testDid, .caller .checkError]

/-- A call that returns, and the destruction of the helper. -/
def oneWindow : List FreezeEvent :=
  beginFreeze ++
    [.caller .startCallback, .caller .endCallback, .caller .endRequiredFreezeBlock,
      .caller .destroy, .thread .clearFrozen, .thread .thawCall, .thread (.thawReturn none),
      .caller .joinInDestructor]

end LinuxAgent.Freeze
