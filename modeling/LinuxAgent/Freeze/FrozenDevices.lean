/- module: LinuxAgent/Freeze/FrozenDevices
   source: freeze_helper/freeze_helper.cc, block_device/mountable_block_device.cc
   digest: The unfreeze threads of several devices, and what the kernel's file systems see. -/

import LinuxAgent.BlockDevice.Mountable
import LinuxAgent.Freeze.Windows

/-!
A `FreezeHelper` knows its device only through `Freeze` and `Thaw`. Here these are the calls of
the device object, with their descriptors, their ioctls and their exceptions, and each
device of the process has a helper: a call returns to the unfreeze thread what the
device threw. A device that has been constructed may get a helper, and when this is destroyed
another one, or be destroyed itself.

`thawed` records whether the file system was seen thawed at some moment since the callback
was last started. For ext2 `Freeze` and `Thaw` do nothing, so nothing is said of such devices.
-/

set_option autoImplicit false
set_option relaxedAutoImplicit false

namespace LinuxAgent.Freeze

open LinuxAgent.BlockDevice LinuxAgent.Lib.Run

structure FrozenDevices (ι φ : Type*) where
  process : Process ι φ
  helpers : ι → FreezeHelper
  thawed : ι → Bool

/-- A step of a helper comes with the clock and the mount table that its device would read. -/
inductive FrozenEvent (ι : Type*) where
  | helper (i : ι) (e : FreezeEvent) (now later : ℕ) (reading : Reading)
  | process (e : ProcessEvent ι)
  | newHelper (i : ι) (didFreeze : Bool)

/-- The step of the device that belongs to a step of the helper. -/
def FreezeEvent.onDevice (now later : ℕ) (reading : Reading) : FreezeEvent → Option MountEvent
  | .thread .freezeCall => some (.call .freeze now later reading)
  | .thread (.freezeReturn failure) => some (.finish failure)
  | .thread .thawCall => some (.call .thaw now later reading)
  | .thread (.thawReturn failure) => some (.finish failure)
  | _ => none

namespace FrozenDevices

variable {ι φ : Type*} [DecidableEq ι] [DecidableEq φ]

/-- No device has been constructed, and there are no helpers. -/
def new (paths : ι → List Char) (isExt2 : ι → Bool) (fileSystem : ι → φ) : FrozenDevices ι φ :=
  ⟨.new paths isExt2 fileSystem, fun _ => { FreezeHelper.new false with caller := .destroyed },
    fun _ => true⟩

/-- The steps of a device that are not the helper's: what a call does inside, and the
destructor, which runs when there is no helper. -/
def independent (s : FrozenDevices ι φ) : ProcessEvent ι → Bool
  | .device _ (.call _ _ _ _) => false
  | .device i (.finish _) =>
      match (s.process.devices i).pc with
      | .returning .destructor _ _ => true
      | _ => false
  | .device i .destroy => (s.helpers i).caller == .destroyed
  | _ => true

/-- A moment passes. -/
def watch (thawed : ι → Bool) (process : Process ι φ) : ι → Bool :=
  fun i => thawed i || !process.frozen (process.fileSystem i)

/-- A callback that starts is watched from its start on. -/
def restart (thawed : ι → Bool) (i : ι) : FreezeEvent → ι → Bool
  | .caller .startCallback => Function.update thawed i false
  | _ => thawed

/-- The device moves with the helper, if it does. -/
def follow (process : Process ι φ) (i : ι) : Option MountEvent → Option (Process ι φ)
  | some e => process.step (.device i e)
  | none => some process

def step (s : FrozenDevices ι φ) : FrozenEvent ι → Option (FrozenDevices ι φ)
  | .helper i e now later reading =>
      match (s.helpers i).step e, follow s.process i (e.onDevice now later reading) with
      | some h, some process =>
          some ⟨process, Function.update s.helpers i h,
            watch (restart s.thawed i e) process⟩
      | _, _ => none
  | .process e =>
      if s.independent e then
        match s.process.step e with
        | some process => some ⟨process, s.helpers, watch s.thawed process⟩
        | none => none
      else none
  | .newHelper i didFreeze =>
      if (s.helpers i).caller = .destroyed ∧ (s.process.devices i).pc = .idle then
        some { s with helpers := Function.update s.helpers i (.new didFreeze) }
      else none

end FrozenDevices

section Steps

variable {ι φ : Type*} [DecidableEq ι] [DecidableEq φ]

/-- The three kinds of steps. -/
inductive FrozenStep (s : FrozenDevices ι φ) : FrozenEvent ι → FrozenDevices ι φ → Prop where
  | helper (i : ι) (e : FreezeEvent) (now later : ℕ) (reading : Reading) (h : FreezeHelper)
      (process : Process ι φ) (moved : (s.helpers i).step e = some h)
      (followed : FrozenDevices.follow s.process i (e.onDevice now later reading) = some process) :
      FrozenStep s (.helper i e now later reading)
        ⟨process, Function.update s.helpers i h,
          FrozenDevices.watch (FrozenDevices.restart s.thawed i e) process⟩
  | process (e : ProcessEvent ι) (process : Process ι φ) (free : s.independent e = true)
      (moved : s.process.step e = some process) :
      FrozenStep s (.process e)
        ⟨process, s.helpers, FrozenDevices.watch s.thawed process⟩
  | newHelper (i : ι) (didFreeze : Bool) (gone : (s.helpers i).caller = .destroyed)
      (idle : (s.process.devices i).pc = .idle) :
      FrozenStep s (.newHelper i didFreeze)
        { s with helpers := Function.update s.helpers i (.new didFreeze) }

theorem frozenStep_cases {s t : FrozenDevices ι φ} {e : FrozenEvent ι} (taken : s.step e = some t) :
    FrozenStep s e t := by
  cases e with
  | helper i e now later reading =>
      simp only [FrozenDevices.step] at taken
      split at taken
      case h_1 h process moved followed =>
        obtain rfl := Option.some.inj taken
        exact .helper i e now later reading h process moved followed
      case h_2 => cases taken
  | process e =>
      simp only [FrozenDevices.step] at taken
      split_ifs at taken with free
      split at taken
      case h_1 process moved =>
        obtain rfl := Option.some.inj taken
        exact .process e process free moved
      case h_2 => cases taken
  | newHelper i didFreeze =>
      simp only [FrozenDevices.step] at taken
      split_ifs at taken with idle
      obtain rfl := Option.some.inj taken
      exact .newHelper i didFreeze idle.1 idle.2

end Steps

/-- The call on the device that the unfreeze thread is in. -/
def inDevice : Option UnfreezePc → Option FreezeCall
  | some .inFreeze => some .freeze
  | some .inThaw => some .thaw
  | _ => none

/-- The call of the unfreeze thread that the device is in. -/
def inCall : MountPc → Option FreezeCall
  | .opening .unfreezeThread call | .opened .unfreezeThread call _
  | .answered .unfreezeThread call _ _ | .returning .unfreezeThread call _ => some call
  | _ => none

/-- How a helper and its device go together. -/
structure Coupled (h : FreezeHelper) (d : MountableBlockDevice) : Prop where
  flag : h.isFrozen = flagUp h.unfreezeThread
  placed : h.Placed
  call : inCall d.pc = inDevice h.unfreezeThread
  idle : inCall d.pc = none → h.caller ≠ .destroyed → d.pc = .idle
  window : inWindow h.unfreezeThread = true → d.isFrozen = true
  answered : ∀ call, d.pc = .returning .unfreezeThread call none → d.isFrozen = (call == .freeze)
  error : h.unfreezeThread = some .errorSet → h.wasError = true
  stuck : h.unfreezeThread = none ∨ h.unfreezeThread = some .ended → d.isFrozen = true →
    h.wasError = true ∨ .freezeCalled ∉ h.log

section Helper

variable {h t : FreezeHelper} {d : MountableBlockDevice}

private theorem thread_of_destroyed (placed : h.Placed) (destroyed : h.caller = .destroyed) :
    h.unfreezeThread = none := by
  unfold FreezeHelper.Placed at placed
  rwa [destroyed] at placed

private theorem inDevice_of_inWindow {thread : Option UnfreezePc}
    (within : inWindow thread = true) : inDevice thread = none := by
  rcases thread with - | pc
  · rfl
  · cases pc <;> first | rfl | cases within

/-- Inside a window nobody touches the device. -/
private theorem idle_of_inWindow (inv : Coupled h d) (within : inWindow h.unfreezeThread = true) :
    d.pc = .idle := by
  refine inv.idle (inv.call.trans (inDevice_of_inWindow within)) fun destroyed => ?_
  rw [thread_of_destroyed inv.placed destroyed] at within
  cases within

/-- The caller's steps: the thread object changes only when no thread runs. -/
private theorem coupled_callerStep {e : CallerEvent} (inv : Coupled h d)
    (taken : CallerStep h e t) : Coupled t d := by
  have placed := placed_callerStep inv.flag inv.placed taken
  have alive : h.caller ≠ .destroyed := by
    cases taken <;> simp [*]
  have idle := fun none => inv.idle none alive
  have flag := inv.flag
  have call := inv.call
  have stuck := inv.stuck
  cases taken with
  | join attempts pc exited | joinInDestructor pc exited =>
      refine ⟨?_, placed, ?_, fun none _ => idle none, by simp [inWindow], inv.answered, by simp,
        fun _ => stuck exited⟩
      · rcases exited with none | ended <;> simp_all [flagUp]
      · rcases exited with none | ended <;> simp_all [inDevice]
  | startThread attempts pc =>
      have none : h.unfreezeThread = none := by
        have before := inv.placed
        unfold FreezeHelper.Placed at before
        rwa [pc] at before
      rw [none] at flag call
      exact ⟨flag, placed, call, fun none _ => idle none, by simp [inWindow], inv.answered,
        by simp, by simp⟩
  | runWhileFrozen | giveUp | rethrow | startCallback | endCallback | throwFromCallback
  | returns =>
      refine ⟨flag, placed, call, fun none _ => idle none, inv.window, inv.answered, inv.error, ?_⟩
      intro exited frozen
      refine (stuck exited frozen).imp id fun absent => ?_
      simpa [FreezeHelper.note, FreezeHelper.throw, FreezeHelper.goto] using absent
  | attempt | stillFrozen | notFrozen | didFreeze | didNotFreeze | wasError | noError | wait
  | wakeSpuriously | begun | again | destroy =>
      exact ⟨flag, placed, call, fun none _ => idle none, inv.window, inv.answered, inv.error,
        stuck⟩

/-- The steps of the unfreeze thread that do not concern the device. -/
private theorem coupled_threadStep {e : ThreadEvent} (inv : Coupled h d)
    (apart : ∀ now later reading, (FreezeEvent.thread e).onDevice now later reading = none)
    (taken : ThreadStep h e t) : Coupled t d := by
  have moved := threadStep_forward taken
  have placed := placed_threadStep inv.placed moved
  have idle : inCall d.pc = none → t.caller ≠ .destroyed → d.pc = .idle := fun none _ =>
    inv.idle none fun destroyed => moved.alive (thread_of_destroyed inv.placed destroyed)
  have flag := inv.flag
  have call := inv.call
  have window := inv.window
  have error := inv.error
  cases taken with
  | freezeCall pc | freezeReturn pc | freezeFail what pc | thawCall pc | thawReturn pc
  | thawFail what pc => cases apart 0 0 ⟨fun _ => .error .other, []⟩
  | setDid pc | clearFrozen pc | setFrozen pc | notifyFrozen pc =>
      rw [pc] at flag call window
      refine ⟨?_, placed, ?_, idle, fun _ => window rfl, inv.answered, ?_, ?_⟩ <;>
        simp_all [FreezeHelper.toThread, flagUp, inDevice]
  | setError what pc =>
      rw [pc] at flag call
      exact ⟨flag, placed, call, idle, by simp [FreezeHelper.toThread, inWindow], inv.answered,
        fun _ => rfl, by simp [FreezeHelper.toThread]⟩
  | notifyError pc =>
      rw [pc] at flag call
      have failed := error pc
      refine ⟨?_, placed, ?_, idle, ?_, inv.answered, ?_, fun _ _ => .inl ?_⟩ <;>
        simp_all [FreezeHelper.toThread, flagUp, inDevice, inWindow]

end Helper

section Device

variable {ι φ : Type*} [DecidableEq ι] [DecidableEq φ] {h t : FreezeHelper}
  {d u : MountableBlockDevice}

/-- A step inside a call, of the thread or of the destructor. -/
private theorem coupled_within (inv : Coupled h d) (busy : d.pc ≠ .idle)
    (same : inCall u.pc = inCall d.pc)
    (kept : inCall d.pc = none → u.isFrozen = true → d.isFrozen = true)
    (answered : ∀ call, u.pc = .returning .unfreezeThread call none →
      u.isFrozen = (call == .freeze)) : Coupled h u := by
  refine ⟨inv.flag, inv.placed, same.trans inv.call, ?_, ?_, answered, inv.error, ?_⟩
  · exact fun none alive => absurd (inv.idle (same.symm.trans none) alive) busy
  · exact fun within => absurd (idle_of_inWindow inv within) busy
  · intro exited frozen
    refine inv.stuck exited (kept ?_ frozen)
    rw [inv.call]
    rcases exited with none | ended
    · rw [none]
      rfl
    · rw [ended]
      rfl

/-- The device enters a call together with its thread. -/
private theorem coupled_call {call : FreezeCall} {answer : Except String Bool}
    (flag : t.isFrozen = flagUp t.unfreezeThread) (placed : t.Placed)
    (inside : inDevice t.unfreezeThread = some call)
    (begun : CallBegun d .unfreezeThread call answer u) (mounted : answer ≠ .ok false) :
    Coupled t u := by
  have calling : inCall u.pc = some call ∧
      ∀ other, u.pc ≠ .returning .unfreezeThread other none := by
    cases begun with
    | threw what found pc flag => simp [pc, inCall]
    | mounted found pc flag => simp [pc, inCall]
    | skipped found pc flag => exact absurd found mounted
  have outside : inWindow t.unfreezeThread = false := by
    by_contra within
    simp [inDevice_of_inWindow (Bool.not_eq_false _ ▸ within)] at inside
  refine ⟨flag, placed, calling.1.trans inside.symm, ?_, ?_, ?_, ?_, ?_⟩
  · intro none
    simp [calling.1] at none
  · simp [outside]
  · exact fun other pc => absurd pc (calling.2 other)
  · intro error
    simp [error, inDevice] at inside
  · rintro (none | ended)
    · simp [none, inDevice] at inside
    · simp [ended, inDevice] at inside

/-- The device returns to the thread. -/
private theorem coupled_return {call : FreezeCall} {failure : Option String} (inv : Coupled h d)
    (pc : d.pc = .returning .unfreezeThread call failure)
    (flag : t.isFrozen = flagUp t.unfreezeThread) (placed : t.Placed)
    (outside : inDevice t.unfreezeThread = none) (error : t.unfreezeThread ≠ some .errorSet)
    (froze : inWindow t.unfreezeThread = true → call = .freeze ∧ failure = none)
    (ended : t.unfreezeThread = none ∨ t.unfreezeThread = some .ended →
      call = .thaw ∧ failure = none) : Coupled t (d.goto .idle) := by
  refine ⟨flag, placed, outside.symm, fun _ _ => rfl, ?_, by simp [MountableBlockDevice.goto],
    fun same => absurd same error, ?_⟩
  · intro within
    obtain ⟨rfl, rfl⟩ := froze within
    exact inv.answered .freeze pc
  · intro exited frozen
    obtain ⟨rfl, rfl⟩ := ended exited
    have thawed : d.isFrozen = false := inv.answered .thaw pc
    exact absurd (thawed.symm.trans frozen) Bool.false_ne_true

/-- The steps of the device that are not those of a helper. -/
private theorem coupled_deviceStep {s p : Process ι φ} {i : ι} {e : MountEvent}
    (inv : Coupled h (s.devices i)) (ending : (s.devices i).Ending)
    (noCall : ∀ call now later reading, e ≠ .call call now later reading)
    (noReturn : ∀ failure call, e = .finish failure →
      (s.devices i).pc ≠ .returning .unfreezeThread call failure)
    (unused : e = .destroy → h.caller = .destroyed) (taken : DeviceStep s i e p) :
    Coupled h (p.devices i) := by
  unfold MountableBlockDevice.Ending at ending
  cases taken with
  | construct pc =>
      have none : inCall (s.devices i).pc = none := by rw [pc]; rfl
      have destroyed : h.caller = .destroyed := by
        by_contra alive
        simpa [pc] using inv.idle none alive
      have thread := thread_of_destroyed inv.placed destroyed
      rw [Process.put_devices_self]
      refine ⟨inv.flag, inv.placed, none.symm.trans inv.call, fun _ _ => rfl, ?_, ?_, inv.error,
        ?_⟩
      · simp [thread, inWindow]
      · simp [MountableBlockDevice.constructed]
      · simp [MountableBlockDevice.constructed]
  | call call now later reading pc => exact absurd rfl (noCall call now later reading)
  | back call failure pc => exact absurd pc (noReturn failure call rfl)
  | notMounted caller call reading number what pc | notOpened caller call reading pc =>
      rw [Process.put_devices_self]
      refine coupled_within inv (by simp [pc]) ?_ (fun _ => id) ?_
      · rw [pc]
        cases caller <;> rfl
      · simp [MountableBlockDevice.goto]
  | opened caller call reading n pc free =>
      refine coupled_within inv (by simp [pc]) ?_ ?_ ?_ <;> simp [pc]
      cases caller <;> rfl
  | ioctl caller call mountFd refused pc =>
      refine coupled_within inv (by simp [pc]) ?_ ?_ ?_ <;> simp [MountableBlockDevice.goto, pc]
      cases caller <;> rfl
  | close caller call mountFd ioctlRet pc =>
      rw [pc] at ending
      refine coupled_within inv (by simp [pc]) ?_ ?_ ?_ <;>
        cases ioctlRet <;>
          simp [MountableBlockDevice.closed, MountableBlockDevice.goto, pc]
      · cases caller <;> rfl
      · cases caller <;> rfl
      · intro outside
        cases caller with
        | unfreezeThread => cases outside
        | destructor => simp [ending.1]
  | ended call failure pc =>
      refine coupled_within inv (by simp [pc]) ?_ ?_ ?_ <;>
        simp [MountableBlockDevice.goto, pc, inCall]
  | destroy pc =>
      have destroyed := unused rfl
      have thread := thread_of_destroyed inv.placed destroyed
      have call := inv.call
      refine ⟨inv.flag, inv.placed, ?_, fun _ alive => absurd destroyed alive, ?_, ?_, inv.error,
        ?_⟩
      · simp [MountableBlockDevice.goto, inCall, thread, inDevice]
      · simp [thread, inWindow]
      · simp [MountableBlockDevice.goto]
      · simpa [MountableBlockDevice.goto] using inv.stuck
  | thawInDestructor now later reading pc =>
      rw [Process.put_devices_self]
      unfold MountableBlockDevice.thawInDestructor
      split_ifs with frozen
      · refine coupled_within inv (by simp [pc]) ?_ (fun _ _ => frozen) ?_ <;>
          cases call_begun (s.devices i) .destructor .thaw now later reading <;> simp [*, inCall]
      · refine coupled_within inv (by simp [pc]) ?_ (fun _ => id) ?_ <;>
          simp [MountableBlockDevice.goto, pc, inCall]

end Device

section Runs

variable {ι φ : Type*}

/-- `IsMounted` does not say no when a thread calls `Freeze` or `Thaw`, which on ext2 do not
ask it. -/
def foundMounted (d : MountableBlockDevice) (now later : ℕ) (reading : Reading) :
    Option MountEvent → Bool
  | some (.call _ _ _ _) => d.isExt2 ||
      match (d.isMounted now later reading).1 with
      | .ok false => false
      | _ => true
  | _ => true

/-- What the run is assumed to meet: the devices are found mounted whenever a thread calls, and
the steps of the process are careful. -/
def Meets [DecidableEq φ] (s : FrozenDevices ι φ) : FrozenEvent ι → Prop
  | .helper i e now later reading =>
      foundMounted (s.process.devices i) now later reading (e.onDevice now later reading) = true
  | .process e => Careful s.process e
  | .newHelper _ _ => True

/-- The callback runs or has just ended. -/
def CallerPc.executing : CallerPc → Bool
  | .running _ | .ending _ => true
  | _ => false

structure FrozenDevices.Watched (s : FrozenDevices ι φ) : Prop where
  process : s.process.Intact
  coupled : ∀ i, (s.process.devices i).isExt2 = false →
    Coupled (s.helpers i) (s.process.devices i)
  frozen : ∀ i, (s.process.devices i).isExt2 = false →
    (s.helpers i).caller.executing = true →
    inWindow (s.helpers i).unfreezeThread = true → s.thawed i = false

private theorem watched_new (paths : ι → List Char) (isExt2 : ι → Bool) (fileSystem : ι → φ) :
    (FrozenDevices.new paths isExt2 fileSystem).Watched := by
  refine ⟨intact_new paths isExt2 fileSystem, fun i _ => ?_, fun _ _ executing => ?_⟩
  · refine ⟨rfl, rfl, rfl, fun _ alive => absurd rfl alive, ?_, ?_, ?_, ?_⟩ <;>
      simp [FrozenDevices.new, FreezeHelper.new, Process.new, MountableBlockDevice.new,
        MountableBlockDevice.constructed, MountableBlockDevice.goto, inWindow]
  · cases executing

/-- In a window the kernel has the file system frozen. -/
private theorem frozen_of_inWindow {h : FreezeHelper} {s : Process ι φ} {i : ι} (intact : s.Intact)
    (coupled : Coupled h (s.devices i)) (within : inWindow h.unfreezeThread = true) :
    s.frozen (s.fileSystem i) = true := by
  have idle := idle_of_inWindow coupled within
  rw [← intact.flag i (by rw [idle]; rfl), flagAfter_of_settled (by simp [idle])]
  exact coupled.window within

/-- Between the calls of the thread the flag is up if the file system is frozen; the destructor
clears the flag after the file system has thawed. -/
private theorem isFrozen_of_outside {d : MountableBlockDevice} (ending : d.Ending)
    (outside : inCall d.pc = none) (frozen : d.flagAfter = true) : d.isFrozen = true := by
  unfold MountableBlockDevice.Ending at ending
  unfold MountableBlockDevice.flagAfter at frozen
  split at frozen
  case h_1 caller call n pc =>
    rw [pc] at ending outside
    cases caller with
    | unfreezeThread => cases outside
    | destructor => exact ending.2
  case h_2 => exact frozen

private theorem flag_threadStep {h t : FreezeHelper} {e : ThreadEvent}
    (flag : h.isFrozen = flagUp h.unfreezeThread) (taken : ThreadStep h e t) :
    t.isFrozen = flagUp t.unfreezeThread := by
  cases taken <;> simp_all [FreezeHelper.toThread, FreezeHelper.note, flagUp]

variable [DecidableEq φ]

/-- What the condition says of a call of the thread. -/
private theorem meets_call {s : FrozenDevices ι φ} {i : ι} {e : ThreadEvent} {call : FreezeCall}
    {now later : ℕ} {reading : Reading}
    (enters : (FreezeEvent.thread e).onDevice now later reading =
      some (.call call now later reading))
    (meets : Meets s (.helper i (.thread e) now later reading)) :
    (s.process.devices i).isExt2 = true ∨
      ((s.process.devices i).isMounted now later reading).1 ≠ .ok false := by
  simp only [Meets, enters, foundMounted, Bool.or_eq_true] at meets
  refine meets.imp id fun mounted found => ?_
  rw [found] at mounted
  cases mounted

private theorem careful_of_meets {s : FrozenDevices ι φ} {i : ι} {e : FreezeEvent} {now later : ℕ}
    {reading : Reading} {m : MountEvent} (event : e.onDevice now later reading = some m)
    (meets : Meets s (.helper i e now later reading)) : Careful s.process (.device i m) := by
  unfold FreezeEvent.onDevice at event
  split at event
  case h_3 =>
    obtain rfl := Option.some.inj event
    refine (meets_call rfl meets).imp id fun mounted => ?_
    unfold MountableBlockDevice.skipsThaw
    split
    case h_1 found => exact absurd found mounted
    case h_2 => rfl
  case h_5 => cases event
  all_goals
    obtain rfl := Option.some.inj event
    trivial

variable [DecidableEq ι]

/-- A call of the unfreeze thread enters the device. -/
private theorem coupled_enters {h t : FreezeHelper} {s p : Process ι φ} {i : ι} {e : ThreadEvent}
    {call : FreezeCall} {now later : ℕ} {reading : Reading} (inv : Coupled h (s.devices i))
    (taken : ThreadStep h e t) (inside : inDevice t.unfreezeThread = some call)
    (freezes : (s.devices i).isExt2 = false)
    (mounted : ((s.devices i).isMounted now later reading).1 ≠ .ok false)
    (moved : DeviceStep s i (.call call now later reading) p) : Coupled t (p.devices i) := by
  cases moved with
  | call _ _ _ _ pc =>
      rw [Process.put_devices_self, MountableBlockDevice.virtualCall, freezes]
      exact coupled_call (flag_threadStep inv.flag taken)
        (placed_threadStep inv.placed (threadStep_forward taken)) inside
        (call_begun (s.devices i) .unfreezeThread call now later reading) mounted

/-- A call returns to the unfreeze thread. -/
private theorem coupled_leaves {h t : FreezeHelper} {s p : Process ι φ} {i : ι} {e : ThreadEvent}
    {call : FreezeCall} {failure : Option String} (inv : Coupled h (s.devices i))
    (taken : ThreadStep h e t) (inside : inDevice h.unfreezeThread = some call)
    (outside : inDevice t.unfreezeThread = none) (error : t.unfreezeThread ≠ some .errorSet)
    (froze : inWindow t.unfreezeThread = true → call = .freeze ∧ failure = none)
    (ended : t.unfreezeThread = none ∨ t.unfreezeThread = some .ended →
      call = .thaw ∧ failure = none)
    (moved : DeviceStep s i (.finish failure) p) : Coupled t (p.devices i) := by
  have calling := inv.call.trans inside
  cases moved with
  | back other _ pc =>
      rw [pc] at calling
      obtain rfl := Option.some.inj calling
      rw [Process.put_devices_self]
      exact coupled_return inv pc (flag_threadStep inv.flag taken)
        (placed_threadStep inv.placed (threadStep_forward taken)) outside error froze ended
  | ended other _ pc =>
      rw [pc] at calling
      cases calling

/-- A helper and its device after a step of the helper. -/
private theorem coupled_helperStep {s : FrozenDevices ι φ} {i : ι} {e : FreezeEvent} {now later : ℕ}
    {reading : Reading} {h : FreezeHelper} {p : Process ι φ}
    (freezes : (s.process.devices i).isExt2 = false)
    (inv : Coupled (s.helpers i) (s.process.devices i))
    (meets : Meets s (.helper i e now later reading))
    (moved : (s.helpers i).step e = some h)
    (followed : FrozenDevices.follow s.process i (e.onDevice now later reading) = some p) :
    Coupled h (p.devices i) := by
  cases e with
  | caller e =>
      obtain rfl := Option.some.inj followed
      exact coupled_callerStep inv (callerStep_cases moved)
  | thread e =>
      have taken := threadStep_cases moved
      cases taken with
      | freezeCall pc =>
          have mounted := (meets_call rfl meets).resolve_left (by simp [freezes])
          exact coupled_enters inv (.freezeCall pc) rfl freezes mounted (deviceStep_cases followed)
      | thawCall pc =>
          have mounted := (meets_call rfl meets).resolve_left (by simp [freezes])
          exact coupled_enters inv (.thawCall pc) rfl freezes mounted (deviceStep_cases followed)
      | freezeReturn pc =>
          exact coupled_leaves inv (.freezeReturn pc) (by rw [pc]; rfl) rfl
            (by simp [FreezeHelper.note, FreezeHelper.toThread]) (fun _ => ⟨rfl, rfl⟩)
            (by simp [FreezeHelper.note, FreezeHelper.toThread]) (deviceStep_cases followed)
      | freezeFail what pc =>
          exact coupled_leaves inv (.freezeFail what pc) (by rw [pc]; rfl) rfl
            (by simp [FreezeHelper.note, FreezeHelper.toThread])
            (by simp [FreezeHelper.note, FreezeHelper.toThread, inWindow])
            (by simp [FreezeHelper.note, FreezeHelper.toThread]) (deviceStep_cases followed)
      | thawReturn pc =>
          exact coupled_leaves inv (.thawReturn pc) (by rw [pc]; rfl) rfl
            (by simp [FreezeHelper.toThread]) (by simp [FreezeHelper.toThread, inWindow])
            (fun _ => ⟨rfl, rfl⟩) (deviceStep_cases followed)
      | thawFail what pc =>
          exact coupled_leaves inv (.thawFail what pc) (by rw [pc]; rfl) rfl
            (by simp [FreezeHelper.toThread]) (by simp [FreezeHelper.toThread, inWindow])
            (by simp [FreezeHelper.toThread]) (deviceStep_cases followed)
      | setDid | setFrozen | notifyFrozen | clearFrozen | setError | notifyError =>
          obtain rfl := Option.some.inj followed
          exact coupled_threadStep inv (fun _ _ _ => rfl) (threadStep_cases moved)

/-- The table and the flags after a step of a helper. -/
private theorem intact_follow {s : FrozenDevices ι φ} {i : ι} {e : FreezeEvent} {now later : ℕ}
    {reading : Reading} {p : Process ι φ} (inv : s.process.Intact)
    (meets : Meets s (.helper i e now later reading))
    (followed : FrozenDevices.follow s.process i (e.onDevice now later reading) = some p) :
    p.Intact := by
  cases event : e.onDevice now later reading with
  | none =>
      rw [event] at followed
      obtain rfl := Option.some.inj followed
      exact inv
  | some m =>
      rw [event] at followed
      exact intact_step (e := .device i m) inv (careful_of_meets event meets) followed

/-- A callback that runs in a window was started in it, or ran in it before. -/
private theorem executing_step {h t : FreezeHelper} {e : FreezeEvent} (placed : h.Placed)
    (moved : h.step e = some t) (executing : t.caller.executing = true)
    (within : inWindow t.unfreezeThread = true) :
    e = .caller .startCallback ∨
      h.caller.executing = true ∧ inWindow h.unfreezeThread = true := by
  cases e with
  | caller e =>
      cases callerStep_cases moved with
      | startCallback => exact .inl rfl
      | endCallback attempts pc => exact .inr ⟨by rw [pc]; rfl, within⟩
      | _ => cases executing
  | thread e =>
      have forward := threadStep_forward (threadStep_cases moved)
      rcases forward.caller with same | ⟨attempts, _, after⟩
      · rw [same] at executing
        have past : pastFreeze h.unfreezeThread = true := by
          unfold FreezeHelper.Placed at placed
          cases pc : h.caller <;> rw [pc] at executing placed <;>
            first | exact placed | cases executing
        exact .inr ⟨executing, (forward.window past within).1⟩
      · rw [after] at executing
        cases executing

private theorem coupled_new (didFreeze : Bool) {d : MountableBlockDevice} (idle : d.pc = .idle) :
    Coupled (.new didFreeze) d :=
  ⟨rfl, trivial, by rw [idle]; rfl, fun _ _ => idle, by simp [FreezeHelper.new, inWindow],
    by simp [idle], by simp [FreezeHelper.new], fun _ _ => .inr List.not_mem_nil⟩

/-- The devices of the other helpers do not move. -/
private theorem devices_follow {s p : Process ι φ} {i j : ι} {m : Option MountEvent} (other : j ≠ i)
    (followed : FrozenDevices.follow s i m = some p) : p.devices j = s.devices j := by
  cases m with
  | none =>
      obtain rfl := Option.some.inj followed
      rfl
  | some m => exact (deviceStep_cases followed).others other

/-- No step makes a device an ext2 device or the other way round. -/
private theorem isExt2_follow {s p : Process ι φ} {i : ι} {m : Option MountEvent}
    (followed : FrozenDevices.follow s i m = some p) (j : ι) :
    (p.devices j).isExt2 = (s.devices j).isExt2 := by
  cases m with
  | none =>
      obtain rfl := Option.some.inj followed
      rfl
  | some m => exact (deviceStep_cases followed).isExt2 j

private theorem isExt2_process {s p : Process ι φ} {e : ProcessEvent ι} (moved : s.step e = some p)
    (j : ι) : (p.devices j).isExt2 = (s.devices j).isExt2 := by
  cases e with
  | device i e => exact (deviceStep_cases moved).isExt2 j
  | opens name number | closes name number =>
      simp only [Process.step] at moved
      split_ifs at moved
      obtain rfl := Option.some.inj moved
      rfl

private theorem coupled_processStep {s : FrozenDevices ι φ} {e : ProcessEvent ι} {p : Process ι φ}
    (inv : s.Watched) (free : s.independent e = true) (moved : s.process.step e = some p) (i : ι)
    (freezes : (s.process.devices i).isExt2 = false) :
    Coupled (s.helpers i) (p.devices i) := by
  have coupled := inv.coupled i freezes
  cases e with
  | device j e =>
      have taken := deviceStep_cases moved
      by_cases same : i = j
      · subst same
        refine coupled_deviceStep coupled (inv.process.ending i) ?_ ?_ ?_ taken
        · rintro call now later reading rfl
          cases free
        · rintro failure call rfl pc
          simp [FrozenDevices.independent, pc] at free
        · rintro rfl
          simpa [FrozenDevices.independent] using free
      · rw [taken.others same]
        exact coupled
  | opens name number | closes name number =>
      simp only [Process.step] at moved
      split_ifs at moved
      obtain rfl := Option.some.inj moved
      exact coupled

private theorem restart_thawed {thawed : ι → Bool} {i j : ι} {e : FreezeEvent}
    (frozen : thawed j = false) : FrozenDevices.restart thawed i e j = false := by
  unfold FrozenDevices.restart
  split
  · by_cases same : j = i
    · rw [same, Function.update_self]
    · rwa [Function.update_of_ne same]
  · exact frozen

private theorem watched_step {s t : FrozenDevices ι φ} {e : FrozenEvent ι} (inv : s.Watched)
    (meets : Meets s e) (taken : s.step e = some t) : t.Watched := by
  cases frozenStep_cases taken with
  | helper i e now later reading h p moved followed =>
      have intact := intact_follow inv.process meets followed
      have coupled : ∀ j, (p.devices j).isExt2 = false →
          Coupled (Function.update s.helpers i h j) (p.devices j) := by
        intro j freezes
        rw [isExt2_follow followed] at freezes
        by_cases same : j = i
        · subst same
          rw [Function.update_self]
          exact coupled_helperStep freezes (inv.coupled j freezes) meets moved followed
        · rw [Function.update_of_ne same, devices_follow same followed]
          exact inv.coupled j freezes
      refine ⟨intact, coupled, fun j freezes executing within => ?_⟩
      have frozen := frozen_of_inWindow intact (coupled j freezes) within
      have before : (s.process.devices j).isExt2 = false := isExt2_follow followed j ▸ freezes
      simp only [FrozenDevices.watch, frozen, Bool.not_true, Bool.or_false]
      by_cases same : j = i
      · subst same
        simp only [Function.update_self] at executing within
        rcases executing_step (inv.coupled j before).placed moved executing within with
          rfl | ⟨running, inside⟩
        · exact Function.update_self j false s.thawed
        · exact restart_thawed (inv.frozen j before running inside)
      · simp only [Function.update_of_ne same] at executing within
        exact restart_thawed (inv.frozen j before executing within)
  | process e p free moved =>
      have intact := intact_step inv.process meets moved
      have coupled : ∀ i, (p.devices i).isExt2 = false → Coupled (s.helpers i) (p.devices i) :=
        fun i freezes => coupled_processStep inv free moved i (isExt2_process moved i ▸ freezes)
      refine ⟨intact, coupled, fun i freezes executing within => ?_⟩
      have frozen := frozen_of_inWindow intact (coupled i freezes) within
      simp only [FrozenDevices.watch, frozen, Bool.not_true, Bool.or_false]
      exact inv.frozen i (isExt2_process moved i ▸ freezes) executing within
  | newHelper i didFreeze gone idle =>
      refine ⟨inv.process, fun j => ?_, fun j => ?_⟩
      · by_cases same : j = i
        · subst same
          simpa using fun _ => coupled_new didFreeze idle
        · simpa [Function.update_of_ne same] using inv.coupled j
      · by_cases same : j = i
        · subst same
          simp [FreezeHelper.new, CallerPc.executing]
        · simpa [Function.update_of_ne same] using inv.frozen j

private theorem watched_run {paths : ι → List Char} {isExt2 : ι → Bool} {fileSystem : ι → φ}
    {events : List (FrozenEvent ι)} {s : FrozenDevices ι φ}
    (meets : Along FrozenDevices.step Meets (.new paths isExt2 fileSystem) events)
    (reached : run FrozenDevices.step (.new paths isExt2 fileSystem) events = some s) :
    s.Watched :=
  invariant_along (fun _ _ _ inv cond taken => watched_step inv cond taken)
    (watched_new paths isExt2 fileSystem) meets reached

private theorem isExt2_run {paths : ι → List Char} {isExt2 : ι → Bool} {fileSystem : ι → φ}
    {events : List (FrozenEvent ι)} {s : FrozenDevices ι φ}
    (reached : run FrozenDevices.step (.new paths isExt2 fileSystem) events = some s) (i : ι) :
    (s.process.devices i).isExt2 = isExt2 i := by
  refine invariant (I := fun s => (s.process.devices i).isExt2 = isExt2 i)
    (fun s e t inv taken => ?_) rfl reached
  cases frozenStep_cases taken with
  | helper j e now later reading h p moved followed => exact (isExt2_follow followed i).trans inv
  | process e p free moved => exact (isExt2_process moved i).trans inv
  | newHelper j didFreeze gone idle => exact inv

/-- The destructor leaves the file system frozen exactly if it has caught something. -/
private theorem frozen_of_destroyed {s p : Process ι φ} {i : ι} {e : MountEvent}
    {logged : Option String} (intact : s.Intact) (taken : DeviceStep s i e p)
    (pc : (p.devices i).pc = .destroyed logged) :
    p.frozen (p.fileSystem i) = true ↔ logged ≠ none := by
  have ending := intact.ending i
  unfold MountableBlockDevice.Ending at ending
  cases taken with
  | ended call failure before =>
      rw [before] at ending
      have flag := intact.flag i (by rw [before]; rfl)
      rw [flagAfter_of_settled (by simp [before]), ending] at flag
      rw [Process.put_devices_self] at pc
      obtain rfl : failure = logged := by simpa [MountableBlockDevice.goto] using pc
      simp [Process.put, ← flag, Option.isSome_iff_ne_none]
  | thawInDestructor now later reading before =>
      have flag := intact.flag i (by rw [before]; rfl)
      rw [flagAfter_of_settled (by simp [before])] at flag
      rw [Process.put_devices_self] at pc
      unfold MountableBlockDevice.thawInDestructor at pc
      split_ifs at pc with frozen
      · cases call_begun (s.devices i) .destructor .thaw now later reading <;> simp_all
      · obtain rfl : none = logged := by simpa [MountableBlockDevice.goto] using pc
        simpa [Process.put, ← flag] using frozen
  | call call now later reading before =>
      rw [Process.put_devices_self] at pc
      unfold MountableBlockDevice.virtualCall at pc
      split_ifs at pc
      · cases pc
      · cases call_begun (s.devices i) .unfreezeThread call now later reading <;> simp_all
  | close caller call mountFd ioctlRet before =>
      cases ioctlRet <;> simp [MountableBlockDevice.closed, MountableBlockDevice.goto] at pc
  | _ => simp [MountableBlockDevice.goto, MountableBlockDevice.constructed] at pc

instance [Fintype ι] (s : FrozenDevices ι φ) : (e : FrozenEvent ι) → Decidable (Meets s e)
  | .helper i e now later reading => inferInstanceAs (Decidable
      (foundMounted (s.process.devices i) now later reading (e.onDevice now later reading) = true))
  | .process e => inferInstanceAs (Decidable (Careful s.process e))
  | .newHelper _ _ => .isTrue trivial

/-- A step of the only helper. -/
def helperStep (e : FreezeEvent) : FrozenEvent Unit := .helper () e 100 100 mountedReading

/-- A device is frozen with descriptor 3 and the callback has ended. -/
def oneCallback : List (FrozenEvent Unit) :=
  [.process (.device () .construct), .newHelper () true] ++
  [.caller .runWhileFrozen, .caller .attempt, .caller .testFrozen, .caller .join,
    .caller .startThread, .thread .freezeCall].map helperStep ++
  [.openMount mountedReading (some 3), .ioctl false, .close].map
    (fun e => .process (.device () e)) ++
  [.thread (.freezeReturn none), .thread .setDid, .thread .setFrozen, .thread .notifyFrozen,
    .caller .testDid, .caller .checkError, .caller .startCallback,
    .caller .endCallback].map helperStep

end Runs

end LinuxAgent.Freeze
