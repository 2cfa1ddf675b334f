/- module: LinuxAgent/BlockDevice/Mountable
   source: block_device/mountable_block_device.{h,cc}, block_device/ext_mountable_block_device.cc
   digest: Freeze, Thaw and the destructor of devices that share one table of descriptors. -/

import LinuxAgent.BlockDevice.MountTable
import LinuxAgent.Lib.Ownership
import LinuxAgent.Lib.Run
import Mathlib.Data.Finset.Insert

/-!
The daemon has one object for each device that is being backed up. Each of them opens its
mount point for `FIFREEZE` and `FITHAW`, and all of them, the sockets and the trace files
take their descriptors from the one table of the process.

`Freeze` and `Thaw` close the descriptor themselves but leave its number in
`mount_file_descriptor_`, and the destructor closes that number again. The other gap is
the answer of `IsMounted`, which may be ten seconds old: `Thaw` clears `is_frozen_` even if
it did nothing because of that answer.

A file system is frozen for everybody, and an object knows only what it did itself: `fileSystem`
says which file system an object's mount point belongs to, and several objects may have the
same one, at one time or one after the other. Nothing outside the process freezes or thaws
these file systems. A descriptor of another part of the process is for none of them, and other
parts close only what they opened.
-/

set_option autoImplicit false
set_option relaxedAutoImplicit false

namespace LinuxAgent.BlockDevice

open LinuxAgent.Lib.Ownership LinuxAgent.Lib.Run

/-- What a reader of /proc/mounts finds, and how paths resolve at that moment. -/
structure Reading where
  realpath : List Char → Except Errno (List Char)
  mounts : List Char

inductive FreezeCall where
  | freeze
  | thaw
  deriving DecidableEq

/-- The exception when the ioctl fails. -/
def FreezeCall.what : FreezeCall → String
  | .freeze => "FIFREEZE"
  | .thaw => "FITHAW"

inductive MountCaller where
  | unfreezeThread
  | destructor
  deriving DecidableEq

/-- Where a device object stands. The number is `mount_fd`; `ioctlRet` is true for an error;
`logged` is what the destructor caught. -/
inductive MountPc where
  | unconstructed
  | idle
  | opening (caller : MountCaller) (call : FreezeCall)
  | opened (caller : MountCaller) (call : FreezeCall) (mountFd : ℕ)
  | answered (caller : MountCaller) (call : FreezeCall) (mountFd : ℕ) (ioctlRet : Bool)
  | returning (caller : MountCaller) (call : FreezeCall) (failure : Option String)
  | destroying
  | destroyed (logged : Option String)
  deriving DecidableEq

/-- The descriptor that a call has open. -/
def MountPc.mountFd : MountPc → Option ℕ
  | .opened _ _ mountFd => some mountFd
  | .answered _ _ mountFd _ => some mountFd
  | _ => none

/-- The object exists. -/
def MountPc.live : MountPc → Bool
  | .unconstructed | .destroyed _ => false
  | _ => true

/-- A `MountableBlockDevice`; `none` as descriptor is -1. -/
structure MountableBlockDevice where
  path : List Char
  isExt2 : Bool
  mountFileDescriptor : Option ℕ
  isFrozen : Bool
  lastMountCheckTime : ℕ
  lastMountedResult : Bool
  pc : MountPc

namespace MountableBlockDevice

def goto (d : MountableBlockDevice) (pc : MountPc) : MountableBlockDevice := { d with pc := pc }

/-- What the constructor makes. -/
def constructed (path : List Char) (isExt2 : Bool) : MountableBlockDevice :=
  ⟨path, isExt2, none, false, 0, false, .idle⟩

/-- An object that is still to be made. -/
def new (path : List Char) (isExt2 : Bool) : MountableBlockDevice :=
  (constructed path isExt2).goto .unconstructed

/-- `IsMounted` with its two readings of the clock. The time is stored before the check, so a
check that throws leaves the old answer for the next ten seconds. -/
def isMounted (d : MountableBlockDevice) (now later : ℕ) (reading : Reading) :
    Except String Bool × MountableBlockDevice :=
  if d.lastMountCheckTime + 10 < now then
    let checked := { d with lastMountCheckTime := later }
    match getMountedDevices reading.realpath reading.mounts with
    | .error what => (.error what, checked)
    | .ok mountedDevices =>
        let result := (mountedDevices d.path).isSome
        (.ok result, { checked with lastMountedResult := result })
  else (.ok d.lastMountedResult, d)

/-- `MountableBlockDevice::Freeze` and `Thaw` up to `OpenMount`. -/
def call (d : MountableBlockDevice) (caller : MountCaller) (call : FreezeCall) (now later : ℕ)
    (reading : Reading) : MountableBlockDevice :=
  match d.isMounted now later reading with
  | (.error what, d) => d.goto (.returning caller call (some what))
  | (.ok true, d) => d.goto (.opening caller call)
  | (.ok false, d) =>
      match call with
      | .freeze => d.goto (.returning caller .freeze none)
      | .thaw => { d with isFrozen := false, pc := .returning caller .thaw none }

/-- The call of the unfreeze thread, which ext2 devices override. -/
def virtualCall (d : MountableBlockDevice) (call : FreezeCall) (now later : ℕ)
    (reading : Reading) : MountableBlockDevice :=
  if d.isExt2 then d.goto (.returning .unfreezeThread call none)
  else d.call .unfreezeThread call now later reading

/-- After the descriptor is closed. -/
def closed (d : MountableBlockDevice) (caller : MountCaller) (call : FreezeCall)
    (ioctlRet : Bool) : MountableBlockDevice :=
  if ioctlRet then d.goto (.returning caller call (some call.what))
  else { d with isFrozen := call == .freeze, pc := .returning caller call none }

/-- What is left of the destructor after `CloseMount`. -/
def thawInDestructor (d : MountableBlockDevice) (now later : ℕ) (reading : Reading) :
    MountableBlockDevice :=
  if d.isFrozen then d.call .destructor .thaw now later reading else d.goto (.destroyed none)

/-- `is_frozen_`, or what the call is about to set it to. -/
def flagAfter (d : MountableBlockDevice) : Bool :=
  match d.pc with
  | .answered _ call _ false => call == .freeze
  | _ => d.isFrozen

/-- `Thaw` finds that the device is not mounted although it is frozen. -/
def skipsThaw (d : MountableBlockDevice) (now later : ℕ) (reading : Reading) : Bool :=
  match (d.isMounted now later reading).1 with
  | .ok false => d.isFrozen
  | _ => false

end MountableBlockDevice

/-- Who has a descriptor open. -/
inductive Holder (ι : Type*) where
  | device (i : ι)
  | other (name : ℕ)
  deriving DecidableEq

/-- The devices, their file systems, and the table of descriptors. `held` is what the other
parts of the process take for theirs. -/
structure Process (ι φ : Type*) where
  devices : ι → MountableBlockDevice
  fileSystem : ι → φ
  frozen : φ → Bool
  descriptors : ℕ → Option (Holder ι)
  held : Finset (ℕ × ℕ)

inductive MountEvent where
  | construct
  | call (call : FreezeCall) (now later : ℕ) (reading : Reading)
  | openMount (reading : Reading) (number : Option ℕ)
  | ioctl (refused : Bool)
  | close
  | finish (failure : Option String)
  | destroy
  | thawInDestructor (now later : ℕ) (reading : Reading)

inductive ProcessEvent (ι : Type*) where
  | device (i : ι) (e : MountEvent)
  | opens (name number : ℕ)
  | closes (name number : ℕ)

namespace Process

variable {ι φ : Type*}

/-- Nothing is frozen and nothing has a descriptor. -/
def new (paths : ι → List Char) (isExt2 : ι → Bool) (fileSystem : ι → φ) : Process ι φ :=
  ⟨fun i => .new (paths i) (isExt2 i), fileSystem, fun _ => false, fun _ => none, ∅⟩

/-- `close`; of a number that is not in the table it changes nothing. -/
def close (s : Process ι φ) (number : Option ℕ) : Process ι φ :=
  match number with
  | some n => { s with descriptors := Function.update s.descriptors n none }
  | none => s

@[simp] theorem close_devices (s : Process ι φ) (number : Option ℕ) :
    (s.close number).devices = s.devices := by
  cases number <;> rfl

/-- The kernel fails `FIFREEZE` on a frozen file system and `FITHAW` on one that is not. It may
refuse for other reasons too. -/
def ioctl [DecidableEq φ] (s : Process ι φ) (call : FreezeCall) (mountFd : ℕ) (refused : Bool) :
    Bool × (φ → Bool) :=
  match s.descriptors mountFd with
  | some (.device j) =>
      if refused || s.frozen (s.fileSystem j) == (call == .freeze) then (true, s.frozen)
      else (false, Function.update s.frozen (s.fileSystem j) (call == .freeze))
  | _ => (true, s.frozen)

variable [DecidableEq ι]

def put (s : Process ι φ) (i : ι) (d : MountableBlockDevice) : Process ι φ :=
  { s with devices := Function.update s.devices i d }

@[simp] theorem put_devices_self (s : Process ι φ) (i : ι) (d : MountableBlockDevice) :
    (s.put i d).devices i = d := Function.update_self _ _ _

theorem put_devices_of_ne (s : Process ι φ) {i j : ι} (d : MountableBlockDevice) (other : j ≠ i) :
    (s.put i d).devices j = s.devices j := Function.update_of_ne other _ _

variable [DecidableEq φ]

def deviceStep (s : Process ι φ) (i : ι) (e : MountEvent) : Option (Process ι φ) :=
  match e, (s.devices i).pc with
  | .construct, .unconstructed =>
      some (s.put i (.constructed (s.devices i).path (s.devices i).isExt2))
  | .call call now later reading, .idle =>
      some (s.put i ((s.devices i).virtualCall call now later reading))
  | .openMount reading number, .opening caller call =>
      match getMountPoint reading.realpath reading.mounts (s.devices i).path, number with
      | .error what, _ => some (s.put i ((s.devices i).goto (.returning caller call (some what))))
      | .ok _, none => some (s.put i
          { s.devices i with
            mountFileDescriptor := none
            pc := .returning caller call (some "Opening mountpoint") })
      | .ok _, some n =>
          if (s.descriptors n).isNone then
            some
              { s.put i
                  { s.devices i with
                    mountFileDescriptor := some n
                    pc := .opened caller call n } with
                descriptors := Function.update s.descriptors n (some (.device i)) }
          else none
  | .ioctl refused, .opened caller call mountFd =>
      some
        { s.put i ((s.devices i).goto
            (.answered caller call mountFd (s.ioctl call mountFd refused).1)) with
          frozen := (s.ioctl call mountFd refused).2 }
  | .close, .answered caller call mountFd ioctlRet =>
      some ((s.put i ((s.devices i).closed caller call ioctlRet)).close (some mountFd))
  | .finish failure, .returning caller _ result =>
      if result = failure then
        some (s.put i ((s.devices i).goto (match caller with
          | .unfreezeThread => .idle
          | .destructor => .destroyed failure)))
      else none
  | .destroy, .idle =>
      some ((s.put i ((s.devices i).goto .destroying)).close (s.devices i).mountFileDescriptor)
  | .thawInDestructor now later reading, .destroying =>
      some (s.put i ((s.devices i).thawInDestructor now later reading))
  | _, _ => none

def step (s : Process ι φ) : ProcessEvent ι → Option (Process ι φ)
  | .device i e => s.deviceStep i e
  | .opens name number =>
      if (s.descriptors number).isNone then
        some
          { s with
            descriptors := Function.update s.descriptors number (some (.other name))
            held := insert (name, number) s.held }
      else none
  | .closes name number =>
      if (name, number) ∈ s.held then
        some { s.close (some number) with held := s.held.erase (name, number) }
      else none

end Process

section Steps

variable {ι φ : Type*} [DecidableEq ι] [DecidableEq φ]

/-- What a step of a device object does. -/
inductive DeviceStep (s : Process ι φ) (i : ι) : MountEvent → Process ι φ → Prop where
  | construct (pc : (s.devices i).pc = .unconstructed) :
      DeviceStep s i .construct
        (s.put i (.constructed (s.devices i).path (s.devices i).isExt2))
  | call (call : FreezeCall) (now later : ℕ) (reading : Reading) (pc : (s.devices i).pc = .idle) :
      DeviceStep s i (.call call now later reading)
        (s.put i ((s.devices i).virtualCall call now later reading))
  | notMounted (caller : MountCaller) (call : FreezeCall) (reading : Reading) (number : Option ℕ)
      (what : String) (pc : (s.devices i).pc = .opening caller call) :
      DeviceStep s i (.openMount reading number)
        (s.put i ((s.devices i).goto (.returning caller call (some what))))
  | notOpened (caller : MountCaller) (call : FreezeCall) (reading : Reading)
      (pc : (s.devices i).pc = .opening caller call) :
      DeviceStep s i (.openMount reading none) (s.put i
        { s.devices i with
          mountFileDescriptor := none
          pc := .returning caller call (some "Opening mountpoint") })
  | opened (caller : MountCaller) (call : FreezeCall) (reading : Reading) (n : ℕ)
      (pc : (s.devices i).pc = .opening caller call) (free : s.descriptors n = none) :
      DeviceStep s i (.openMount reading (some n))
        { s.put i
            { s.devices i with
              mountFileDescriptor := some n
              pc := .opened caller call n } with
          descriptors := Function.update s.descriptors n (some (.device i)) }
  | ioctl (caller : MountCaller) (call : FreezeCall) (mountFd : ℕ) (refused : Bool)
      (pc : (s.devices i).pc = .opened caller call mountFd) :
      DeviceStep s i (.ioctl refused)
        { s.put i ((s.devices i).goto
            (.answered caller call mountFd (s.ioctl call mountFd refused).1)) with
          frozen := (s.ioctl call mountFd refused).2 }
  | close (caller : MountCaller) (call : FreezeCall) (mountFd : ℕ) (ioctlRet : Bool)
      (pc : (s.devices i).pc = .answered caller call mountFd ioctlRet) :
      DeviceStep s i .close
        ((s.put i ((s.devices i).closed caller call ioctlRet)).close (some mountFd))
  | back (call : FreezeCall) (failure : Option String)
      (pc : (s.devices i).pc = .returning .unfreezeThread call failure) :
      DeviceStep s i (.finish failure) (s.put i ((s.devices i).goto .idle))
  | ended (call : FreezeCall) (failure : Option String)
      (pc : (s.devices i).pc = .returning .destructor call failure) :
      DeviceStep s i (.finish failure) (s.put i ((s.devices i).goto (.destroyed failure)))
  | destroy (pc : (s.devices i).pc = .idle) :
      DeviceStep s i .destroy
        ((s.put i ((s.devices i).goto .destroying)).close (s.devices i).mountFileDescriptor)
  | thawInDestructor (now later : ℕ) (reading : Reading) (pc : (s.devices i).pc = .destroying) :
      DeviceStep s i (.thawInDestructor now later reading)
        (s.put i ((s.devices i).thawInDestructor now later reading))

theorem deviceStep_cases {s t : Process ι φ} {i : ι} {e : MountEvent}
    (taken : s.deviceStep i e = some t) : DeviceStep s i e t := by
  unfold Process.deviceStep at taken
  split at taken
  case h_1 pc =>
    obtain rfl := Option.some.inj taken
    exact .construct pc
  case h_2 call now later reading pc =>
    obtain rfl := Option.some.inj taken
    exact .call call now later reading pc
  case h_3 reading number caller call pc =>
    split at taken
    · obtain rfl := Option.some.inj taken
      exact .notMounted caller call reading _ _ pc
    · obtain rfl := Option.some.inj taken
      exact .notOpened caller call reading pc
    · split at taken
      case isTrue free =>
        obtain rfl := Option.some.inj taken
        exact .opened caller call reading _ pc (Option.isNone_iff_eq_none.mp free)
      case isFalse => cases taken
  case h_4 refused caller call mountFd pc =>
    obtain rfl := Option.some.inj taken
    exact .ioctl caller call mountFd refused pc
  case h_5 caller call mountFd ioctlRet pc =>
    obtain rfl := Option.some.inj taken
    exact .close caller call mountFd ioctlRet pc
  case h_6 failure caller call result pc =>
    split at taken
    case isTrue same =>
      subst same
      obtain rfl := Option.some.inj taken
      cases caller with
      | unfreezeThread => exact .back call result pc
      | destructor => exact .ended call result pc
    case isFalse => cases taken
  case h_7 pc =>
    obtain rfl := Option.some.inj taken
    exact .destroy pc
  case h_8 now later reading pc =>
    obtain rfl := Option.some.inj taken
    exact .thawInDestructor now later reading pc
  case h_9 => cases taken

theorem DeviceStep.others {s t : Process ι φ} {i j : ι} {e : MountEvent}
    (taken : DeviceStep s i e t) (other : j ≠ i) : t.devices j = s.devices j := by
  cases taken <;> simp [Process.put_devices_of_ne _ _ other]

/-- The three ways out of the first part of a call. -/
inductive CallBegun (d : MountableBlockDevice) (caller : MountCaller) (call : FreezeCall)
    (answer : Except String Bool) (t : MountableBlockDevice) : Prop where
  | threw (what : String) (found : answer = .error what)
      (pc : t.pc = .returning caller call (some what)) (flag : t.isFrozen = d.isFrozen)
  | mounted (found : answer = .ok true) (pc : t.pc = .opening caller call)
      (flag : t.isFrozen = d.isFrozen)
  | skipped (found : answer = .ok false) (pc : t.pc = .returning caller call none)
      (flag : t.isFrozen = (call == .freeze && d.isFrozen))

theorem isMounted_isFrozen (d : MountableBlockDevice) (now later : ℕ) (reading : Reading) :
    (d.isMounted now later reading).2.isFrozen = d.isFrozen := by
  unfold MountableBlockDevice.isMounted
  split_ifs
  · dsimp only
    split <;> rfl
  · rfl

theorem isMounted_isExt2 (d : MountableBlockDevice) (now later : ℕ) (reading : Reading) :
    (d.isMounted now later reading).2.isExt2 = d.isExt2 := by
  unfold MountableBlockDevice.isMounted
  split_ifs
  · dsimp only
    split <;> rfl
  · rfl

theorem call_isExt2 (d : MountableBlockDevice) (caller : MountCaller) (call : FreezeCall)
    (now later : ℕ) (reading : Reading) :
    (d.call caller call now later reading).isExt2 = d.isExt2 := by
  rw [← isMounted_isExt2 d now later reading]
  unfold MountableBlockDevice.call
  split
  · simp [*, MountableBlockDevice.goto]
  · simp [*, MountableBlockDevice.goto]
  · cases call <;> simp [*, MountableBlockDevice.goto]

/-- What an object is made for never changes. -/
theorem DeviceStep.isExt2 {s t : Process ι φ} {i : ι} {e : MountEvent} (taken : DeviceStep s i e t)
    (j : ι) : (t.devices j).isExt2 = (s.devices j).isExt2 := by
  by_cases same : j = i
  · subst same
    cases taken with
    | call call now later reading pc =>
        rw [Process.put_devices_self]
        unfold MountableBlockDevice.virtualCall
        split_ifs
        · rfl
        · exact call_isExt2 _ _ _ _ _ _
    | thawInDestructor now later reading pc =>
        rw [Process.put_devices_self]
        unfold MountableBlockDevice.thawInDestructor
        split_ifs
        · exact call_isExt2 _ _ _ _ _ _
        · rfl
    | close caller call mountFd ioctlRet pc =>
        rw [Process.close_devices, Process.put_devices_self]
        cases ioctlRet <;> rfl
    | _ => simp [MountableBlockDevice.goto, MountableBlockDevice.constructed]
  · rw [taken.others same]

theorem call_begun (d : MountableBlockDevice) (caller : MountCaller) (call : FreezeCall)
    (now later : ℕ) (reading : Reading) :
    CallBegun d caller call (d.isMounted now later reading).1
      (d.call caller call now later reading) := by
  have same := isMounted_isFrozen d now later reading
  unfold MountableBlockDevice.call
  cases found : d.isMounted now later reading with
  | mk answer checked =>
      rw [found] at same
      cases answer with
      | error what => exact .threw what rfl rfl same
      | ok mounted =>
          cases mounted with
          | true => exact .mounted rfl rfl same
          | false =>
              cases call with
              | freeze => exact .skipped rfl rfl same
              | thaw => exact .skipped rfl rfl rfl

end Steps

section Soundness

variable {ι φ : Type*}

/-- Who takes which number for an open descriptor of their own. -/
def Process.Holds (s : Process ι φ) : Holder ι → ℕ → Prop
  | .device i, n => (s.devices i).pc.mountFd = some n
  | .other name, n => (name, n) ∈ s.held

/-- Everybody's descriptors are theirs, and `is_frozen_` of an object says whether its file
system is frozen. -/
structure Process.Sound (s : Process ι φ) : Prop where
  own : ∀ holder n, s.Holds holder n → s.descriptors n = some holder
  flag : ∀ i, (s.devices i).pc.live = true →
    (s.devices i).flagAfter = s.frozen (s.fileSystem i)

/-- The `FIFREEZE` of the object goes through. -/
def Process.freezes [DecidableEq φ] (s : Process ι φ) (i : ι) (refused : Bool) : Bool :=
  match (s.devices i).pc with
  | .opened _ .freeze mountFd => !(s.ioctl .freeze mountFd refused).1
  | _ => false

/-- No object is made while its file system is frozen, no `FIFREEZE` goes through while the file
system has another object, no destructor runs while the number of the last descriptor of
its object is in use again, and no `Thaw` is skipped. -/
def Careful [DecidableEq φ] (s : Process ι φ) : ProcessEvent ι → Prop
  | .device i .construct => s.frozen (s.fileSystem i) = false
  | .device i (.ioctl refused) => s.freezes i refused = true →
      ∀ j, (s.devices j).pc.live = true → s.fileSystem j = s.fileSystem i → j = i
  | .device i .destroy => (s.devices i).mountFileDescriptor.bind s.descriptors = none
  | .device i (.call .thaw now later reading) =>
      (s.devices i).isExt2 = true ∨ (s.devices i).skipsThaw now later reading = false
  | .device i (.thawInDestructor now later reading) =>
      (s.devices i).skipsThaw now later reading = false
  | _ => True

/-- The destructor thaws what is frozen, and what it caught says whether it did. -/
def MountableBlockDevice.Ending (d : MountableBlockDevice) : Prop :=
  match d.pc with
  | .opening .destructor call | .opened .destructor call _ | .answered .destructor call _ _ =>
      call = .thaw ∧ d.isFrozen = true
  | .returning .destructor _ failure => d.isFrozen = failure.isSome
  | .destroyed logged => d.isFrozen = logged.isSome
  | _ => True

/-- The invariant of a careful run. -/
structure Process.Intact (s : Process ι φ) : Prop where
  table : Exact s.descriptors s.Holds
  flag : ∀ i, (s.devices i).pc.live = true →
    (s.devices i).flagAfter = s.frozen (s.fileSystem i)
  alone : ∀ i j, (s.devices i).pc.live = true → (s.devices j).pc.live = true →
    s.fileSystem i = s.fileSystem j → s.frozen (s.fileSystem i) = true → i = j
  ending : ∀ i, (s.devices i).Ending

theorem Process.Intact.sound {s : Process ι φ} (inv : s.Intact) : s.Sound :=
  ⟨fun holder n => (inv.table holder n).mpr, inv.flag⟩

theorem intact_new (paths : ι → List Char) (isExt2 : ι → Bool) (fileSystem : ι → φ) :
    (Process.new paths isExt2 fileSystem).Intact := by
  refine ⟨fun holder n => ?_, fun _ _ => rfl, fun i j live => ?_, fun _ => trivial⟩
  · cases holder <;>
      simp [Process.new, Process.Holds, MountableBlockDevice.new, MountableBlockDevice.goto,
        MountPc.mountFd]
  · cases live

/-- What the kernel makes of the call of an object that has its own mount point open. -/
private theorem ioctl_own [DecidableEq φ] {s : Process ι φ} {i : ι} {n : ℕ} (call : FreezeCall)
    (refused : Bool) (owner : s.descriptors n = some (.device i)) :
    ((s.ioctl call n refused).1 = true ∧ (s.ioctl call n refused).2 = s.frozen) ∨
    ((s.ioctl call n refused).1 = false ∧ s.frozen (s.fileSystem i) = (call != .freeze) ∧
      (s.ioctl call n refused).2 =
        Function.update s.frozen (s.fileSystem i) (call == .freeze)) := by
  simp only [Process.ioctl, owner]
  split_ifs with fails
  · exact .inl ⟨rfl, rfl⟩
  · refine .inr ⟨rfl, ?_, rfl⟩
    cases call <;> cases frozen : s.frozen (s.fileSystem i) <;> simp_all

private theorem owner_of_opened {s : Process ι φ} {i : ι} {n : ℕ} {caller : MountCaller}
    {call : FreezeCall} (inv : s.Intact) (pc : (s.devices i).pc = .opened caller call n) :
    s.descriptors n = some (.device i) :=
  (inv.table (.device i) n).mpr (by simp [Process.Holds, pc, MountPc.mountFd])

/-- A call that goes through concerns no other object. -/
private theorem sole_of_ioctl [DecidableEq φ] {s : Process ι φ} {i : ι} {n : ℕ} {refused : Bool}
    {caller : MountCaller} {call : FreezeCall} (inv : s.Intact)
    (careful : Careful s (.device i (.ioctl refused)))
    (pc : (s.devices i).pc = .opened caller call n)
    (through : (s.ioctl call n refused).1 = false) (j : ι)
    (live : (s.devices j).pc.live = true) (same : s.fileSystem j = s.fileSystem i) : j = i := by
  cases call with
  | freeze => exact careful (by simp [Process.freezes, pc, through]) j live same
  | thaw =>
      rcases ioctl_own .thaw refused (owner_of_opened inv pc) with
        ⟨failed, _⟩ | ⟨_, frozen, _⟩
      · rw [failed] at through
        cases through
      · exact inv.alone j i live (by rw [pc]; rfl) same (same ▸ frozen)

/-- A device goes on without touching its file system. -/
private structure GoesOn (before after : MountableBlockDevice) : Prop where
  live : after.pc.live = true → before.pc.live = true
  flag : after.flagAfter = before.flagAfter
  ending : after.Ending

variable [DecidableEq ι]

section Update

variable {s : Process ι φ} {i : ι} {d : MountableBlockDevice}

/-- A property of every device after one of them has changed. -/
private theorem forall_put {P : ι → MountableBlockDevice → Prop} (all : ∀ j, P j (s.devices j))
    (changed : P i d) : ∀ j, P j ((s.put i d).devices j) := by
  intro j
  by_cases same : j = i
  · subst same
    simpa using changed
  · simpa [Process.put_devices_of_ne s d same] using all j

/-- The numbers that the parts hold after one device has changed. -/
private theorem holds_put (holder : Holder ι) (n : ℕ) :
    (s.put i d).Holds holder n ↔
      if holder = .device i then d.pc.mountFd = some n else s.Holds holder n := by
  cases holder with
  | other name => simp [Process.Holds, Process.put]
  | device j =>
      by_cases same : j = i
      · subst same
        simp [Process.Holds, Process.put]
      · simp [Process.Holds, Process.put, same]

private theorem holds_put_same (fd : d.pc.mountFd = (s.devices i).pc.mountFd)
    (holder : Holder ι) (n : ℕ) : (s.put i d).Holds holder n ↔ s.Holds holder n := by
  rw [holds_put]
  split_ifs with same
  · rw [same, fd]
    rfl
  · rfl

private theorem flags_put (inv : s.Intact) (on : GoesOn (s.devices i) d) :
    ∀ j, ((s.put i d).devices j).pc.live = true →
      ((s.put i d).devices j).flagAfter = s.frozen (s.fileSystem j) :=
  forall_put (P := fun j d => d.pc.live = true → d.flagAfter = s.frozen (s.fileSystem j)) inv.flag
    fun live => on.flag.trans (inv.flag i (on.live live))

private theorem live_put (live : d.pc.live = true → (s.devices i).pc.live = true) :
    ∀ j, ((s.put i d).devices j).pc.live = true → (s.devices j).pc.live = true :=
  forall_put (P := fun j d => d.pc.live = true → (s.devices j).pc.live = true) (fun _ => id) live

private theorem alone_put (inv : s.Intact) (on : GoesOn (s.devices i) d) :
    ∀ j k, ((s.put i d).devices j).pc.live = true → ((s.put i d).devices k).pc.live = true →
      s.fileSystem j = s.fileSystem k → s.frozen (s.fileSystem j) = true → j = k :=
  fun j k one two => inv.alone j k (live_put on.live j one) (live_put on.live k two)

private theorem endings_put (inv : s.Intact) (ending : d.Ending) :
    ∀ j, ((s.put i d).devices j).Ending :=
  forall_put (P := fun _ d => d.Ending) inv.ending ending

/-- A step that leaves the table and the file systems alone. -/
private theorem intact_put (inv : s.Intact) (fd : d.pc.mountFd = (s.devices i).pc.mountFd)
    (on : GoesOn (s.devices i) d) : (s.put i d).Intact :=
  ⟨inv.table.congr (holds_put_same fd), flags_put inv on, alone_put inv on,
    endings_put inv on.ending⟩

/-- A device takes a number that nobody has. -/
private theorem intact_open {n : ℕ} (inv : s.Intact) (free : s.descriptors n = none)
    (before : (s.devices i).pc.mountFd = none) (after : d.pc.mountFd = some n)
    (on : GoesOn (s.devices i) d) :
    { s.put i d with
      descriptors := Function.update s.descriptors n (some (.device i)) : Process ι φ }.Intact := by
  refine ⟨inv.table.acquire free fun holder m => ?_, flags_put inv on, alone_put inv on,
    endings_put inv on.ending⟩
  refine (holds_put holder m).trans ?_
  split_ifs with same
  · subst same
    have nothing : ¬ s.Holds (.device i) m := by simp [Process.Holds, before]
    simp [nothing, after, eq_comm]
  · simp [same]

/-- A device closes the number it has. -/
private theorem intact_close {n : ℕ} (inv : s.Intact)
    (before : (s.devices i).pc.mountFd = some n) (after : d.pc.mountFd = none)
    (on : GoesOn (s.devices i) d) : ((s.put i d).close (some n)).Intact := by
  have held : s.Holds (.device i) n := before
  refine ⟨inv.table.release held fun holder m => ?_, flags_put inv on, alone_put inv on,
    endings_put inv on.ending⟩
  refine (holds_put holder m).trans ?_
  split_ifs with same
  · subst same
    simp [Process.Holds, before, after, eq_comm]
  · simp [same]

/-- A device closes a number that nobody has. -/
private theorem intact_closeFree {number : Option ℕ} (inv : s.Intact)
    (free : number.bind s.descriptors = none) (fd : d.pc.mountFd = (s.devices i).pc.mountFd)
    (on : GoesOn (s.devices i) d) : ((s.put i d).close number).Intact := by
  have same := intact_put inv fd on
  cases number with
  | none => exact same
  | some n => exact ⟨same.table.release_free free, same.flag, same.alone, same.ending⟩

/-- The constructor makes an object for a file system that is not frozen. -/
private theorem intact_construct (inv : s.Intact) (pc : (s.devices i).pc = .unconstructed)
    (thawed : s.frozen (s.fileSystem i) = false) (path : List Char) (isExt2 : Bool) :
    (s.put i (.constructed path isExt2)).Intact := by
  have fd : (MountableBlockDevice.constructed path isExt2).pc.mountFd =
      (s.devices i).pc.mountFd := by
    rw [pc]
    rfl
  refine ⟨inv.table.congr (holds_put_same fd), ?_, ?_, endings_put inv trivial⟩
  · exact forall_put
      (P := fun j d => d.pc.live = true → d.flagAfter = s.frozen (s.fileSystem j)) inv.flag
      fun _ => thawed.symm
  · intro j k one two same frozen
    have others {l : ι} (live : ((s.put i (.constructed path isExt2)).devices l).pc.live = true)
        (apart : l ≠ i) : (s.devices l).pc.live = true := by
      rwa [Process.put_devices_of_ne s _ apart] at live
    have first : j ≠ i := by
      rintro rfl
      exact Bool.false_ne_true (thawed.symm.trans frozen)
    have second : k ≠ i := by
      rintro rfl
      exact Bool.false_ne_true (thawed.symm.trans ((congrArg s.frozen same).symm.trans frozen))
    exact inv.alone j k (others one first) (others two second) same frozen

/-- The kernel answers an object. -/
private theorem intact_ioctl [DecidableEq φ] {caller : MountCaller} {call : FreezeCall} {n : ℕ}
    {refused : Bool} (inv : s.Intact) (careful : Careful s (.device i (.ioctl refused)))
    (pc : (s.devices i).pc = .opened caller call n) :
    { s.put i ((s.devices i).goto (.answered caller call n (s.ioctl call n refused).1)) with
      frozen := (s.ioctl call n refused).2 : Process ι φ }.Intact := by
  have fd : (s.devices i).pc.mountFd = some n := by rw [pc]; rfl
  have alive : (s.devices i).pc.live = true := by rw [pc]; rfl
  have unsettled : (s.devices i).flagAfter = (s.devices i).isFrozen := by
    simp [MountableBlockDevice.flagAfter, pc]
  have ending : ((s.devices i).goto
      (.answered caller call n (s.ioctl call n refused).1)).Ending := by
    have before := inv.ending i
    unfold MountableBlockDevice.Ending at before ⊢
    rw [pc] at before
    cases caller with
    | unfreezeThread => trivial
    | destructor => exact before
  have kept := live_put (s := s) (i := i)
    (d := (s.devices i).goto (.answered caller call n (s.ioctl call n refused).1)) fun _ => alive
  have table := inv.table.congr (holds_put_same (s := s) (i := i)
    (d := (s.devices i).goto (.answered caller call n (s.ioctl call n refused).1)) (fd.symm ▸ rfl))
  rcases ioctl_own call refused (owner_of_opened inv pc) with
    ⟨failed, same⟩ | ⟨through, before, after⟩
  · -- nothing changes
    rw [failed] at table kept ending ⊢
    rw [same]
    have on : GoesOn (s.devices i) ((s.devices i).goto (.answered caller call n true)) :=
      ⟨fun _ => alive, unsettled.symm, ending⟩
    exact ⟨table, flags_put inv on, alone_put inv on, endings_put inv ending⟩
  · have sole := sole_of_ioctl inv careful pc through
    rw [through] at table kept ending ⊢
    rw [after]
    refine ⟨table, fun j live => ?_, fun j k one two same frozen => ?_, endings_put inv ending⟩
    · by_cases own : s.fileSystem j = s.fileSystem i
      · obtain rfl := sole j (kept j live) own
        simp [Process.put, MountableBlockDevice.flagAfter, MountableBlockDevice.goto]
      · have other : j ≠ i := fun equal => own (congrArg s.fileSystem equal)
        simp only [Process.put, Function.update_of_ne other, Function.update_of_ne own]
        exact inv.flag j (kept j live)
    · have link : s.fileSystem j = s.fileSystem k := same
      by_cases own : s.fileSystem j = s.fileSystem i
      · exact (sole j (kept j one) own).trans (sole k (kept k two) (link.symm.trans own)).symm
      · refine inv.alone j k (kept j one) (kept k two) link ?_
        simpa [Process.put, Function.update_of_ne own] using frozen

end Update

section Calls

variable {d t : MountableBlockDevice} {caller : MountCaller} {call : FreezeCall}

/-- The beginning of a call opens nothing and keeps `is_frozen_` unless it skips `Thaw`. -/
private theorem begun_kept {now later : ℕ} {reading : Reading}
    (begun : CallBegun d caller call (d.isMounted now later reading).1 t)
    (kept : call = .thaw → d.skipsThaw now later reading = false) :
    t.pc.mountFd = none ∧ t.flagAfter = d.isFrozen := by
  cases begun with
  | threw what found pc flag => simp [MountableBlockDevice.flagAfter, pc, flag, MountPc.mountFd]
  | mounted found pc flag => simp [MountableBlockDevice.flagAfter, pc, flag, MountPc.mountFd]
  | skipped found pc flag =>
      refine ⟨by rw [pc]; rfl, ?_⟩
      simp only [MountableBlockDevice.flagAfter, pc, flag]
      cases call with
      | freeze => rfl
      | thaw =>
          have thawed := kept rfl
          rw [MountableBlockDevice.skipsThaw, found] at thawed
          exact thawed.symm

private theorem begun_ending {answer : Except String Bool}
    (begun : CallBegun d caller call answer t)
    (thaws : caller = .destructor → call = .thaw ∧ d.isFrozen = true) : t.Ending := by
  unfold MountableBlockDevice.Ending
  cases caller with
  | unfreezeThread => cases begun <;> simp [*]
  | destructor =>
      obtain ⟨rfl, frozen⟩ := thaws rfl
      cases begun with
      | threw what found pc flag => simp [pc, flag, frozen]
      | mounted found pc flag => simp [pc, flag, frozen]
      | skipped found pc flag => simp [pc, flag]

/-- Closing ends the call: the flag becomes what the answer made of it. -/
private theorem closed_kept {n : ℕ} {ioctlRet : Bool} (pc : d.pc = .answered caller call n ioctlRet)
    (ending : d.Ending) :
    (d.closed caller call ioctlRet).pc.mountFd = none ∧
      (d.closed caller call ioctlRet).flagAfter = d.flagAfter ∧
      (d.closed caller call ioctlRet).Ending := by
  unfold MountableBlockDevice.Ending at ending
  rw [pc] at ending
  cases ioctlRet with
  | true =>
      refine ⟨rfl, by simp [MountableBlockDevice.flagAfter, pc, MountableBlockDevice.closed,
        MountableBlockDevice.goto], ?_⟩
      cases caller with
      | unfreezeThread => trivial
      | destructor => exact ending.2
  | false =>
      refine ⟨rfl, by simp [MountableBlockDevice.flagAfter, pc, MountableBlockDevice.closed], ?_⟩
      cases caller with
      | unfreezeThread => trivial
      | destructor =>
          obtain ⟨rfl, _⟩ := ending
          rfl

end Calls

theorem flagAfter_of_settled {d : MountableBlockDevice}
    (settled : ∀ caller call n, d.pc ≠ .answered caller call n false) :
    d.flagAfter = d.isFrozen := by
  unfold MountableBlockDevice.flagAfter
  split
  case h_1 caller call n pc => exact absurd pc (settled caller call n)
  case h_2 => rfl

/-- An object that is made for a frozen file system says that it is not. -/
private theorem unsound_construct {s : Process ι φ} {i : ι} {path : List Char} {isExt2 : Bool}
    (frozen : s.frozen (s.fileSystem i) = true) :
    ¬ (s.put i (.constructed path isExt2)).Sound := by
  intro sound
  have flag := sound.flag i (by rw [Process.put_devices_self]; rfl)
  rw [Process.put_devices_self] at flag
  exact Bool.false_ne_true (flag.trans frozen)

/-- The destructor takes away a descriptor that somebody has got in the meantime. -/
private theorem unsound_destroy {s : Process ι φ} {i : ι} (inv : s.Intact)
    (pc : (s.devices i).pc = .idle)
    (again : (s.devices i).mountFileDescriptor.bind s.descriptors ≠ none) :
    ¬ ((s.put i ((s.devices i).goto .destroying)).close
      (s.devices i).mountFileDescriptor).Sound := by
  intro sound
  have fd : ((s.devices i).goto .destroying).pc.mountFd = (s.devices i).pc.mountFd := by
    rw [pc]
    rfl
  cases number : (s.devices i).mountFileDescriptor with
  | none =>
      rw [number] at again
      exact again rfl
  | some n =>
      rw [number] at again sound
      obtain ⟨holder, held, gone⟩ := inv.table.lost again
      exact gone (sound.own holder n ((holds_put_same fd holder n).mpr held))

/-- A `Thaw` that is skipped clears the flag of a file system that stays frozen. -/
private theorem unsound_skip {s : Process ι φ} {i : ι} {d : MountableBlockDevice}
    {caller : MountCaller} {now later : ℕ} {reading : Reading} (inv : s.Intact)
    (live : (s.devices i).pc.live = true)
    (settled : (s.devices i).flagAfter = (s.devices i).isFrozen)
    (begun : CallBegun (s.devices i) caller .thaw ((s.devices i).isMounted now later reading).1 d)
    (skips : (s.devices i).skipsThaw now later reading = true) : ¬ (s.put i d).Sound := by
  intro sound
  have before := inv.flag i live
  rw [settled] at before
  unfold MountableBlockDevice.skipsThaw at skips
  cases begun with
  | threw what found pc flag => simp [found] at skips
  | mounted found pc flag => simp [found] at skips
  | skipped found pc flag =>
      rw [found] at skips
      have after := sound.flag i (by rw [Process.put_devices_self, pc]; rfl)
      simp [Process.put, MountableBlockDevice.flagAfter, pc, flag, ← before] at after
      simp [skips] at after

variable [DecidableEq φ]

private theorem intact_deviceStep {s t : Process ι φ} {i : ι} {e : MountEvent} (inv : s.Intact)
    (careful : Careful s (.device i e)) (taken : DeviceStep s i e t) : t.Intact := by
  have ending := inv.ending i
  unfold MountableBlockDevice.Ending at ending
  have settledAt (settled : ∀ caller call n, (s.devices i).pc ≠ .answered caller call n false) :=
    flagAfter_of_settled settled
  cases taken with
  | construct pc => exact intact_construct inv pc careful _ _
  | call call now later reading pc =>
      have settled := settledAt (by simp [pc])
      have closed : (s.devices i).pc.mountFd = none := by rw [pc]; rfl
      have live : (s.devices i).pc.live = true := by rw [pc]; rfl
      unfold MountableBlockDevice.virtualCall
      split_ifs with ext2
      · exact intact_put inv closed.symm ⟨fun _ => live, settled.symm, trivial⟩
      · have begun := call_begun (s.devices i) .unfreezeThread call now later reading
        have kept := begun_kept begun (by
          rintro rfl
          exact careful.resolve_left ext2)
        exact intact_put inv (kept.1.trans closed.symm)
          ⟨fun _ => live, kept.2.trans settled.symm, begun_ending begun nofun⟩
  | notMounted caller call reading number what pc | notOpened caller call reading pc =>
      rw [pc] at ending
      refine intact_put inv (by rw [pc]; rfl)
        ⟨fun _ => by rw [pc]; rfl, (settledAt (by simp [pc])).symm, ?_⟩
      cases caller with
      | unfreezeThread => trivial
      | destructor => exact ending.2
  | opened caller call reading n pc free =>
      rw [pc] at ending
      refine intact_open inv free (by rw [pc]; rfl) rfl
        ⟨fun _ => by rw [pc]; rfl, (settledAt (by simp [pc])).symm, ?_⟩
      cases caller with
      | unfreezeThread => trivial
      | destructor => exact ending
  | ioctl caller call mountFd refused pc => exact intact_ioctl inv careful pc
  | close caller call mountFd ioctlRet pc =>
      obtain ⟨after, same, ends⟩ := closed_kept pc (inv.ending i)
      exact intact_close inv (by rw [pc]; rfl) after ⟨fun _ => by rw [pc]; rfl, same, ends⟩
  | back call failure pc =>
      exact intact_put inv (by rw [pc]; rfl)
        ⟨fun _ => by rw [pc]; rfl, (settledAt (by simp [pc])).symm, trivial⟩
  | ended call failure pc =>
      rw [pc] at ending
      exact intact_put inv (by rw [pc]; rfl)
        ⟨fun _ => by rw [pc]; rfl, (settledAt (by simp [pc])).symm, ending⟩
  | destroy pc =>
      refine intact_closeFree inv careful ?_ ⟨fun _ => by rw [pc]; rfl, ?_, trivial⟩
      · rw [pc]
        rfl
      · rw [settledAt (by simp [pc])]
        rfl
  | thawInDestructor now later reading pc =>
      have settled := settledAt (by simp [pc])
      have closed : (s.devices i).pc.mountFd = none := by rw [pc]; rfl
      have live : (s.devices i).pc.live = true := by rw [pc]; rfl
      unfold MountableBlockDevice.thawInDestructor
      split_ifs with frozen
      · have begun := call_begun (s.devices i) .destructor .thaw now later reading
        have kept := begun_kept begun fun _ => careful
        exact intact_put inv (kept.1.trans closed.symm)
          ⟨fun _ => live, kept.2.trans settled.symm, begun_ending begun fun _ => ⟨rfl, frozen⟩⟩
      · refine intact_put inv closed.symm ⟨fun _ => live, settled.symm, ?_⟩
        simpa [MountableBlockDevice.Ending, MountableBlockDevice.goto] using frozen

theorem intact_step {s t : Process ι φ} {e : ProcessEvent ι} (inv : s.Intact)
    (careful : Careful s e) (taken : s.step e = some t) : t.Intact := by
  cases e with
  | device i e => exact intact_deviceStep inv careful (deviceStep_cases taken)
  | opens name number =>
      simp only [Process.step] at taken
      split_ifs at taken with free
      obtain rfl := Option.some.inj taken
      refine ⟨inv.table.acquire (Option.isNone_iff_eq_none.mp free) fun holder n => ?_, inv.flag,
        inv.alone, inv.ending⟩
      cases holder <;> simp [Process.Holds, or_comm]
  | closes name number =>
      simp only [Process.step] at taken
      split_ifs at taken with held
      obtain rfl := Option.some.inj taken
      have own : s.Holds (.other name) number := held
      refine ⟨inv.table.release own fun holder n => ?_, inv.flag, inv.alone, inv.ending⟩
      cases holder <;> simp [Process.Holds, Process.close, and_comm]

/-- Another object of a file system does not notice that it is frozen. -/
private theorem unsound_freeze {s : Process ι φ} {i j : ι} {d : MountableBlockDevice}
    {caller : MountCaller} {n : ℕ} {refused : Bool} (inv : s.Intact)
    (pc : (s.devices i).pc = .opened caller .freeze n)
    (through : (s.ioctl .freeze n refused).1 = false) (other : j ≠ i)
    (live : (s.devices j).pc.live = true) (same : s.fileSystem j = s.fileSystem i) :
    ¬ { s.put i d with frozen := (s.ioctl .freeze n refused).2 : Process ι φ }.Sound := by
  intro sound
  rcases ioctl_own .freeze refused (owner_of_opened inv pc) with
    ⟨failed, _⟩ | ⟨_, thawed, after⟩
  · rw [failed] at through
    cases through
  · have apart := Process.put_devices_of_ne s d other
    have flag := sound.flag j (by rw [← apart] at live; exact live)
    rw [after] at flag
    have now : (s.devices j).flagAfter = true := by
      simpa [Process.put, Function.update_of_ne other, same] using flag
    have before : (s.devices j).flagAfter = false := by
      rw [inv.flag j live, same, thawed]
      rfl
    exact Bool.false_ne_true (before.symm.trans now)

private theorem unsound_of_careless {s t : Process ι φ} {e : ProcessEvent ι} (inv : s.Intact)
    (careless : ¬ Careful s e) (taken : s.step e = some t) : ¬ t.Sound := by
  unfold Careful at careless
  split at careless
  case h_1 i =>
    cases deviceStep_cases taken with
    | construct pc => exact unsound_construct (Bool.not_eq_false _ ▸ careless)
  case h_2 i refused =>
    push Not at careless
    obtain ⟨freezes, j, live, same, other⟩ := careless
    cases deviceStep_cases taken with
    | ioctl caller call n _ pc =>
        cases call with
        | freeze =>
            have through : (s.ioctl .freeze n refused).1 = false := by
              simpa [Process.freezes, pc] using freezes
            exact unsound_freeze inv pc through other live same
        | thaw => simp [Process.freezes, pc] at freezes
  case h_3 i =>
    cases deviceStep_cases taken with
    | destroy pc => exact unsound_destroy inv pc careless
  case h_4 i now later reading =>
    cases deviceStep_cases taken with
    | call _ _ _ _ pc =>
        obtain ⟨notExt2, skips⟩ : (s.devices i).isExt2 = false ∧
            (s.devices i).skipsThaw now later reading = true := by simpa using careless
        simp only [MountableBlockDevice.virtualCall, notExt2, Bool.false_eq_true, if_false]
        exact unsound_skip inv (by rw [pc]; rfl) (flagAfter_of_settled (by simp [pc]))
          (call_begun _ _ .thaw now later reading) skips
  case h_5 i now later reading =>
    cases deviceStep_cases taken with
    | thawInDestructor _ _ _ pc =>
        have skips : (s.devices i).skipsThaw now later reading = true := by simpa using careless
        have frozen : (s.devices i).isFrozen = true := by
          unfold MountableBlockDevice.skipsThaw at skips
          split at skips
          · exact skips
          · cases skips
        simp only [MountableBlockDevice.thawInDestructor, frozen, if_true]
        exact unsound_skip inv (by rw [pc]; rfl) (flagAfter_of_settled (by simp [pc]))
          (call_begun _ _ .thaw now later reading) skips
  case h_6 => exact absurd trivial careless

instance [Fintype ι] (s : Process ι φ) : (e : ProcessEvent ι) → Decidable (Careful s e)
  | .device i .construct => inferInstanceAs (Decidable (s.frozen (s.fileSystem i) = false))
  | .device i (.ioctl refused) => inferInstanceAs (Decidable (s.freezes i refused = true →
      ∀ j, (s.devices j).pc.live = true → s.fileSystem j = s.fileSystem i → j = i))
  | .device i .destroy =>
      inferInstanceAs (Decidable ((s.devices i).mountFileDescriptor.bind s.descriptors = none))
  | .device i (.call .thaw now later reading) => inferInstanceAs (Decidable
      ((s.devices i).isExt2 = true ∨ (s.devices i).skipsThaw now later reading = false))
  | .device i (.thawInDestructor now later reading) =>
      inferInstanceAs (Decidable ((s.devices i).skipsThaw now later reading = false))
  | .device _ (.call .freeze _ _ _) | .device _ (.openMount _ _) | .device _ .close
  | .device _ (.finish _) | .opens _ _ | .closes _ _ => .isTrue trivial

/-- The mount table lists the device. -/
def mountedReading : Reading := ⟨oneDevice, mountTable [plainEntry]⟩

/-- A freeze and a thaw with descriptor 3. -/
def freezeAndThaw : List MountEvent :=
  [.call .freeze 100 100 mountedReading, .openMount mountedReading (some 3), .ioctl false,
    .close, .finish none, .call .thaw 102 102 mountedReading, .openMount mountedReading (some 3),
    .ioctl false, .close, .finish none]

/-- A second object of the file system is refused, and does not know that it is frozen. -/
example : (run Process.step (.new (fun _ => deviceSda) (fun _ => false) fun _ => ())
    ([.device false .construct, .device true .construct] ++
      (freezeAndThaw.take 5).map (.device false) ++ (freezeAndThaw.take 3).map (.device true))).any
    (fun s : Process Bool Unit =>
      (s.devices true).pc == .answered .unfreezeThread .freeze 3 true &&
        !(s.devices true).isFrozen && s.frozen ()) = true := by
  decide +kernel

/-- The first object freezes and thaws its file system, a socket gets the number, and the object
is destroyed. -/
def staleNumber : List (ProcessEvent Bool) :=
  [.device false .construct, .device true .construct] ++ freezeAndThaw.map (.device false) ++
    [.opens 7 3, .device false .destroy]

def deviceOf (i : Bool) : List Char := if i then "/dev/sdb1".toList else deviceSda

end Soundness

end LinuxAgent.BlockDevice
