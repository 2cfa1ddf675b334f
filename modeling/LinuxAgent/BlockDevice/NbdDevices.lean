/- module: LinuxAgent/BlockDevice/NbdDevices
   source: block_device/nbd_client.{h,cc}, block_device/nbd_block_device.cc
   digest: Clients that choose among the NBD devices of the machine, and whose socket is used. -/

import LinuxAgent.Lib.Ownership
import LinuxAgent.Lib.Run
import Mathlib.Data.Fintype.Basic

/-!
A client takes a device for free if /sys/block/nbdN/pid does not exist. The file is there
while some thread is inside the ioctl `NBD_DO_IT`, and the client's own thread enters that
ioctl only some time after its constructor has returned. Nothing else marks a device as
taken.

The driver keeps for each device a socket, a size and the thread in `NBD_DO_IT`.
`NBD_SET_SOCK` fails if there is a socket, `NBD_DO_IT` fails if there is none or if another
thread is in it, and when `NBD_DO_IT` returns the socket is dropped and the size is zero.
-/

set_option autoImplicit false
set_option relaxedAutoImplicit false

namespace LinuxAgent.BlockDevice.Nbd

open LinuxAgent.Lib.Ownership LinuxAgent.Lib.Run

/-- Where a client stands: in the constructor up to `configured`, then in `Disconnect`. -/
inductive Stage where
  | connecting
  | found
  | opened
  | sized
  | cleared
  | timed
  | configured
  | connected
  | disconnecting
  | queCleared
  | sockCleared
  | disconnected
  | destroyed
  | threw (what : String)
  deriving DecidableEq

namespace Stage

/-- The client has a device and is not done with it. -/
def live : Stage → Bool
  | .connecting | .disconnected | .destroyed | .threw _ => false
  | _ => true

/-- The client has given its socket to the device and has not taken it back. -/
def socketSet : Stage → Bool
  | .configured | .connected | .disconnecting | .queCleared => true
  | _ => false

/-- The client has set the size of the device. -/
def sizeSet : Stage → Bool
  | .connecting | .found | .opened => false
  | stage => stage.live

/-- What the constructor can throw at each place. -/
def failsWith (what : String) : Stage → Bool
  | .connecting => true
  | .found => what == "Unable to open NBD device"
  | .opened => what == "Unable to set block size for NBD device"
  | .cleared => what == "Unable to set timeout for NBD device"
  | .timed => what == "Unable to set socket for NBD device"
  | _ => false

end Stage

inductive DoItPc where
  | created
  | inDoIt
  | returned
  deriving DecidableEq

/-- An `NbdClient`: `nbdDevice` is the number in `nbd_device_path_`. -/
structure NbdClient where
  blockDeviceSize : ℕ
  stage : Stage
  nbdDevice : ℕ
  nbdDoItThread : Option DoItPc
  deriving DecidableEq

namespace NbdClient

def new (blockDeviceSize : ℕ) : NbdClient := ⟨blockDeviceSize, .connecting, 0, none⟩

def goto (c : NbdClient) (stage : Stage) : NbdClient := { c with stage := stage }

def toThread (c : NbdClient) (pc : DoItPc) : NbdClient := { c with nbdDoItThread := some pc }

/-- The device that the client takes for its own. -/
def has (c : NbdClient) : Option ℕ := if c.stage.live then some c.nbdDevice else none

/-- The device whose thread in `NBD_DO_IT` is the client's. -/
def runs (c : NbdClient) : Option ℕ :=
  if c.nbdDoItThread = some .inDoIt then some c.nbdDevice else none

/-- The device that the client gave its socket, until `NBD_DO_IT` has returned. -/
def serves (c : NbdClient) : Option ℕ :=
  if c.stage.socketSet && c.nbdDoItThread != some .returned then some c.nbdDevice else none

end NbdClient

/-- The clients and the three things that the driver keeps for each device. -/
structure NbdState (ι : Type*) where
  clients : ι → NbdClient
  sock : ℕ → Option ι
  doIt : ℕ → Option ι
  sizeBlocks : ℕ → ℕ

/-- The steps of a client; the driver's refusals are `fails`. -/
inductive NbdAction where
  | findOpenNbdDevice (n : ℕ)
  | openDevice
  | setSizes
  | clearSock
  | setTimeout
  | setSock
  | startThread
  | fails (what : String)
  | doIt
  | doItReturns
  | disconnect
  | clearQue
  | join
  | destroy
  deriving DecidableEq

namespace NbdState

variable {ι : Type*} [DecidableEq ι]

def new (blockDeviceSize : ι → ℕ) : NbdState ι :=
  ⟨fun i => .new (blockDeviceSize i), fun _ => none, fun _ => none, fun _ => 0⟩

def put (s : NbdState ι) (i : ι) (c : NbdClient) : NbdState ι :=
  { s with clients := Function.update s.clients i c }

/-- `IsConnected`: the file pid of the client's device exists. -/
def isConnected (s : NbdState ι) (i : ι) : Bool := (s.doIt (s.clients i).nbdDevice).isSome

def step (s : NbdState ι) : ι × NbdAction → Option (NbdState ι)
  | (i, action) =>
    let c := s.clients i
    let n := c.nbdDevice
    match action, c.stage with
    | .findOpenNbdDevice m, .connecting =>
        if (s.doIt m).isNone then some (s.put i { c with stage := .found, nbdDevice := m })
        else none
    | .openDevice, .found => some (s.put i (c.goto .opened))
    | .setSizes, .opened =>
        some
          { s.put i (c.goto .sized) with
            sizeBlocks := Function.update s.sizeBlocks n (c.blockDeviceSize / 4096) }
    | .clearSock, .sized =>
        some { s.put i (c.goto .cleared) with sock := Function.update s.sock n none }
    | .setTimeout, .cleared => some (s.put i (c.goto .timed))
    | .setSock, .timed =>
        if (s.sock n).isNone then
          some { s.put i (c.goto .configured) with sock := Function.update s.sock n (some i) }
        else none
    | .startThread, .configured =>
        some (s.put i { c with stage := .connected, nbdDoItThread := some .created })
    | .fails what, stage =>
        if stage.failsWith what then some (s.put i (c.goto (.threw what))) else none
    | .doIt, _ =>
        if c.nbdDoItThread = some .created then
          if (s.doIt n).isNone && (s.sock n).isSome then
            some
              { s.put i (c.toThread .inDoIt) with doIt := Function.update s.doIt n (some i) }
          else some (s.put i (c.toThread .returned))
        else none
    | .doItReturns, _ =>
        if c.nbdDoItThread = some .inDoIt then
          some
            { s.put i (c.toThread .returned) with
              sock := Function.update s.sock n none
              doIt := Function.update s.doIt n none
              sizeBlocks := Function.update s.sizeBlocks n 0 }
        else none
    | .disconnect, .connected => some (s.put i (c.goto .disconnecting))
    | .clearQue, .disconnecting => some (s.put i (c.goto .queCleared))
    | .clearSock, .queCleared =>
        some { s.put i (c.goto .sockCleared) with sock := Function.update s.sock n none }
    | .join, .sockCleared =>
        if c.nbdDoItThread = some .returned then some (s.put i (c.goto .disconnected)) else none
    | .destroy, .disconnected => some (s.put i (c.goto .destroyed))
    | _, _ => none

end NbdState

section Steps

variable {ι : Type*} [DecidableEq ι]

/-- What a step does. The first group only moves the client on. -/
inductive NbdStep (s : NbdState ι) (i : ι) : NbdAction → NbdState ι → Prop where
  | openDevice (pc : (s.clients i).stage = .found) :
      NbdStep s i .openDevice (s.put i ((s.clients i).goto .opened))
  | setTimeout (pc : (s.clients i).stage = .cleared) :
      NbdStep s i .setTimeout (s.put i ((s.clients i).goto .timed))
  | startThread (pc : (s.clients i).stage = .configured) :
      NbdStep s i .startThread
        (s.put i { s.clients i with stage := .connected, nbdDoItThread := some .created })
  | disconnect (pc : (s.clients i).stage = .connected) :
      NbdStep s i .disconnect (s.put i ((s.clients i).goto .disconnecting))
  | clearQue (pc : (s.clients i).stage = .disconnecting) :
      NbdStep s i .clearQue (s.put i ((s.clients i).goto .queCleared))
  | join (pc : (s.clients i).stage = .sockCleared)
      (thread : (s.clients i).nbdDoItThread = some .returned) :
      NbdStep s i .join (s.put i ((s.clients i).goto .disconnected))
  | destroy (pc : (s.clients i).stage = .disconnected) :
      NbdStep s i .destroy (s.put i ((s.clients i).goto .destroyed))
  | fails (what : String) (here : (s.clients i).stage.failsWith what = true) :
      NbdStep s i (.fails what) (s.put i ((s.clients i).goto (.threw what)))
  | find (n : ℕ) (pc : (s.clients i).stage = .connecting) (free : s.doIt n = none) :
      NbdStep s i (.findOpenNbdDevice n)
        (s.put i { s.clients i with stage := .found, nbdDevice := n })
  | setSizes (pc : (s.clients i).stage = .opened) :
      NbdStep s i .setSizes
        { s.put i ((s.clients i).goto .sized) with
          sizeBlocks := Function.update s.sizeBlocks (s.clients i).nbdDevice
            ((s.clients i).blockDeviceSize / 4096) }
  | clearSock (pc : (s.clients i).stage = .sized) :
      NbdStep s i .clearSock
        { s.put i ((s.clients i).goto .cleared) with
          sock := Function.update s.sock (s.clients i).nbdDevice none }
  | setSock (pc : (s.clients i).stage = .timed) (free : s.sock (s.clients i).nbdDevice = none) :
      NbdStep s i .setSock
        { s.put i ((s.clients i).goto .configured) with
          sock := Function.update s.sock (s.clients i).nbdDevice (some i) }
  | doIt (thread : (s.clients i).nbdDoItThread = some .created)
      (free : s.doIt (s.clients i).nbdDevice = none) (set : s.sock (s.clients i).nbdDevice ≠ none) :
      NbdStep s i .doIt
        { s.put i ((s.clients i).toThread .inDoIt) with
          doIt := Function.update s.doIt (s.clients i).nbdDevice (some i) }
  | doItFails (thread : (s.clients i).nbdDoItThread = some .created)
      (refused : s.doIt (s.clients i).nbdDevice ≠ none ∨ s.sock (s.clients i).nbdDevice = none) :
      NbdStep s i .doIt (s.put i ((s.clients i).toThread .returned))
  | doItReturns (thread : (s.clients i).nbdDoItThread = some .inDoIt) :
      NbdStep s i .doItReturns
        { s.put i ((s.clients i).toThread .returned) with
          sock := Function.update s.sock (s.clients i).nbdDevice none
          doIt := Function.update s.doIt (s.clients i).nbdDevice none
          sizeBlocks := Function.update s.sizeBlocks (s.clients i).nbdDevice 0 }
  | takeBack (pc : (s.clients i).stage = .queCleared) :
      NbdStep s i .clearSock
        { s.put i ((s.clients i).goto .sockCleared) with
          sock := Function.update s.sock (s.clients i).nbdDevice none }

theorem nbdStep_cases {s t : NbdState ι} {i : ι} {action : NbdAction}
    (taken : s.step (i, action) = some t) : NbdStep s i action t := by
  simp only [NbdState.step] at taken
  split at taken
  case h_1 m pc =>
    split_ifs at taken with free
    obtain rfl := Option.some.inj taken
    exact .find m pc (Option.isNone_iff_eq_none.mp free)
  case h_6 pc =>
    split_ifs at taken with free
    obtain rfl := Option.some.inj taken
    exact .setSock pc (Option.isNone_iff_eq_none.mp free)
  case h_8 =>
    split_ifs at taken with here
    obtain rfl := Option.some.inj taken
    exact .fails _ here
  case h_9 =>
    split_ifs at taken with thread both
    · obtain rfl := Option.some.inj taken
      rw [Bool.and_eq_true, Option.isNone_iff_eq_none, ← Option.ne_none_iff_isSome] at both
      exact .doIt thread both.1 both.2
    · obtain rfl := Option.some.inj taken
      rw [Bool.and_eq_true, Option.isNone_iff_eq_none, ← Option.ne_none_iff_isSome,
        not_and_or, not_not] at both
      exact .doItFails thread both
  case h_10 =>
    split_ifs at taken with thread
    obtain rfl := Option.some.inj taken
    exact .doItReturns thread
  case h_14 pc =>
    split_ifs at taken with thread
    obtain rfl := Option.some.inj taken
    exact .join pc thread
  case h_16 => cases taken
  all_goals
    obtain rfl := Option.some.inj taken
    constructor
    assumption

end Steps

/-- The thread object exists from the end of the constructor on, and has ended when `Disconnect`
returns. -/
def Stage.Placed (thread : Option DoItPc) : Stage → Prop
  | .connected | .disconnecting | .queCleared | .sockCleared => thread ≠ none
  | .disconnected | .destroyed => thread = some .returned
  | _ => thread = none

def NbdClient.Placed (c : NbdClient) : Prop := c.stage.Placed c.nbdDoItThread

/-- The device has the size that the client gave it, until `NBD_DO_IT` has returned. -/
def NbdClient.Sized (c : NbdClient) (sizeBlocks : ℕ → ℕ) : Prop :=
  c.stage.sizeSet = true → c.nbdDoItThread ≠ some .returned →
    sizeBlocks c.nbdDevice = c.blockDeviceSize / 4096

section Clients

variable {c : NbdClient} {n : ℕ}

theorem has_eq_some : c.has = some n ↔ c.stage.live = true ∧ c.nbdDevice = n := by
  unfold NbdClient.has
  split_ifs with live <;> simp [live]

theorem runs_eq_some : c.runs = some n ↔ c.nbdDoItThread = some .inDoIt ∧ c.nbdDevice = n := by
  unfold NbdClient.runs
  split_ifs with inside <;> simp [inside]

theorem serves_eq_some : c.serves = some n ↔
    (c.stage.socketSet = true ∧ c.nbdDoItThread ≠ some .returned) ∧ c.nbdDevice = n := by
  unfold NbdClient.serves
  split_ifs with set <;> simp_all

/-- Only a client that has the device gives it a socket. -/
theorem has_of_serves (serves : c.serves = some n) : c.has = some n := by
  obtain ⟨⟨set, _⟩, rfl⟩ := serves_eq_some.mp serves
  refine has_eq_some.mpr ⟨?_, rfl⟩
  unfold Stage.socketSet at set
  split at set <;> simp_all [Stage.live]

/-- Only a client that has the device runs `NBD_DO_IT` on it. -/
theorem has_of_runs (placed : c.Placed) (runs : c.runs = some n) : c.has = some n := by
  obtain ⟨inside, rfl⟩ := runs_eq_some.mp runs
  refine has_eq_some.mpr ⟨?_, rfl⟩
  unfold NbdClient.Placed Stage.Placed at placed
  split at placed <;> simp_all [Stage.live]

/-- The constructor throws only before it has set the socket. -/
theorem unset_of_failsWith {stage : Stage} {what : String} (here : stage.failsWith what = true)
    {thread : Option DoItPc} (placed : stage.Placed thread) :
    stage.socketSet = false ∧ thread = none := by
  cases stage <;> simp_all [Stage.failsWith, Stage.socketSet, Stage.Placed]

end Clients

section Separation

variable {ι : Type*}

/-- The clients keep apart: no two have one device, `IsConnected` of a client that has a device
says whether its own thread is in `NBD_DO_IT`, and then a connected client's device has its
socket and size. After `Disconnect`, `IsConnected` speaks of whoever has the device now. -/
structure NbdState.Separate (s : NbdState ι) : Prop where
  alone : ∀ i j n, (s.clients i).has = some n → (s.clients j).has = some n → i = j
  truthful : ∀ i n, (s.clients i).has = some n →
    (s.isConnected i = true ↔ (s.clients i).nbdDoItThread = some .inDoIt)
  stale : ∀ i, (s.clients i).stage = .disconnected →
    (s.isConnected i = true ↔ ∃ j, j ≠ i ∧
      (s.clients j).has = some (s.clients i).nbdDevice ∧
      (s.clients j).nbdDoItThread = some .inDoIt)
  served : ∀ i, (s.clients i).stage = .connected →
    (s.clients i).nbdDoItThread = some .inDoIt →
    s.sock (s.clients i).nbdDevice = some i ∧
      s.sizeBlocks (s.clients i).nbdDevice = (s.clients i).blockDeviceSize / 4096

/-- Whoever looks for a device finds every other client that has it inside `NBD_DO_IT`. -/
def Settled (s : NbdState ι) : ι × NbdAction → Prop
  | (i, .findOpenNbdDevice n) =>
      ∀ j, j ≠ i → (s.clients j).has = some n → (s.clients j).nbdDoItThread = some .inDoIt
  | _ => True

structure NbdState.Apart (s : NbdState ι) : Prop where
  alone : ∀ i j n, (s.clients i).has = some n → (s.clients j).has = some n → i = j
  sock : Exact s.sock (Held NbdClient.serves s.clients)
  doIt : Exact s.doIt (Held NbdClient.runs s.clients)
  sized : ∀ i, (s.clients i).Sized s.sizeBlocks
  placed : ∀ i, (s.clients i).Placed

/-- The file pid is there while the thread of the client that has the device is in
`NBD_DO_IT`. -/
theorem NbdState.Apart.isConnected_iff {s : NbdState ι} (inv : s.Apart) (i : ι) :
    s.isConnected i = true ↔ ∃ j, (s.clients j).has = some (s.clients i).nbdDevice ∧
      (s.clients j).nbdDoItThread = some .inDoIt := by
  constructor
  · intro connected
    obtain ⟨j, running⟩ := Option.isSome_iff_exists.mp connected
    have runs : (s.clients j).runs = some (s.clients i).nbdDevice := (inv.doIt j _).mp running
    exact ⟨j, has_of_runs (inv.placed j) runs, (runs_eq_some.mp runs).1⟩
  · rintro ⟨j, own, inside⟩
    have runs := runs_eq_some.mpr ⟨inside, (has_eq_some.mp own).2⟩
    exact Option.isSome_iff_exists.mpr ⟨j, (inv.doIt j _).mpr runs⟩

theorem NbdState.Apart.separate {s : NbdState ι} (inv : s.Apart) : s.Separate := by
  refine ⟨inv.alone, fun i n own => ?_, fun i pc => ?_, fun i pc thread => ⟨?_, ?_⟩⟩
  · obtain ⟨live, rfl⟩ := has_eq_some.mp own
    rw [inv.isConnected_iff]
    constructor
    · rintro ⟨j, also, inside⟩
      obtain rfl := inv.alone i j _ own also
      exact inside
    · exact fun inside => ⟨i, own, inside⟩
  · rw [inv.isConnected_iff]
    refine exists_congr fun j => ⟨fun ⟨own, inside⟩ => ⟨?_, own, inside⟩, And.right⟩
    -- a client that has disconnected has no device
    rintro rfl
    simp [has_eq_some, pc, Stage.live] at own
  · exact (inv.sock i _).mpr (serves_eq_some.mpr ⟨by simp [pc, thread, Stage.socketSet], rfl⟩)
  · exact inv.sized i (by simp [pc, Stage.sizeSet, Stage.live]) (by simp [thread])

theorem apart_new (blockDeviceSize : ι → ℕ) : (NbdState.new blockDeviceSize).Apart := by
  constructor <;> simp [NbdState.new, NbdClient.new, Exact, Held, NbdClient.has, NbdClient.runs,
    NbdClient.serves, NbdClient.Sized, NbdClient.Placed, Stage.Placed, Stage.live,
    Stage.socketSet, Stage.sizeSet]

section Update

variable {s : NbdState ι} {i : ι} {c : NbdClient} {n : ℕ}

/-- Nobody else has the device of a client. -/
private theorem others_apart (inv : s.Apart) (own : (s.clients i).has = some n) (j : ι)
    (other : j ≠ i) : (s.clients j).has ≠ some n := fun also => other (inv.alone j i n also own)

/-- Setting the size of a client's device concerns no other client. -/
private theorem sized_others {value : ℕ} (inv : s.Apart) (own : (s.clients i).has = some n)
    (j : ι) (other : j ≠ i) :
    (s.clients j).Sized (Function.update s.sizeBlocks n value) := by
  intro set unfinished
  have live : (s.clients j).stage.live = true := by
    unfold Stage.sizeSet at set
    split at set <;> first | cases set | exact set
  have apart : (s.clients j).nbdDevice ≠ n := fun same =>
    others_apart inv own j other (has_eq_some.mpr ⟨live, same⟩)
  rw [Function.update_of_ne apart]
  exact inv.sized j set unfinished

/-- Once the client has given its socket to the device, its thread is let in. -/
private theorem not_refused (inv : s.Apart)
    (thread : (s.clients i).nbdDoItThread = some .created)
    (refused : s.doIt (s.clients i).nbdDevice ≠ none ∨ s.sock (s.clients i).nbdDevice = none) :
    (s.clients i).serves = none := by
  cases before : (s.clients i).serves with
  | none => rfl
  | some n =>
      obtain ⟨_, rfl⟩ := serves_eq_some.mp before
      rcases refused with busy | unset
      · obtain ⟨j, running⟩ := Option.ne_none_iff_exists'.mp busy
        have runs : (s.clients j).runs = some (s.clients i).nbdDevice := (inv.doIt j _).mp running
        obtain rfl := inv.alone j i _ (has_of_runs (inv.placed j) runs) (has_of_serves before)
        rw [(runs_eq_some.mp runs).1] at thread
        cases thread
      · have set := (inv.sock i _).mpr before
        rw [unset] at set
        cases set

variable [DecidableEq ι]

private theorem clients_put (j : ι) :
    (s.put i c).clients j = if j = i then c else s.clients j :=
  Function.update_apply s.clients i c j

private theorem alone_put (inv : s.Apart)
    (keeps : ∀ n, c.has = some n → ∀ j, j ≠ i → (s.clients j).has ≠ some n) :
    ∀ j k n, ((s.put i c).clients j).has = some n → ((s.put i c).clients k).has = some n →
      j = k := by
  intro j k n one two
  rw [clients_put] at one two
  split_ifs at one two with first second second
  · exact first.trans second.symm
  · exact absurd two (keeps n one k second)
  · exact absurd one (keeps n two j first)
  · exact inv.alone j k n one two

/-- A client that keeps its device, or gives it up, is still alone with it. -/
private theorem alone_kept (inv : s.Apart) (kept : c.has = (s.clients i).has ∨ c.has = none) :
    ∀ j k n, ((s.put i c).clients j).has = some n → ((s.put i c).clients k).has = some n →
      j = k := by
  refine alone_put inv fun n own => others_apart inv ?_
  rcases kept with same | none
  · rw [← same, own]
  · rw [none] at own
    cases own

private theorem sized_put {sizeBlocks : ℕ → ℕ}
    (others : ∀ j, j ≠ i → (s.clients j).Sized sizeBlocks) (own : c.Sized sizeBlocks) :
    ∀ j, ((s.put i c).clients j).Sized sizeBlocks :=
  (Function.forall_update_iff s.clients fun _ client => client.Sized sizeBlocks).mpr ⟨own, others⟩

private theorem placed_put (inv : s.Apart) (own : c.Placed) :
    ∀ j, ((s.put i c).clients j).Placed :=
  (Function.forall_update_iff s.clients fun _ client => client.Placed).mpr
    ⟨own, fun j _ => inv.placed j⟩

/-- Taking the socket away from a client's device concerns no other client. -/
private theorem sock_clear (inv : s.Apart) (own : (s.clients i).has = some n)
    (after : c.serves = none) :
    Exact (Function.update s.sock n none)
      (Held NbdClient.serves (Function.update s.clients i c)) := by
  cases before : (s.clients i).serves with
  | some m =>
      obtain rfl : m = n := Option.some.inj ((has_of_serves before).symm.trans own)
      exact inv.sock.give before after
  | none =>
      have free : s.sock n = none := by
        rw [Option.eq_none_iff_forall_ne_some]
        intro j set
        have serves : (s.clients j).serves = some n := (inv.sock j n).mp set
        obtain rfl := inv.alone j i n (has_of_serves serves) own
        rw [before] at serves
        cases serves
      exact (inv.sock.keep (after.trans before.symm)).release_free free

/-- A step that only moves the client on. -/
private theorem apart_put (inv : s.Apart) (has : c.has = (s.clients i).has ∨ c.has = none)
    (serves : c.serves = (s.clients i).serves) (runs : c.runs = (s.clients i).runs)
    (sized : c.Sized s.sizeBlocks) (placed : c.Placed) : (s.put i c).Apart :=
  ⟨alone_kept inv has, inv.sock.keep serves, inv.doIt.keep runs,
    sized_put (fun j _ => inv.sized j) sized, placed_put inv placed⟩

/-- A step to another stage. -/
private theorem apart_goto (inv : s.Apart) (stage : Stage)
    (live : stage.live = (s.clients i).stage.live ∨ stage.live = false)
    (set : stage.socketSet = (s.clients i).stage.socketSet)
    (size : stage.sizeSet = true → (s.clients i).stage.sizeSet = true)
    (placed : ((s.clients i).goto stage).Placed) :
    (s.put i ((s.clients i).goto stage)).Apart := by
  refine apart_put inv ?_ ?_ rfl (fun sized => inv.sized i (size sized)) placed
  · refine live.imp (fun same => ?_) fun dead => ?_
    · simp [NbdClient.has, NbdClient.goto, same]
    · simp [NbdClient.has, NbdClient.goto, dead]
  · simp [NbdClient.serves, NbdClient.goto, set]

end Update

/-- A thread that exists may be in any state until `Disconnect` has returned. -/
private theorem placed_toThread {c : NbdClient} {pc : DoItPc} (placed : c.Placed)
    (alive : c.nbdDoItThread ≠ none) (unfinished : c.nbdDoItThread ≠ some .returned) :
    (c.toThread pc).Placed := by
  obtain ⟨size, stage, number, thread⟩ := c
  unfold NbdClient.Placed at placed ⊢
  cases stage <;> simp_all [NbdClient.toThread, Stage.Placed]

variable [DecidableEq ι]

private theorem apart_step {s t : NbdState ι} {i : ι} {action : NbdAction} (inv : s.Apart)
    (settled : Settled s (i, action)) (taken : NbdStep s i action t) : t.Apart := by
  have placed := inv.placed i
  have sized := inv.sized i
  cases taken with
  | openDevice pc | setTimeout pc | disconnect pc | clearQue pc | destroy pc =>
      rw [NbdClient.Placed, pc] at placed
      refine apart_goto inv _ ?_ ?_ ?_ placed
      · simp [pc, Stage.live]
      · simp [pc, Stage.socketSet]
      · simp [pc, Stage.sizeSet, Stage.live]
  | join pc thread =>
      refine apart_goto inv _ (.inr rfl) ?_ ?_ thread
      · simp [pc, Stage.socketSet]
      · simp [pc, Stage.sizeSet, Stage.live]
  | fails what here =>
      obtain ⟨unset, unstarted⟩ := unset_of_failsWith here placed
      exact apart_goto inv _ (.inr rfl) unset.symm (by simp [Stage.sizeSet, Stage.live]) unstarted
  | startThread pc =>
      rw [NbdClient.Placed, pc] at placed
      have unstarted : (s.clients i).nbdDoItThread = none := placed
      refine apart_put inv (.inl ?_) ?_ ?_ ?_ ?_
      · simp [NbdClient.has, pc, Stage.live]
      · simp [NbdClient.serves, pc, unstarted, Stage.socketSet]
      · simp [NbdClient.runs, unstarted]
      · exact fun _ _ => sized (by simp [pc, Stage.sizeSet, Stage.live]) (by simp [unstarted])
      · simp [NbdClient.Placed, Stage.Placed]
  | find n pc free =>
      rw [NbdClient.Placed, pc] at placed
      have unstarted : (s.clients i).nbdDoItThread = none := placed
      refine ⟨alone_put inv ?_, inv.sock.keep ?_, inv.doIt.keep ?_,
        sized_put (fun j _ => inv.sized j) nofun, placed_put inv placed⟩
      · intro m own j other also
        obtain rfl : n = m := (has_eq_some.mp own).2
        have runs := runs_eq_some.mpr ⟨settled j other also, (has_eq_some.mp also).2⟩
        exact inv.doIt.not_holds free runs
      · simp [NbdClient.serves, pc, Stage.socketSet]
      · simp [NbdClient.runs, unstarted]
  | setSizes pc =>
      rw [NbdClient.Placed, pc] at placed
      have own : (s.clients i).has = some (s.clients i).nbdDevice :=
        has_eq_some.mpr ⟨by simp [pc, Stage.live], rfl⟩
      refine ⟨alone_kept inv (.inl ?_), inv.sock.keep ?_, inv.doIt.keep rfl,
        sized_put (sized_others inv own) ?_, placed_put inv placed⟩
      · rw [own]
        rfl
      · simp [NbdClient.serves, NbdClient.goto, pc, Stage.socketSet]
      · exact fun _ _ => Function.update_self _ _ _
  | clearSock pc | takeBack pc =>
      rw [NbdClient.Placed, pc] at placed
      have own : (s.clients i).has = some (s.clients i).nbdDevice :=
        has_eq_some.mpr ⟨by simp [pc, Stage.live], rfl⟩
      refine ⟨alone_kept inv (.inl ?_), sock_clear inv own ?_, inv.doIt.keep rfl,
        sized_put (fun j _ => inv.sized j) ?_, placed_put inv placed⟩
      · rw [own]
        rfl
      · simp [NbdClient.serves, NbdClient.goto, Stage.socketSet]
      · exact fun _ => sized (by simp [pc, Stage.sizeSet, Stage.live])
  | setSock pc free =>
      rw [NbdClient.Placed, pc] at placed
      have unstarted : (s.clients i).nbdDoItThread = none := placed
      have own : (s.clients i).has = some (s.clients i).nbdDevice :=
        has_eq_some.mpr ⟨by simp [pc, Stage.live], rfl⟩
      refine ⟨alone_kept inv (.inl ?_), inv.sock.take free ?_ ?_, inv.doIt.keep rfl,
        sized_put (fun j _ => inv.sized j) ?_, placed_put inv placed⟩
      · rw [own]
        rfl
      · simp [NbdClient.serves, pc, Stage.socketSet]
      · simp [NbdClient.serves, NbdClient.goto, Stage.socketSet, unstarted]
      · exact fun _ => sized (by simp [pc, Stage.sizeSet, Stage.live])
  | doIt thread free set =>
      refine ⟨alone_kept inv (.inl rfl), inv.sock.keep ?_, inv.doIt.take free ?_ ?_,
        sized_put (fun j _ => inv.sized j) ?_,
        placed_put inv (placed_toThread placed (by simp [thread]) (by simp [thread]))⟩
      · simp [NbdClient.serves, NbdClient.toThread, thread]
      · simp [NbdClient.runs, thread]
      · simp [NbdClient.runs, NbdClient.toThread]
      · exact fun set _ => sized set (by simp [thread])
  | doItFails thread refused =>
      refine apart_put inv (.inl rfl) ?_ ?_ ?_
        (placed_toThread placed (by simp [thread]) (by simp [thread]))
      · rw [not_refused inv thread refused]
        simp [NbdClient.serves, NbdClient.toThread]
      · simp [NbdClient.runs, NbdClient.toThread, thread]
      · exact fun _ unfinished => absurd rfl unfinished
  | doItReturns thread =>
      have runs : (s.clients i).runs = some (s.clients i).nbdDevice :=
        runs_eq_some.mpr ⟨thread, rfl⟩
      have own := has_of_runs placed runs
      refine ⟨alone_kept inv (.inl rfl), sock_clear inv own ?_, inv.doIt.give runs ?_,
        sized_put (sized_others inv own) ?_,
        placed_put inv (placed_toThread placed (by simp [thread]) (by simp [thread]))⟩
      · simp [NbdClient.serves, NbdClient.toThread]
      · simp [NbdClient.runs, NbdClient.toThread]
      · exact fun _ unfinished => absurd rfl unfinished

/-- A client that takes a device which another one still has. -/
private theorem not_separate {s t : NbdState ι} {e : ι × NbdAction} (unsettled : ¬ Settled s e)
    (taken : s.step e = some t) : ¬ t.Separate := by
  obtain ⟨i, action⟩ := e
  intro separate
  cases nbdStep_cases taken with
  | find n pc free =>
      simp only [Settled] at unsettled
      push Not at unsettled
      obtain ⟨j, other, own, -⟩ := unsettled
      refine other (separate.alone j i n ?_ ?_)
      · rw [clients_put, if_neg other]
        exact own
      · rw [clients_put, if_pos rfl]
        rfl
  | _ => exact unsettled trivial

/-- What keeps the clients of the machine's NBD devices apart: in every state of a run no two
clients have one device, `IsConnected` tells whether the client's own thread is in
`NBD_DO_IT` (once `Disconnect` has returned, whether another client's is that has the device
now), and the device of a connected client has its socket and its size then, exactly
if nobody looks for a device while another client that has the one they take is outside
`NBD_DO_IT`: because its thread has not got there yet, or has come back. -/
theorem clients_separate_iff (blockDeviceSize : ι → ℕ) (events : List (ι × NbdAction))
    (completes : (run NbdState.step (.new blockDeviceSize) events).isSome) :
    (∀ before after t, events = before ++ after →
      run NbdState.step (.new blockDeviceSize) before = some t → t.Separate) ↔
      Along NbdState.step Settled (.new blockDeviceSize) events :=
  good_iff_along (Q := fun _ => True) (fun _ inv => inv.separate)
    (fun _ _ _ inv _ settled taken => apart_step inv settled (nbdStep_cases taken))
    (fun _ _ _ _ _ unsettled taken => not_separate unsettled taken)
    (apart_new blockDeviceSize) (fun _ _ => trivial) completes

instance [Fintype ι] (s : NbdState ι) : (e : ι × NbdAction) → Decidable (Settled s e)
  | (i, .findOpenNbdDevice n) => inferInstanceAs (Decidable (∀ j, j ≠ i →
      (s.clients j).has = some n → (s.clients j).nbdDoItThread = some .inDoIt))
  | (_, .openDevice) | (_, .setSizes) | (_, .clearSock) | (_, .setTimeout) | (_, .setSock)
  | (_, .startThread) | (_, .fails _) | (_, .doIt) | (_, .doItReturns) | (_, .disconnect)
  | (_, .clearQue) | (_, .join) | (_, .destroy) => .isTrue trivial

/-- The rest of the constructor after a device was found. -/
def configure : List NbdAction :=
  [.openDevice, .setSizes, .clearSock, .setTimeout, .setSock, .startThread]

def disconnect : List NbdAction :=
  [.disconnect, .clearQue, .clearSock, .doItReturns, .join]

/-- The second client takes the device after the first one has disconnected. -/
def oneAfterTheOther : List (Bool × NbdAction) :=
  (NbdAction.findOpenNbdDevice 0 :: configure).map (false, ·) ++
    (NbdAction.doIt :: disconnect).map (false, ·) ++
    (NbdAction.findOpenNbdDevice 0 :: configure).map (true, ·) ++ [(true, .doIt)]

example :
    (run NbdState.step (.new fun _ => 8192) oneAfterTheOther).any (fun s =>
      (s.clients false).stage == .disconnected && s.isConnected false) = true := by
  decide +kernel

/-- The second client looks before the first one's thread is in `NBD_DO_IT`. -/
def twoOnOneDevice : List (Bool × NbdAction) :=
  (NbdAction.findOpenNbdDevice 0 :: configure).map (false, ·) ++
    (NbdAction.findOpenNbdDevice 0 :: configure).map (true, ·) ++ [(false, .doIt)]

/-- Here what is written to the first client's device goes to the second one's server. -/
theorem clients_separate_iff_twoOnOneDevice :
    ((run NbdState.step (.new fun _ => 8192) twoOnOneDevice).any fun s =>
      (s.clients false).stage == .connected && s.isConnected false && s.sock 0 == some true) ∧
    ∃ before after t, twoOnOneDevice = before ++ after ∧
      run NbdState.step (.new fun _ => 8192) before = some t ∧ ¬ t.Separate := by
  refine ⟨by decide +kernel, ?_⟩
  have completes : (run NbdState.step (.new fun _ => 8192) twoOnOneDevice).isSome := by
    decide +kernel
  have unsettled : ¬ Along NbdState.step Settled (.new fun _ => 8192) twoOnOneDevice := by
    decide +kernel
  by_contra separate
  push Not at separate
  exact unsettled ((clients_separate_iff _ twoOnOneDevice completes).mp separate)

end Separation

end LinuxAgent.BlockDevice.Nbd
