/- module: LinuxAgent/Dattod/PidFile
   source: dattod/flock.cc, dattod/signal_handler.cc, dattod/dattod.cc, init_scripts/dattod
   digest: Daemons that compete for the pid file and for the path of the socket. -/

import LinuxAgent.Lib.Ownership
import LinuxAgent.Lib.Run
import Mathlib.Data.Fintype.Basic

/-!
Every daemon that is started locks the pid file, writes its number into it and then removes
and binds the path of the socket. The lock is one of an inode, not of the path: the file
that is open and locked need not be the one at the path any more, since the init script
removes it when it has stopped a daemon. Only the lock keeps a daemon from
removing the socket of another one.

Signals are handled from `BlockSignals` on, but only a signal that arrives inside `pause` ends
`WaitForSignal`; before, the handler just notes it.
-/

set_option autoImplicit false
set_option relaxedAutoImplicit false

namespace LinuxAgent.Dattod

open LinuxAgent.Lib.Ownership LinuxAgent.Lib.Run

inductive Signal where
  | sigterm
  | sigint
  deriving DecidableEq

/-- Where `main` stands, by what it has done last. -/
inductive Place where
  | outside
  | opened
  | locked
  | truncated
  | named
  | blocked
  | unlinked
  | bound
  | pausing
  | stopping
  | exited (failure : Option String)
  deriving DecidableEq

namespace Place

def holdsLock : Place → Bool
  | .outside | .opened | .exited _ => false
  | _ => true

/-- The number of the process is in the file. -/
def hasNamed : Place → Bool
  | .outside | .opened | .locked | .truncated | .exited _ => false
  | _ => true

/-- The socket is bound and not yet shut down. -/
def listens : Place → Bool
  | .bound | .pausing => true
  | _ => false

/-- What can be thrown at each place. Nothing in `main` catches what is thrown after the number
has been written, and the process is terminated. -/
def failsWith (what : String) : Place → Bool
  | .outside => what == "Unable to lock file"
  | .opened => what == "File already locked" || what == "Unknown lock failure"
  | .locked => what == "PID conversion failure" || what == "Unable to truncate lock file"
  | .truncated => what == "Unable to write to lock file"
  | .named => what == "Unable to set signal"
  | .blocked => what == "Unable to open socket" || what == "Unable to remove socket path"
  | .unlinked => what == "Unable to bind socket"
  | .bound => what == "Unable to listen on socket"
  | _ => false

end Place

/-- A process: its number, and the inode that its descriptor `path_fd_` is for. -/
structure Daemon where
  pid : ℕ
  place : Place
  pathFd : Option ℕ
  signalCaught : Option Signal
  deriving DecidableEq

namespace Daemon

def new (pid : ℕ) : Daemon := ⟨pid, .outside, none, none⟩

def goto (d : Daemon) (place : Place) : Daemon := { d with place := place }

/-- The end of the process closes the descriptor. -/
def exit (d : Daemon) (failure : Option String) : Daemon :=
  { d with place := .exited failure, pathFd := none }

/-- The inode that the process has locked. -/
def locks (d : Daemon) : Option ℕ := if d.place.holdsLock then d.pathFd else none

/-- What `sprintf` makes of the number. -/
def text (d : Daemon) : List Char := Nat.toDigits 10 d.pid

end Daemon

/-- The processes, the inode at the path of the pid file, the contents and locks of inodes, and
who bound the socket at its path. -/
structure Host (ι : Type*) where
  daemons : ι → Daemon
  path : Option ℕ
  next : ℕ
  content : ℕ → List Char
  lock : ℕ → Option ι
  socket : Option ι

inductive DaemonAction where
  | openPidFile
  | flock
  | ftruncate
  | writePid (count : ℕ)
  | blockSignals
  | unlinkSocket
  | bindSocket
  | listenSocket
  | signal (sig : Signal)
  | leave
  | fails (what : String)
  | kill
  deriving DecidableEq

inductive HostEvent (ι : Type*) where
  | daemon (i : ι) (action : DaemonAction)
  | removePidFile

namespace Host

variable {ι : Type*} [DecidableEq ι]

def new (pids : ι → ℕ) : Host ι :=
  ⟨fun i => .new (pids i), none, 0, fun _ => [], fun _ => none, none⟩

def put (s : Host ι) (i : ι) (d : Daemon) : Host ι :=
  { s with daemons := Function.update s.daemons i d }

/-- The process ends, and its lock with it. -/
def gone (s : Host ι) (i : ι) (failure : Option String) : Host ι :=
  let left := s.put i ((s.daemons i).exit failure)
  match (s.daemons i).locks with
  | some inode => { left with lock := Function.update s.lock inode none }
  | none => left

/-- `write` at the beginning of the file. -/
def overwrite (old new : List Char) : List Char := new ++ old.drop new.length

def daemonStep (s : Host ι) (i : ι) (action : DaemonAction) : Option (Host ι) :=
  let d := s.daemons i
  match action, d.place, d.pathFd with
  | .openPidFile, .outside, _ =>
      match s.path with
      | some inode => some (s.put i { d with place := .opened, pathFd := some inode })
      | none =>
          some
            { s.put i { d with place := .opened, pathFd := some s.next } with
              path := some s.next
              next := s.next + 1
              content := Function.update s.content s.next [] }
  | .flock, .opened, some inode =>
      if (s.lock inode).isNone then
        some { s.put i (d.goto .locked) with lock := Function.update s.lock inode (some i) }
      else none
  | .ftruncate, .locked, some inode =>
      some { s.put i (d.goto .truncated) with content := Function.update s.content inode [] }
  | .writePid count, .truncated, some inode =>
      some
        { s.put i (d.goto .named) with
          content := Function.update s.content inode
            (overwrite (s.content inode) (d.text.take count)) }
  | .blockSignals, .named, _ => some (s.put i (d.goto .blocked))
  | .unlinkSocket, .blocked, _ => some { s.put i (d.goto .unlinked) with socket := none }
  | .bindSocket, .unlinked, _ =>
      if s.socket.isNone then some { s.put i (d.goto .bound) with socket := some i } else none
  | .listenSocket, .bound, _ => some (s.put i (d.goto .pausing))
  | .signal _, .pausing, _ => some (s.put i { d with place := .stopping, signalCaught := none })
  | .signal sig, .blocked, _ | .signal sig, .unlinked, _ | .signal sig, .bound, _
  | .signal sig, .stopping, _ => some (s.put i { d with signalCaught := some sig })
  | .signal _, .opened, _ | .signal _, .locked, _ | .signal _, .truncated, _
  | .signal _, .named, _ => some (s.gone i none)
  | .leave, .stopping, _ => some (s.gone i none)
  | .fails what, place, _ => if place.failsWith what then some (s.gone i (some what)) else none
  | .kill, _, _ => some (s.gone i none)
  | _, _, _ => none

def step (s : Host ι) : HostEvent ι → Option (Host ι)
  | .daemon i action => s.daemonStep i action
  | .removePidFile => some { s with path := none }

end Host

section Steps

variable {ι : Type*} [DecidableEq ι]

/-- What a step does. -/
inductive HostStep (s : Host ι) : HostEvent ι → Host ι → Prop where
  | opens (i : ι) (inode : ℕ) (pc : (s.daemons i).place = .outside) (there : s.path = some inode) :
      HostStep s (.daemon i .openPidFile)
        (s.put i { s.daemons i with place := .opened, pathFd := some inode })
  | creates (i : ι) (pc : (s.daemons i).place = .outside) (missing : s.path = none) :
      HostStep s (.daemon i .openPidFile)
        { s.put i { s.daemons i with place := .opened, pathFd := some s.next } with
          path := some s.next
          next := s.next + 1
          content := Function.update s.content s.next [] }
  | flock (i : ι) (inode : ℕ) (pc : (s.daemons i).place = .opened)
      (fd : (s.daemons i).pathFd = some inode) (free : s.lock inode = none) :
      HostStep s (.daemon i .flock)
        { s.put i ((s.daemons i).goto .locked) with
          lock := Function.update s.lock inode (some i) }
  | ftruncate (i : ι) (inode : ℕ) (pc : (s.daemons i).place = .locked)
      (fd : (s.daemons i).pathFd = some inode) :
      HostStep s (.daemon i .ftruncate)
        { s.put i ((s.daemons i).goto .truncated) with
          content := Function.update s.content inode [] }
  | writePid (i : ι) (inode count : ℕ) (pc : (s.daemons i).place = .truncated)
      (fd : (s.daemons i).pathFd = some inode) :
      HostStep s (.daemon i (.writePid count))
        { s.put i ((s.daemons i).goto .named) with
          content := Function.update s.content inode
            (Host.overwrite (s.content inode) ((s.daemons i).text.take count)) }
  | blockSignals (i : ι) (pc : (s.daemons i).place = .named) :
      HostStep s (.daemon i .blockSignals) (s.put i ((s.daemons i).goto .blocked))
  | unlinkSocket (i : ι) (pc : (s.daemons i).place = .blocked) :
      HostStep s (.daemon i .unlinkSocket)
        { s.put i ((s.daemons i).goto .unlinked) with socket := none }
  | bindSocket (i : ι) (pc : (s.daemons i).place = .unlinked) (free : s.socket = none) :
      HostStep s (.daemon i .bindSocket)
        { s.put i ((s.daemons i).goto .bound) with socket := some i }
  | listenSocket (i : ι) (pc : (s.daemons i).place = .bound) :
      HostStep s (.daemon i .listenSocket) (s.put i ((s.daemons i).goto .pausing))
  | wakes (i : ι) (sig : Signal) (pc : (s.daemons i).place = .pausing) :
      HostStep s (.daemon i (.signal sig))
        (s.put i { s.daemons i with place := .stopping, signalCaught := none })
  | notes (i : ι) (sig : Signal) (handled : (s.daemons i).place.hasNamed = true) :
      HostStep s (.daemon i (.signal sig)) (s.put i { s.daemons i with signalCaught := some sig })
  | gone (i : ι) (action : DaemonAction) (failure : Option String)
      (other : ∀ count, action ≠ .writePid count) :
      HostStep s (.daemon i action) (s.gone i failure)
  | removed : HostStep s .removePidFile { s with path := none }

theorem hostStep_cases {s t : Host ι} {e : HostEvent ι} (taken : s.step e = some t) :
    HostStep s e t := by
  cases e with
  | removePidFile =>
      obtain rfl := Option.some.inj taken
      exact .removed
  | daemon i action =>
      simp only [Host.step, Host.daemonStep] at taken
      split at taken
      case h_1 pc =>
        split at taken
        case h_1 inode there =>
          obtain rfl := Option.some.inj taken
          exact .opens i inode pc there
        case h_2 missing =>
          obtain rfl := Option.some.inj taken
          exact .creates i pc missing
      case h_2 inode pc fd =>
        split_ifs at taken with free
        obtain rfl := Option.some.inj taken
        exact .flock i inode pc fd (Option.isNone_iff_eq_none.mp free)
      case h_3 inode pc fd =>
        obtain rfl := Option.some.inj taken
        exact .ftruncate i inode pc fd
      case h_4 count inode pc fd =>
        obtain rfl := Option.some.inj taken
        exact .writePid i inode count pc fd
      case h_5 pc =>
        obtain rfl := Option.some.inj taken
        exact .blockSignals i pc
      case h_6 pc =>
        obtain rfl := Option.some.inj taken
        exact .unlinkSocket i pc
      case h_7 pc =>
        split_ifs at taken with free
        obtain rfl := Option.some.inj taken
        exact .bindSocket i pc (Option.isNone_iff_eq_none.mp free)
      case h_8 pc =>
        obtain rfl := Option.some.inj taken
        exact .listenSocket i pc
      case h_9 sig pc =>
        obtain rfl := Option.some.inj taken
        exact .wakes i sig pc
      case h_10 sig pc | h_11 sig pc | h_12 sig pc | h_13 sig pc =>
        obtain rfl := Option.some.inj taken
        exact .notes i sig (by rw [pc]; rfl)
      case h_19 =>
        split_ifs at taken
        obtain rfl := Option.some.inj taken
        exact .gone i _ _ nofun
      case h_21 => cases taken
      all_goals
        obtain rfl := Option.some.inj taken
        exact .gone i _ _ nofun

end Steps

section Guard

variable {ι : Type*}

/-- There is one daemon: no two processes hold a lock, whoever has the pid file open has the one
at the path, which has the number of the daemon in it, and the path of the socket leads to
the daemon. -/
structure Host.Sole (s : Host ι) : Prop where
  alone : ∀ i j, (s.daemons i).place.holdsLock = true → (s.daemons j).place.holdsLock = true →
    i = j
  placed : ∀ i inode, (s.daemons i).pathFd = some inode → s.path = some inode
  named : ∀ i, (s.daemons i).place.hasNamed = true →
    ∃ inode, s.path = some inode ∧ s.content inode = Nat.toDigits 10 (s.daemons i).pid
  reached : ∀ i, (s.daemons i).place.listens = true → s.socket = some i

/-- The pid file is removed only when nobody has it open, and a number is written whole. -/
def PidFileKept (s : Host ι) : HostEvent ι → Prop
  | .removePidFile => ∀ i, (s.daemons i).pathFd = none
  | .daemon i (.writePid count) => (s.daemons i).text.length ≤ count
  | _ => True

/-- What a process has made of the file. -/
structure Daemon.Written (d : Daemon) (content : List Char) : Prop where
  empty : d.place = .truncated → content = []
  named : d.place.hasNamed = true → content = d.text

/-- How a process goes with the file at the path, the contents of files and the socket. -/
structure Fits (path : Option ℕ) (content : ℕ → List Char) (socket : Option ι) (i : ι)
    (d : Daemon) : Prop where
  placed : ∀ inode, d.pathFd = some inode → path = some inode
  opened : d.place.holdsLock = true → d.pathFd ≠ none
  written : ∀ inode, d.pathFd = some inode → d.Written (content inode)
  reached : d.place.listens = true → socket = some i

structure Host.Guarded (s : Host ι) : Prop where
  lock : Exact s.lock (Held Daemon.locks s.daemons)
  fits : ∀ i, Fits s.path s.content s.socket i (s.daemons i)

theorem holdsLock_of_hasNamed {place : Place} (named : place.hasNamed = true) :
    place.holdsLock = true := by
  cases place <;> first | rfl | cases named

theorem holdsLock_of_listens {place : Place} (listens : place.listens = true) :
    place.holdsLock = true := by
  cases place <;> first | rfl | cases listens

/-- A process without the lock has not touched the file. -/
private theorem written_unlocked {d : Daemon} (unlocked : d.place.holdsLock = false)
    (content : List Char) : d.Written content := by
  constructor
  · intro place
    simp [place, Place.holdsLock] at unlocked
  · intro named
    simp [holdsLock_of_hasNamed named] at unlocked

section Holder

variable {s : Host ι} {i j : ι} {inode : ℕ}

private theorem locks_of_holdsLock (inv : s.Guarded)
    (holds : (s.daemons i).place.holdsLock = true) :
    ∃ inode, (s.daemons i).pathFd = some inode ∧ s.path = some inode ∧
      (s.daemons i).locks = some inode := by
  obtain ⟨inode, fd⟩ := Option.ne_none_iff_exists'.mp ((inv.fits i).opened holds)
  exact ⟨inode, fd, (inv.fits i).placed inode fd, by rw [Daemon.locks, if_pos holds, fd]⟩

/-- All locks are on the inode at the path, so there is one holder. -/
private theorem alone_of_guarded (inv : s.Guarded)
    (one : (s.daemons i).place.holdsLock = true) (two : (s.daemons j).place.holdsLock = true) :
    i = j := by
  obtain ⟨inode, _, first, own⟩ := locks_of_holdsLock inv one
  obtain ⟨other, _, second, also⟩ := locks_of_holdsLock inv two
  obtain rfl := Option.some.inj (first.symm.trans second)
  exact inv.lock.unique own also

private theorem unlocked_of_other (inv : s.Guarded)
    (holds : (s.daemons i).place.holdsLock = true) (other : j ≠ i) :
    (s.daemons j).place.holdsLock = false := by
  by_contra also
  exact other (alone_of_guarded inv (by simpa using also) holds)

/-- The others do not mind what the holder of the lock does to the file and to the socket. -/
private theorem fits_other {content : ℕ → List Char} {socket : Option ι}
    (inv : s.Guarded) (holding : (s.daemons i).place.holdsLock = true) (other : j ≠ i) :
    Fits s.path content socket j (s.daemons j) := by
  have unlocked := unlocked_of_other inv holding other
  refine ⟨(inv.fits j).placed, (inv.fits j).opened, fun _ _ => written_unlocked unlocked _, ?_⟩
  intro listens
  rw [holdsLock_of_listens listens] at unlocked
  cases unlocked

theorem Host.Guarded.sole (inv : s.Guarded) : s.Sole := by
  refine ⟨fun i j => alone_of_guarded inv, fun i => (inv.fits i).placed, fun i named => ?_,
    fun i => (inv.fits i).reached⟩
  obtain ⟨inode, fd, path, _⟩ := locks_of_holdsLock inv (holdsLock_of_hasNamed named)
  exact ⟨inode, path, ((inv.fits i).written inode fd).named named⟩

end Holder

theorem guarded_new (pids : ι → ℕ) : (Host.new pids).Guarded := by
  refine ⟨?_, fun i => ?_⟩
  · simp [Host.new, Daemon.new, Exact, Held, Daemon.locks, Place.holdsLock]
  · constructor <;> simp [Host.new, Daemon.new, Place.holdsLock, Place.listens]

variable [DecidableEq ι]

section Update

variable {s : Host ι} {i : ι} {d : Daemon} {inode : ℕ}

private theorem daemons_put (j : ι) :
    (s.put i d).daemons j = if j = i then d else s.daemons j :=
  Function.update_apply s.daemons i d j

/-- The processes fit after one of them has changed. -/
private theorem fits_put {path : Option ℕ} {content : ℕ → List Char} {socket : Option ι}
    (others : ∀ j, j ≠ i → Fits path content socket j (s.daemons j))
    (own : Fits path content socket i d) :
    ∀ j, Fits path content socket j ((s.put i d).daemons j) :=
  (Function.forall_update_iff s.daemons (Fits path content socket)).mpr ⟨own, others⟩

/-- A step of one process that keeps its descriptor and its lock. What it changes in the file
or in the path of the socket it changes as the holder of the lock. -/
private theorem guarded_move {content : ℕ → List Char} {socket : Option ι} (inv : s.Guarded)
    (fd : d.pathFd = (s.daemons i).pathFd)
    (holds : d.place.holdsLock = (s.daemons i).place.holdsLock)
    (allowed : content = s.content ∧ socket = s.socket ∨
      (s.daemons i).place.holdsLock = true)
    (written : ∀ inode, d.pathFd = some inode → d.Written (content inode))
    (reached : d.place.listens = true → socket = some i) :
    { s.put i d with content := content, socket := socket : Host ι }.Guarded := by
  refine ⟨inv.lock.keep ?_, fits_put (fun j other => ?_) ⟨?_, ?_, written, reached⟩⟩
  · rw [Daemon.locks, Daemon.locks, holds, fd]
  · rcases allowed with ⟨rfl, rfl⟩ | holding
    · exact inv.fits j
    · exact fits_other inv holding other
  · exact fd ▸ (inv.fits i).placed
  · rw [holds, fd]
    exact (inv.fits i).opened

/-- A process opens the pid file, which may change when nobody has it open. -/
private theorem guarded_open {path : Option ℕ} {next : ℕ} {content : ℕ → List Char}
    (inv : s.Guarded) (pc : (s.daemons i).place = .outside) (there : path = some inode)
    (same : s.path = path ∧ content = s.content ∨ s.path = none) :
    { s.put i { s.daemons i with place := .opened, pathFd := some inode } with
      path := path
      next := next
      content := content : Host ι }.Guarded := by
  refine ⟨inv.lock.keep ?_, fits_put (fun j other => ?_) ⟨fun _ file => there.trans file, by simp,
    fun _ _ => written_unlocked rfl _, by simp [Place.listens]⟩⟩
  · simp [Daemon.locks, pc, Place.holdsLock]
  · have fits := inv.fits j
    rcases same with ⟨rfl, rfl⟩ | missing
    · exact fits
    · have nothing (inode : ℕ) : (s.daemons j).pathFd ≠ some inode := by
        intro file
        have found := fits.placed inode file
        rw [missing] at found
        cases found
      exact ⟨fun inode file => absurd file (nothing inode), fits.opened,
        fun inode file => absurd file (nothing inode), fits.reached⟩

private theorem guarded_flock (inv : s.Guarded) (pc : (s.daemons i).place = .opened)
    (fd : (s.daemons i).pathFd = some inode) (free : s.lock inode = none) :
    { s.put i ((s.daemons i).goto .locked) with
      lock := Function.update s.lock inode (some i) : Host ι }.Guarded := by
  refine ⟨inv.lock.take free ?_ ?_, fits_put (fun j _ => inv.fits j)
    ⟨(inv.fits i).placed, ?_, fun _ _ => ⟨nofun, ?_⟩, ?_⟩⟩
  · simp [Daemon.locks, pc, Place.holdsLock]
  · simp [Daemon.locks, Daemon.goto, Place.holdsLock, fd]
  · simp [Daemon.goto, fd]
  · simp [Daemon.goto, Place.hasNamed]
  · simp [Daemon.goto, Place.listens]

private theorem guarded_gone (inv : s.Guarded) (failure : Option String) :
    (s.gone i failure).Guarded := by
  have fits := fits_put (i := i) (d := (s.daemons i).exit failure) (fun j _ => inv.fits j)
    (by constructor <;> simp [Daemon.exit, Place.holdsLock, Place.listens])
  have after : ((s.daemons i).exit failure).locks = none := rfl
  unfold Host.gone
  cases held : (s.daemons i).locks with
  | none => exact ⟨inv.lock.keep (after.trans held.symm), fits⟩
  | some inode => exact ⟨inv.lock.give held after, fits⟩

end Update

/-- A process that has written its number and goes on. -/
private theorem guarded_goOn {s : Host ι} {i : ι} {place : Place} {signalCaught : Option Signal}
    {socket : Option ι} (inv : s.Guarded) (named : (s.daemons i).place.hasNamed = true)
    (still : place.hasNamed = true) (reached : place.listens = true → socket = some i) :
    { s.put i { s.daemons i with place := place, signalCaught := signalCaught } with
      socket := socket : Host ι }.Guarded := by
  have holding := holdsLock_of_hasNamed named
  refine guarded_move inv rfl ?_ (.inr holding) ?_ reached
  · rw [holding]
    exact holdsLock_of_hasNamed still
  · refine fun inode file => ⟨?_, fun _ => ((inv.fits i).written inode file).named named⟩
    rintro rfl
    cases still

private theorem guarded_step {s t : Host ι} {e : HostEvent ι} (inv : s.Guarded)
    (kept : PidFileKept s e) (taken : HostStep s e t) : t.Guarded := by
  cases taken with
  | opens i inode pc there =>
      exact guarded_open inv pc there (.inl ⟨rfl, rfl⟩)
  | creates i pc missing => exact guarded_open inv pc rfl (.inr missing)
  | flock i inode pc fd free => exact guarded_flock inv pc fd free
  | ftruncate i inode pc fd =>
      refine guarded_move inv rfl (by rw [pc]; rfl) (.inr (by rw [pc]; rfl))
        (fun other file => ⟨fun _ => ?_, nofun⟩) nofun
      obtain rfl := Option.some.inj (fd.symm.trans file)
      exact Function.update_self _ _ _
  | writePid i inode count pc fd =>
      refine guarded_move inv rfl (by rw [pc]; rfl) (.inr (by rw [pc]; rfl))
        (fun other file => ⟨nofun, fun _ => ?_⟩) nofun
      obtain rfl := Option.some.inj (fd.symm.trans file)
      rw [Function.update_self, ((inv.fits i).written inode fd).empty pc, Host.overwrite,
        List.take_of_length_le kept, List.drop_nil, List.append_nil]
      rfl
  | blockSignals i pc => exact guarded_goOn inv (by rw [pc]; rfl) rfl nofun
  | unlinkSocket i pc => exact guarded_goOn inv (by rw [pc]; rfl) rfl nofun
  | bindSocket i pc free => exact guarded_goOn inv (by rw [pc]; rfl) rfl fun _ => rfl
  | listenSocket i pc =>
      have reached := (inv.fits i).reached (by rw [pc]; rfl)
      exact guarded_goOn inv (by rw [pc]; rfl) rfl fun _ => reached
  | wakes i sig pc => exact guarded_goOn inv (by rw [pc]; rfl) rfl nofun
  | notes i sig handled => exact guarded_goOn inv handled handled (inv.fits i).reached
  | gone i action failure other => exact guarded_gone inv failure
  | removed =>
      refine ⟨inv.lock, fun i => ⟨fun inode file => ?_, (inv.fits i).opened,
        (inv.fits i).written, (inv.fits i).reached⟩⟩
      rw [kept i] at file
      cases file

private theorem not_sole {s t : Host ι} {e : HostEvent ι} (inv : s.Guarded)
    (disturbed : ¬ PidFileKept s e) (taken : s.step e = some t) : ¬ t.Sole := by
  intro sole
  cases hostStep_cases taken with
  | removed =>
      simp only [PidFileKept] at disturbed
      push Not at disturbed
      obtain ⟨i, file⟩ := disturbed
      obtain ⟨inode, fd⟩ := Option.ne_none_iff_exists'.mp file
      cases sole.placed i inode fd
  | writePid i inode count pc fd =>
      simp only [PidFileKept, not_le] at disturbed
      obtain ⟨other, there, whole⟩ := sole.named i (by rw [daemons_put, if_pos rfl]; rfl)
      obtain rfl := Option.some.inj (((inv.fits i).placed inode fd).symm.trans there)
      -- The file was empty, so it has as many characters as were written.
      have length := congrArg List.length whole
      dsimp only at length
      rw [Function.update_self, ((inv.fits i).written inode fd).empty pc, Host.overwrite,
        List.drop_nil, List.append_nil, List.length_take, daemons_put, if_pos rfl] at length
      change min count (s.daemons i).text.length = (s.daemons i).text.length at length
      omega
  | gone i action failure other =>
      cases action with
      | writePid count => exact other count rfl
      | _ => exact disturbed trivial
  | _ => exact disturbed trivial

/-- What it takes for there to be one daemon: in every state of every run, with any number of
processes that start, fail, are signalled or killed at any moment, at most one holds the
lock, its number is what the pid file says and the path of the socket leads to it, exactly
if the pid file is removed only while no process has it open and each number is written
with one `write`. -/
theorem one_daemon_iff (pids : ι → ℕ) (events : List (HostEvent ι))
    (completes : (run Host.step (.new pids) events).isSome) :
    (∀ before after t, events = before ++ after → run Host.step (.new pids) before = some t →
      t.Sole) ↔ Along Host.step PidFileKept (.new pids) events :=
  good_iff_along (Q := fun _ => True) (fun _ inv => inv.sole)
    (fun _ _ _ inv _ kept taken => guarded_step inv kept (hostStep_cases taken))
    (fun _ _ _ inv _ disturbed taken => not_sole inv disturbed taken)
    (guarded_new pids) (fun _ _ => trivial) completes

instance [Fintype ι] (s : Host ι) : (e : HostEvent ι) → Decidable (PidFileKept s e)
  | .removePidFile => inferInstanceAs (Decidable (∀ i, (s.daemons i).pathFd = none))
  | .daemon i (.writePid count) =>
      inferInstanceAs (Decidable ((s.daemons i).text.length ≤ count))
  | .daemon _ .openPidFile | .daemon _ .flock | .daemon _ .ftruncate | .daemon _ .blockSignals
  | .daemon _ .unlinkSocket | .daemon _ .bindSocket | .daemon _ .listenSocket
  | .daemon _ (.signal _) | .daemon _ .leave | .daemon _ (.fails _) | .daemon _ .kill =>
      .isTrue trivial

/-- A daemon from its start to `pause`. -/
def starts : List DaemonAction :=
  [.openPidFile, .flock, .ftruncate, .writePid 512, .blockSignals, .unlinkSocket, .bindSocket,
    .listenSocket]

/-- The pid file is removed under a daemon that runs, and another one starts. -/
def removedTooEarly : List (HostEvent Bool) :=
  starts.map (.daemon false) ++ [.removePidFile] ++ starts.map (.daemon true)

/-- Here two daemons hold their locks, and the socket of the first one cannot be reached. -/
theorem one_daemon_iff_removedTooEarly :
    ((run Host.step (.new fun i => if i then 812 else 733) removedTooEarly).any fun s =>
      (s.daemons false).place == .pausing && (s.daemons true).place == .pausing &&
        s.socket == some true) ∧
    ∃ before after t, removedTooEarly = before ++ after ∧
      run Host.step (.new fun i => if i then 812 else 733) before = some t ∧ ¬ t.Sole := by
  refine ⟨by decide +kernel, ?_⟩
  have completes : (run Host.step (.new fun i => if i then 812 else 733)
      removedTooEarly).isSome := by decide +kernel
  have disturbed : ¬ Along Host.step PidFileKept (.new fun i => if i then 812 else 733)
      removedTooEarly := by decide +kernel
  by_contra sole
  push Not at sole
  exact disturbed ((one_daemon_iff _ removedTooEarly completes).mp sole)

end Guard

end LinuxAgent.Dattod
