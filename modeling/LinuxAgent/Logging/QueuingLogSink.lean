/- module: LinuxAgent/Logging/QueuingLogSink
   source: logging/queuing_log_sink.{h,cc}
   digest: Which log lines are in the file when the destructor has joined the writer thread. -/

import LinuxAgent.Lib.Run
import Mathlib.Data.List.Infix
import Mathlib.Data.List.TakeWhile

/-!
Senders push lines on a queue under the mutex, and a writer thread takes them from it.
It holds the mutex while it looks at the queue and gives it up for each write, and it
tests `should_die_` without the mutex. `wait_for` may time out at any moment, so what a
notification adds is only that the writer wakes earlier. The lines that senders push are
those that `ToString` returns. A write with `fputs` is taken to succeed; it gets the message
as a C string, so it writes what stands before the first NUL.
-/

set_option autoImplicit false
set_option relaxedAutoImplicit false

namespace LinuxAgent.Logging

open LinuxAgent.Lib.Run

/-- Where the writer thread stands. It holds the mutex while it is draining. -/
inductive WriterPc where
  | testing
  | locking
  | waiting
  | woken
  | draining
  | writing (message : String)
  | relocking
  | exited
  deriving DecidableEq

/-- The owner of the sink: before the destructor, and after each of its statements. -/
inductive OwnerPc where
  | running
  | storedShouldDie
  | notified
  | joined
  deriving DecidableEq

/-- `notifying` counts the calls of `send` that have pushed their line and are about to
notify. `sent` is not in the code: the lines in the order in which they were pushed. -/
structure QueuingLogSink where
  toWriteQueue : List String
  shouldDie : Bool
  writer : WriterPc
  owner : OwnerPc
  notifying : ℕ
  file : List String
  sent : List String
  deriving DecidableEq

inductive SinkEvent where
  | push (line : String)
  | notify
  | testShouldDie
  | lock
  | timeOut
  | lockAgain
  | pop
  | fputs
  | relock
  | storeShouldDie
  | notifyWriter
  | join
  deriving DecidableEq

namespace QueuingLogSink

/-- What `fputs` sees of `message.c_str()`. -/
def cStr (message : String) : String :=
  String.ofList (message.toList.takeWhile (· ≠ Char.ofNat 0))

def new : QueuingLogSink := ⟨[], false, .testing, .running, 0, [], []⟩

def goto (s : QueuingLogSink) (pc : WriterPc) : QueuingLogSink := { s with writer := pc }

/-- `notify_one` on `cond_variable_`. -/
def notifyOne (s : QueuingLogSink) : QueuingLogSink :=
  if s.writer = .waiting then s.goto .woken else s

/-- One step of a sender, of the writer or of the destructor, which is called after the
last `send` has returned. -/
def step (linesToBuffer : ℕ) (s : QueuingLogSink) (e : SinkEvent) : Option QueuingLogSink :=
  match e, s.writer, s.owner with
  | .push _, .draining, _ => none
  | .push line, _, .running => some
      { s with
        toWriteQueue := s.toWriteQueue ++ [line]
        notifying := if s.toWriteQueue.length + 1 > linesToBuffer then s.notifying + 1
          else s.notifying
        sent := s.sent ++ [line] }
  | .notify, _, _ =>
      if 0 < s.notifying then some { s.notifyOne with notifying := s.notifying - 1 } else none
  | .testShouldDie, .testing, _ => some (s.goto (if s.shouldDie then .exited else .locking))
  | .lock, .locking, _ => some (s.goto .waiting)
  | .timeOut, .waiting, _ => some (s.goto .woken)
  | .lockAgain, .woken, _ => some (s.goto .draining)
  | .pop, .draining, _ =>
      match s.toWriteQueue with
      | [] => some (s.goto .testing)
      | front :: rest => some { s.goto (.writing (front ++ "\n")) with toWriteQueue := rest }
  | .fputs, .writing message, _ => some
      { s.goto .relocking with file := s.file ++ [cStr message] }
  | .relock, .relocking, _ => some (s.goto .draining)
  | .storeShouldDie, _, .running =>
      if s.notifying = 0 then some { s with shouldDie := true, owner := .storedShouldDie }
      else none
  | .notifyWriter, _, .storedShouldDie => some { s.notifyOne with owner := .notified }
  | .join, .exited, .notified => some { s with owner := .joined }
  | _, _, _ => none

/-- The lines as they are to be written. -/
def terminated (lines : List String) : List String := lines.map (· ++ "\n")

/-- The lines as `fputs` writes them. -/
def written (lines : List String) : List String := (terminated lines).map cStr

/-- The line goes through `c_str` as a whole. -/
def NulFree (line : String) : Prop := Char.ofNat 0 ∉ line.toList

instance (line : String) : Decidable (NulFree line) := inferInstanceAs (Decidable (¬ _))

/-- The line that was taken from the queue and not yet written. -/
def inHand (s : QueuingLogSink) : List String :=
  match s.writer with
  | .writing message => [message]
  | _ => []

/-- The destructor does not set `should_die_` when the writer is about to test it with
lines in the queue. -/
def StopsDrained (s : QueuingLogSink) (e : SinkEvent) : Prop :=
  e = .storeShouldDie → s.writer = .testing → s.toWriteQueue = []

instance (s : QueuingLogSink) (e : SinkEvent) : Decidable (s.StopsDrained e) :=
  inferInstanceAs (Decidable (_ → _))

end QueuingLogSink

/-- What a step does. -/
inductive SinkStep (linesToBuffer : ℕ) (s : QueuingLogSink) :
    SinkEvent → QueuingLogSink → Prop where
  | push (line : String) (free : s.writer ≠ .draining) (running : s.owner = .running)
      (notifying : ℕ) :
      SinkStep linesToBuffer s (.push line)
        { s with
          toWriteQueue := s.toWriteQueue ++ [line]
          notifying := notifying
          sent := s.sent ++ [line] }
  | notify (notifying : ℕ) :
      SinkStep linesToBuffer s .notify { s.notifyOne with notifying := notifying }
  | die (pc : s.writer = .testing) (die : s.shouldDie = true) :
      SinkStep linesToBuffer s .testShouldDie (s.goto .exited)
  | goOn (pc : s.writer = .testing) (live : s.shouldDie = false) :
      SinkStep linesToBuffer s .testShouldDie (s.goto .locking)
  | lock (pc : s.writer = .locking) : SinkStep linesToBuffer s .lock (s.goto .waiting)
  | timeOut (pc : s.writer = .waiting) : SinkStep linesToBuffer s .timeOut (s.goto .woken)
  | lockAgain (pc : s.writer = .woken) : SinkStep linesToBuffer s .lockAgain (s.goto .draining)
  | drained (pc : s.writer = .draining) (none : s.toWriteQueue = []) :
      SinkStep linesToBuffer s .pop (s.goto .testing)
  | pop (front : String) (rest : List String) (pc : s.writer = .draining)
      (queue : s.toWriteQueue = front :: rest) :
      SinkStep linesToBuffer s .pop
        { s.goto (.writing (front ++ "\n")) with toWriteQueue := rest }
  | fputs (message : String) (pc : s.writer = .writing message) :
      SinkStep linesToBuffer s .fputs
        { s.goto .relocking with file := s.file ++ [QueuingLogSink.cStr message] }
  | relock (pc : s.writer = .relocking) : SinkStep linesToBuffer s .relock (s.goto .draining)
  | storeShouldDie (running : s.owner = .running) :
      SinkStep linesToBuffer s .storeShouldDie
        { s with shouldDie := true, owner := .storedShouldDie }
  | notifyWriter (stored : s.owner = .storedShouldDie) :
      SinkStep linesToBuffer s .notifyWriter { s.notifyOne with owner := .notified }
  | join (pc : s.writer = .exited) (notified : s.owner = .notified) :
      SinkStep linesToBuffer s .join { s with owner := .joined }

theorem sinkStep_cases {linesToBuffer : ℕ} {s t : QueuingLogSink} {e : SinkEvent}
    (taken : s.step linesToBuffer e = some t) : SinkStep linesToBuffer s e t := by
  unfold QueuingLogSink.step at taken
  split at taken
  case h_1 | h_14 => cases taken
  case h_2 line running free =>
    obtain rfl := Option.some.inj taken
    exact .push line free running _
  case h_3 =>
    split_ifs at taken
    obtain rfl := Option.some.inj taken
    exact .notify _
  case h_4 pc =>
    obtain rfl := Option.some.inj taken
    split_ifs with die
    · exact .die pc die
    · exact .goOn pc (by simpa using die)
  case h_8 pc =>
    split at taken
    next queue =>
      obtain rfl := Option.some.inj taken
      exact .drained pc queue
    next front rest queue =>
      obtain rfl := Option.some.inj taken
      exact .pop front rest pc queue
  case h_11 running =>
    split_ifs at taken
    obtain rfl := Option.some.inj taken
    exact .storeShouldDie running
  all_goals
    obtain rfl := Option.some.inj taken
    constructor <;> assumption

namespace QueuingLogSink

/-- No line is lost, duplicated or moved: the file, the line in hand and the queue are
together what was sent. -/
def Conserved (s : QueuingLogSink) : Prop :=
  written s.sent = s.file ++ s.inHand.map cStr ++ written s.toWriteQueue

/-- What the place of the writer and of the owner say about the flag. -/
structure Placed (s : QueuingLogSink) : Prop where
  conserved : s.Conserved
  exited : s.writer = .exited → s.shouldDie = true
  joined : s.owner = .joined → s.writer = .exited
  stored : s.shouldDie = true → s.owner ≠ .running

theorem written_append (first second : List String) :
    written (first ++ second) = written first ++ written second := by
  simp only [written, terminated, List.map_append]

theorem length_written (lines : List String) : (written lines).length = lines.length := by
  simp only [written, terminated, List.length_map]

theorem cStr_eq_self_iff (message : String) : cStr message = message ↔ NulFree message := by
  have chars : cStr message = message ↔
      message.toList.takeWhile (· ≠ Char.ofNat 0) = message.toList := by
    rw [← String.toList_inj, cStr, String.toList_ofList]
  rw [chars, List.takeWhile_eq_self_iff]
  simp only [decide_eq_true_eq, NulFree]
  exact ⟨fun all member => all _ member rfl, fun free char member same => free (same ▸ member)⟩

/-- What is written is what was to be written exactly when no line has a NUL. -/
theorem written_eq_terminated_iff (lines : List String) :
    written lines = terminated lines ↔ ∀ line ∈ lines, NulFree line := by
  have each : written lines = terminated lines ↔
      ∀ line ∈ lines, cStr (line ++ "\n") = line ++ "\n" := by
    rw [written, terminated, List.map_map]
    exact List.map_inj_left
  rw [each]
  refine forall₂_congr fun line _ => ?_
  rw [cStr_eq_self_iff, NulFree, NulFree, String.toList_append, List.mem_append, not_or]
  exact and_iff_left (by decide)

/-- A notification moves a waiting writer, and nothing else. -/
theorem notifyOne_cases (s : QueuingLogSink) :
    s.notifyOne = s ∨ s.writer = .waiting ∧ s.notifyOne = s.goto .woken := by
  unfold notifyOne
  split_ifs with waiting
  · exact .inr ⟨waiting, rfl⟩
  · exact .inl rfl

end QueuingLogSink

section Steps

variable {linesToBuffer : ℕ} {s t : QueuingLogSink} {e : SinkEvent}

/-- A step of the writer between two places where it has no line in hand. -/
private theorem conserved_goto {pc : WriterPc} (conserved : s.Conserved) (before : s.inHand = [])
    (after : (s.goto pc).inHand = []) : (s.goto pc).Conserved := by
  unfold QueuingLogSink.Conserved at conserved ⊢
  rw [before] at conserved
  rw [after]
  exact conserved

private theorem inHand_of_waiting (waiting : s.writer = .waiting) : s.inHand = [] := by
  simp only [QueuingLogSink.inHand, waiting]

private theorem conserved_notifyOne (conserved : s.Conserved) : s.notifyOne.Conserved := by
  rcases s.notifyOne_cases with same | ⟨waiting, woken⟩
  · rwa [same]
  · rw [woken]
    exact conserved_goto conserved (inHand_of_waiting waiting) rfl

private theorem conserved_step (conserved : s.Conserved)
    (taken : SinkStep linesToBuffer s e t) : t.Conserved := by
  cases taken with
  | push line free running notifying =>
      unfold QueuingLogSink.Conserved at conserved ⊢
      rw [QueuingLogSink.written_append, QueuingLogSink.written_append, conserved,
        List.append_assoc]
      rfl
  | notify notifying => exact conserved_notifyOne conserved
  | notifyWriter stored => exact conserved_notifyOne conserved
  | die pc | goOn pc | lock pc | timeOut pc | lockAgain pc | drained pc | relock pc =>
      exact conserved_goto conserved (by simp only [QueuingLogSink.inHand, pc]) rfl
  | pop front rest pc queue =>
      unfold QueuingLogSink.Conserved at conserved
      have before : s.inHand = [] := by simp only [QueuingLogSink.inHand, pc]
      rw [before, queue] at conserved
      change QueuingLogSink.written s.sent =
        s.file ++ [QueuingLogSink.cStr (front ++ "\n")] ++ QueuingLogSink.written rest
      rw [conserved, List.map_nil, List.append_nil, List.append_assoc]
      rfl
  | fputs message pc =>
      unfold QueuingLogSink.Conserved at conserved
      have before : s.inHand = [message] := by simp only [QueuingLogSink.inHand, pc]
      rw [before] at conserved
      change QueuingLogSink.written s.sent =
        s.file ++ [QueuingLogSink.cStr message] ++ [] ++ QueuingLogSink.written s.toWriteQueue
      rw [conserved, List.append_nil]
      rfl
  | storeShouldDie | join => exact conserved

private theorem placed_step (inv : s.Placed) (taken : SinkStep linesToBuffer s e t) :
    t.Placed := by
  have conserved := conserved_step inv.conserved taken
  cases taken with
  | push line free running =>
      exact ⟨conserved, inv.exited, inv.joined, inv.stored⟩
  | notify notifying =>
      rcases s.notifyOne_cases with same | ⟨waiting, woken⟩
      · rw [same] at conserved ⊢
        exact ⟨conserved, inv.exited, inv.joined, inv.stored⟩
      · rw [woken] at conserved ⊢
        refine ⟨conserved, nofun, fun joined => ?_, inv.stored⟩
        rw [inv.joined joined] at waiting
        cases waiting
  | notifyWriter stored =>
      rcases s.notifyOne_cases with same | ⟨waiting, woken⟩
      · rw [same] at conserved ⊢
        exact ⟨conserved, inv.exited, nofun, fun _ => nofun⟩
      · rw [woken] at conserved ⊢
        exact ⟨conserved, nofun, nofun, fun _ => nofun⟩
  | die pc die => exact ⟨conserved, fun _ => die, fun _ => rfl, inv.stored⟩
  | storeShouldDie running =>
      exact ⟨conserved, fun _ => rfl, nofun, fun _ => nofun⟩
  | join pc notified => exact ⟨conserved, inv.exited, fun _ => pc, fun _ => nofun⟩
  | goOn pc | lock pc | timeOut pc | lockAgain pc | drained pc | pop _ _ pc | fputs _ pc
  | relock pc =>
      refine ⟨conserved, nofun, fun joined => ?_, inv.stored⟩
      exact absurd (pc.symm.trans (inv.joined joined)) nofun

/-- Once the flag is set, the writer reaches the test only with an empty queue. -/
def QueuingLogSink.Drained (s : QueuingLogSink) : Prop :=
  s.shouldDie = true → s.writer = .testing ∨ s.writer = .exited → s.toWriteQueue = []

private theorem drained_step (placed : s.Placed) (inv : s.Drained) (stops : s.StopsDrained e)
    (taken : SinkStep linesToBuffer s e t) : t.Drained := by
  cases taken with
  | push line free running => exact fun die => absurd running (placed.stored die)
  | notify notifying | notifyWriter stored =>
      rcases s.notifyOne_cases with same | ⟨waiting, woken⟩
      · rw [same]
        exact inv
      · rw [woken]
        rintro _ (testing | exited)
        · cases testing
        · cases exited
  | die pc die => exact fun _ _ => inv die (.inl pc)
  | drained pc none => exact fun _ _ => none
  | storeShouldDie running =>
      rintro _ (testing | exited)
      · exact stops rfl testing
      · exact absurd running (placed.stored (placed.exited exited))
  | join pc notified => exact inv
  | _ =>
      rintro _ (testing | exited)
      · cases testing
      · cases exited

/-- The flag is set and the writer will look at the queue no more, with lines in it. -/
structure QueuingLogSink.Abandoned (s : QueuingLogSink) : Prop where
  shouldDie : s.shouldDie = true
  stored : s.owner ≠ .running
  writer : s.writer = .testing ∨ s.writer = .exited
  lines : s.toWriteQueue ≠ []

private theorem abandoned_step (inv : s.Abandoned) (taken : SinkStep linesToBuffer s e t) :
    t.Abandoned := by
  obtain ⟨die, stored, writer, lines⟩ := inv
  have awake : s.notifyOne = s := by
    rcases s.notifyOne_cases with same | ⟨waiting, _⟩
    · exact same
    · rw [waiting] at writer
      simp at writer
  cases taken with
  | push line free running => exact absurd running stored
  | storeShouldDie running => exact absurd running stored
  | notify => exact ⟨awake.symm ▸ die, awake.symm ▸ stored, awake.symm ▸ writer, awake.symm ▸ lines⟩
  | notifyWriter => exact ⟨awake.symm ▸ die, nofun, awake.symm ▸ writer, awake.symm ▸ lines⟩
  | die pc => exact ⟨die, stored, .inr rfl, lines⟩
  | goOn pc live => exact absurd (die.symm.trans live) nofun
  | join => exact ⟨die, nofun, writer, lines⟩
  | lock pc | timeOut pc | lockAgain pc | drained pc | pop _ _ pc | fputs _ pc | relock pc =>
      rw [pc] at writer
      simp at writer

end Steps

private theorem placed_new : QueuingLogSink.new.Placed := ⟨rfl, nofun, nofun, nofun⟩

/-- When the writer has been joined, what is not in the file is in the queue. -/
private theorem file_of_joined {s : QueuingLogSink} (placed : s.Placed)
    (joined : s.owner = .joined) :
    QueuingLogSink.written s.sent = s.file ++ QueuingLogSink.written s.toWriteQueue := by
  have conserved := placed.conserved
  unfold QueuingLogSink.Conserved at conserved
  have nothing : s.inHand = [] := by
    simp only [QueuingLogSink.inHand, placed.joined joined]
  rwa [nothing, List.map_nil, List.append_nil] at conserved

/-- The file has every line that was sent exactly when the queue is empty and `c_str` cut
none of them. -/
private theorem file_whole_iff {s : QueuingLogSink}
    (whole : QueuingLogSink.written s.sent =
      s.file ++ QueuingLogSink.written s.toWriteQueue) :
    s.file = QueuingLogSink.terminated s.sent ↔
      s.toWriteQueue = [] ∧ ∀ line ∈ s.sent, QueuingLogSink.NulFree line := by
  rw [← QueuingLogSink.written_eq_terminated_iff]
  constructor
  · intro equal
    have lengths := congrArg List.length whole
    rw [List.length_append, equal, QueuingLogSink.length_written, QueuingLogSink.length_written,
      QueuingLogSink.terminated, List.length_map] at lengths
    have empty : s.toWriteQueue = [] := List.eq_nil_of_length_eq_zero (by omega)
    refine ⟨empty, ?_⟩
    rw [whole, empty, equal]
    exact List.append_nil _
  · rintro ⟨empty, uncut⟩
    rw [← uncut, whole, empty]
    exact (List.append_nil _).symm

/-- Log lines are never duplicated or reordered: when the destructor has joined the
writer, the file is a prefix of what was sent, each line up to its first NUL. It is all of
what was sent exactly when the writer was not about to test `should_die_`, with lines in the
queue, at the moment at which the destructor set the flag, and no line has a NUL. -/
theorem lines_written_iff (linesToBuffer : ℕ) (events : List SinkEvent) (s : QueuingLogSink)
    (reached : run (QueuingLogSink.step linesToBuffer) .new events = some s)
    (joined : s.owner = .joined) :
    s.file <+: QueuingLogSink.written s.sent ∧
      (s.file = QueuingLogSink.terminated s.sent ↔
        Along (QueuingLogSink.step linesToBuffer) QueuingLogSink.StopsDrained .new events ∧
          ∀ line ∈ s.sent, QueuingLogSink.NulFree line) := by
  have placed : s.Placed := invariant
    (fun _ _ _ inv taken => placed_step inv (sinkStep_cases taken)) placed_new reached
  have whole := file_of_joined placed joined
  refine ⟨⟨_, whole.symm⟩, ?_⟩
  rw [file_whole_iff whole]
  refine and_congr_left fun _ => ⟨fun empty => ?_, fun stops => ?_⟩
  · refine along_iff.mpr fun before e after t split first stores testing => ?_
    subst stores
    by_contra lines
    rw [split] at reached
    obtain ⟨middle, same, later⟩ := run_append.mp reached
    obtain rfl : t = middle := Option.some.inj (first.symm.trans same)
    obtain ⟨u, taken, rest⟩ := run_cons.mp later
    have abandoned : u.Abandoned := by
      cases sinkStep_cases taken with
      | storeShouldDie running => exact ⟨rfl, nofun, .inl testing, lines⟩
    have left : s.Abandoned := invariant
      (fun _ _ _ inv taken => abandoned_step inv (sinkStep_cases taken)) abandoned rest
    exact left.lines empty
  · have drained := (invariant_along (I := fun s : QueuingLogSink => s.Placed ∧ s.Drained)
      (fun _ _ _ inv stops taken => ⟨placed_step inv.1 (sinkStep_cases taken),
        drained_step inv.1 inv.2 stops (sinkStep_cases taken)⟩)
      ⟨placed_new, nofun⟩ stops reached).2
    have die := placed.exited (placed.joined joined)
    exact drained die (.inr (placed.joined joined))

/-- A line is sent and the sink is destroyed before the writer thread runs at all. -/
def earlyDeath : List SinkEvent :=
  [.push "shutting down", .storeShouldDie, .notifyWriter, .testShouldDie, .join]

/-- The line is lost. -/
theorem earlyDeath_loses :
    ∃ s, run (QueuingLogSink.step 20) .new earlyDeath = some s ∧ s.owner = .joined ∧
      s.sent = ["shutting down"] ∧ s.file = [] :=
  ⟨_, rfl, rfl, rfl, rfl⟩

/-- The destructor runs while the writer waits. -/
def lateDeath : List SinkEvent :=
  [.push "starting", .testShouldDie, .lock, .push "shutting down", .storeShouldDie,
    .notifyWriter, .lockAgain, .pop, .fputs, .relock, .pop, .fputs, .relock, .pop,
    .testShouldDie, .join]

theorem lines_written_iff_lateDeath :
    ∃ s, run (QueuingLogSink.step 20) .new lateDeath = some s ∧ s.owner = .joined ∧
      s.file = QueuingLogSink.terminated s.sent ∧ s.sent = ["starting", "shutting down"] := by
  refine ⟨_, rfl, rfl, ?_, rfl⟩
  exact (lines_written_iff 20 lateDeath _ rfl rfl).2.mpr ⟨by decide, by decide⟩

end LinuxAgent.Logging
