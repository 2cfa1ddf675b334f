/- module: LinuxAgent/RequestListener/Listener
   source: request_listener/{ipc_request_listener,request_handler,socket_reply_channel}.cc,
     dattod/dattod.cc
   digest: The connection loop, with the handler and the jobs behind it, and its connections. -/

import LinuxAgent.Backup.JobStatus
import LinuxAgent.Backup.StartFailure
import LinuxAgent.RequestListener.Framing

/-!
One thread of `dattod` accepts connections and serves each of them to its end before it
takes the next one. `RequestHandler` calls the manager and the tracker from this thread,
and nobody else in the program does, so `StartBackup` and `StopBackup` have one caller.
The backup threads, the tracers and the main thread run beside it.

A connection is closed by the destructor of its `SocketReplyChannel`, however the body of
the loop is left. Connections are listed with the newest first; it is the one the loop
has in hand.

A write to a client that has gone raises SIGPIPE, which the program neither handles nor
blocks: the process is killed, with nothing logged, and no step follows. What the repository
takes from elsewhere is a parameter: `Protobuf` has the parser and the serializer of the
messages, and the result of each system call comes with its event. The parser is total
because the result of `ParseFromString` is not looked at.
-/

set_option autoImplicit false
set_option relaxedAutoImplicit false

namespace LinuxAgent.RequestListener

open LinuxAgent.Lib.Run LinuxAgent.Lib.ByteStream LinuxAgent.Backup

/-- A `Request`, with the part of it that the handler reads for its type. -/
inductive Request where
  | startBackup (request : StartBackupRequest)
  | stopBackup (jobUuid : String)
  | backupStatus (jobUuid : String)
  | other
  deriving DecidableEq

inductive Reply where
  | startBackup (jobUuid : String)
  | stopBackup
  | backupStatus (status : BackupStatus)
  | error (shortError : String)
  deriving DecidableEq

/-- `ParseFromString` of a request and `SerializeToFileDescriptor` of a reply. -/
structure Protobuf where
  parseFromString : List UInt8 → Request
  serialize : Reply → List UInt8

/-- What the handler made of a request. -/
structure Answer where
  request : Request
  reply : Reply
  deriving DecidableEq

/-- A connection that was accepted: the answer to its request once there is one, the bytes
that were written to it, and whether it is closed. `exception` is not in the code: the place
in the log of the exception that ended it. -/
structure Connection where
  answer : Option Answer
  written : List UInt8
  closed : Bool
  exception : Option ℕ
  deriving DecidableEq

/-- Where the listening thread is. While a call of the manager is under way, `calls` is the
number of calls that were answered before it. -/
inductive LoopPc where
  | testStop
  | poll
  | checkStop
  | getNewConnection
  | readProtobufRequest
  | handle (request : Request)
  | called (request : Request) (calls : ℕ)
  | sendReply (reply : Reply)
  | stopped
  deriving DecidableEq

/-- The listener, its connections, the exceptions that its loop has logged, whether the
process was killed by SIGPIPE, and the jobs. -/
structure Dattod where
  pc : LoopPc
  doStop : Bool
  started : Bool
  connections : List Connection
  log : List String
  killed : Bool
  service : JobService

/-- How `write` of the four bytes of the length ends: it returns how many of them it wrote,
or -1, or the client has gone. -/
inductive LengthWrite where
  | wrote (count : ℕ)
  | failed
  | brokenPipe
  deriving DecidableEq

/-- How `SerializeToFileDescriptor` ends: with all bytes written, with an error after some of
them, or the client has gone after some of them. -/
inductive MessageWrite where
  | wrote
  | failed (serialized : ℕ)
  | brokenPipe (serialized : ℕ)
  deriving DecidableEq

/-- How `SendReply` ends. -/
inductive SendEnd where
  | returned
  | threw (what : String)
  | killed
  deriving DecidableEq

/-- The steps of the listening thread, those of the threads behind the manager, and those
of the main thread. The bytes of a client are the ones it has sent by the end of the call,
and `ready` says how many of them each read finds. -/
inductive DattodEvent where
  | testStop
  | poll (result : ℤ)
  | checkStop
  | getNewConnection (succeeds : Bool)
  | readProtobufRequest (closed : Bool) (ready : ℕ → ℕ) (stream : List UInt8)
  | handle
  | returned
  | sendReply (length : LengthWrite) (message : MessageWrite)
  | service (e : ServiceEvent)
  | stop
  | destroyManager
  | cancelAll

def connectionIsReady (result : ℤ) : Except String Bool :=
  if result = -1 then .error "Poll failure"
  else if result = 0 then .ok false
  else if result = 1 then .ok true
  else .error "Unexpected branch"

/-- `SendReply`: the bytes that go out, and how it ends. Of the first call only the failure is
looked at, so the message follows a length that was written in part. -/
def sendReply (message : List UInt8) : LengthWrite → MessageWrite → List UInt8 × SendEnd
  | .failed, _ => ([], .threw "Error writing to socket fd")
  | .brokenPipe, _ => ([], .killed)
  | .wrote count, .wrote => ((bigEndian 4 message.length).take count ++ message, .returned)
  | .wrote count, .failed serialized =>
      ((bigEndian 4 message.length).take count ++ message.take serialized,
        .threw "Error sending over reply channel")
  | .wrote count, .brokenPipe serialized =>
      ((bigEndian 4 message.length).take count ++ message.take serialized, .killed)

/-- The reply to a call of the manager; an exception becomes an error reply. -/
def replyOf : ManagerReply → Reply
  | .started backupUuid => .startBackup backupUuid
  | .stopped _ => .stopBackup
  | .threw what => .error what

/-- The reply to a request for the status of a job. -/
def statusReply (jobUuid : String) : Option BackupStatus → Reply
  | some status => .backupStatus status
  | none => .error ("'" ++ jobUuid ++ "' doesn't exist")

/-- A call that only the listening thread or the main thread makes. -/
def isCall : ServiceEvent → Bool
  | .manager (.startBackup _) | .manager (.stopBackup _) => true
  | .manager .callDestructor | .manager .cancelAll => true
  | _ => false

/-- `write` does not write a part of the length only. -/
def DattodEvent.writesWholeLength : DattodEvent → Bool
  | .sendReply (.wrote count) _ => 4 ≤ count
  | _ => true

namespace Connection

def new : Connection := ⟨none, [], false, none⟩

/-- The message that the client is to get. -/
def promised (protobuf : Protobuf) (connection : Connection) : List UInt8 :=
  match connection.answer with
  | some answer => frame (protobuf.serialize answer.reply)
  | none => []

/-- The connection was closed without a reply, or with a part of it only. -/
def dropped (protobuf : Protobuf) (connection : Connection) : Bool :=
  connection.closed &&
    !(connection.answer.isSome && connection.written == connection.promised protobuf)

/-- The exceptions with which the service of the connection can end. -/
def exceptions (connection : Connection) : List String :=
  match connection.answer with
  | some _ => ["Error writing to socket fd", "Error sending over reply channel"]
  | none => ["Error during read from socket", "Message was too big", "Error reading request"]

end Connection

/-- Between `accept` and the destructor of the reply channel. -/
def LoopPc.inHand : LoopPc → Bool
  | .readProtobufRequest | .handle _ | .called _ _ | .sendReply _ => true
  | _ => false

namespace Dattod

/-- The listener as its constructor starts the thread. -/
def new : Dattod := ⟨.testStop, false, false, [], [], false, .new⟩

/-- The line after the `try`, and back to the condition of the loop. -/
def endIteration (d : Dattod) : Dattod := { d with pc := .testStop, started := true }

/-- The `catch` of the loop. -/
def caught (d : Dattod) (what : String) : Dattod :=
  { d with log := d.log ++ [what] }.endIteration

/-- A change of the connection in hand. -/
def changeNewest (d : Dattod) (change : Connection → Connection) : Dattod :=
  { d with connections := d.connections.modifyHead change }

/-- The connection in hand is closed by the destructor of its reply channel, or by the end of
the process. -/
def close (d : Dattod) : Dattod :=
  d.changeNewest fun connection => { connection with closed := true }

/-- The `catch` of the loop with a connection in hand. -/
def abandon (d : Dattod) (what : String) : Dattod :=
  (d.changeNewest fun connection =>
    { connection with closed := true, exception := some d.log.length }).caught what

def kill (d : Dattod) : Dattod := { d.close with pc := .stopped, killed := true }

def answer (d : Dattod) (request : Request) (reply : Reply) : Dattod :=
  { d.changeNewest (fun connection => { connection with answer := some ⟨request, reply⟩ }) with
    pc := .sendReply reply }

/-- A call of the manager, which is answered by the next entry of its replies. -/
def call (d : Dattod) (request : Request) (e : ManagerEvent) : Option Dattod :=
  (d.service.step (.manager e)).map fun service =>
    { d with service := service, pc := .called request d.service.manager.replies.length }

/-- `RequestHandler::Handle` up to its reply or to its call of the manager. -/
def handle (d : Dattod) : Request → Option Dattod
  | .startBackup request => d.call (.startBackup request) (.startBackup request)
  | .stopBackup jobUuid => d.call (.stopBackup jobUuid) (.stopBackup jobUuid)
  | .backupStatus jobUuid =>
      some (d.answer (.backupStatus jobUuid) (statusReply jobUuid (d.service.getReply jobUuid)))
  | .other => some (d.answer .other (.error "Not implemented"))

/-- A step of a process that is alive. -/
def turn (protobuf : Protobuf) (d : Dattod) : DattodEvent → Option Dattod
  | .testStop =>
      match d.pc with
      | .testStop => some { d with pc := if d.doStop then .stopped else .poll }
      | _ => none
  | .poll result =>
      match d.pc with
      | .poll =>
          match connectionIsReady result with
          | .ok true => some { d with pc := .checkStop }
          | .ok false => some d.endIteration
          | .error what => some (d.caught what)
      | _ => none
  | .checkStop =>
      match d.pc with
      | .checkStop => some { d with pc := if d.doStop then .stopped else .getNewConnection }
      | _ => none
  | .getNewConnection succeeds =>
      match d.pc with
      | .getNewConnection =>
          if succeeds then some
            { d with connections := .new :: d.connections, pc := .readProtobufRequest }
          else some (d.caught "Unable to accept connection")
      | _ => none
  | .readProtobufRequest closed ready stream =>
      match d.pc with
      | .readProtobufRequest =>
          match readProtobufRequest closed ready stream with
          | none => none
          | some (.ok message) => some { d with pc := .handle (protobuf.parseFromString message) }
          | some (.error what) => some (d.abandon what)
      | _ => none
  | .handle =>
      match d.pc with
      | .handle request => d.handle request
      | _ => none
  | .returned =>
      match d.pc with
      | .called request calls =>
          (d.service.manager.replies[calls]?).map fun reply => d.answer request (replyOf reply)
      | _ => none
  | .sendReply length message =>
      match d.pc with
      | .sendReply reply =>
          let (bytes, result) := sendReply (protobuf.serialize reply) length message
          let sent := d.changeNewest fun connection =>
            { connection with written := connection.written ++ bytes }
          match result with
          | .returned => some sent.close.endIteration
          | .threw what => some (sent.abandon what)
          | .killed => some sent.kill
      | _ => none
  | .service e =>
      if isCall e then none
      else (d.service.step e).map fun service => { d with service := service }
  | .stop => if d.started then some { d with doStop := true } else none
  | .destroyManager =>
      match d.pc with
      | .stopped => (d.service.step (.manager .callDestructor)).map fun service =>
          { d with service := service }
      | _ => none
  | .cancelAll =>
      (d.service.step (.manager .cancelAll)).map fun service => { d with service := service }

def step (protobuf : Protobuf) (d : Dattod) (e : DattodEvent) : Option Dattod :=
  if d.killed then none else d.turn protobuf e

end Dattod

/-- The steps of the loop while it has no connection, with what they log. -/
inductive Turns (doStop : Bool) : LoopPc → LoopPc → List String → Prop
  | ends (asked : doStop = true) : Turns doStop .testStop .stopped []
  | polls (going : doStop = false) : Turns doStop .testStop .poll []
  | ready : Turns doStop .poll .checkStop []
  | again (log : List String) : Turns doStop .poll .testStop log
  | breaks (asked : doStop = true) : Turns doStop .checkStop .stopped []
  | accepts (going : doStop = false) : Turns doStop .checkStop .getNewConnection []
  | fails (what : String) : Turns doStop .getNewConnection .testStop [what]

/-- The handler calls the manager for the request. -/
inductive Calls : Request → ManagerEvent → Prop
  | startBackup (request : StartBackupRequest) : Calls (.startBackup request) (.startBackup request)
  | stopBackup (jobUuid : String) : Calls (.stopBackup jobUuid) (.stopBackup jobUuid)

/-- Where the reply to a request comes from. -/
inductive Replies (d : Dattod) : Request → Reply → Prop
  | status (jobUuid : String) (here : d.pc = .handle (.backupStatus jobUuid)) :
      Replies d (.backupStatus jobUuid) (statusReply jobUuid (d.service.getReply jobUuid))
  | other (here : d.pc = .handle .other) : Replies d .other (.error "Not implemented")
  | returned (request : Request) (calls : ℕ) (answer : ManagerReply)
      (here : d.pc = .called request calls)
      (found : d.service.manager.replies[calls]? = some answer) :
      Replies d request (replyOf answer)

/-- How the service of the connection in hand ends: what becomes of the connection, what is
logged, and whether the process is killed. `whole` says that no part of a length was written. -/
inductive Ends (protobuf : Protobuf) (d : Dattod) (whole : Bool) :
    (Connection → Connection) → List String → Bool → Prop
  | refused (what : String) (here : d.pc = .readProtobufRequest)
      (known : what ∈ ["Error during read from socket", "Message was too big",
        "Error reading request"]) :
      Ends protobuf d whole (fun connection =>
        { connection with closed := true, exception := some d.log.length }) [what] false
  | replied (reply : Reply) (bytes : List UInt8) (here : d.pc = .sendReply reply)
      (all : whole = true → bytes = frame (protobuf.serialize reply)) :
      Ends protobuf d whole (fun connection =>
        { connection with written := connection.written ++ bytes, closed := true }) [] false
  | threw (reply : Reply) (bytes : List UInt8) (what : String) (here : d.pc = .sendReply reply)
      (part : whole = true → bytes <+: frame (protobuf.serialize reply))
      (known : what ∈ ["Error writing to socket fd", "Error sending over reply channel"]) :
      Ends protobuf d whole (fun connection =>
        { connection with
          written := connection.written ++ bytes
          closed := true
          exception := some d.log.length }) [what] false
  | killed (reply : Reply) (bytes : List UInt8) (here : d.pc = .sendReply reply)
      (part : whole = true → bytes <+: frame (protobuf.serialize reply)) :
      Ends protobuf d whole (fun connection =>
        { connection with written := connection.written ++ bytes, closed := true }) [] true

/-- What a step does. -/
inductive DattodStep (protobuf : Protobuf) (d t : Dattod) : DattodEvent → Prop
  | turned {e : DattodEvent} (next : LoopPc) (log : List String) (started : Bool)
      (turns : Turns d.doStop d.pc next log)
      (same : t = { d with pc := next, log := d.log ++ log, started := started }) :
      DattodStep protobuf d t e
  | accepted {e : DattodEvent} (here : d.pc = .getNewConnection)
      (same : t = { d with connections := .new :: d.connections, pc := .readProtobufRequest }) :
      DattodStep protobuf d t e
  | parsed {e : DattodEvent} (request : Request) (here : d.pc = .readProtobufRequest)
      (same : t = { d with pc := .handle request }) : DattodStep protobuf d t e
  | called (request : Request) (m : ManagerEvent) (here : d.pc = .handle request)
      (calls : Calls request m) (moved : d.service.step (.manager m) = some t.service)
      (same : t = { d with
        service := t.service
        pc := .called request d.service.manager.replies.length }) :
      DattodStep protobuf d t .handle
  | answered {e : DattodEvent} (request : Request) (reply : Reply)
      (replies : Replies d request reply) (same : t = d.answer request reply) :
      DattodStep protobuf d t e
  | finished {e : DattodEvent} (change : Connection → Connection) (log : List String)
      (killed : Bool) (ends : Ends protobuf d e.writesWholeLength change log killed)
      (same : t = { d.changeNewest change with
        pc := if killed then .stopped else .testStop
        started := d.started || !killed
        log := d.log ++ log
        killed := killed }) : DattodStep protobuf d t e
  | serviced (e : ServiceEvent) (inner : isCall e = false)
      (moved : d.service.step e = some t.service) (same : t = { d with service := t.service }) :
      DattodStep protobuf d t (.service e)
  | stopping (ready : d.started = true) (same : t = { d with doStop := true }) :
      DattodStep protobuf d t .stop
  | destroying (here : d.pc = .stopped)
      (moved : d.service.step (.manager .callDestructor) = some t.service)
      (same : t = { d with service := t.service }) : DattodStep protobuf d t .destroyManager
  | cancelling (moved : d.service.step (.manager .cancelAll) = some t.service)
      (same : t = { d with service := t.service }) : DattodStep protobuf d t .cancelAll

section Steps

variable {protobuf : Protobuf} {d t : Dattod}

/-- The errors that a read can throw. -/
private theorem readProtobufRequest_error {closed : Bool} {ready : ℕ → ℕ} {stream : List UInt8}
    {what : String} (failed : readProtobufRequest closed ready stream = some (.error what)) :
    what ∈ ["Error during read from socket", "Message was too big", "Error reading request"] := by
  unfold readProtobufRequest at failed
  dsimp only at failed
  split_ifs at failed
  · simp_all
  · simp_all
  · obtain ⟨messageBuf, _, result⟩ := Option.map_eq_some_iff.mp failed
    split_ifs at result
    simp_all

/-- Bytes go out in the order of the frame, unless the length was written in part. -/
private theorem sendReply_part {reply : List UInt8} {length : LengthWrite}
    {message : MessageWrite}
    (whole : (DattodEvent.sendReply length message).writesWholeLength = true) :
    (sendReply reply length message).1 <+: frame reply := by
  cases length with
  | failed => exact List.nil_prefix
  | brokenPipe => exact List.nil_prefix
  | wrote count =>
      have all : (bigEndian 4 reply.length).take count = bigEndian 4 reply.length := by
        apply List.take_of_length_le
        simpa [DattodEvent.writesWholeLength] using whole
      cases message with
      | wrote => rw [sendReply, all, frame]
      | failed serialized | brokenPipe serialized =>
          rw [sendReply, all, frame]
          exact (List.prefix_append_right_inj _).mpr (List.take_prefix serialized reply)

private theorem sendReply_whole {reply : List UInt8} {length : LengthWrite}
    {message : MessageWrite} (returns : (sendReply reply length message).2 = .returned)
    (whole : (DattodEvent.sendReply length message).writesWholeLength = true) :
    (sendReply reply length message).1 = frame reply := by
  cases length with
  | failed => cases returns
  | brokenPipe => cases returns
  | wrote count =>
      cases message with
      | failed serialized | brokenPipe serialized => cases returns
      | wrote =>
          rw [sendReply, frame, List.take_of_length_le]
          simpa [DattodEvent.writesWholeLength] using whole

private theorem sendReply_error {reply : List UInt8} {length : LengthWrite}
    {message : MessageWrite} {what : String}
    (threw : (sendReply reply length message).2 = .threw what) :
    what ∈ ["Error writing to socket fd", "Error sending over reply channel"] := by
  cases length with
  | brokenPipe => cases threw
  | failed =>
      obtain rfl := SendEnd.threw.inj threw
      simp
  | wrote count =>
      cases message with
      | wrote => cases threw
      | brokenPipe serialized => cases threw
      | failed serialized =>
          obtain rfl := SendEnd.threw.inj threw
          simp

private theorem changeNewest_changeNewest (d : Dattod) (first second : Connection → Connection) :
    (d.changeNewest first).changeNewest second = d.changeNewest (second ∘ first) := by
  simp only [Dattod.changeNewest, List.modifyHead_modifyHead]

private theorem handle_cases {request : Request} (here : d.pc = .handle request)
    (taken : d.handle request = some t) : DattodStep protobuf d t .handle := by
  cases request with
  | startBackup request =>
      simp only [Dattod.handle, Dattod.call] at taken
      obtain ⟨service, moved, rfl⟩ := Option.map_eq_some_iff.mp taken
      exact .called _ _ here (.startBackup request) moved rfl
  | stopBackup jobUuid =>
      simp only [Dattod.handle, Dattod.call] at taken
      obtain ⟨service, moved, rfl⟩ := Option.map_eq_some_iff.mp taken
      exact .called _ _ here (.stopBackup jobUuid) moved rfl
  | backupStatus jobUuid =>
      exact .answered _ _ (.status jobUuid here) (Option.some.inj taken).symm
  | other => exact .answered _ _ (.other here) (Option.some.inj taken).symm

private theorem sendReply_cases {reply : Reply} {length : LengthWrite} {message : MessageWrite}
    (alive : d.killed = false) (here : d.pc = .sendReply reply)
    (taken : d.turn protobuf (.sendReply length message) = some t) :
    DattodStep protobuf d t (.sendReply length message) := by
  have part : (DattodEvent.sendReply length message).writesWholeLength = true →
      (sendReply (protobuf.serialize reply) length message).1 <+:
        frame (protobuf.serialize reply) := sendReply_part
  simp only [Dattod.turn, here, Dattod.close, Dattod.abandon, Dattod.kill,
    changeNewest_changeNewest] at taken
  split at taken
  · rename_i returns
    obtain rfl := Option.some.inj taken
    refine .finished _ [] false (.replied reply _ here (sendReply_whole returns)) ?_
    simp [Dattod.endIteration, Dattod.changeNewest, Function.comp_def, alive]
  · rename_i what threw
    obtain rfl := Option.some.inj taken
    refine .finished _ [what] false (.threw reply _ what here part (sendReply_error threw)) ?_
    simp [Dattod.endIteration, Dattod.changeNewest, Dattod.caught, Function.comp_def, alive]
  · obtain rfl := Option.some.inj taken
    refine .finished _ [] true (.killed reply _ here part) ?_
    simp [Dattod.changeNewest, Function.comp_def]

theorem alive_of_step {e : DattodEvent} (taken : d.step protobuf e = some t) :
    d.killed = false ∧ d.turn protobuf e = some t := by
  unfold Dattod.step at taken
  split_ifs at taken with killed
  exact ⟨by simpa using killed, taken⟩

theorem dattod_step_cases {e : DattodEvent} (taken : d.step protobuf e = some t) :
    DattodStep protobuf d t e := by
  have alive := (alive_of_step taken).1
  replace taken := (alive_of_step taken).2
  cases e with
  | testStop =>
      simp only [Dattod.turn] at taken
      split at taken
      · rename_i here
        obtain rfl := Option.some.inj taken
        cases asked : d.doStop with
        | true => exact .turned .stopped [] d.started (here ▸ .ends asked) (by simp [asked])
        | false => exact .turned .poll [] d.started (here ▸ .polls asked) (by simp [asked])
      · cases taken
  | poll result =>
      simp only [Dattod.turn] at taken
      split at taken
      · rename_i here
        split at taken <;> obtain rfl := Option.some.inj taken
        · exact .turned .checkStop [] d.started (here ▸ .ready) (by simp)
        · exact .turned .testStop [] true (here ▸ .again []) (by simp [Dattod.endIteration])
        · rename_i what _
          exact .turned .testStop [what] true (here ▸ .again [what]) rfl
      · cases taken
  | checkStop =>
      simp only [Dattod.turn] at taken
      split at taken
      · rename_i here
        obtain rfl := Option.some.inj taken
        cases asked : d.doStop with
        | true => exact .turned .stopped [] d.started (here ▸ .breaks asked) (by simp [asked])
        | false =>
            exact .turned .getNewConnection [] d.started (here ▸ .accepts asked) (by simp [asked])
      · cases taken
  | getNewConnection succeeds =>
      simp only [Dattod.turn] at taken
      split at taken
      · rename_i here
        split_ifs at taken <;> obtain rfl := Option.some.inj taken
        · exact .accepted here rfl
        · exact .turned .testStop _ true (here ▸ .fails _) rfl
      · cases taken
  | readProtobufRequest closed ready stream =>
      simp only [Dattod.turn] at taken
      split at taken
      · rename_i here
        split at taken
        · cases taken
        · exact .parsed _ here (Option.some.inj taken).symm
        · rename_i what failed
          obtain rfl := Option.some.inj taken
          refine .finished _ [what] false
            (.refused what here (readProtobufRequest_error failed)) ?_
          simp [Dattod.abandon, Dattod.caught, Dattod.endIteration, Dattod.changeNewest, alive]
      · cases taken
  | handle =>
      simp only [Dattod.turn] at taken
      split at taken
      · exact handle_cases ‹_› taken
      · cases taken
  | returned =>
      simp only [Dattod.turn] at taken
      split at taken
      · rename_i request calls here
        obtain ⟨answer, found, rfl⟩ := Option.map_eq_some_iff.mp taken
        exact .answered request _ (.returned request calls answer here found) rfl
      · cases taken
  | sendReply length message =>
      cases here : d.pc with
      | sendReply reply => exact sendReply_cases alive here taken
      | _ => simp [Dattod.turn, here] at taken
  | service e =>
      simp only [Dattod.turn] at taken
      split_ifs at taken with inner
      obtain ⟨service, moved, rfl⟩ := Option.map_eq_some_iff.mp taken
      exact .serviced e (by simpa using inner) moved rfl
  | stop =>
      simp only [Dattod.turn] at taken
      split_ifs at taken with ready
      exact .stopping ready (Option.some.inj taken).symm
  | destroyManager =>
      simp only [Dattod.turn] at taken
      split at taken
      · rename_i here
        obtain ⟨service, moved, rfl⟩ := Option.map_eq_some_iff.mp taken
        exact .destroying here moved rfl
      · cases taken
  | cancelAll =>
      obtain ⟨service, moved, rfl⟩ := Option.map_eq_some_iff.mp taken
      exact .cancelling moved rfl

end Steps

/-- The newest connection while the loop serves it. -/
structure Serves (pc : LoopPc) (connection : Connection) : Prop where
  inHand : pc.inHand = true
  opened : connection.closed = false
  unwritten : connection.written = []
  undisturbed : connection.exception = none
  awaits : ∀ reply, pc = .sendReply reply →
    ∃ request, connection.answer = some ⟨request, reply⟩
  unanswered : (∀ reply, pc ≠ .sendReply reply) → connection.answer = none

/-- Every connection but the one in hand is closed. -/
inductive Tidy (pc : LoopPc) : List Connection → Prop
  | idle {connections : List Connection} (free : pc.inHand = false)
      (closed : ∀ connection ∈ connections, connection.closed = true) : Tidy pc connections
  | busy {connection : Connection} {older : List Connection} (serves : Serves pc connection)
      (closed : ∀ connection ∈ older, connection.closed = true) : Tidy pc (connection :: older)

/-- The exception that ended the connection is in the log. -/
def Connection.Logged (log : List String) (connection : Connection) : Prop :=
  ∃ index what, connection.exception = some index ∧ log[index]? = some what ∧
    what ∈ connection.exceptions

/-- What a step does to the connections and to the log. -/
inductive ConnectionStep (protobuf : Protobuf) (whole : Bool) (d t : Dattod) : Prop
  | idle (log : List String) (before : d.pc.inHand = false) (after : t.pc.inHand = false)
      (connections : t.connections = d.connections) (logged : t.log = d.log ++ log)
      (killed : t.killed = d.killed)
  | accepted (before : d.pc.inHand = false) (serves : Serves t.pc .new)
      (connections : t.connections = .new :: d.connections) (logged : t.log = d.log)
      (killed : t.killed = d.killed)
  | kept (change : Connection → Connection) (busy : d.pc.inHand = true)
      (keeps : ∀ connection, Serves d.pc connection → Serves t.pc (change connection))
      (connections : t.connections = d.connections.modifyHead change) (logged : t.log = d.log)
      (killed : t.killed = d.killed)
  | finished (change : Connection → Connection) (log : List String) (killed : Bool)
      (ends : Ends protobuf d whole change log killed) (after : t.pc.inHand = false)
      (connections : t.connections = d.connections.modifyHead change)
      (logged : t.log = d.log ++ log) (fate : t.killed = killed)
  | beside (pc : t.pc = d.pc) (connections : t.connections = d.connections)
      (logged : t.log = d.log) (killed : t.killed = d.killed)

/-- What the connections have to do with each other, in every run. -/
structure Tended (d : Dattod) : Prop where
  tidy : Tidy d.pc d.connections
  inside : ∀ connection ∈ d.connections, ∀ index, connection.exception = some index →
    index < d.log.length
  ordered : d.connections.Pairwise fun newer older => ∀ i j,
    newer.exception = some i → older.exception = some j → j < i

/-- What the clients got, and what was logged instead, when no part of a length is written. -/
structure Accounted (protobuf : Protobuf) (d : Dattod) : Prop where
  faithful : ∀ connection ∈ d.connections, connection.written <+: connection.promised protobuf
  logged : ∀ connection ∈ d.connections.drop d.killed.toNat,
    connection.dropped protobuf = true → connection.Logged d.log

section Connections

variable {protobuf : Protobuf} {d t : Dattod}

private theorem inHand_of_turns {doStop : Bool} {pc next : LoopPc} {log : List String}
    (turns : Turns doStop pc next log) : pc.inHand = false ∧ next.inHand = false := by
  cases turns <;> exact ⟨rfl, rfl⟩

/-- With a connection in hand, it is the newest one. -/
theorem newest_of_busy {pc : LoopPc} {connections : List Connection}
    (tidy : Tidy pc connections) (busy : pc.inHand = true) :
    ∃ connection older, connections = connection :: older ∧ Serves pc connection ∧
      ∀ connection ∈ older, connection.closed = true := by
  cases tidy with
  | idle free => rw [free] at busy; cases busy
  | busy serves closed => exact ⟨_, _, rfl, serves, closed⟩

private theorem closed_of_free {pc : LoopPc} {connections : List Connection}
    (tidy : Tidy pc connections) (free : pc.inHand = false) :
    ∀ connection ∈ connections, connection.closed = true := by
  cases tidy with
  | idle _ closed => exact closed
  | busy serves => rw [serves.inHand] at free; cases free

private theorem dropped_of_opened {connection : Connection} (opened : connection.closed = false) :
    connection.dropped protobuf = false := by
  rw [Connection.dropped, opened, Bool.false_and]

/-- An entry of the log stays where it is. -/
private theorem Connection.Logged.mono {connection : Connection} {log : List String}
    (logged : connection.Logged log) (more : List String) : connection.Logged (log ++ more) := by
  obtain ⟨index, what, here, found, known⟩ := logged
  have inside := (List.getElem?_eq_some_iff.mp found).1
  exact ⟨index, what, here, by rw [List.getElem?_append_left inside, found], known⟩

/-- The last entry of the log, for the connection that it is about. -/
private theorem logged_last {connection : Connection} {log : List String} {what : String}
    (here : connection.exception = some log.length) (known : what ∈ connection.exceptions) :
    connection.Logged (log ++ [what]) :=
  ⟨log.length, what, here, by simp, known⟩

/-- The service ends in one of the two calls that talk to the client. -/
theorem Ends.place {whole killed : Bool} {change : Connection → Connection} {log : List String}
    (ends : Ends protobuf d whole change log killed) :
    d.pc = .readProtobufRequest ∨ ∃ reply, d.pc = .sendReply reply := by
  cases ends with
  | refused what here => exact .inl here
  | replied reply bytes here | threw reply bytes what here | killed reply bytes here =>
      exact .inr ⟨reply, here⟩

theorem Ends.busy {whole killed : Bool} {change : Connection → Connection} {log : List String}
    (ends : Ends protobuf d whole change log killed) : d.pc.inHand = true := by
  rcases ends.place with here | ⟨reply, here⟩ <;> rw [here] <;> rfl

theorem Ends.not_called {whole killed : Bool} {change : Connection → Connection}
    {log : List String} (ends : Ends protobuf d whole change log killed) (request : Request)
    (calls : ℕ) : d.pc ≠ .called request calls := by
  rcases ends.place with here | ⟨reply, here⟩ <;> simp [here]

/-- The answer of a connection does not change with its end. -/
theorem Ends.answer {whole killed : Bool} {change : Connection → Connection} {log : List String}
    (ends : Ends protobuf d whole change log killed) (connection : Connection) :
    (change connection).answer = connection.answer := by
  cases ends <;> rfl

/-- The connection in hand is closed, and refers to the entry that is logged, if any. -/
private theorem Ends.closed {whole killed : Bool} {change : Connection → Connection}
    {log : List String} (ends : Ends protobuf d whole change log killed)
    {connection : Connection} (undisturbed : connection.exception = none) :
    (change connection).closed = true ∧ ∀ index, (change connection).exception = some index →
      index = d.log.length ∧ 1 ≤ log.length := by
  cases ends with
  | refused what | threw reply bytes what =>
      refine ⟨rfl, fun index same => ⟨(Option.some.inj same).symm, le_refl 1⟩⟩
  | replied reply bytes | killed reply bytes =>
      refine ⟨rfl, fun index same => ?_⟩
      cases undisturbed.symm.trans same

/-- The client got a part of its reply, and an exception is logged unless it got all of it or
the process was killed. -/
private theorem Ends.accounted {killed : Bool} {change : Connection → Connection}
    {log : List String} (ends : Ends protobuf d true change log killed) {connection : Connection}
    (serves : Serves d.pc connection) :
    (change connection).written <+: (change connection).promised protobuf ∧
      (killed = false → (change connection).dropped protobuf = true →
        (change connection).Logged (d.log ++ log)) := by
  cases ends with
  | refused what here known =>
      have silent : connection.answer = none := serves.unanswered (by simp [here])
      refine ⟨?_, fun _ _ => logged_last rfl ?_⟩
      · rw [serves.unwritten]
        exact List.nil_prefix
      · simpa only [Connection.exceptions, silent] using known
  | replied reply bytes here all =>
      obtain ⟨request, promised⟩ := serves.awaits reply here
      have whole : bytes = frame (protobuf.serialize reply) := all rfl
      refine ⟨?_, fun _ lost => ?_⟩
      · simp [Connection.promised, promised, serves.unwritten, whole]
      · simp [Connection.dropped, Connection.promised, promised, serves.unwritten, whole] at lost
  | threw reply bytes what here part known =>
      obtain ⟨request, promised⟩ := serves.awaits reply here
      refine ⟨?_, fun _ _ => logged_last rfl ?_⟩
      · simpa [Connection.promised, promised, serves.unwritten] using part rfl
      · simpa only [Connection.exceptions, promised] using known
  | killed reply bytes here part =>
      obtain ⟨request, promised⟩ := serves.awaits reply here
      refine ⟨?_, fun alive => by cases alive⟩
      simpa [Connection.promised, promised, serves.unwritten] using part rfl

private theorem busy_of_replies {request : Request} {reply : Reply}
    (replies : Replies d request reply) : d.pc.inHand = true := by
  cases replies with
  | status jobUuid here => rw [here]; rfl
  | other here => rw [here]; rfl
  | returned request calls answer here found => rw [here]; rfl

/-- A step after which the loop has its connection still, without an answer. -/
private theorem serves_on {pc next : LoopPc} {connection : Connection}
    (serves : Serves pc connection) (waits : ∀ reply, pc ≠ .sendReply reply)
    (busy : next.inHand = true) (waits' : ∀ reply, next ≠ .sendReply reply) :
    Serves next connection :=
  ⟨busy, serves.opened, serves.unwritten, serves.undisturbed,
    fun reply here => absurd here (waits' reply), fun _ => serves.unanswered waits⟩

theorem connection_step {e : DattodEvent} (taken : d.step protobuf e = some t) :
    ConnectionStep protobuf e.writesWholeLength d t := by
  cases dattod_step_cases taken with
  | turned next log started turns same =>
      obtain ⟨before, after⟩ := inHand_of_turns turns
      subst same
      exact .idle log before after rfl rfl rfl
  | accepted here same =>
      subst same
      exact .accepted (by rw [here]; rfl) ⟨rfl, rfl, rfl, rfl, by simp, fun _ => rfl⟩ rfl rfl rfl
  | parsed request here same | called request _ here _ _ same =>
      refine .kept id (by rw [here]; rfl) (fun connection serves => ?_)
        (by rw [same, List.modifyHead_id]; rfl) (by rw [same]) (by rw [same])
      rw [same]
      exact serves_on serves (by simp [here]) rfl (by simp)
  | answered request reply replies same =>
      subst same
      refine .kept _ (busy_of_replies replies) (fun connection serves => ?_) rfl rfl rfl
      refine ⟨rfl, serves.opened, serves.unwritten, serves.undisturbed,
        fun other here => ⟨request, ?_⟩, fun unsent => absurd rfl (unsent reply)⟩
      obtain rfl := LoopPc.sendReply.inj here
      rfl
  | finished change log killed ends same =>
      subst same
      refine .finished change log killed ends ?_ rfl rfl rfl
      cases killed <;> rfl
  | serviced _ _ _ same | stopping _ same | destroying _ _ same | cancelling _ same =>
      rw [same]
      exact .beside rfl rfl rfl rfl

private theorem tended_step {e : DattodEvent} (inv : Tended d)
    (taken : d.step protobuf e = some t) : Tended t := by
  obtain ⟨tidy, inside, ordered⟩ := inv
  cases connection_step taken with
  | idle log before after connections logged killed =>
      refine ⟨?_, ?_, ?_⟩
      · rw [connections]
        exact .idle after (closed_of_free tidy before)
      · rw [connections, logged, List.length_append]
        exact fun connection member index here =>
          Nat.lt_add_right _ (inside connection member index here)
      · rw [connections]
        exact ordered
  | accepted before serves connections logged killed =>
      refine ⟨?_, ?_, ?_⟩
      · rw [connections]
        exact .busy serves (closed_of_free tidy before)
      · rw [connections, logged, List.forall_mem_cons]
        exact ⟨by simp [Connection.new], inside⟩
      · rw [connections, List.pairwise_cons]
        exact ⟨by simp [Connection.new], ordered⟩
  | kept change busy keeps connections logged killed =>
      obtain ⟨connection, older, listed, serves, closed⟩ := newest_of_busy tidy busy
      have next := keeps connection serves
      rw [listed, List.modifyHead_cons] at connections
      rw [listed, List.forall_mem_cons] at inside
      rw [listed, List.pairwise_cons] at ordered
      refine ⟨?_, ?_, ?_⟩
      · rw [connections]
        exact .busy next closed
      · rw [connections, logged, List.forall_mem_cons, next.undisturbed]
        exact ⟨by simp, inside.2⟩
      · rw [connections, List.pairwise_cons, next.undisturbed]
        exact ⟨by simp, ordered.2⟩
  | finished change log killed ends after connections logged fate =>
      obtain ⟨connection, older, listed, serves, closed⟩ := newest_of_busy tidy ends.busy
      obtain ⟨shut, last⟩ := ends.closed serves.undisturbed
      rw [listed, List.modifyHead_cons] at connections
      rw [listed, List.forall_mem_cons] at inside
      rw [listed, List.pairwise_cons] at ordered
      refine ⟨?_, ?_, ?_⟩
      · rw [connections]
        refine .idle after ?_
        rw [List.forall_mem_cons]
        exact ⟨shut, closed⟩
      · rw [connections, logged, List.forall_mem_cons, List.length_append]
        refine ⟨fun index here => ?_, fun other member index here => ?_⟩
        · obtain ⟨rfl, one⟩ := last index here
          omega
        · exact Nat.lt_add_right _ (inside.2 other member index here)
      · rw [connections, List.pairwise_cons]
        refine ⟨fun other member i j newer before => ?_, ordered.2⟩
        obtain ⟨rfl, _⟩ := last i newer
        exact inside.2 other member j before
  | beside pc connections logged killed =>
      refine ⟨?_, ?_, ?_⟩
      · rw [pc, connections]
        exact tidy
      · rw [connections, logged]
        exact inside
      · rw [connections]
        exact ordered

private theorem tended_new : Tended .new :=
  ⟨.idle rfl (by simp [Dattod.new]), by simp [Dattod.new], by simp [Dattod.new]⟩

theorem tended_run {events : List DattodEvent}
    (reached : run (Dattod.step protobuf) .new events = some d) : Tended d :=
  invariant (fun _ _ _ inv taken => tended_step inv taken) tended_new reached

/-- As long as the process is alive, nothing is exempt from the log. -/
private theorem logged_of_alive {log : List String} {connections : List Connection}
    (alive : t.killed = false) (listed : t.connections = connections) (said : t.log = log)
    (logged : ∀ connection ∈ connections, connection.dropped protobuf = true →
      connection.Logged log) :
    ∀ connection ∈ t.connections.drop t.killed.toNat, connection.dropped protobuf = true →
      connection.Logged t.log := by
  rwa [alive, Bool.toNat_false, List.drop_zero, listed, said]

private theorem accounted_step {e : DattodEvent} (tended : Tended d) (inv : Accounted protobuf d)
    (whole : e.writesWholeLength = true) (taken : d.step protobuf e = some t) :
    Accounted protobuf t := by
  have alive := (alive_of_step taken).1
  obtain ⟨faithful, logged⟩ := inv
  rw [alive, Bool.toNat_false, List.drop_zero] at logged
  have step := connection_step taken
  rw [whole] at step
  cases step with
  | idle log _ _ connections said killed =>
      refine ⟨by rwa [connections], logged_of_alive (killed.trans alive) connections said ?_⟩
      exact fun connection member lost => (logged connection member lost).mono log
  | beside _ connections said killed =>
      exact ⟨by rwa [connections], logged_of_alive (killed.trans alive) connections said logged⟩
  | accepted _ serves connections said killed =>
      refine ⟨?_, logged_of_alive (killed.trans alive) connections said ?_⟩
      · rw [connections, List.forall_mem_cons]
        exact ⟨List.nil_prefix, faithful⟩
      · rw [List.forall_mem_cons, dropped_of_opened serves.opened]
        exact ⟨by simp, logged⟩
  | kept change busy keeps connections said killed =>
      obtain ⟨connection, older, listed, serves, _⟩ := newest_of_busy tended.tidy busy
      have next := keeps connection serves
      rw [listed, List.modifyHead_cons] at connections
      rw [listed, List.forall_mem_cons] at faithful logged
      refine ⟨?_, logged_of_alive (killed.trans alive) connections said ?_⟩
      · rw [connections, List.forall_mem_cons, next.unwritten]
        exact ⟨List.nil_prefix, faithful.2⟩
      · rw [List.forall_mem_cons, dropped_of_opened next.opened]
        exact ⟨by simp, logged.2⟩
  | finished change log killed ends _ connections said fate =>
      obtain ⟨connection, older, listed, serves, _⟩ := newest_of_busy tended.tidy ends.busy
      obtain ⟨part, explained⟩ := ends.accounted serves
      rw [listed, List.modifyHead_cons] at connections
      rw [listed, List.forall_mem_cons] at faithful logged
      have earlier : ∀ connection ∈ older, connection.dropped protobuf = true →
          connection.Logged (d.log ++ log) :=
        fun connection member lost => (logged.2 connection member lost).mono log
      refine ⟨?_, ?_⟩
      · rw [connections, List.forall_mem_cons]
        exact ⟨part, faithful.2⟩
      · cases killed with
        | true =>
            rw [connections, said, fate]
            exact earlier
        | false =>
            refine logged_of_alive fate connections said ?_
            rw [List.forall_mem_cons]
            exact ⟨explained rfl, earlier⟩

/-- A process that was killed is at its end. -/
theorem stopped_of_killed {events : List DattodEvent}
    (reached : run (Dattod.step protobuf) .new events = some d) (killed : d.killed = true) :
    d.pc = .stopped := by
  refine invariant (I := fun d : Dattod => d.killed = true → d.pc = .stopped) ?_
    (fun gone => by cases gone) reached killed
  intro s e t _ taken gone
  have alive := (alive_of_step taken).1
  have not_same (same : t.killed = s.killed) : t.pc = .stopped := by
    rw [same, alive] at gone
    cases gone
  cases dattod_step_cases taken with
  | finished change log killed ends same =>
      subst same
      simp only at gone
      simp [gone]
  | turned _ _ _ _ same | accepted _ same | parsed _ _ same | called _ _ _ _ _ same
  | serviced _ _ _ same | stopping _ same | destroying _ _ same | cancelling _ same =>
      exact not_same (by rw [same])
  | answered _ _ _ same => exact not_same (by rw [same]; rfl)

end Connections

/-- Messages of one byte: a status request, and the type of a reply. -/
def oneByte : Protobuf where
  parseFromString
    | [1] => .startBackup ⟨[⟨"1b2c", "host", 1⟩], true⟩
    | [2] => .backupStatus "job-1"
    | _ => .other
  serialize
    | .startBackup _ => [1]
    | .backupStatus _ => [2]
    | _ => [0]

/-- The steps of the loop around the handler. -/
def served (message : List UInt8) (steps : List DattodEvent) (length : LengthWrite) :
    List DattodEvent :=
  [.testStop, .poll 1, .checkStop, .getNewConnection true,
    .readProtobufRequest false (fun _ => 9) (frame message), .handle] ++ steps ++
    [.sendReply length .wrote]

/-- A backup is started, the reply to a second client cannot be written for want of memory,
a third client sends a part of its length, and a fourth one has gone when it gets its reply. -/
def fourClients : List DattodEvent :=
  served [1] [.service (.manager (.lock 0 "job-1")), .service (.manager .addToInProgressSet),
    .service (.manager (.createBackup twoDisks)), .returned] (.wrote 4) ++
  served [2] [] .failed ++
  [.testStop, .poll 1, .checkStop, .getNewConnection true,
    .readProtobufRequest false (fun _ => 3) (frame [2])] ++
  served [2] [] .brokenPipe

end LinuxAgent.RequestListener
