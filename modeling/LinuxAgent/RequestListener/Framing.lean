/- module: LinuxAgent/RequestListener/Framing
   source: request_listener/ipc_request_listener.cc (ReadProtobufRequest),
     dattolib/__init__.py (make_request_to_dattod), dattonet.in (handle_connection)
   digest: The three receivers of a length-framed message, for every cut of the stream. -/

import LinuxAgent.Lib.ByteStream

/-!
A message goes over a socket behind its length in network byte order. Each receiver reads
the length with one call. `dattod` reads the message with `MSG_WAITALL`, which waits for
all of it, and for the next byte behind a message that is empty; the two receivers in Python
take what one `recv` returns, and theirs of no byte returns at once.

The result of a receiver is the string that it gives to `ParseFromString`, or the
exception that it raises before. The stream is what the sender has sent by the end of the
calls, and `closed` says whether the sender has closed its end.
-/

set_option autoImplicit false
set_option relaxedAutoImplicit false

namespace LinuxAgent.RequestListener

open LinuxAgent.Lib.ByteStream

/-- The length and the message, as PROTOCOL.md has it. -/
def frame (message : List UInt8) : List UInt8 := bigEndian 4 message.length ++ message

/-- The largest message that `dattod` takes. -/
def maxMessageLength : ℕ := 1 * 1024 * 1024

/-- `ReadProtobufRequest`, `none` as long as its second call waits. Only the end of the
stream makes that one short. -/
def readProtobufRequest (closed : Bool) (ready : ℕ → ℕ) (stream : List UInt8) :
    Option (Except String (List UInt8)) :=
  let length := received 4 (ready 0) stream
  if length.length ≠ 4 then some (.error "Error during read from socket")
  else
    let messageLength := ofBigEndian length
    if messageLength > maxMessageLength then some (.error "Message was too big")
    else (receivedAll closed messageLength (unread 4 (ready 0) stream)).map fun messageBuf =>
      if messageBuf.length ≠ messageLength then .error "Error reading request"
      else .ok messageBuf

/-- The lines that both receivers in Python have: `struct.unpack('!I', ...)` of one `recv`,
and another `recv` of that length. -/
def recvMessage (ready : ℕ → ℕ) (stream : List UInt8) : Except String (List UInt8) :=
  let length := received 4 (ready 0) stream
  if length.length ≠ 4 then .error "unpack requires a string argument of length 4"
  else .ok (received (ofBigEndian length) (ready 1) (unread 4 (ready 0) stream))

/-- The reply that `make_request_to_dattod` parses. -/
def makeRequestToDattod (ready : ℕ → ℕ) (stream : List UInt8) : Except String (List UInt8) :=
  recvMessage ready stream

/-- The request that `handle_connection` parses. -/
def handleConnection (ready : ℕ → ℕ) (stream : List UInt8) : Except String (List UInt8) :=
  recvMessage ready stream

section Receivers

variable {message rest : List UInt8} {closed : Bool} {ready : ℕ → ℕ}

private theorem length_fits (short : message.length ≤ maxMessageLength) :
    message.length < 256 ^ 4 :=
  lt_of_le_of_lt short (by decide)

/-- A length that arrives whole is the length of the message. -/
private theorem received_length (enough : 4 ≤ ready 0) :
    received 4 (ready 0) (frame message ++ rest) = bigEndian 4 message.length := by
  rw [frame, List.append_assoc, received_append (length_bigEndian 4 _) enough]

private theorem unread_length (enough : 4 ≤ ready 0) :
    unread 4 (ready 0) (frame message ++ rest) = message ++ rest := by
  rw [frame, List.append_assoc, unread_append (length_bigEndian 4 _) enough]

private theorem length_short (cut : ¬ 4 ≤ ready 0) :
    (received 4 (ready 0) (frame message ++ rest)).length ≠ 4 := by
  rw [length_received]
  omega

theorem readProtobufRequest_frame (short : message.length ≤ maxMessageLength) :
    readProtobufRequest closed ready (frame message ++ rest) =
      if 4 ≤ ready 0 then
        if message ≠ [] ∨ rest ≠ [] ∨ closed = true then some (.ok message) else none
      else some (.error "Error during read from socket") := by
  unfold readProtobufRequest
  by_cases enough : 4 ≤ ready 0
  · simp only [received_length enough, unread_length enough, length_bigEndian,
      ofBigEndian_bigEndian 4 _ (length_fits short), receivedAll_append, if_pos enough]
    rw [if_neg (by simp), if_neg (not_lt.mpr short)]
    split_ifs with returns
    · simp
    · rfl
  · rw [if_neg enough]
    exact if_pos (length_short enough)

theorem recvMessage_frame (short : message.length ≤ maxMessageLength) :
    recvMessage ready (frame message ++ rest) =
      if 4 ≤ ready 0 then .ok (message.take (ready 1))
      else .error "unpack requires a string argument of length 4" := by
  unfold recvMessage
  split_ifs with enough
  · have part : received message.length (ready 1) (message ++ rest) = message.take (ready 1) := by
      rw [received, List.take_append_of_le_length (min_le_left _ _), min_comm, ← List.take_take,
        List.take_length]
    simp only [received_length enough, unread_length enough, length_bigEndian,
      ofBigEndian_bigEndian 4 _ (length_fits short), part]
    rw [if_neg (by simp)]
  · exact if_pos (length_short enough)

private theorem recvMessage_eq_ok_iff (short : message.length ≤ maxMessageLength) :
    recvMessage ready (frame message ++ rest) = .ok message ↔
      4 ≤ ready 0 ∧ message.length ≤ ready 1 := by
  rw [recvMessage_frame short]
  split_ifs with enough
  · rw [Except.ok.injEq]
    refine ⟨fun all => ⟨enough, ?_⟩, fun both => List.take_of_length_le both.2⟩
    have size := congrArg List.length all
    rw [List.length_take] at size
    omega
  · exact ⟨nofun, fun both => absurd both.1 enough⟩

/-- The bytes of "Hello". -/
def hello : List UInt8 := [0x48, 0x65, 0x6c, 0x6c, 0x6f]

end Receivers

end LinuxAgent.RequestListener
