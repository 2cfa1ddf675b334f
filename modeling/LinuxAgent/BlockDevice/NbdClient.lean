/- module: LinuxAgent/BlockDevice/NbdClient
   source: block_device/nbd_client.cc (NegotiateNbdCommunication)
   digest: Which server streams the NBD negotiation accepts, and what a short read does to it. -/

import LinuxAgent.Lib.ByteStream

/-!
The negotiation reads the server's header with four calls of `read` and compares their
results with 0 only. A short read leaves the rest of the memory it reads into as it was:
zeros in `buf`, and whatever was there in `second_magic` and `*block_device_size`.
-/

set_option autoImplicit false
set_option relaxedAutoImplicit false

namespace LinuxAgent.BlockDevice

open LinuxAgent.Lib.ByteStream

/-- `NBD_ACK_MAGIC`, the characters of "NBDMAGIC". -/
def nbdAckMagic : List UInt8 := [0x4e, 0x42, 0x44, 0x4d, 0x41, 0x47, 0x49, 0x43]

def nbdNegotiateMagic : ℕ := 0x00420281861253

/-- The characters before the first 0. -/
def cString (memory : List UInt8) : List UInt8 := memory.takeWhile (· ≠ 0)

/-- `read` into memory, with the exception that is thrown when it returns a negative
number. The result is the memory and the stream after it. -/
def readInto (what : String) (requested : ℕ) (ready : Option ℕ) (memory stream : List UInt8) :
    Except String (List UInt8 × List UInt8) :=
  match ready with
  | none => .error what
  | some bytes =>
      .ok (overwrite memory (received requested bytes stream), unread requested bytes stream)

/-- `NegotiateNbdCommunication`: the size of the remote device and the rest of the stream.
`secondMagic` and `blockDeviceSize` are what the two integers held before. -/
def negotiateNbdCommunication (ready : ℕ → Option ℕ)
    (secondMagic blockDeviceSize stream : List UInt8) : Except String (ℕ × List UInt8) := do
  let (buf, stream) ← readInto "Unable to read first magic from socket" 8 (ready 0)
    (List.replicate 256 0) stream
  if cString buf = [] then throw "Server closed connection before sending data"
  if cString buf ≠ nbdAckMagic then throw "Got bad first magic number"
  let (secondMagic, stream) ← readInto "Unable to read second magic from socket" 8 (ready 1)
    secondMagic stream
  if ofBigEndian secondMagic ≠ nbdNegotiateMagic then throw "Got bad second magic number"
  let (blockDeviceSize, stream) ← readInto "Unable to read block size from socket" 8 (ready 2)
    blockDeviceSize stream
  let (_, stream) ← readInto "Unable to read final negotiation zeros from socket" 128 (ready 3)
    buf stream
  return (ofBigEndian blockDeviceSize, stream)

/-- The header that the comment above the function describes. -/
def HasHeader (stream : List UInt8) : Prop :=
  ∃ size zeros rest : List UInt8, size.length = 8 ∧ zeros.length = 128 ∧
    stream = nbdAckMagic ++ (bigEndian 8 nbdNegotiateMagic ++ (size ++ (zeros ++ rest)))

/-- The negotiation returns exactly for a stream with a header, with the size that the
header gives and behind its 152 bytes. -/
def Negotiated (stream : List UInt8) (outcome : Except String (ℕ × List UInt8)) : Prop :=
  ((∃ result, outcome = .ok result) ↔ HasHeader stream) ∧
    ∀ size rest, outcome = .ok (size, rest) →
      size = ofBigEndian ((stream.drop 16).take 8) ∧ rest = stream.drop 152

/-- The reads return all that they ask for. -/
def ReadsWhole (cut : ℕ → ℕ) : Prop := 8 ≤ cut 0 ∧ 8 ≤ cut 1 ∧ 8 ≤ cut 2 ∧ 128 ≤ cut 3

/-- The first read returns the first magic, and the second one leaves the second magic in
the integer. -/
def PassesMagics (cut : ℕ → ℕ) (secondMagic stream : List UInt8) : Prop :=
  8 ≤ cut 0 ∧ stream.take 8 = nbdAckMagic ∧
    ofBigEndian (overwrite secondMagic (received 8 (cut 1) (stream.drop 8))) = nbdNegotiateMagic

/-- How far the four reads get after the two magics. -/
def consumed (cut : ℕ → ℕ) : ℕ := 8 + min 8 (cut 1) + min 8 (cut 2) + min 128 (cut 3)

section Negotiation

variable {cut : ℕ → ℕ} {secondMagic blockDeviceSize stream : List UInt8}

/-- A zeroed buffer ends the string after what was read. -/
private theorem cString_overwrite {bytes : List UInt8} (n : ℕ) :
    cString (overwrite (List.replicate n 0) bytes) = cString bytes := by
  unfold cString overwrite
  rw [List.takeWhile_append, List.drop_replicate]
  have zeros : (List.replicate (n - bytes.length) (0 : UInt8)).takeWhile (· ≠ 0) = [] := by
    cases n - bytes.length <;> rfl
  rw [zeros, List.append_nil]
  split_ifs with whole
  · exact ((List.takeWhile_prefix _).eq_of_length whole).symm
  · rfl

private theorem cString_eq_ack_iff :
    cString (overwrite (List.replicate 256 0) (received 8 (cut 0) stream)) = nbdAckMagic ↔
      8 ≤ cut 0 ∧ stream.take 8 = nbdAckMagic := by
  rw [cString_overwrite]
  constructor
  · intro same
    have short : (received 8 (cut 0) stream).length ≤ 8 := by
      rw [length_received]
      omega
    have long : 8 ≤ (received 8 (cut 0) stream).length := by
      have part := (List.takeWhile_prefix (l := received 8 (cut 0) stream) (· ≠ 0)).length_le
      have size : (cString (received 8 (cut 0) stream)).length = 8 := by rw [same]; rfl
      exact size.ge.trans part
    have all : cString (received 8 (cut 0) stream) = received 8 (cut 0) stream := by
      apply (List.takeWhile_prefix _).eq_of_length
      change (cString (received 8 (cut 0) stream)).length = _
      rw [same]
      exact Nat.le_antisymm long short
    have enough : 8 ≤ cut 0 := by
      rw [length_received] at long
      omega
    exact ⟨enough, by rw [← received_of_ready enough, ← all, same]⟩
  · rintro ⟨enough, same⟩
    rw [received_of_ready enough, same]
    decide

private theorem negotiate_eq_ok_iff {size : ℕ} {rest : List UInt8} :
    negotiateNbdCommunication (fun i => some (cut i)) secondMagic blockDeviceSize stream =
        .ok (size, rest) ↔
      PassesMagics cut secondMagic stream ∧
        size = ofBigEndian (overwrite blockDeviceSize
          (received 8 (cut 2) (unread 8 (cut 1) (stream.drop 8)))) ∧
        rest = stream.drop (consumed cut) := by
  have behind (enough : 8 ≤ cut 0) :
      unread 128 (cut 3) (unread 8 (cut 2) (unread 8 (cut 1) (unread 8 (cut 0) stream))) =
        stream.drop (consumed cut) := by
    simp only [unread, List.drop_drop, min_eq_left enough, consumed]
  unfold negotiateNbdCommunication PassesMagics
  simp only [readInto, bind, Except.bind, pure, Except.pure, throw, throwThe, MonadExceptOf.throw]
  by_cases first : cString (overwrite (List.replicate 256 0) (received 8 (cut 0) stream)) =
      nbdAckMagic
  · have nonempty : nbdAckMagic ≠ [] := by decide
    obtain ⟨enough, magic⟩ := cString_eq_ack_iff.mp first
    rw [if_neg (by rw [first]; exact nonempty), if_neg (not_not.mpr first), behind enough]
    simp only [unread_of_ready enough, enough, magic, true_and]
    by_cases second : ofBigEndian (overwrite secondMagic
        (received 8 (cut 1) (stream.drop 8))) = nbdNegotiateMagic
    · simp [second, eq_comm]
    · simp [second]
  · have refused := fun both => first (cString_eq_ack_iff.mpr both)
    constructor
    · intro returned
      split_ifs at returned
    · rintro ⟨⟨enough, magic, -⟩, -⟩
      exact absurd ⟨enough, magic⟩ refused

private theorem hasHeader_parts (has : HasHeader stream) :
    stream.take 8 = nbdAckMagic ∧
      (stream.drop 8).take 8 = bigEndian 8 nbdNegotiateMagic ∧ 152 ≤ stream.length := by
  obtain ⟨size, zeros, rest, sizeBytes, zeroBytes, rfl⟩ := has
  have first : nbdAckMagic.length = 8 := rfl
  have second := length_bigEndian 8 nbdNegotiateMagic
  refine ⟨List.take_left' first, ?_, ?_⟩
  · rw [List.drop_left' first, List.take_left' second]
  · simp only [List.length_append, first, second, sizeBytes, zeroBytes]
    omega

private theorem negotiated_of_whole (has : HasHeader stream) (whole : ReadsWhole cut)
    (magicBytes : secondMagic.length = 8) (sizeBytes : blockDeviceSize.length = 8) :
    negotiateNbdCommunication (fun i => some (cut i)) secondMagic blockDeviceSize stream =
      .ok (ofBigEndian ((stream.drop 16).take 8), stream.drop 152) := by
  obtain ⟨first, second, third, fourth⟩ := whole
  obtain ⟨ack, magic, long⟩ := hasHeader_parts has
  rw [negotiate_eq_ok_iff]
  refine ⟨⟨first, ack, ?_⟩, ?_, ?_⟩
  · have covers : secondMagic.length ≤ ((stream.drop 8).take 8).length := by
      rw [magicBytes, magic, length_bigEndian]
    rw [received_of_ready second, overwrite_whole covers, magic]
    exact ofBigEndian_bigEndian 8 nbdNegotiateMagic (by decide)
  · have covers : blockDeviceSize.length ≤ ((stream.drop 16).take 8).length := by
      rw [sizeBytes, List.length_take, List.length_drop]
      omega
    rw [received_of_ready third, unread_of_ready second, List.drop_drop, overwrite_whole covers]
  · have all : consumed cut = 152 := by
      unfold consumed
      omega
    rw [all]

/-- NBD handshake: the negotiation meets its description exactly when every read returns
all it asks for of a stream with a header, and one of the two magics stops a stream
without one. -/
theorem negotiated_iff (cut : ℕ → ℕ) (secondMagic blockDeviceSize stream : List UInt8)
    (magicBytes : secondMagic.length = 8) (sizeBytes : blockDeviceSize.length = 8) :
    Negotiated stream (negotiateNbdCommunication (fun i => some (cut i)) secondMagic
        blockDeviceSize stream) ↔
      (HasHeader stream → ReadsWhole cut) ∧
        (¬ HasHeader stream → ¬ PassesMagics cut secondMagic stream) := by
  constructor
  · rintro ⟨accepts, located⟩
    refine ⟨fun has => ?_, fun lacks passes => ?_⟩
    · obtain ⟨⟨size, rest⟩, returned⟩ := accepts.mpr has
      obtain ⟨passes, -, behind⟩ := negotiate_eq_ok_iff.mp returned
      have lengths := congrArg List.length (behind.symm.trans (located size rest returned).2)
      have long := (hasHeader_parts has).2.2
      rw [List.length_drop, List.length_drop] at lengths
      have all : consumed cut = 152 := by
        unfold consumed at lengths ⊢
        omega
      unfold consumed at all
      exact ⟨passes.1, by omega, by omega, by omega⟩
    · exact lacks (accepts.mp ⟨_, negotiate_eq_ok_iff.mpr ⟨passes, rfl, rfl⟩⟩)
  · rintro ⟨whole, stopped⟩
    by_cases has : HasHeader stream
    · have returned := negotiated_of_whole has (whole has) magicBytes sizeBytes
      refine ⟨⟨fun _ => has, fun _ => ⟨_, returned⟩⟩, fun size rest again => ?_⟩
      obtain ⟨rfl, rfl⟩ := Prod.mk.inj (Except.ok.inj (again.symm.trans returned))
      exact ⟨rfl, rfl⟩
    · have refused (size : ℕ) (rest : List UInt8) :
          negotiateNbdCommunication (fun i => some (cut i)) secondMagic blockDeviceSize stream ≠
            .ok (size, rest) :=
        fun returned => stopped has (negotiate_eq_ok_iff.mp returned).1
      refine ⟨⟨?_, fun present => absurd present has⟩, fun size rest returned => ?_⟩
      · rintro ⟨⟨size, rest⟩, returned⟩
        exact absurd returned (refused size rest)
      · exact absurd returned (refused size rest)

end Negotiation

section Example

/-- A server that ends the connection after the size. -/
def truncatedHeader : List UInt8 :=
  nbdAckMagic ++ (bigEndian 8 nbdNegotiateMagic ++ bigEndian 8 4096)

def wholeHeader : List UInt8 := truncatedHeader ++ List.replicate 128 0

private theorem hasHeader_wholeHeader : HasHeader wholeHeader :=
  ⟨bigEndian 8 4096, List.replicate 128 0, [], by decide, List.length_replicate,
    by decide +kernel⟩

/-- The first is accepted although 128 bytes of the header are missing, and the second is
refused when its first four bytes arrive before the others. -/
theorem shortReads_not_negotiated :
    ¬ Negotiated truncatedHeader (negotiateNbdCommunication (fun _ => some 128)
      (List.replicate 8 0) (List.replicate 8 0) truncatedHeader) ∧
    ¬ Negotiated wholeHeader (negotiateNbdCommunication (fun _ => some 4)
      (List.replicate 8 0) (List.replicate 8 0) wholeHeader) := by
  constructor
  · intro meets
    have returned : negotiateNbdCommunication (fun _ => some 128) (List.replicate 8 0)
        (List.replicate 8 0) truncatedHeader = .ok (4096, []) := by decide +kernel
    have long := (hasHeader_parts (meets.1.mp ⟨_, returned⟩)).2.2
    exact absurd long (by decide)
  · intro meets
    have refused : negotiateNbdCommunication (fun _ => some 4) (List.replicate 8 0)
        (List.replicate 8 0) wholeHeader = .error "Got bad first magic number" := by
      decide +kernel
    obtain ⟨result, returned⟩ := meets.1.mpr hasHeader_wholeHeader
    cases refused.symm.trans returned

theorem negotiated_wholeHeader :
    Negotiated wholeHeader (negotiateNbdCommunication (fun _ => some 200)
      (List.replicate 8 1) (List.replicate 8 1) wholeHeader) :=
  (negotiated_iff (fun _ => 200) (List.replicate 8 1) (List.replicate 8 1) wholeHeader
    (by decide) (by decide)).mpr
      ⟨fun _ => ⟨by decide, by decide, by decide, by decide⟩,
        fun lacks => absurd hasHeader_wholeHeader lacks⟩

end Example

end LinuxAgent.BlockDevice
