/- module: LinuxAgent/Lib/ByteStream
   source: none (general library)
   digest: Reads that return what is ready of a stream, reads into memory, and integers as bytes. -/

import Mathlib.Data.Nat.Digits.Defs

/-!
A stream is the list of bytes that are still to be read. A call of `read` asks for a
number of bytes and gets what is ready of them, so a way to cut the stream into pieces
is the number of bytes that are ready at each call.

A call of `recv` with `MSG_WAITALL` waits for all the bytes it asks for, unless the stream
ends before. On an open stream it waits for one byte also when it asks for none.

A short read changes the beginning of the memory it reads into and leaves the rest.
-/

set_option autoImplicit false
set_option relaxedAutoImplicit false

namespace LinuxAgent.Lib.ByteStream

section Reads

variable {α : Type*}

/-- The bytes that a call of `read` returns. -/
def received (requested ready : ℕ) (stream : List α) : List α := stream.take (min requested ready)

/-- The stream behind them. -/
def unread (requested ready : ℕ) (stream : List α) : List α := stream.drop (min requested ready)

/-- The bytes that a call of `recv` with `MSG_WAITALL` returns, `none` as long as it waits. -/
def receivedAll (closed : Bool) (requested : ℕ) (stream : List α) : Option (List α) :=
  if closed || max requested 1 ≤ stream.length then some (stream.take requested) else none

/-- Memory after bytes were written to its beginning. -/
def overwrite (memory bytes : List α) : List α := bytes ++ memory.drop bytes.length

variable {requested ready : ℕ} {front rest memory bytes stream : List α}

theorem length_received (requested ready : ℕ) (stream : List α) :
    (received requested ready stream).length = min (min requested ready) stream.length :=
  List.length_take

theorem length_unread (requested ready : ℕ) (stream : List α) :
    (unread requested ready stream).length = stream.length - min requested ready :=
  List.length_drop

/-- When everything that was asked for is ready, it is returned. -/
theorem received_of_ready (enough : requested ≤ ready) :
    received requested ready stream = stream.take requested := by
  rw [received, min_eq_left enough]

theorem unread_of_ready (enough : requested ≤ ready) :
    unread requested ready stream = stream.drop requested := by
  rw [unread, min_eq_left enough]

theorem received_append (whole : front.length = requested) (enough : requested ≤ ready) :
    received requested ready (front ++ rest) = front := by
  rw [received_of_ready enough, ← whole, List.take_left]

theorem unread_append (whole : front.length = requested) (enough : requested ≤ ready) :
    unread requested ready (front ++ rest) = rest := by
  rw [unread_of_ready enough, ← whole, List.drop_left]

/-- All the bytes are there: the call returns them, if it does not wait for one behind them. -/
theorem receivedAll_append (closed : Bool) (front rest : List α) :
    receivedAll closed front.length (front ++ rest) =
      if front ≠ [] ∨ rest ≠ [] ∨ closed = true then some front else none := by
  have enough : max front.length 1 ≤ (front ++ rest).length ↔ front ≠ [] ∨ rest ≠ [] := by
    simp only [List.length_append, ← List.length_pos_iff]
    omega
  simp only [receivedAll, List.take_left, Bool.or_eq_true, decide_eq_true_eq, enough]
  refine if_congr ?_ rfl rfl
  rw [or_comm, or_assoc]

/-- A read that stays inside the front of the stream leaves the rest alone. -/
theorem unread_inside (inside : min requested ready ≤ front.length) :
    unread requested ready (front ++ rest) = unread requested ready front ++ rest :=
  List.drop_append_of_le_length inside

/-- The whole of the memory is overwritten. -/
theorem overwrite_whole (covers : memory.length ≤ bytes.length) :
    overwrite memory bytes = bytes := by
  rw [overwrite, List.drop_eq_nil_of_le covers, List.append_nil]

theorem length_overwrite (fits : bytes.length ≤ memory.length) :
    (overwrite memory bytes).length = memory.length := by
  rw [overwrite, List.length_append, List.length_drop]
  omega

end Reads

section Integers

/-- The number that the bytes spell, least significant first. -/
def ofLittleEndian (bytes : List UInt8) : ℕ := Nat.ofDigits 256 (bytes.map UInt8.toNat)

/-- The number that the bytes spell, most significant first. -/
def ofBigEndian (bytes : List UInt8) : ℕ := ofLittleEndian bytes.reverse

def littleEndian : ℕ → ℕ → List UInt8
  | 0, _ => []
  | width + 1, value => UInt8.ofNat (value % 256) :: littleEndian width (value / 256)

def bigEndian (width value : ℕ) : List UInt8 := (littleEndian width value).reverse

@[simp] theorem length_littleEndian (width value : ℕ) :
    (littleEndian width value).length = width := by
  induction width generalizing value with
  | zero => rfl
  | succ width ih => rw [littleEndian, List.length_cons, ih]

@[simp] theorem length_bigEndian (width value : ℕ) : (bigEndian width value).length = width := by
  rw [bigEndian, List.length_reverse, length_littleEndian]

theorem ofLittleEndian_littleEndian (width value : ℕ) (fits : value < 256 ^ width) :
    ofLittleEndian (littleEndian width value) = value := by
  induction width generalizing value with
  | zero =>
      have zero : value = 0 := by simpa using fits
      rw [zero]
      rfl
  | succ width ih =>
      have quotient : value / 256 < 256 ^ width := by
        rw [Nat.div_lt_iff_lt_mul (by decide), ← pow_succ]
        exact fits
      have digit : (UInt8.ofNat (value % 256)).toNat = value % 256 := by simp
      have later := ih (value / 256) quotient
      unfold ofLittleEndian at later ⊢
      rw [littleEndian, List.map_cons, Nat.ofDigits_cons, later, digit]
      exact Nat.mod_add_div value 256

theorem ofBigEndian_bigEndian (width value : ℕ) (fits : value < 256 ^ width) :
    ofBigEndian (bigEndian width value) = value := by
  rw [ofBigEndian, bigEndian, List.reverse_reverse, ofLittleEndian_littleEndian width value fits]

end Integers

end LinuxAgent.Lib.ByteStream
