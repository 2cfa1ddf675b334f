/- module: LinuxAgent/Lib/Text
   source: none (general library)
   digest: Lines as fgets reads them, and decimal numbers between spaces. -/

import Mathlib.Data.List.TakeWhile
import Mathlib.Data.Nat.Notation

/-!
`fgets` reads up to the next newline, which it keeps, but no more characters than the
buffer has room for. A line that is longer comes in pieces, and nothing marks them.

A decimal number is read as the longest run of digits, as a regular expression does that
goes on with something else than a digit.
-/

set_option autoImplicit false
set_option relaxedAutoImplicit false

namespace LinuxAgent.Lib.Text

/-- What calls of `fgets` return, one after the other. The line under way is reversed, and
`room` is the number of characters that it can still take. -/
def fgetsFrom (size : ℕ) : (room : ℕ) → (line : List Char) → (text : List Char) → List (List Char)
  | _, [], [] => []
  | _, c :: line, [] => [(c :: line).reverse]
  | room, line, c :: text =>
      if c = '\n' ∨ room ≤ 1 then (c :: line).reverse :: fgetsFrom size (size - 1) [] text
      else fgetsFrom size (room - 1) (c :: line) text

/-- The lines of a text for a buffer of `size` characters, one of which ends the string. -/
def fgetsAll (size : ℕ) (text : List Char) : List (List Char) := fgetsFrom size (size - 1) [] text

/-- The digits at the beginning of a text, if there are any, and the text behind them. -/
def number (text : List Char) : Option (List Char × List Char) :=
  let digits := text.takeWhile Char.isDigit
  if digits = [] then none else some (digits, text.dropWhile Char.isDigit)

/-- The same behind at least one space. -/
def spacedNumber (text : List Char) : Option (List Char × List Char) :=
  if text.head? = some ' ' then number (text.dropWhile (· = ' ')) else none

section Lines

variable {size : ℕ}

private theorem fgetsFrom_line {line text : List Char} {room : ℕ} (start : List Char)
    (whole : '\n' ∉ line) (fits : line.length + 1 ≤ room) :
    fgetsFrom size room start (line ++ '\n' :: text) =
      (start.reverse ++ line ++ ['\n']) :: fgetsAll size text := by
  induction line generalizing room start with
  | nil => simp [fgetsFrom, fgetsAll]
  | cons c line ih =>
      rw [List.mem_cons, not_or] at whole
      rw [List.length_cons] at fits
      have goes_on : ¬ (c = '\n' ∨ room ≤ 1) := by
        rintro (newline | full)
        · exact whole.1 newline.symm
        · omega
      rw [List.cons_append, fgetsFrom, if_neg goes_on, ih (c :: start) whole.2 (by omega)]
      simp

/-- Lines that fit into the buffer are read as they are. -/
theorem fgetsAll_lines {lines : List (List Char)} (whole : ∀ line ∈ lines, '\n' ∉ line)
    (fits : ∀ line ∈ lines, line.length + 1 < size) :
    fgetsAll size (lines.flatMap (· ++ ['\n'])) = lines.map (· ++ ['\n']) := by
  induction lines with
  | nil => simp [fgetsAll, fgetsFrom]
  | cons line lines ih =>
      rw [List.forall_mem_cons] at whole fits
      have rest := ih whole.2 fits.2
      have short : line.length + 1 ≤ size - 1 := by omega
      rw [List.flatMap_cons, List.append_assoc, List.singleton_append, fgetsAll,
        fgetsFrom_line [] whole.1 short, rest]
      rfl

end Lines

section Numbers

variable {rest : List Char}

theorem digit_of_mem_toDigits {n : ℕ} {c : Char} (member : c ∈ Nat.toDigits 10 n) :
    c.isDigit = true :=
  Nat.isDigit_of_mem_toDigits (by decide) (by decide) member

/-- A number that something else follows is read whole. -/
theorem number_toDigits (n : ℕ) (ends : ∀ c, rest.head? = some c → c.isDigit = false) :
    number (Nat.toDigits 10 n ++ rest) = some (Nat.toDigits 10 n, rest) := by
  have digits : ∀ c ∈ Nat.toDigits 10 n, c.isDigit = true := fun c => digit_of_mem_toDigits
  have none_left : rest.takeWhile Char.isDigit = [] ∧ rest.dropWhile Char.isDigit = rest := by
    cases rest with
    | nil => exact ⟨rfl, rfl⟩
    | cons c rest => simp [ends c rfl]
  unfold number
  rw [List.takeWhile_append_of_pos digits, List.dropWhile_append_of_pos digits, none_left.1,
    none_left.2, List.append_nil]
  exact if_neg Nat.toDigits_ne_nil

/-- Spaces before a number are skipped. -/
theorem dropWhile_spaces (pad n : ℕ) :
    (List.replicate pad ' ' ++ (Nat.toDigits 10 n ++ rest)).dropWhile (· = ' ') =
      Nat.toDigits 10 n ++ rest := by
  rw [List.dropWhile_append_of_pos (by simp)]
  cases digits : Nat.toDigits 10 n with
  | nil => exact absurd digits Nat.toDigits_ne_nil
  | cons c more =>
      have digit : c.isDigit = true :=
        digit_of_mem_toDigits (n := n) (by rw [digits]; exact List.mem_cons_self)
      have visible : c ≠ ' ' := by
        rintro rfl
        exact absurd digit (by decide)
      simp [visible]

theorem spacedNumber_toDigits (pad n : ℕ) (ends : ∀ c, rest.head? = some c → c.isDigit = false) :
    spacedNumber (List.replicate (pad + 1) ' ' ++ (Nat.toDigits 10 n ++ rest)) =
      some (Nat.toDigits 10 n, rest) := by
  unfold spacedNumber
  rw [dropWhile_spaces, number_toDigits n ends, if_pos]
  simp [List.replicate_succ]

end Numbers

end LinuxAgent.Lib.Text
