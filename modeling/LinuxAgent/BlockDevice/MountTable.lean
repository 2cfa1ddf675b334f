/- module: LinuxAgent/BlockDevice/MountTable
   source: block_device/mountable_block_device.cc (GetMountedDevices, GetMountPoint)
   digest: Which mount points come out of the kernel's mount table as they went in. -/

import Mathlib.Data.Int.Notation
import Mathlib.Data.List.Basic
import Mathlib.Logic.Function.Basic

/-!
The kernel prints the mount table with `\040` for every space inside a field. The code
cuts each line at its first two spaces and then looks for the character with the code 4
in the mount point, since it passes the number 4 to `find` where the text `\040` was
meant.

`realpath` belongs to the file system: it is a parameter.
-/

set_option autoImplicit false
set_option relaxedAutoImplicit false

namespace LinuxAgent.BlockDevice

/-- The errors of `realpath` that the code tells apart. -/
inductive Errno where
  | enoent
  | eacces
  | enotdir
  | other
  deriving DecidableEq

/-- `find(c, pos)` stored in an `int`: the position of the character, or -1. -/
def findChar (c : Char) (text : List Char) (pos : ℕ) : ℤ :=
  match (text.drop pos).findIdx? (· = c) with
  | some offset => pos + offset
  | none => -1

/-- `substr(pos, count)`; a negative count becomes a large one. -/
def substr (text : List Char) (pos : ℕ) (count : ℤ) : List Char :=
  if count < 0 then text.drop pos else (text.drop pos).take count.toNat

/-- The character that `find(4, ...)` looks for. -/
def charFour : Char := Char.ofNat 4

/-- The loop that was to put the spaces back, for at most `rounds` rounds. -/
def replaceSpaces : (rounds : ℕ) → (mountPoint : List Char) → (spacePos : ℕ) → List Char
  | 0, mountPoint, _ => mountPoint
  | rounds + 1, mountPoint, spacePos =>
      match (mountPoint.drop spacePos).findIdx? (· = charFour) with
      | none => mountPoint
      | some offset =>
          replaceSpaces rounds
            (mountPoint.take (spacePos + offset) ++ ' ' :: mountPoint.drop (spacePos + offset + 4))
            (spacePos + offset + 1)

/-- The map from real paths to mount points. -/
abbrev MountedDevices := List Char → Option (List Char)

/-- The path of a line. -/
def pathOf (line : List Char) : List Char := substr line 0 (findChar ' ' line 0)

/-- The mount point of a line as it is printed. -/
def mountPointOf (line : List Char) : List Char :=
  let firstSpace := findChar ' ' line 0
  let secondSpace := findChar ' ' line (firstSpace + 1).toNat
  substr line (firstSpace + 1).toNat (secondSpace - firstSpace - 1)

/-- One round of the loop over the lines. -/
def addLine (realpath : List Char → Except Errno (List Char)) (mountedDevices : MountedDevices)
    (line : List Char) : Except String MountedDevices :=
  match realpath (pathOf line) with
  | .error .enoent | .error .eacces | .error .enotdir => .ok mountedDevices
  | .error .other => .error "readlink"
  | .ok realPath =>
      let mountPoint := mountPointOf line
      .ok (Function.update mountedDevices realPath
        (some (replaceSpaces (mountPoint.length + 1) mountPoint 0)))

/-- `GetMountedDevices`. `getline` returns what is between two newlines, and once more
the empty text that follows the last one, before `good()` is false. -/
def getMountedDevices (realpath : List Char → Except Errno (List Char)) (mounts : List Char) :
    Except String MountedDevices :=
  (mounts.splitOn '\n').foldlM (addLine realpath) fun _ => none

def getMountPoint (realpath : List Char → Except Errno (List Char)) (mounts path : List Char) :
    Except String (List Char) := do
  let mountedDevices ← getMountedDevices realpath mounts
  match mountedDevices path with
  | some mountPoint => .ok mountPoint
  | none => .error "Block device is not mounted"

/-- What the kernel prints for a space inside a field. -/
def escapedSpace : List Char := ['\\', '0', '4', '0']

/-- The kernel's encoding of a field. -/
def escape (field : List Char) : List Char :=
  field.flatMap fun c => if c = ' ' then escapedSpace else [c]

structure MountEntry where
  device : List Char
  mountPoint : List Char
  others : List (List Char)

namespace MountEntry

def line (e : MountEntry) : List Char :=
  [' '].intercalate (escape e.device :: escape e.mountPoint :: e.others.map escape)

/-- The entries whose encoding is one short line of fields that are not empty. -/
structure WellFormed (e : MountEntry) : Prop where
  named : e.device ≠ []
  device : '\n' ∉ e.device
  mountPoint : '\t' ∉ e.mountPoint ∧ '\n' ∉ e.mountPoint ∧ '\\' ∉ e.mountPoint
  others : ∀ field ∈ e.others, '\n' ∉ field
  short : e.line.length < 1024

end MountEntry

/-- The contents of /proc/mounts. -/
def mountTable (entries : List MountEntry) : List Char :=
  entries.flatMap fun e => e.line ++ ['\n']

/-- The entry is the last one whose device has that real path. -/
def IsLast (realpath : List Char → Except Errno (List Char)) (entries : List MountEntry)
    (realPath : List Char) (e : MountEntry) : Prop :=
  ∃ before after, entries = before ++ e :: after ∧ realpath e.device = .ok realPath ∧
    ∀ later ∈ after, realpath later.device ≠ .ok realPath

/-- Every device that can be resolved is mapped to the mount point of its last entry, and
`GetMountPoint` returns it. -/
def DecodesMounts (realpath : List Char → Except Errno (List Char)) (entries : List MountEntry) :
    Prop :=
  ∃ mountedDevices, getMountedDevices realpath (mountTable entries) = .ok mountedDevices ∧
    ∀ realPath e, IsLast realpath entries realPath e →
      mountedDevices realPath = some e.mountPoint ∧
        getMountPoint realpath (mountTable entries) realPath = .ok e.mountPoint

section Fields

variable {c : Char} {text field left right : List Char}

private theorem takeWhile_ne_append (absent : c ∉ left)
    (ends : right = [] ∨ ∃ rest, right = c :: rest) :
    (left ++ right).takeWhile (· ≠ c) = left := by
  rw [List.takeWhile_append_of_pos]
  · rcases ends with rfl | ⟨rest, rfl⟩ <;> simp
  · intro d member
    exact decide_eq_true fun same => absent (same ▸ member)

private theorem findIdx?_append_cons (absent : c ∉ left) :
    (left ++ c :: right).findIdx? (· = c) = some left.length := by
  have before : left.findIdx? (· = c) = none := by
    rw [List.findIdx?_eq_none_iff]
    intro d member
    exact decide_eq_false fun same => absent (same ▸ member)
  rw [List.findIdx?_append, before, List.findIdx?_cons]
  simp

/-- Cutting at the next occurrence of a character, whether there is one or not. -/
private theorem substr_findChar (c : Char) (text : List Char) (pos : ℕ) :
    substr text pos (findChar c text pos - pos) = (text.drop pos).takeWhile (· ≠ c) := by
  by_cases present : c ∈ text.drop pos
  · obtain ⟨before, after, split, absent⟩ := List.eq_append_cons_of_mem present
    have found : findChar c text pos = pos + before.length := by
      rw [findChar, split, findIdx?_append_cons absent]
    have count : (pos : ℤ) + before.length - pos = before.length := by omega
    rw [substr, found, count, if_neg (by omega), split, Int.toNat_natCast, List.take_left,
      takeWhile_ne_append absent (.inr ⟨after, rfl⟩)]
  · have missing : (text.drop pos).findIdx? (· = c) = none := by
      rw [List.findIdx?_eq_none_iff]
      intro d member
      exact decide_eq_false fun same => present (same ▸ member)
    have found : findChar c text pos = -1 := by rw [findChar, missing]
    have whole := takeWhile_ne_append present (.inl rfl)
    rw [List.append_nil] at whole
    rw [substr, found, if_pos (by omega), whole]

private theorem pathOf_append (absent : ' ' ∉ left) : pathOf (left ++ ' ' :: right) = left := by
  have cut := substr_findChar ' ' (left ++ ' ' :: right) 0
  rw [List.drop_zero, takeWhile_ne_append absent (.inr ⟨right, rfl⟩)] at cut
  refine Eq.trans ?_ cut
  exact congrArg (substr _ 0) (Int.sub_zero _).symm

private theorem mountPointOf_append (absent : ' ' ∉ left) :
    mountPointOf (left ++ ' ' :: right) = right.takeWhile (· ≠ ' ') := by
  have cut := substr_findChar ' ' (left ++ ' ' :: right) (left.length + 1)
  have behind : (left ++ ' ' :: right).drop (left.length + 1) = right := by
    rw [← List.drop_drop, List.drop_left]
    rfl
  have first : findChar ' ' (left ++ ' ' :: right) 0 = left.length := by
    rw [findChar, List.drop_zero, findIdx?_append_cons absent]
    simp
  have pos : ((left.length : ℤ) + 1).toNat = left.length + 1 := by omega
  have count (second : ℤ) :
      second - (left.length : ℤ) - 1 = second - ((left.length + 1 : ℕ) : ℤ) := by omega
  simp only [mountPointOf, first, pos, count]
  rw [cut, behind]

private theorem space_not_mem_escape (field : List Char) : ' ' ∉ escape field := by
  intro member
  obtain ⟨c, -, printed⟩ := List.mem_flatMap.mp member
  split_ifs at printed with space
  · exact absurd printed (by decide)
  · exact space (List.mem_singleton.mp printed).symm

/-- The encoding adds backslashes and digits only. -/
private theorem mem_escape {d : Char} (new : d ∉ escapedSpace) (member : d ∈ escape field) :
    d ∈ field := by
  obtain ⟨c, inside, printed⟩ := List.mem_flatMap.mp member
  split_ifs at printed
  · exact absurd printed new
  · exact List.mem_singleton.mp printed ▸ inside

private theorem escape_of_no_space (absent : ' ' ∉ field) : escape field = field := by
  unfold escape
  have same : ∀ c ∈ field, (if c = ' ' then escapedSpace else [c]) = [c] := by
    intro c member
    exact if_neg fun space : c = ' ' => absent (space ▸ member)
  rw [List.flatMap_congr same]
  exact List.flatMap_singleton' field

private theorem backslash_mem_escape (space : ' ' ∈ field) : '\\' ∈ escape field :=
  List.mem_flatMap.mpr ⟨' ', space, by decide⟩

private theorem line_eq (e : MountEntry) :
    ∃ rest, e.line = escape e.device ++ ' ' :: (escape e.mountPoint ++ rest) ∧
      (rest = [] ∨ ∃ more, rest = ' ' :: more) := by
  unfold MountEntry.line
  cases e.others.map escape with
  | nil => exact ⟨[], by simp, .inl rfl⟩
  | cons field fields =>
      refine ⟨' ' :: [' '].intercalate (field :: fields), ?_, .inr ⟨_, rfl⟩⟩
      simp

private theorem pathOf_line (e : MountEntry) : pathOf e.line = escape e.device := by
  obtain ⟨rest, split, -⟩ := line_eq e
  rw [split, pathOf_append (space_not_mem_escape e.device)]

private theorem mountPointOf_line (e : MountEntry) : mountPointOf e.line = escape e.mountPoint := by
  obtain ⟨rest, split, ends⟩ := line_eq e
  rw [split, mountPointOf_append (space_not_mem_escape e.device),
    takeWhile_ne_append (space_not_mem_escape e.mountPoint) ends]

private theorem newline_not_mem_intercalate {fields : List (List Char)}
    (absent : ∀ field ∈ fields, '\n' ∉ field) : '\n' ∉ [' '].intercalate fields := by
  induction fields with
  | nil => simp
  | cons field fields ih =>
      cases fields with
      | nil => simpa using absent
      | cons next fields =>
          have first := absent field List.mem_cons_self
          have later := ih fun field member => absent field (List.mem_cons_of_mem _ member)
          rw [List.intercalate_cons_cons]
          simp [first, later]

private theorem newline_not_mem_line {e : MountEntry} (wellFormed : e.WellFormed) :
    '\n' ∉ e.line := by
  apply newline_not_mem_intercalate
  intro printed member
  have new : '\n' ∉ escapedSpace := by decide
  rcases List.mem_cons.mp member with rfl | member
  · exact fun inside => wellFormed.device (mem_escape new inside)
  rcases List.mem_cons.mp member with rfl | member
  · exact fun inside => wellFormed.mountPoint.2.1 (mem_escape new inside)
  obtain ⟨field, other, rfl⟩ := List.mem_map.mp member
  exact fun inside => wellFormed.others field other (mem_escape new inside)

/-- The lines of the table, and the empty text behind the last newline. -/
private theorem splitOn_mountTable {entries : List MountEntry}
    (wellFormed : ∀ e ∈ entries, e.WellFormed) :
    (mountTable entries).splitOn '\n' = entries.map MountEntry.line ++ [[]] := by
  have joined : mountTable entries = ['\n'].intercalate (entries.map MountEntry.line ++ [[]]) := by
    clear wellFormed
    induction entries with
    | nil => rfl
    | cons e entries ih =>
        rw [List.map_cons, List.cons_append, List.intercalate_cons_of_ne_nil (by simp), ← ih]
        simp [mountTable]
  rw [joined, List.splitOn_intercalate '\n' ?_ (by simp)]
  intro line member
  rcases List.mem_append.mp member with inside | last
  · obtain ⟨e, listed, rfl⟩ := List.mem_map.mp inside
    exact newline_not_mem_line (wellFormed e listed)
  · rw [List.mem_singleton.mp last]
    exact List.not_mem_nil

end Fields

section Replacing

variable {mountPoint : List Char}

private theorem findIdx?_of_absent {text : List Char} (absent : charFour ∉ text) :
    text.findIdx? (· = charFour) = none := by
  rw [List.findIdx?_eq_none_iff]
  intro d member
  exact decide_eq_false fun same => absent (same ▸ member)

private theorem replaceSpaces_of_absent (rounds : ℕ) (absent : charFour ∉ mountPoint) :
    replaceSpaces (rounds + 1) mountPoint 0 = mountPoint := by
  rw [replaceSpaces, List.drop_zero, findIdx?_of_absent absent]

private theorem take_behind {front back : List Char} {c : Char} {n : ℕ}
    (length : front.length = n) : (front ++ c :: back).take (n + 1) = front ++ [c] := by
  subst length
  rw [List.take_length_add_append]
  rfl

/-- The loop ends, and then no character with the code 4 is left. -/
private theorem charFour_not_mem_replaceSpaces {rounds pos : ℕ}
    (enough : mountPoint.length - pos < rounds) (before : charFour ∉ mountPoint.take pos) :
    charFour ∉ replaceSpaces rounds mountPoint pos := by
  induction rounds generalizing mountPoint pos with
  | zero => exact absurd enough (Nat.not_lt_zero _)
  | succ rounds ih =>
      by_cases present : charFour ∈ mountPoint.drop pos
      · obtain ⟨skipped, rest, split, absent⟩ := List.eq_append_cons_of_mem present
        rw [replaceSpaces, split, findIdx?_append_cons absent]
        have size := congrArg List.length split
        rw [List.length_drop, List.length_append, List.length_cons] at size
        have kept : mountPoint.take (pos + skipped.length) = mountPoint.take pos ++ skipped := by
          rw [List.take_add, split, List.take_left]
        have place : (mountPoint.take (pos + skipped.length)).length = pos + skipped.length := by
          rw [List.length_take]
          omega
        apply ih
        · rw [List.length_append, place, List.length_cons, List.length_drop]
          omega
        · rw [take_behind place, kept]
          have different : charFour ≠ ' ' := by decide
          simp [before, absent, different]
      · rw [replaceSpaces, findIdx?_of_absent present]
        intro member
        rw [← List.take_append_drop pos mountPoint] at member
        exact (List.mem_append.mp member).elim before present

/-- What the map gets for a mount point. -/
private def shown (mountPoint : List Char) : List Char :=
  replaceSpaces ((escape mountPoint).length + 1) (escape mountPoint) 0

private theorem shown_eq_iff (plain : '\\' ∉ mountPoint) :
    shown mountPoint = mountPoint ↔ ' ' ∉ mountPoint ∧ charFour ∉ mountPoint := by
  constructor
  · intro same
    have four : charFour ∉ mountPoint := by
      rw [← same]
      exact charFour_not_mem_replaceSpaces (by omega) (by simp)
    refine ⟨fun space => ?_, four⟩
    have absent : charFour ∉ escape mountPoint := fun inside => four (mem_escape (by decide) inside)
    rw [shown, replaceSpaces_of_absent _ absent] at same
    exact plain (same ▸ backslash_mem_escape space)
  · rintro ⟨space, four⟩
    rw [shown, escape_of_no_space space, replaceSpaces_of_absent _ four]

end Replacing

section Tables

variable {realpath : List Char → Except Errno (List Char)} {entries : List MountEntry}

/-- What one entry does to the map when its device can be resolved or is skipped. -/
private def record (realpath : List Char → Except Errno (List Char))
    (mountedDevices : MountedDevices) (e : MountEntry) : MountedDevices :=
  match realpath (escape e.device) with
  | .ok realPath => Function.update mountedDevices realPath (some (shown e.mountPoint))
  | .error _ => mountedDevices

private theorem addLine_line (mountedDevices : MountedDevices) (e : MountEntry) :
    addLine realpath mountedDevices e.line =
      if realpath (escape e.device) = .error .other then .error "readlink"
      else .ok (record realpath mountedDevices e) := by
  unfold addLine record
  rw [pathOf_line, mountPointOf_line]
  cases realpath (escape e.device) with
  | ok realPath => rfl
  | error errno => cases errno <;> rfl

private theorem addLine_nil (empty : realpath [] = .error .enoent)
    (mountedDevices : MountedDevices) :
    addLine realpath mountedDevices [] = .ok mountedDevices := by
  have path : pathOf [] = [] := rfl
  rw [addLine, path, empty]

/-- The table is read to its end, unless some device cannot be resolved for a reason that
the code does not expect. -/
private theorem getMountedDevices_eq (wellFormed : ∀ e ∈ entries, e.WellFormed)
    (empty : realpath [] = .error .enoent) :
    getMountedDevices realpath (mountTable entries) =
      if ∃ e ∈ entries, realpath (escape e.device) = .error .other then .error "readlink"
      else .ok (entries.foldl (record realpath) fun _ => none) := by
  have lines (mountedDevices : MountedDevices) :
      (entries.map MountEntry.line ++ [[]]).foldlM (addLine realpath) mountedDevices =
        if ∃ e ∈ entries, realpath (escape e.device) = .error .other then .error "readlink"
        else .ok (entries.foldl (record realpath) mountedDevices) := by
    clear wellFormed
    induction entries generalizing mountedDevices with
    | nil => simp [addLine_nil empty]
    | cons e entries ih =>
        rw [List.map_cons, List.cons_append, List.foldlM_cons, addLine_line]
        by_cases fatal : realpath (escape e.device) = .error .other
        · rw [if_pos fatal, if_pos ⟨e, List.mem_cons_self, fatal⟩]
          rfl
        · rw [if_neg fatal]
          simp only [bind, Except.bind, ih, List.mem_cons, exists_eq_or_imp, fatal, false_or,
            List.foldl_cons]
  rw [getMountedDevices, splitOn_mountTable wellFormed, lines]

private theorem record_of_ne {realPath : List Char} {e : MountEntry}
    (mountedDevices : MountedDevices) (other : realpath (escape e.device) ≠ .ok realPath) :
    record realpath mountedDevices e realPath = mountedDevices realPath := by
  unfold record
  cases found : realpath (escape e.device) with
  | error errno => rfl
  | ok resolved =>
      apply Function.update_of_ne
      rintro rfl
      exact other found

private theorem foldl_record_of_ne {realPath : List Char} (mountedDevices : MountedDevices)
    (others : ∀ e ∈ entries, realpath (escape e.device) ≠ .ok realPath) :
    entries.foldl (record realpath) mountedDevices realPath = mountedDevices realPath := by
  induction entries generalizing mountedDevices with
  | nil => rfl
  | cons e entries ih =>
      rw [List.foldl_cons, ih _ fun e member => others e (List.mem_cons_of_mem _ member)]
      exact record_of_ne mountedDevices (others e List.mem_cons_self)

/-- The last entry of a device decides what is stored for it. -/
private theorem foldl_record_last {before after : List MountEntry} {e : MountEntry}
    {realPath : List Char} (resolved : realpath (escape e.device) = .ok realPath)
    (last : ∀ later ∈ after, realpath (escape later.device) ≠ .ok realPath) :
    (before ++ e :: after).foldl (record realpath) (fun _ => none) realPath =
      some (shown e.mountPoint) := by
  rw [List.foldl_append, List.foldl_cons, foldl_record_of_ne _ last, record, resolved]
  exact Function.update_self _ _ _

/-- Without spaces in device paths, the map is right exactly where the mount point of the
last entry comes out as it went in. -/
private theorem decodesMounts_iff (wellFormed : ∀ e ∈ entries, e.WellFormed)
    (empty : realpath [] = .error .enoent)
    (skips : ∀ e ∈ entries, realpath (escape e.device) ≠ .error .other)
    (plain : ∀ e ∈ entries, ' ' ∉ e.device) :
    DecodesMounts realpath entries ↔ ∀ realPath e, IsLast realpath entries realPath e →
      ' ' ∉ e.mountPoint ∧ charFour ∉ e.mountPoint := by
  have returned : getMountedDevices realpath (mountTable entries) =
      .ok (entries.foldl (record realpath) fun _ => none) := by
    rw [getMountedDevices_eq wellFormed empty, if_neg]
    rintro ⟨e, member, fatal⟩
    exact skips e member fatal
  have stored (realPath : List Char) (e : MountEntry)
      (isLast : IsLast realpath entries realPath e) :
      entries.foldl (record realpath) (fun _ => none) realPath = some (shown e.mountPoint) ∧
        '\\' ∉ e.mountPoint := by
    obtain ⟨before, after, rfl, resolved, last⟩ := isLast
    refine ⟨foldl_record_last ?_ fun later member => ?_, ?_⟩
    · rwa [escape_of_no_space (plain e (by simp))]
    · rw [escape_of_no_space (plain later (by simp [member]))]
      exact last later member
    · exact (wellFormed e (by simp)).mountPoint.2.2
  constructor
  · rintro ⟨mountedDevices, same, right⟩ realPath e isLast
    obtain rfl := Except.ok.inj (same.symm.trans returned)
    obtain ⟨found, backslash⟩ := stored realPath e isLast
    exact (shown_eq_iff backslash).mp (Option.some.inj
      (found.symm.trans (right realPath e isLast).1))
  · intro clean
    refine ⟨_, returned, fun realPath e isLast => ?_⟩
    obtain ⟨found, backslash⟩ := stored realPath e isLast
    rw [(shown_eq_iff backslash).mpr (clean realPath e isLast)] at found
    refine ⟨found, ?_⟩
    simp only [getMountPoint, returned, bind, Except.bind, found]

private theorem exists_last {device : List Char} (listed : ∃ e ∈ entries, e.device = device) :
    ∃ before e after, entries = before ++ e :: after ∧ e.device = device ∧
      ∀ later ∈ after, later.device ≠ device := by
  induction entries with
  | nil =>
      obtain ⟨e, member, -⟩ := listed
      cases member
  | cons first entries ih =>
      by_cases again : ∃ e ∈ entries, e.device = device
      · obtain ⟨before, e, after, rfl, same, last⟩ := ih again
        exact ⟨first :: before, e, after, rfl, same, last⟩
      · push Not at again
        obtain ⟨e, member, same⟩ := listed
        rcases List.mem_cons.mp member with rfl | member
        · exact ⟨[], e, entries, rfl, same, again⟩
        · exact absurd same (again e member)

/-- A file system in which only one path can be resolved. -/
private def only (device : List Char) : List Char → Except Errno (List Char) :=
  fun path => if path = device then .ok device else .error .enoent

/-- A device path with a space is not found under its encoding. -/
private theorem not_decodesMounts_of_space (wellFormed : ∀ e ∈ entries, e.WellFormed)
    {e : MountEntry} (member : e ∈ entries) (space : ' ' ∈ e.device) :
    ¬ DecodesMounts (only e.device) entries := by
  have missed (other : MountEntry) : only e.device (escape other.device) = .error .enoent := by
    apply if_neg
    intro same
    exact space_not_mem_escape other.device (same ▸ space)
  have empty : only e.device [] = .error .enoent :=
    if_neg fun same => (wellFormed e member).named same.symm
  rintro ⟨mountedDevices, returned, right⟩
  rw [getMountedDevices_eq wellFormed empty, if_neg (by simp [missed])] at returned
  obtain rfl := Except.ok.inj returned
  obtain ⟨before, last, after, split, same, later⟩ := exists_last ⟨e, member, rfl⟩
  have isLast : IsLast (only e.device) entries e.device last := by
    refine ⟨before, after, split, ?_, fun other behind found => ?_⟩
    · rw [same]
      exact if_pos rfl
    · rw [only, if_neg (later other behind)] at found
      cases found
  have stored := (right e.device last isLast).1
  rw [foldl_record_of_ne _ (by simp [missed])] at stored
  cases stored

/-- Mount table decoding: in a file system whose `realpath` fails in the expected ways
only, and without spaces in device paths, every device is mapped to the mount point of its
last entry exactly when these mount points hold neither a space nor a character with the
code 4. Any other failure of `realpath` ends the call with an exception, and a device path
with a space is one that some file system resolves and the map does not have. -/
theorem getMountedDevices_decodes_iff (entries : List MountEntry)
    (wellFormed : ∀ e ∈ entries, e.WellFormed) :
    (∀ realpath : List Char → Except Errno (List Char), realpath [] = .error .enoent →
      ((∃ e ∈ entries, realpath (escape e.device) = .error .other) →
        getMountedDevices realpath (mountTable entries) = .error "readlink") ∧
      ((∀ e ∈ entries, realpath (escape e.device) ≠ .error .other) →
        (∀ e ∈ entries, ' ' ∉ e.device) →
        (DecodesMounts realpath entries ↔ ∀ realPath e, IsLast realpath entries realPath e →
          ' ' ∉ e.mountPoint ∧ charFour ∉ e.mountPoint))) ∧
    ∀ e ∈ entries, ' ' ∈ e.device → ∃ realpath : List Char → Except Errno (List Char),
      realpath [] = .error .enoent ∧
        (∀ e ∈ entries, realpath (escape e.device) ≠ .error .other) ∧
        ¬ DecodesMounts realpath entries := by
  refine ⟨fun realpath empty => ⟨fun fatal => ?_, decodesMounts_iff wellFormed empty⟩, ?_⟩
  · rw [getMountedDevices_eq wellFormed empty, if_pos fatal]
  · intro e member space
    refine ⟨only e.device, ?_, fun other _ => ?_,
      not_decodesMounts_of_space wellFormed member space⟩
    · exact if_neg fun same => (wellFormed e member).named same.symm
    · unfold only
      split_ifs <;> simp

end Tables

section Example

def deviceSda : List Char := "/dev/sda1".toList

/-- A file system with one device. -/
def oneDevice (path : List Char) : Except Errno (List Char) :=
  if path = deviceSda then .ok path else .error .enoent

def spacedEntry : MountEntry :=
  ⟨deviceSda, "/mnt/my disk".toList, ["ext4".toList, "rw".toList, "0".toList, "0".toList]⟩

private theorem spacedEntry_wellFormed : spacedEntry.WellFormed :=
  ⟨by decide +kernel, by decide +kernel, by decide +kernel, by decide +kernel, by decide +kernel⟩

/-- The mount point comes out with the kernel's four characters in place of the space. -/
theorem spacedEntry_not_decoded :
    spacedEntry.WellFormed ∧
      getMountPoint oneDevice (mountTable [spacedEntry]) deviceSda =
        .ok "/mnt/my\\040disk".toList ∧
      ¬ DecodesMounts oneDevice [spacedEntry] := by
  have printed : getMountPoint oneDevice (mountTable [spacedEntry]) deviceSda =
      .ok "/mnt/my\\040disk".toList := by decide +kernel
  refine ⟨spacedEntry_wellFormed, printed, ?_⟩
  rintro ⟨mountedDevices, -, right⟩
  have isLast : IsLast oneDevice [spacedEntry] deviceSda spacedEntry :=
    ⟨[], [], rfl, by decide +kernel, nofun⟩
  have same := printed.symm.trans (right deviceSda spacedEntry isLast).2
  exact absurd same (by decide +kernel)

def plainEntry : MountEntry := ⟨deviceSda, "/mnt/data".toList, ["ext4".toList]⟩

theorem plainEntry_decoded : DecodesMounts oneDevice [plainEntry] := by
  have wellFormed : ∀ e ∈ [plainEntry], e.WellFormed := by
    intro e member
    rw [List.mem_singleton.mp member]
    exact ⟨by decide +kernel, by decide +kernel, by decide +kernel, by decide +kernel,
      by decide +kernel⟩
  refine (((getMountedDevices_decodes_iff [plainEntry] wellFormed).1 oneDevice
    (by decide +kernel)).2 (by decide +kernel) (by decide +kernel)).mpr ?_
  rintro realPath e ⟨before, after, split, -⟩
  have member : e ∈ [plainEntry] := by
    rw [split]
    simp
  rw [List.mem_singleton.mp member]
  decide +kernel

end Example

end LinuxAgent.BlockDevice
