/- module: LinuxAgent/BlockDevice/XfsInUse
   source: block_device/xfs_mountable_block_device.cc (GetInUseSectors)
   digest: The sectors in use of an XFS file system, from the text that xfs_db prints. -/

import LinuxAgent.Lib.Text
import LinuxAgent.UnsyncedSectors.Store

/-!
`GetInUseSectors` starts with all sectors of the device and takes away the free extents
that `xfs_db` lists: the number of an allocation group, a block in it and a number of
blocks. The two sizes that turn these into sectors are printed on lines of their own
before. Every other line is skipped, and the exit status of `xfs_db` is only logged.

The numbers are read with `std::stoi` and `std::stoll`, which throw when they do not fit.
The products are made at the types of their operands: one of `long long` that does not fit
is undefined, one of `uint64_t` wraps.
-/

set_option autoImplicit false
set_option relaxedAutoImplicit false

namespace LinuxAgent.BlockDevice.Xfs

open LinuxAgent.Lib.Segments LinuxAgent.Lib.Text LinuxAgent.UnsyncedSectors

/-- An exception, or a product or sum of `long long` that does not fit. -/
inductive Failure where
  | threw (what : String)
  | overflow
  deriving DecidableEq

/-- The local variables of the loop; `none` is the initial -1. -/
structure Scan where
  blockSize : Option ℕ
  agBlocks : Option ℕ
  inUseSectors : SectorSet

def stoi (digits : List Char) : Except Failure ℕ :=
  if Nat.ofDigitChars 10 digits 0 < 2 ^ 31 then .ok (Nat.ofDigitChars 10 digits 0)
  else .error (.threw "stoi")

def stoll (digits : List Char) : Except Failure ℕ :=
  if Nat.ofDigitChars 10 digits 0 < 2 ^ 63 then .ok (Nat.ofDigitChars 10 digits 0)
  else .error (.threw "stoll")

/-- A result of type `long long` that is not negative. -/
def longLong (value : ℕ) : Except Failure ℕ :=
  if value < 2 ^ 63 then .ok value else .error .overflow

def blockSizeText : List Char := "blocksize = ".toList

def agBlocksText : List Char := "agblocks = ".toList

/-- `BLOCK_SIZE_REGEX` and `AG_BLOCKS_REGEX`: the text, digits and a newline. -/
def matchSize (text line : List Char) : Option (List Char) :=
  if text.isPrefixOf line then
    match number (line.drop text.length) with
    | some (digits, rest) => if rest = ['\n'] then some digits else none
    | none => none
  else none

/-- `FREE_LIST_REGEX`: three numbers with spaces before them, and a newline. -/
def matchFreeList (line : List Char) : Option (List Char × List Char × List Char) := do
  let (first, rest) ← number (line.dropWhile (· = ' '))
  let (second, rest) ← spacedNumber rest
  let (third, rest) ← spacedNumber rest
  if rest = ['\n'] then some (first, second, third) else none

/-- The interval of a line of the free list. -/
def freeInterval (blockSize agBlocks : ℕ) (first second third : List Char) :
    Except Failure SectorInterval := do
  let product ← longLong ((← stoll first) * agBlocks)
  let startBlock ← longLong (product + (← stoll second))
  let startSector := startBlock * blockSize % 2 ^ 64 / 512
  let bytes ← longLong ((← stoll third) * blockSize)
  return ⟨startSector, (startSector + bytes / 512) % 2 ^ 64⟩

/-- The body of the loop. -/
def scanLine (scan : Scan) (line : List Char) : Except Failure Scan :=
  match matchSize blockSizeText line with
  | some digits => (stoi digits).map fun value => { scan with blockSize := some value }
  | none =>
  match matchSize agBlocksText line with
  | some digits => (stoi digits).map fun value => { scan with agBlocks := some value }
  | none =>
  match matchFreeList line with
  | some (first, second, third) =>
      match scan.blockSize, scan.agBlocks with
      | some blockSize, some agBlocks =>
          (freeInterval blockSize agBlocks first second third).map fun interval =>
            { scan with inUseSectors := scan.inUseSectors.erase interval }
      | _, _ => .error (.threw "Unexpected line")
  | none => .ok scan

/-- The string that begins at the address of a buffer. -/
def cString (buf : List Char) : List Char := buf.takeWhile (· ≠ Char.ofNat 0)

def getInUseSectors (deviceSizeBytes : ℕ) (xfsDbOut : List Char) : Except Failure SectorSet :=
  (((fgetsAll 1024 xfsDbOut).map cString).foldlM scanLine
    ⟨none, none, SectorSet.add .empty ⟨0, deviceSizeBytes / 512⟩⟩).map (·.inUseSectors)

/-- A free extent of the file system. -/
structure Extent where
  agno : ℕ
  agbno : ℕ
  blocks : ℕ
  deriving DecidableEq

/-- The sizes of the file system, in sectors and in blocks. -/
structure Geometry where
  sectorsPerBlock : ℕ
  agBlocks : ℕ
  positive : 0 < sectorsPerBlock ∧ 0 < agBlocks
  small : 512 * sectorsPerBlock < 2 ^ 31 ∧ agBlocks < 2 ^ 31

namespace Geometry

variable (g : Geometry)

def startBlock (e : Extent) : ℕ := e.agno * g.agBlocks + e.agbno

/-- The sectors of an extent. -/
def sectors (e : Extent) : SectorInterval :=
  ⟨g.startBlock e * g.sectorsPerBlock, (g.startBlock e + e.blocks) * g.sectorsPerBlock⟩

/-- The end of the extent, in bytes, is a `long long`. -/
def Fits (e : Extent) : Prop := (g.startBlock e + e.blocks) * (512 * g.sectorsPerBlock) < 2 ^ 63

instance (e : Extent) : Decidable (g.Fits e) :=
  inferInstanceAs (Decidable ((g.startBlock e + e.blocks) * (512 * g.sectorsPerBlock) < 2 ^ 63))

end Geometry

/-- What `xfs_db` prints: a free extent in columns that have some spaces in front of them, or
something else. -/
inductive Item where
  | extent (pad : ℕ × ℕ × ℕ) (e : Extent)
  | other (line : List Char)

def freeLine (pad : ℕ × ℕ × ℕ) (e : Extent) : List Char :=
  List.replicate pad.1 ' ' ++ (Nat.toDigits 10 e.agno ++
    (List.replicate (pad.2.1 + 1) ' ' ++ (Nat.toDigits 10 e.agbno ++
      (List.replicate (pad.2.2 + 1) ' ' ++ Nat.toDigits 10 e.blocks))))

namespace Item

def line : Item → List Char
  | .extent pad e => freeLine pad e
  | .other line => line

def extent? : Item → Option Extent
  | .extent _ e => some e
  | .other _ => none

/-- Lines fit into the buffer; extents are inside the file system; and something else is
a line that none of the expressions matches. -/
structure WellFormed (g : Geometry) (item : Item) : Prop where
  short : item.line.length + 1 < 1024
  fits : ∀ e, item.extent? = some e → g.Fits e
  skipped : ∀ line, item = .other line → '\n' ∉ line ∧ Char.ofNat 0 ∉ line ∧
    matchSize blockSizeText (line ++ ['\n']) = none ∧
    matchSize agBlocksText (line ++ ['\n']) = none ∧ matchFreeList (line ++ ['\n']) = none

end Item

/-- The lines with the two sizes. -/
def sizeLines (g : Geometry) : List (List Char) :=
  [blockSizeText ++ Nat.toDigits 10 (512 * g.sectorsPerBlock),
    agBlocksText ++ Nat.toDigits 10 g.agBlocks]

/-- The output of `xfs_db`. -/
def report (g : Geometry) (preamble : List (List Char)) (items : List Item) : List Char :=
  (preamble ++ sizeLines g ++ items.map Item.line).flatMap (· ++ ['\n'])

section Lines

variable {g : Geometry} {e : Extent}

private theorem newline_ends : ∀ c, ['\n'].head? = some c → c.isDigit = false := by
  intro c first
  obtain rfl := Option.some.inj first
  rfl

private theorem spaces_end {pad : ℕ} {rest : List Char} :
    ∀ c, (List.replicate (pad + 1) ' ' ++ rest).head? = some c → c.isDigit = false := by
  intro c first
  rw [List.replicate_succ, List.cons_append, List.head?_cons] at first
  obtain rfl := Option.some.inj first
  rfl

/-- A line that begins with another character is none with that size. -/
private theorem matchSize_of_ne {c d : Char} {text line : List Char} (apart : c ≠ d) :
    matchSize (c :: text) (d :: line) = none := by
  simp [matchSize, List.isPrefixOf, apart]

private theorem matchSize_toDigits (text : List Char) (n : ℕ) :
    matchSize text (text ++ Nat.toDigits 10 n ++ ['\n']) = some (Nat.toDigits 10 n) := by
  have begins : text.isPrefixOf (text ++ Nat.toDigits 10 n ++ ['\n']) = true := by
    rw [List.isPrefixOf_iff_prefix, List.append_assoc]
    exact List.prefix_append _ _
  rw [matchSize, if_pos begins, List.append_assoc, List.drop_left,
    number_toDigits n newline_ends]
  rfl

private theorem matchFreeList_freeLine (pad : ℕ × ℕ × ℕ) (e : Extent) :
    matchFreeList (freeLine pad e ++ ['\n']) =
      some (Nat.toDigits 10 e.agno, Nat.toDigits 10 e.agbno, Nat.toDigits 10 e.blocks) := by
  unfold matchFreeList freeLine
  simp only [List.append_assoc]
  rw [dropWhile_spaces, number_toDigits e.agno spaces_end]
  simp only [Option.bind_eq_bind, Option.bind_some]
  rw [spacedNumber_toDigits pad.2.1 e.agbno spaces_end]
  simp only [Option.bind_some]
  rw [spacedNumber_toDigits pad.2.2 e.blocks newline_ends]
  rfl

/-- A line of the free list begins with a space or with a digit. -/
private theorem head_freeLine (pad : ℕ × ℕ × ℕ) (e : Extent) :
    ∃ c rest, freeLine pad e ++ ['\n'] = c :: rest ∧ c ≠ 'b' ∧ c ≠ 'a' := by
  obtain ⟨first, pads⟩ := pad
  cases first with
  | succ first => exact ⟨' ', _, rfl, by decide, by decide⟩
  | zero =>
      cases digits : Nat.toDigits 10 e.agno with
      | nil => exact absurd digits Nat.toDigits_ne_nil
      | cons c more =>
          have digit : c.isDigit = true :=
            digit_of_mem_toDigits (n := e.agno) (by rw [digits]; exact List.mem_cons_self)
          refine ⟨c, _, by simp [freeLine, digits]; rfl, ?_, ?_⟩
          · rintro rfl
            exact absurd digit (by decide)
          · rintro rfl
            exact absurd digit (by decide)

/-- The extent of a line inside the file system, without overflow or exception. -/
private theorem freeInterval_toDigits (fits : g.Fits e) :
    freeInterval (512 * g.sectorsPerBlock) g.agBlocks (Nat.toDigits 10 e.agno)
      (Nat.toDigits 10 e.agbno) (Nat.toDigits 10 e.blocks) = .ok (g.sectors e) := by
  obtain ⟨sectorsPositive, agPositive⟩ := g.positive
  unfold Geometry.Fits Geometry.startBlock at fits
  set bytes := 512 * g.sectorsPerBlock with defined
  have bytesPositive : 0 < bytes := by omega
  have blocksFit : e.agno * g.agBlocks + e.agbno + e.blocks < 2 ^ 63 :=
    lt_of_le_of_lt (Nat.le_mul_of_pos_right _ bytesPositive) fits
  have agnoFits : e.agno < 2 ^ 63 := by
    have below := Nat.le_mul_of_pos_right e.agno agPositive
    omega
  have productFits : (e.agno * g.agBlocks + e.agbno) * bytes + e.blocks * bytes < 2 ^ 63 := by
    rw [← Nat.add_mul]
    exact fits
  have start : (e.agno * g.agBlocks + e.agbno) * bytes % 2 ^ 64 / 512 =
      (e.agno * g.agBlocks + e.agbno) * g.sectorsPerBlock := by
    rw [Nat.mod_eq_of_lt (by omega), defined, Nat.mul_left_comm,
      Nat.mul_div_cancel_left _ (by omega)]
  have length : e.blocks * bytes / 512 = e.blocks * g.sectorsPerBlock := by
    rw [defined, Nat.mul_left_comm, Nat.mul_div_cancel_left _ (by omega)]
  have stop : ((e.agno * g.agBlocks + e.agbno) * g.sectorsPerBlock +
      e.blocks * g.sectorsPerBlock) % 2 ^ 64 =
      (e.agno * g.agBlocks + e.agbno + e.blocks) * g.sectorsPerBlock := by
    rw [← Nat.add_mul, Nat.mod_eq_of_lt]
    rw [defined, Nat.mul_left_comm] at fits
    omega
  have read (n : ℕ) (small : n < 2 ^ 63) : stoll (Nat.toDigits 10 n) = .ok n := by
    rw [stoll, Nat.ofDigitChars_ten_toDigits, if_pos small]
  have kept (n : ℕ) (small : n < 2 ^ 63) : longLong n = .ok n := if_pos small
  simp only [freeInterval, read e.agno agnoFits, read e.agbno (by omega), read e.blocks (by omega),
    bind, Except.bind, pure, Except.pure]
  rw [kept _ (by omega)]
  simp only
  rw [kept _ (by omega)]
  simp only
  rw [kept _ (by omega)]
  simp only [start, length, stop, Geometry.sectors, Geometry.startBlock]

/-- A line of the free list takes its extent away. -/
private theorem scanLine_freeLine {scan : Scan} (pad : ℕ × ℕ × ℕ) (fits : g.Fits e)
    (blockSize : scan.blockSize = some (512 * g.sectorsPerBlock))
    (agBlocks : scan.agBlocks = some g.agBlocks) :
    scanLine scan (freeLine pad e ++ ['\n']) =
      .ok { scan with inUseSectors := scan.inUseSectors.erase (g.sectors e) } := by
  obtain ⟨c, rest, begins, notB, notA⟩ := head_freeLine pad e
  have noBlockSize : matchSize blockSizeText (freeLine pad e ++ ['\n']) = none := by
    rw [begins]
    exact matchSize_of_ne notB.symm
  have noAgBlocks : matchSize agBlocksText (freeLine pad e ++ ['\n']) = none := by
    rw [begins]
    exact matchSize_of_ne notA.symm
  simp only [scanLine, noBlockSize, noAgBlocks, matchFreeList_freeLine, blockSize, agBlocks,
    freeInterval_toDigits fits]
  rfl

/-- The two lines with the sizes set them. -/
private theorem scanLine_sizes (g : Geometry) (scan : Scan) :
    ((sizeLines g).map (· ++ ['\n'])).foldlM scanLine scan =
      .ok ⟨some (512 * g.sectorsPerBlock), some g.agBlocks, scan.inUseSectors⟩ := by
  have read (n : ℕ) (small : n < 2 ^ 31) : stoi (Nat.toDigits 10 n) = .ok n := by
    rw [stoi, Nat.ofDigitChars_ten_toDigits, if_pos small]
  have noBlockSize :
      matchSize blockSizeText (agBlocksText ++ Nat.toDigits 10 g.agBlocks ++ ['\n']) = none :=
    matchSize_of_ne (by decide)
  simp only [sizeLines, List.map_cons, List.map_nil, List.foldlM_cons, List.foldlM_nil, scanLine,
    matchSize_toDigits, noBlockSize, read _ g.small.1, read _ g.small.2]
  rfl

end Lines

section Report

variable {g : Geometry}

/-- The sectors that no extent of the list has. -/
private def without (g : Geometry) (sectors : SectorSet) (extents : List Extent) : SectorSet :=
  extents.foldl (fun sectors e => sectors.erase (g.sectors e)) sectors

private theorem lookup_without (sectors : SectorSet) (extents : List Extent) (sector : ℕ) :
    ((without g sectors extents).lookup sector).isSome = true ↔
      (sectors.lookup sector).isSome = true ∧ ∀ e ∈ extents, sector ∉ g.sectors e := by
  induction extents generalizing sectors with
  | nil => simp [without]
  | cons e extents ih =>
      have rest := ih (sectors.erase (g.sectors e))
      rw [without, List.foldl_cons]
      unfold without at rest
      rw [rest, IntervalMap.lookup_erase, List.forall_mem_cons]
      by_cases inside : sector ∈ g.sectors e <;> simp [inside]

/-- Lines that nothing matches change nothing. -/
private theorem scan_skipped (scan : Scan) (lines : List (List Char))
    (skipped : ∀ line ∈ lines, matchSize blockSizeText (line ++ ['\n']) = none ∧
      matchSize agBlocksText (line ++ ['\n']) = none ∧ matchFreeList (line ++ ['\n']) = none) :
    (lines.map (· ++ ['\n'])).foldlM scanLine scan = .ok scan := by
  induction lines with
  | nil => rfl
  | cons line lines ih =>
      rw [List.forall_mem_cons] at skipped
      obtain ⟨blockSize, agBlocks, freeList⟩ := skipped.1
      have same : scanLine scan (line ++ ['\n']) = .ok scan := by
        simp only [scanLine, blockSize, agBlocks, freeList]
      rw [List.map_cons, List.foldlM_cons, same]
      exact ih skipped.2

/-- The items take their extents away, one after the other. -/
private theorem scan_items (scan : Scan) (items : List Item)
    (wellFormed : ∀ item ∈ items, item.WellFormed g)
    (blockSize : scan.blockSize = some (512 * g.sectorsPerBlock))
    (agBlocks : scan.agBlocks = some g.agBlocks) :
    ((items.map Item.line).map (· ++ ['\n'])).foldlM scanLine scan =
      .ok { scan with
        inUseSectors := without g scan.inUseSectors (items.filterMap Item.extent?) } := by
  induction items generalizing scan with
  | nil => rfl
  | cons item items ih =>
      rw [List.forall_mem_cons] at wellFormed
      rw [List.map_cons, List.map_cons, List.foldlM_cons]
      cases item with
      | other line =>
          obtain ⟨_, _, none_size, none_ag, none_free⟩ := wellFormed.1.skipped line rfl
          have same : scanLine scan (line ++ ['\n']) = .ok scan := by
            simp only [scanLine, none_size, none_ag, none_free]
          rw [Item.line, same, List.filterMap_cons_none rfl]
          exact ih scan wellFormed.2 blockSize agBlocks
      | extent pad e =>
          have taken := scanLine_freeLine pad (wellFormed.1.fits e rfl) blockSize agBlocks
          rw [Item.line, taken, List.filterMap_cons_some (f := Item.extent?) rfl]
          exact ih _ wellFormed.2 blockSize agBlocks

/-- A character that ends neither a line nor a string. -/
private def Plain (c : Char) : Prop := c ≠ '\n' ∧ c ≠ Char.ofNat 0

private theorem plain_digits {n : ℕ} : ∀ c ∈ Nat.toDigits 10 n, Plain c := by
  intro c member
  have digit := digit_of_mem_toDigits member
  constructor <;>
    · rintro rfl
      exact absurd digit (by decide)

private theorem plain_freeLine (pad : ℕ × ℕ × ℕ) (e : Extent) : ∀ c ∈ freeLine pad e, Plain c := by
  have space : Plain ' ' := ⟨by decide, by decide⟩
  intro c member
  simp only [freeLine, List.mem_append, List.mem_replicate] at member
  rcases member with ⟨_, rfl⟩ | digit | ⟨_, rfl⟩ | digit | ⟨_, rfl⟩ | digit
  · exact space
  · exact plain_digits c digit
  · exact space
  · exact plain_digits c digit
  · exact space
  · exact plain_digits c digit

private theorem plain_sizeLines (g : Geometry) : ∀ line ∈ sizeLines g, ∀ c ∈ line, Plain c := by
  have tested : (blockSizeText ++ agBlocksText).all
      (fun c => decide (c ≠ '\n') && decide (c ≠ Char.ofNat 0)) = true := by decide
  have texts : ∀ c ∈ blockSizeText ++ agBlocksText, Plain c := fun c member => by
    have both := List.all_eq_true.mp tested c member
    rw [Bool.and_eq_true, decide_eq_true_eq, decide_eq_true_eq] at both
    exact both
  simp only [sizeLines, List.mem_cons, List.not_mem_nil, or_false, forall_eq_or_imp, forall_eq,
    List.mem_append]
  constructor
  · rintro c (text | digit)
    · exact texts c (List.mem_append_left _ text)
    · exact plain_digits c digit
  · rintro c (text | digit)
    · exact texts c (List.mem_append_right _ text)
    · exact plain_digits c digit

/-- The lines with the sizes are short: their numbers have ten digits at most. -/
private theorem short_sizeLines (g : Geometry) : ∀ line ∈ sizeLines g, line.length + 1 < 1024 := by
  have digits (n : ℕ) (small : n < 2 ^ 31) : (Nat.toDigits 10 n).length ≤ 10 := by
    rw [Nat.length_toDigits_le_iff (by decide) (by decide)]
    exact lt_trans small (by decide)
  have first := digits _ g.small.1
  have second := digits _ g.small.2
  have texts : blockSizeText.length = 12 ∧ agBlocksText.length = 11 := by decide
  simp only [sizeLines, List.mem_cons, List.not_mem_nil, or_false, forall_eq_or_imp, forall_eq,
    List.length_append]
  omega

private theorem cString_line {line : List Char} (plain : ∀ c ∈ line, Plain c) :
    cString (line ++ ['\n']) = line ++ ['\n'] := by
  unfold cString
  rw [List.takeWhile_eq_self_iff]
  intro c member
  rcases List.mem_append.mp member with inside | last
  · simpa using (plain c inside).2
  · obtain rfl := List.mem_singleton.mp last
    decide

private theorem plain_item {item : Item} (wellFormed : item.WellFormed g) :
    ∀ c ∈ item.line, Plain c := by
  cases item with
  | extent pad e => exact plain_freeLine pad e
  | other line =>
      obtain ⟨newline, zero, _⟩ := wellFormed.skipped line rfl
      intro c member
      exact ⟨fun same => newline (same ▸ member), fun same => zero (same ▸ member)⟩

/-- The lines reach the expressions as they were printed. -/
private theorem lines_report {lines : List (List Char)}
    (plain : ∀ line ∈ lines, ∀ c ∈ line, Plain c)
    (short : ∀ line ∈ lines, line.length + 1 < 1024) :
    (fgetsAll 1024 (lines.flatMap (· ++ ['\n']))).map cString = lines.map (· ++ ['\n']) := by
  rw [fgetsAll_lines (fun line member newline => (plain line member _ newline).1 rfl) short,
    List.map_map]
  exact List.map_congr_left fun line member => cString_line (plain line member)

/-- Reading undoes printing: for every geometry and every list of free extents inside the
file system, printed in any order, with any spacing and with other lines in between, the
result is exactly the sectors of the device that are in none of the extents. -/
theorem getInUseSectors_report (g : Geometry) (deviceSizeBytes : ℕ) (preamble : List (List Char))
    (items : List Item) (wellFormed : ∀ item ∈ items, item.WellFormed g)
    (unmatched : ∀ line ∈ preamble, (Item.other line).WellFormed g) :
    ∃ sectors, getInUseSectors deviceSizeBytes (report g preamble items) = .ok sectors ∧
      ∀ sector, (sectors.lookup sector).isSome = true ↔
        sector < deviceSizeBytes / 512 ∧
          ∀ e ∈ items.filterMap Item.extent?, sector ∉ g.sectors e := by
  let printed := preamble ++ sizeLines g ++ items.map Item.line
  have each {P : List Char → Prop} (first : ∀ line ∈ preamble, P line)
      (second : ∀ line ∈ sizeLines g, P line) (third : ∀ item ∈ items, P item.line) :
      ∀ line ∈ printed, P line := by
    intro line member
    simp only [printed, List.mem_append, List.mem_map] at member
    rcases member with (before | size) | ⟨item, listed, rfl⟩
    · exact first line before
    · exact second line size
    · exact third item listed
  have lines : (fgetsAll 1024 (report g preamble items)).map cString =
      printed.map (· ++ ['\n']) := by
    refine lines_report ?_ ?_
    · exact each (P := fun line => ∀ c ∈ line, Plain c)
        (fun line member => plain_item (unmatched line member)) (plain_sizeLines g)
        fun item member => plain_item (wellFormed item member)
    · exact each (P := fun line => line.length + 1 < 1024)
        (fun line member => (unmatched line member).short) (short_sizeLines g)
        fun item member => (wellFormed item member).short
  have skipped := scan_skipped
    ⟨none, none, SectorSet.add .empty ⟨0, deviceSizeBytes / 512⟩⟩ preamble
    fun line member => ((unmatched line member).skipped line rfl).2.2
  refine ⟨without g (SectorSet.add .empty ⟨0, deviceSizeBytes / 512⟩)
    (items.filterMap Item.extent?), ?_, fun sector => ?_⟩
  · rw [getInUseSectors, lines]
    simp only [printed, List.map_append, List.foldlM_append, skipped, bind, Except.bind]
    rw [scanLine_sizes]
    simp only
    rw [scan_items _ items wellFormed rfl rfl]
    rfl
  · rw [lookup_without, SectorSet.contains_add]
    simp [mem_interval]

end Report

/-- Blocks of eight sectors, and groups of a thousand blocks. -/
def smallFileSystem : Geometry := ⟨8, 1000, by decide, by decide⟩

/-- Four blocks of the first group and one of the second, with a line of the histogram. -/
def twoExtents : List Item :=
  [.extent (7, 5, 6) ⟨0, 10, 4⟩, .extent (7, 4, 6) ⟨1, 999, 1⟩,
    .other "      1       1       4       4   0.10".toList]

private theorem twoExtents_wellFormed : ∀ item ∈ twoExtents, item.WellFormed smallFileSystem := by
  have extent (pad : ℕ × ℕ × ℕ) (e : Extent) (short : (freeLine pad e).length + 1 < 1024)
      (fits : smallFileSystem.Fits e) : (Item.extent pad e).WellFormed smallFileSystem := by
    refine ⟨short, fun other same => ?_, fun line same => by cases same⟩
    obtain rfl := Option.some.inj same
    exact fits
  simp only [twoExtents, List.forall_mem_cons, List.not_mem_nil, false_implies, implies_true,
    and_true]
  refine ⟨extent _ _ (by decide) (by decide), extent _ _ (by decide) (by decide), by decide,
    by simp [Item.extent?], fun line same => ?_⟩
  obtain rfl := Item.other.inj same
  decide +kernel

theorem getInUseSectors_report_twoExtents :
    ∃ sectors, getInUseSectors (512 * 16000) (report smallFileSystem [] twoExtents) = .ok sectors ∧
      (sectors.lookup 79).isSome = true ∧ (sectors.lookup 80).isSome = false ∧
      (sectors.lookup 15999).isSome = false := by
  obtain ⟨sectors, returned, inUse⟩ := getInUseSectors_report smallFileSystem (512 * 16000) []
    twoExtents twoExtents_wellFormed (by simp)
  refine ⟨sectors, returned, (inUse 79).mpr (by decide), ?_, ?_⟩
  · rw [← Bool.not_eq_true, inUse]
    decide
  · rw [← Bool.not_eq_true, inUse]
    decide

end LinuxAgent.BlockDevice.Xfs
