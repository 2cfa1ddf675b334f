/- module: LinuxAgent/BlockDevice/ExtInUse
   source: block_device/ext_mountable_block_device.cc (GetInUseSectors), block_device/tools.h
   digest: The sectors in use of an ext file system, from its geometry and its block bitmap. -/

import LinuxAgent.UnsyncedSectors.Store

/-!
`GetInUseSectors` walks over the groups of the file system and over the blocks of each
group. The block bitmap is read by libext2fs into a buffer that is as large as one group
needs, and what a read or a write outside of that buffer does is not defined: then there
is no result. All arithmetic is that of the variables' types.
-/

set_option autoImplicit false
set_option relaxedAutoImplicit false

namespace LinuxAgent.BlockDevice

open LinuxAgent.Lib.Segments LinuxAgent.UnsyncedSectors

/-- The fields of the superblock that are read, and the number of groups. -/
structure ExtSuper where
  sBlocksPerGroup : UInt32
  sLogBlockSize : UInt32
  sFirstDataBlock : UInt32
  sBlocksCount : UInt32
  groupDescCount : UInt32
  deriving DecidableEq

/-- The macro `my_roundup(n, m)` at the type of its arguments. -/
def myRoundup (n m : UInt32) : UInt32 := m * (((n - 1) / m) + 1)

namespace ExtSuper

variable (super : ExtSuper)

def blockSize : UInt32 := 0x400 <<< super.sLogBlockSize

def sectorsPerBlock : UInt64 := (super.blockSize / 512).toUInt64

def bitmapSize : UInt32 := myRoundup super.sBlocksPerGroup 8 / 8

/-- The number of the first block of a group. -/
def curGroupBlockOffset (i : UInt64) : UInt64 :=
  super.sFirstDataBlock.toUInt64 + i * super.sBlocksPerGroup.toUInt64

/-- The values of `j` for which the body of the inner loop runs. -/
def blocksOfGroup (i : UInt64) : List UInt64 :=
  ((List.range super.sBlocksPerGroup.toNat).map UInt64.ofNat).takeWhile fun j =>
    j + super.curGroupBlockOffset i < super.sBlocksCount.toUInt64

def sectorLocation (curBlockOffset : UInt64) : UInt64 := super.sectorsPerBlock * curBlockOffset

end ExtSuper

/-- `ext2fs_get_block_bitmap_range` into a buffer of `size` bytes: the bits that it leaves
there, if they fit. -/
def getBlockBitmapRange (bitmap : ℕ → Bool) (start num size : UInt32) : Option (ℕ → Bool) :=
  if num.toNat ≤ 8 * size.toNat then some fun bit => bitmap (start.toNat + bit) else none

/-- `ext2fs_test_bit` on a buffer of `size` bytes. -/
def ext2fsTestBit (size : UInt32) (buffer : ℕ → Bool) (nr : UInt32) : Option Bool :=
  if nr.toNat / 8 < size.toNat then some (buffer nr.toNat) else none

namespace ExtSuper

variable (super : ExtSuper)

/-- The body of the inner loop. -/
def addBlock (i : UInt64) (buffer : ℕ → Bool) (sectors : SectorSet) (j : UInt64) :
    Option SectorSet :=
  (ext2fsTestBit super.bitmapSize buffer j.toUInt32).map fun isSet =>
    if isSet then
      let sectorLocation := super.sectorLocation (super.curGroupBlockOffset i + j)
      sectors.add ⟨sectorLocation.toNat, (sectorLocation + super.sectorsPerBlock).toNat⟩
    else sectors

/-- The body of the outer loop. -/
def addGroup (bitmap : ℕ → Bool) (sectors : SectorSet) (i : UInt64) : Option SectorSet :=
  (getBlockBitmapRange bitmap (super.curGroupBlockOffset i).toUInt32 super.sBlocksPerGroup
    super.bitmapSize).bind fun buffer =>
      (super.blocksOfGroup i).foldlM (super.addBlock i buffer) sectors

def getInUseSectors (bitmap : ℕ → Bool) : Option SectorSet :=
  ((List.range super.groupDescCount.toNat).map UInt64.ofNat).foldlM (super.addGroup bitmap)
    (SectorSet.add .empty ⟨0, 2⟩)

end ExtSuper

/-- The geometry of an ext file system: the first block is 1 exactly for blocks of one
kibibyte, and there are as many groups as the blocks need. -/
structure ExtGeometry extends ExtSuper where
  positive : 1 ≤ sBlocksPerGroup.toNat
  first : sFirstDataBlock = if sLogBlockSize = 0 then 1 else 0
  groups : groupDescCount.toNat =
    (sBlocksCount.toNat - sFirstDataBlock.toNat + sBlocksPerGroup.toNat - 1) /
      sBlocksPerGroup.toNat

/-- The sector is one of the first two, or belongs to an allocated block. -/
def ExtGeometry.InUse (g : ExtGeometry) (bitmap : ℕ → Bool) (sector : ℕ) : Prop :=
  sector < 2 ∨ ∃ block, g.sFirstDataBlock.toNat ≤ block ∧ block < g.sBlocksCount.toNat ∧
    bitmap block = true ∧ block * 2 ^ (g.sLogBlockSize.toNat + 1) ≤ sector ∧
      sector < (block + 1) * 2 ^ (g.sLogBlockSize.toNat + 1)

/-- Every product and sum is the one of the numbers themselves. -/
structure ExtGeometry.NoWrap (g : ExtGeometry) : Prop where
  blockSize : g.blockSize.toNat = 1024 * 2 ^ g.sLogBlockSize.toNat
  roundup : (myRoundup g.sBlocksPerGroup 8).toNat = 8 * ((g.sBlocksPerGroup.toNat - 1) / 8 + 1)
  offset : ∀ i < g.groupDescCount.toNat, (g.curGroupBlockOffset (UInt64.ofNat i)).toNat =
    g.sFirstDataBlock.toNat + i * g.sBlocksPerGroup.toNat
  start : ∀ i < g.groupDescCount.toNat, (g.curGroupBlockOffset (UInt64.ofNat i)).toUInt32.toNat =
    g.sFirstDataBlock.toNat + i * g.sBlocksPerGroup.toNat
  block : ∀ i < g.groupDescCount.toNat, ∀ j < g.sBlocksPerGroup.toNat,
    (UInt64.ofNat j + g.curGroupBlockOffset (UInt64.ofNat i)).toNat =
      g.sFirstDataBlock.toNat + i * g.sBlocksPerGroup.toNat + j
  location : ∀ block < g.sBlocksCount.toNat,
    (g.sectorLocation (UInt64.ofNat block)).toNat = block * g.sectorsPerBlock.toNat
  locationEnd : ∀ block < g.sBlocksCount.toNat,
    (g.sectorLocation (UInt64.ofNat block) + g.sectorsPerBlock).toNat =
      (block + 1) * g.sectorsPerBlock.toNat

/-- The result is exactly the set of the sectors in use, no computation wraps, and every
bit that is tested is in the buffer. -/
structure ExtGeometry.Exact (g : ExtGeometry) (bitmap : ℕ → Bool) : Prop where
  noWrap : g.NoWrap
  tested : ∀ i < g.groupDescCount.toNat, ∀ j ∈ g.blocksOfGroup (UInt64.ofNat i),
    j.toUInt32.toNat = j.toNat ∧ j.toNat / 8 < g.bitmapSize.toNat
  returned : ∃ sectors, g.getInUseSectors bitmap = some sectors ∧
    ∀ sector, (sectors.lookup sector).isSome = true ↔ g.InUse bitmap sector

/-! ### Loops that only add -/

private theorem takeWhile_eq_filter {α : Type} {p : α → Bool} {l : List α}
    (closed : l.Pairwise fun a b => p b = true → p a = true) : l.takeWhile p = l.filter p := by
  induction l with
  | nil => rfl
  | cons a l ih =>
    obtain ⟨first, rest⟩ := List.pairwise_cons.mp closed
    cases holds : p a with
    | true => simp [holds, ih rest]
    | false =>
      have none_later : ∀ b ∈ l, ¬ p b = true := by
        intro b member later
        have earlier := first b member later
        simp [holds] at earlier
      simp only [List.takeWhile_cons, List.filter_cons, holds, Bool.false_eq_true, if_false]
      exact (List.filter_eq_nil_iff.mpr none_later).symm

/-- A loop whose every pass returns and adds `A a` to the set adds all of them. -/
private theorem foldlM_adds {α : Type} {f : SectorSet → α → Option SectorSet}
    {A : α → ℕ → Prop} {l : List α}
    (adds : ∀ sectors, ∀ a ∈ l, ∃ after, f sectors a = some after ∧
      ∀ sector, (after.lookup sector).isSome = true ↔
        (sectors.lookup sector).isSome = true ∨ A a sector) (sectors : SectorSet) :
    ∃ after, l.foldlM f sectors = some after ∧
      ∀ sector, (after.lookup sector).isSome = true ↔
        (sectors.lookup sector).isSome = true ∨ ∃ a ∈ l, A a sector := by
  induction l generalizing sectors with
  | nil => exact ⟨sectors, rfl, by simp⟩
  | cons a l ih =>
    obtain ⟨middle, first, contents⟩ := adds sectors a List.mem_cons_self
    obtain ⟨after, rest, later⟩ :=
      ih (fun sectors b member => adds sectors b (List.mem_cons_of_mem a member)) middle
    refine ⟨after, ?_, ?_⟩
    · rw [List.foldlM_cons, first]
      exact rest
    · intro sector
      rw [later, contents, or_assoc]
      simp

/-! ### The arithmetic of the variables' types -/

private theorem toNat_blockSize_iff (super : ExtSuper) :
    super.blockSize.toNat = 1024 * 2 ^ super.sLogBlockSize.toNat ↔
      super.sLogBlockSize.toNat ≤ 21 := by
  constructor
  · intro exact
    have bound : 2 ^ (10 + super.sLogBlockSize.toNat) < 2 ^ 32 := by
      rw [Nat.pow_add]
      exact exact ▸ super.blockSize.toNat_lt
    have small := (Nat.pow_lt_pow_iff_right (by decide)).mp bound
    omega
  · intro small
    have shift : super.sLogBlockSize.toNat % 32 = super.sLogBlockSize.toNat :=
      Nat.mod_eq_of_lt (by omega)
    have bound : 2 ^ super.sLogBlockSize.toNat ≤ 2 ^ 21 :=
      Nat.pow_le_pow_right (by decide) small
    have unwrapped : 1024 * 2 ^ super.sLogBlockSize.toNat < 2 ^ 32 := by omega
    rw [ExtSuper.blockSize, UInt32.toNat_shiftLeft, shift, Nat.shiftLeft_eq]
    exact Nat.mod_eq_of_lt unwrapped

private theorem toNat_myRoundup_iff {n : UInt32} (positive : 1 ≤ n.toNat) :
    (myRoundup n 8).toNat = 8 * ((n.toNat - 1) / 8 + 1) ↔ n.toNat ≤ 2 ^ 32 - 8 := by
  have bound := n.toNat_lt
  have before : (n - 1).toNat = n.toNat - 1 := by
    rw [UInt32.toNat_sub]
    simp only [UInt32.toNat_one]
    omega
  have wrapped : (myRoundup n 8).toNat = 8 * ((n.toNat - 1) / 8 + 1) % 2 ^ 32 := by
    simp only [myRoundup, UInt32.toNat_mul, UInt32.toNat_add, UInt32.toNat_div, before,
      UInt32.toNat_one, UInt32.reduceToNat]
    omega
  rw [wrapped]
  omega

private theorem toNat_ofNat_word {n : ℕ} (small : n < 2 ^ 32) : (UInt64.ofNat n).toNat = n := by
  rw [UInt64.toNat_ofNat']
  exact Nat.mod_eq_of_lt (by omega)

namespace ExtGeometry

variable {g : ExtGeometry}

/-- Every group begins before the last block. -/
private theorem offset_lt {i : ℕ} (inside : i < g.groupDescCount.toNat) :
    g.sFirstDataBlock.toNat + i * g.sBlocksPerGroup.toNat < g.sBlocksCount.toNat := by
  rw [g.groups, Nat.lt_div_iff_mul_lt g.positive] at inside
  omega

/-- The block `b` is the one with number `(b - first) % n` of the group `(b - first) / n`. -/
private theorem group_of_block {block : ℕ} (lower : g.sFirstDataBlock.toNat ≤ block)
    (upper : block < g.sBlocksCount.toNat) :
    ∃ i < g.groupDescCount.toNat, ∃ j < g.sBlocksPerGroup.toNat,
      block = g.sFirstDataBlock.toNat + i * g.sBlocksPerGroup.toNat + j := by
  have positive := g.positive
  refine ⟨(block - g.sFirstDataBlock.toNat) / g.sBlocksPerGroup.toNat, ?_,
    (block - g.sFirstDataBlock.toNat) % g.sBlocksPerGroup.toNat,
    Nat.mod_lt _ g.positive, ?_⟩
  · rw [g.groups, Nat.lt_div_iff_mul_lt positive]
    have below := Nat.div_mul_le_self (block - g.sFirstDataBlock.toNat) g.sBlocksPerGroup.toNat
    omega
  · have parts := Nat.div_add_mod' (block - g.sFirstDataBlock.toNat) g.sBlocksPerGroup.toNat
    omega

private theorem toNat_offset {i : ℕ} (inside : i < g.groupDescCount.toNat) :
    (g.curGroupBlockOffset (UInt64.ofNat i)).toNat =
      g.sFirstDataBlock.toNat + i * g.sBlocksPerGroup.toNat := by
  have below := offset_lt inside
  have count := g.sBlocksCount.toNat_lt
  have groups := g.groupDescCount.toNat_lt
  have index : (UInt64.ofNat i).toNat = i := toNat_ofNat_word (by omega)
  simp only [ExtSuper.curGroupBlockOffset, UInt64.toNat_add, UInt64.toNat_mul, index,
    UInt32.toNat_toUInt64]
  rw [Nat.mod_eq_of_lt (a := i * _) (by omega), Nat.mod_eq_of_lt (by omega)]

private theorem toNat_start {i : ℕ} (inside : i < g.groupDescCount.toNat) :
    (g.curGroupBlockOffset (UInt64.ofNat i)).toUInt32.toNat =
      g.sFirstDataBlock.toNat + i * g.sBlocksPerGroup.toNat := by
  have below := offset_lt inside
  have count := g.sBlocksCount.toNat_lt
  rw [UInt64.toNat_toUInt32, toNat_offset inside]
  exact Nat.mod_eq_of_lt (by omega)

private theorem toNat_index {j : ℕ} (inside : j < g.sBlocksPerGroup.toNat) :
    (UInt64.ofNat j).toNat = j := by
  have bound := g.sBlocksPerGroup.toNat_lt
  exact toNat_ofNat_word (by omega)

private theorem toNat_block {i j : ℕ} (inside : i < g.groupDescCount.toNat)
    (within : j < g.sBlocksPerGroup.toNat) :
    (UInt64.ofNat j + g.curGroupBlockOffset (UInt64.ofNat i)).toNat =
      g.sFirstDataBlock.toNat + i * g.sBlocksPerGroup.toNat + j := by
  have below := offset_lt inside
  have count := g.sBlocksCount.toNat_lt
  have bound := g.sBlocksPerGroup.toNat_lt
  rw [UInt64.toNat_add, toNat_index within, toNat_offset inside, Nat.mod_eq_of_lt (by omega)]
  omega

private theorem toNat_sectorsPerBlock (super : ExtSuper) :
    super.sectorsPerBlock.toNat = super.blockSize.toNat / 512 := by
  simp [ExtSuper.sectorsPerBlock]

private theorem sectors_lt (super : ExtSuper) {block : ℕ}
    (inside : block < super.sBlocksCount.toNat) :
    (block + 1) * super.sectorsPerBlock.toNat < 2 ^ 64 := by
  have count := super.sBlocksCount.toNat_lt
  have size := super.blockSize.toNat_lt
  have sectors : super.sectorsPerBlock.toNat < 2 ^ 32 := by
    rw [toNat_sectorsPerBlock]
    omega
  calc (block + 1) * super.sectorsPerBlock.toNat
      ≤ 2 ^ 32 * super.sectorsPerBlock.toNat := Nat.mul_le_mul_right _ (by omega)
    _ < 2 ^ 32 * 2 ^ 32 := Nat.mul_lt_mul_of_pos_left sectors (by decide)
    _ = 2 ^ 64 := by decide

private theorem toNat_location {block : ℕ} (inside : block < g.sBlocksCount.toNat) :
    (g.sectorLocation (UInt64.ofNat block)).toNat = block * g.sectorsPerBlock.toNat := by
  have count := g.sBlocksCount.toNat_lt
  have bound := sectors_lt g.toExtSuper inside
  rw [Nat.succ_mul] at bound
  rw [ExtSuper.sectorLocation, UInt64.toNat_mul, toNat_ofNat_word (by omega), Nat.mul_comm]
  exact Nat.mod_eq_of_lt (by omega)

private theorem toNat_locationEnd {block : ℕ} (inside : block < g.sBlocksCount.toNat) :
    (g.sectorLocation (UInt64.ofNat block) + g.sectorsPerBlock).toNat =
      (block + 1) * g.sectorsPerBlock.toNat := by
  have bound := sectors_lt g.toExtSuper inside
  rw [UInt64.toNat_add, toNat_location inside, ← Nat.succ_mul]
  exact Nat.mod_eq_of_lt bound

private theorem noWrap_of (small : g.sBlocksPerGroup.toNat ≤ 2 ^ 32 - 8)
    (shift : g.sLogBlockSize.toNat ≤ 21) : g.NoWrap where
  blockSize := (toNat_blockSize_iff g.toExtSuper).mpr shift
  roundup := (toNat_myRoundup_iff g.positive).mpr small
  offset _ inside := toNat_offset inside
  start _ inside := toNat_start inside
  block _ inside _ within := toNat_block inside within
  location _ inside := toNat_location inside
  locationEnd _ inside := toNat_locationEnd inside

/-- The inner loop runs for the blocks of the group that the file system has. -/
private theorem mem_blocksOfGroup {i : ℕ} (inside : i < g.groupDescCount.toNat) {j : UInt64} :
    j ∈ g.blocksOfGroup (UInt64.ofNat i) ↔ j.toNat < g.sBlocksPerGroup.toNat ∧
      g.sFirstDataBlock.toNat + i * g.sBlocksPerGroup.toNat + j.toNat < g.sBlocksCount.toNat := by
  have test : ∀ m < g.sBlocksPerGroup.toNat,
      (UInt64.ofNat m + g.curGroupBlockOffset (UInt64.ofNat i) < g.sBlocksCount.toUInt64 ↔
        g.sFirstDataBlock.toNat + i * g.sBlocksPerGroup.toNat + m < g.sBlocksCount.toNat) := by
    intro m within
    rw [UInt64.lt_iff_toNat_lt, toNat_block inside within, UInt32.toNat_toUInt64]
  rw [ExtSuper.blocksOfGroup, takeWhile_eq_filter]
  · simp only [List.mem_filter, List.mem_map, List.mem_range, decide_eq_true_eq]
    constructor
    · rintro ⟨⟨m, within, rfl⟩, before⟩
      rw [toNat_index within]
      exact ⟨within, (test m within).mp before⟩
    · rintro ⟨within, before⟩
      have same : UInt64.ofNat j.toNat = j := UInt64.ofNat_toNat
      exact ⟨⟨j.toNat, within, same⟩, same ▸ (test j.toNat within).mpr before⟩
  · rw [List.pairwise_map]
    refine List.pairwise_lt_range.imp_of_mem ?_
    intro a b first second order
    have within := List.mem_range.mp second
    simp only [decide_eq_true_eq, test b within, test a (order.trans within)]
    omega

/-! ### The two loops -/

private theorem toNat_bitmapSize (small : g.sBlocksPerGroup.toNat ≤ 2 ^ 32 - 8) :
    g.bitmapSize.toNat = (g.sBlocksPerGroup.toNat - 1) / 8 + 1 := by
  rw [ExtSuper.bitmapSize, UInt32.toNat_div, (toNat_myRoundup_iff g.positive).mpr small]
  exact Nat.mul_div_cancel_left _ (by decide)

private theorem tested_inside (small : g.sBlocksPerGroup.toNat ≤ 2 ^ 32 - 8) {j : UInt64}
    (within : j.toNat < g.sBlocksPerGroup.toNat) :
    j.toUInt32.toNat = j.toNat ∧ j.toNat / 8 < g.bitmapSize.toNat := by
  refine ⟨?_, ?_⟩
  · rw [UInt64.toNat_toUInt32]
    exact Nat.mod_eq_of_lt (by omega)
  · rw [toNat_bitmapSize small]
    omega

/-- What one allocated block adds. -/
private def OfBlock (g : ExtGeometry) (bitmap : ℕ → Bool) (block sector : ℕ) : Prop :=
  bitmap block = true ∧ block * g.sectorsPerBlock.toNat ≤ sector ∧
    sector < (block + 1) * g.sectorsPerBlock.toNat

private theorem addBlock_adds (small : g.sBlocksPerGroup.toNat ≤ 2 ^ 32 - 8) (bitmap : ℕ → Bool)
    {i : ℕ} (inside : i < g.groupDescCount.toNat) (sectors : SectorSet) {j : UInt64}
    (member : j ∈ g.blocksOfGroup (UInt64.ofNat i)) :
    ∃ after, g.addBlock (UInt64.ofNat i)
        (fun bit => bitmap (g.sFirstDataBlock.toNat + i * g.sBlocksPerGroup.toNat + bit))
        sectors j = some after ∧
      ∀ sector, (after.lookup sector).isSome = true ↔ (sectors.lookup sector).isSome = true ∨
        g.OfBlock bitmap (g.sFirstDataBlock.toNat + i * g.sBlocksPerGroup.toNat + j.toNat)
          sector := by
  obtain ⟨within, before⟩ := (mem_blocksOfGroup inside).mp member
  obtain ⟨narrow, covered⟩ := tested_inside small within
  have number : g.curGroupBlockOffset (UInt64.ofNat i) + j = UInt64.ofNat
      (g.sFirstDataBlock.toNat + i * g.sBlocksPerGroup.toNat + j.toNat) := by
    apply UInt64.toNat_inj.mp
    have sum := toNat_block inside within
    rw [UInt64.ofNat_toNat] at sum
    have count := g.sBlocksCount.toNat_lt
    rw [UInt64.add_comm, sum, toNat_ofNat_word (by omega)]
  rw [ExtSuper.addBlock, ext2fsTestBit, narrow, if_pos covered, Option.map_some]
  refine ⟨_, rfl, ?_⟩
  intro sector
  cases allocated :
      bitmap (g.sFirstDataBlock.toNat + i * g.sBlocksPerGroup.toNat + j.toNat) with
  | false => simp [OfBlock, allocated]
  | true =>
    simp only [if_true, SectorSet.contains_add, mem_interval, number, toNat_location before,
      toNat_locationEnd before, OfBlock, allocated, true_and]

private theorem addGroup_adds (small : g.sBlocksPerGroup.toNat ≤ 2 ^ 32 - 8) (bitmap : ℕ → Bool)
    {i : ℕ} (inside : i < g.groupDescCount.toNat) (sectors : SectorSet) :
    ∃ after, g.addGroup bitmap sectors (UInt64.ofNat i) = some after ∧
      ∀ sector, (after.lookup sector).isSome = true ↔ (sectors.lookup sector).isSome = true ∨
        ∃ j ∈ g.blocksOfGroup (UInt64.ofNat i),
          g.OfBlock bitmap (g.sFirstDataBlock.toNat + i * g.sBlocksPerGroup.toNat + j.toNat)
            sector := by
  have fits : g.sBlocksPerGroup.toNat ≤ 8 * g.bitmapSize.toNat := by
    rw [toNat_bitmapSize small]
    omega
  have buffer : getBlockBitmapRange bitmap (g.curGroupBlockOffset (UInt64.ofNat i)).toUInt32
      g.sBlocksPerGroup g.bitmapSize =
        some fun bit => bitmap (g.sFirstDataBlock.toNat + i * g.sBlocksPerGroup.toNat + bit) := by
    rw [getBlockBitmapRange, if_pos fits, toNat_start inside]
  rw [ExtSuper.addGroup, buffer, Option.bind_some]
  apply foldlM_adds
  intro sectors j member
  exact addBlock_adds small bitmap inside sectors member

private theorem inUse_iff (shift : g.sLogBlockSize.toNat ≤ 21) (bitmap : ℕ → Bool) (sector : ℕ) :
    g.InUse bitmap sector ↔ sector < 2 ∨ ∃ i < g.groupDescCount.toNat,
      ∃ j ∈ g.blocksOfGroup (UInt64.ofNat i),
        g.OfBlock bitmap (g.sFirstDataBlock.toNat + i * g.sBlocksPerGroup.toNat + j.toNat)
          sector := by
  have perBlock : g.sectorsPerBlock.toNat = 2 ^ (g.sLogBlockSize.toNat + 1) := by
    rw [toNat_sectorsPerBlock, (toNat_blockSize_iff g.toExtSuper).mpr shift, Nat.pow_succ]
    omega
  unfold InUse OfBlock
  rw [perBlock]
  refine or_congr_right ⟨?_, ?_⟩
  · rintro ⟨block, lower, upper, allocated⟩
    obtain ⟨i, inside, j, within, rfl⟩ := group_of_block lower upper
    have index := toNat_index within
    refine ⟨i, inside, UInt64.ofNat j, (mem_blocksOfGroup inside).mpr ?_, ?_⟩
    · rw [index]
      exact ⟨within, upper⟩
    · rw [index]
      exact allocated
  · rintro ⟨i, inside, j, member, allocated⟩
    obtain ⟨-, before⟩ := (mem_blocksOfGroup inside).mp member
    exact ⟨_, by omega, before, allocated⟩

private theorem getInUseSectors_inUse (small : g.sBlocksPerGroup.toNat ≤ 2 ^ 32 - 8)
    (shift : g.sLogBlockSize.toNat ≤ 21) (bitmap : ℕ → Bool) :
    ∃ sectors, g.getInUseSectors bitmap = some sectors ∧
      ∀ sector, (sectors.lookup sector).isSome = true ↔ g.InUse bitmap sector := by
  rw [ExtSuper.getInUseSectors, List.foldlM_map]
  obtain ⟨sectors, result, contents⟩ := foldlM_adds
    (fun sectors i member => addGroup_adds small bitmap (List.mem_range.mp member) sectors)
    (SectorSet.add .empty ⟨0, 2⟩)
  refine ⟨sectors, result, ?_⟩
  intro sector
  rw [contents, SectorSet.contains_add, inUse_iff shift]
  simp [mem_interval]

/-- The sectors in use are returned exactly, whatever the bitmap, for blocks of at most two
gibibytes and groups whose number of blocks can be rounded up to whole bytes in 32 bits, and
only for these. -/
theorem getInUseSectors_exact_iff (g : ExtGeometry) (bitmap : ℕ → Bool) :
    g.Exact bitmap ↔ g.sBlocksPerGroup.toNat ≤ 2 ^ 32 - 8 ∧ g.sLogBlockSize.toNat ≤ 21 := by
  constructor
  · intro exact
    exact ⟨(toNat_myRoundup_iff g.positive).mp exact.noWrap.roundup,
      (toNat_blockSize_iff g.toExtSuper).mp exact.noWrap.blockSize⟩
  · rintro ⟨small, shift⟩
    exact
      { noWrap := noWrap_of small shift
        tested := fun _ inside _ member =>
          tested_inside small ((mem_blocksOfGroup inside).mp member).1
        returned := getInUseSectors_inUse small shift bitmap }

/-- Two blocks in a group of 2 ^ 32 - 1. -/
private def oneLargeGroup : ExtGeometry :=
  { sBlocksPerGroup := 4294967295, sLogBlockSize := 2, sFirstDataBlock := 0, sBlocksCount := 2,
    groupDescCount := 1, positive := by decide, first := by decide, groups := by decide }

/-- Two blocks of four gibibytes. -/
private def largeBlocks : ExtGeometry :=
  { sBlocksPerGroup := 8, sLogBlockSize := 22, sFirstDataBlock := 0, sBlocksCount := 2,
    groupDescCount := 1, positive := by decide, first := by decide, groups := by decide }

/-- The buffer of a group of 2 ^ 32 - 1 blocks has no byte, and there is no result. Of blocks
of four gibibytes no sector but the first two is returned. -/
theorem largeGeometries_not_exact :
    oneLargeGroup.getInUseSectors (fun _ => true) = none ∧
      ¬ oneLargeGroup.Exact (fun _ => true) ∧
      (largeBlocks.getInUseSectors fun _ => true).map (fun sectors => (sectors.lookup 2).isSome) =
        some false ∧
      largeBlocks.InUse (fun _ => true) 2 ∧ ¬ largeBlocks.Exact (fun _ => true) := by
  have noBuffer : oneLargeGroup.getInUseSectors (fun _ => true) = none := by rfl
  have missed : (largeBlocks.getInUseSectors fun _ => true).map
      (fun sectors => (sectors.lookup 2).isSome) = some false := by decide +kernel
  have allocated : largeBlocks.InUse (fun _ => true) 2 :=
    Or.inr ⟨0, by decide, by decide, rfl, by decide, by decide⟩
  refine ⟨noBuffer, ?_, missed, allocated, ?_⟩
  · intro exact
    obtain ⟨sectors, result, -⟩ := exact.returned
    simp [noBuffer] at result
  · intro exact
    obtain ⟨sectors, result, contents⟩ := exact.returned
    have present := (contents 2).mpr allocated
    simp [result, present] at missed

end ExtGeometry

end LinuxAgent.BlockDevice
