import PandaOs.Ext2.Mount

/-!
# Free counts against the bitmaps

A group's block bitmap has one bit per block of the group: bit `j` of group
`g` stands for block `first_data_block + g * blocks_per_group + j`, as far as
that is below `blocks_count`. The free counts agree with the bitmaps when each
descriptor's count is the number of clear bits of its group and the
superblock's count is their sum (`FreeBlocksAgree`).

`free_block` of a block whose bit is set clears the bit and adds one to both
counts (`freeBlock_of_set`). The descriptor's count is a `u16`, and nothing
bounds a group to fewer than 2^16 blocks: `validate` admits any non-zero
`blocks_per_group`. In a group with 2^16 - 1 free blocks the increment wraps
the count to zero (`freeBlock_full_group`), after which `alloc_block`
passes the group by as if it were full. `wide_group_free_wraps_count` is such
a filesystem: it mounts, its counts agree with its bitmap, and one
`free_block` breaks the agreement for good.

A `free_block` that fails changes nothing (`freeBlock_error_keeps_state`):
each of its checks comes before its first write.
-/

namespace PandaOs.Ext2

open PandaOs.Lib

/-- The clear bits among the first `n` bits of a bitmap. -/
def clearBits (bm : Nat → UInt8) (n : Nat) : Nat :=
  (List.range n).countP fun j => !getBit bm j

/-- Group `g`'s block bitmap, as `read_block` reads it. -/
def blockBitmapOf (fs : Ext2Fs) (g : Nat) : Nat → UInt8 :=
  match fs.groups[g]? with
  | some d => fun i => fs.disk (d.blockBitmap * fs.blockSize + i)
  | none => zeroes

/-- The bits of group `g`'s block bitmap that stand for blocks below `blocks_count`. -/
def validBlockBits (fs : Ext2Fs) (g : Nat) : Nat :=
  min fs.blocksPerGroup (fs.blocksCount - fs.firstDataBlock - g * fs.blocksPerGroup)

/-- The group `free_block` finds for block `b`. -/
def groupOfBlock (fs : Ext2Fs) (b : Nat) : Nat :=
  (b + 2 ^ 32 - fs.firstDataBlock) % 2 ^ 32 / fs.blocksPerGroup

/-- The bit `free_block` finds for block `b`. -/
def bitOfBlock (fs : Ext2Fs) (b : Nat) : Nat :=
  (b + 2 ^ 32 - fs.firstDataBlock) % 2 ^ 32 % fs.blocksPerGroup

/-- The free block counts agree with the block bitmaps. -/
structure FreeBlocksAgree (fs : Ext2Fs) : Prop where
  group : ∀ (g : Nat) (hg : g < fs.groups.length),
    fs.groups[g].freeBlocksCount = clearBits (blockBitmapOf fs g) (validBlockBits fs g)
  total : fs.freeBlocksCount = (fs.groups.map GroupDesc.freeBlocksCount).sum

/-! ## `free_block` -/

section FreeBlock

variable {fs : Ext2Fs} {b : Nat} {d : GroupDesc}

/-- `free_block` of a block whose bit is set: the bit is cleared and both
counts go up by one, each in its own width. -/
theorem freeBlock_of_set (hb : b < fs.blocksCount) (hd : fs.groups[groupOfBlock fs b]? = some d)
    (hbm : d.blockBitmap < fs.blocksCount)
    (hset : getBit (blockBitmapOf fs (groupOfBlock fs b)) (bitOfBlock fs b) = true) :
    (freeBlock b).run.run fs =
      (.ok (), { ({ fs with
          disk := writeFn fs.disk (d.blockBitmap * fs.blockSize) fs.blockSize
            (clearBit (blockBitmapOf fs (groupOfBlock fs b)) (bitOfBlock fs b)) }.modifyGroup
          (groupOfBlock fs b) fun g => { g with freeBlocksCount := (g.freeBlocksCount + 1) % 2 ^ 16 }) with
        freeBlocksCount := (fs.freeBlocksCount + 1) % 2 ^ 32 }) := by
  simp only [groupOfBlock, bitOfBlock] at hd hset ⊢
  simp only [blockBitmapOf, hd] at hset ⊢
  simp only [freeBlock, run_bind, run_get, run_readBlock, run_writeBlock, run_modify, ge_iff_le, if_neg (Nat.not_le.mpr hb), hd, if_pos hbm, hset, Bool.not_true, Bool.false_eq_true,
    if_false]

/-- Freeing a block of a group whose `u16` count is at its maximum leaves
the count at zero. -/
theorem freeBlock_full_group (hb : b < fs.blocksCount) (hd : fs.groups[groupOfBlock fs b]? = some d)
    (hbm : d.blockBitmap < fs.blocksCount)
    (hset : getBit (blockBitmapOf fs (groupOfBlock fs b)) (bitOfBlock fs b) = true)
    (hfull : d.freeBlocksCount = 2 ^ 16 - 1) :
    ((freeBlock b).run.run fs).2.groups[groupOfBlock fs b]?.map GroupDesc.freeBlocksCount = some 0 := by
  rw [freeBlock_of_set hb hd hbm hset]
  simp [hd, hfull]

/-- A `free_block` that fails has changed nothing: every check it makes
comes before its first write. -/
theorem freeBlock_error_keeps_state {fs' : Ext2Fs} {e : FsError}
    (h : (freeBlock b).run.run fs = (.error e, fs')) : fs' = fs := by
  simp only [freeBlock, run_bind, run_get, ge_iff_le] at h
  split at h
  · exact (Prod.mk.inj h).2.symm
  split at h
  · exact (Prod.mk.inj h).2.symm
  rename_i d _
  simp only [run_bind, run_readBlock] at h
  by_cases hbm : d.blockBitmap < fs.blocksCount
  · simp only [if_pos hbm] at h
    split at h
    · exact (Prod.mk.inj h).2.symm
    · -- the bit was set: the write and the count update both succeed
      simp only [run_bind, run_writeBlock, if_pos hbm, run_modify] at h
      exact absurd (Prod.mk.inj h).1 (by simp)
  · simp only [if_neg hbm] at h
    exact (Prod.mk.inj h).2.symm

end FreeBlock

/-! ## Bits of a byte -/

theorem getBit_eq (bm : Nat → UInt8) (j : Nat) :
    getBit bm j = (bm (j / 8) &&& ((1 : UInt8) <<< (j % 8).toUInt8) != 0) := rfl

theorem byte_ff_bit {k : Nat} (hk : k < 8) :
    ((0xFF : UInt8) &&& ((1 : UInt8) <<< k.toUInt8) != 0) = true := by
  interval_cases k <;> decide

theorem byte_zero_bit (k : Nat) : ((0 : UInt8) &&& ((1 : UInt8) <<< k.toUInt8) != 0) = false := by
  simp

theorem byte_one_bit {k : Nat} (hk : k < 8) :
    ((1 : UInt8) &&& ((1 : UInt8) <<< k.toUInt8) != 0) = (k == 0) := by
  interval_cases k <;> decide

/-- Counting the clear bits of `a + n` bits: the first `a`, then the next `n`. -/
theorem clearBits_add (bm : Nat → UInt8) (a n : Nat) :
    clearBits bm (a + n) = clearBits bm a + (List.range n).countP fun j => !getBit bm (a + j) := by
  simp only [clearBits, List.range_add, List.countP_append, List.countP_map]
  rfl

/-! ## A group wider than its count

A 16 KiB-block filesystem with one group of 2^17 blocks, which `validate`
admits. Blocks 0 to 65536 are in use, and the other 65535 are free: the
descriptor's `u16` count is full. Freeing block 100 wraps it. -/

/-- The group's block bitmap: bits 0 to 65536 set. -/
def wideBitmapByte (i : Nat) : UInt8 := if i < 8192 then 0xFF else if i = 8192 then 1 else 0

/-- The superblock at byte 1024, the descriptor table at block 1 and the
block bitmap at block 2. -/
def wideGroupImage : Nat → UInt8 :=
  let base : Nat → UInt8 := fun a => if 32768 ≤ a then wideBitmapByte (a - 32768) else 0
  let withSb := writeFields base superblockOffset
    [(0, 4, 1024), (4, 4, 131072), (12, 4, 65535), (16, 4, 1000), (24, 4, 4), (32, 4, 131072),
      (40, 4, 1024), (56, 2, ext2SuperMagic)]
  writeFields withSb 16384 [(0, 4, 2), (4, 4, 3), (8, 4, 4), (12, 2, 65535), (14, 2, 1000)]

/-- What `mount` makes of `wideGroupImage`. -/
def wideGroupFs : Ext2Fs :=
  { blockSize := 16384
    inodeSize := 128
    blocksCount := 131072
    inodesPerGroup := 1024
    blocksPerGroup := 131072
    firstDataBlock := 0
    freeBlocksCount := 65535
    freeInodesCount := 1000
    groups := [⟨2, 3, 4, 65535, 1000, 0⟩]
    disk := wideGroupImage
    spawned := [] }

theorem mount_wideGroupImage : mount wideGroupImage = .ok wideGroupFs := rfl

theorem wideGroupImage_bitmap (i : Nat) : wideGroupImage (2 * 16384 + i) = wideBitmapByte i := by
  simp only [wideGroupImage, writeFields, List.foldl_cons, List.foldl_nil, superblockOffset]
  -- every field lies below the bitmap block
  simp (disch := (simp only [leBytes_length]; omega)) only [writeBytes_of_ge]
  simp

theorem getBit_wideBitmap (j : Nat) : getBit wideBitmapByte j = decide (j ≤ 65536) := by
  have hk : j % 8 < 8 := Nat.mod_lt _ (by norm_num)
  rw [getBit_eq]
  unfold wideBitmapByte
  by_cases h1 : j / 8 < 8192
  · rw [if_pos h1, byte_ff_bit hk]
    simp
    omega
  · by_cases h2 : j / 8 = 8192
    · rw [if_neg h1, if_pos h2, byte_one_bit hk]
      rw [Bool.eq_iff_iff, beq_iff_eq, decide_eq_true_iff]
      omega
    · rw [if_neg h1, if_neg h2, byte_zero_bit]
      simp
      omega

theorem clearBits_wideBitmap : clearBits wideBitmapByte 131072 = 65535 := by
  rw [show 131072 = 65537 + 65535 from rfl, clearBits_add]
  have hused : clearBits wideBitmapByte 65537 = 0 := by
    refine List.countP_eq_zero.mpr fun j hj => ?_
    rw [List.mem_range] at hj
    simp [getBit_wideBitmap]
    omega
  have hfree : ((List.range 65535).countP fun j => !getBit wideBitmapByte (65537 + j)) = 65535 := by
    rw [List.countP_eq_length.mpr, List.length_range]
    intro j _
    simp [getBit_wideBitmap]
    omega
  rw [hused, hfree]

theorem freeBlocksAgree_wideGroupFs : FreeBlocksAgree wideGroupFs := by
  constructor
  · intro g hg
    have hg0 : g = 0 := by simpa [wideGroupFs] using hg
    subst hg0
    have hbm : blockBitmapOf wideGroupFs 0 = wideBitmapByte := by
      funext i
      exact wideGroupImage_bitmap i
    rw [hbm, show validBlockBits wideGroupFs 0 = 131072 from rfl, clearBits_wideBitmap]
    rfl
  · rfl

theorem wide_group_free_wraps_count :
    mount wideGroupImage = .ok wideGroupFs ∧ FreeBlocksAgree wideGroupFs ∧
      ((freeBlock 100).run.run wideGroupFs).1 = .ok () ∧
      ((freeBlock 100).run.run wideGroupFs).2.groups.map GroupDesc.freeBlocksCount = [0] ∧
      ((freeBlock 100).run.run wideGroupFs).2.freeBlocksCount = 65536 ∧
      ¬ FreeBlocksAgree ((freeBlock 100).run.run wideGroupFs).2 ∧
      (allocBlock.run.run ((freeBlock 100).run.run wideGroupFs).2).1 = .error .noSpace := by
  refine ⟨mount_wideGroupImage, freeBlocksAgree_wideGroupFs, by decide, by decide, by decide,
    fun h => ?_, by decide⟩
  -- the superblock counts 65536 free blocks, the only descriptor none
  have htotal := h.total
  revert htotal
  decide

end PandaOs.Ext2
