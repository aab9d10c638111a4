import PandaOs.Ext2.Disk

/-!
# Mounting: the superblock, its validation and the descriptor table

`mount` reads the superblock at byte 1024, checks its magic, runs
`Superblock::validate` and refuses unsupported incompatible features. It
then reads `block_group_count` descriptors of 32 bytes each from the table
that starts at block 2 for 1 KiB blocks and at block 1 otherwise, and
builds the driver's state from them.

`validate` bounds what would otherwise overflow or divide by zero: the block
size is `1024 << log_block_size` with `log_block_size ≤ 6` (1 KiB to 64 KiB),
the counts and per-group sizes are non-zero, and there are at most a million
groups. It does not relate `blocks_per_group` to the block size or to the
width of a descriptor's `u16` free count.

Only the superblock fields the driver reads are kept.
-/

namespace PandaOs.Ext2

open PandaOs.Lib

/-- `EXT2_SUPER_MAGIC`. -/
def ext2SuperMagic : Nat := 0xEF53

/-- `SUPERBLOCK_OFFSET`. -/
def superblockOffset : Nat := 1024

/-- `SUPPORTED_INCOMPAT`: `INCOMPAT_FILETYPE`. -/
def supportedIncompat : Nat := 0x0002

/-- `Superblock`, the fields the driver reads. -/
structure Superblock where
  inodesCount : Nat
  blocksCount : Nat
  freeBlocksCount : Nat
  freeInodesCount : Nat
  firstDataBlock : Nat
  logBlockSize : Nat
  blocksPerGroup : Nat
  inodesPerGroup : Nat
  magic : Nat
  revLevel : Nat
  inodeSize : Nat
  featureIncompat : Nat
  deriving DecidableEq, Repr

namespace Superblock

/-- The `repr(C)` superblock at `SUPERBLOCK_OFFSET`. -/
def read (m : Nat → UInt8) : Superblock :=
  let field (o w : Nat) := leValue (readBytes m (superblockOffset + o) w)
  { inodesCount := field 0 4
    blocksCount := field 4 4
    freeBlocksCount := field 12 4
    freeInodesCount := field 16 4
    firstDataBlock := field 20 4
    logBlockSize := field 24 4
    blocksPerGroup := field 32 4
    inodesPerGroup := field 40 4
    magic := field 56 2
    revLevel := field 76 4
    inodeSize := field 88 2
    featureIncompat := field 96 4 }

/-- `MAX_LOG_BLOCK_SIZE`. -/
def maxLogBlockSize : Nat := 6

/-- `MAX_BLOCK_GROUPS`. -/
def maxBlockGroups : Nat := 1000000

/-- `Superblock::block_size`. -/
def blockSize (sb : Superblock) : Option Nat :=
  if sb.logBlockSize > maxLogBlockSize then none else some (1024 * 2 ^ sb.logBlockSize)

/-- `Superblock::inode_size`. -/
def inodeSizeOf (sb : Superblock) : Nat :=
  if sb.revLevel ≥ 1 then sb.inodeSize else 128

/-- `Superblock::block_group_count`: `blocks_count.div_ceil(blocks_per_group)`. -/
def blockGroupCount (sb : Superblock) : Option Nat :=
  if sb.blocksPerGroup = 0 then none
  else some ((sb.blocksCount + sb.blocksPerGroup - 1) / sb.blocksPerGroup)

/-- `Superblock::validate`. -/
def validate (sb : Superblock) : Except String Unit := do
  if sb.logBlockSize > maxLogBlockSize then throw "ext2: log_block_size out of range"
  if sb.blocksCount = 0 then throw "ext2: blocks_count is zero"
  if sb.inodesCount = 0 then throw "ext2: inodes_count is zero"
  if sb.blocksPerGroup = 0 then throw "ext2: blocks_per_group is zero"
  if sb.inodesPerGroup = 0 then throw "ext2: inodes_per_group is zero"
  if sb.revLevel ≥ 1 ∧ (sb.inodeSize < 128 ∨ sb.inodeSize > 1024) then
    throw "ext2: inode_size out of range"
  if (sb.blocksCount + sb.blocksPerGroup - 1) / sb.blocksPerGroup > maxBlockGroups then
    throw "ext2: too many block groups"

/-- `Superblock::unsupported_incompat_features`: `feature_incompat & !SUPPORTED_INCOMPAT`. -/
def unsupportedIncompatFeatures (sb : Superblock) : Nat :=
  sb.featureIncompat &&& (0xFFFFFFFF ^^^ supportedIncompat)

end Superblock

/-- A `repr(C)` block group descriptor. -/
def GroupDesc.read (m : Nat → UInt8) (off : Nat) : GroupDesc :=
  let field (o w : Nat) := leValue (readBytes m (off + o) w)
  { blockBitmap := field 0 4
    inodeBitmap := field 4 4
    inodeTable := field 8 4
    freeBlocksCount := field 12 2
    freeInodesCount := field 14 2
    usedDirsCount := field 16 2 }

/-- `Ext2Fs::mount` on a device holding `disk`. -/
def mount (disk : Nat → UInt8) : Except String Ext2Fs := do
  let sb := Superblock.read disk
  if sb.magic ≠ ext2SuperMagic then throw "invalid ext2 magic number"
  sb.validate
  if sb.unsupportedIncompatFeatures ≠ 0 then throw "ext2 filesystem has unsupported features"
  -- `validate` has made both `unwrap`s safe
  let blockSize := 1024 * 2 ^ sb.logBlockSize
  let blockGroupCount := (sb.blocksCount + sb.blocksPerGroup - 1) / sb.blocksPerGroup
  let bgdtOffset := if blockSize = 1024 then 2048 else blockSize
  pure
    { blockSize := blockSize
      inodeSize := sb.inodeSizeOf
      blocksCount := sb.blocksCount
      inodesPerGroup := sb.inodesPerGroup
      blocksPerGroup := sb.blocksPerGroup
      firstDataBlock := sb.firstDataBlock
      freeBlocksCount := sb.freeBlocksCount
      freeInodesCount := sb.freeInodesCount
      groups := (List.range blockGroupCount).map fun i => GroupDesc.read disk (bgdtOffset + i * 32)
      disk := disk
      spawned := [] }

end PandaOs.Ext2
