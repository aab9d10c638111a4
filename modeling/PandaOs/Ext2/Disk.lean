import PandaOs.Lib.Bytes
import PandaOs.Lib.StateExcept

/-!
# The ext2 driver's state, its blocks and its allocator

`Ext2Fs` holds the geometry read at mount, the superblock's free counters
and the block group descriptors (kept in memory and written back after each
change), and the block device. The device is a byte memory that never fails:
`read_at` and `write_at` read and overlay bytes.

Every driver operation is written with `?`, so it stops at the first error
and keeps what it already wrote: it runs in `FsM`, an exception monad over
the filesystem state. Block buffers are functions from offsets to bytes,
`block_size` long; `read_block` snapshots the block into one and
`write_block` overlays one.

Allocation is first fit over the block groups, one bitmap block per group,
with the free counts of the group and of the superblock decremented
together. `InodeGuard` and `BlockGuard` free an allocation when dropped
unconsumed; their `Drop` spawns the free as a task that runs later. The
state records the spawned tasks in order, and `runCleanups` runs them, each
ignoring its own error as the task does.

The on-disk copies of the superblock and descriptors are not modelled: the
driver never reads them back after mount, so the in-memory counters are
the counters. They keep their on-disk widths: a descriptor's free counts
are `u16` and the superblock's `u32`, and an increment wraps as the
release build's arithmetic does (the debug build aborts instead).
-/

namespace PandaOs.Ext2

open PandaOs.Lib

/-- `FsError`. -/
inductive FsError where
  | notFound
  | invalidOffset
  | notReadable
  | notWritable
  | notSeekable
  | noSpace
  | alreadyExists
  | notEmpty
  | isDirectory
  | notDirectory
  | readOnlyFs
  | ioError
  deriving DecidableEq, Repr

/-- `BlockGroupDescriptor`, without its padding. -/
structure GroupDesc where
  blockBitmap : Nat
  inodeBitmap : Nat
  inodeTable : Nat
  freeBlocksCount : Nat
  freeInodesCount : Nat
  usedDirsCount : Nat
  deriving DecidableEq, Repr

/-- The task a dropped, unconsumed guard spawns. -/
inductive Cleanup where
  | freeInode (ino : Nat)
  | freeBlock (block : Nat)
  deriving DecidableEq, Repr

/-- `Ext2Fs` with `Ext2FsMutable`: geometry, the superblock's counters,
the descriptors, the device's bytes, and the spawned cleanup tasks. -/
structure Ext2Fs where
  blockSize : Nat
  inodeSize : Nat
  blocksCount : Nat
  inodesPerGroup : Nat
  blocksPerGroup : Nat
  firstDataBlock : Nat
  freeBlocksCount : Nat
  freeInodesCount : Nat
  groups : List GroupDesc
  disk : Nat → UInt8
  spawned : List Cleanup

/-- A driver operation: it fails with an `FsError`, keeping what it wrote. -/
abbrev FsM := ExceptT FsError (StateM Ext2Fs)

/-- Apply `f` to descriptor `g`. -/
def Ext2Fs.modifyGroup (fs : Ext2Fs) (g : Nat) (f : GroupDesc → GroupDesc) : Ext2Fs :=
  { fs with groups := fs.groups.modify g f }

namespace Ext2Fs

variable (fs : Ext2Fs) (g : Nat) (f : GroupDesc → GroupDesc)

@[simp] theorem modifyGroup_groups : (fs.modifyGroup g f).groups = fs.groups.modify g f := rfl
@[simp] theorem modifyGroup_disk : (fs.modifyGroup g f).disk = fs.disk := rfl
@[simp] theorem modifyGroup_blockSize : (fs.modifyGroup g f).blockSize = fs.blockSize := rfl
@[simp] theorem modifyGroup_blocksCount : (fs.modifyGroup g f).blocksCount = fs.blocksCount := rfl
@[simp] theorem modifyGroup_blocksPerGroup : (fs.modifyGroup g f).blocksPerGroup = fs.blocksPerGroup := rfl
@[simp] theorem modifyGroup_firstDataBlock : (fs.modifyGroup g f).firstDataBlock = fs.firstDataBlock := rfl
@[simp] theorem modifyGroup_freeBlocksCount :
    (fs.modifyGroup g f).freeBlocksCount = fs.freeBlocksCount := rfl

end Ext2Fs

/-! ## Blocks -/

/-- `read_block`: a snapshot of the block. -/
def readBlock (block : Nat) : FsM (Nat → UInt8) := do
  let fs ← get
  if block ≥ fs.blocksCount then throw .notReadable
  pure fun i => fs.disk (block * fs.blockSize + i)

/-- `write_block` of a `block_size` buffer. -/
def writeBlock (block : Nat) (data : Nat → UInt8) : FsM Unit := do
  let fs ← get
  if block ≥ fs.blocksCount then throw .ioError
  set { fs with disk := writeFn fs.disk (block * fs.blockSize) fs.blockSize data }

theorem run_readBlock (block : Nat) (fs : Ext2Fs) :
    (readBlock block).run.run fs =
      if block < fs.blocksCount then (.ok fun i => fs.disk (block * fs.blockSize + i), fs)
      else (.error .notReadable, fs) := by
  simp only [readBlock, run_bind, run_get, ge_iff_le]
  by_cases h : block < fs.blocksCount
  · rw [if_neg (Nat.not_le.mpr h), if_pos h]
    rfl
  · rw [if_pos (Nat.le_of_not_lt h), if_neg h]
    rfl

theorem run_writeBlock (block : Nat) (data : Nat → UInt8) (fs : Ext2Fs) :
    (writeBlock block data).run.run fs =
      if block < fs.blocksCount then
        (.ok (), { fs with disk := writeFn fs.disk (block * fs.blockSize) fs.blockSize data })
      else (.error .ioError, fs) := by
  simp only [writeBlock, run_bind, run_get, ge_iff_le]
  by_cases h : block < fs.blocksCount
  · rw [if_neg (Nat.not_le.mpr h), if_pos h]
    rfl
  · rw [if_pos (Nat.le_of_not_lt h), if_neg h]
    rfl

/-- A buffer of zeros. -/
def zeroes : Nat → UInt8 := fun _ => 0

/-! ## Bitmaps -/

/-- The bit loop of `find_first_clear_bit` over one byte: `some r` when it
returns `r`, `none` when it falls through to the next byte. -/
def scanBits (byte : UInt8) (byteIdx maxBits : Nat) : List Nat → Option (Option Nat)
  | [] => none
  | bit :: rest =>
      if byteIdx * 8 + bit ≥ maxBits then some none
      else if byte &&& ((1 : UInt8) <<< bit.toUInt8) = 0 then some (some (byteIdx * 8 + bit))
      else scanBits byte byteIdx maxBits rest

/-- The byte loop of `find_first_clear_bit`. -/
def scanBytes (bitmap : Nat → UInt8) (maxBits : Nat) : List Nat → Option Nat
  | [] => none
  | byteIdx :: rest =>
      if bitmap byteIdx = 0xFF then scanBytes bitmap maxBits rest
      else
        match scanBits (bitmap byteIdx) byteIdx maxBits (List.range 8) with
        | some r => r
        | none => scanBytes bitmap maxBits rest

/-- `find_first_clear_bit` over a bitmap of `len` bytes. -/
def findFirstClearBit (bitmap : Nat → UInt8) (len maxBits : Nat) : Option Nat :=
  scanBytes bitmap maxBits (List.range len)

/-- `get_bit`. -/
def getBit (bitmap : Nat → UInt8) (index : Nat) : Bool :=
  bitmap (index / 8) &&& ((1 : UInt8) <<< (index % 8).toUInt8) != 0

/-- `set_bit`. -/
def setBit (bitmap : Nat → UInt8) (index : Nat) : Nat → UInt8 :=
  Function.update bitmap (index / 8) (bitmap (index / 8) ||| ((1 : UInt8) <<< (index % 8).toUInt8))

/-- `clear_bit`. -/
def clearBit (bitmap : Nat → UInt8) (index : Nat) : Nat → UInt8 :=
  Function.update bitmap (index / 8) (bitmap (index / 8) &&& ~~~((1 : UInt8) <<< (index % 8).toUInt8))

/-! ## Allocation -/

/-- The group loop of `alloc_block`. -/
def allocBlockFrom (numGroups : Nat) : List Nat → FsM Nat
  | [] => throw .noSpace
  | group :: rest => do
      let fs ← get
      match fs.groups[group]? with
      | none => allocBlockFrom numGroups rest
      | some bgd =>
          if bgd.freeBlocksCount = 0 then allocBlockFrom numGroups rest
          else
            -- the last group may be smaller
            let blocksInGroup :=
              if group = numGroups - 1 then fs.blocksCount - group * fs.blocksPerGroup
              else fs.blocksPerGroup
            let bitmap ← readBlock bgd.blockBitmap
            match findFirstClearBit bitmap fs.blockSize blocksInGroup with
            | none => allocBlockFrom numGroups rest
            | some bitIndex =>
                writeBlock bgd.blockBitmap (setBit bitmap bitIndex)
                -- the group's `u16` count was checked non-zero; the superblock's `u32` wraps
                modify fun fs =>
                  { fs.modifyGroup group fun g => { g with freeBlocksCount := g.freeBlocksCount - 1 } with
                    freeBlocksCount := (fs.freeBlocksCount + 2 ^ 32 - 1) % 2 ^ 32 }
                pure (fs.firstDataBlock + group * fs.blocksPerGroup + bitIndex)

/-- `alloc_block`. -/
def allocBlock : FsM Nat := do
  let fs ← get
  allocBlockFrom fs.groups.length (List.range fs.groups.length)

/-- `free_block`. -/
def freeBlock (blockNum : Nat) : FsM Unit := do
  let fs ← get
  if blockNum ≥ fs.blocksCount then throw .ioError
  -- `block_num - first_data_block` in `u32`
  let adjusted := (blockNum + 2 ^ 32 - fs.firstDataBlock) % 2 ^ 32
  let group := adjusted / fs.blocksPerGroup
  let bitIndex := adjusted % fs.blocksPerGroup
  match fs.groups[group]? with
  | none => throw .ioError
  | some bgd =>
      let bitmap ← readBlock bgd.blockBitmap
      if !getBit bitmap bitIndex then throw .ioError
      writeBlock bgd.blockBitmap (clearBit bitmap bitIndex)
      -- `+= 1` on the descriptor's `u16` and the superblock's `u32`
      modify fun fs =>
        { fs.modifyGroup group fun g => { g with freeBlocksCount := (g.freeBlocksCount + 1) % 2 ^ 16 } with
          freeBlocksCount := (fs.freeBlocksCount + 1) % 2 ^ 32 }

/-- The group loop of `alloc_inode`. -/
def allocInodeFrom : List Nat → FsM Nat
  | [] => throw .noSpace
  | group :: rest => do
      let fs ← get
      match fs.groups[group]? with
      | none => allocInodeFrom rest
      | some bgd =>
          if bgd.freeInodesCount = 0 then allocInodeFrom rest
          else
            let bitmap ← readBlock bgd.inodeBitmap
            match findFirstClearBit bitmap fs.blockSize fs.inodesPerGroup with
            | none => allocInodeFrom rest
            | some bitIndex =>
                writeBlock bgd.inodeBitmap (setBit bitmap bitIndex)
                modify fun fs =>
                  { fs.modifyGroup group fun g => { g with freeInodesCount := g.freeInodesCount - 1 } with
                    freeInodesCount := (fs.freeInodesCount + 2 ^ 32 - 1) % 2 ^ 32 }
                -- inode numbers are 1-indexed
                pure (group * fs.inodesPerGroup + bitIndex + 1)

/-- `alloc_inode`: the number the returned `InodeGuard` holds. -/
def allocInode : FsM Nat := do
  let fs ← get
  allocInodeFrom (List.range fs.groups.length)

/-- `free_inode`. -/
def freeInode (ino : Nat) : FsM Unit := do
  if ino = 0 then throw .ioError
  let fs ← get
  let group := (ino - 1) / fs.inodesPerGroup
  let bitIndex := (ino - 1) % fs.inodesPerGroup
  match fs.groups[group]? with
  | none => throw .ioError
  | some bgd =>
      let bitmap ← readBlock bgd.inodeBitmap
      if !getBit bitmap bitIndex then throw .ioError
      writeBlock bgd.inodeBitmap (clearBit bitmap bitIndex)
      modify fun fs =>
        { fs.modifyGroup group fun g => { g with freeInodesCount := (g.freeInodesCount + 1) % 2 ^ 16 } with
          freeInodesCount := (fs.freeInodesCount + 1) % 2 ^ 32 }

/-- `inc_used_dirs_count`, saturating at the `u16` maximum. -/
def incUsedDirsCount (ino : Nat) : FsM Unit := do
  let fs ← get
  let group := (ino - 1) / fs.inodesPerGroup
  if group ≥ fs.groups.length then throw .ioError
  set (fs.modifyGroup group fun g => { g with usedDirsCount := min (g.usedDirsCount + 1) 0xFFFF })

/-- `dec_used_dirs_count`, saturating at zero. -/
def decUsedDirsCount (ino : Nat) : FsM Unit := do
  let fs ← get
  let group := (ino - 1) / fs.inodesPerGroup
  if group ≥ fs.groups.length then throw .ioError
  set (fs.modifyGroup group fun g => { g with usedDirsCount := g.usedDirsCount - 1 })

/-! ## Guards -/

/-- Dropping an unconsumed guard spawns its cleanup task. -/
def spawn (c : Cleanup) : FsM Unit :=
  modify fun fs => { fs with spawned := fs.spawned ++ [c] }

/-- `x`, with the guard for `c` held: if `x` fails, the guard is dropped. -/
def guarded (c : Cleanup) (x : FsM α) : FsM α :=
  onError x (spawn c)

/-- What a cleanup task does. -/
def Cleanup.run : Cleanup → FsM Unit
  | .freeInode ino => PandaOs.Ext2.freeInode ino
  | .freeBlock block => PandaOs.Ext2.freeBlock block

/-- Run cleanup tasks in order; each ignores its own error (`let _ = ...`). -/
def runCleanups : List Cleanup → FsM Unit
  | [] => pure ()
  | c :: rest => do
      tryCatch c.run fun _ => pure ()
      runCleanups rest

/-- Let every spawned task run. -/
def settle : FsM Unit := do
  let fs ← get
  set { fs with spawned := [] }
  runCleanups fs.spawned

end PandaOs.Ext2
