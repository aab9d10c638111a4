import PandaOs.Ext2.Ops
import PandaOs.Ext2.Mount
import PandaOs.Proofs.Ext2Bitmap

/-!
# A failed write leaks its data block

`Ext2File::write` allocates a block for a chunk with none, zeroes it, and
only then records it with `set_block_number`, which for a file block past
the twelve direct ones may itself have to allocate an index block. When that
second allocation fails, `write` returns `NoSpace` with the data block
allocated and recorded nowhere: not in the inode on disk, which `write`
updates only after its loop, and not in any index block. `unlink` frees what
the inode on disk reaches, so the block stays allocated for good.

`failed_write_leaks_block` runs `create`, a one-byte `write` at file block 12
and `unlink` on a 1 KiB image with a single free block: afterwards the free
block counts are one lower than before `create`, and the block's bit is set.
The inode is freed again, so the inode counts are back where they were.
-/

namespace PandaOs.Ext2

open PandaOs.Lib

/-- `create(path)`, `seek(Start(pos))` and `write(data)` through the file it
opens, then `unlink(path)`: what the write returned. -/
def createWriteUnlink (path : List UInt8) (pos : Nat) (data : List UInt8) :
    FsM (Except FsError Nat) := do
  let file ← create path 0o644
  let file ← MonadExcept.ofExcept (file.seek (.start pos))
  let (written, _) ← withFile file (Ext2File.write data)
  unlink path
  pure written

/-! ## A 1 KiB image

One group of 32 blocks with `first_data_block` 1: the superblock in block 1,
the descriptor table in block 2, the bitmaps in blocks 3 and 4, the inode
table in blocks 5 and 6, the root directory in block 7. Every block but 31 is
in use, and inodes 1 to 11 are. -/

/-- The root directory's inode. -/
def rootInode : Inode := freshInode (sIfdir ||| 0o755) 1024 2 2 ((Vector.replicate 15 0).set 0 7 Inode.zero_lt_slots)

/-- The superblock and the descriptor table. -/
def smallMeta : Nat → UInt8 :=
  let withSb := writeFields zeroes superblockOffset
    [(0, 4, 16), (4, 4, 32), (12, 4, 1), (16, 4, 5), (20, 4, 1), (24, 4, 0), (32, 4, 32), (40, 4, 16),
      (56, 2, ext2SuperMagic)]
  writeFields withSb 2048 [(0, 4, 3), (4, 4, 4), (8, 4, 5), (12, 2, 1), (14, 2, 5), (16, 2, 1)]

/-- The image, block by block; bit 30 of the block bitmap, block 31, is the
one clear bit. -/
def smallImage : Nat → UInt8 := fun a =>
  if a < 3072 then smallMeta a
  else if a < 3076 then [0xFF, 0xFF, 0xFF, 0xBF].getD (a - 3072) 0
  else if 4096 ≤ a ∧ a < 4098 then [0xFF, 0x07].getD (a - 4096) 0
  else if 5248 ≤ a ∧ a < 5376 then rootInode.toBytes.getD (a - 5248) 0
  else if 7168 ≤ a ∧ a < 8192 then initDirBlock 1024 2 2 (a - 7168)
  else 0

/-- What `mount` makes of `smallImage`. -/
def smallFs : Ext2Fs :=
  { blockSize := 1024
    inodeSize := 128
    blocksCount := 32
    inodesPerGroup := 16
    blocksPerGroup := 32
    firstDataBlock := 1
    freeBlocksCount := 1
    freeInodesCount := 5
    groups := [⟨3, 4, 5, 1, 5, 1⟩]
    disk := smallImage
    spawned := [] }

theorem mount_smallImage : mount smallImage = .ok smallFs := rfl

/-- `create("f")`, a one-byte write at 12288 and `unlink("f")`: the write
fails with `NoSpace`, and after the unlink block 31 is still allocated. -/
theorem failed_write_leaks_block :
    mount smallImage = .ok smallFs ∧
      ((createWriteUnlink [0x66] 12288 [0x55]).run.run smallFs).1 = .ok (.error .noSpace) ∧
      ((createWriteUnlink [0x66] 12288 [0x55]).run.run smallFs).2.freeBlocksCount = 0 ∧
      ((createWriteUnlink [0x66] 12288 [0x55]).run.run smallFs).2.groups.map GroupDesc.freeBlocksCount =
        [0] ∧
      getBit (blockBitmapOf ((createWriteUnlink [0x66] 12288 [0x55]).run.run smallFs).2 0) 30 = true ∧
      ((createWriteUnlink [0x66] 12288 [0x55]).run.run smallFs).2.freeInodesCount = 5 := by
  refine ⟨mount_smallImage, ?_⟩
  decide +kernel

end PandaOs.Ext2
