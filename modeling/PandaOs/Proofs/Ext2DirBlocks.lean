import PandaOs.Ext2.Dir
import PandaOs.Ext2.Mount

/-!
# Directory blocks at the largest block size

A directory block is well-formed when its records chain from offset 0, each
`rec_len` at least 8 and a multiple of 4, each live record's name inside it,
and the `rec_len`s adding up to exactly the block size (`DirBlockWf`).

`rec_len` is a `u16`, and `validate` admits blocks of 64 KiB. Two paths of
the driver then write a `rec_len` of 2^16, which the field stores as 0:

* `add_dir_entry`, finding no room, puts the new entry alone in a fresh
  block with `rec_len = block_size as u16`. At 64 KiB that record's `rec_len`
  reads back as 0 (`DirEntryRaw.read_writeDirEntry`), so the record walk of
  `for_each_dir_entry` stops at it and never reports the entry
  (`scanEntries_wide_fresh_block`).
* `remove_dir_entry` merges a record into the one before it by adding the
  two `rec_len`s. When the two make up the whole block, the sum is 2^16 and
  the surviving record's `rec_len` becomes 0: the walk stops at offset 0 and
  the surviving entry is gone as well.

`wide_dir_entries_lost` runs both on a mounted 64 KiB image.
-/

namespace PandaOs.Ext2

open PandaOs.Lib

/-- The record chain of a block from `pos`, with `fuel` records to go. -/
def recordsWf (buf : Nat → UInt8) (blockLen : Nat) : Nat → Nat → Bool
  | 0, pos => pos == blockLen
  | fuel + 1, pos =>
      if pos = blockLen then true
      else
        let entry := DirEntryRaw.read buf pos
        pos + 8 ≤ blockLen && 8 ≤ entry.recLen && entry.recLen % 4 == 0 &&
          (entry.inode == 0 || 8 + entry.nameLen ≤ entry.recLen) &&
          pos + entry.recLen ≤ blockLen && recordsWf buf blockLen fuel (pos + entry.recLen)

/-- A well-formed directory block: records chained from 0 to exactly the
block's end. Each record is at least 8 bytes, so `block_len` records of
fuel reach the end. -/
def DirBlockWf (buf : Nat → UInt8) (blockLen : Nat) : Prop :=
  recordsWf buf blockLen blockLen 0 = true

instance (buf : Nat → UInt8) (blockLen : Nat) : Decidable (DirBlockWf buf blockLen) :=
  inferInstanceAs (Decidable (_ = true))

/-- Block `b` as `read_block` reads it. -/
def blockAt (fs : Ext2Fs) (b : Nat) : Nat → UInt8 := fun i => fs.disk (b * fs.blockSize + i)

/-! ## Reading back a record header -/

section WriteDirEntry

variable (buf : Nat → UInt8) (pos inode recLen : Nat) (name : List UInt8) (fileType : Nat)

/-- The header bytes of a record `write_dir_entry` wrote: the name and the
padding are written after them. -/
theorem writeDirEntry_header {i : Nat} (hi : i < 8) :
    writeDirEntry buf pos inode recLen name fileType (pos + i) =
      (leBytes inode 4 ++ leBytes recLen 2 ++ [name.length.toUInt8, fileType.toUInt8]).getD i 0 := by
  have hlen :
      (leBytes inode 4 ++ leBytes recLen 2 ++ [name.length.toUInt8, fileType.toUInt8]).length = 8 := by
    simp
  unfold writeDirEntry
  split_ifs
  · rw [writeBytes_of_lt _ (by omega), writeBytes_of_lt _ (by omega), writeBytes_add, hlen, if_pos hi]
  · rw [writeBytes_of_lt _ (by omega), writeBytes_add, hlen, if_pos hi]

theorem readBytes_writeDirEntry_inode :
    readBytes (writeDirEntry buf pos inode recLen name fileType) pos 4 = leBytes inode 4 := by
  apply List.ext_getElem (by simp)
  intro i h1 h2
  simp only [readBytes_length] at h1
  rw [getElem_readBytes, writeDirEntry_header _ _ _ _ _ _ (by omega), List.append_assoc,
    List.getD_append _ _ _ _ (by simpa using h1), List.getD_eq_getElem _ _ h2]

theorem readBytes_writeDirEntry_recLen :
    readBytes (writeDirEntry buf pos inode recLen name fileType) (pos + 4) 2 = leBytes recLen 2 := by
  apply List.ext_getElem (by simp)
  intro i h1 h2
  simp only [readBytes_length] at h1
  rw [getElem_readBytes, Nat.add_assoc, writeDirEntry_header _ _ _ _ _ _ (by omega), List.append_assoc,
    List.getD_append_right _ _ _ _ (by simp), List.getD_append _ _ _ _ (by simp; omega)]
  simp only [leBytes_length, Nat.add_sub_cancel_left]
  rw [List.getD_eq_getElem _ _ h2]

/-- Reading back the header `write_dir_entry` wrote, each field cut to its width. -/
theorem DirEntryRaw.read_writeDirEntry :
    DirEntryRaw.read (writeDirEntry buf pos inode recLen name fileType) pos =
      ⟨inode % 2 ^ 32, recLen % 2 ^ 16, name.length % 256, fileType % 256⟩ := by
  have h6 := writeDirEntry_header buf pos inode recLen name fileType (i := 6) (by omega)
  have h7 := writeDirEntry_header buf pos inode recLen name fileType (i := 7) (by omega)
  simp only [DirEntryRaw.read, readBytes_writeDirEntry_inode, readBytes_writeDirEntry_recLen,
    leValue_leBytes, h6, h7]
  simp [Nat.toUInt8]

end WriteDirEntry

/-- At 64 KiB blocks, the fresh block of `add_dir_entry` holds one record
whose `rec_len` reads back as 0: the walk of `for_each_dir_entry` stops at
it, whatever it looks for, and reports nothing from the block. -/
theorem scanEntries_wide_fresh_block {T : Type} (ino : Nat) (name : List UInt8) (fileType : Nat)
    (f : DirEntryRaw → List UInt8 → Option T) (fuel : Nat) :
    scanEntries (writeDirEntry zeroes 0 ino (2 ^ 16 % 2 ^ 16) name fileType) (2 ^ 16) f fuel 0 =
      none := by
  cases fuel with
  | zero => rfl
  | succ fuel =>
      -- `block_size as u16` is 0
      rw [Nat.mod_self]
      have hrec : (DirEntryRaw.read (writeDirEntry zeroes 0 ino 0 name fileType) 0).recLen = 0 := by
        simp [DirEntryRaw.read_writeDirEntry]
      simp [scanEntries, hrec]

/-! ## A 64 KiB image

One group of 16 blocks: the superblock in block 0, the descriptor table in
block 1, the bitmaps in blocks 2 and 3, the inode table in block 4. Block 5 is
a directory block with no room for a 255-byte name: 241 live records, each
with less slack after its name than such an entry needs. Block 6 is a directory made by
`mkdir`, as `init_dir_block` lays it out. Blocks 7 to 15 are free. -/

/-- A full 64 KiB directory block: record `k` has a two-letter name and 260
bytes of slack after it, and the last record runs to the block's end. No
record has room for a 255-byte name. -/
def fullDirBlock (o : Nat) : UInt8 :=
  let k := min (o / 272) 240
  let r := o - 272 * k
  if r < 8 then (leBytes (20 + k) 4 ++ leBytes (if k = 240 then 256 else 272) 2 ++ [2, 1]).getD r 0
  else if r = 8 then (0x41 + k / 26).toUInt8
  else if r = 9 then (0x61 + k % 26).toUInt8
  else 0

/-- The superblock and the descriptor table, in blocks 0 and 1. -/
def wideDirMeta : Nat → UInt8 :=
  let withSb := writeFields zeroes superblockOffset
    [(0, 4, 512), (4, 4, 16), (12, 4, 9), (16, 4, 400), (24, 4, 6), (32, 4, 16), (40, 4, 512),
      (56, 2, ext2SuperMagic)]
  writeFields withSb 65536 [(0, 4, 2), (4, 4, 3), (8, 4, 4), (12, 2, 9), (14, 2, 400)]

/-- The image, block by block. -/
def wideDirImage : Nat → UInt8 := fun a =>
  if a < 2 * 65536 then wideDirMeta a
  else if a = 2 * 65536 then 0x7F
  else if 5 * 65536 ≤ a ∧ a < 6 * 65536 then fullDirBlock (a - 5 * 65536)
  else if 6 * 65536 ≤ a ∧ a < 7 * 65536 then initDirBlock 65536 12 2 (a - 6 * 65536)
  else 0

/-- What `mount` makes of `wideDirImage`. -/
def wideDirFs : Ext2Fs :=
  { blockSize := 65536
    inodeSize := 128
    blocksCount := 16
    inodesPerGroup := 512
    blocksPerGroup := 16
    firstDataBlock := 0
    freeBlocksCount := 9
    freeInodesCount := 400
    groups := [⟨2, 3, 4, 9, 400, 0⟩]
    disk := wideDirImage
    spawned := [] }

theorem mount_wideDirImage : mount wideDirImage = .ok wideDirFs := rfl

/-- A directory inode of one block. -/
def oneBlockDir (block : Nat) : Inode :=
  { mode := sIfdir ||| 0o755, uid := 0, size := 65536, atime := 0, ctime := 0, mtime := 0, dtime := 0,
    gid := 0, linksCount := 2, blocks := 128, flags := 0, osd1 := 0,
    block := Vector.ofFn fun k => if k.val = 0 then block else 0,
    generation := 0, fileAcl := 0, sizeHigh := 0, faddr := 0, osd2 := 0 }

/-- A name of 255 `b`s, in no record of the full block. -/
def longName : List UInt8 := List.replicate 255 0x62

/-- The directory of block 5 after `add_dir_entry` linked block 7 as its
second block. -/
def grownDir : Inode :=
  { oneBlockDir 5 with block := (oneBlockDir 5).block.set 1 7, blocks := 256 }.setSize 131072

/-- Both 2^16 paths on the image: `add_dir_entry` of `longName` into the
full directory of block 5 succeeds, yet the name cannot be found and the
new block is not well-formed; `remove_dir_entry` of `..` from the directory
of block 6 succeeds, and `.` is gone with it. -/
theorem wide_dir_entries_lost :
    mount wideDirImage = .ok wideDirFs ∧
      DirBlockWf (blockAt wideDirFs 5) 65536 ∧ DirBlockWf (blockAt wideDirFs 6) 65536 ∧
      ((addDirEntry 11 (oneBlockDir 5) longName 13 ftRegFile).run.run wideDirFs).1 = .ok (13, grownDir) ∧
      ((findEntry grownDir longName).run.run
        ((addDirEntry 11 (oneBlockDir 5) longName 13 ftRegFile).run.run wideDirFs).2).1 = .error .notFound ∧
      ¬ DirBlockWf (blockAt ((addDirEntry 11 (oneBlockDir 5) longName 13 ftRegFile).run.run wideDirFs).2 7)
        65536 ∧
      ((findEntry (oneBlockDir 6) [dot]).run.run wideDirFs).1 = .ok 12 ∧
      ((removeDirEntry 12 (oneBlockDir 6) [dot, dot]).run.run wideDirFs).1 = .ok (2, oneBlockDir 6) ∧
      ((findEntry (oneBlockDir 6) [dot]).run.run
        ((removeDirEntry 12 (oneBlockDir 6) [dot, dot]).run.run wideDirFs).2).1 = .error .notFound ∧
      ¬ DirBlockWf (blockAt ((removeDirEntry 12 (oneBlockDir 6) [dot, dot]).run.run wideDirFs).2 6) 65536 := by
  refine ⟨mount_wideDirImage, ?_⟩
  decide +kernel

end PandaOs.Ext2
