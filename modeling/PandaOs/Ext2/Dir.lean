import PandaOs.Ext2.BlockMap

/-!
# Directories

A directory's data blocks hold variable-length records: an 8-byte header
(`inode`, `rec_len`, `name_len`, `file_type`) and the name, padded to four
bytes, with `rec_len` the distance to the next record. A record with inode
0 is deleted.

`for_each_dir_entry` walks every record of every block, stopping a block at
the first record whose `rec_len` is below 8 or runs past the block, and
skipping records whose name does not fit. `find_entry` and `lookup` are
built on it.

`add_dir_entry` looks for room the same way: a deleted record long enough,
or the slack after a live record's own size, which it splits off. It
computes that slack for every live record, before any check that the name
fits, as a `usize` difference; the model takes it modulo `2 ^ 64`, as a
release build does, where a debug build would panic. With no
room it allocates a new block, writes the entry there and links the block
into the directory with `set_block_number`. It takes the new inode's
`InodeGuard` and consumes it at its commit point: when it finds room, or
right after allocating the new block. An error before that drops the guard;
an error after it does not.

`remove_dir_entry` walks the records of each block the same way, remembering
the previous record. The named record is merged into the previous one, whose
`rec_len` grows by the removed record's, or, first in its block, marked
deleted by zeroing its inode.

Paths and names are byte strings, as the driver compares them
(`as_bytes`); `/` is a single byte in UTF-8.
-/

namespace PandaOs.Ext2

open PandaOs.Lib

/-- `FT_REG_FILE`. -/
def ftRegFile : Nat := 1

/-- `FT_DIR`. -/
def ftDir : Nat := 2

/-- `/`. -/
def slash : UInt8 := 0x2F

/-- `.`. -/
def dot : UInt8 := 0x2E

/-- `DirEntryRaw`. -/
structure DirEntryRaw where
  inode : Nat
  recLen : Nat
  nameLen : Nat
  fileType : Nat
  deriving DecidableEq, Repr

/-- The record header at `pos` of a block buffer. -/
def DirEntryRaw.read (buf : Nat → UInt8) (pos : Nat) : DirEntryRaw :=
  ⟨leValue (readBytes buf pos 4), leValue (readBytes buf (pos + 4) 2), (buf (pos + 6)).toNat,
    (buf (pos + 7)).toNat⟩

/-- `align4`: `(val + 3) & !3`. -/
def align4 (val : Nat) : Nat := (val + 3) / 4 * 4

/-- `entry_size`. -/
def entrySize (nameLen : Nat) : Nat := align4 (8 + nameLen)

/-- `write_dir_entry`. -/
def writeDirEntry (buf : Nat → UInt8) (pos inode recLen : Nat) (name : List UInt8) (fileType : Nat) :
    Nat → UInt8 :=
  let buf := writeBytes buf pos
    (leBytes inode 4 ++ leBytes recLen 2 ++ [name.length.toUInt8, fileType.toUInt8])
  let buf := writeBytes buf (pos + 8) name
  let paddedEnd := pos + align4 (8 + name.length)
  let nameEnd := pos + 8 + name.length
  if paddedEnd > nameEnd ∧ paddedEnd ≤ pos + recLen then
    writeBytes buf nameEnd (List.replicate (paddedEnd - nameEnd) 0)
  else buf

/-- `init_dir_block`: `.` and `..`, the latter running to the block's end. -/
def initDirBlock (blockSize selfIno parentIno : Nat) : Nat → UInt8 :=
  let buf := writeDirEntry zeroes 0 selfIno 12 [dot] ftDir
  writeDirEntry buf 12 parentIno ((blockSize - 12) % 2 ^ 16) [dot, dot] ftDir

/-! ## Walking the records -/

section Walk

variable {T : Type}

/-- The record walk of one block in `for_each_dir_entry`, from `pos`; `f`
answers `some` to stop the walk. Each record is at least 8 bytes long, so
`block_len` steps of fuel are enough. -/
def scanEntries (buf : Nat → UInt8) (blockLen : Nat) (f : DirEntryRaw → List UInt8 → Option T) :
    Nat → Nat → Option T
  | 0, _ => none
  | fuel + 1, pos =>
      if pos < blockLen then
        if pos + 8 > blockLen then none
        else
          let entry := DirEntryRaw.read buf pos
          if entry.recLen < 8 ∨ pos + entry.recLen > blockLen then none
          else
            -- deleted records, and records whose name does not fit, are skipped
            let found :=
              if entry.inode ≠ 0 ∧ entry.nameLen ≤ entry.recLen - 8 then
                f entry (readBytes buf (pos + 8) entry.nameLen)
              else none
            match found with
            | some v => some v
            | none => scanEntries buf blockLen f fuel (pos + entry.recLen)
      else none

/-- The block loop of `for_each_dir_entry`. -/
def forEachDirEntryIn (dir : Inode) (f : DirEntryRaw → List UInt8 → Option T) :
    List Nat → FsM (Option T)
  | [] => pure none
  | fileBlock :: rest => do
      let fs ← get
      let blockNum ← getBlockNumber dir.block fs.blockSize fileBlock
      if blockNum = 0 then forEachDirEntryIn dir f rest
      else
        let buf ← readBlock blockNum
        match scanEntries buf fs.blockSize f fs.blockSize 0 with
        | some v => pure (some v)
        | none => forEachDirEntryIn dir f rest

/-- `for_each_dir_entry`. -/
def forEachDirEntry (dir : Inode) (f : DirEntryRaw → List UInt8 → Option T) : FsM (Option T) := do
  let fs ← get
  -- `size.div_ceil(block_size) as u32`
  let numBlocks := (dir.size64 + fs.blockSize - 1) / fs.blockSize % 2 ^ 32
  forEachDirEntryIn dir f (List.range numBlocks)

end Walk

/-- `find_entry`. -/
def findEntry (dir : Inode) (name : List UInt8) : FsM Nat := do
  let found ← forEachDirEntry dir fun entry entryName =>
    if entryName = name then some entry.inode else none
  match found with
  | some ino => pure ino
  | none => throw .notFound

/-- `find_entry(..).is_ok()`. -/
def entryExists (dir : Inode) (name : List UInt8) : FsM Bool :=
  tryCatch (do let _ ← findEntry dir name; pure true) fun _ => pure false

/-! ## Paths -/

/-- `trim_matches('/')`. -/
def trimSlashes (path : List UInt8) : List UInt8 :=
  ((path.dropWhile (· == slash)).reverse.dropWhile (· == slash)).reverse

/-- `rfind('/')`. -/
def rfindSlash (path : List UInt8) : Option Nat :=
  (path.reverse.findIdx? (· == slash)).map fun j => path.length - 1 - j

/-- `split_parent_name`. -/
def splitParentName (path : List UInt8) : Except FsError (List UInt8 × List UInt8) :=
  let path := trimSlashes path
  if path.isEmpty then .error .notFound
  else
    match rfindSlash path with
    | some idx => .ok (path.take idx, path.drop (idx + 1))
    | none => .ok ([], path)

/-- The component loop of `lookup`. -/
def lookupFrom (current : Nat) : List (List UInt8) → FsM Nat
  | [] => pure current
  | component :: rest => do
      -- `.` and `..` are refused, so a path cannot leave the mount
      if component = [dot] ∨ component = [dot, dot] then throw .notFound
      let inode ← readInode current
      if !inode.isDir then throw .notFound
      let next ← findEntry inode component
      lookupFrom next rest

/-- `lookup`. -/
def lookup (path : List UInt8) : FsM Nat :=
  let path := trimSlashes path
  if path.isEmpty then pure ext2RootIno
  else lookupFrom ext2RootIno ((path.splitOn slash).filter fun c => !c.isEmpty)

/-! ## Adding an entry -/

/-- Where `add_dir_entry` puts the new record in a block, or that the name
is already there. -/
inductive Slot where
  | split (pos actual oldRecLen : Nat)
  | reuse (pos recLen : Nat)
  | duplicate
  deriving DecidableEq, Repr

/-- The record walk of one block in `add_dir_entry`. -/
def findSlot (buf : Nat → UInt8) (blockLen : Nat) (name : List UInt8) (needed : Nat) :
    Nat → Nat → Option Slot
  | 0, _ => none
  | fuel + 1, pos =>
      if pos < blockLen then
        if pos + 8 > blockLen then none
        else
          let entry := DirEntryRaw.read buf pos
          if entry.recLen < 8 ∨ pos + entry.recLen > blockLen then none
          else if entry.inode ≠ 0 then
            if entry.nameLen = name.length ∧ entry.nameLen ≤ entry.recLen - 8 ∧
                readBytes buf (pos + 8) entry.nameLen = name then some .duplicate
            -- the slack after the live record's own size, `rec_len as usize - actual`: it
            -- wraps (as a release build computes it) when the record is shorter than its name needs
            else if (entry.recLen + 2 ^ 64 - entrySize entry.nameLen) % 2 ^ 64 ≥ needed then
              some (.split pos (entrySize entry.nameLen) entry.recLen)
            else findSlot buf blockLen name needed fuel (pos + entry.recLen)
          else if entry.recLen ≥ needed then some (.reuse pos entry.recLen)
          else findSlot buf blockLen name needed fuel (pos + entry.recLen)
      else none

/-- The block loop of `add_dir_entry`: the block, its buffer and the slot. -/
def findDirSlot (dirInode : Inode) (name : List UInt8) (needed : Nat) :
    List Nat → FsM (Option (Nat × (Nat → UInt8) × Slot))
  | [] => pure none
  | fileBlock :: rest => do
      let fs ← get
      let blockNum ← getBlockNumber dirInode.block fs.blockSize fileBlock
      if blockNum = 0 then findDirSlot dirInode name needed rest
      else
        let buf ← readBlock blockNum
        match findSlot buf fs.blockSize name needed fs.blockSize 0 with
        | some slot => pure (some (blockNum, buf, slot))
        | none => findDirSlot dirInode name needed rest

/-- `add_dir_entry` up to its first write, holding the guard of inode `ino`:
the block, its buffer and the slot it found, if any. -/
def scanForEntry (dirInode : Inode) (name : List UInt8) (ino : Nat) :
    FsM (Option (Nat × (Nat → UInt8) × Slot)) := do
  if name.isEmpty ∨ name.length > 255 then
    spawn (.freeInode ino)
    throw .ioError
  let fs ← get
  let needed := entrySize name.length
  let numBlocks := (dirInode.size64 + fs.blockSize - 1) / fs.blockSize % 2 ^ 32
  guarded (.freeInode ino) (findDirSlot dirInode name needed (List.range numBlocks))

/-- The rest of `add_dir_entry`, from what its scan found: the inode number
and the updated directory inode. The buffer is the one the scan read. -/
def placeEntry (dirInode : Inode) (name : List UInt8) (ino fileType : Nat) :
    Option (Nat × (Nat → UInt8) × Slot) → FsM (Nat × Inode)
  | some (_, _, .duplicate) => do
      spawn (.freeInode ino)
      throw .alreadyExists
  | some (blockNum, buf, .split pos actual oldRecLen) => do
      -- commit point: the guard is consumed
      let buf := writeBytes buf (pos + 4) (leBytes actual 2)
      let buf := writeDirEntry buf (pos + actual) ino ((oldRecLen + 2 ^ 64 - actual) % 2 ^ 64 % 2 ^ 16)
        name fileType
      writeBlock blockNum buf
      pure (ino, dirInode)
  | some (blockNum, buf, .reuse pos recLen) => do
      -- commit point: the guard is consumed
      writeBlock blockNum (writeDirEntry buf pos ino recLen name fileType)
      pure (ino, dirInode)
  | none => do
      let fs ← get
      let blockSize := fs.blockSize
      let numBlocks := (dirInode.size64 + blockSize - 1) / blockSize % 2 ^ 32
      -- the new block is a plain number, with no guard
      let newBlock ← guarded (.freeInode ino) allocBlock
      -- commit point: the guard is consumed
      writeBlock newBlock (writeDirEntry zeroes 0 ino (blockSize % 2 ^ 16) name fileType)
      let linked ← withInode dirInode (setBlockNumber numBlocks newBlock)
      let dirInode := { linked.2 with blocks := linked.2.blocks + (1 + linked.1) * (blockSize / 512) }
      pure (ino, dirInode.setSize (dirInode.size64 + blockSize))

/-- `add_dir_entry`, holding the guard of inode `ino`: the inode number and
the updated directory inode. The scan reads each block into a buffer, and
the write-back writes the buffer as the scan read it. -/
def addDirEntry (_dirIno : Nat) (dirInode : Inode) (name : List UInt8) (ino fileType : Nat) :
    FsM (Nat × Inode) := do
  let found ← scanForEntry dirInode name ino
  placeEntry dirInode name ino fileType found

/-! ## Removing an entry -/

/-- The record walk of one block in `remove_dir_entry`: the position of the
record named `name`, its inode, and the position of the record before it. -/
def findRemoval (buf : Nat → UInt8) (blockLen : Nat) (name : List UInt8) :
    Nat → Option Nat → Nat → Option (Nat × Nat × Option Nat)
  | 0, _, _ => none
  | fuel + 1, prevPos, pos =>
      if pos < blockLen then
        if pos + 8 > blockLen then none
        else
          let entry := DirEntryRaw.read buf pos
          if entry.recLen < 8 ∨ pos + entry.recLen > blockLen then none
          else if entry.inode ≠ 0 ∧ entry.nameLen = name.length ∧ entry.nameLen ≤ entry.recLen - 8 ∧
              readBytes buf (pos + 8) entry.nameLen = name then some (pos, entry.inode, prevPos)
          else findRemoval buf blockLen name fuel (some pos) (pos + entry.recLen)
      else none

/-- The block after removing the record at `pos`: merged into the previous
record (`merged_len as u8`, `(merged_len >> 8) as u8`), or, with none before
it, its inode zeroed. -/
def unlinkRecord (buf : Nat → UInt8) (pos : Nat) : Option Nat → Nat → UInt8
  | some pp =>
      let mergedLen := (DirEntryRaw.read buf pp).recLen + (DirEntryRaw.read buf pos).recLen
      writeBytes buf (pp + 4) (leBytes mergedLen 2)
  | none => writeBytes buf pos [0, 0, 0, 0]

/-- The block loop of `remove_dir_entry`: the removed inode. -/
def removeDirEntryFrom (dirInode : Inode) (name : List UInt8) : List Nat → FsM Nat
  | [] => throw .notFound
  | fileBlock :: rest => do
      let fs ← get
      let blockNum ← getBlockNumber dirInode.block fs.blockSize fileBlock
      if blockNum = 0 then removeDirEntryFrom dirInode name rest
      else
        let buf ← readBlock blockNum
        match findRemoval buf fs.blockSize name fs.blockSize none 0 with
        | some (pos, removedIno, prevPos) =>
            writeBlock blockNum (unlinkRecord buf pos prevPos)
            pure removedIno
        | none => removeDirEntryFrom dirInode name rest

/-- `remove_dir_entry`: the removed inode number and the directory inode. -/
def removeDirEntry (_dirIno : Nat) (dirInode : Inode) (name : List UInt8) : FsM (Nat × Inode) := do
  let fs ← get
  let numBlocks := (dirInode.size64 + fs.blockSize - 1) / fs.blockSize % 2 ^ 32
  let removedIno ← removeDirEntryFrom dirInode name (List.range numBlocks)
  pure (removedIno, dirInode)

end PandaOs.Ext2
