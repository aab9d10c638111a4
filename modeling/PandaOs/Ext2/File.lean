import PandaOs.Ext2.BlockMap

/-!
# Open files

`Ext2File` holds the file's inode, its number, its size and the position.
`write` runs in a loop of chunks, each the rest of one block or of the
buffer: it finds the chunk's block through `get_block`, allocates and zeroes
a block where there is none and records it with `set_block_number`, counting
the data block and the index blocks in `inode.blocks`, then writes the
chunk, whole or by read-modify-write. The inode is written back once, after
the loop. Every step is written with `?`: on an error the loop returns at
once, and the inode, position and size of the open file keep what the loop
already did to them, while the inode on disk does not.

`Ext2File::get_block` reads the index blocks through a cache of the last
index block read, and a pointer index past the end of an index block reads
as 0. `Ext2File` leaves the cache out and reads the disk: an open file
empties its cache whenever its own writes change an index block, so through
one handle the cache holds what the disk holds, and a lookup answers the
same either way (`IndirectCache.getBlock_refines`). `IndirectCache` models
the cache itself, for several open files of one inode.

The file block of a position is `(pos / block_size) as u32`.
-/

namespace PandaOs.Ext2

open PandaOs.Lib

/-- `Ext2File`, without its index block cache. -/
structure Ext2File where
  inode : Inode
  ino : Nat
  size : Nat
  pos : Nat
  deriving DecidableEq, Repr

/-- `Ext2File::new`. -/
def Ext2File.new (inode : Inode) (ino : Nat) : Ext2File := ⟨inode, ino, inode.size64, 0⟩

/-- An operation on an open file: the filesystem and the file's own state. -/
abbrev FileM := ExceptT FsError (StateM (Ext2Fs × Ext2File))

/-- A filesystem operation inside `FileM`. -/
def onFs (x : FsM α) : FileM α := focus Prod.fst (fun fs s => (fs, s.2)) x

/-- An update of the open file's inode inside `FileM`. -/
def onInode (x : InodeM α) : FileM α :=
  focus (fun s => (s.1, s.2.inode)) (fun r s => (r.1, { s.2 with inode := r.2 })) x

/-- A file operation run from the filesystem's side, on an open file: its
result, which does not stop the caller, and the file afterwards. -/
def withFile (file : Ext2File) (x : FileM α) : FsM (Except FsError α × Ext2File) :=
  ExceptT.mk fun fs => let r := x.run.run (fs, file); (.ok (r.1, r.2.2), r.2.1)

/-- `read_cached_ptr`: pointer `index` of index block `block`, 0 past its end. -/
def readCachedPtr (block index : Nat) : FsM Nat := do
  if block = 0 then return 0
  let fs ← get
  if index < fs.blockSize / 4 then
    pure (leValue (readBytes fs.disk (block * fs.blockSize + index * 4) 4))
  else pure 0

/-- `Ext2File::get_block`. -/
def Ext2File.getBlock (inode : Inode) (fileBlock : Nat) : FsM Nat := do
  let ptrsPerBlock := (← get).blockSize / 4
  if h : fileBlock < 12 then pure (getElem inode.block fileBlock (Inode.lt_slots_of_direct h))
  else
    let fb := fileBlock - 12
    if fb < ptrsPerBlock then readCachedPtr (getElem inode.block 12 Inode.single_lt_slots) fb
    else
      let fb := fb - ptrsPerBlock
      if fb < ptrsPerBlock * ptrsPerBlock then
        let ind ← readCachedPtr (getElem inode.block 13 Inode.double_lt_slots) (fb / ptrsPerBlock)
        readCachedPtr ind (fb % ptrsPerBlock)
      else
        let fb := fb - ptrsPerBlock * ptrsPerBlock
        let pp := ptrsPerBlock * ptrsPerBlock
        let dbl ← readCachedPtr (getElem inode.block 14 Inode.triple_lt_slots) (fb / pp)
        let ind ← readCachedPtr dbl (fb % pp / ptrsPerBlock)
        readCachedPtr ind (fb % ptrsPerBlock)

/-- The block of the chunk at the file's position: the one there, or a
fresh zeroed one recorded in the inode, with `inode_dirty` updated. -/
def blockForWrite (fileBlock : Nat) (dirty : Bool) : FileM (Nat × Bool) := do
  let (fs, file) ← get
  let found ← onFs (Ext2File.getBlock file.inode fileBlock)
  if found ≠ 0 then return (found, dirty)
  let blockNum ← onFs allocBlock
  onFs (writeBlock blockNum zeroes)
  let metaBlocks ← onInode (setBlockNumber fileBlock blockNum)
  modify fun s => (s.1, { s.2 with
    inode := { s.2.inode with blocks := s.2.inode.blocks + (1 + metaBlocks) * (fs.blockSize / 512) } })
  pure (blockNum, true)

/-- The chunk loop of `Ext2File::write` over what is left of the buffer.
Each turn writes at least one byte, so the buffer's length is fuel enough. -/
def writeChunks : Nat → List UInt8 → Bool → FileM Bool
  | 0, _, dirty => pure dirty
  | _, [], dirty => pure dirty
  | fuel + 1, rest@(_ :: _), dirty => do
      let (fs, file) ← get
      let bs := fs.blockSize
      -- `(self.pos / block_size as u64) as u32`
      let fileBlock := file.pos / bs % 2 ^ 32
      let blockOff := file.pos % bs
      let chunk := min (bs - blockOff) rest.length
      let (blockNum, dirty) ← blockForWrite fileBlock dirty
      let data := rest.take chunk
      if chunk = bs then onFs (writeBlock blockNum fun i => data.getD i 0)
      else
        let old ← onFs (readBlock blockNum)
        onFs (writeBlock blockNum (writeFn old blockOff chunk fun i => data.getD i 0))
      modify fun s => (s.1, { s.2 with pos := s.2.pos + chunk })
      let file := (← get).2
      let dirty ←
        if file.pos > file.size then do
          modify fun s => (s.1, { s.2 with size := s.2.pos, inode := s.2.inode.setSize s.2.pos })
          pure true
        else pure dirty
      writeChunks fuel (rest.drop chunk) dirty

/-- `Ext2File::write`: the number of bytes written. -/
def Ext2File.write (buf : List UInt8) : FileM Nat := do
  if buf.isEmpty then return 0
  let dirty ← writeChunks buf.length buf false
  if dirty then
    let file := (← get).2
    onFs (writeInode file.ino file.inode)
  pure buf.length

/-- The chunk loop of `Ext2File::read`; a hole reads as zeros. -/
def readChunks : Nat → Nat → FileM (List UInt8)
  | 0, _ => pure []
  | fuel + 1, toRead => do
      if toRead = 0 then return []
      let (fs, file) ← get
      let bs := fs.blockSize
      let fileBlock := file.pos / bs % 2 ^ 32
      let blockOff := file.pos % bs
      let chunk := min (bs - blockOff) toRead
      let blockNum ← onFs (Ext2File.getBlock file.inode fileBlock)
      let bytes :=
        if blockNum = 0 then List.replicate chunk 0
        else readBytes fs.disk (blockNum * bs + blockOff) chunk
      modify fun s => (s.1, { s.2 with pos := s.2.pos + chunk })
      let more ← readChunks fuel (toRead - chunk)
      pure (bytes ++ more)

/-- `Ext2File::read` into a buffer of `len` bytes: the bytes read. -/
def Ext2File.read (len : Nat) : FileM (List UInt8) := do
  let file := (← get).2
  if file.pos ≥ file.size then return []
  let toRead := min len (file.size - file.pos)
  readChunks toRead toRead

/-- `SeekFrom`. -/
inductive SeekFrom where
  | start (n : Nat)
  | current (n : Int)
  | fromEnd (n : Int)
  deriving DecidableEq, Repr

/-- `n as i64` for a `u64`. -/
def asI64 (n : Nat) : Int :=
  if n % 2 ^ 64 < 2 ^ 63 then (n % 2 ^ 64 : Nat) else (n % 2 ^ 64 : Nat) - 2 ^ 64

/-- `Ext2File::seek`. -/
def Ext2File.seek (f : Ext2File) (whence : SeekFrom) : Except FsError Ext2File :=
  let newPos : Int :=
    match whence with
    | .start n => asI64 n
    | .current n => asI64 f.pos + n
    | .fromEnd n => asI64 f.size + n
  if newPos < 0 then .error .invalidOffset else .ok { f with pos := newPos.toNat }

end PandaOs.Ext2
