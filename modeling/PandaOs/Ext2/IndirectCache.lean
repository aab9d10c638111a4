import PandaOs.Ext2.Ops

/-!
# The index block cache of an open file

`Ext2File` keeps `indirect_cache`, the index block `read_cached_ptr` read
last, with all of its pointers. A lookup in the cached block answers from
the cached pointers without reading the disk; any other block is read
whole, its `block_size / 4` pointers are parsed, and they replace the cache.
An index past the pointers reads as 0 either way.

`write` empties the cache when it records a new block at a file block of 12
or more. That is the only invalidation: nothing empties the cache of another
open file of the same inode when that file's writes change an index block.

`Ext2File` in `File` leaves the cache out. Here it is `IndirectCache`, and
`CacheM` runs `get_block` on the filesystem and the cache; the read and
write loops are the ones of `File`.
-/

namespace PandaOs.Ext2

open PandaOs.Lib

/-- `indirect_cache`: the index block read last and its pointers. -/
abbrev IndirectCache := Option (Nat × List Nat)

/-- A lookup through an open file's cache: the filesystem and the cache. -/
abbrev CacheM := ExceptT FsError (StateM (Ext2Fs × IndirectCache))

/-- The pointers of index block `block`, as a cache miss parses them. -/
def indexPointers (fs : Ext2Fs) (block : Nat) : List Nat :=
  (List.range (fs.blockSize / 4)).map fun i => leValue (readBytes fs.disk (block * fs.blockSize + i * 4) 4)

namespace IndirectCache

/-- `read_cached_ptr`. -/
def readCachedPtr (block index : Nat) : CacheM Nat := do
  if block = 0 then return 0
  let (fs, cache) ← get
  match cache with
  | some (cachedBlock, pointers) =>
      if cachedBlock = block then return pointers.getD index 0
  | none => pure ()
  -- a miss: the whole block is read and becomes the cache
  let pointers := indexPointers fs block
  set (fs, some (block, pointers))
  pure (pointers.getD index 0)

/-- `Ext2File::get_block`, through the cache. -/
def getBlock (inode : Inode) (fileBlock : Nat) : CacheM Nat := do
  let ptrsPerBlock := (← get).1.blockSize / 4
  if h : fileBlock < 12 then pure (getElem inode.block fileBlock (Inode.lt_slots_of_direct h))
  else
    let fb := fileBlock - 12
    if fb < ptrsPerBlock then readCachedPtr (getElem inode.block 12 Inode.single_lt_slots) fb
    else
      let fb := fb - ptrsPerBlock
      if fb < ptrsPerBlock * ptrsPerBlock then
        let ind ← readCachedPtr (getElem inode.block 13 Inode.double_lt_slots) (fb / ptrsPerBlock)
        readCachedPtr ind (fb % ptrsPerBlock)
      else
        let fb := fb - ptrsPerBlock * ptrsPerBlock
        let pp := ptrsPerBlock * ptrsPerBlock
        let dbl ← readCachedPtr (getElem inode.block 14 Inode.triple_lt_slots) (fb / pp)
        let ind ← readCachedPtr dbl (fb % pp / ptrsPerBlock)
        readCachedPtr ind (fb % ptrsPerBlock)

/-- Run a lookup of an open file with cache `cache` from the filesystem's
side: its result and the cache afterwards. -/
def withCache (cache : IndirectCache) (x : CacheM α) : FsM (α × IndirectCache) :=
  ExceptT.mk fun fs => let r := x.run.run (fs, cache); (r.1.map (·, r.2.2), r.2.1)

end IndirectCache

end PandaOs.Ext2
