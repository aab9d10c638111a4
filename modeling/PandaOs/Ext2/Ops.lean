import PandaOs.Ext2.Dir
import PandaOs.Ext2.File

/-!
# Namespace operations

`open`, `create`, `mkdir`, `unlink` and `rmdir` of `Ext2Fs`, each a
sequence of `?`-steps in `FsM`. `open` hands out an `Ext2File` with its own
copy of the inode; two opens of one path give two independent handles.

`create` and `mkdir` look the parent up, refuse a name `find_entry` finds,
allocate the inode under an `InodeGuard` and hand the guard to
`add_dir_entry`, which consumes it at its commit point. `mkdir` also holds
its first block under a `BlockGuard` until the new inode is written. A guard
dropped on an error path spawns its free (`guarded`).

`unlink` removes the entry, then reads the inode, and when its last link is
gone frees its blocks with `free_inode_blocks` and the inode itself.
`free_inode_blocks` frees the twelve direct blocks, then walks the three
index trees with `free_indirect_block`, which frees every non-zero pointer of
an index block (recursing above depth one) and then the index block.

The `Arc<Ext2Fs>` the operations upgrade from their weak self-reference is
always there while the filesystem is mounted, and is left out.
-/

namespace PandaOs.Ext2

open PandaOs.Lib

/-- `S_IFREG | (mode & 0o7777)` and so on: a fresh inode of `mode`. -/
def freshInode (mode size linksCount blocks : Nat) (block : Vector Nat 15) : Inode :=
  { mode := mode, uid := 0, size := size, atime := 0, ctime := 0, mtime := 0, dtime := 0, gid := 0,
    linksCount := linksCount, blocks := blocks, flags := 0, osd1 := 0, block := block,
    generation := 0, fileAcl := 0, sizeHigh := 0, faddr := 0, osd2 := 0 }

/-- `create` up to its inode allocation: the parent, its inode, the name and
the new inode number, whose guard the caller holds. -/
def createPrepare (path : List UInt8) : FsM (Nat × Inode × List UInt8 × Nat) := do
  let (parentPath, fileName) ← MonadExcept.ofExcept (splitParentName path)
  let parentIno ← lookup parentPath
  let parentInode ← readInode parentIno
  if !parentInode.isDir then throw .notFound
  if ← entryExists parentInode fileName then throw .alreadyExists
  let ino ← allocInode
  pure (parentIno, parentInode, fileName, ino)

/-- `Ext2Fs::open`: the open file at `path`, which must be a regular file. -/
def openFile (path : List UInt8) : FsM Ext2File := do
  let ino ← lookup path
  let inode ← readInode ino
  if !inode.isFile then throw .notFound
  pure (Ext2File.new inode ino)

/-- The inode `create` writes for a new file of `mode`. -/
def newFileInode (mode : Nat) : Inode :=
  freshInode (sIfreg ||| (mode &&& 0o7777)) 0 1 0 (Vector.replicate 15 0)

/-- `Ext2Fs::create`: the open file. -/
def create (path : List UInt8) (mode : Nat) : FsM Ext2File := do
  let (parentIno, parentInode, fileName, ino) ← createPrepare path
  -- the guard is consumed inside `add_dir_entry`
  let (newIno, updatedParent) ← addDirEntry parentIno parentInode fileName ino ftRegFile
  writeInode newIno (newFileInode mode)
  writeInode parentIno updatedParent
  pure (Ext2File.new (newFileInode mode) newIno)

/-- `Ext2Fs::mkdir`. -/
def mkdir (path : List UInt8) (mode : Nat) : FsM Unit := do
  let (parentPath, dirName) ← MonadExcept.ofExcept (splitParentName path)
  let parentIno ← lookup parentPath
  let parentInode ← readInode parentIno
  if !parentInode.isDir then throw .notFound
  if ← entryExists parentInode dirName then throw .alreadyExists
  let ino ← allocInode
  let initialBlock ← guarded (.freeInode ino) allocBlock
  let (newIno, updatedParent) ←
    guarded (.freeBlock initialBlock) (addDirEntry parentIno parentInode dirName ino ftDir)
  let fs ← get
  let newInode := freshInode (sIfdir ||| (mode &&& 0o7777)) fs.blockSize 2 (fs.blockSize / 512)
    ((Vector.replicate 15 0).set 0 initialBlock Inode.zero_lt_slots)
  guarded (.freeBlock initialBlock) (writeBlock initialBlock (initDirBlock fs.blockSize newIno parentIno))
  guarded (.freeBlock initialBlock) (writeInode newIno newInode)
  -- the block guard is consumed; `links_count += 1` on a `u16`
  writeInode parentIno { updatedParent with linksCount := (updatedParent.linksCount + 1) % 2 ^ 16 }
  incUsedDirsCount newIno

/-- The pointer loop of `free_indirect_block` at depth `depth + 1`. -/
def freeIndirectBlock : Nat → Nat → FsM Unit
  | 0, _ => pure ()
  | depth + 1, blockNum => do
      let buf ← readBlock blockNum
      let fs ← get
      (List.range (fs.blockSize / 4)).forM fun i => do
        let ptr := leValue (readBytes buf (i * 4) 4)
        if ptr ≠ 0 then
          if depth = 0 then freeBlock ptr else freeIndirectBlock depth ptr
      freeBlock blockNum

/-- `free_inode_blocks`. -/
def freeInodeBlocks (inode : Inode) : FsM Unit := do
  (List.finRange 12).forM fun i => do
    if getElem inode.block i.val (Inode.direct_lt_slots i) ≠ 0 then
      freeBlock (getElem inode.block i.val (Inode.direct_lt_slots i))
  for (slot, depth) in [((⟨12, Inode.single_lt_slots⟩ : Fin 15), 1), (⟨13, Inode.double_lt_slots⟩, 2),
      (⟨14, Inode.triple_lt_slots⟩, 3)] do
    if getElem inode.block slot (Inode.slot_lt slot) ≠ 0 then
      freeIndirectBlock depth (getElem inode.block slot (Inode.slot_lt slot))

/-- `Ext2Fs::unlink`. -/
def unlink (path : List UInt8) : FsM Unit := do
  let (parentPath, fileName) ← MonadExcept.ofExcept (splitParentName path)
  let parentIno ← lookup parentPath
  let parentInode ← readInode parentIno
  if !parentInode.isDir then throw .notFound
  let (targetIno, updatedParent) ← removeDirEntry parentIno parentInode fileName
  writeInode parentIno updatedParent
  let targetInode ← readInode targetIno
  let targetInode := { targetInode with linksCount := targetInode.linksCount - 1 }
  if targetInode.linksCount = 0 then
    freeInodeBlocks targetInode
    writeInode targetIno ({ targetInode with dtime := 1, blocks := 0 }.setSize 0)
    freeInode targetIno
  else writeInode targetIno targetInode

/-- `is_dir_empty`: no entry but `.` and `..`. -/
def isDirEmpty (dirInode : Inode) : FsM Bool := do
  let found ← forEachDirEntry dirInode fun _ name =>
    if name ≠ [dot] ∧ name ≠ [dot, dot] then some () else none
  pure found.isNone

/-- `Ext2Fs::rmdir`. -/
def rmdir (path : List UInt8) : FsM Unit := do
  let (parentPath, dirName) ← MonadExcept.ofExcept (splitParentName path)
  if dirName.isEmpty ∨ (trimSlashes path).isEmpty then throw .ioError
  let parentIno ← lookup parentPath
  let parentInode ← readInode parentIno
  if !parentInode.isDir then throw .notFound
  let targetIno ← findEntry parentInode dirName
  let targetInode ← readInode targetIno
  if !targetInode.isDir then throw .notDirectory
  if !(← isDirEmpty targetInode) then throw .notEmpty
  let (_, updatedParent) ← removeDirEntry parentIno parentInode dirName
  freeInodeBlocks targetInode
  writeInode targetIno ({ targetInode with dtime := 1, blocks := 0, linksCount := 0 }.setSize 0)
  freeInode targetIno
  writeInode parentIno { updatedParent with linksCount := updatedParent.linksCount - 1 }
  decUsedDirsCount targetIno

end PandaOs.Ext2
