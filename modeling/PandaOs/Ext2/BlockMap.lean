import PandaOs.Ext2.Inode

/-!
# The block map of an inode

An inode's file block `n` is found through its fifteen pointers: twelve
direct ones, then one single-, one double- and one triple-indirect index
block, each holding `block_size / 4` little-endian `u32` pointers.
`get_block_number` walks the levels; `set_block_number` walks them too,
allocating every missing index block on the way and counting them.

Neither checks that the index it computes at a level is below
`block_size / 4`: `read_block_ptr` and `write_block_ptr` read and write the
four bytes at `block * block_size + index * 4` whatever `index` is.

`set_block_number` updates the inode through a `&mut`: the pointers it set
before an error stay set. It runs in `InodeM`, whose state is the
filesystem and the inode being updated; `withInode` runs it on an inode
held in a local, which a caller drops on error.
-/

namespace PandaOs.Ext2

open PandaOs.Lib

/-- `read_block_ptr`. -/
def readBlockPtr (block index blockSize : Nat) : FsM Nat := do
  if block = 0 then return 0
  let fs ← get
  pure (leValue (readBytes fs.disk (block * blockSize + index * 4) 4))

/-- `write_block_ptr`. -/
def writeBlockPtr (block index blockSize value : Nat) : FsM Unit := do
  if block = 0 then throw .ioError
  modify fun fs => { fs with disk := writeBytes fs.disk (block * blockSize + index * 4) (leBytes value 4) }

/-- `get_block_number`. -/
def getBlockNumber (blockPointers : Vector Nat 15) (blockSize fileBlock : Nat) : FsM Nat := do
  let p := blockSize / 4
  if h : fileBlock < 12 then pure (getElem blockPointers fileBlock (Inode.lt_slots_of_direct h))
  else if fileBlock - 12 < p then
    readBlockPtr (getElem blockPointers 12 Inode.single_lt_slots) (fileBlock - 12) blockSize
  else if fileBlock - 12 - p < p * p then
    let fb := fileBlock - 12 - p
    let ind ← readBlockPtr (getElem blockPointers 13 Inode.double_lt_slots) (fb / p) blockSize
    readBlockPtr ind (fb % p) blockSize
  else
    let fb := fileBlock - 12 - p - p * p
    let dbl ← readBlockPtr (getElem blockPointers 14 Inode.triple_lt_slots) (fb / (p * p)) blockSize
    let ind ← readBlockPtr dbl (fb % (p * p) / p) blockSize
    readBlockPtr ind (fb % p) blockSize

/-- An operation that updates an inode in place. -/
abbrev InodeM := ExceptT FsError (StateM (Ext2Fs × Inode))

/-- A filesystem operation inside `InodeM`. -/
def liftFs (x : FsM α) : InodeM α := focus Prod.fst (fun fs s => (fs, s.2)) x

/-- Run `x` on the inode `i`, returning the updated inode with the result. -/
def withInode (i : Inode) (x : InodeM α) : FsM (α × Inode) :=
  ExceptT.mk fun fs => let r := x.run.run (fs, i); (r.1.map (·, r.2.2), r.2.1)

/-- A fresh index block: allocated and zeroed. -/
def allocZeroedBlock : FsM Nat := do
  let b ← allocBlock
  writeBlock b zeroes
  pure b

/-- `if inode.block[slot] == 0 { .. }`: allocate the index block of `slot`
if it is absent; the number of blocks that took. -/
def ensureSlot (slot : Fin 15) : InodeM Nat := do
  if getElem (← get).2.block slot (Inode.slot_lt slot) = 0 then
    let b ← liftFs allocZeroedBlock
    modify fun s => (s.1, { s.2 with block := s.2.block.set slot b (Inode.slot_lt slot) })
    pure 1
  else pure 0

/-- `if ind == 0 { .. }`: the block entry `index` of `parent` points to,
allocated and recorded if absent; with the number of blocks that took. -/
def ensureEntry (parent index : Nat) : InodeM (Nat × Nat) := do
  let bs := (← get).1.blockSize
  let child ← liftFs (readBlockPtr parent index bs)
  if child = 0 then
    let b ← liftFs allocZeroedBlock
    liftFs (writeBlockPtr parent index bs b)
    pure (b, 1)
  else pure (child, 0)

/-- `set_block_number`: the number of index blocks it allocated. -/
def setBlockNumber (fileBlock value : Nat) : InodeM Nat := do
  let bs := (← get).1.blockSize
  let p := bs / 4
  if h : fileBlock < 12 then
    modify fun s => (s.1, { s.2 with block := s.2.block.set fileBlock value (Inode.lt_slots_of_direct h) })
    pure 0
  else if fileBlock - 12 < p then
    let m ← ensureSlot 12
    liftFs (writeBlockPtr (getElem (← get).2.block 12 Inode.single_lt_slots) (fileBlock - 12) bs value)
    pure m
  else if fileBlock - 12 - p < p * p then
    let fb := fileBlock - 12 - p
    let m₁ ← ensureSlot 13
    let ind ← ensureEntry (getElem (← get).2.block 13 Inode.double_lt_slots) (fb / p)
    liftFs (writeBlockPtr ind.1 (fb % p) bs value)
    pure (m₁ + ind.2)
  else
    let fb := fileBlock - 12 - p - p * p
    let m₁ ← ensureSlot 14
    let dbl ← ensureEntry (getElem (← get).2.block 14 Inode.triple_lt_slots) (fb / (p * p))
    let ind ← ensureEntry dbl.1 (fb % (p * p) / p)
    liftFs (writeBlockPtr ind.1 (fb % p) bs value)
    pure (m₁ + dbl.2 + ind.2)

end PandaOs.Ext2
