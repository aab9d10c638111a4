import PandaOs.Ext2.Disk

/-!
# Inodes on disk

`Inode` is the 128-byte `repr(C)` record: `to_bytes` is its fields
little-endian in declaration order, and `read_inode` reads them back from
the slot `(ino - 1) % inodes_per_group` of the inode table of group
`(ino - 1) / inodes_per_group`. The 64-bit size is split between `size` and
`size_high`.
-/

namespace PandaOs.Ext2

open PandaOs.Lib

/-- `EXT2_ROOT_INO`. -/
def ext2RootIno : Nat := 2

/-- `S_IFMT`. -/
def sIfmt : Nat := 0xF000

/-- `S_IFREG`. -/
def sIfreg : Nat := 0x8000

/-- `S_IFDIR`. -/
def sIfdir : Nat := 0x4000

/-- `Inode`. -/
structure Inode where
  mode : Nat
  uid : Nat
  size : Nat
  atime : Nat
  ctime : Nat
  mtime : Nat
  dtime : Nat
  gid : Nat
  linksCount : Nat
  blocks : Nat
  flags : Nat
  osd1 : Nat
  block : Vector Nat 15
  generation : Nat
  fileAcl : Nat
  sizeHigh : Nat
  faddr : Nat
  osd2 : Nat
  deriving DecidableEq, Repr

namespace Inode

/-- `Inode::size`: `size as u64 | (size_high as u64) << 32`. -/
def size64 (i : Inode) : Nat := i.size % 2 ^ 32 + i.sizeHigh % 2 ^ 32 * 2 ^ 32

/-- `Inode::set_size`. -/
def setSize (i : Inode) (newSize : Nat) : Inode :=
  { i with size := newSize % 2 ^ 32, sizeHigh := newSize / 2 ^ 32 % 2 ^ 32 }

/-- `Inode::is_dir`. -/
def isDir (i : Inode) : Bool := i.mode &&& sIfmt == sIfdir

/-- `Inode::is_file`. -/
def isFile (i : Inode) : Bool := i.mode &&& sIfmt == sIfreg

/-- `Inode::to_bytes`. -/
def toBytes (i : Inode) : List UInt8 :=
  leBytes i.mode 2 ++ leBytes i.uid 2 ++ leBytes i.size 4 ++ leBytes i.atime 4 ++
    leBytes i.ctime 4 ++ leBytes i.mtime 4 ++ leBytes i.dtime 4 ++ leBytes i.gid 2 ++
    leBytes i.linksCount 2 ++ leBytes i.blocks 4 ++ leBytes i.flags 4 ++ leBytes i.osd1 4 ++
    i.block.toList.flatMap (leBytes · 4) ++ leBytes i.generation 4 ++ leBytes i.fileAcl 4 ++
    leBytes i.sizeHigh 4 ++ leBytes i.faddr 4 ++ leBytes i.osd2 12

/-- The inode whose bytes start at `off` in `m`. -/
def read (m : Nat → UInt8) (off : Nat) : Inode :=
  let field (o w : Nat) := leValue (readBytes m (off + o) w)
  { mode := field 0 2
    uid := field 2 2
    size := field 4 4
    atime := field 8 4
    ctime := field 12 4
    mtime := field 16 4
    dtime := field 20 4
    gid := field 24 2
    linksCount := field 26 2
    blocks := field 28 4
    flags := field 32 4
    osd1 := field 36 4
    block := Vector.ofFn fun k : Fin 15 => field (40 + 4 * k) 4
    generation := field 100 4
    fileAcl := field 104 4
    sizeHigh := field 108 4
    faddr := field 112 4
    osd2 := field 116 12 }

/-! `i_block` has fifteen slots: twelve direct ones, then the single, double
and triple indirect ones. The bounds of the slots the code indexes are
stated once, and the indexing uses them by name. -/

theorem lt_slots_of_direct {i : Nat} (h : i < 12) : i < 15 := by omega

theorem direct_lt_slots (i : Fin 12) : i.val < 15 := by omega

theorem slot_lt (slot : Fin 15) : slot.val < 15 := slot.isLt

theorem zero_lt_slots : 0 < 15 := by decide

theorem single_lt_slots : 12 < 15 := by decide

theorem double_lt_slots : 13 < 15 := by decide

theorem triple_lt_slots : 14 < 15 := by decide

end Inode

/-- Where inode `ino` lives: its group's inode table, at its index. -/
def inodeOffset (fs : Ext2Fs) (ino : Nat) : Option Nat :=
  (fs.groups[(ino - 1) / fs.inodesPerGroup]?).map fun g =>
    g.inodeTable * fs.blockSize + (ino - 1) % fs.inodesPerGroup * fs.inodeSize

/-- `read_inode`. -/
def readInode (ino : Nat) : FsM Inode := do
  if ino = 0 then throw .notFound
  let fs ← get
  match inodeOffset fs ino with
  | none => throw .notFound
  | some off => pure (Inode.read fs.disk off)

/-- `write_inode`. -/
def writeInode (ino : Nat) (inode : Inode) : FsM Unit := do
  if ino = 0 then throw .notFound
  let fs ← get
  match inodeOffset fs ino with
  | none => throw .notFound
  | some off => set { fs with disk := writeBytes fs.disk off inode.toBytes }

end PandaOs.Ext2
