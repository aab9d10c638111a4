import PandaOs.Ext2.IndirectCache
import PandaOs.Proofs.Ext2FileLeak

/-!
# The index block cache against the block map

`get_block_number`, `Ext2File::get_block` without its cache and
`get_block` through its cache all walk the same levels of the block map;
they differ in how they read one pointer. `lookupPtr` is the walk once, over
a pointer reader, and each of the three reads as it (`run_getBlockNumber`,
`run_getBlock`, `IndirectCache.getBlock_reads`), the cached one as long as
the cache holds what the disk holds for its block (`Coherent`). Inside the
addressable range every index a level computes is below `block_size / 4`,
where the two readers agree (`lookupPtr_congr`), so a coherent cache answers
as `get_block_number` does (`cached_get_block_agrees_in_range`).

A handle's own writes keep its cache coherent, because `write` empties it
whenever it records a block past the direct ones. Another handle of the same
file does not: `stale_index_cache_hides_other_write` opens a sparse file
twice, looks file block 12 up through the first handle, which caches the
single-indirect block, and fills the hole at file block 13 through the
second. The first handle's cached lookup of block 13 then answers 0, while
`get_block_number` on the same inode finds the block the second handle
wrote.
-/

namespace PandaOs.Ext2

open PandaOs.Lib

/-- The walk of `get_block_number` and `get_block` over the levels of the
block map, reading each pointer with `ptr`; `p` is `block_size / 4`. -/
def lookupPtr (ptr : Nat → Nat → Nat) (block : Vector Nat 15) (p fileBlock : Nat) : Nat :=
  if h : fileBlock < 12 then getElem block fileBlock (Inode.lt_slots_of_direct h)
  else if fileBlock - 12 < p then ptr (getElem block 12 Inode.single_lt_slots) (fileBlock - 12)
  else if fileBlock - 12 - p < p * p then
    ptr (ptr (getElem block 13 Inode.double_lt_slots) ((fileBlock - 12 - p) / p)) ((fileBlock - 12 - p) % p)
  else
    let fb := fileBlock - 12 - p - p * p
    ptr (ptr (ptr (getElem block 14 Inode.triple_lt_slots) (fb / (p * p))) (fb % (p * p) / p)) (fb % p)

/-- Pointer `index` of `block` as `read_block_ptr` reads it, past the block too. -/
def rawPtr (fs : Ext2Fs) (block index : Nat) : Nat :=
  if block = 0 then 0 else leValue (readBytes fs.disk (block * fs.blockSize + index * 4) 4)

/-- Pointer `index` of `block` as `read_cached_ptr` reads it: 0 past its pointers. -/
def cachedPtr (fs : Ext2Fs) (block index : Nat) : Nat :=
  if block = 0 then 0 else (indexPointers fs block).getD index 0

theorem cachedPtr_eq_rawPtr (fs : Ext2Fs) (block : Nat) {index : Nat} (h : index < fs.blockSize / 4) :
    cachedPtr fs block index = rawPtr fs block index := by
  unfold cachedPtr rawPtr indexPointers
  split_ifs
  · rfl
  · simp [List.getD_eq_getElem?_getD, h]

/-- Inside the addressable range the walk reads only indices below `p`. -/
theorem lookupPtr_congr {ptr ptr' : Nat → Nat → Nat} {p : Nat} (block : Vector Nat 15) {fileBlock : Nat}
    (hptr : ∀ b i, i < p → ptr b i = ptr' b i) (hfb : fileBlock < 12 + p + p * p + p * p * p) :
    lookupPtr ptr block p fileBlock = lookupPtr ptr' block p fileBlock := by
  unfold lookupPtr
  split_ifs with hdirect hsingle hdouble
  · rfl
  · exact hptr _ _ hsingle
  · have hp : 0 < p := Nat.pos_of_ne_zero fun h => by simp [h] at hsingle hdouble
    rw [hptr _ _ (Nat.mod_lt _ hp), hptr _ _ (Nat.div_lt_of_lt_mul hdouble)]
  · have hp : 0 < p := Nat.pos_of_ne_zero fun h => by simp [h] at hfb; omega
    have hpp : 0 < p * p := Nat.mul_pos hp hp
    have htriple : fileBlock - 12 - p - p * p < p * p * p := by
      generalize p * p * p = r at hfb ⊢; generalize p * p = q at hfb hdouble ⊢; omega
    rw [hptr _ _ (Nat.mod_lt _ hp), hptr _ _ (Nat.div_lt_of_lt_mul ((Nat.mod_lt _ hpp).trans_eq (Nat.mul_comm p p))),
      hptr _ _ (Nat.div_lt_of_lt_mul (by rwa [Nat.mul_comm] at htriple))]

/-! ## The uncached lookups -/

section Run

variable (fs : Ext2Fs)

theorem run_readCachedPtr (block index : Nat) :
    (readCachedPtr block index).run.run fs = (.ok (cachedPtr fs block index), fs) := by
  by_cases h0 : block = 0
  · simp only [readCachedPtr, cachedPtr, h0, if_true, run_pure]
  · by_cases hidx : index < fs.blockSize / 4
    · simp only [readCachedPtr, cachedPtr, h0, hidx, if_false, if_true, run_bind, run_get, run_pure,
        indexPointers, List.getD_eq_getElem?_getD, List.getElem?_map, List.getElem?_range hidx, Option.map_some,
        Option.getD_some]
    · have hnone : (List.range (fs.blockSize / 4))[index]? = none := List.getElem?_eq_none (by simpa using hidx)
      simp only [readCachedPtr, cachedPtr, h0, hidx, if_false, run_bind, run_get, run_pure, indexPointers,
        List.getD_eq_getElem?_getD, List.getElem?_map, hnone, Option.map_none, Option.getD_none]

theorem run_readBlockPtr (block index : Nat) :
    (readBlockPtr block index fs.blockSize).run.run fs = (.ok (rawPtr fs block index), fs) := by
  unfold readBlockPtr rawPtr
  split_ifs <;> rfl

theorem run_getBlock (inode : Inode) (fileBlock : Nat) :
    (Ext2File.getBlock inode fileBlock).run.run fs =
      (.ok (lookupPtr (cachedPtr fs) inode.block (fs.blockSize / 4) fileBlock), fs) := by
  unfold Ext2File.getBlock lookupPtr
  simp only [run_bind, run_get]
  split_ifs <;> simp only [run_pure, run_bind, run_readCachedPtr]

theorem run_getBlockNumber (block : Vector Nat 15) (fileBlock : Nat) :
    (getBlockNumber block fs.blockSize fileBlock).run.run fs =
      (.ok (lookupPtr (rawPtr fs) block (fs.blockSize / 4) fileBlock), fs) := by
  unfold getBlockNumber lookupPtr
  dsimp only
  split_ifs <;> simp only [run_pure, run_bind, run_readBlockPtr]

end Run

/-! ## The cached lookup -/

/-- A cache that holds, for its block, the pointers the disk holds. -/
def Coherent (fs : Ext2Fs) (cache : IndirectCache) : Prop :=
  ∀ block pointers, cache = some (block, pointers) → pointers = indexPointers fs block

theorem coherent_none (fs : Ext2Fs) : Coherent fs none := fun _ _ h => nomatch h

/-- `x` answers `v` on `fs` from every coherent cache, leaving the
filesystem as it is and the cache coherent. -/
def ReadsAt (fs : Ext2Fs) (x : CacheM α) (v : α) : Prop :=
  ∀ cache, Coherent fs cache → ∃ cache', Coherent fs cache' ∧ x.run.run (fs, cache) = (.ok v, (fs, cache'))

namespace ReadsAt

variable {fs : Ext2Fs} {α β : Type}

theorem pure (a : α) : ReadsAt fs (Pure.pure a) a := fun cache hc => ⟨cache, hc, rfl⟩

theorem bind {x : CacheM α} {f : α → CacheM β} {a : α} {b : β} (hx : ReadsAt fs x a) (hf : ReadsAt fs (f a) b) :
    ReadsAt fs (x >>= f) b := by
  intro cache hc
  obtain ⟨cache₁, hc₁, hrun₁⟩ := hx cache hc
  obtain ⟨cache₂, hc₂, hrun₂⟩ := hf cache₁ hc₁
  exact ⟨cache₂, hc₂, by rw [run_bind, hrun₁]; exact hrun₂⟩

theorem get_bind {f : Ext2Fs × IndirectCache → CacheM β} {b : β}
    (hf : ∀ cache, ReadsAt fs (f (fs, cache)) b) : ReadsAt fs (get >>= f) b := by
  intro cache hc
  obtain ⟨cache', hc', hrun⟩ := hf cache cache hc
  exact ⟨cache', hc', by rw [run_bind, run_get]; exact hrun⟩

end ReadsAt

namespace IndirectCache

theorem readCachedPtr_reads (fs : Ext2Fs) (block index : Nat) :
    ReadsAt fs (readCachedPtr block index) (cachedPtr fs block index) := by
  intro cache hc
  by_cases h0 : block = 0
  · exact ⟨cache, hc, by simp only [readCachedPtr, cachedPtr, h0, if_true, run_pure]⟩
  -- a miss leaves the block's own pointers in the cache
  have hmiss : Coherent fs (some (block, indexPointers fs block)) := by
    rintro b pointers ⟨⟩
    rfl
  rcases cache with _ | ⟨cachedBlock, pointers⟩
  · exact ⟨_, hmiss, by simp only [readCachedPtr, cachedPtr, h0, if_false, run_bind, run_get, run_set, run_pure]⟩
  · by_cases hhit : cachedBlock = block
    · subst hhit
      obtain rfl := hc _ _ rfl
      exact ⟨_, hc, by simp only [readCachedPtr, cachedPtr, h0, if_false, if_true, run_bind, run_get, run_pure]⟩
    · exact ⟨_, hmiss, by
        simp only [readCachedPtr, cachedPtr, h0, hhit, if_false, run_bind, run_get, run_set, run_pure]⟩

theorem getBlock_reads (fs : Ext2Fs) (inode : Inode) (fileBlock : Nat) :
    ReadsAt fs (getBlock inode fileBlock) (lookupPtr (cachedPtr fs) inode.block (fs.blockSize / 4) fileBlock) := by
  unfold getBlock
  refine ReadsAt.get_bind fun _ => ?_
  unfold lookupPtr
  dsimp only
  split_ifs
  · exact ReadsAt.pure _
  · exact readCachedPtr_reads fs _ _
  · exact (readCachedPtr_reads fs _ _).bind (readCachedPtr_reads fs _ _)
  · exact (readCachedPtr_reads fs _ _).bind ((readCachedPtr_reads fs _ _).bind (readCachedPtr_reads fs _ _))

/-- `Ext2File.getBlock`, which leaves the cache out, is what the cached
lookup answers from a coherent cache. -/
theorem getBlock_refines (fs : Ext2Fs) (inode : Inode) (fileBlock : Nat) {v : Nat}
    (h : (Ext2File.getBlock inode fileBlock).run.run fs = (.ok v, fs)) : ReadsAt fs (getBlock inode fileBlock) v := by
  rw [run_getBlock, Prod.mk.injEq, Except.ok.injEq] at h
  exact h.1 ▸ getBlock_reads fs inode fileBlock

end IndirectCache

theorem cached_get_block_agrees_in_range (fs : Ext2Fs) (inode : Inode) (cache : IndirectCache)
    (fileBlock : Nat) (hc : Coherent fs cache)
    (hfb : fileBlock < 12 + fs.blockSize / 4 + fs.blockSize / 4 * (fs.blockSize / 4) +
      fs.blockSize / 4 * (fs.blockSize / 4) * (fs.blockSize / 4)) :
    ∃ v cache', (getBlockNumber inode.block fs.blockSize fileBlock).run.run fs = (.ok v, fs) ∧
      (IndirectCache.getBlock inode fileBlock).run.run (fs, cache) = (.ok v, (fs, cache')) ∧
      Coherent fs cache' := by
  obtain ⟨cache', hc', hrun⟩ := IndirectCache.getBlock_reads fs inode fileBlock cache hc
  refine ⟨_, cache', run_getBlockNumber fs _ _, ?_, hc'⟩
  rw [hrun, lookupPtr_congr _ (fun b _ hi => cachedPtr_eq_rawPtr fs b hi) hfb]

theorem cached_get_block_agrees_in_range_root :
    ∃ v cache', (getBlockNumber rootInode.block smallFs.blockSize 300).run.run smallFs = (.ok v, smallFs) ∧
      (IndirectCache.getBlock rootInode 300).run.run (smallFs, none) = (.ok v, (smallFs, cache')) ∧
      Coherent smallFs cache' :=
  cached_get_block_agrees_in_range smallFs rootInode none 300 (coherent_none smallFs) (by decide)

/-! ## Two handles of one file

`smallImage` with blocks 28 to 31 free. -/

def fourFreeImage : Nat → UInt8 := fun a =>
  if a < 3072 then writeFields (writeFields smallMeta superblockOffset [(12, 4, 4)]) 2048 [(12, 2, 4)] a
  else if a < 3076 then [0xFF, 0xFF, 0xFF, 0x87].getD (a - 3072) 0
  else smallImage a

def fourFreeFs : Ext2Fs :=
  { smallFs with freeBlocksCount := 4, groups := [⟨3, 4, 5, 4, 5, 1⟩], disk := fourFreeImage }

theorem mount_fourFreeImage : mount fourFreeImage = .ok fourFreeFs := rfl

/-- `create("f")` and one-byte writes at file blocks 12 and 14: file block 13
is a hole inside the file, under the single-indirect block 29. -/
def sparseFile : FsM Unit := do
  let file ← create [0x66] 0o644
  let file ← MonadExcept.ofExcept (file.seek (.start 12288))
  let (_, file) ← withFile file (Ext2File.write [1])
  let file ← MonadExcept.ofExcept (file.seek (.start 14336))
  let _ ← withFile file (Ext2File.write [2])
  pure ()

/-- Two opens of "f". The first looks file block 12 up; the second writes a
byte into file block 13; the first looks block 13 up through its cache and
with `get_block_number` on its inode. -/
def staleLookup : FsM (Nat × Nat) := do
  sparseFile
  let a ← openFile [0x66]
  let (_, cache) ← IndirectCache.withCache none (IndirectCache.getBlock a.inode 12)
  let b ← openFile [0x66]
  let b ← MonadExcept.ofExcept (b.seek (.start 13312))
  let _ ← withFile b (Ext2File.write [0x55])
  let (cached, _) ← IndirectCache.withCache cache (IndirectCache.getBlock a.inode 13)
  let fs ← get
  let onDisk ← getBlockNumber a.inode.block fs.blockSize 13
  pure (cached, onDisk)

/-- The cached lookup answers 0, a hole; `get_block_number` finds block 31,
which holds the second handle's byte. -/
theorem stale_index_cache_hides_other_write :
    mount fourFreeImage = .ok fourFreeFs ∧
      (staleLookup.run.run fourFreeFs).1 = .ok (0, 31) ∧
      (staleLookup.run.run fourFreeFs).2.disk (31 * 1024) = 0x55 := by
  refine ⟨mount_fourFreeImage, ?_⟩
  decide +kernel

end PandaOs.Ext2
