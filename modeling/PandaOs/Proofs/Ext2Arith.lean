import PandaOs.Proofs.Ext2FileLeak

/-!
# Block numbers past `u32`

`alloc_block` returns `first_data_block + group * blocks_per_group + bit`,
computed in `u32`. On a mounted filesystem the bit is below its group's
size, so what it returns is below `first_data_block + blocks_count`
(`allocBlock_lt`); the model computes the sum unbounded, so the `u32` sum
overflows exactly when the returned number is `2 ^ 32` or more.

`validate` bounds the counts and the group sizes but not
`first_data_block`, so nothing keeps that sum below `2 ^ 32`. The image of
`allocBlock_overflows` is `smallImage` with `first_data_block` set to
`2 ^ 32 - 1`: it mounts, and its one free block, bit 30, is numbered
`2 ^ 32 + 29`. A debug build panics on the addition; a release build
returns block 29, which is in use.
-/

namespace PandaOs.Ext2

open PandaOs.Lib

/-! ## `find_first_clear_bit` stays below its bound -/

theorem scanBits_lt {byte : UInt8} {byteIdx maxBits : Nat} :
    ∀ {bits : List Nat} {i : Nat}, scanBits byte byteIdx maxBits bits = some (some i) → i < maxBits
  | [], _, h => by simp [scanBits] at h
  | bit :: rest, i, h => by
      unfold scanBits at h
      split_ifs at h with hge
      · cases h
      · -- the bit found is this one, which the bound check let through
        simp only [Option.some.injEq] at h
        omega
      · exact scanBits_lt h

theorem scanBytes_lt {bitmap : Nat → UInt8} {maxBits : Nat} :
    ∀ {bytes : List Nat} {i : Nat}, scanBytes bitmap maxBits bytes = some i → i < maxBits
  | [], _, h => by simp [scanBytes] at h
  | byteIdx :: rest, i, h => by
      unfold scanBytes at h
      split at h
      · exact scanBytes_lt h
      · split at h
        · next r hr =>
            subst h
            exact scanBits_lt hr
        · exact scanBytes_lt h

theorem findFirstClearBit_lt {bitmap : Nat → UInt8} {len maxBits i : Nat}
    (h : findFirstClearBit bitmap len maxBits = some i) : i < maxBits :=
  scanBytes_lt h

/-! ## What `alloc_block` returns -/

/-- The size of group `g` as `alloc_block` scans it: the last group holds
what is left of `blocks_count`. -/
def blocksInGroup (fs : Ext2Fs) (numGroups g : Nat) : Nat :=
  if g = numGroups - 1 then fs.blocksCount - g * fs.blocksPerGroup else fs.blocksPerGroup

/-- The group loop returns a bit below its group's size, offset by the
group's first block. The failed groups leave the state as it was, so every
group is scanned in the state the loop started from. -/
theorem allocBlockFrom_ok {numGroups : Nat} {fs fs' : Ext2Fs} {b : Nat} :
    ∀ {groups : List Nat}, (allocBlockFrom numGroups groups).run.run fs = (.ok b, fs') →
      ∃ g ∈ groups, ∃ bit < blocksInGroup fs numGroups g,
        b = fs.firstDataBlock + g * fs.blocksPerGroup + bit
  | [], h => by
      rw [allocBlockFrom, run_throw] at h
      cases h
  | g :: rest, h => by
      have next : (allocBlockFrom numGroups rest).run.run fs = (.ok b, fs') →
          ∃ g' ∈ g :: rest, ∃ bit < blocksInGroup fs numGroups g',
            b = fs.firstDataBlock + g' * fs.blocksPerGroup + bit := fun h' => by
        obtain ⟨g', hg', bit, hbit, hb⟩ := allocBlockFrom_ok h'
        exact ⟨g', List.mem_cons_of_mem g hg', bit, hbit, hb⟩
      simp only [allocBlockFrom, run_bind, run_get] at h
      split at h
      · exact next h
      · next bgd _ =>
          split at h
          · exact next h
          · simp only [run_bind, run_readBlock] at h
            by_cases hbm : bgd.blockBitmap < fs.blocksCount
            · simp only [if_pos hbm] at h
              split at h
              · exact next h
              · next bit hfound =>
                  -- the bit is claimed: the writes succeed and the sum is returned
                  simp only [run_bind, run_writeBlock, if_pos hbm, run_modify, run_pure] at h
                  refine ⟨g, List.mem_cons_self, bit, findFirstClearBit_lt hfound, ?_⟩
                  exact (Except.ok.inj (Prod.mk.inj h).1).symm
            · simp only [if_neg hbm] at h
              cases h

/-! ## The group table `mount` builds -/

theorem Superblock.blocksPerGroup_pos_of_validate {sb : Superblock} (h : sb.validate = .ok ()) :
    0 < sb.blocksPerGroup := by
  unfold Superblock.validate at h
  split_ifs at h <;> first | omega | cases h

/-- One descriptor per group of `blocks_per_group` blocks, `blocks_per_group`
non-zero: what `mount` guarantees of the geometry `alloc_block` reads. -/
structure GroupGeometry (fs : Ext2Fs) : Prop where
  blocksPerGroup_pos : 0 < fs.blocksPerGroup
  groups_length : fs.groups.length = (fs.blocksCount + fs.blocksPerGroup - 1) / fs.blocksPerGroup

theorem mount_groupGeometry {disk : Nat → UInt8} {fs : Ext2Fs} (h : mount disk = .ok fs) :
    GroupGeometry fs := by
  simp only [mount] at h
  split at h
  · cases h
  · cases hv : (Superblock.read disk).validate with
    | error e => simp [hv, bind, Except.bind] at h
    | ok u =>
        simp only [hv, bind, Except.bind] at h
        split at h
        · cases h
        · cases h
          exact ⟨Superblock.blocksPerGroup_pos_of_validate hv, by simp⟩

/-- On a mounted filesystem every block `alloc_block` returns is below
`first_data_block + blocks_count`: so its `u32` sum cannot overflow when
that bound is at most `2 ^ 32`. -/
theorem allocBlock_lt {fs fs' : Ext2Fs} {b : Nat} (hg : GroupGeometry fs)
    (h : allocBlock.run.run fs = (.ok b, fs')) : b < fs.firstDataBlock + fs.blocksCount := by
  simp only [allocBlock, run_bind, run_get] at h
  obtain ⟨g, hmem, bit, hbit, rfl⟩ := allocBlockFrom_ok h
  have hgn : g < fs.groups.length := List.mem_range.mp hmem
  have hdiv : fs.groups.length * fs.blocksPerGroup ≤ fs.blocksCount + fs.blocksPerGroup - 1 := by
    rw [hg.groups_length]
    exact Nat.div_mul_le_self _ _
  have hpos := hg.blocksPerGroup_pos
  unfold blocksInGroup at hbit
  split_ifs at hbit with hlast
  · -- the last group: the bit is below what is left of `blocks_count`
    omega
  · -- an earlier group ends a whole group before the table does
    have hle : (g + 1 + 1) * fs.blocksPerGroup ≤ fs.groups.length * fs.blocksPerGroup :=
      Nat.mul_le_mul_right _ (by omega)
    rw [Nat.add_mul, Nat.add_mul, Nat.one_mul] at hle
    omega

set_option maxRecDepth 20000 in
/-- `alloc_block` on `smallImage` takes block 31, below `1 + 32`. -/
theorem allocBlock_lt_smallFs :
    (allocBlock.run.run smallFs).1 = .ok 31 ∧ 31 < smallFs.firstDataBlock + smallFs.blocksCount := by
  have hok : (allocBlock.run.run smallFs).1 = .ok 31 := by decide
  rcases hrun : allocBlock.run.run smallFs with ⟨r, fs'⟩
  rw [hrun] at hok
  subst hok
  exact ⟨rfl, allocBlock_lt (mount_groupGeometry mount_smallImage) hrun⟩

/-! ## An image whose block numbers overflow -/

/-- `smallImage` with `first_data_block` set to `2 ^ 32 - 1`. -/
def farDataImage : Nat → UInt8 := writeFields smallImage superblockOffset [(20, 4, 2 ^ 32 - 1)]

/-- What `mount` makes of `farDataImage`. -/
def farDataFs : Ext2Fs := { smallFs with firstDataBlock := 2 ^ 32 - 1, disk := farDataImage }

theorem mount_farDataImage : mount farDataImage = .ok farDataFs := rfl

set_option maxRecDepth 20000 in
/-- `farDataImage` mounts, and `alloc_block` numbers its one free block
`2 ^ 32 + 29`: the `u32` sum `first_data_block + group * blocks_per_group +
bit` overflows. -/
theorem allocBlock_overflows :
    mount farDataImage = .ok farDataFs ∧ (allocBlock.run.run farDataFs).1 = .ok (2 ^ 32 + 29) := by
  refine ⟨mount_farDataImage, ?_⟩
  decide

end PandaOs.Ext2
