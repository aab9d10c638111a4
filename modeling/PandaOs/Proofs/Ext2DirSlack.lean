import PandaOs.Proofs.Ext2DirBlocks

/-!
# The slack of a record in `add_dir_entry`

`add_dir_entry` splits the slack off a live record:
`rec_len - entry_size(name_len)`. On a well-formed block every live record's
name fits its `rec_len`, which is a multiple of four, so the difference is
never negative and the new record lies inside the old one
(`findSlot_split_fits`).

The walk does not ask for that, though. It checks only that `rec_len` is at
least 8 and stays inside the block, which is all `for_each_dir_entry` checks
before it skips a record whose name does not fit. A live record of 8 bytes
with a one-byte name passes, and its slack `8 - 12` is negative: a debug
build panics, and a release build takes the wrapped value as room. It then
writes the new record 12 bytes after the short record, which at the end of
a block is outside the buffer (`add_entry_slack_underflows`).
-/

namespace PandaOs.Ext2

open PandaOs.Lib

/-! ## Well-formed blocks -/

theorem entrySize_le {nameLen recLen : Nat} (hfit : 8 + nameLen ≤ recLen) (h4 : recLen % 4 = 0) :
    entrySize nameLen ≤ recLen := by
  unfold entrySize align4
  omega

theorem DirEntryRaw.recLen_read_lt (buf : Nat → UInt8) (pos : Nat) :
    (DirEntryRaw.read buf pos).recLen < 2 ^ 16 := by
  have h := leValue_lt (readBytes buf (pos + 4) 2)
  rw [readBytes_length] at h
  exact h

/-- On a block whose records chain to its end, the record `add_dir_entry`
splits holds its own entry and the new one: the slack does not wrap, and
both records stay inside the block. The walk and the well-formedness check
take the same steps, so the induction is on the fuel they share. -/
theorem findSlot_split_fits {buf : Nat → UInt8} {blockLen needed : Nat} {name : List UInt8} :
    ∀ {fuel pos p actual oldRecLen : Nat}, recordsWf buf blockLen fuel pos = true →
      findSlot buf blockLen name needed fuel pos = some (.split p actual oldRecLen) →
      actual + needed ≤ oldRecLen ∧ p + oldRecLen ≤ blockLen
  | 0, _, _, _, _, _, h => by simp [findSlot] at h
  | fuel + 1, pos, p, actual, oldRecLen, hw, h => by
      unfold findSlot at h
      unfold recordsWf at hw
      dsimp only at h hw
      by_cases hpos : pos < blockLen
      swap
      · simp [hpos] at h
      -- the check holds for the record at `pos` and for the rest of the chain
      have hne : pos ≠ blockLen := by omega
      simp only [if_neg hne, Bool.and_eq_true, decide_eq_true_eq, beq_iff_eq, Bool.or_eq_true] at hw
      obtain ⟨⟨⟨⟨⟨hhead, hmin⟩, h4⟩, hfit⟩, hend⟩, hrest⟩ := hw
      -- so the walk's own bounds checks pass
      have hover : ¬ pos + 8 > blockLen := by omega
      have hbad : ¬ ((DirEntryRaw.read buf pos).recLen < 8 ∨
          pos + (DirEntryRaw.read buf pos).recLen > blockLen) := by omega
      simp only [if_pos hpos, if_neg hover, if_neg hbad] at h
      split_ifs at h with hlive hdup hroom hroom'
      · cases h
      · -- the split: the live record's name fits, so its entry size does too
        simp only [Option.some.injEq, Slot.split.injEq] at h
        obtain ⟨rfl, rfl, rfl⟩ := h
        have hsize := entrySize_le (hfit.resolve_left hlive) h4
        have hlt := DirEntryRaw.recLen_read_lt buf pos
        rw [Nat.sub_add_comm hsize, Nat.add_mod_right, Nat.mod_eq_of_lt (by omega)] at hroom
        omega
      · exact findSlot_split_fits hrest h
      · cases h
      · exact findSlot_split_fits hrest h

/-- A fresh directory block of `mkdir`: `x` goes after `..`, inside its record. -/
theorem findSlot_split_fits_initDirBlock :
    recordsWf (initDirBlock 1024 2 2) 1024 1024 0 = true ∧
      findSlot (initDirBlock 1024 2 2) 1024 [0x78] (entrySize 1) 1024 0 = some (.split 12 12 1012) ∧
      12 + entrySize 1 ≤ 1012 ∧ 12 + 1012 ≤ 1024 := by
  have hw : recordsWf (initDirBlock 1024 2 2) 1024 1024 0 = true := by decide
  have hs : findSlot (initDirBlock 1024 2 2) 1024 [0x78] (entrySize 1) 1024 0 =
      some (.split 12 12 1012) := by decide
  exact ⟨hw, hs, findSlot_split_fits hw hs⟩

/-! ## A record shorter than its name -/

/-- A 1 KiB directory block: `.` and `..`, four records with 240-byte names
and no slack, and at 1016 a live record of 8 bytes whose name is one byte
long. -/
def shortRecordBlock : Nat → UInt8 :=
  let b := writeDirEntry zeroes 0 2 12 [dot] ftDir
  let b := writeDirEntry b 12 2 12 [dot, dot] ftDir
  let b := (List.range 4).foldl
    (fun b k => writeDirEntry b (24 + 248 * k) (12 + k) 248 (List.replicate 240 (0x61 + k.toUInt8)) ftRegFile) b
  writeBytes b 1016 [9, 0, 0, 0, 8, 0, 1, ftRegFile.toUInt8]

set_option maxRecDepth 20000 in
/-- `add_dir_entry` of `x` into `shortRecordBlock`: the block is one the
reader walks to its end, skipping the short record, yet the walk splits the
short record. Its `rec_len` of 8 is below its own entry size of 12, and the
new record would start at 1028, past the 1024-byte buffer. -/
theorem add_entry_slack_underflows :
    findSlot shortRecordBlock 1024 [0x78] (entrySize 1) 1024 0 = some (.split 1016 12 8) ∧
      (DirEntryRaw.read shortRecordBlock 1016).inode ≠ 0 ∧
      (DirEntryRaw.read shortRecordBlock 1016).recLen = 8 ∧
      8 + (DirEntryRaw.read shortRecordBlock 1016).nameLen > (DirEntryRaw.read shortRecordBlock 1016).recLen ∧
      (DirEntryRaw.read shortRecordBlock 1016).recLen < entrySize (DirEntryRaw.read shortRecordBlock 1016).nameLen ∧
      1024 < 1016 + 12 := by
  decide

end PandaOs.Ext2
