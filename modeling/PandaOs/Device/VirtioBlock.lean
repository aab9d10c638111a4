import PandaOs.Lib.Bytes

/-!
# Byte access to a virtio block device

The device moves whole sectors: each `VirtioBlockFuture` submits one read
or write of a run of sectors and completes it as a unit. `read_at` and
`write_at` give byte access on top. Both clip the request to the device's
end and split the byte range into sectors; an aligned range goes to the
device as it is. An unaligned read reads the covering sectors and copies
the range out. An unaligned write is a read-modify-write: it reads the
covering sectors, copies its bytes in, and writes the sectors back, with
an await between the read and the write.

`WriteAt` is `write_at` as a coroutine, one step per request. Run alone it
writes exactly its bytes (`writeAt_finish`). Interleaved with another
unaligned write to the same sector it can write back the other's bytes
stale: both read the sector, the first writes it back with its bytes, and
the second writes it back with its own bytes and the first one's old ones
(`interleaved_inode_writes_lose_update`). Two `write_inode` calls for
inodes that share an inode-table sector do exactly that.

The device never fails here; `BlockError` is the error the byte layer
itself raises.
-/

namespace PandaOs.Device

open PandaOs.Lib

/-- `BlockError`. -/
inductive BlockError where
  | InvalidOffset
  | NotWritable
  | NotReadable
  | IoError
  deriving DecidableEq, Repr

/-- A `VirtioBlockDevice`: its geometry and its bytes. -/
structure VirtioBlockDevice where
  sectorSize : Nat
  capacitySectors : Nat
  data : Nat → UInt8

namespace VirtioBlockDevice

/-- `capacity_sectors * sector_size`. -/
def totalSize (d : VirtioBlockDevice) : Nat := d.capacitySectors * d.sectorSize

/-- A read request: `len` bytes from sector `startSector` on. -/
def readSectors (d : VirtioBlockDevice) (startSector len : Nat) : List UInt8 :=
  readBytes d.data (startSector * d.sectorSize) len

/-- A write request of `buf` from sector `startSector` on. -/
def writeSectors (d : VirtioBlockDevice) (startSector : Nat) (buf : List UInt8) :
    VirtioBlockDevice :=
  { d with data := writeBytes d.data (startSector * d.sectorSize) buf }

end VirtioBlockDevice

/-- What `read_at` and `write_at` compute before their first request: the
clipped length, the first sector, the offset in it, and the sector count. -/
structure SectorSpan where
  toMove : Nat
  startSector : Nat
  offsetInSector : Nat
  numSectors : Nat
  deriving DecidableEq, Repr

/-- The span of `len` bytes at `offset`, clipped to `totalSize`. -/
def sectorSpan (sectorSize totalSize offset len : Nat) : SectorSpan :=
  let toMove := min len (totalSize - offset)
  let startSector := offset / sectorSize
  let endSector := (offset + toMove + sectorSize - 1) / sectorSize
  ⟨toMove, startSector, offset % sectorSize, endSector - startSector⟩

/-- The fast-path test: the span starts and ends on sector boundaries. -/
def SectorSpan.aligned (sp : SectorSpan) (sectorSize : Nat) : Bool :=
  sp.offsetInSector == 0 && sp.toMove % sectorSize == 0

/-- The covering sectors cover the span. -/
theorem sectorSpan_covers {sectorSize : Nat} (hss : 0 < sectorSize) (totalSize offset len : Nat) :
    (sectorSpan sectorSize totalSize offset len).offsetInSector +
        (sectorSpan sectorSize totalSize offset len).toMove ≤
      (sectorSpan sectorSize totalSize offset len).numSectors * sectorSize := by
  simp only [sectorSpan]
  have hdiv := Nat.div_add_mod offset sectorSize
  -- the end sector, rounded up, lies past the span's end
  have hend := Nat.div_add_mod (offset + min len (totalSize - offset) + sectorSize - 1) sectorSize
  have hmod := Nat.mod_lt (offset + min len (totalSize - offset) + sectorSize - 1) hss
  have hle : offset / sectorSize ≤ (offset + min len (totalSize - offset) + sectorSize - 1) / sectorSize :=
    Nat.div_le_div_right (by omega)
  rw [Nat.sub_mul, Nat.mul_comm ((offset + _ + _ - 1) / sectorSize), Nat.mul_comm (offset / sectorSize)]
  omega

/-- `read_at`: the bytes read, one request. -/
def readAt (d : VirtioBlockDevice) (offset len : Nat) : Except BlockError (List UInt8) :=
  if len = 0 then .ok []
  else if offset ≥ d.totalSize then .ok []
  else
    let sp := sectorSpan d.sectorSize d.totalSize offset len
    if sp.aligned d.sectorSize then .ok (d.readSectors sp.startSector sp.toMove)
    else
      let sectorBuf := d.readSectors sp.startSector (sp.numSectors * d.sectorSize)
      .ok ((sectorBuf.drop sp.offsetInSector).take sp.toMove)

/-- `write_at`, stopped at an await: before its first request, after the
read of a read-modify-write with the bytes copied in, or finished. -/
inductive WriteAt where
  | start (offset : Nat) (buf : List UInt8)
  | modified (startSector : Nat) (sectorBuf : List UInt8) (toWrite : Nat)
  | finished (result : Except BlockError Nat)
  deriving DecidableEq, Repr

/-- `sector_buf[offset_in_sector..][..to_write].copy_from_slice(&buf[..to_write])`. -/
def copyIn (sectorBuf : List UInt8) (offsetInSector : Nat) (bytes : List UInt8) : List UInt8 :=
  sectorBuf.take offsetInSector ++ bytes ++ sectorBuf.drop (offsetInSector + bytes.length)

namespace WriteAt

/-- Run `write_at` to its next await: the request it completes, and where
it stops. -/
def step (d : VirtioBlockDevice) : WriteAt → VirtioBlockDevice × WriteAt
  | .start offset buf =>
      if buf.isEmpty then (d, .finished (.ok 0))
      else if offset ≥ d.totalSize then (d, .finished (.error .InvalidOffset))
      else
        let sp := sectorSpan d.sectorSize d.totalSize offset buf.length
        if sp.aligned d.sectorSize then
          (d.writeSectors sp.startSector (buf.take sp.toMove), .finished (.ok sp.toMove))
        else
          -- read-modify-write: the write goes out after an await
          let sectorBuf := d.readSectors sp.startSector (sp.numSectors * d.sectorSize)
          (d, .modified sp.startSector (copyIn sectorBuf sp.offsetInSector (buf.take sp.toMove))
            sp.toMove)
  | .modified startSector sectorBuf toWrite =>
      (d.writeSectors startSector sectorBuf, .finished (.ok toWrite))
  | .finished r => (d, .finished r)

/-- Two steps: `write_at` run with nothing interleaved. -/
def finish (d : VirtioBlockDevice) (w : WriteAt) : VirtioBlockDevice × WriteAt :=
  (w.step d).2.step (w.step d).1

end WriteAt

/-- The first step of a non-empty in-range `write_at` over its span `sp`: a
write request on the fast path, a read and the copy on the slow one. -/
theorem WriteAt.step_start {d : VirtioBlockDevice} {offset : Nat} {buf : List UInt8}
    (hne : buf.isEmpty = false) (hoff : offset < d.totalSize) {sp : SectorSpan}
    (hsp : sectorSpan d.sectorSize d.totalSize offset buf.length = sp) :
    WriteAt.step d (.start offset buf) =
      if sp.aligned d.sectorSize then
        (d.writeSectors sp.startSector (buf.take sp.toMove), .finished (.ok sp.toMove))
      else
        (d, .modified sp.startSector
          (copyIn (d.readSectors sp.startSector (sp.numSectors * d.sectorSize)) sp.offsetInSector
            (buf.take sp.toMove)) sp.toMove) := by
  subst hsp
  simp only [WriteAt.step, hne, if_neg (Nat.not_le.mpr hoff)]
  rfl

/-- `write_at` run alone writes the first `to_write` bytes of `buf` at
`offset`, `to_write` being its length clipped at the device's end, and
leaves every other byte alone. -/
theorem writeAt_finish (d : VirtioBlockDevice) (offset : Nat) (buf : List UInt8)
    (hss : 0 < d.sectorSize) (hoff : offset < d.totalSize) :
    (WriteAt.finish d (.start offset buf)).1.data =
        writeBytes d.data offset (buf.take (min buf.length (d.totalSize - offset))) ∧
      (WriteAt.finish d (.start offset buf)).2 =
        .finished (.ok (min buf.length (d.totalSize - offset))) := by
  cases hempty : buf.isEmpty with
  | true =>
      have hnil : buf = [] := List.isEmpty_iff.mp hempty
      subst hnil
      simp [WriteAt.finish, WriteAt.step]
  | false =>
      obtain ⟨sp, hsp⟩ : ∃ sp, sectorSpan d.sectorSize d.totalSize offset buf.length = sp :=
        ⟨_, rfl⟩
      -- what the proof reads off the span
      have hspan := sectorSpan_covers hss d.totalSize offset buf.length
      have htoMove : sp.toMove = min buf.length (d.totalSize - offset) := by rw [← hsp]; rfl
      have hstart : sp.startSector * d.sectorSize + sp.offsetInSector = offset := by
        rw [← hsp, Nat.mul_comm]
        exact Nat.div_add_mod offset d.sectorSize
      have hlen : (buf.take sp.toMove).length = sp.toMove := by
        rw [List.length_take, htoMove]
        omega
      rw [hsp] at hspan
      rw [WriteAt.finish, WriteAt.step_start hempty hoff hsp]
      split
      · -- aligned: the request starts at `offset` itself
        next haligned =>
          simp only [SectorSpan.aligned, Bool.and_eq_true, beq_iff_eq] at haligned
          refine ⟨?_, by rw [← htoMove]; rfl⟩
          simp only [WriteAt.step, VirtioBlockDevice.writeSectors]
          rw [← htoMove]
          congr 1
          omega
      · -- unaligned: the window written back carries the bytes copied in
        refine ⟨?_, by rw [← htoMove]; rfl⟩
        simp only [WriteAt.step, VirtioBlockDevice.writeSectors, VirtioBlockDevice.readSectors,
          copyIn]
        rw [writeBytes_splice _ _ _ _ _ (by rw [hlen]; exact hspan), hstart, htoMove]

/-- The witness: a two-byte write across a sector boundary of a small
device. -/
theorem writeAt_finish_unaligned :
    (WriteAt.finish ⟨4, 2, fun _ => 0⟩ (.start 3 [1, 2])).2 = .finished (.ok 2) :=
  (writeAt_finish ⟨4, 2, fun _ => 0⟩ 3 [1, 2] (by decide) (by decide)).2

/-! ## Concurrent writes -/

/-- The device and the `write_at` calls in flight. -/
structure Writers where
  device : VirtioBlockDevice
  calls : List WriteAt

/-- The executor runs call `i` to its next await. -/
def Writers.step (w : Writers) (i : Nat) : Writers :=
  match w.calls[i]? with
  | some c => ⟨(c.step w.device).1, w.calls.set i (c.step w.device).2⟩
  | none => w

/-- A run of the calls' steps in the order `order`. -/
def Writers.run (w : Writers) (order : List Nat) : Writers := order.foldl Writers.step w

/-- Two processes write inodes 1 and 2 of an inode table at block 5 of a
1 KiB-block filesystem: 128 bytes each at 5120 and 5248, both in sector 10
of a 16-sector device. -/
def inodeWrites : Writers :=
  ⟨⟨512, 16, fun _ => 0⟩,
    [.start 5120 (List.replicate 128 0xAA), .start 5248 (List.replicate 128 0xBB)]⟩

set_option maxRecDepth 8000 in
/-- Both calls read sector 10 before either writes it back: the second
write-back restores the old bytes of the first inode, though the two byte
ranges are disjoint. Run one after the other, both updates land. -/
theorem interleaved_inode_writes_lose_update :
    ((inodeWrites.run [0, 1, 0, 1]).device.data 5120,
        (inodeWrites.run [0, 1, 0, 1]).device.data 5248) = (0, 0xBB) ∧
      writeBytes (writeBytes inodeWrites.device.data 5120 (List.replicate 128 0xAA)) 5248
        (List.replicate 128 0xBB) 5120 = 0xAA ∧
      (inodeWrites.run [0, 0, 1, 1]).device.data 5120 = 0xAA := by
  decide

end PandaOs.Device
