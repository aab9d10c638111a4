import PandaOs.Memory.Paging

/-!
# Mappings and what dropping one does

A `Mapping` is a range of the address space that was active when it was
made, with what backs it. Dropping the last clone runs `MappingInner::drop`
in whatever address space is active at that moment: a `Frames`, `Mmio` or
`ExternalFrames` mapping unmaps its range, and a `DemandPaged` one frees
every frame it finds in its range with `free_region`. After that the
backing itself is dropped: a `Frames` mapping's frames go back to the
allocator, and an `ExternalFrames` mapping releases its reference to the
buffer it keeps alive (done by the caller, which owns the buffers).

`resize` is the heap's: shrinking a demand-paged mapping frees the pages
between the new and the old size.
-/

namespace PandaOs.Memory

/-- `MappingBacking`. The only `Frames` mappings of a user address space
are its ELF segments, so their frames are the ELF's. -/
inductive MappingBacking where
  | frames (fs : List Nat)
  | mmio
  | demandPaged
  | externalFrames (buffer : Nat)
  deriving DecidableEq, Repr

/-- `Mapping`, with its current size. -/
structure Mapping where
  base : Nat
  size : Nat
  backing : MappingBacking
  deriving DecidableEq, Repr

namespace Mapping

/-- Dropping the last clone: `MappingInner::drop`, then the backing's frames. -/
def drop (mp : Mapping) (m : MemState) : MemState :=
  match mp.backing with
  | .frames fs => (m.unmapRegion mp.base mp.size).deallocateFrames fs .elf
  | .mmio | .externalFrames _ => m.unmapRegion mp.base mp.size
  | .demandPaged => m.freeRegion mp.base mp.size

/-- `Mapping::resize`: only a demand-paged mapping changes size. -/
def resize (mp : Mapping) (newSize : Nat) (m : MemState) : Mapping × MemState :=
  match mp.backing with
  | .demandPaged =>
      let freed := if newSize < mp.size then m.freeRegion (mp.base + newSize) (mp.size - newSize)
        else m
      ({ mp with size := newSize }, freed)
  | _ => (mp, m)

@[simp] theorem drop_active (mp : Mapping) (m : MemState) : (mp.drop m).active = m.active := by
  unfold drop
  split <;> simp [MemState.unmapRegion, MemState.freeRegion]

@[simp] theorem drop_nextFrame (mp : Mapping) (m : MemState) :
    (mp.drop m).nextFrame = m.nextFrame := by
  unfold drop
  split <;> simp [MemState.unmapRegion, MemState.freeRegion]

/-- Dropping a mapping clears its pages in the active table, and no other
entry of any table. -/
theorem drop_tables (mp : Mapping) (m : MemState) (p w : Nat) :
    (mp.drop m).tables p w =
      if p = m.active ∧ ∃ a ∈ MemState.pageAddrs mp.base mp.size, w = a / pageSize then none
      else m.tables p w := by
  unfold drop
  split <;> simp only [MemState.deallocateFrames_tables, MemState.unmapRegion,
    MemState.freeRegion, MemState.unmapPages_tables]

/-- What `resize` does, for each backing. -/
theorem resize_cases (mp : Mapping) (n : Nat) (m : MemState) :
    (mp.backing = .demandPaged ∧ (mp.resize n m).1 = { mp with size := n } ∧
        (mp.resize n m).2 = if n < mp.size then m.freeRegion (mp.base + n) (mp.size - n) else m) ∨
      (mp.backing ≠ .demandPaged ∧ mp.resize n m = (mp, m)) := by
  unfold resize
  split
  · next h => exact .inl ⟨h, rfl, rfl⟩
  · next h => exact .inr ⟨fun h' => h h', rfl⟩

@[simp] theorem resize_active (mp : Mapping) (n : Nat) (m : MemState) :
    (mp.resize n m).2.active = m.active := by
  rcases resize_cases mp n m with ⟨-, -, h⟩ | ⟨-, h⟩
  · rw [h]
    split <;> simp [MemState.freeRegion]
  · rw [h]

@[simp] theorem resize_nextFrame (mp : Mapping) (n : Nat) (m : MemState) :
    (mp.resize n m).2.nextFrame = m.nextFrame := by
  rcases resize_cases mp n m with ⟨-, -, h⟩ | ⟨-, h⟩
  · rw [h]
    split <;> simp [MemState.freeRegion]
  · rw [h]

/-- Dropping a mapping leaves every other address space's table alone. -/
theorem drop_tables_of_ne (mp : Mapping) {m : MemState} {q : Nat} (hq : q ≠ m.active) :
    (mp.drop m).tables q = m.tables q := by
  funext w
  simp [drop_tables, hq]

theorem resize_tables_of_ne (mp : Mapping) (n : Nat) {m : MemState} {q : Nat} (hq : q ≠ m.active) :
    (mp.resize n m).2.tables q = m.tables q := by
  rcases resize_cases mp n m with ⟨-, -, h⟩ | ⟨-, h⟩
  · rw [h]
    split
    · exact MemState.unmapPages_tables_of_ne hq _ _
    · rfl
  · rw [h]

end Mapping

end PandaOs.Memory
