import PandaOs.Syscall.Buffer

/-!
# The heap range covers the buffer region

Demand-paged memory is freed by walking page tables: `free_region` frees
whatever frame it finds at each page of its range. That is sound only if
no other object's frames are ever mapped in a range it walks. For the heap
the range is `[HEAP_BASE + new, HEAP_BASE + old)` on a shrink, and `set_brk`
accepts any break up to `HEAP_BASE + HEAP_MAX_SIZE = 0x101_0000_0000`, past
`BUFFER_BASE = 0x100_0000_0000`: the whole buffer region lies inside the
heap range (`abiLayout_buffer_in_heap`).

So a process can free its own buffer's frames with `brk`. It allocates a
one-page buffer, which the kernel maps at `BUFFER_BASE`; moves the break one
page past it, which only records the new size; and moves the break back to
`BUFFER_BASE`. The shrink frees the page at `BUFFER_BASE`, the buffer's
frame, while the buffer still owns it; freeing the buffer then frees the
same frame again.
-/

namespace PandaOs.Syscall

open PandaOs.Abi PandaOs.Memory PandaOs.Process PandaOs.Kernel PandaOs.Resource

/-- Every address of the ABI's buffer region is in its heap range. -/
theorem abiLayout_buffer_in_heap {a : Nat} (h : abiLayout.inBuffer a) : abiLayout.inHeap a := by
  simp only [Layout.inBuffer, Layout.inHeap, abiLayout, bufferBase, bufferMaxSize, heapBase,
    heapMaxSize] at h ⊢
  omega

/-- `set_brk` accepts every address of the buffer region as a break, and
the heap then reaches it. -/
theorem setBrk_buffer_region (p : ProcMem) (m : MemState) {a : Nat} (ha : abiLayout.inBuffer a)
    (hheap : p.heap.backing = .demandPaged) :
    (p.setBrk abiLayout m a).1.brk abiLayout = a := by
  have hin := abiLayout_buffer_in_heap ha
  simp only [Layout.inHeap] at hin
  unfold ProcMem.setBrk
  rw [if_neg (by omega)]
  rcases Mapping.resize_cases p.heap (a - abiLayout.heapBase) m with ⟨-, hr, -⟩ | ⟨hb, -⟩
  · simp only [ProcMem.brk, hr]
    omega
  · exact absurd hheap hb

/-- One process without ELF segments in a fresh kernel. -/
def oneProcess (L : Layout) : MemSystem :=
  ⟨⟨fun _ _ => none, 1, fun _ => none, 0, []⟩, Function.update (fun _ => none) 1 (some (ProcMem.new L [])),
    fun _ => none, 0⟩

/-- Allocate a one-page buffer, move the break one page past
`BUFFER_BASE` and back, and free the buffer. -/
def heapOverBuffer : List MemEvent :=
  [.bufferAlloc 1 pageSize, .brk 1 (bufferBase + pageSize), .brk 1 bufferBase,
    .bufferFree 1 (HandleType.Buffer.makeHandle firstUserId)]

/-- Both breaks are accepted, the shrink frees the buffer's frame while the
buffer holds it, and freeing the buffer frees it a second time. -/
theorem heap_shrink_frees_buffer_frame :
    (runMem abiLayout (oneProcess abiLayout) heapOverBuffer).2 =
        [HandleType.Buffer.makeHandle firstUserId, bufferBase + pageSize, bufferBase, 0] ∧
      (runMem abiLayout (oneProcess abiLayout) heapOverBuffer).1.mem.freed =
        [⟨0, .demand, some (.buffer 0)⟩, ⟨0, .buffer 0, none⟩] := by
  constructor <;> decide

end PandaOs.Syscall
