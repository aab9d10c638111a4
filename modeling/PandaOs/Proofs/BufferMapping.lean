import PandaOs.Syscall.Buffer

/-!
# Which address space a buffer's pages are unmapped from

A buffer's own mapping, `_mapping`, lies in the address space of the
process that allocated it, and nowhere else. It is unmapped when the
buffer is dropped, which happens when the last `Arc` goes, and that can be
in any process that held one: `memStep_tables_of_ne` shows that every
event unmaps only in the address space it runs in. So when a process that
received the buffer's handle drops the last `Arc`, the unmap clears its own
pages at the owner's address, and the owner's pages stay, pointing at
frames that were just freed.

The owner's range goes back to its free list even earlier: `handle_free`
returns it whenever the owner closes its handle, also while another
process still holds the buffer and the owner's pages are still mapped
(`handleFree_shared_keeps_pages`).

The run below has both. Process 1 allocates a buffer and sends its handle
to process 2, which allocates a buffer of its own at the same address of
its own address space. Process 1 closes its handle: the range is free
again while its page is mapped. Process 2 then closes the handle it
received; the buffer is dropped in process 2, which unmaps process 2's own
live buffer and leaves process 1 mapping the freed frame.
-/

namespace PandaOs.Syscall

open PandaOs.Abi PandaOs.Memory PandaOs.Process PandaOs.Kernel PandaOs.Resource

/-- The owner closing its handle while another holder remains changes no
page table, and makes a range covering the buffer's start free again. -/
theorem handleFree_shared_keeps_pages {s : MemSystem} {pid handle : Nat} {p : ProcMem}
    {h : Handle Nat} {buf : SharedBuffer} (hp : s.procs pid = some p)
    (hh : p.handles.get handle = some h) (hb : s.buffers h.resource = some buf)
    (hown : buf.owner = pid) (hshared : 2 ≤ buf.refs) (hsize : 0 < buf.logicalSize) :
    (handleFree s pid handle).1.mem = s.mem ∧
      ∃ p', (handleFree s pid handle).1.procs pid = some p' ∧
        ∃ r ∈ p'.freeRanges, r.1 ≤ buf.userVaddr ∧ buf.userVaddr < r.1 + r.2 * pageSize := by
  have hpages : 0 < (buf.logicalSize + pageSize - 1) / pageSize := by
    simp only [pageSize] at *
    omega
  obtain ⟨r, hr, hle, hlt⟩ := freeBufferVaddr_covers p.freeRanges buf.userVaddr hpages
  have hrel := MemSystem.release_of_shared
    (s := s.setProc pid { p with handles := (p.handles.remove handle).2 }) (by simpa using hb) hshared
  simp only [handleFree, hp, hh, hb, hown, if_true]
  rw [hrel]
  refine ⟨rfl, ⟨p.mappings, (p.handles.remove handle).2, p.stack, p.heap,
    freeBufferVaddr p.freeRanges buf.userVaddr ((buf.logicalSize + pageSize - 1) / pageSize)⟩,
    by simp, r, hr, hle, hlt⟩

/-- Two processes without ELF segments in a fresh kernel. -/
def twoProcesses (L : Layout) : MemSystem :=
  ⟨⟨fun _ _ => none, 1, fun _ => none, 0, []⟩,
    Function.update (Function.update (fun _ => none) 1 (some (ProcMem.new L []))) 2
      (some (ProcMem.new L [])),
    fun _ => none, 0⟩

/-- Process 1 allocates a buffer and sends it to process 2, which allocates
one of its own; process 1 closes its handle, then process 2 closes the one
it received. -/
def shareThenFree : List MemEvent :=
  [.bufferAlloc 1 pageSize, .sendBuffer 1 (HandleType.Buffer.makeHandle firstUserId) 2,
    .bufferAlloc 2 pageSize, .bufferFree 1 (HandleType.Buffer.makeHandle firstUserId),
    .bufferFree 2 (HandleType.Buffer.makeHandle firstUserId)]

/-- After the run process 2's own buffer is alive but no longer mapped,
process 1 still maps the first buffer's freed frame, and process 1's free
list offers that page again. -/
theorem shared_buffer_unmapped_in_receiver :
    (runMem abiLayout (twoProcesses abiLayout) shareThenFree).2 =
        [HandleType.Buffer.makeHandle firstUserId, HandleType.Buffer.makeHandle firstUserId,
          HandleType.Buffer.makeHandle (firstUserId + 1), 0, 0] ∧
      (runMem abiLayout (twoProcesses abiLayout) shareThenFree).1.buffers 1 =
        some ⟨[1], pageSize, bufferBase, ⟨bufferBase, pageSize, .mmio⟩, 2, 1⟩ ∧
      (runMem abiLayout (twoProcesses abiLayout) shareThenFree).1.mem.tables 2
        (bufferBase / pageSize) = none ∧
      (runMem abiLayout (twoProcesses abiLayout) shareThenFree).1.mem.tables 1
        (bufferBase / pageSize) = some 0 ∧
      (runMem abiLayout (twoProcesses abiLayout) shareThenFree).1.mem.owner 0 = none ∧
      ((runMem abiLayout (twoProcesses abiLayout) shareThenFree).1.procs 1).map (·.freeRanges) =
        some [(bufferBase, bufferMaxSize / pageSize)] := by
  refine ⟨?_, ?_, ?_, ?_, ?_, ?_⟩ <;> decide

end PandaOs.Syscall
