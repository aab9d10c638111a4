import PandaOs.Kernel.Scheduler

/-!
# Which address space a syscall writes

User memory is only meaningful in the page table of the process it
belongs to, so every write a syscall makes into user memory must happen
while that process's page table is in CR3. For the copy-outs of a result
the kernel arranges it: `poll_and_dispatch` runs on the caller's syscall
entry, and `dispatch_completed_syscall` switches page tables before it
copies. `runKernel_consistent` proves that over every run: every copy-out
lands in its owner's address space.

A future can also write user memory while it is being polled.
`handle_read_buffer` reads a file into a kernel bounce buffer and then
copies the bytes into the caller's `SharedBuffer` through
`with_mut_slice`, which dereferences the buffer's `user_vaddr`, an address
of the owner's address space. On the syscall entry path the owner's page
table is active. But when the read suspends on block I/O the future is
polled again by `poll_pending_syscall`, which sets `current_process` and
leaves CR3 alone: the page table is still that of whichever process ran
last. The run below shows it: the bytes read for process 1 land in process
2's memory at process 1's buffer address, and process 1's buffer never
sees them.
-/

namespace PandaOs.Scheduler

open PandaOs.Abi PandaOs.Lib PandaOs.Syscall

/-- The state the buffer-read futures see: the file's bytes, and whether
the block read the file system waits on has completed. -/
structure DiskWorld where
  file : List UInt8
  ioDone : Bool

/-- The futures `handle_read_buffer` returns. -/
inductive ReadBufferFuture where
  | ready (r : SyscallResult)
  | reading (userVaddr size fileOffset : Nat)

/-- `handle_read_buffer` once the handles are resolved: the buffer's owner,
mapped address and size, and the file handle's offset. -/
def handleReadBuffer (pid owner userVaddr size fileOffset : Nat) : ReadBufferFuture :=
  if owner ≠ pid then .ready (.err .PermissionDenied)
  else .reading userVaddr size fileOffset

/-- Polling a buffer read: until the block read completes it is pending;
then `n` bytes are copied to the buffer through its user address and the
read completes with `n`. -/
def readBufferPoll (f : ReadBufferFuture) (w : DiskWorld) : PollStep ReadBufferFuture DiskWorld :=
  match f with
  | .ready r => ⟨.ready r, f, w, []⟩
  | .reading userVaddr size fileOffset =>
      if w.ioDone then
        let data := (w.file.drop fileOffset).take size
        ⟨.ready (.ok data.length), f, w, [(userVaddr, data)]⟩
      else ⟨.pending, f, w, []⟩

/-- The buffer-read futures; the device interrupt completes the block read. -/
def readBufferFutures : Futures ReadBufferFuture DiskWorld Unit where
  poll _ f w := readBufferPoll f w
  irq _ w := { w with ioDone := true }

/-- Process 1 running; the file holds one byte whose block is not yet read. -/
def readKernel : Kernel ReadBufferFuture DiskWorld :=
  ⟨⟨[0xAB], false⟩, 1, 1, some 1, fun _ _ => 0, fun _ => none⟩

/-- Process 1 reads the file into its buffer at `BUFFER_BASE`; the read
suspends, process 2 runs, the disk completes, process 2 is preempted and
process 1 is picked again. -/
def suspendedRead : List (KernelEvent ReadBufferFuture Unit) :=
  [.syscall (handleReadBuffer 1 1 bufferBase 1 0), .schedule 2, .interrupt (), .preempt,
    .schedule 1]

/-- The byte read for process 1's buffer lands in process 2's address space
at the buffer's address, while process 1's buffer stays as it was. -/
theorem suspended_read_writes_other_space :
    (runKernel readBufferFutures readKernel suspendedRead).1.mem 2 bufferBase = 0xAB ∧
      (runKernel readBufferFutures readKernel suspendedRead).1.mem 1 bufferBase = 0 ∧
      KernelLog.access 1 2 .raw ∈ (runKernel readBufferFutures readKernel suspendedRead).2 := by
  refine ⟨?_, ?_, ?_⟩
  all_goals
    simp [runKernel, runLog, kernelStep, pollAndDispatch, execNextRunnable, pollPendingSyscall,
      dispatchCompletedSyscall, dispatchNormalProcess, Kernel.writeRaw, rawLog, readBufferFutures,
      readBufferPoll, readKernel, suspendedRead, handleReadBuffer]
  all_goals decide

end PandaOs.Scheduler
