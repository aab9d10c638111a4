import PandaOs.Resource.Buffer
import PandaOs.Lib.Run

/-!
# The buffer and memory syscalls, and runs of them

Each syscall runs in the calling process with its page table active. The
buffer handlers are `handle_alloc`, `handle_free`, `handle_map` and
`handle_resize` (without the optional `BufferAllocInfo` copy-out), `brk` is
`handle_brk`, a user page fault that is not a protection violation goes to
the stack and then the heap handler and otherwise kills the process, and a
process that exits is dropped in its own address space.

Sending a buffer handle over a channel clones its `Arc`: the sender keeps
its handle, and the receiver installs the attachment in its own table, in
its own address space, or drops it there when the table is full. The
channel between the two is the subject of `Resource.Channel`; here the send
and the receive are one event.

`memStep` is one such event and `runMem` a run of them; each event logs the
value the syscall returns.
-/

namespace PandaOs.Syscall

open PandaOs.Abi PandaOs.Memory PandaOs.Process PandaOs.Kernel PandaOs.Resource

/-- `handle_alloc(size, 0)` in process `pid`. -/
def handleAlloc (s : MemSystem) (pid size : Nat) : MemSystem × Int :=
  match s.procs pid with
  | none => (s, ErrorCode.IoError.toIsize)
  | some p =>
      match s.allocBuffer pid p size with
      | .error s' => (s', ErrorCode.IoError.toIsize)
      | .ok (b, vaddr, numPages, p', s') =>
          match p'.handles.insertTyped .Buffer b with
          | (.ok id, t) => (s'.setProc pid { p' with handles := t }, id)
          | (.error _, _) =>
              -- the table drops the only `Arc`, then the range goes back
              let p'' := { p' with freeRanges := freeBufferVaddr p'.freeRanges vaddr numPages }
              ((s'.release b).setProc pid p'', ErrorCode.IoError.toIsize)

/-- `handle_free(handle)`: remove the handle, dropping its `Arc`, and give
the buffer's range back when the caller owns the buffer. -/
def handleFree (s : MemSystem) (pid handle : Nat) : MemSystem × Int :=
  match s.procs pid with
  | none => (s, ErrorCode.InvalidHandle.toIsize)
  | some p =>
      match p.handles.get handle with
      | none => (s, ErrorCode.InvalidHandle.toIsize)
      | some h =>
          match s.buffers h.resource with
          | none => (s, ErrorCode.InvalidHandle.toIsize)
          | some buf =>
              let p' := { p with handles := (p.handles.remove handle).2 }
              let s' := (s.setProc pid p').release h.resource
              if buf.owner = pid then
                let ranges := freeBufferVaddr p'.freeRanges buf.userVaddr
                  ((buf.logicalSize + pageSize - 1) / pageSize)
                (s'.setProc pid { p' with freeRanges := ranges }, 0)
              else (s', 0)

/-- `handle_map(handle)`. -/
def handleMap (s : MemSystem) (pid handle : Nat) : MemSystem × Int :=
  match s.procs pid with
  | none => (s, ErrorCode.InvalidHandle.toIsize)
  | some p =>
      match p.handles.get handle with
      | none => (s, ErrorCode.InvalidHandle.toIsize)
      | some h =>
          match s.buffers h.resource with
          | none => (s, ErrorCode.InvalidHandle.toIsize)
          | some buf =>
              match s.mapIntoProcess p h.resource buf with
              | none => (s, ErrorCode.IoError.toIsize)
              | some (vaddr, p', s') => (s'.setProc pid p', vaddr)

/-- `handle_resize(handle, new_size, 0)`: owner only; a resize within the
same number of pages changes the logical size, any other allocates a new
buffer, puts it behind the handle (dropping the old `Arc`) and gives the
old range back. -/
def handleResize (s : MemSystem) (pid handle newSize : Nat) : MemSystem × Int :=
  match s.procs pid with
  | none => (s, ErrorCode.InvalidHandle.toIsize)
  | some p =>
      match p.handles.get handle with
      | none => (s, ErrorCode.InvalidHandle.toIsize)
      | some h =>
          match s.buffers h.resource with
          | none => (s, ErrorCode.InvalidHandle.toIsize)
          | some buf =>
              if buf.owner ≠ pid then (s, ErrorCode.PermissionDenied.toIsize)
              else if newSize ≠ 0 ∧ newSize ≤ maxBufferSize ∧
                  (newSize + pageSize - 1) / pageSize = buf.frames.length then
                let resized := { buf with logicalSize := newSize }
                ({ s with buffers := Function.update s.buffers h.resource (some resized) }, 0)
              else
                let oldPages := (buf.logicalSize + pageSize - 1) / pageSize
                match s.allocBuffer pid p newSize with
                | .error s' => (s', ErrorCode.InvalidHandle.toIsize)
                | .ok (b, _, _, p', s') =>
                    let replaced := { p' with handles := p'.handles.modify handle fun h => { h with resource := b } }
                    let s'' := s'.release h.resource
                    let ranges := freeBufferVaddr replaced.freeRanges buf.userVaddr oldPages
                    (s''.setProc pid { replaced with freeRanges := ranges }, 0)

/-- `handle_brk(new_brk)`: `0` asks for the break. -/
def handleBrk (L : Layout) (s : MemSystem) (pid newBrk : Nat) : MemSystem × Int :=
  match s.procs pid with
  | none => (s, 0)
  | some p =>
      if newBrk = 0 then (s, p.brk L)
      else
        let r := p.setBrk L s.mem newBrk
        ({ s.setProc pid r.1 with mem := r.2 }, r.1.brk L)

/-- `Process` dropped by `remove_process`. -/
def exitProcess (s : MemSystem) (pid : Nat) : MemSystem := s.dropProcess pid

/-- The page fault handler on a not-present user fault: stack, then heap,
else the process is killed. -/
def pageFault (L : Layout) (s : MemSystem) (pid addr : Nat) : MemSystem :=
  match s.procs pid with
  | none => s
  | some p =>
      if s.mem.isMapped addr then s
      else
        match tryHandleStackPageFault L s.mem addr with
        | some m => { s with mem := m }
        | none =>
            match tryHandleHeapPageFault L s.mem addr (p.brk L) with
            | some m => { s with mem := m }
            | none => exitProcess s pid

/-- `channel_send` of a buffer handle from `pid` and its receipt by `dest`:
the message holds a clone of the `Arc` until `dest` installs it, or drops
it in its own address space when its table refuses it. With no receiver
the send fails and the clone is dropped at once. -/
def sendBuffer (s : MemSystem) (pid handle dest : Nat) : MemSystem × Int :=
  match s.procs pid with
  | none => (s, ErrorCode.InvalidHandle.toIsize)
  | some p =>
      match p.handles.get handle with
      | none => (s, ErrorCode.InvalidHandle.toIsize)
      | some h =>
          match s.procs dest with
          | none => (s, ErrorCode.ChannelClosed.toIsize)
          | some q =>
              let sent := (s.acquire h.resource).enter dest
              match q.handles.insertTyped .Buffer h.resource with
              | (.ok id, t) => (sent.setProc dest { q with handles := t }, id)
              | (.error _, _) => (sent.release h.resource, ErrorCode.TooManyHandles.toIsize)

/-- What a process does next. -/
inductive MemEvent where
  | brk (pid newBrk : Nat)
  | pageFault (pid addr : Nat)
  | bufferAlloc (pid size : Nat)
  | bufferFree (pid handle : Nat)
  | bufferMap (pid handle : Nat)
  | bufferResize (pid handle newSize : Nat)
  | sendBuffer (pid handle dest : Nat)
  | exit (pid : Nat)
  deriving DecidableEq, Repr

/-- One event, in the acting process's address space; the log holds the
value a syscall returns. -/
def memStep (L : Layout) (s : MemSystem) : MemEvent → MemSystem × List Int
  | .brk pid newBrk => let r := handleBrk L (s.enter pid) pid newBrk; (r.1, [r.2])
  | .pageFault pid addr => (pageFault L (s.enter pid) pid addr, [])
  | .bufferAlloc pid size => let r := handleAlloc (s.enter pid) pid size; (r.1, [r.2])
  | .bufferFree pid handle => let r := handleFree (s.enter pid) pid handle; (r.1, [r.2])
  | .bufferMap pid handle => let r := handleMap (s.enter pid) pid handle; (r.1, [r.2])
  | .bufferResize pid handle newSize =>
      let r := handleResize (s.enter pid) pid handle newSize
      (r.1, [r.2])
  | .sendBuffer pid handle dest => let r := sendBuffer (s.enter pid) pid handle dest; (r.1, [r.2])
  | .exit pid => (exitProcess (s.enter pid) pid, [])

/-- The address space an event runs in: the receiver's, for a send. -/
def MemEvent.space : MemEvent → Nat
  | .brk pid _ | .pageFault pid _ | .bufferAlloc pid _ | .bufferFree pid _ | .bufferMap pid _
  | .bufferResize pid _ _ | .exit pid => pid
  | .sendBuffer _ _ dest => dest

/-- A run of events. -/
def runMem (L : Layout) (s : MemSystem) (events : List MemEvent) : MemSystem × List Int :=
  PandaOs.Lib.runLog (memStep L) (s, []) events

/-! ## Each event writes one page table -/

section OtherSpace

variable {s : MemSystem} {q : Nat}

theorem handleAlloc_tables_of_ne (hq : q ≠ s.mem.active) (pid size : Nat) :
    (handleAlloc s pid size).1.mem.tables q = s.mem.tables q := by
  unfold handleAlloc
  split
  · rfl
  · next p _ =>
      obtain ⟨herr, hok⟩ := s.allocBuffer_tables_of_ne hq pid p size
      split
      · next s' h => exact herr s' h
      · next b vaddr n p' s' h =>
          obtain ⟨hact, htab⟩ := hok b vaddr n p' s' h
          split
          · exact htab
          · rw [MemSystem.setProc_mem, MemSystem.release_tables_of_ne (by rw [hact]; exact hq), htab]

theorem handleFree_tables_of_ne (hq : q ≠ s.mem.active) (pid handle : Nat) :
    (handleFree s pid handle).1.mem.tables q = s.mem.tables q := by
  unfold handleFree
  split
  · rfl
  · split
    · rfl
    · split
      · rfl
      · dsimp only
        split <;> simp only [MemSystem.setProc_mem] <;>
          exact MemSystem.release_tables_of_ne (by simpa using hq) _

theorem handleMap_tables_of_ne (hq : q ≠ s.mem.active) (pid handle : Nat) :
    (handleMap s pid handle).1.mem.tables q = s.mem.tables q := by
  unfold handleMap
  split
  · rfl
  · split
    · rfl
    · split
      · rfl
      · split
        · rfl
        · next vaddr p' s' h =>
            simp only [MemSystem.setProc_mem]
            exact MemSystem.mapIntoProcess_tables_of_ne hq h

theorem handleResize_tables_of_ne (hq : q ≠ s.mem.active) (pid handle newSize : Nat) :
    (handleResize s pid handle newSize).1.mem.tables q = s.mem.tables q := by
  unfold handleResize
  split
  · rfl
  · next p _ =>
      split
      · rfl
      · split
        · rfl
        · split
          · rfl
          · split
            · rfl
            · obtain ⟨herr, hok⟩ := s.allocBuffer_tables_of_ne hq pid p newSize
              dsimp only
              split
              · next s' h => exact herr s' h
              · next b vaddr n p' s' h =>
                  obtain ⟨hact, htab⟩ := hok b vaddr n p' s' h
                  rw [MemSystem.setProc_mem, MemSystem.release_tables_of_ne (by rw [hact]; exact hq),
                    htab]

theorem handleBrk_tables_of_ne (L : Layout) (hq : q ≠ s.mem.active) (pid newBrk : Nat) :
    (handleBrk L s pid newBrk).1.mem.tables q = s.mem.tables q := by
  unfold handleBrk
  split
  · rfl
  · next p _ =>
      split
      · rfl
      · dsimp only
        rcases setBrk_cases L p s.mem newBrk with h | ⟨-, -, h⟩ <;> rw [h]
        exact Mapping.resize_tables_of_ne _ _ hq

theorem pageFault_tables_of_ne (L : Layout) (hq : q ≠ s.mem.active) (pid addr : Nat) :
    (pageFault L s pid addr).mem.tables q = s.mem.tables q := by
  unfold pageFault
  split
  · rfl
  · split
    · rfl
    · split
      · next m h =>
          obtain ⟨-, -, rfl⟩ := tryHandleStackPageFault_eq_some h
          rw [MemState.mapPage_tables_of_ne (by simpa using hq), MemState.allocateFrame_tables]
      · split
        · next m h =>
            obtain ⟨-, -, rfl⟩ := tryHandleHeapPageFault_eq_some h
            rw [MemState.mapPage_tables_of_ne (by simpa using hq), MemState.allocateFrame_tables]
        · exact MemSystem.dropProcess_tables_of_ne hq pid

theorem sendBuffer_tables_of_ne (pid handle : Nat) {dest : Nat} (hq : q ≠ dest) :
    (sendBuffer s pid handle dest).1.mem.tables q = s.mem.tables q := by
  unfold sendBuffer
  split
  · rfl
  · split
    · rfl
    · split
      · rfl
      · dsimp only
        split
        · simp
        · rw [MemSystem.release_tables_of_ne (by simpa using hq)]
          simp

/-- Every event writes only the page table of the address space it runs
in: a buffer dropped by a process other than its owner is unmapped in the
dropper's table, never in the owner's. -/
theorem memStep_tables_of_ne (L : Layout) (s : MemSystem) (e : MemEvent) (hq : q ≠ e.space) :
    (memStep L s e).1.mem.tables q = s.mem.tables q := by
  cases e <;> simp only [memStep, exitProcess]
  case brk pid newBrk =>
      simpa using handleBrk_tables_of_ne L (s := s.enter pid)
        (by simpa [MemEvent.space] using hq) pid newBrk
  case pageFault pid addr =>
      simpa using pageFault_tables_of_ne L (s := s.enter pid)
        (by simpa [MemEvent.space] using hq) pid addr
  case bufferAlloc pid size =>
      simpa using handleAlloc_tables_of_ne (s := s.enter pid)
        (by simpa [MemEvent.space] using hq) pid size
  case bufferFree pid handle =>
      simpa using handleFree_tables_of_ne (s := s.enter pid)
        (by simpa [MemEvent.space] using hq) pid handle
  case bufferMap pid handle =>
      simpa using handleMap_tables_of_ne (s := s.enter pid)
        (by simpa [MemEvent.space] using hq) pid handle
  case bufferResize pid handle newSize =>
      simpa using handleResize_tables_of_ne (s := s.enter pid)
        (by simpa [MemEvent.space] using hq) pid handle newSize
  case sendBuffer pid handle dest =>
      simpa using sendBuffer_tables_of_ne (s := s.enter pid) pid handle
        (by simpa [MemEvent.space] using hq)
  case exit pid =>
      simpa using MemSystem.dropProcess_tables_of_ne (s := s.enter pid)
        (by simpa [MemEvent.space] using hq) pid

end OtherSpace

end PandaOs.Syscall
