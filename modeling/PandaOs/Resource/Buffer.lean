import PandaOs.Process.Memory

/-!
# Shared buffers and the memory of every process

A `SharedBuffer` owns its frames and keeps `_mapping`, the range of its
owner's address space it was mapped at when it was allocated. It lives as
long as an `Arc` to it does: one for each handle naming it, in any
process's table, and one for each `OP_BUFFER_MAP` mapping of it, in any
process. When the last `Arc` goes, its fields are dropped in order: the
frames go back to the allocator, then `_mapping` unmaps its range, in
whatever address space is active at that moment.

`MemSystem` is the part of the kernel the buffer and memory syscalls touch:
physical memory with every page table, each process's memory fields, and
the live buffers with their strong counts.
-/

namespace PandaOs.Resource

open PandaOs.Abi PandaOs.Memory PandaOs.Process PandaOs.Kernel

/-- `SharedBuffer`, with the strong count of the `Arc`s to it. -/
structure SharedBuffer where
  frames : List Nat
  logicalSize : Nat
  userVaddr : Nat
  mapping : Mapping
  owner : Nat
  refs : Nat
  deriving DecidableEq, Repr

/-- Memory, processes and buffers. -/
structure MemSystem where
  mem : MemState
  procs : Nat → Option ProcMem
  buffers : Nat → Option SharedBuffer
  nextBuffer : Nat

namespace MemSystem

/-- Write back a process's memory fields. -/
def setProc (s : MemSystem) (pid : Nat) (p : ProcMem) : MemSystem :=
  { s with procs := Function.update s.procs pid (some p) }

/-- Switch to a process's page table. -/
def enter (s : MemSystem) (pid : Nat) : MemSystem := { s with mem := s.mem.activate pid }

/-- Dropping a `SharedBuffer`: `frames` go back to the allocator, then
`_mapping` unmaps its range in the active address space. -/
def dropBuffer (s : MemSystem) (b : Nat) : MemSystem :=
  match s.buffers b with
  | none => s
  | some buf =>
      let m := buf.mapping.drop (s.mem.deallocateFrames buf.frames (.buffer b))
      { s with mem := m, buffers := Function.update s.buffers b none }

/-- `Arc::clone`. -/
def acquire (s : MemSystem) (b : Nat) : MemSystem :=
  match s.buffers b with
  | none => s
  | some buf => { s with buffers := Function.update s.buffers b (some { buf with refs := buf.refs + 1 }) }

/-- Dropping one `Arc`: the last one drops the buffer. -/
def release (s : MemSystem) (b : Nat) : MemSystem :=
  match s.buffers b with
  | none => s
  | some buf =>
      if buf.refs ≤ 1 then s.dropBuffer b
      else { s with buffers := Function.update s.buffers b (some { buf with refs := buf.refs - 1 }) }

/-- Dropping a process's `Mapping`: an `ExternalFrames` mapping releases the
buffer it keeps alive once its range is unmapped. -/
def dropMapping (s : MemSystem) (mp : Mapping) : MemSystem :=
  let s' := { s with mem := mp.drop s.mem }
  match mp.backing with
  | .externalFrames b => s'.release b
  | _ => s'

/-- `SharedBuffer::alloc` for process `p`: the new buffer's id, start
address and page count, and `p` with its free ranges updated; or the state
once the frames allocated before the address range ran out are dropped. -/
def allocBuffer (s : MemSystem) (pid : Nat) (p : ProcMem) (size : Nat) :
    Except MemSystem (Nat × Nat × Nat × ProcMem × MemSystem) :=
  if size = 0 ∨ size > maxBufferSize then .error s
  else
    let numPages := (size + pageSize - 1) / pageSize
    let b := s.nextBuffer
    let r := s.mem.allocateFrames (.buffer b) numPages
    match allocBufferVaddr p.freeRanges numPages with
    | none => .error { s with mem := r.2.deallocateFrames r.1 (.buffer b) }
    | some (vaddr, ranges) =>
        let buf : SharedBuffer := ⟨r.1, size, vaddr, ⟨vaddr, r.1.length * pageSize, .mmio⟩, pid, 1⟩
        let s' : MemSystem := ⟨r.2.mapFrames r.1 vaddr, s.procs, Function.update s.buffers b (some buf),
          b + 1⟩
        .ok (b, vaddr, numPages, { p with freeRanges := ranges }, s')

/-- `SharedBuffer::map_into_process`: a fresh range of `p`'s buffer region
for the buffer's frames, with a mapping that keeps the buffer alive. -/
def mapIntoProcess (s : MemSystem) (p : ProcMem) (b : Nat) (buf : SharedBuffer) :
    Option (Nat × ProcMem × MemSystem) :=
  let numPages := buf.frames.length
  match allocBufferVaddr p.freeRanges numPages with
  | none => none
  | some (vaddr, ranges) =>
      let mp : Mapping := ⟨vaddr, numPages * pageSize, .externalFrames b⟩
      let s' := ({ s with mem := s.mem.mapFrames buf.frames vaddr } : MemSystem).acquire b
      some (vaddr, { p with freeRanges := ranges, mappings := p.mappings ++ [mp] }, s')

/-- The buffer handles of a table in key order, the order a `BTreeMap`
drops them in. -/
def handleOrder (t : HandleTable Nat) : List Nat :=
  (t.handles.entries.mergeSort fun a c => a.1 ≤ c.1).map fun e => e.2.resource

/-- Dropping a `Process` in its own address space: the mappings, the
handles, the stack and the heap, in field order. -/
def dropProcess (s : MemSystem) (pid : Nat) : MemSystem :=
  match s.procs pid with
  | none => s
  | some p =>
      let s1 := p.mappings.foldl dropMapping { s with procs := Function.update s.procs pid none }
      let s2 := (handleOrder p.handles).foldl release s1
      let s3 := { s2 with mem := p.stack.drop s2.mem }
      { s3 with mem := p.heap.drop s3.mem }

@[simp] theorem setProc_mem (s : MemSystem) (pid : Nat) (p : ProcMem) : (s.setProc pid p).mem = s.mem :=
  rfl

@[simp] theorem setProc_buffers (s : MemSystem) (pid : Nat) (p : ProcMem) :
    (s.setProc pid p).buffers = s.buffers := rfl

@[simp] theorem setProc_nextBuffer (s : MemSystem) (pid : Nat) (p : ProcMem) :
    (s.setProc pid p).nextBuffer = s.nextBuffer := rfl

@[simp] theorem setProc_procs (s : MemSystem) (pid : Nat) (p : ProcMem) :
    (s.setProc pid p).procs = Function.update s.procs pid (some p) := rfl

@[simp] theorem enter_mem (s : MemSystem) (pid : Nat) : (s.enter pid).mem = s.mem.activate pid := rfl

@[simp] theorem enter_procs (s : MemSystem) (pid : Nat) : (s.enter pid).procs = s.procs := rfl

@[simp] theorem enter_buffers (s : MemSystem) (pid : Nat) : (s.enter pid).buffers = s.buffers := rfl

@[simp] theorem enter_nextBuffer (s : MemSystem) (pid : Nat) :
    (s.enter pid).nextBuffer = s.nextBuffer := rfl

@[simp] theorem release_procs (s : MemSystem) (b : Nat) : (s.release b).procs = s.procs := by
  unfold release dropBuffer
  split
  · rfl
  · split
    · split <;> rfl
    · rfl

@[simp] theorem release_nextBuffer (s : MemSystem) (b : Nat) :
    (s.release b).nextBuffer = s.nextBuffer := by
  unfold release dropBuffer
  split
  · rfl
  · split
    · split <;> rfl
    · rfl

@[simp] theorem release_active (s : MemSystem) (b : Nat) :
    (s.release b).mem.active = s.mem.active := by
  unfold release dropBuffer
  split
  · rfl
  · split
    · split
      · rfl
      · simp
    · rfl

/-- While another `Arc` remains, dropping one only counts it. -/
theorem release_of_shared {s : MemSystem} {b : Nat} {buf : SharedBuffer} (hb : s.buffers b = some buf)
    (h2 : 2 ≤ buf.refs) :
    s.release b = { s with buffers := Function.update s.buffers b (some { buf with refs := buf.refs - 1 }) } := by
  simp only [release, hb]
  rw [if_neg (by omega)]

@[simp] theorem acquire_procs (s : MemSystem) (b : Nat) : (s.acquire b).procs = s.procs := by
  unfold acquire; split <;> rfl

@[simp] theorem acquire_mem (s : MemSystem) (b : Nat) : (s.acquire b).mem = s.mem := by
  unfold acquire; split <;> rfl

@[simp] theorem acquire_nextBuffer (s : MemSystem) (b : Nat) :
    (s.acquire b).nextBuffer = s.nextBuffer := by
  unfold acquire; split <;> rfl

/-- What `dropMapping` does: the range goes, then an `ExternalFrames`
mapping releases its buffer. -/
theorem dropMapping_cases (s : MemSystem) (mp : Mapping) :
    (∃ b, mp.backing = .externalFrames b ∧
        s.dropMapping mp = ({ s with mem := mp.drop s.mem } : MemSystem).release b) ∨
      s.dropMapping mp = { s with mem := mp.drop s.mem } := by
  unfold dropMapping
  split
  · next b h => exact .inl ⟨b, h, rfl⟩
  · exact .inr rfl

@[simp] theorem dropMapping_procs (s : MemSystem) (mp : Mapping) :
    (s.dropMapping mp).procs = s.procs := by
  rcases dropMapping_cases s mp with ⟨b, -, h⟩ | h
  · rw [h]
    simp
  · rw [h]

@[simp] theorem dropMapping_active (s : MemSystem) (mp : Mapping) :
    (s.dropMapping mp).mem.active = s.mem.active := by
  rcases dropMapping_cases s mp with ⟨b, -, h⟩ | h <;> rw [h] <;> simp

/-! ## Which page tables an operation writes -/

section OtherSpace

variable {s : MemSystem} {q : Nat}

/-- Dropping a buffer unmaps its range in the active address space only,
whichever process its range belongs to. -/
theorem dropBuffer_tables_of_ne (hq : q ≠ s.mem.active) (b : Nat) :
    (s.dropBuffer b).mem.tables q = s.mem.tables q := by
  unfold dropBuffer
  split
  · rfl
  · next buf _ =>
      dsimp only
      rw [Mapping.drop_tables_of_ne _ (by simpa using hq), MemState.deallocateFrames_tables]

theorem release_tables_of_ne (hq : q ≠ s.mem.active) (b : Nat) :
    (s.release b).mem.tables q = s.mem.tables q := by
  unfold release
  split
  · rfl
  · split
    · exact dropBuffer_tables_of_ne hq b
    · rfl

theorem dropMapping_tables_of_ne (hq : q ≠ s.mem.active) (mp : Mapping) :
    (s.dropMapping mp).mem.tables q = s.mem.tables q := by
  have hd : ({ s with mem := mp.drop s.mem } : MemSystem).mem.tables q = s.mem.tables q :=
    Mapping.drop_tables_of_ne mp hq
  rcases dropMapping_cases s mp with ⟨b, -, h⟩ | h <;> rw [h]
  · rw [release_tables_of_ne (by simpa using hq), hd]
  · exact hd

theorem allocBuffer_tables_of_ne (hq : q ≠ s.mem.active) (pid : Nat) (p : ProcMem) (size : Nat) :
    (∀ s', s.allocBuffer pid p size = .error s' → s'.mem.tables q = s.mem.tables q) ∧
      ∀ b vaddr n p' s', s.allocBuffer pid p size = .ok (b, vaddr, n, p', s') →
        s'.mem.active = s.mem.active ∧ s'.mem.tables q = s.mem.tables q := by
  unfold allocBuffer
  split
  · refine ⟨fun s' h => ?_, fun _ _ _ _ _ h => nomatch h⟩
    cases h
    rfl
  · dsimp only
    split
    · refine ⟨fun s' h => ?_, fun _ _ _ _ _ h => nomatch h⟩
      cases h
      simp
    · refine ⟨fun _ h => (nomatch h), fun b vaddr n p' s' h => ?_⟩
      cases h
      refine ⟨by simp, ?_⟩
      rw [MemState.mapFrames_tables_of_ne (by simpa using hq), MemState.allocateFrames_tables]

theorem mapIntoProcess_tables_of_ne (hq : q ≠ s.mem.active) {p : ProcMem} {b : Nat}
    {buf : SharedBuffer} {vaddr : Nat} {p' : ProcMem} {s' : MemSystem}
    (h : s.mapIntoProcess p b buf = some (vaddr, p', s')) :
    s'.mem.tables q = s.mem.tables q := by
  unfold mapIntoProcess at h
  dsimp only at h
  split at h
  · cases h
  · cases h
    rw [acquire_mem]
    exact MemState.mapFrames_tables_of_ne hq _ _

theorem dropProcess_tables_of_ne (hq : q ≠ s.mem.active) (pid : Nat) :
    (s.dropProcess pid).mem.tables q = s.mem.tables q := by
  unfold dropProcess
  split
  · rfl
  · next p _ =>
      dsimp only
      -- the active space stays the exiting process's through both folds
      have hm : ∀ (mps : List Mapping) (t : MemSystem), t.mem.active = s.mem.active →
          (mps.foldl dropMapping t).mem.active = s.mem.active ∧
            (mps.foldl dropMapping t).mem.tables q = t.mem.tables q := by
        intro mps
        induction mps with
        | nil => intro t ht; exact ⟨ht, rfl⟩
        | cons mp mps ih =>
            intro t ht
            rw [List.foldl_cons]
            obtain ⟨h1, h2⟩ := ih (t.dropMapping mp) (by rw [dropMapping_active, ht])
            exact ⟨h1, by rw [h2, dropMapping_tables_of_ne (by rw [ht]; exact hq)]⟩
      have hr : ∀ (bs : List Nat) (t : MemSystem), t.mem.active = s.mem.active →
          (bs.foldl release t).mem.active = s.mem.active ∧
            (bs.foldl release t).mem.tables q = t.mem.tables q := by
        intro bs
        induction bs with
        | nil => intro t ht; exact ⟨ht, rfl⟩
        | cons b bs ih =>
            intro t ht
            rw [List.foldl_cons]
            obtain ⟨h1, h2⟩ := ih (t.release b) (by rw [release_active, ht])
            exact ⟨h1, by rw [h2, release_tables_of_ne (by rw [ht]; exact hq)]⟩
      obtain ⟨hm1, hm2⟩ := hm p.mappings { s with procs := Function.update s.procs pid none } rfl
      obtain ⟨hr1, hr2⟩ := hr (handleOrder p.handles) _ hm1
      rw [Mapping.drop_tables_of_ne _ (by simpa [hr1] using hq),
        Mapping.drop_tables_of_ne _ (by simpa [hr1] using hq), hr2, hm2]

end OtherSpace

end MemSystem

end PandaOs.Resource
