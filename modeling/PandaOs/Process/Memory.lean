import PandaOs.Memory.Mapping
import PandaOs.Kernel.HandleTable

/-!
# A process's address space: regions, the break and the buffer ranges

`panda-abi` fixes where each region of a user address space lies: the
buffer region `OP_BUFFER_ALLOC` hands out, the demand-paged stack and the
demand-paged heap that `brk` grows. The kernel checks each region on its
own: `set_brk` accepts any break up to `HEAP_BASE + HEAP_MAX_SIZE`, a heap
fault is served anywhere below the break, a stack fault anywhere in the
stack region, and buffer addresses come from a free list that starts as
the whole buffer region. Nothing relates the regions to each other.

The layout is a parameter here, `abiLayout` being the ABI's, so that a
statement can say which property of the layout a safety argument needs.

`buffer_free_ranges` is a `BTreeMap` from start address to a number of
pages; the model keeps it as a list sorted by address with the map's
`insert` and `remove`. `alloc_buffer_vaddr` is first fit, and
`free_buffer_vaddr` merges the freed range with the range ending where it
starts and the one starting where it ends.
-/

namespace PandaOs.Process

open PandaOs.Abi PandaOs.Memory PandaOs.Kernel

/-- Where the buffer, stack and heap regions lie. -/
structure Layout where
  bufferBase : Nat
  bufferMaxSize : Nat
  stackBase : Nat
  stackMaxSize : Nat
  heapBase : Nat
  heapMaxSize : Nat
  deriving DecidableEq, Repr

/-- The layout of `panda-abi`. -/
def abiLayout : Layout :=
  ⟨bufferBase, bufferMaxSize, stackBase, stackMaxSize, heapBase, heapMaxSize⟩

/-- An address of the heap range `set_brk` allows. -/
def Layout.inHeap (L : Layout) (a : Nat) : Prop := L.heapBase ≤ a ∧ a < L.heapBase + L.heapMaxSize

/-- An address of the stack region. -/
def Layout.inStack (L : Layout) (a : Nat) : Prop := L.stackBase ≤ a ∧ a < L.stackBase + L.stackMaxSize

/-- An address of the buffer region. -/
def Layout.inBuffer (L : Layout) (a : Nat) : Prop :=
  L.bufferBase ≤ a ∧ a < L.bufferBase + L.bufferMaxSize

/-! ## Buffer address ranges -/

/-- `BTreeMap::insert` on the free ranges. -/
def rangeInsert : List (Nat × Nat) → Nat → Nat → List (Nat × Nat)
  | [], a, n => [(a, n)]
  | (b, k) :: rest, a, n =>
      if a < b then (a, n) :: (b, k) :: rest
      else if a = b then (a, n) :: rest
      else (b, k) :: rangeInsert rest a n

theorem rangeInsert_nil (a n : Nat) : rangeInsert [] a n = [(a, n)] := rfl

theorem rangeInsert_cons (b k : Nat) (rest : List (Nat × Nat)) (a n : Nat) :
    rangeInsert ((b, k) :: rest) a n =
      if a < b then (a, n) :: (b, k) :: rest
      else if a = b then (a, n) :: rest
      else (b, k) :: rangeInsert rest a n := rfl

/-- `BTreeMap::remove` on the free ranges. -/
def rangeRemove (rs : List (Nat × Nat)) (a : Nat) : List (Nat × Nat) := rs.filter (·.1 ≠ a)

/-- `alloc_buffer_vaddr`: the first range with room, split if larger. -/
def allocBufferVaddr (rs : List (Nat × Nat)) (numPages : Nat) : Option (Nat × List (Nat × Nat)) :=
  match rs.find? (fun r => numPages ≤ r.2) with
  | none => none
  | some (addr, pages) =>
      let rest := rangeRemove rs addr
      some (addr, if pages > numPages then
        rangeInsert rest (addr + numPages * pageSize) (pages - numPages) else rest)

/-- `free_buffer_vaddr`. -/
def freeBufferVaddr (rs : List (Nat × Nat)) (vaddr numPages : Nat) : List (Nat × Nat) :=
  let endAddr := vaddr + numPages * pageSize
  let prev := ((rs.filter (·.1 < vaddr)).getLast?).filter fun r => r.1 + r.2 * pageSize = vaddr
  let next := ((rs.filter (vaddr ≤ ·.1)).head?).filter fun r => r.1 = endAddr
  match prev, next with
  | some (pa, pp), some (na, np) => rangeInsert (rangeRemove (rangeRemove rs pa) na) pa (pp + numPages + np)
  | some (pa, pp), none => rangeInsert (rangeRemove rs pa) pa (pp + numPages)
  | none, some (na, np) => rangeInsert (rangeRemove rs na) vaddr (numPages + np)
  | none, none => rangeInsert rs vaddr numPages

/-! ## The process's memory -/

/-- The memory fields of `Process`, in declaration order (which is the
order they are dropped in). The handle table holds buffer handles, each
naming a `SharedBuffer`. -/
structure ProcMem where
  mappings : List Mapping
  handles : HandleTable Nat
  stack : Mapping
  heap : Mapping
  freeRanges : List (Nat × Nat)

/-- `Process::from_elf_data` once `load_elf` has produced the segments'
mappings. -/
def ProcMem.new (L : Layout) (elf : List Mapping) : ProcMem :=
  ⟨elf, HandleTable.new, ⟨L.stackBase, L.stackMaxSize, .demandPaged⟩, ⟨L.heapBase, 0, .demandPaged⟩,
    [(L.bufferBase, L.bufferMaxSize / pageSize)]⟩

/-- `Process::brk`. -/
def ProcMem.brk (L : Layout) (p : ProcMem) : Nat := L.heapBase + p.heap.size

/-- `Process::set_brk`: a break in `[HEAP_BASE, HEAP_BASE + HEAP_MAX_SIZE]`
resizes the heap, freeing what lies above it when it shrinks. -/
def ProcMem.setBrk (L : Layout) (p : ProcMem) (m : MemState) (newBrk : Nat) : ProcMem × MemState :=
  if newBrk < L.heapBase ∨ newBrk > L.heapBase + L.heapMaxSize then (p, m)
  else
    let r := p.heap.resize (newBrk - L.heapBase) m
    ({ p with heap := r.1 }, r.2)

/-- `try_handle_heap_page_fault`: a fault in `[HEAP_BASE, brk)` gets a fresh
frame at its page. -/
def tryHandleHeapPageFault (L : Layout) (m : MemState) (faultAddr brk : Nat) : Option MemState :=
  if faultAddr < L.heapBase ∨ faultAddr ≥ brk then none
  else
    let r := m.allocateFrame .demand
    some (r.2.mapPage (faultAddr / pageSize * pageSize) r.1)

/-- `try_handle_stack_page_fault`. -/
def tryHandleStackPageFault (L : Layout) (m : MemState) (faultAddr : Nat) : Option MemState :=
  if faultAddr < L.stackBase ∨ faultAddr ≥ L.stackBase + L.stackMaxSize then none
  else
    let r := m.allocateFrame .demand
    some (r.2.mapPage (faultAddr / pageSize * pageSize) r.1)

/-! ## Lemmas -/

theorem mem_rangeInsert {rs : List (Nat × Nat)} {a n : Nat} {r : Nat × Nat}
    (h : r ∈ rangeInsert rs a n) : r = (a, n) ∨ r ∈ rs := by
  induction rs with
  | nil => simpa [rangeInsert_nil] using h
  | cons x rest ih =>
      obtain ⟨b, k⟩ := x
      rw [rangeInsert_cons] at h
      split at h
      · simpa using h
      · split at h
        · rcases List.mem_cons.mp h with h | h
          · exact .inl h
          · exact .inr (List.mem_cons_of_mem _ h)
        · rcases List.mem_cons.mp h with h | h
          · exact .inr (h ▸ List.mem_cons_self)
          · rcases ih h with h | h
            · exact .inl h
            · exact .inr (List.mem_cons_of_mem _ h)

theorem mem_rangeInsert_self (rs : List (Nat × Nat)) (a n : Nat) : (a, n) ∈ rangeInsert rs a n := by
  induction rs with
  | nil => simp [rangeInsert_nil]
  | cons x rest ih =>
      obtain ⟨b, k⟩ := x
      rw [rangeInsert_cons]
      split
      · exact List.mem_cons_self
      · split
        · exact List.mem_cons_self
        · exact List.mem_cons_of_mem _ ih

theorem mem_of_mem_rangeRemove {rs : List (Nat × Nat)} {a : Nat} {r : Nat × Nat}
    (h : r ∈ rangeRemove rs a) : r ∈ rs :=
  (List.mem_filter.mp h).1

/-- What `alloc_buffer_vaddr` hands out: the start of a free range with
room, and the ranges left, each an old one or the rest of that range. -/
theorem allocBufferVaddr_spec {rs rs' : List (Nat × Nat)} {numPages addr : Nat}
    (h : allocBufferVaddr rs numPages = some (addr, rs')) :
    ∃ pages, (addr, pages) ∈ rs ∧ numPages ≤ pages ∧
      ∀ r ∈ rs', r ∈ rs ∨ r = (addr + numPages * pageSize, pages - numPages) := by
  unfold allocBufferVaddr at h
  split at h
  · cases h
  · next a pages hf =>
      simp only [Option.some.injEq, Prod.mk.injEq] at h
      obtain ⟨rfl, rfl⟩ := h
      have hmem := List.mem_of_find?_eq_some hf
      have hle : numPages ≤ pages := by simpa using List.find?_some hf
      refine ⟨pages, hmem, hle, fun r hr => ?_⟩
      split at hr
      · rcases mem_rangeInsert hr with h | h
        · exact .inr h
        · exact .inl (mem_of_mem_rangeRemove h)
      · exact .inl (mem_of_mem_rangeRemove hr)

/-- Every range `free_buffer_vaddr` leaves is an old one, or the freed
range merged with old ranges that end where it starts and start where it
ends. -/
theorem freeBufferVaddr_spec {rs : List (Nat × Nat)} {vaddr numPages : Nat} {r : Nat × Nat}
    (h : r ∈ freeBufferVaddr rs vaddr numPages) :
    r ∈ rs ∨ r = (vaddr, numPages) ∨
      (∃ pp, (r.1, pp) ∈ rs ∧ r.1 + pp * pageSize = vaddr ∧
        (r.2 = pp + numPages ∨ ∃ np, (vaddr + numPages * pageSize, np) ∈ rs ∧ r.2 = pp + numPages + np)) ∨
      (r.1 = vaddr ∧ ∃ np, (vaddr + numPages * pageSize, np) ∈ rs ∧ r.2 = numPages + np) := by
  unfold freeBufferVaddr at h
  have hprev : ∀ {pa pp}, ((rs.filter (·.1 < vaddr)).getLast?.filter
      fun r => r.1 + r.2 * pageSize = vaddr) = some (pa, pp) → (pa, pp) ∈ rs ∧ pa + pp * pageSize = vaddr := by
    intro pa pp hp
    rw [Option.filter_eq_some_iff] at hp
    obtain ⟨hl, he⟩ := hp
    exact ⟨(List.mem_filter.mp (List.mem_of_getLast? hl)).1, by simpa using he⟩
  have hnext : ∀ {na np}, ((rs.filter (vaddr ≤ ·.1)).head?.filter
      fun r => r.1 = vaddr + numPages * pageSize) = some (na, np) →
        (na, np) ∈ rs ∧ na = vaddr + numPages * pageSize := by
    intro na np hn
    rw [Option.filter_eq_some_iff] at hn
    obtain ⟨hl, he⟩ := hn
    exact ⟨(List.mem_filter.mp (List.mem_of_mem_head? hl)).1, by simpa using he⟩
  dsimp only at h
  split at h
  · next pa pp na np hp hn =>
      obtain ⟨hpm, hpe⟩ := hprev hp
      obtain ⟨hnm, rfl⟩ := hnext hn
      rcases mem_rangeInsert h with rfl | h
      · exact .inr (.inr (.inl ⟨pp, hpm, hpe, .inr ⟨np, hnm, rfl⟩⟩))
      · exact .inl (mem_of_mem_rangeRemove (mem_of_mem_rangeRemove h))
  · next pa pp hp hn =>
      obtain ⟨hpm, hpe⟩ := hprev hp
      rcases mem_rangeInsert h with rfl | h
      · exact .inr (.inr (.inl ⟨pp, hpm, hpe, .inl rfl⟩))
      · exact .inl (mem_of_mem_rangeRemove h)
  · next na np hp hn =>
      obtain ⟨hnm, rfl⟩ := hnext hn
      rcases mem_rangeInsert h with rfl | h
      · exact .inr (.inr (.inr ⟨rfl, np, hnm, rfl⟩))
      · exact .inl (mem_of_mem_rangeRemove h)
  · rcases mem_rangeInsert h with rfl | h
    · exact .inr (.inl rfl)
    · exact .inl h

/-- A freed range of at least one page is free again afterwards: some
range of the list covers its start. -/
theorem freeBufferVaddr_covers (rs : List (Nat × Nat)) (vaddr : Nat) {numPages : Nat}
    (hn : 0 < numPages) :
    ∃ r ∈ freeBufferVaddr rs vaddr numPages, r.1 ≤ vaddr ∧ vaddr < r.1 + r.2 * pageSize := by
  have hp : 0 < pageSize := by decide
  unfold freeBufferVaddr
  dsimp only
  split
  · next pa pp na np hprev _ =>
      have he : pa + pp * pageSize = vaddr := by
        rw [Option.filter_eq_some_iff] at hprev
        simpa using hprev.2
      refine ⟨_, mem_rangeInsert_self _ _ _, by omega, ?_⟩
      have : numPages * pageSize ≥ pageSize := Nat.le_mul_of_pos_left pageSize hn
      dsimp only
      rw [Nat.add_mul, Nat.add_mul]
      omega
  · next pa pp hprev _ =>
      have he : pa + pp * pageSize = vaddr := by
        rw [Option.filter_eq_some_iff] at hprev
        simpa using hprev.2
      refine ⟨_, mem_rangeInsert_self _ _ _, by omega, ?_⟩
      have : numPages * pageSize ≥ pageSize := Nat.le_mul_of_pos_left pageSize hn
      dsimp only
      rw [Nat.add_mul]
      omega
  · refine ⟨_, mem_rangeInsert_self _ _ _, le_refl _, ?_⟩
    have : numPages * pageSize ≥ pageSize := Nat.le_mul_of_pos_left pageSize hn
    dsimp only
    rw [Nat.add_mul]
    omega
  · refine ⟨_, mem_rangeInsert_self _ _ _, le_refl _, ?_⟩
    have : numPages * pageSize ≥ pageSize := Nat.le_mul_of_pos_left pageSize hn
    dsimp only
    omega

/-- What a served fault does: a fresh demand frame, mapped at the
faulting page of the active table if that page is empty. -/
theorem tryHandleHeapPageFault_eq_some {L : Layout} {m m' : MemState} {faultAddr brk : Nat}
    (h : tryHandleHeapPageFault L m faultAddr brk = some m') :
    L.heapBase ≤ faultAddr ∧ faultAddr < brk ∧
      m' = (m.allocateFrame .demand).2.mapPage (faultAddr / pageSize * pageSize) m.nextFrame := by
  unfold tryHandleHeapPageFault at h
  split at h
  · cases h
  · next hc =>
      cases h
      exact ⟨by omega, by omega, rfl⟩

theorem tryHandleStackPageFault_eq_some {L : Layout} {m m' : MemState} {faultAddr : Nat}
    (h : tryHandleStackPageFault L m faultAddr = some m') :
    L.stackBase ≤ faultAddr ∧ faultAddr < L.stackBase + L.stackMaxSize ∧
      m' = (m.allocateFrame .demand).2.mapPage (faultAddr / pageSize * pageSize) m.nextFrame := by
  unfold tryHandleStackPageFault at h
  split at h
  · cases h
  · next hc =>
      cases h
      exact ⟨by omega, by omega, rfl⟩

/-- `set_brk` either refuses, or accepts a break within the heap's bounds
and resizes the heap to it. -/
theorem setBrk_cases (L : Layout) (p : ProcMem) (m : MemState) (newBrk : Nat) :
    p.setBrk L m newBrk = (p, m) ∨
      (L.heapBase ≤ newBrk ∧ newBrk ≤ L.heapBase + L.heapMaxSize ∧
        p.setBrk L m newBrk =
          ({ p with heap := (p.heap.resize (newBrk - L.heapBase) m).1 },
            (p.heap.resize (newBrk - L.heapBase) m).2)) := by
  unfold ProcMem.setBrk
  split
  · exact .inl rfl
  · next hc => exact .inr ⟨by omega, by omega, rfl⟩

end PandaOs.Process
