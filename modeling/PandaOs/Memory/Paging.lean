import Mathlib

/-!
# Page tables and physical frames

Every process has its own page table, and the kernel changes only the one
in CR3: `map_external`, `unmap_page` and `unmap_and_gc` walk the active
table through the recursive mapping. The model keeps, for each address
space, its present leaf entries (page number to frame), which space is
active, and the frame allocator.

Which object a frame belongs to is not in the code: Rust ownership decides
it. A `SharedBuffer` owns its `frames`, an ELF segment's `Frames` mapping
owns its own, and a demand-paged page is owned by the page table that maps
it. The model records that owner with each allocated frame, and every
deallocation logs who freed the frame and who held it at that moment. A
deallocation whose holder is not the freer is a frame freed under another
owner; one whose holder is `none` is a double free.

`unmap_and_gc` with `free_leaf` set is how demand-paged memory is returned:
`free_region` runs it on every page of a range and frees whatever frame it
finds there, whoever owns it. Intermediate tables and huge pages are not
modelled.
-/

namespace PandaOs.Memory

/-- The 4 KiB page every user mapping is made of. -/
def pageSize : Nat := 4096

/-- Who holds an allocated frame. -/
inductive FrameOwner where
  | demand
  | buffer (id : Nat)
  | elf
  deriving DecidableEq, Repr

/-- A frame handed back to the allocator: by whom, and who held it then. -/
structure Dealloc where
  frame : Nat
  freer : FrameOwner
  held : Option FrameOwner
  deriving DecidableEq, Repr

/-- Physical memory and the page tables. -/
structure MemState where
  tables : Nat → Nat → Option Nat
  active : Nat
  owner : Nat → Option FrameOwner
  nextFrame : Nat
  freed : List Dealloc

namespace MemState

/-- `allocate_frame`: a frame nobody holds, now held by `o`. -/
def allocateFrame (m : MemState) (o : FrameOwner) : Nat × MemState :=
  let owner := Function.update m.owner m.nextFrame (some o)
  (m.nextFrame, { m with owner := owner, nextFrame := m.nextFrame + 1 })

/-- `n` calls of `allocate_frame`, in order. -/
def allocateFrames (m : MemState) (o : FrameOwner) : Nat → List Nat × MemState
  | 0 => ([], m)
  | n + 1 =>
      let r := m.allocateFrame o
      let rest := r.2.allocateFrames o n
      (r.1 :: rest.1, rest.2)

/-- Dropping a `Frame` (or `deallocate_frame_raw`). -/
def deallocateFrame (m : MemState) (f : Nat) (freer : FrameOwner) : MemState :=
  { m with owner := Function.update m.owner f none, freed := m.freed ++ [⟨f, freer, m.owner f⟩] }

/-- Dropping a `Vec<Frame>`. -/
def deallocateFrames (m : MemState) (fs : List Nat) (freer : FrameOwner) : MemState :=
  fs.foldl (fun m f => m.deallocateFrame f freer) m

/-- Write the leaf entry of page `vpn` in the active table. -/
def setEntry (m : MemState) (vpn : Nat) (e : Option Nat) : MemState :=
  { m with tables := Function.update m.tables m.active (Function.update (m.tables m.active) vpn e) }

/-- `is_mapped` in the active table. -/
def isMapped (m : MemState) (virt : Nat) : Bool := (m.tables m.active (virt / pageSize)).isSome

/-- `map_inner` for one page: a page that is already mapped is skipped. -/
def mapPage (m : MemState) (virt frame : Nat) : MemState :=
  if m.isMapped virt then m else m.setEntry (virt / pageSize) (some frame)

/-- `map_page_range`: frame `i` at `vaddr + i * 4096`. -/
def mapFrames (m : MemState) : List Nat → Nat → MemState
  | [], _ => m
  | f :: fs, vaddr => (m.mapPage vaddr f).mapFrames fs (vaddr + pageSize)

/-- `unmap_and_gc`: clear the page's entry, and with `free_leaf` free the
frame it pointed at. -/
def unmapAndGc (m : MemState) (virt : Nat) (freeLeaf : Bool) : MemState :=
  match m.tables m.active (virt / pageSize) with
  | none => m
  | some f =>
      if freeLeaf then (m.setEntry (virt / pageSize) none).deallocateFrame f .demand
      else m.setEntry (virt / pageSize) none

/-- The addresses `(0..size_bytes).step_by(4096)` visits from `base`. -/
def pageAddrs (base size : Nat) : List Nat :=
  (List.range ((size + pageSize - 1) / pageSize)).map fun i => base + i * pageSize

/-- `unmap_and_gc` on each address in turn. -/
def unmapPages (m : MemState) (addrs : List Nat) (freeLeaf : Bool) : MemState :=
  addrs.foldl (fun m virt => m.unmapAndGc virt freeLeaf) m

/-- `unmap_region`. -/
def unmapRegion (m : MemState) (base size : Nat) : MemState := m.unmapPages (pageAddrs base size) false

/-- `free_region`. -/
def freeRegion (m : MemState) (base size : Nat) : MemState := m.unmapPages (pageAddrs base size) true

/-- Switch CR3. -/
def activate (m : MemState) (space : Nat) : MemState := { m with active := space }

/-! ## Fields -/

@[simp] theorem allocateFrame_fst (m : MemState) (o : FrameOwner) :
    (m.allocateFrame o).1 = m.nextFrame := rfl

@[simp] theorem allocateFrame_tables (m : MemState) (o : FrameOwner) :
    (m.allocateFrame o).2.tables = m.tables := rfl

@[simp] theorem allocateFrame_active (m : MemState) (o : FrameOwner) :
    (m.allocateFrame o).2.active = m.active := rfl

@[simp] theorem allocateFrame_owner (m : MemState) (o : FrameOwner) :
    (m.allocateFrame o).2.owner = Function.update m.owner m.nextFrame (some o) := rfl

@[simp] theorem allocateFrame_nextFrame (m : MemState) (o : FrameOwner) :
    (m.allocateFrame o).2.nextFrame = m.nextFrame + 1 := rfl

@[simp] theorem allocateFrame_freed (m : MemState) (o : FrameOwner) :
    (m.allocateFrame o).2.freed = m.freed := rfl

@[simp] theorem deallocateFrame_tables (m : MemState) (f : Nat) (o : FrameOwner) :
    (m.deallocateFrame f o).tables = m.tables := rfl

@[simp] theorem deallocateFrame_active (m : MemState) (f : Nat) (o : FrameOwner) :
    (m.deallocateFrame f o).active = m.active := rfl

@[simp] theorem deallocateFrame_owner (m : MemState) (f : Nat) (o : FrameOwner) :
    (m.deallocateFrame f o).owner = Function.update m.owner f none := rfl

@[simp] theorem deallocateFrame_nextFrame (m : MemState) (f : Nat) (o : FrameOwner) :
    (m.deallocateFrame f o).nextFrame = m.nextFrame := rfl

@[simp] theorem deallocateFrame_freed (m : MemState) (f : Nat) (o : FrameOwner) :
    (m.deallocateFrame f o).freed = m.freed ++ [⟨f, o, m.owner f⟩] := rfl

@[simp] theorem setEntry_tables (m : MemState) (vpn : Nat) (e : Option Nat) (p w : Nat) :
    (m.setEntry vpn e).tables p w = if p = m.active ∧ w = vpn then e else m.tables p w := by
  by_cases hp : p = m.active
  · subst hp
    by_cases hw : w = vpn <;> simp [setEntry, hw]
  · simp [setEntry, hp]

@[simp] theorem setEntry_active (m : MemState) (vpn : Nat) (e : Option Nat) :
    (m.setEntry vpn e).active = m.active := rfl

@[simp] theorem setEntry_owner (m : MemState) (vpn : Nat) (e : Option Nat) :
    (m.setEntry vpn e).owner = m.owner := rfl

@[simp] theorem setEntry_nextFrame (m : MemState) (vpn : Nat) (e : Option Nat) :
    (m.setEntry vpn e).nextFrame = m.nextFrame := rfl

@[simp] theorem setEntry_freed (m : MemState) (vpn : Nat) (e : Option Nat) :
    (m.setEntry vpn e).freed = m.freed := rfl

@[simp] theorem activate_tables (m : MemState) (p : Nat) : (m.activate p).tables = m.tables := rfl

@[simp] theorem activate_active (m : MemState) (p : Nat) : (m.activate p).active = p := rfl

@[simp] theorem activate_owner (m : MemState) (p : Nat) : (m.activate p).owner = m.owner := rfl

@[simp] theorem activate_nextFrame (m : MemState) (p : Nat) :
    (m.activate p).nextFrame = m.nextFrame := rfl

@[simp] theorem activate_freed (m : MemState) (p : Nat) : (m.activate p).freed = m.freed := rfl

/-! ## What one unmap does -/

/-- Everything `unmap_and_gc` can do: nothing, when the page is not
present; otherwise clear its entry and, with `free_leaf`, free the frame
that was there. -/
theorem unmapAndGc_cases (m : MemState) (virt : Nat) (freeLeaf : Bool) :
    (m.tables m.active (virt / pageSize) = none ∧ m.unmapAndGc virt freeLeaf = m) ∨
      ∃ f, m.tables m.active (virt / pageSize) = some f ∧
        m.unmapAndGc virt freeLeaf = if freeLeaf then
          (m.setEntry (virt / pageSize) none).deallocateFrame f .demand
        else m.setEntry (virt / pageSize) none := by
  unfold unmapAndGc
  cases h : m.tables m.active (virt / pageSize) with
  | none => exact .inl ⟨rfl, rfl⟩
  | some f => exact .inr ⟨f, rfl, rfl⟩

@[simp] theorem unmapAndGc_active (m : MemState) (virt : Nat) (freeLeaf : Bool) :
    (m.unmapAndGc virt freeLeaf).active = m.active := by
  rcases unmapAndGc_cases m virt freeLeaf with ⟨-, h⟩ | ⟨f, -, h⟩
  · rw [h]
  · rw [h]; cases freeLeaf <;> rfl

@[simp] theorem unmapAndGc_nextFrame (m : MemState) (virt : Nat) (freeLeaf : Bool) :
    (m.unmapAndGc virt freeLeaf).nextFrame = m.nextFrame := by
  rcases unmapAndGc_cases m virt freeLeaf with ⟨-, h⟩ | ⟨f, -, h⟩
  · rw [h]
  · rw [h]; cases freeLeaf <;> rfl

theorem unmapAndGc_tables (m : MemState) (virt : Nat) (freeLeaf : Bool) (p w : Nat) :
    (m.unmapAndGc virt freeLeaf).tables p w =
      if p = m.active ∧ w = virt / pageSize then none else m.tables p w := by
  rcases unmapAndGc_cases m virt freeLeaf with ⟨hn, h⟩ | ⟨f, -, h⟩
  · rw [h]
    split
    · next hpw => obtain ⟨rfl, rfl⟩ := hpw; exact hn
    · rfl
  · rw [h]; cases freeLeaf <;> simp

/-- Without `free_leaf` nothing is freed. -/
theorem unmapAndGc_false_owner (m : MemState) (virt : Nat) :
    (m.unmapAndGc virt false).owner = m.owner ∧ (m.unmapAndGc virt false).freed = m.freed := by
  rcases unmapAndGc_cases m virt false with ⟨-, h⟩ | ⟨f, -, h⟩ <;> rw [h] <;> simp

/-! ## Loops over a region -/

@[simp] theorem unmapPages_nil (m : MemState) (freeLeaf : Bool) : m.unmapPages [] freeLeaf = m := rfl

theorem unmapPages_cons (m : MemState) (a : Nat) (addrs : List Nat) (freeLeaf : Bool) :
    m.unmapPages (a :: addrs) freeLeaf = (m.unmapAndGc a freeLeaf).unmapPages addrs freeLeaf := rfl

@[simp] theorem unmapPages_active (m : MemState) (addrs : List Nat) (freeLeaf : Bool) :
    (m.unmapPages addrs freeLeaf).active = m.active := by
  induction addrs generalizing m with
  | nil => rfl
  | cons a addrs ih => rw [unmapPages_cons, ih, unmapAndGc_active]

@[simp] theorem unmapPages_nextFrame (m : MemState) (addrs : List Nat) (freeLeaf : Bool) :
    (m.unmapPages addrs freeLeaf).nextFrame = m.nextFrame := by
  induction addrs generalizing m with
  | nil => rfl
  | cons a addrs ih => rw [unmapPages_cons, ih, unmapAndGc_nextFrame]

/-- A loop of unmaps clears the pages it visits in the active table and
touches no other entry of any table. -/
theorem unmapPages_tables (m : MemState) (addrs : List Nat) (freeLeaf : Bool) (p w : Nat) :
    (m.unmapPages addrs freeLeaf).tables p w =
      if p = m.active ∧ ∃ a ∈ addrs, w = a / pageSize then none else m.tables p w := by
  induction addrs generalizing m with
  | nil => simp
  | cons a addrs ih =>
      rw [unmapPages_cons, ih, unmapAndGc_tables, unmapAndGc_active]
      by_cases hp : p = m.active
      · by_cases hw : w = a / pageSize
        · simp [hp, hw]
        · simp [hp, hw]
      · simp [hp]

theorem unmapPages_false_owner (m : MemState) (addrs : List Nat) :
    (m.unmapPages addrs false).owner = m.owner ∧ (m.unmapPages addrs false).freed = m.freed := by
  induction addrs generalizing m with
  | nil => exact ⟨rfl, rfl⟩
  | cons a addrs ih =>
      rw [unmapPages_cons]
      obtain ⟨ho, hf⟩ := unmapAndGc_false_owner m a
      obtain ⟨ho', hf'⟩ := ih (m.unmapAndGc a false)
      exact ⟨ho'.trans ho, hf'.trans hf⟩

/-- A loop that finds none of its pages present changes nothing. -/
theorem unmapPages_of_absent {m : MemState} {addrs : List Nat} (freeLeaf : Bool)
    (h : ∀ a ∈ addrs, m.tables m.active (a / pageSize) = none) :
    m.unmapPages addrs freeLeaf = m := by
  induction addrs generalizing m with
  | nil => rfl
  | cons a addrs ih =>
      rw [unmapPages_cons]
      rcases unmapAndGc_cases m a freeLeaf with ⟨-, hu⟩ | ⟨f, hf, -⟩
      · rw [hu]
        exact ih fun b hb => h b (List.mem_cons_of_mem a hb)
      · rw [h a List.mem_cons_self] at hf
        cases hf

theorem mem_pageAddrs {base size a : Nat} :
    a ∈ pageAddrs base size ↔ ∃ i, i * pageSize < size ∧ a = base + i * pageSize := by
  simp only [pageAddrs, List.mem_map, List.mem_range]
  constructor
  · rintro ⟨i, hi, rfl⟩
    refine ⟨i, ?_, rfl⟩
    have : i * pageSize < (size + pageSize - 1) / pageSize * pageSize :=
      Nat.mul_lt_mul_of_pos_right hi (by decide)
    have := Nat.div_mul_le_self (size + pageSize - 1) pageSize
    simp only [pageSize] at *
    omega
  · rintro ⟨i, hi, rfl⟩
    refine ⟨i, ?_, rfl⟩
    rw [Nat.lt_div_iff_mul_lt (by decide)]
    simp only [pageSize] at *
    omega

/-- Every address a region loop visits lies in the region. -/
theorem pageAddrs_bounds {base size a : Nat} (h : a ∈ pageAddrs base size) :
    base ≤ a ∧ a < base + size := by
  obtain ⟨i, hi, rfl⟩ := mem_pageAddrs.1 h
  omega

@[simp] theorem pageAddrs_zero (base : Nat) : pageAddrs base 0 = [] := by
  simp [pageAddrs, pageSize]

theorem pageAddrs_one_page (base : Nat) : pageAddrs base pageSize = [base] := by
  simp [pageAddrs, pageSize]

/-! ## Allocation -/

theorem allocateFrames_zero (m : MemState) (o : FrameOwner) : m.allocateFrames o 0 = ([], m) := rfl

theorem allocateFrames_succ (m : MemState) (o : FrameOwner) (n : Nat) :
    m.allocateFrames o (n + 1) =
      ((m.allocateFrame o).1 :: ((m.allocateFrame o).2.allocateFrames o n).1,
        ((m.allocateFrame o).2.allocateFrames o n).2) := rfl

@[simp] theorem allocateFrames_tables (m : MemState) (o : FrameOwner) (n : Nat) :
    (m.allocateFrames o n).2.tables = m.tables := by
  induction n generalizing m with
  | zero => rfl
  | succ n ih => simp only [allocateFrames_succ, ih, allocateFrame_tables]

@[simp] theorem allocateFrames_active (m : MemState) (o : FrameOwner) (n : Nat) :
    (m.allocateFrames o n).2.active = m.active := by
  induction n generalizing m with
  | zero => rfl
  | succ n ih => simp only [allocateFrames_succ, ih, allocateFrame_active]

@[simp] theorem allocateFrames_freed (m : MemState) (o : FrameOwner) (n : Nat) :
    (m.allocateFrames o n).2.freed = m.freed := by
  induction n generalizing m with
  | zero => rfl
  | succ n ih => simp only [allocateFrames_succ, ih, allocateFrame_freed]

/-- `n` allocations hand out the next `n` frames, each now held by `o`. -/
theorem allocateFrames_spec (m : MemState) (o : FrameOwner) (n : Nat) :
    (m.allocateFrames o n).1 = List.range' m.nextFrame n ∧
      (m.allocateFrames o n).2.nextFrame = m.nextFrame + n ∧
      ∀ f, (m.allocateFrames o n).2.owner f =
        if m.nextFrame ≤ f ∧ f < m.nextFrame + n then some o else m.owner f := by
  induction n generalizing m with
  | zero => simp [allocateFrames_zero]
  | succ n ih =>
      obtain ⟨h1, h2, h3⟩ := ih (m.allocateFrame o).2
      simp only [allocateFrame_nextFrame] at h1 h2 h3
      refine ⟨?_, ?_, fun f => ?_⟩
      · simp [allocateFrames_succ, h1, List.range'_succ]
      · simp only [allocateFrames_succ, h2]; omega
      · simp only [allocateFrames_succ, h3, allocateFrame_owner]
        by_cases hf : f = m.nextFrame
        · subst hf; simp
        · simp only [Function.update, hf, dite_false]
          split <;> split <;> first | rfl | omega

/-! ## Mapping -/

theorem mapPage_eq (m : MemState) (virt f : Nat) :
    m.mapPage virt f = if m.isMapped virt then m else m.setEntry (virt / pageSize) (some f) := rfl

theorem mapFrames_cons (m : MemState) (f : Nat) (fs : List Nat) (vaddr : Nat) :
    m.mapFrames (f :: fs) vaddr = (m.mapPage vaddr f).mapFrames fs (vaddr + pageSize) := rfl

@[simp] theorem mapPage_active (m : MemState) (virt f : Nat) : (m.mapPage virt f).active = m.active := by
  rw [mapPage_eq]; split <;> rfl

@[simp] theorem mapPage_owner (m : MemState) (virt f : Nat) : (m.mapPage virt f).owner = m.owner := by
  rw [mapPage_eq]; split <;> rfl

@[simp] theorem mapPage_nextFrame (m : MemState) (virt f : Nat) :
    (m.mapPage virt f).nextFrame = m.nextFrame := by
  rw [mapPage_eq]; split <;> rfl

@[simp] theorem mapPage_freed (m : MemState) (virt f : Nat) : (m.mapPage virt f).freed = m.freed := by
  rw [mapPage_eq]; split <;> rfl

/-- Mapping a page fills an empty entry of the active table and changes
nothing else. -/
theorem mapPage_tables (m : MemState) (virt f p w : Nat) :
    (m.mapPage virt f).tables p w =
      if p = m.active ∧ w = virt / pageSize ∧ m.tables m.active w = none then some f
      else m.tables p w := by
  rw [mapPage_eq]
  unfold isMapped
  by_cases hp : p = m.active
  · subst hp
    by_cases hw : w = virt / pageSize
    · subst hw
      cases h : m.tables m.active (virt / pageSize) <;> simp [h]
    · split <;> simp [hw]
  · split <;> simp [hp]

@[simp] theorem mapFrames_active (m : MemState) (fs : List Nat) (vaddr : Nat) :
    (m.mapFrames fs vaddr).active = m.active := by
  induction fs generalizing m vaddr with
  | nil => rfl
  | cons f fs ih => simp only [mapFrames_cons, ih, mapPage_active]

@[simp] theorem mapFrames_owner (m : MemState) (fs : List Nat) (vaddr : Nat) :
    (m.mapFrames fs vaddr).owner = m.owner := by
  induction fs generalizing m vaddr with
  | nil => rfl
  | cons f fs ih => simp only [mapFrames_cons, ih, mapPage_owner]

@[simp] theorem mapFrames_nextFrame (m : MemState) (fs : List Nat) (vaddr : Nat) :
    (m.mapFrames fs vaddr).nextFrame = m.nextFrame := by
  induction fs generalizing m vaddr with
  | nil => rfl
  | cons f fs ih => simp only [mapFrames_cons, ih, mapPage_nextFrame]

@[simp] theorem mapFrames_freed (m : MemState) (fs : List Nat) (vaddr : Nat) :
    (m.mapFrames fs vaddr).freed = m.freed := by
  induction fs generalizing m vaddr with
  | nil => rfl
  | cons f fs ih => simp only [mapFrames_cons, ih, mapPage_freed]

/-- An entry after `map_page_range` is the old one, or one of the frames
at a page of the range, filled where the entry was empty. -/
theorem mapFrames_tables {m : MemState} {fs : List Nat} {vaddr p w f : Nat}
    (h : (m.mapFrames fs vaddr).tables p w = some f) :
    m.tables p w = some f ∨
      (p = m.active ∧ m.tables p w = none ∧ f ∈ fs ∧
        ∃ i, i < fs.length ∧ w = (vaddr + i * pageSize) / pageSize) := by
  induction fs generalizing m vaddr with
  | nil => exact .inl h
  | cons g fs ih =>
      rcases ih h with h1 | ⟨hp, hn, hf, i, hi, hw⟩
      · rw [mapPage_tables] at h1
        split at h1
        · next hc =>
            obtain ⟨hp, hw, hn⟩ := hc
            cases h1
            exact .inr ⟨hp, hp ▸ hn, List.mem_cons_self, 0, by simp, by simpa using hw⟩
        · exact .inl h1
      · rw [mapPage_active] at hp
        rw [mapPage_tables] at hn
        split at hn
        · cases hn
        · refine .inr ⟨hp, hn, List.mem_cons_of_mem g hf, i + 1, by simpa using hi, ?_⟩
          rw [hw]; congr 1; ring

/-! ## Freeing frames -/

theorem deallocateFrames_cons (m : MemState) (f : Nat) (fs : List Nat) (o : FrameOwner) :
    m.deallocateFrames (f :: fs) o = (m.deallocateFrame f o).deallocateFrames fs o := rfl

@[simp] theorem deallocateFrames_tables (m : MemState) (fs : List Nat) (o : FrameOwner) :
    (m.deallocateFrames fs o).tables = m.tables := by
  induction fs generalizing m with
  | nil => rfl
  | cons f fs ih => rw [deallocateFrames_cons, ih]; rfl

@[simp] theorem deallocateFrames_active (m : MemState) (fs : List Nat) (o : FrameOwner) :
    (m.deallocateFrames fs o).active = m.active := by
  induction fs generalizing m with
  | nil => rfl
  | cons f fs ih => rw [deallocateFrames_cons, ih]; rfl

@[simp] theorem deallocateFrames_nextFrame (m : MemState) (fs : List Nat) (o : FrameOwner) :
    (m.deallocateFrames fs o).nextFrame = m.nextFrame := by
  induction fs generalizing m with
  | nil => rfl
  | cons f fs ih => rw [deallocateFrames_cons, ih]; rfl

/-! ## Other address spaces -/

section OtherSpace

variable {m : MemState} {q : Nat}

theorem setEntry_tables_of_ne (hq : q ≠ m.active) (vpn : Nat) (e : Option Nat) :
    (m.setEntry vpn e).tables q = m.tables q := by
  funext w
  simp [hq]

theorem mapPage_tables_of_ne (hq : q ≠ m.active) (virt f : Nat) :
    (m.mapPage virt f).tables q = m.tables q := by
  funext w
  simp [mapPage_tables, hq]

theorem mapFrames_tables_of_ne (hq : q ≠ m.active) (fs : List Nat) (vaddr : Nat) :
    (m.mapFrames fs vaddr).tables q = m.tables q := by
  induction fs generalizing m vaddr with
  | nil => rfl
  | cons f fs ih =>
      rw [mapFrames_cons, ih (by rwa [mapPage_active]), mapPage_tables_of_ne hq]

theorem unmapPages_tables_of_ne (hq : q ≠ m.active) (addrs : List Nat) (freeLeaf : Bool) :
    (m.unmapPages addrs freeLeaf).tables q = m.tables q := by
  funext w
  simp [unmapPages_tables, hq]

end OtherSpace

end MemState

end PandaOs.Memory
