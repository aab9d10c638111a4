import PandaOs.Process.Elf
import PandaOs.Lib.Run

/-!
# What `load_elf` puts in the address space

Every mapping the loader makes lies in user space: `validate_segment_security`
bounds each segment by `USER_ADDR_MAX`, and the overlap adjustment only
moves a mapping's start up to `last_segment_end`, which is itself a page
boundary below that bound (`loadElf_mappings_in_user_space`).

The copy is right when each segment starts on a page at or above the end
of the mappings before it: the segment's bytes then read as its file bytes
followed by zeros (`loadElf_loads_ascending`).

It goes wrong when a segment starts below `last_segment_end`, inside the
last page of the previous segment or before it. The mapping then starts at
`last_segment_end`, above the segment, and `virt_addr - aligned_virt_addr`
wraps: the copy lands nowhere, and the new mapping is all zeros
(`loadSegment_wrapped_zero`). The bytes of the segment below
`last_segment_end` keep whatever the earlier segment put there.
-/

namespace PandaOs.Process

open PandaOs.Lib PandaOs.Memory

/-! ## Mappings stay in user space -/

/-- What the loader keeps between segments: every mapping, and the end of
the last one, at or below `USER_ADDR_MAX + 1`, and that end a page boundary. -/
structure UserBounded (st : LoadState) : Prop where
  mappings : ∀ mp ∈ st.mappings, mp.base + mp.size ≤ Syscall.userAddrMax + 1
  lastEnd : st.lastSegmentEnd ≤ Syscall.userAddrMax + 1
  aligned : st.lastSegmentEnd % pageSize = 0

theorem userBounded_init : UserBounded ⟨[], 0, false, []⟩ :=
  ⟨by simp, by simp [Syscall.userAddrMax], by simp⟩

/-- What one segment maps ends on a page boundary in user space. -/
theorem segmentPages_end_le {lastEnd : Nat} {h : Phdr} (hlast : lastEnd ≤ Syscall.userAddrMax + 1)
    (halign : lastEnd % pageSize = 0) (hend : h.pVaddr + h.pMemsz ≤ Syscall.userAddrMax) :
    (segmentPages lastEnd h).1 + roundUpPage (segmentPages lastEnd h).2 ≤ Syscall.userAddrMax + 1 ∧
      ((segmentPages lastEnd h).1 + roundUpPage (segmentPages lastEnd h).2) % pageSize = 0 := by
  unfold segmentPages
  simp only [roundUpPage, pageSize, Syscall.userAddrMax] at *
  rcases skipOverlap_spec lastEnd (h.pVaddr - h.pVaddr % 4096) (h.pMemsz + h.pVaddr % 4096) with
    ⟨-, h₁, h₂⟩ | ⟨-, heq⟩
  · rw [h₁, h₂]
    split <;> omega
  · rw [heq]
    omega

theorem loadSegment_userBounded {fileData : List UInt8} {st st' : LoadState} {h : Phdr}
    (hI : UserBounded st) (hok : loadSegment fileData st h = .ok st') : UserBounded st' := by
  rcases loadSegment_cases hok with ⟨-, rfl⟩ | ⟨-, hend, -, ⟨-, rfl⟩ | ⟨-, hmaps, hlast, -⟩⟩
  · exact hI
  · exact ⟨hI.mappings, hI.lastEnd, hI.aligned⟩
  · obtain ⟨hle, hmod⟩ := segmentPages_end_le hI.lastEnd hI.aligned hend
    refine ⟨?_, hlast ▸ hle, hlast ▸ hmod⟩
    intro mp hmp
    rw [hmaps, List.mem_append, List.mem_singleton] at hmp
    rcases hmp with hmp | rfl
    · exact hI.mappings mp hmp
    · simpa using hle

theorem loadElf_userBounded {phdrs : List Phdr} {fileData : List UInt8} {st : LoadState}
    (hok : loadElf phdrs fileData = .ok st) : UserBounded st :=
  foldlM_except_inv (loadSegment fileData) UserBounded
    (fun _ _ _ hI hstep => loadSegment_userBounded hI hstep) phdrs _ _ userBounded_init hok

/-- Whatever the segments, every page `load_elf` maps lies below
`USER_ADDR_MAX + 1`. -/
theorem loadElf_mappings_in_user_space {phdrs : List Phdr} {fileData : List UInt8} {st : LoadState}
    (hok : loadElf phdrs fileData = .ok st) :
    ∀ mp ∈ st.mappings, mp.base + mp.size ≤ Syscall.userAddrMax + 1 :=
  (loadElf_userBounded hok).mappings

/-- Two page-aligned segments, one page apart. -/
def twoPageSegments : List Phdr :=
  [⟨ptLoad, 5, 0, 0x1000, 0x10, 0x800⟩, ⟨ptLoad, 6, 0x10, 0x2000, 0x10, 0x1000⟩]

/-- A file whose byte `i` is `i`. -/
def countingFile : List UInt8 := (List.range 0x20).map fun i => i.toUInt8

theorem twoPageSegments_ok : ∃ st, loadElf twoPageSegments countingFile = .ok st := by
  cases hst : loadElf twoPageSegments countingFile with
  | error e =>
      have hok : (loadElf twoPageSegments countingFile).toOption.isSome := by decide
      rw [hst] at hok
      cases hok
  | ok st => exact ⟨st, rfl⟩

theorem twoPageSegments_in_user_space :
    ∃ st, loadElf twoPageSegments countingFile = .ok st ∧
      ∀ mp ∈ st.mappings, mp.base + mp.size ≤ Syscall.userAddrMax + 1 := by
  obtain ⟨st, hst⟩ := twoPageSegments_ok
  exact ⟨st, hst, loadElf_mappings_in_user_space hst⟩

/-! ## A segment that starts below the previous mapping's end -/

/-- A mapped segment that starts below `last_segment_end` gets a mapping
from `last_segment_end` on with none of its bytes: its copy offset wrapped
past the mapping's end. -/
theorem loadSegment_wrapped_zero {fileData : List UInt8} {st st' : LoadState} {h : Phdr}
    (hI : UserBounded st) (hok : loadSegment fileData st h = .ok st') (hload : h.pType = ptLoad)
    (hmap : 0 < (segmentPages st.lastSegmentEnd h).2) (hlt : h.pVaddr < st.lastSegmentEnd) :
    st'.mappings = st.mappings ++
        [⟨(segmentPages st.lastSegmentEnd h).1, roundUpPage (segmentPages st.lastSegmentEnd h).2,
          fun _ => 0⟩] ∧
      st'.wrapped = st.wrapped ++ [h.pVaddr] := by
  rcases loadSegment_cases hok with ⟨hty, -⟩ | ⟨-, hend, -, ⟨hzero, -⟩ | ⟨-, hmaps, -, hwrapped⟩⟩
  · exact absurd hload hty
  · omega
  -- the mapping starts at `last_segment_end`, above the segment
  have hstart : h.pVaddr < (segmentPages st.lastSegmentEnd h).1 :=
    (skipOverlap_fst_le_iff _).mpr hlt
  obtain ⟨hle, -⟩ := segmentPages_end_le hI.lastEnd hI.aligned hend
  have hoff : roundUpPage (segmentPages st.lastSegmentEnd h).2 ≤
      (h.pVaddr + 2 ^ 64 - (segmentPages st.lastSegmentEnd h).1) % 2 ^ 64 := by
    rw [Nat.mod_eq_of_lt (by omega)]
    simp only [Syscall.userAddrMax] at hle
    omega
  refine ⟨?_, ?_⟩
  · rw [hmaps, writeAt_of_size_le _ hoff]
  · rw [hwrapped, if_pos hstart]

/-- Two segments sharing a page: a 16-byte one at `0x1000` whose memory
runs to `0x1800`, and one at `0x1800` taking its bytes from file offset `0x10`. -/
def sharedPageSegments : List Phdr :=
  [⟨ptLoad, 5, 0, 0x1000, 0x10, 0x800⟩, ⟨ptLoad, 6, 0x10, 0x1800, 0x10, 0x1000⟩]

/-- The second segment's copy offset wraps, and its first byte reads zero
where the file has `0x10`. -/
theorem shared_page_segment_not_loaded :
    (loadElf sharedPageSegments countingFile).toOption.map (·.wrapped) = some [0x1800] ∧
      (loadElf sharedPageSegments countingFile).toOption.map
          (fun st => readLoaded st.mappings 0x1800) = some (some 0) ∧
      countingFile[0x10]? = some 0x10 := by
  refine ⟨?_, ?_, ?_⟩ <;> decide

/-! ## Segments in ascending page order load correctly -/

/-- The first page of a segment. -/
def Phdr.firstPage (h : Phdr) : Nat := h.pVaddr - h.pVaddr % pageSize

/-- The page boundary after a segment's memory. -/
def Phdr.pageEnd (h : Phdr) : Nat := roundUpPage (h.pVaddr + h.pMemsz)

/-- What a segment's memory should hold: its file bytes, then zeros. -/
def Phdr.image (h : Phdr) (fileData : List UInt8) (i : Nat) : UInt8 :=
  ((fileData.drop h.pOffset).take h.pFilesz).getD i 0

/-- `a` comes before `b` in page order, when both are loaded. -/
def Phdr.PagesBefore (a b : Phdr) : Prop :=
  a.pType = ptLoad → b.pType = ptLoad → a.pageEnd ≤ b.firstPage

instance : DecidableRel Phdr.PagesBefore := fun a b =>
  inferInstanceAs (Decidable (a.pType = ptLoad → b.pType = ptLoad → a.pageEnd ≤ b.firstPage))

/-- A step never removes a mapping, never lowers `last_segment_end`, and
starts what it adds at or above it. -/
theorem loadSegment_extends {fileData : List UInt8} {st st' : LoadState} {h : Phdr}
    (hok : loadSegment fileData st h = .ok st') :
    ∃ more, st'.mappings = st.mappings ++ more ∧ (∀ mp ∈ more, st.lastSegmentEnd ≤ mp.base) ∧
      st.lastSegmentEnd ≤ st'.lastSegmentEnd := by
  rcases loadSegment_cases hok with ⟨-, rfl⟩ | ⟨-, -, -, ⟨-, rfl⟩ | ⟨-, hmaps, hlast, -⟩⟩
  · exact ⟨[], by simp, by simp, le_rfl⟩
  · exact ⟨[], by simp, by simp, le_rfl⟩
  · have hbase : st.lastSegmentEnd ≤ (segmentPages st.lastSegmentEnd h).1 := by
      unfold segmentPages
      rcases skipOverlap_spec st.lastSegmentEnd (h.pVaddr - h.pVaddr % pageSize)
        (h.pMemsz + h.pVaddr % pageSize) with ⟨-, h₁, -⟩ | ⟨hle, heq⟩
      · rw [h₁]
      · rw [heq]
        exact hle
    refine ⟨_, hmaps, ?_, by omega⟩
    intro mp hmp
    rw [List.mem_singleton] at hmp
    rw [hmp, writeAt_base]
    exact hbase

/-- The same over a run of segments. -/
theorem foldlM_loadSegment_extends (fileData : List UInt8) (phdrs : List Phdr) {st₀ st : LoadState}
    (hok : phdrs.foldlM (loadSegment fileData) st₀ = .ok st) :
    ∃ more, st.mappings = st₀.mappings ++ more ∧ ∀ mp ∈ more, st₀.lastSegmentEnd ≤ mp.base := by
  let I : LoadState → Prop := fun s => st₀.lastSegmentEnd ≤ s.lastSegmentEnd ∧
    ∃ more, s.mappings = st₀.mappings ++ more ∧ ∀ mp ∈ more, st₀.lastSegmentEnd ≤ mp.base
  have hstep : ∀ s h s', I s → loadSegment fileData s h = .ok s' → I s' := by
    rintro s h s' ⟨hle, more, hs, hmore⟩ hs'
    obtain ⟨more', hs'', hmore', hle'⟩ := loadSegment_extends hs'
    refine ⟨by omega, more ++ more', by rw [hs'', hs, List.append_assoc], ?_⟩
    intro mp hmp
    rcases List.mem_append.mp hmp with hmp | hmp
    · exact hmore mp hmp
    · exact le_trans hle (hmore' mp hmp)
  exact (foldlM_except_inv (loadSegment fileData) I hstep phdrs st₀ st
    ⟨le_rfl, [], by simp, by simp⟩ hok).2

/-- A loaded segment that starts on a page at or above `last_segment_end`
is mapped over exactly its pages, with its image at its addresses. -/
theorem loadSegment_of_ascending {fileData : List UInt8} {st st' : LoadState} {h : Phdr}
    (hok : loadSegment fileData st h = .ok st') (hload : h.pType = ptLoad)
    (hlast : st.lastSegmentEnd ≤ h.firstPage) :
    st.wrapped = st'.wrapped ∧
      (h.pMemsz = 0 ∧ st'.lastSegmentEnd = st.lastSegmentEnd ∨ st'.lastSegmentEnd = h.pageEnd) ∧
      ∀ i < h.pMemsz, ∃ mp : ElfMapping, st'.mappings = st.mappings ++ [mp] ∧
        mp.read (h.pVaddr + i) = some (h.image fileData i) := by
  have hpages : segmentPages st.lastSegmentEnd h =
      (h.pVaddr - h.pVaddr % pageSize, h.pMemsz + h.pVaddr % pageSize) :=
    skipOverlap_of_le _ hlast
  rcases loadSegment_cases hok with ⟨hty, -⟩ | ⟨-, hend, hfile, ⟨hzero, rfl⟩ | ⟨-, hmaps, hlast', hwrapped⟩⟩
  · exact absurd hload hty
  · -- nothing mapped: the segment is empty and starts on a page boundary
    rw [hpages] at hzero
    simp only at hzero
    exact ⟨rfl, .inl ⟨by omega, rfl⟩, fun i hi => by omega⟩
  rw [hpages] at hmaps hlast' hwrapped
  simp only [Syscall.userAddrMax] at hend
  have hmod : h.pVaddr % pageSize < pageSize := Nat.mod_lt _ (by decide)
  refine ⟨?_, .inr ?_, ?_⟩
  · rw [hwrapped, if_neg (by omega)]
  · rw [hlast']
    simp only [Phdr.pageEnd, roundUpPage, pageSize] at hmod ⊢
    omega
  intro i hi
  refine ⟨_, hmaps, ?_⟩
  -- the copy offset is the segment's offset in its first page
  have hoff : (h.pVaddr + 2 ^ 64 - (h.pVaddr - h.pVaddr % pageSize)) % 2 ^ 64 =
      h.pVaddr % pageSize := by
    simp only [pageSize] at hmod ⊢
    omega
  have hsize : h.pVaddr % pageSize + i < roundUpPage (h.pMemsz + h.pVaddr % pageSize) := by
    simp only [roundUpPage, pageSize] at hmod ⊢
    omega
  rw [hoff, ElfMapping.read_of_mem (by simp; omega) (by simp; omega)]
  simp only [writeAt_base]
  have hidx : h.pVaddr + i - (h.pVaddr - h.pVaddr % pageSize) = h.pVaddr % pageSize + i := by
    omega
  rw [hidx, writeAt_zero_bytes _ (by omega) i hsize]
  rfl

/-- The run of the loop over segments in ascending page order, from a
state whose `last_segment_end` lies below all of them. -/
theorem foldlM_loadSegment_ascending (fileData : List UInt8) :
    ∀ (phdrs : List Phdr) (st₀ st : LoadState), phdrs.Pairwise Phdr.PagesBefore →
      (∀ h ∈ phdrs, h.pType = ptLoad → st₀.lastSegmentEnd ≤ h.firstPage) →
      phdrs.foldlM (loadSegment fileData) st₀ = .ok st →
      st.wrapped = st₀.wrapped ∧ ∀ h ∈ phdrs, h.pType = ptLoad → ∀ i < h.pMemsz,
        readLoaded st.mappings (h.pVaddr + i) = some (h.image fileData i)
  | [], st₀, st, _, _, hok => by
      cases hok
      exact ⟨rfl, by simp⟩
  | h :: rest, st₀, st, hasc, hbelow, hok => by
      rw [List.foldlM_cons] at hok
      cases hst₁ : loadSegment fileData st₀ h with
      | error e => rw [hst₁] at hok; cases hok
      | ok st₁ =>
        rw [hst₁] at hok
        obtain ⟨hfirst, hrest⟩ := List.pairwise_cons.mp hasc
        -- after `h`, `last_segment_end` is still below every later segment
        have hbelow₁ : ∀ h' ∈ rest, h'.pType = ptLoad → st₁.lastSegmentEnd ≤ h'.firstPage := by
          intro h' hh' hload'
          by_cases hload : h.pType = ptLoad
          · rcases (loadSegment_of_ascending hst₁ hload (hbelow h List.mem_cons_self hload)).2.1
              with ⟨-, heq⟩ | heq
            · rw [heq]
              exact hbelow h' (List.mem_cons_of_mem _ hh') hload'
            · rw [heq]
              exact hfirst h' hh' hload hload'
          · rcases loadSegment_cases hst₁ with ⟨-, rfl⟩ | ⟨hty, -⟩
            · exact hbelow h' (List.mem_cons_of_mem _ hh') hload'
            · exact absurd hty hload
        obtain ⟨hwr, hih⟩ := foldlM_loadSegment_ascending fileData rest st₁ st hrest hbelow₁ hok
        refine ⟨?_, ?_⟩
        · by_cases hload : h.pType = ptLoad
          · rw [hwr, ← (loadSegment_of_ascending hst₁ hload (hbelow h List.mem_cons_self hload)).1]
          · rcases loadSegment_cases hst₁ with ⟨-, rfl⟩ | ⟨hty, -⟩
            · exact hwr
            · exact absurd hty hload
        intro h' hh' hload' i hi
        rcases List.mem_cons.mp hh' with rfl | hh'
        · obtain ⟨-, hend, hreads⟩ :=
            loadSegment_of_ascending hst₁ hload' (hbelow h' List.mem_cons_self hload')
          obtain ⟨mp, hmaps, hread⟩ := hreads i hi
          obtain ⟨more, hmore, hbase⟩ := foldlM_loadSegment_extends fileData rest hok
          -- what the later segments map starts past this segment's pages
          have hpast : h'.pVaddr + i < st₁.lastSegmentEnd := by
            rcases hend with ⟨hzero, -⟩ | heq
            · omega
            · rw [heq]
              simp only [Phdr.pageEnd, roundUpPage, pageSize]
              omega
          rw [hmore, readLoaded_append_of_none _ (fun mp' hmp' =>
            ElfMapping.read_of_lt_base (lt_of_lt_of_le hpast (hbase mp' hmp'))), hmaps,
            readLoaded_append_singleton _ hread]
        · exact hih h' hh' hload' i hi

/-- When every loaded segment starts on a page at or above the end of the
loaded segments before it, no copy offset wraps and each segment's memory
holds its file bytes followed by zeros. -/
theorem loadElf_loads_ascending {phdrs : List Phdr} {fileData : List UInt8} {st : LoadState}
    (hasc : phdrs.Pairwise Phdr.PagesBefore) (hok : loadElf phdrs fileData = .ok st) :
    st.wrapped = [] ∧ ∀ h ∈ phdrs, h.pType = ptLoad → ∀ i < h.pMemsz,
      readLoaded st.mappings (h.pVaddr + i) = some (h.image fileData i) :=
  foldlM_loadSegment_ascending fileData phdrs _ st hasc (fun _ _ _ => Nat.zero_le _) hok

theorem twoPageSegments_load :
    ∃ st, loadElf twoPageSegments countingFile = .ok st ∧ st.wrapped = [] ∧
      readLoaded st.mappings 0x2000 = some 0x10 := by
  obtain ⟨st, hst⟩ := twoPageSegments_ok
  obtain ⟨hwr, hreads⟩ := loadElf_loads_ascending (by decide) hst
  have hsecond := hreads ⟨ptLoad, 6, 0x10, 0x2000, 0x10, 0x1000⟩ (by simp [twoPageSegments]) rfl 0
    (by decide)
  refine ⟨st, hst, hwr, ?_⟩
  rw [show (0x2000 : Nat) = 0x2000 + 0 from rfl, hsecond]
  decide

end PandaOs.Process
