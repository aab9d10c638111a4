import PandaOs.Memory.Paging
import PandaOs.Lib.Bytes
import PandaOs.Syscall.UserPtr

/-!
# Loading the segments of an ELF file

`load_elf` maps each `PT_LOAD` segment with `allocate_and_map` (fresh
zeroed frames over whole pages) and copies the segment's file bytes into
the new mapping with `Mapping::write_at`. Before that,
`validate_segment_security` keeps the segment below `USER_ADDR_MAX` and its
file range inside the file.

Two segments may share a page. The loader remembers where the previous
mapping ended, `last_segment_end`, and when a segment's first page lies
below it, starts the new mapping there and shortens it by the overlap. The
copy offset is then computed from the shifted start as
`virt_addr - aligned_virt_addr`, a `u64` subtraction: when the segment
itself starts below `last_segment_end` it wraps. The model computes it
modulo `2^64`, as a release build does, and records each segment whose
offset wrapped; a debug build panics there instead.

The model starts from the program headers `parse_elf` returns and the
file's bytes. A mapping is its start, its size and its bytes; the address
space they make is read with the latest mapping of an address winning, as
`allocate_and_map` overwrites page-table entries. Page permissions
(`update_permissions`) are not modelled.
-/

namespace PandaOs.Process

open PandaOs.Lib PandaOs.Memory

/-- `PT_LOAD`. -/
def ptLoad : Nat := 1

/-- `PF_X`. -/
def pfX : Nat := 1

/-- `PF_W`. -/
def pfW : Nat := 2

/-- `Elf64Phdr`. -/
structure Phdr where
  pType : Nat
  pFlags : Nat
  pOffset : Nat
  pVaddr : Nat
  pFilesz : Nat
  pMemsz : Nat
  deriving DecidableEq, Repr

/-- `Elf64Phdr::is_executable`. -/
def Phdr.isExecutable (h : Phdr) : Bool := h.pFlags &&& pfX != 0

/-- `ElfLoadError::InvalidElf` with its message. -/
inductive ElfLoadError where
  | invalidElf (msg : String)
  deriving DecidableEq, Repr

/-- `validate_segment_security`: the segment's end, or why it is refused. -/
def validateSegmentSecurity (h : Phdr) (fileSize : Nat) : Except ElfLoadError Nat :=
  if h.pVaddr > Syscall.userAddrMax then .error (.invalidElf "ELF segment p_vaddr in kernel space")
  else if h.pVaddr + h.pMemsz ≥ 2 ^ 64 then .error (.invalidElf "ELF segment address + size overflows")
  else if h.pVaddr + h.pMemsz > Syscall.userAddrMax then
    .error (.invalidElf "ELF segment extends into kernel space")
  else if h.pOffset + h.pFilesz ≥ 2 ^ 64 then .error (.invalidElf "ELF file offset + size overflows")
  else if h.pOffset + h.pFilesz > fileSize then
    .error (.invalidElf "ELF segment offset exceeds file size")
  else .ok (h.pVaddr + h.pMemsz)

/-- `(size + 4095) & !4095`. -/
def roundUpPage (size : Nat) : Nat := (size + pageSize - 1) / pageSize * pageSize

/-- A `Frames` mapping made by the loader, with its bytes. -/
structure ElfMapping where
  base : Nat
  size : Nat
  bytes : Nat → UInt8

/-- `Mapping::write_at`: the data from `offset`, cut at the mapping's end;
nothing when `offset` is past it. -/
def writeAt (mp : ElfMapping) (offset : Nat) (data : List UInt8) : ElfMapping :=
  if offset < mp.size then { mp with bytes := writeBytes mp.bytes offset (data.take (mp.size - offset)) }
  else mp

/-- The byte a mapping puts at address `a`, if it covers it. -/
def ElfMapping.read (mp : ElfMapping) (a : Nat) : Option UInt8 :=
  if mp.base ≤ a ∧ a < mp.base + mp.size then some (mp.bytes (a - mp.base)) else none

/-- The loaded address space: each address reads from the latest mapping
that covers it. -/
def readLoaded (ms : List ElfMapping) (a : Nat) : Option UInt8 :=
  ms.foldl (fun acc mp => (mp.read a).or acc) none

/-- What `load_elf` carries from one segment to the next, with the start
address of each segment whose copy offset wrapped. -/
structure LoadState where
  mappings : List ElfMapping
  lastSegmentEnd : Nat
  lastSegmentExecutable : Bool
  wrapped : List Nat

/-- The overlap adjustment: a segment whose first page lies below
`last_segment_end` is mapped from there, shortened by the overlap. -/
def skipOverlap (lastEnd aligned size : Nat) : Nat × Nat :=
  if aligned < lastEnd then
    let overlap := lastEnd - aligned
    (lastEnd, if size > overlap then size - overlap else 0)
  else (aligned, size)

/-- The start and size of what `load_elf` maps for a segment: from its
first page, or from `last_segment_end` when that lies above it. -/
def segmentPages (lastEnd : Nat) (h : Phdr) : Nat × Nat :=
  skipOverlap lastEnd (h.pVaddr - h.pVaddr % pageSize) (h.pMemsz + h.pVaddr % pageSize)

/-- One program header of the `load_elf` loop. -/
def loadSegment (fileData : List UInt8) (st : LoadState) (h : Phdr) : Except ElfLoadError LoadState :=
  if h.pType ≠ ptLoad then .ok st
  else
    match validateSegmentSecurity h fileData.length with
    | .error e => .error e
    | .ok _ =>
        let virt := h.pVaddr
        let mapped := segmentPages st.lastSegmentEnd h
        if mapped.2 > 0 then
          let fresh : ElfMapping := ⟨mapped.1, roundUpPage mapped.2, fun _ => 0⟩
          let src := (fileData.drop h.pOffset).take h.pFilesz
          -- `virt_addr - aligned_virt_addr` in `u64`
          let offset := (virt + 2 ^ 64 - mapped.1) % 2 ^ 64
          let wrapped := if virt < mapped.1 then st.wrapped ++ [virt] else st.wrapped
          .ok ⟨st.mappings ++ [writeAt fresh offset src], mapped.1 + roundUpPage mapped.2,
            h.isExecutable, wrapped⟩
        else .ok { st with lastSegmentExecutable := h.isExecutable }

/-- `load_elf` from the parsed program headers: the segments' mappings,
and the segments whose copy offset wrapped. -/
def loadElf (phdrs : List Phdr) (fileData : List UInt8) : Except ElfLoadError LoadState :=
  phdrs.foldlM (loadSegment fileData) ⟨[], 0, false, []⟩

/-! ## Lemmas -/

theorem skipOverlap_of_le {lastEnd aligned : Nat} (size : Nat) (h : lastEnd ≤ aligned) :
    skipOverlap lastEnd aligned size = (aligned, size) := by
  simp [skipOverlap, Nat.not_lt.mpr h]

theorem skipOverlap_of_lt {lastEnd aligned : Nat} (size : Nat) (h : aligned < lastEnd) :
    (skipOverlap lastEnd aligned size).1 = lastEnd := by
  simp [skipOverlap, h]

/-- The copy offset wraps exactly when the segment starts below the end of
the previous mapping. -/
theorem skipOverlap_fst_le_iff {lastEnd virt : Nat} (size : Nat) :
    virt < (skipOverlap lastEnd (virt - virt % pageSize) size).1 ↔ virt < lastEnd := by
  have hle : virt - virt % pageSize ≤ virt := Nat.sub_le _ _
  by_cases h : virt - virt % pageSize < lastEnd
  · rw [skipOverlap_of_lt size h]
  · rw [skipOverlap_of_le size (by omega)]
    omega

theorem skipOverlap_spec (lastEnd aligned size : Nat) :
    (aligned < lastEnd ∧ (skipOverlap lastEnd aligned size).1 = lastEnd ∧
        (skipOverlap lastEnd aligned size).2 =
          if size > lastEnd - aligned then size - (lastEnd - aligned) else 0) ∨
      (lastEnd ≤ aligned ∧ skipOverlap lastEnd aligned size = (aligned, size)) := by
  by_cases h : aligned < lastEnd
  · exact .inl ⟨h, by simp [skipOverlap, h], by simp [skipOverlap, h]⟩
  · exact .inr ⟨by omega, skipOverlap_of_le size (by omega)⟩

theorem validateSegmentSecurity_ok {h : Phdr} {fileSize e : Nat}
    (hv : validateSegmentSecurity h fileSize = .ok e) :
    h.pVaddr + h.pMemsz ≤ Syscall.userAddrMax ∧ h.pOffset + h.pFilesz ≤ fileSize := by
  unfold validateSegmentSecurity at hv
  split at hv
  · cases hv
  · split at hv
    · cases hv
    · split at hv
      · cases hv
      · split at hv
        · cases hv
        · split at hv
          · cases hv
          · constructor <;> omega

/-- Everything one program header can do to the loader's state: nothing,
for a header that is not `PT_LOAD`; record its flags, when nothing of it is
left to map; or append its mapping, move `last_segment_end` past it and
record the segment when its copy offset wrapped. -/
theorem loadSegment_cases {fileData : List UInt8} {st st' : LoadState} {h : Phdr}
    (hok : loadSegment fileData st h = .ok st') :
    h.pType ≠ ptLoad ∧ st' = st ∨
      (h.pType = ptLoad ∧ h.pVaddr + h.pMemsz ≤ Syscall.userAddrMax ∧
        h.pOffset + h.pFilesz ≤ fileData.length ∧
        ((segmentPages st.lastSegmentEnd h).2 = 0 ∧
            st' = { st with lastSegmentExecutable := h.isExecutable } ∨
          0 < (segmentPages st.lastSegmentEnd h).2 ∧
            st'.mappings = st.mappings ++
              [writeAt ⟨(segmentPages st.lastSegmentEnd h).1,
                  roundUpPage (segmentPages st.lastSegmentEnd h).2, fun _ => 0⟩
                ((h.pVaddr + 2 ^ 64 - (segmentPages st.lastSegmentEnd h).1) % 2 ^ 64)
                ((fileData.drop h.pOffset).take h.pFilesz)] ∧
            st'.lastSegmentEnd = (segmentPages st.lastSegmentEnd h).1 +
              roundUpPage (segmentPages st.lastSegmentEnd h).2 ∧
            st'.wrapped = if h.pVaddr < (segmentPages st.lastSegmentEnd h).1 then
              st.wrapped ++ [h.pVaddr] else st.wrapped)) := by
  unfold loadSegment at hok
  split at hok
  · next hty =>
      cases hok
      exact .inl ⟨hty, rfl⟩
  · next hty =>
      split at hok
      · cases hok
      · next e hv =>
          obtain ⟨hend, hfile⟩ := validateSegmentSecurity_ok hv
          refine .inr ⟨by simpa using hty, hend, hfile, ?_⟩
          dsimp only at hok
          split at hok
          · next hpos =>
              cases hok
              exact .inr ⟨hpos, rfl, rfl, rfl⟩
          · next hpos =>
              cases hok
              exact .inl ⟨by omega, rfl⟩

@[simp] theorem writeAt_base (mp : ElfMapping) (offset : Nat) (data : List UInt8) :
    (writeAt mp offset data).base = mp.base := by
  unfold writeAt
  split <;> rfl

@[simp] theorem writeAt_size (mp : ElfMapping) (offset : Nat) (data : List UInt8) :
    (writeAt mp offset data).size = mp.size := by
  unfold writeAt
  split <;> rfl

/-- A copy that starts past the mapping's end writes nothing. -/
theorem writeAt_of_size_le {mp : ElfMapping} {offset : Nat} (data : List UInt8)
    (h : mp.size ≤ offset) : writeAt mp offset data = mp := by
  simp [writeAt, Nat.not_lt.mpr h]

/-- The bytes of a fresh zeroed mapping after a copy at `offset`: the
data, cut at the mapping's end, and zeros elsewhere. -/
theorem writeAt_zero_bytes {base size offset : Nat} (data : List UInt8) (h : offset < size) (i : Nat)
    (hi : offset + i < size) :
    (writeAt ⟨base, size, fun _ => 0⟩ offset data).bytes (offset + i) = data.getD i 0 := by
  simp only [writeAt, if_pos h, writeBytes_add, List.length_take]
  by_cases hd : i < data.length
  · rw [if_pos (by omega), List.getD_eq_getElem?_getD, List.getElem?_take_of_lt (by omega),
      ← List.getD_eq_getElem?_getD]
  · rw [if_neg (by omega), List.getD_eq_default _ _ (by omega)]

theorem ElfMapping.read_of_lt_base {mp : ElfMapping} {a : Nat} (h : a < mp.base) :
    mp.read a = none := by
  simp [ElfMapping.read, Nat.not_le.mpr h]

theorem ElfMapping.read_of_mem {mp : ElfMapping} {a : Nat} (h₁ : mp.base ≤ a)
    (h₂ : a < mp.base + mp.size) : mp.read a = some (mp.bytes (a - mp.base)) := by
  simp [ElfMapping.read, h₁, h₂]

/-- Mappings that do not cover an address leave what it reads unchanged. -/
theorem readLoaded_append_of_none (ms : List ElfMapping) {more : List ElfMapping} {a : Nat}
    (h : ∀ mp ∈ more, mp.read a = none) : readLoaded (ms ++ more) a = readLoaded ms a := by
  unfold readLoaded
  rw [List.foldl_append]
  generalize ms.foldl (fun acc mp => (mp.read a).or acc) none = acc
  induction more generalizing acc with
  | nil => rfl
  | cons mp more ih =>
      rw [List.foldl_cons, h mp List.mem_cons_self, Option.none_or]
      exact ih (fun mp' hmp' => h mp' (List.mem_cons_of_mem _ hmp')) acc

/-- The latest mapping of an address wins. -/
theorem readLoaded_append_singleton (ms : List ElfMapping) {mp : ElfMapping} {a : Nat} {b : UInt8}
    (h : mp.read a = some b) : readLoaded (ms ++ [mp]) a = some b := by
  simp [readLoaded, h]

end PandaOs.Process
