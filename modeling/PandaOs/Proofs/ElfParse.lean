import PandaOs.Process.ElfParse

/-!
# `parse_elf` reads in bounds; `read_section` wraps near the top

Both parsers read their fields through `data[offset]`, so an index past the
end panics. `parse_elf` tests the whole program header table against the
file with checked arithmetic before its loop, so on any slice (shorter than
`2 ^ 63` bytes, as every Rust slice of bytes is) it returns, and an `Ok`
holds exactly `e_phnum` headers, each decoded from the bytes at
`e_phoff + i * e_phentsize`, all of them inside the file
(`parse_elf_reads_in_bounds`).

`read_section` computes the base of each section header with checked
arithmetic too, but `read_shdr_fields` then tests `base + SIZEOF_SHDR`
with a plain `+`. A section header table that starts within 64 bytes of
`2 ^ 64` wraps that sum to a small number, the test passes, and the first
read indexes `data[base]`: `read_section_wrapped_base_panics` runs it on a
64-byte header. A debug build panics one step earlier, on the overflow
itself. Away from the top of the address space nothing wraps and
`read_section` always returns (`read_section_panic_free_below_top`).
-/

namespace PandaOs.Process

open PandaOs.Lib

theorem usizeAdd_of_lt {a b : Nat} (h : a + b < 2 ^ 64) : usizeAdd a b = a + b :=
  Nat.mod_eq_of_lt h

/-- The little-endian field of `width` bytes at `offset`. -/
def leField (bytes : List UInt8) (offset width : Nat) : Nat :=
  leValue ((bytes.drop offset).take width)

theorem leField_lt (bytes : List UInt8) (offset width : Nat) : leField bytes offset width < 256 ^ width :=
  calc leField bytes offset width < 256 ^ ((bytes.drop offset).take width).length := leValue_lt _
    _ ≤ 256 ^ width := Nat.pow_le_pow_right (by decide) (List.length_take_le _ _)

/-- Two `u16` header fields multiply to less than `2 ^ 32`. -/
theorem mul_leField_lt (bytes : List UInt8) {a : Nat} (ha : a < 2 ^ 16) (offset : Nat) :
    a * leField bytes offset 2 < 2 ^ 32 :=
  calc a * leField bytes offset 2 < 2 ^ 16 * 2 ^ 16 := Nat.mul_lt_mul'' ha (leField_lt bytes offset 2)
    _ = 2 ^ 32 := by norm_num

section Reads

variable {data : List UInt8}

theorem byteAt_of_lt {i : Nat} (h : i < data.length) : byteAt data i = .ok data[i] := by
  simp [byteAt, List.getElem?_eq_getElem h, pure, Except.pure]

/-- The bytes of an in-bounds range, read one index at a time. -/
theorem mapM_byteAt (offset : Nat) (hlen : data.length ≤ 2 ^ 64) : ∀ w, offset + w ≤ data.length →
    (List.range w).mapM (fun k => byteAt data (usizeAdd offset k)) = .ok ((data.drop offset).take w)
  | 0, _ => rfl
  | w + 1, h => by
    have hlt : offset + w < data.length := by omega
    rw [List.range_succ, List.mapM_append, mapM_byteAt offset hlen w (by omega),
      List.mapM_cons, List.mapM_nil, usizeAdd_of_lt (by omega), byteAt_of_lt hlt]
    simp [List.take_add_one, hlt, bind, Except.bind, pure, Except.pure]

theorem readLe_of_le {offset width : Nat} (hlen : data.length ≤ 2 ^ 64)
    (h : offset + width ≤ data.length) :
    readLe data offset width = .ok (leField data offset width) := by
  rw [readLe, mapM_byteAt offset hlen width h]
  rfl

end Reads

/-! ## `parse_elf` -/

/-- The program header that the bytes of an entry spell, field by field. -/
def Phdr.ofBytes (bytes : List UInt8) : Phdr :=
  ⟨leField bytes 0 4, leField bytes 4 4, leField bytes 8 8, leField bytes 16 8, leField bytes 32 8,
    leField bytes 40 8⟩

theorem parsePhdr_of_le {bytes : List UInt8} (hlen : bytes.length ≤ 2 ^ 64) (h : 48 ≤ bytes.length) :
    parsePhdr bytes = .ok (Phdr.ofBytes bytes) := by
  simp only [parsePhdr, readLe_of_le hlen (show 0 + 4 ≤ bytes.length by omega),
    readLe_of_le hlen (show 4 + 4 ≤ bytes.length by omega), readLe_of_le hlen (show 8 + 8 ≤ bytes.length by omega),
    readLe_of_le hlen (show 16 + 8 ≤ bytes.length by omega), readLe_of_le hlen (show 32 + 8 ≤ bytes.length by omega),
    readLe_of_le hlen (show 40 + 8 ≤ bytes.length by omega)]
  rfl

/-- Where the `i`-th program header starts. -/
def phdrBase (phoff phentsize i : Nat) : Nat := phoff + i * phentsize

/-- The loop over headers that start inside the file: it decodes every one,
or stops at the first that runs past the end. -/
theorem phdrLoop_eq {data : List UInt8} {phoff phentsize : Nat} (hlen : data.length + sizeofPhdr < 2 ^ 64) :
    ∀ is : List Nat, (∀ i ∈ is, phdrBase phoff phentsize i ≤ data.length) →
      phdrLoop data phoff phentsize is =
        .ok (if is.all (fun i => phdrBase phoff phentsize i + sizeofPhdr ≤ data.length) then
          .ok (is.map fun i => Phdr.ofBytes (data.drop (phdrBase phoff phentsize i)))
        else .error (.outOfBounds "program header extends beyond file"))
  | [], _ => rfl
  | i :: rest, h => by
    have hi := h i (List.mem_cons_self ..)
    unfold phdrBase at hi
    -- the header starts inside the file, so neither sum of the loop wraps
    have hbase : usizeAdd phoff (i * phentsize % 2 ^ 64) = phdrBase phoff phentsize i := by
      rw [Nat.mod_eq_of_lt (by omega), usizeAdd_of_lt (by omega)]; rfl
    have hend : usizeAdd (phdrBase phoff phentsize i) sizeofPhdr = phdrBase phoff phentsize i + sizeofPhdr :=
      usizeAdd_of_lt (by unfold phdrBase; omega)
    rw [phdrLoop, hbase, hend]
    by_cases hout : phdrBase phoff phentsize i + sizeofPhdr > data.length
    · have hall : (i :: rest).all (fun i => phdrBase phoff phentsize i + sizeofPhdr ≤ data.length) = false := by
        simp only [List.all_cons]; simp; omega
      rw [if_pos hout, hall]
      rfl
    · have hslice : sliceFrom data (phdrBase phoff phentsize i) = .ok (data.drop (phdrBase phoff phentsize i)) :=
        if_pos (by omega)
      have hphdr := @parsePhdr_of_le (data.drop (phdrBase phoff phentsize i)) (by simp; omega)
        (by simp [sizeofPhdr] at hout ⊢; omega)
      have hrest := phdrLoop_eq hlen rest fun j hj => h j (List.mem_cons_of_mem _ hj)
      rw [if_neg hout]
      simp only [hslice, hphdr, hrest, bind, Except.bind, pure, Except.pure]
      by_cases hr : rest.all (fun i => phdrBase phoff phentsize i + sizeofPhdr ≤ data.length)
      · simp [hr, hout]
      · simp [hr]

theorem parse_elf_reads_in_bounds (data : List UInt8) (bufLen : Nat) (hlen : data.length < 2 ^ 63) :
    ∃ r, parseElf data bufLen = .ok r ∧ ∀ p, r = .ok p →
      p.header = ⟨leField data 24 8, leField data 32 8, leField data 54 2, leField data 56 2⟩ ∧
      p.programHeaders.length = p.header.phnum ∧
      ∀ i < p.header.phnum, phdrBase p.header.phoff p.header.phentsize i + sizeofPhdr ≤ data.length ∧
        p.programHeaders[i]? = some (Phdr.ofBytes (data.drop (phdrBase p.header.phoff p.header.phentsize i))) := by
  unfold parseElf
  split
  · exact ⟨_, rfl, by simp⟩
  rename_i hsmall
  have hehdr : 64 ≤ data.length := by simpa [sizeofEhdr] using hsmall
  have h64 : data.length ≤ 2 ^ 64 := by omega
  simp only [byteAt_of_lt (show 4 < data.length by omega), byteAt_of_lt (show 5 < data.length by omega),
    readLe_of_le h64 (show 24 + 8 ≤ data.length by omega), readLe_of_le h64 (show 32 + 8 ≤ data.length by omega),
    readLe_of_le h64 (show 54 + 2 ≤ data.length by omega), readLe_of_le h64 (show 56 + 2 ≤ data.length by omega),
    bind, Except.bind]
  split_ifs with hmagic hclass hdata hmul hadd hend hbuf
  all_goals try exact ⟨_, rfl, by simp⟩
  -- every header of the table starts inside the file, which bounds the loop's arithmetic
  have hin : ∀ i ∈ List.range (leField data 56 2),
      phdrBase (leField data 32 8) (leField data 54 2) i ≤ data.length := by
    intro i hi
    have hle : i * leField data 54 2 ≤ leField data 54 2 * leField data 56 2 := by
      rw [Nat.mul_comm]; exact Nat.mul_le_mul_left _ (List.mem_range.mp hi).le
    unfold phdrBase; omega
  rw [phdrLoop_eq (by simp [sizeofPhdr]; omega) _ hin]
  split_ifs with hall
  · refine ⟨_, rfl, ?_⟩
    rintro p ⟨⟩
    refine ⟨rfl, by simp, fun i hi => ?_⟩
    have hmem : i ∈ List.range (leField data 56 2) := List.mem_range.mpr hi
    exact ⟨by simpa using List.all_eq_true.mp hall i hmem, by simp [hi]⟩
  · exact ⟨_, rfl, by simp⟩

/-- An executable with one program header at offset 64 and no section headers. -/
def oneHeaderElf : List UInt8 :=
  elfMagic ++ [elfclass64, elfdata2lsb] ++ List.replicate 18 0 ++ leBytes 0x401000 8 ++ leBytes 64 8 ++
    List.replicate 14 0 ++ leBytes 56 2 ++ leBytes 1 2 ++ List.replicate 6 0 ++
    (leBytes 1 4 ++ leBytes 5 4 ++ leBytes 0 8 ++ leBytes 0x400000 8 ++ leBytes 0x400000 8 ++
      leBytes 120 8 ++ leBytes 120 8 ++ leBytes 0x1000 8)

theorem parse_elf_reads_in_bounds_one :
    ∃ r, parseElf oneHeaderElf 1 = .ok r ∧ ∀ p, r = .ok p →
      p.header = ⟨leField oneHeaderElf 24 8, leField oneHeaderElf 32 8, leField oneHeaderElf 54 2,
        leField oneHeaderElf 56 2⟩ ∧
      p.programHeaders.length = p.header.phnum ∧
      ∀ i < p.header.phnum, phdrBase p.header.phoff p.header.phentsize i + sizeofPhdr ≤ oneHeaderElf.length ∧
        p.programHeaders[i]? =
          some (Phdr.ofBytes (oneHeaderElf.drop (phdrBase p.header.phoff p.header.phentsize i))) :=
  parse_elf_reads_in_bounds oneHeaderElf 1 (by decide)

/-! ## `read_section` -/

/-- A section header that does not reach past `2 ^ 64`: `read_shdr_fields`
reads its three fields when it lies inside the file. -/
theorem readShdrFields_of_lt {data : List UInt8} {base : Nat} (hlen : data.length ≤ 2 ^ 64)
    (hbase : base + sizeofShdr < 2 ^ 64) :
    readShdrFields data base = .ok (if base + sizeofShdr > data.length then none
      else some (leField data base 4, leField data (base + 24) 8, leField data (base + 32) 8)) := by
  unfold readShdrFields
  rw [usizeAdd_of_lt hbase]
  split_ifs with hout
  · rfl
  · simp only [sizeofShdr, shNameOffset, shOffsetOffset, shSizeOffset] at hout hbase ⊢
    rw [usizeAdd_of_lt (by omega), usizeAdd_of_lt (by omega), usizeAdd_of_lt (by omega),
      readLe_of_le hlen (by omega), readLe_of_le hlen (by omega), readLe_of_le hlen (by omega)]
    rfl

theorem sectionLoop_ok {elfBytes strtab name : List UInt8} {shoff shentsize : Nat}
    (hlen : elfBytes.length ≤ 2 ^ 64) :
    ∀ is : List Nat, (∀ i ∈ is, shoff + i * shentsize + sizeofShdr < 2 ^ 64) →
      ∃ r, sectionLoop elfBytes strtab name shoff shentsize is = .ok r
  | [], _ => ⟨_, rfl⟩
  | i :: rest, h => by
    have hi := h i (List.mem_cons_self ..)
    obtain ⟨r, hr⟩ := sectionLoop_ok hlen rest fun j hj => h j (List.mem_cons_of_mem _ hj)
    unfold sectionLoop
    rw [if_neg (by omega), if_neg (by omega), readShdrFields_of_lt hlen hi]
    split_ifs
    · exact ⟨_, rfl⟩
    · simp only [bind, Except.bind]
      split
      · exact ⟨_, rfl⟩
      · split_ifs
        · exact ⟨_, rfl⟩
        · exact ⟨r, hr⟩

theorem read_section_panic_free_below_top (elfBytes : List UInt8) (name : String)
    (hlen : elfBytes.length < 2 ^ 63)
    (hoff : leField elfBytes eShoffOffset 8 + 2 ^ 32 + sizeofShdr ≤ 2 ^ 64) :
    ∃ r, readSection elfBytes name = .ok r := by
  unfold readSection
  split
  · exact ⟨_, rfl⟩
  rename_i hsmall
  have h64 : elfBytes.length ≤ 2 ^ 64 := by omega
  simp only [sizeofEhdr, eShoffOffset, eShentsizeOffset, eShnumOffset, eShstrndxOffset] at hsmall hoff ⊢
  simp only [byteAt_of_lt (show 4 < elfBytes.length by omega), byteAt_of_lt (show 5 < elfBytes.length by omega),
    readLe_of_le h64 (show 40 + 8 ≤ elfBytes.length by omega),
    readLe_of_le h64 (show 58 + 2 ≤ elfBytes.length by omega),
    readLe_of_le h64 (show 60 + 2 ≤ elfBytes.length by omega),
    readLe_of_le h64 (show 62 + 2 ≤ elfBytes.length by omega), bind, Except.bind]
  split_ifs with hmagic hclass hdata hnone hmul hbase
  all_goals try exact ⟨_, rfl⟩
  -- every header base is `e_shoff` plus a product of two `u16`s, so `base + 64` stays below `2 ^ 64`
  have hstr := mul_leField_lt elfBytes (leField_lt elfBytes 62 2) 58
  rw [readShdrFields_of_lt h64 (by omega)]
  split_ifs
  · exact ⟨_, rfl⟩
  · dsimp only
    split
    · exact ⟨_, rfl⟩
    · refine sectionLoop_ok h64 _ fun i hi => ?_
      have hi16 : i < 2 ^ 16 := (List.mem_range.mp hi).trans (leField_lt elfBytes 60 2)
      have := mul_leField_lt elfBytes hi16 58
      omega

theorem read_section_panic_free_below_top_one :
    ∃ r, readSection oneHeaderElf ".panda_devices.pci" = .ok r :=
  read_section_panic_free_below_top oneHeaderElf ".panda_devices.pci" (by decide) (by decide)

/-- A 64-byte header that passes every check of `read_section`, with one
section header of 64 bytes at `e_shoff = 2 ^ 64 - 32`, the string table's. -/
def shoffNearTopElf : List UInt8 :=
  elfMagic ++ [elfclass64, elfdata2lsb] ++ List.replicate 34 0 ++ leBytes (2 ^ 64 - 32) 8 ++
    List.replicate 10 0 ++ leBytes 64 2 ++ leBytes 1 2 ++ leBytes 0 2

/-- `base + SIZEOF_SHDR` wraps to 32, which passes the bounds test, and
`data[base]` is read past the end. -/
theorem read_section_wrapped_base_panics (name : String) :
    readSection shoffNearTopElf name = .error (.indexOutOfBounds (2 ^ 64 - 32) 64) :=
  rfl

end PandaOs.Process
