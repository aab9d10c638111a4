import PandaOs.Process.Elf
import PandaOs.Lib.Frame

/-!
# `panda_elf`: the ELF header, program headers and named sections

`parse_elf` reads the ELF header and the program header table into the
caller's scratch buffer; `read_section` finds a section by name through the
section header table and its string table. Both read little-endian fields
with `data[offset]`, which panics past the end of the slice.

A run of either returns a value or panics, `Except Panic`. `usize` and `u64`
are 64 bits wide. The `checked_*` operations are tests against `2 ^ 64`;
the plain `+` and `*` on `usize` wrap modulo `2 ^ 64`, as a release build
does (a debug build panics on the overflow itself). The program headers are
`Phdr`s, as `load_elf` takes them.
-/

namespace PandaOs.Process

open PandaOs.Lib

/-- `ELF_MAGIC`. -/
def elfMagic : List UInt8 := [0x7f, 0x45, 0x4c, 0x46]

def elfclass64 : UInt8 := 2
def elfdata2lsb : UInt8 := 1

def sizeofEhdr : Nat := 64
def sizeofPhdr : Nat := 56
def sizeofShdr : Nat := 64

def eShoffOffset : Nat := 40
def eShentsizeOffset : Nat := 58
def eShnumOffset : Nat := 60
def eShstrndxOffset : Nat := 62

def shNameOffset : Nat := 0
def shOffsetOffset : Nat := 24
def shSizeOffset : Nat := 32

/-- A panic: an index past the end of a slice, with the index and the length. -/
inductive Panic where
  | indexOutOfBounds (index len : Nat)
  deriving DecidableEq, Repr

/-- `usize` addition of a release build. -/
def usizeAdd (a b : Nat) : Nat := (a + b) % 2 ^ 64

/-- `data[i]`. -/
def byteAt (data : List UInt8) (i : Nat) : Except Panic UInt8 :=
  match data[i]? with
  | some b => pure b
  | none => throw (.indexOutOfBounds i data.length)

/-- `&data[start..]`. -/
def sliceFrom (data : List UInt8) (start : Nat) : Except Panic (List UInt8) :=
  if start ≤ data.length then pure (data.drop start) else throw (.indexOutOfBounds start data.length)

/-- `read_u16_le`, `read_u32_le`, `read_u64_le`: the bytes `data[offset]`,
`data[offset + 1]`, ... in order, little-endian. -/
def readLe (data : List UInt8) (offset width : Nat) : Except Panic Nat := do
  let bytes ← (List.range width).mapM fun k => byteAt data (usizeAdd offset k)
  pure (leValue bytes)

/-- `ElfError`. -/
inductive ElfError where
  | fileTooSmall
  | invalidMagic
  | not64Bit
  | unsupportedEndianness
  | overflow (msg : String)
  | outOfBounds (msg : String)
  deriving DecidableEq, Repr

/-- `Elf64Header`. -/
structure Elf64Header where
  entry : Nat
  phoff : Nat
  phentsize : Nat
  phnum : Nat
  deriving DecidableEq, Repr

/-- `ParsedElf`, without the borrowed file bytes. -/
structure ParsedElf where
  header : Elf64Header
  programHeaders : List Phdr
  deriving DecidableEq, Repr

/-- `parse_phdr`. -/
def parsePhdr (data : List UInt8) : Except Panic Phdr := do
  let pType ← readLe data 0 4
  let pFlags ← readLe data 4 4
  let pOffset ← readLe data 8 8
  let pVaddr ← readLe data 16 8
  let pFilesz ← readLe data 32 8
  let pMemsz ← readLe data 40 8
  pure ⟨pType, pFlags, pOffset, pVaddr, pFilesz, pMemsz⟩

/-- The loop of `parse_elf` over the program header indices. -/
def phdrLoop (data : List UInt8) (phoff phentsize : Nat) : List Nat → Except Panic (Except ElfError (List Phdr))
  | [] => pure (.ok [])
  | i :: rest => do
      let base := usizeAdd phoff (i * phentsize % 2 ^ 64)
      if usizeAdd base sizeofPhdr > data.length then
        return .error (.outOfBounds "program header extends beyond file")
      let phdr ← parsePhdr (← sliceFrom data base)
      match ← phdrLoop data phoff phentsize rest with
      | .error e => pure (.error e)
      | .ok phdrs => pure (.ok (phdr :: phdrs))

/-- `parse_elf`, with a scratch buffer of `bufLen` program headers. -/
def parseElf (data : List UInt8) (bufLen : Nat) : Except Panic (Except ElfError ParsedElf) := do
  if data.length < sizeofEhdr then return .error .fileTooSmall
  if data.take 4 ≠ elfMagic then return .error .invalidMagic
  if (← byteAt data 4) ≠ elfclass64 then return .error .not64Bit
  if (← byteAt data 5) ≠ elfdata2lsb then return .error .unsupportedEndianness
  let entry ← readLe data 24 8
  let phoff ← readLe data 32 8
  let phentsize ← readLe data 54 2
  let phnum ← readLe data 56 2
  if phentsize * phnum ≥ 2 ^ 64 then return .error (.overflow "program header table size overflows")
  let phdrEnd := phoff + phentsize * phnum
  if phdrEnd ≥ 2 ^ 64 then return .error (.overflow "program header table offset + size overflows")
  if phdrEnd > data.length then return .error (.outOfBounds "program header table extends beyond file")
  let count := phnum
  if bufLen < count then return .error (.outOfBounds "program header buffer too small")
  match ← phdrLoop data phoff phentsize (List.range count) with
  | .error e => pure (.error e)
  | .ok phdrs => pure (.ok ⟨⟨entry, phoff, phentsize, phnum⟩, phdrs⟩)

/-- `read_shdr_fields`: `sh_name`, `sh_offset` and `sh_size` of the entry at `base`. -/
def readShdrFields (data : List UInt8) (base : Nat) : Except Panic (Option (Nat × Nat × Nat)) := do
  if usizeAdd base sizeofShdr > data.length then return none
  let nameOff ← readLe data (usizeAdd base shNameOffset) 4
  let offset ← readLe data (usizeAdd base shOffsetOffset) 8
  let size ← readLe data (usizeAdd base shSizeOffset) 8
  pure (some (nameOff, offset, size))

/-- `slice_at`: `data[start..start + len]`, checked. -/
def sliceAt (data : List UInt8) (start len : Nat) : Option (List UInt8) :=
  if start + len ≥ 2 ^ 64 then none
  else if start + len > data.length then none
  else some ((data.drop start).take len)

/-- `strtab_str_at`: the string at `offset`, up to its NUL or the table's end. -/
def strtabStrAt (strtab : List UInt8) (offset : Nat) : Option (List UInt8) :=
  if offset > strtab.length then none
  else some ((strtab.drop offset).takeWhile (· ≠ 0))

/-- The loop of `read_section` over the section header indices. -/
def sectionLoop (elfBytes strtab name : List UInt8) (shoff shentsize : Nat) :
    List Nat → Except Panic (Option (List UInt8))
  | [] => pure none
  | i :: rest => do
      -- `(shoff as usize).checked_add(i.checked_mul(shentsize)?)?`
      if i * shentsize ≥ 2 ^ 64 then return none
      let base := shoff + i * shentsize
      if base ≥ 2 ^ 64 then return none
      match ← readShdrFields elfBytes base with
      | none => pure none
      | some (nameOff, shOffset, shSize) =>
          match strtabStrAt strtab nameOff with
          | none => pure none
          | some shName =>
              if shName = name then pure (sliceAt elfBytes shOffset shSize)
              else sectionLoop elfBytes strtab name shoff shentsize rest

/-- `read_section`. -/
def readSection (elfBytes : List UInt8) (name : String) : Except Panic (Option (List UInt8)) := do
  if elfBytes.length < sizeofEhdr then return none
  if elfBytes.take 4 ≠ elfMagic then return none
  if (← byteAt elfBytes 4) ≠ elfclass64 then return none
  if (← byteAt elfBytes 5) ≠ elfdata2lsb then return none
  let shoff ← readLe elfBytes eShoffOffset 8
  let shentsize ← readLe elfBytes eShentsizeOffset 2
  let shnum ← readLe elfBytes eShnumOffset 2
  let shstrndx ← readLe elfBytes eShstrndxOffset 2
  if shnum = 0 ∨ shentsize < sizeofShdr then return none
  if shstrndx * shentsize ≥ 2 ^ 64 then return none
  let strtabShdrBase := shoff + shstrndx * shentsize
  if strtabShdrBase ≥ 2 ^ 64 then return none
  match ← readShdrFields elfBytes strtabShdrBase with
  | none => pure none
  | some (_, strtabOff, strtabSize) =>
      match sliceAt elfBytes strtabOff strtabSize with
      | none => pure none
      | some strtab => sectionLoop elfBytes strtab (utf8Bytes name) shoff shentsize (List.range shnum)

end PandaOs.Process
