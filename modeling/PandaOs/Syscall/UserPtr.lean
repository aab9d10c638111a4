import PandaOs.Abi.Basic
import PandaOs.Lib.Bytes

/-!
# User pointers and the result of a syscall

`syscall/user_ptr.rs` separates naming user memory from touching it. A
`UserSlice` or `UserPtr` is just an address (and a length); only a
`UserAccess` token may dereference one, and the token exists only while the
calling process's page table is active. In the model the token is the
memory it dereferences: `UserAccess.write` and `UserAccess.writeUser` take
the byte memory of the address space that is active when they run, and
return it updated. Which address space that is, is the scheduler's
business, and the files that model the scheduler decide it.

Both accessors validate the range first: an empty range is always fine,
otherwise the end must not overflow a `usize` and the last byte must lie at
or below `USER_ADDR_MAX`. A `write` copies as many bytes as both the data
and the destination have room for.

A syscall future completes with a `SyscallResult`: the value for `rax` and
up to two copies to make into user memory afterwards, the byte `writeback`
and the 8-byte `handle_writeback`.
-/

namespace PandaOs.Syscall

open PandaOs.Abi PandaOs.Lib

/-- `USER_ADDR_MAX`: the top of the lower canonical half. -/
def userAddrMax : Nat := 0x0000_7fff_ffff_ffff

/-- `usize::MAX + 1`: where `checked_add` overflows. -/
def usizeLimit : Nat := 2 ^ 64

/-- `UserSlice`: an address and a length, not dereferenceable. -/
structure UserSlice where
  addr : Nat
  len : Nat
  deriving DecidableEq, Repr

/-- `SyscallError`. -/
inductive SyscallError where
  | BadUserPointer
  | InvalidHandle
  deriving DecidableEq, Repr

def SyscallError.toErrorCode : SyscallError → ErrorCode
  | .BadUserPointer => .InvalidArgument
  | .InvalidHandle => .InvalidHandle

/-- `UserAccess::validate`. -/
def UserAccess.validate (slice : UserSlice) : Except SyscallError Unit :=
  if slice.len = 0 then .ok ()
  else
    let stop := slice.addr + slice.len
    if stop ≥ usizeLimit then .error .BadUserPointer
    else if stop - 1 > userAddrMax then .error .BadUserPointer
    else .ok ()

/-- `UserAccess::write` into the active address space's memory: the number
of bytes copied and the memory after the copy. -/
def UserAccess.write (mem : Nat → UInt8) (dst : UserSlice) (data : List UInt8) :
    Except SyscallError (Nat × (Nat → UInt8)) :=
  match UserAccess.validate dst with
  | .error e => .error e
  | .ok () =>
      let n := min data.length dst.len
      .ok (n, writeBytes mem dst.addr (data.take n))

/-- `UserAccess::read`. -/
def UserAccess.read (mem : Nat → UInt8) (src : UserSlice) : Except SyscallError (List UInt8) :=
  match UserAccess.validate src with
  | .error e => .error e
  | .ok () => .ok (readBytes mem src.addr src.len)

/-- `UserAccess::write_user`, given the in-memory bytes of the value: a
`u64` is `leBytes v 8`, a `[u64; 2]` the two encodings one after the other. -/
def UserAccess.writeUser (mem : Nat → UInt8) (ptr : Nat) (value : List UInt8) :
    Except SyscallError (Nat → UInt8) :=
  match UserAccess.validate ⟨ptr, value.length⟩ with
  | .error e => .error e
  | .ok () => .ok (writeBytes mem ptr value)

/-- `WriteBack`: bytes to copy to a user slice once the future completes. -/
structure WriteBack where
  data : List UInt8
  dst : UserSlice
  deriving DecidableEq, Repr

/-- `HandleWriteBack`: a `u64` to copy to a user pointer. -/
structure HandleWriteBack where
  ptr : Nat
  value : Nat
  deriving DecidableEq, Repr

/-- `SyscallResult`. -/
structure SyscallResult where
  code : Int
  writeback : Option WriteBack
  handleWriteback : Option HandleWriteBack
  deriving DecidableEq, Repr

def SyscallResult.ok (code : Int) : SyscallResult := ⟨code, none, none⟩

def SyscallResult.err (code : ErrorCode) : SyscallResult := ⟨code.toIsize, none, none⟩

def SyscallResult.writeBack (code : Int) (data : List UInt8) (dst : UserSlice) : SyscallResult :=
  ⟨code, some ⟨data, dst⟩, none⟩

def SyscallResult.writeBackWithHandle (code : Int) (data : List UInt8) (dst : UserSlice)
    (handlePtr : Nat) (handleValue : Nat) : SyscallResult :=
  ⟨code, some ⟨data, dst⟩, some ⟨handlePtr, handleValue⟩⟩

/-- The outcome of polling a future once. -/
inductive Poll (α : Type) where
  | ready (a : α)
  | pending
  deriving DecidableEq, Repr

/-- A write that validates copies a prefix of the data to the destination
and leaves every other byte alone. -/
theorem UserAccess.write_ok {mem mem' : Nat → UInt8} {dst : UserSlice} {data : List UInt8}
    {n : Nat} (h : UserAccess.write mem dst data = .ok (n, mem')) :
    n = min data.length dst.len ∧ mem' = writeBytes mem dst.addr (data.take n) := by
  simp only [UserAccess.write] at h
  split at h
  · cases h
  · injection h with h
    injection h with h₁ h₂
    exact ⟨h₁.symm, by rw [← h₂, h₁]⟩

end PandaOs.Syscall
