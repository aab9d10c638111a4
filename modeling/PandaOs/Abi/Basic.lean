import Mathlib

/-!
# The kernel ABI: limits, handle tags and error codes

`panda-abi/src/lib.rs` is the contract between the kernel and userspace, and
the parts of it the kernel's own logic reads are collected here: the channel
limits, the user address-space layout, the tagged handle format and the
error codes a syscall returns in `rax`.

A handle is one machine word: the type tag in the top 8 bits and the handle
id in the low 56. The source builds and splits it with shifts and masks, and
the model keeps those operations; the lemmas at the end of the handle
section turn them into arithmetic once, so that no later proof has to reason
about bits. The one fact everything downstream needs is that a handle made
from an id in range gives that id and that tag back.
-/

namespace PandaOs.Abi

/-! ## Channel limits -/

/-- `MAX_MESSAGE_SIZE`: the largest channel message, in bytes. -/
def maxMessageSize : Nat := 4096

/-- `DEFAULT_QUEUE_CAPACITY`: the number of messages a channel direction
queues before `send` reports `QueueFull`. -/
def defaultQueueCapacity : Nat := 16

/-! ## User address-space layout -/

/-- `BUFFER_BASE`: start of the region `OP_BUFFER_ALLOC` hands out. -/
def bufferBase : Nat := 0x0000_0100_0000_0000

/-- `BUFFER_MAX_SIZE`: 4 GiB of buffer address space. -/
def bufferMaxSize : Nat := 0x1_0000_0000

/-- `STACK_BASE`: bottom of the demand-paged stack region. -/
def stackBase : Nat := 0x0000_7fff_fef0_0000

/-- `STACK_MAX_SIZE`: 16 MiB of stack address space. -/
def stackMaxSize : Nat := 0x100_0000

/-- `HEAP_BASE`: the lowest address `brk` can cover. -/
def heapBase : Nat := 0x0000_0001_0000_0000

/-- `HEAP_MAX_SIZE`: 1 TiB of heap address space. -/
def heapMaxSize : Nat := 0x100_0000_0000

/-- `MAX_BUFFER_SIZE`: the largest buffer `OP_BUFFER_ALLOC` makes. -/
def maxBufferSize : Nat := 16 * 1024 * 1024

/-- `MAX_MAILBOX_EVENTS`: the bound on a mailbox's pending queue. -/
def maxMailboxEvents : Nat := 256

/-! ## Tagged handles -/

/-- `HandleType`, the 8-bit type tag of a handle. -/
inductive HandleType where
  | Invalid
  | File
  | Directory
  | Channel
  | Process
  | Mailbox
  | Buffer
  | Display
  | DeviceSubscription
  deriving DecidableEq, Repr

/-- The `#[repr(u8)]` discriminant of each tag. -/
def HandleType.tag : HandleType → Nat
  | .Invalid => 0x00
  | .File => 0x01
  | .Directory => 0x02
  | .Channel => 0x10
  | .Process => 0x11
  | .Mailbox => 0x20
  | .Buffer => 0x31
  | .Display => 0x32
  | .DeviceSubscription => 0x40

/-- `ID_BITS`. -/
def idBits : Nat := 56

/-- `ID_MASK`: the low 56 bits. -/
def idMask : Nat := 2 ^ idBits - 1

theorem idMask_eq : idMask = 2 ^ idBits - 1 := rfl

/-- `MAX_ID`, the largest id a handle can carry. -/
def maxId : Nat := idMask

/-- `HandleType::make_handle`. -/
def HandleType.makeHandle (t : HandleType) (id : Nat) : Nat :=
  (t.tag <<< idBits) ||| (id &&& idMask)

/-- `HandleType::from_handle`: the tag byte (`as u8` keeps the low 8 bits). -/
def fromHandle (handle : Nat) : Nat := (handle >>> idBits) % 256

/-- `HandleType::id_from_handle`. -/
def idFromHandle (handle : Nat) : Nat := handle &&& idMask

/-- `WellKnownHandle`: ids 0 to 6 under their own tags. `ENVIRONMENT` is a
bare sentinel with no resource behind it. -/
def handleStdin : Nat := HandleType.Channel.makeHandle 0

def handleStdout : Nat := HandleType.Channel.makeHandle 1

def handleStderr : Nat := HandleType.Channel.makeHandle 2

def handleProcess : Nat := HandleType.Process.makeHandle 3

def handleEnvironment : Nat := 4

def handleMailbox : Nat := HandleType.Mailbox.makeHandle 5

def handleParent : Nat := HandleType.Channel.makeHandle 6

/-- The first id `HandleTable::new` hands out: 0 to 6 are reserved. -/
def firstUserId : Nat := 7

/-- `CHANNEL_NONBLOCK`. -/
def channelNonblock : Nat := 1

theorem HandleType.tag_lt (t : HandleType) : t.tag < 256 := by
  cases t <;> decide

/-- `make_handle` is arithmetic: the tag above the id's low 56 bits. -/
theorem HandleType.makeHandle_eq (t : HandleType) (id : Nat) :
    t.makeHandle id = t.tag * 2 ^ idBits + id % 2 ^ idBits := by
  have hlt : id % 2 ^ idBits < 2 ^ idBits := Nat.mod_lt _ (Nat.two_pow_pos _)
  rw [makeHandle, idMask_eq, Nat.and_two_pow_sub_one_eq_mod,
    ← Nat.shiftLeft_add_eq_or_of_lt hlt, Nat.shiftLeft_eq]

@[simp]
theorem idFromHandle_makeHandle (t : HandleType) (id : Nat) :
    idFromHandle (t.makeHandle id) = id % 2 ^ idBits := by
  rw [idFromHandle, idMask_eq, Nat.and_two_pow_sub_one_eq_mod, HandleType.makeHandle_eq,
    Nat.mul_comm, Nat.mul_add_mod, Nat.mod_mod]

@[simp]
theorem fromHandle_makeHandle (t : HandleType) (id : Nat) :
    fromHandle (t.makeHandle id) = t.tag := by
  have hlt : id % 2 ^ idBits < 2 ^ idBits := Nat.mod_lt _ (Nat.two_pow_pos _)
  rw [fromHandle, HandleType.makeHandle_eq, Nat.shiftRight_eq_div_pow,
    Nat.mul_comm, Nat.mul_add_div (Nat.two_pow_pos _), Nat.div_eq_of_lt hlt, Nat.add_zero]
  exact Nat.mod_eq_of_lt t.tag_lt

/-- A handle made from an id in range carries that id. -/
theorem idFromHandle_makeHandle_of_le {t : HandleType} {id : Nat} (h : id ≤ maxId) :
    idFromHandle (t.makeHandle id) = id := by
  rw [idFromHandle_makeHandle]
  apply Nat.mod_eq_of_lt
  have : 0 < 2 ^ idBits := Nat.two_pow_pos _
  simp only [maxId, idMask_eq] at h
  omega

/-! ## Error codes -/

/-- `ErrorCode`, the negated discriminant a failed syscall returns. -/
inductive ErrorCode where
  | Ok
  | NotFound
  | InvalidOffset
  | NotReadable
  | NotWritable
  | NotSeekable
  | NotSupported
  | PermissionDenied
  | IoError
  | WouldBlock
  | InvalidArgument
  | Protocol
  | InvalidHandle
  | TooManyHandles
  | ChannelClosed
  | MessageTooLarge
  | BufferTooSmall
  | AlreadyExists
  | NoSpace
  | NotEmpty
  | IsDirectory
  | NotDirectory
  | Busy
  deriving DecidableEq, Repr

/-- The `#[repr]` discriminant. -/
def ErrorCode.discriminant : ErrorCode → Nat
  | .Ok => 0
  | .NotFound => 1
  | .InvalidOffset => 2
  | .NotReadable => 3
  | .NotWritable => 4
  | .NotSeekable => 5
  | .NotSupported => 6
  | .PermissionDenied => 7
  | .IoError => 8
  | .WouldBlock => 9
  | .InvalidArgument => 10
  | .Protocol => 11
  | .InvalidHandle => 12
  | .TooManyHandles => 13
  | .ChannelClosed => 14
  | .MessageTooLarge => 15
  | .BufferTooSmall => 16
  | .AlreadyExists => 17
  | .NoSpace => 18
  | .NotEmpty => 19
  | .IsDirectory => 20
  | .NotDirectory => 21
  | .Busy => 22

/-- `ErrorCode::to_isize`: the value placed in `rax`. -/
def ErrorCode.toIsize (e : ErrorCode) : Int := -(e.discriminant : Int)

end PandaOs.Abi
