import PandaOs.Abi.Basic
import PandaOs.Lib.Frame

/-!
# The scheme-provider wire protocol

`panda_abi::scheme_protocol`: the frames the kernel and a userspace scheme
provider exchange. A request is a kind byte, the request id as a
little-endian `u64` and a kind-specific payload; a response adds a status
byte at offset 9 and a status- and kind-specific payload. The encoders store
into a caller's buffer and return the frame length, or `None` when it does
not fit; the decoders return `None` on a truncated or malformed frame.

Paths are `&str`, carried here as a `String` and its UTF-8 bytes; `decode`
validates them with `from_utf8`. The payload lengths are cast as the source
casts them, `path.len() as u16` and `data.len() as u32`. The `checked_add`s
of `decode` add a `u16` or a `u32` to a small constant and cannot overflow a
64-bit `usize`, so they are plain additions here.

`ReaddirOk` is decoded to its raw bytes, as the source decodes it, and
`ReaddirEntriesIter` parses them: a `u16` count, then per entry the name's
length byte, the `is_dir` byte and the name. `encode_readdir_ok` counts the
entries in a `u16` that wraps, as a release build does; a debug build
panics at the 65536th entry instead.
-/

namespace PandaOs.Abi.SchemeProtocol

open PandaOs.Lib

def msgOpen : UInt8 := 1
def msgReaddir : UInt8 := 2
def msgRead : UInt8 := 3
def msgWrite : UInt8 := 4
def msgClose : UInt8 := 5
def msgConnect : UInt8 := 6

def statusOk : UInt8 := 0
def statusErr : UInt8 := 1

/-- `HEADER_LEN`: kind and request id. -/
def headerLen : Nat := 9

/-- `RESP_HEADER_LEN`: the header and the status byte. -/
def respHeaderLen : Nat := headerLen + 1

/-! The constants' values, for proofs that compute with them. -/

theorem msgOpen_eq : msgOpen = 1 := rfl
theorem msgReaddir_eq : msgReaddir = 2 := rfl
theorem msgRead_eq : msgRead = 3 := rfl
theorem msgWrite_eq : msgWrite = 4 := rfl
theorem msgClose_eq : msgClose = 5 := rfl
theorem msgConnect_eq : msgConnect = 6 := rfl
theorem statusOk_eq : statusOk = 0 := rfl
theorem statusErr_eq : statusErr = 1 := rfl
theorem headerLen_eq : headerLen = 9 := rfl
theorem respHeaderLen_eq : respHeaderLen = 10 := rfl

/-- `error_to_u8`: `err as u32 as u8`. -/
def errorToU8 (err : ErrorCode) : UInt8 := err.discriminant.toUInt8

/-- `u8_to_error`: `8` and every unknown byte read as `IoError`. -/
def u8ToError (byte : UInt8) : ErrorCode :=
  match byte.toNat with
  | 1 => .NotFound
  | 2 => .InvalidOffset
  | 3 => .NotReadable
  | 4 => .NotWritable
  | 5 => .NotSeekable
  | 6 => .NotSupported
  | 7 => .PermissionDenied
  | 9 => .WouldBlock
  | 10 => .InvalidArgument
  | 11 => .Protocol
  | 12 => .InvalidHandle
  | 13 => .TooManyHandles
  | 14 => .ChannelClosed
  | 15 => .MessageTooLarge
  | 16 => .BufferTooSmall
  | 17 => .AlreadyExists
  | 18 => .NoSpace
  | 19 => .NotEmpty
  | 20 => .IsDirectory
  | 21 => .NotDirectory
  | 22 => .Busy
  | _ => .IoError

/-- `Request`. -/
inductive Request where
  | Open (requestId : UInt64) (path : String)
  | Readdir (requestId : UInt64) (path : String)
  | Read (requestId resourceId : UInt64) (len : UInt32)
  | Write (requestId resourceId : UInt64) (data : List UInt8)
  | Close (requestId resourceId : UInt64)
  | Connect (requestId : UInt64) (path : String)
  deriving DecidableEq, Repr

/-- `Request::encode`: the frame length and the buffer after the stores. -/
def Request.encode (r : Request) (buf : List UInt8) : Option (Nat × List UInt8) :=
  match r with
  | .Open requestId path | .Readdir requestId path | .Connect requestId path =>
      let kind := match r with
        | .Open .. => msgOpen
        | .Readdir .. => msgReaddir
        | _ => msgConnect
      let path := utf8Bytes path
      let total := headerLen + 2 + path.length
      if total > buf.length ∨ path.length > 65535 then none
      else
        let buf := buf.set 0 kind
        let buf := copyAt buf 1 (leBytes requestId.toNat 8)
        let buf := copyAt buf 9 (leBytes path.length.toUInt16.toNat 2)
        some (total, copyAt buf 11 path)
  | .Read requestId resourceId len =>
      let total := headerLen + 8 + 4
      if total > buf.length then none
      else
        let buf := buf.set 0 msgRead
        let buf := copyAt buf 1 (leBytes requestId.toNat 8)
        let buf := copyAt buf 9 (leBytes resourceId.toNat 8)
        some (total, copyAt buf 17 (leBytes len.toNat 4))
  | .Write requestId resourceId data =>
      let total := headerLen + 8 + 4 + data.length
      if total > buf.length then none
      else
        let buf := buf.set 0 msgWrite
        let buf := copyAt buf 1 (leBytes requestId.toNat 8)
        let buf := copyAt buf 9 (leBytes resourceId.toNat 8)
        let buf := copyAt buf 17 (leBytes data.length.toUInt32.toNat 4)
        some (total, copyAt buf 21 data)
  | .Close requestId resourceId =>
      let total := headerLen + 8
      if total > buf.length then none
      else
        let buf := buf.set 0 msgClose
        let buf := copyAt buf 1 (leBytes requestId.toNat 8)
        some (total, copyAt buf 9 (leBytes resourceId.toNat 8))

/-- `Request::decode`. -/
def Request.decode (buf : List UInt8) : Option Request := do
  if buf.length < headerLen then none
  else
    let kind := buf.getD 0 0
    let requestId := UInt64.ofNat (leValue (slice buf 1 9))
    if kind = msgOpen ∨ kind = msgReaddir ∨ kind = msgConnect then
      if buf.length < 11 then none
      else
        let pathLen := (UInt16.ofNat (leValue (slice buf 9 11))).toNat
        let path ← strFromUtf8 (← getRange buf 11 (11 + pathLen))
        some (if kind = msgOpen then .Open requestId path
          else if kind = msgReaddir then .Readdir requestId path
          else .Connect requestId path)
    else if kind = msgRead then
      if buf.length < 21 then none
      else
        let resourceId := UInt64.ofNat (leValue (slice buf 9 17))
        let len := UInt32.ofNat (leValue (slice buf 17 21))
        some (.Read requestId resourceId len)
    else if kind = msgWrite then
      if buf.length < 21 then none
      else
        let resourceId := UInt64.ofNat (leValue (slice buf 9 17))
        let dataLen := (UInt32.ofNat (leValue (slice buf 17 21))).toNat
        let data ← getRange buf 21 (21 + dataLen)
        some (.Write requestId resourceId data)
    else if kind = msgClose then
      if buf.length < 17 then none
      else
        let resourceId := UInt64.ofNat (leValue (slice buf 9 17))
        some (.Close requestId resourceId)
    else none

/-- `Response`. `ReaddirOk` and `ReadOk` borrow from the frame; here they
hold the bytes. -/
inductive Response where
  | OpenOk (requestId resourceId : UInt64)
  | OpenErr (requestId : UInt64) (error : ErrorCode)
  | ReaddirOk (requestId : UInt64) (raw : List UInt8)
  | ReaddirErr (requestId : UInt64) (error : ErrorCode)
  | ReadOk (requestId : UInt64) (data : List UInt8)
  | ReadErr (requestId : UInt64) (error : ErrorCode)
  | WriteOk (requestId : UInt64) (written : UInt32)
  | WriteErr (requestId : UInt64) (error : ErrorCode)
  | CloseOk (requestId : UInt64)
  | CloseErr (requestId : UInt64) (error : ErrorCode)
  | ConnectOk (requestId : UInt64)
  | ConnectErr (requestId : UInt64) (error : ErrorCode)
  deriving DecidableEq, Repr

/-- `Response::header`. -/
def Response.header (kind : UInt8) (requestId : UInt64) (status : UInt8) (buf : List UInt8) :
    Option (List UInt8) :=
  if buf.length < respHeaderLen then none
  else
    let buf := buf.set 0 kind
    let buf := copyAt buf 1 (leBytes requestId.toNat 8)
    some (buf.set 9 status)

/-- `Response::encode_open_ok`. -/
def Response.encodeOpenOk (requestId resourceId : UInt64) (buf : List UInt8) : Option (Nat × List UInt8) :=
  let total := respHeaderLen + 8
  if total > buf.length then none
  else do
    let buf ← Response.header msgOpen requestId statusOk buf
    some (total, copyAt buf 10 (leBytes resourceId.toNat 8))

/-- `Response::encode_err`. -/
def Response.encodeErr (kind : UInt8) (requestId : UInt64) (error : ErrorCode) (buf : List UInt8) :
    Option (Nat × List UInt8) :=
  let total := respHeaderLen + 1
  if total > buf.length then none
  else do
    let buf ← Response.header kind requestId statusErr buf
    some (total, buf.set 10 (errorToU8 error))

/-- `Response::encode_read_ok`. -/
def Response.encodeReadOk (requestId : UInt64) (data : List UInt8) (buf : List UInt8) :
    Option (Nat × List UInt8) :=
  let total := respHeaderLen + 4 + data.length
  if total > buf.length then none
  else do
    let buf ← Response.header msgRead requestId statusOk buf
    let buf := copyAt buf 10 (leBytes data.length.toUInt32.toNat 4)
    some (total, copyAt buf 14 data)

/-- `Response::encode_write_ok`. -/
def Response.encodeWriteOk (requestId : UInt64) (written : UInt32) (buf : List UInt8) :
    Option (Nat × List UInt8) :=
  let total := respHeaderLen + 4
  if total > buf.length then none
  else do
    let buf ← Response.header msgWrite requestId statusOk buf
    some (total, copyAt buf 10 (leBytes written.toNat 4))

/-- `Response::encode_close_ok`. -/
def Response.encodeCloseOk (requestId : UInt64) (buf : List UInt8) : Option (Nat × List UInt8) :=
  let total := respHeaderLen
  if total > buf.length then none
  else do
    let buf ← Response.header msgClose requestId statusOk buf
    some (total, buf)

/-- `Response::encode_connect_ok`. -/
def Response.encodeConnectOk (requestId : UInt64) (buf : List UInt8) : Option (Nat × List UInt8) :=
  let total := respHeaderLen
  if total > buf.length then none
  else do
    let buf ← Response.header msgConnect requestId statusOk buf
    some (total, buf)

/-- `Response::decode`. -/
def Response.decode (buf : List UInt8) : Option Response := do
  if buf.length < respHeaderLen then none
  else
    let kind := buf.getD 0 0
    let requestId := UInt64.ofNat (leValue (slice buf 1 9))
    let status := buf.getD 9 0
    if status = statusErr then
      let error := u8ToError (← buf[10]?)
      if kind = msgOpen then some (.OpenErr requestId error)
      else if kind = msgReaddir then some (.ReaddirErr requestId error)
      else if kind = msgRead then some (.ReadErr requestId error)
      else if kind = msgWrite then some (.WriteErr requestId error)
      else if kind = msgClose then some (.CloseErr requestId error)
      else if kind = msgConnect then some (.ConnectErr requestId error)
      else none
    else if status ≠ statusOk then none
    else if kind = msgOpen then
      let resourceId := UInt64.ofNat (leValue (← getRange buf 10 18))
      some (.OpenOk requestId resourceId)
    else if kind = msgReaddir then
      some (.ReaddirOk requestId (← getRange buf respHeaderLen buf.length))
    else if kind = msgRead then
      let dataLen := (UInt32.ofNat (leValue (← getRange buf 10 14))).toNat
      let data ← getRange buf 14 (14 + dataLen)
      some (.ReadOk requestId data)
    else if kind = msgWrite then
      let written := UInt32.ofNat (leValue (← getRange buf 10 14))
      some (.WriteOk requestId written)
    else if kind = msgClose then some (.CloseOk requestId)
    else if kind = msgConnect then some (.ConnectOk requestId)
    else none

/-- `DIRENT_NAME_MAX`. -/
def direntNameMax : Nat := 255

/-- `ReaddirEntry`. -/
structure ReaddirEntry where
  name : String
  isDir : Bool
  deriving DecidableEq, Repr

/-- One pass of the loop of `encode_readdir_ok`, on the offset, the count and the buffer. -/
def Response.readdirStep (st : Nat × UInt16 × List UInt8) (entry : ReaddirEntry) :
    Option (Nat × UInt16 × List UInt8) :=
  let (off, count, buf) := st
  let name := utf8Bytes entry.name
  if name.length > direntNameMax then none
  else
    let entryLen := 2 + name.length
    if off + entryLen > buf.length then none
    else
      let buf := buf.set off name.length.toUInt8
      let buf := buf.set (off + 1) (if entry.isDir then 1 else 0)
      some (off + entryLen, count + 1, copyAt buf (off + 2) name)

/-- `Response::encode_readdir_ok`. -/
def Response.encodeReaddirOk (requestId : UInt64) (entries : List ReaddirEntry) (buf : List UInt8) :
    Option (Nat × List UInt8) := do
  let buf ← Response.header msgReaddir requestId statusOk buf
  let off := respHeaderLen + 2
  if off > buf.length then none
  else
    let (off, count, buf) ← entries.foldlM Response.readdirStep (off, 0, buf)
    some (off, copyAt buf respHeaderLen (leBytes count.toNat 2))

/-- `ReaddirEntriesIter`. -/
structure ReaddirEntriesIter where
  remaining : UInt16
  buf : List UInt8
  off : Nat
  deriving DecidableEq, Repr

/-- `ReaddirEntriesIter::new`. -/
def ReaddirEntriesIter.new (raw : List UInt8) : Option ReaddirEntriesIter := do
  let count ← getRange raw 0 2
  some ⟨UInt16.ofNat (leValue count), raw, 2⟩

/-- `ReaddirEntriesIter::next`: the entry and the iterator past it. -/
def ReaddirEntriesIter.next (it : ReaddirEntriesIter) : Option (ReaddirEntry × ReaddirEntriesIter) :=
  if it.remaining = 0 then none
  else do
    let nameLen := (← it.buf[it.off]?).toNat
    let isDir := (← it.buf[it.off + 1]?) != 0
    let nameStart := it.off + 2
    let name ← strFromUtf8 (← getRange it.buf nameStart (nameStart + nameLen))
    some (⟨name, isDir⟩, { it with remaining := it.remaining - 1, off := nameStart + nameLen })

theorem ReaddirEntriesIter.remaining_next {it it' : ReaddirEntriesIter} {entry : ReaddirEntry}
    (h : it.next = some (entry, it')) : it'.remaining.toNat < it.remaining.toNat := by
  unfold ReaddirEntriesIter.next at h
  split_ifs at h with h0
  simp only [Option.bind_eq_bind, Option.bind_eq_some_iff, Option.some.injEq] at h
  obtain ⟨_, _, _, _, _, _, _, _, heq⟩ := h
  rw [← (Prod.mk.inj heq).2]
  have hpos : 0 < it.remaining.toNat := Nat.pos_of_ne_zero fun h' => h0 (UInt16.toNat_inj.mp h')
  rw [UInt16.toNat_sub_of_le _ _ (UInt16.le_iff_toNat_le.mpr (by simp only [UInt16.toNat_one]; omega))]
  simp only [UInt16.toNat_one]
  omega

/-- The entries a loop over the iterator sees, until \x60next\x60 answers \x60None\x60. -/
def ReaddirEntriesIter.entries (it : ReaddirEntriesIter) : List ReaddirEntry :=
  match h : it.next with
  | none => []
  | some (entry, it') =>
      have := ReaddirEntriesIter.remaining_next h
      entry :: it'.entries
termination_by it.remaining.toNat

end PandaOs.Abi.SchemeProtocol
