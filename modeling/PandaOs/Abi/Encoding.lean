import PandaOs.Lib.Cursor
import PandaOs.Lib.Frame

/-!
# `panda_abi::encoding`: the byte codec of the terminal protocol

An `Encoder` only ever appends to its buffer, so a value's encoding is the
list of bytes it appends; the one exception, `update_length`, patches a
header already written and is `copyAt`. A `Decoder` is a slice and a
position (`Cursor`), and each read fails with `Truncated` unless enough
bytes remain past the position.

Fixed-width integers are little-endian. A string is its length `as u16` and
its UTF-8 bytes, checked with `from_utf8` on the way back; a byte array is
its length `as u32` and the bytes; a `Vec<T>` is its length `as u16` and its
items; an `Option<T>` is a tag byte, `0` for `None`, and the value. The
casts truncate, as `leBytes` does. `f64` travels as its bits and is carried
as them.

Each read comes with its `Reads` fact: started where the rest of the slice
begins with what the matching write appends, it returns the value written
and moves past it. The length-prefixed reads need the length to fit its
prefix.
-/

namespace PandaOs.Abi.Encoding

open PandaOs.Lib

variable {α : Type}

/-- `DecodeError`. -/
inductive DecodeError where
  | truncated
  | unknownType
  | invalidValue
  | invalidUtf8
  deriving DecidableEq, Repr

/-- A `Decoder`: the slice and the read position. -/
abbrev Decoder := Cursor UInt8

/-- A read through a `Decoder`. -/
abbrev DecodeM := ExceptT DecodeError (StateM Decoder)

/-- `Decoder::new`: at the start of the slice. -/
def Decoder.new (buf : List UInt8) : Decoder := ⟨buf, 0⟩

/-- `Decoder::remaining`. -/
def remaining (dec : Decoder) : Nat := dec.buf.length - dec.pos

/-- The fixed-width reads `read_u8` to `read_f64`: the next `n` bytes,
little-endian, or `Truncated`. -/
def readLe (n : Nat) : DecodeM Nat := do
  let dec ← get
  if remaining dec < n then throw .truncated
  set (dec.advance n)
  pure (leValue (dec.rest.take n))

/-- `Decoder::read_u8`. -/
def readU8 : DecodeM UInt8 := UInt8.ofNat <$> readLe 1

/-- `Decoder::read_u16`. -/
def readU16 : DecodeM UInt16 := UInt16.ofNat <$> readLe 2

/-- `Decoder::read_u32`. -/
def readU32 : DecodeM UInt32 := UInt32.ofNat <$> readLe 4

/-- `Decoder::read_i32`. -/
def readI32 : DecodeM Int32 := (fun v => (UInt32.ofNat v).toInt32) <$> readLe 4

/-- `Decoder::read_i64`. -/
def readI64 : DecodeM Int64 := (fun v => (UInt64.ofNat v).toInt64) <$> readLe 8

/-- `Decoder::read_f64`, as the float's bits. -/
def readF64 : DecodeM UInt64 := UInt64.ofNat <$> readLe 8

/-- `Decoder::read_bool`: any byte but `0` is `true`. -/
def readBool : DecodeM Bool := do
  let byte ← readU8
  pure (byte ≠ 0)

/-- `Decoder::read_string`. -/
def readString : DecodeM String := do
  let len := (← readU16).toNat
  let dec ← get
  if remaining dec < len then throw .truncated
  match strFromUtf8 (dec.rest.take len) with
  | none => throw .invalidUtf8
  | some s =>
      set (dec.advance len)
      pure s

/-- `Decoder::read_byte_array`. -/
def readByteArray : DecodeM (List UInt8) := do
  let len := (← readU32).toNat
  let dec ← get
  if remaining dec < len then throw .truncated
  set (dec.advance len)
  pure (dec.rest.take len)

/-- `Decoder::read_tlv_header`: the message type and the length field. -/
def readTlvHeader : DecodeM (UInt16 × UInt32) := do
  let msgType ← readU16
  let length ← readU32
  pure (msgType, length)

/-- `Vec<T>::decode`: a `u16` count, then that many items. -/
def decodeVec (item : DecodeM α) : DecodeM (List α) := do
  let count := (← readU16).toNat
  repeatFold (fun items => do
    let x ← item
    pure (items ++ [x])) count []

/-- `Option<T>::decode`: a tag byte, `0` for `None`. -/
def decodeOption (item : DecodeM α) : DecodeM (Option α) := do
  let tag ← readU8
  if tag = 0 then pure none
  else
    let x ← item
    pure (some x)

/-! ## Writes: the bytes each `Encoder` method appends -/

/-- `Encoder::write_u16`. -/
def writeU16 (v : UInt16) : List UInt8 := leBytes v.toNat 2

/-- `Encoder::write_u32`. -/
def writeU32 (v : UInt32) : List UInt8 := leBytes v.toNat 4

/-- `Encoder::write_i32`. -/
def writeI32 (v : Int32) : List UInt8 := leBytes v.toUInt32.toNat 4

/-- `Encoder::write_i64`. -/
def writeI64 (v : Int64) : List UInt8 := leBytes v.toUInt64.toNat 8

/-- `Encoder::write_f64`, of the float's bits. -/
def writeF64 (bits : UInt64) : List UInt8 := leBytes bits.toNat 8

/-- `Encoder::write_bool`. -/
def writeBool (b : Bool) : List UInt8 := [if b then 1 else 0]

/-- `Encoder::write_string`: the length `as u16`, then the bytes. -/
def writeString (s : String) : List UInt8 := writeU16 (utf8Bytes s).length.toUInt16 ++ utf8Bytes s

/-- `Encoder::write_byte_array`: the length `as u32`, then the bytes. -/
def writeByteArray (bytes : List UInt8) : List UInt8 := writeU32 bytes.length.toUInt32 ++ bytes

/-- `Vec<T>::encode`: the length `as u16`, then the items. -/
def encodeVec (item : α → List UInt8) (xs : List α) : List UInt8 :=
  writeU16 xs.length.toUInt16 ++ xs.flatMap item

/-- `Option<T>::encode`. -/
def encodeOption (item : α → List UInt8) : Option α → List UInt8
  | some x => 1 :: item x
  | none => [0]

/-- `Encoder::write_tlv_header`. -/
def writeTlvHeader (msgType : UInt16) (length : UInt32) : List UInt8 := writeU16 msgType ++ writeU32 length

/-- `Encoder::update_length`: the length field at `lenPos` rewritten. -/
def updateLength (buf : List UInt8) (lenPos : Nat) (length : UInt32) : List UInt8 :=
  copyAt buf lenPos (writeU32 length)

@[simp] theorem writeU16_length (v : UInt16) : (writeU16 v).length = 2 := leBytes_length _ _

@[simp] theorem writeU32_length (v : UInt32) : (writeU32 v).length = 4 := leBytes_length _ _

theorem length_utf8Bytes (s : String) : (utf8Bytes s).length = s.utf8ByteSize := by
  simp [utf8Bytes, ← String.size_toByteArray]

/-! ## What each read consumes -/

theorem remaining_eq (dec : Decoder) : remaining dec = dec.rest.length := (dec.length_rest).symm

theorem readLe_reads {n : Nat} {bytes : List UInt8} (h : bytes.length = n) :
    Reads (readLe n) bytes (leValue bytes) := by
  intro dec rest hdec
  have hlen : ¬ remaining dec < n := by
    rw [remaining_eq, hdec, List.length_append]
    omega
  simp only [readLe, run_bind, run_get, if_neg hlen, run_pure, run_set]
  rw [hdec, ← h, List.take_left, h]

theorem readU8_reads (b : UInt8) : Reads readU8 [b] b := by
  have hread := (@readLe_reads 1 [b] rfl).map UInt8.ofNat
  have hb : UInt8.ofNat (leValue [b]) = b := by simp [leValue_cons, leValue_nil]
  rw [hb] at hread
  exact hread

theorem readU16_reads (v : UInt16) : Reads readU16 (writeU16 v) v := by
  have := (readLe_reads (writeU16_length v)).map UInt16.ofNat
  rwa [writeU16, UInt16.ofNat_leValue_leBytes] at this

theorem readU32_reads (v : UInt32) : Reads readU32 (writeU32 v) v := by
  have := (readLe_reads (writeU32_length v)).map UInt32.ofNat
  rwa [writeU32, UInt32.ofNat_leValue_leBytes] at this

theorem readI32_reads (v : Int32) : Reads readI32 (writeI32 v) v := by
  have := (readLe_reads (leBytes_length v.toUInt32.toNat 4)).map fun v => (UInt32.ofNat v).toInt32
  rwa [UInt32.ofNat_leValue_leBytes, Int32.toInt32_toUInt32] at this

theorem readI64_reads (v : Int64) : Reads readI64 (writeI64 v) v := by
  have := (readLe_reads (leBytes_length v.toUInt64.toNat 8)).map fun v => (UInt64.ofNat v).toInt64
  rwa [UInt64.ofNat_leValue_leBytes, Int64.toInt64_toUInt64] at this

theorem readF64_reads (bits : UInt64) : Reads readF64 (writeF64 bits) bits := by
  have := (readLe_reads (leBytes_length bits.toNat 8)).map UInt64.ofNat
  rwa [UInt64.ofNat_leValue_leBytes] at this

theorem readBool_reads (b : Bool) : Reads readBool (writeBool b) b := by
  have hread := Reads.bind (f := fun byte => (pure (decide (byte ≠ 0)) : DecodeM Bool))
    (readU8_reads (if b then 1 else 0)) (Reads.pure _)
  cases b <;> exact hread

/-- A string reads back when its length fits the `u16` prefix. -/
theorem readString_reads (s : String) (hs : (utf8Bytes s).length < 2 ^ 16) :
    Reads readString (writeString s) s := by
  intro dec rest hdec
  have hlen : (utf8Bytes s).length.toUInt16.toNat = (utf8Bytes s).length := by
    simp [Nat.toUInt16]
    omega
  have hdec' : dec.rest = writeU16 (utf8Bytes s).length.toUInt16 ++ (utf8Bytes s ++ rest) := by
    rw [hdec, writeString, List.append_assoc]
  have hu16 := readU16_reads (utf8Bytes s).length.toUInt16 dec _ hdec'
  have hrest : (dec.advance 2).rest = utf8Bytes s ++ rest := by
    simpa using Cursor.rest_advance hdec'
  simp only [writeU16_length] at hu16
  simp only [readString, run_bind, hu16, run_get, hlen]
  have hroom : ¬ remaining (dec.advance 2) < (utf8Bytes s).length := by
    rw [remaining_eq, hrest, List.length_append]
    omega
  rw [if_neg hroom, hrest, List.take_left, strFromUtf8_utf8Bytes]
  simp only [run_bind, run_set, run_pure, Cursor.advance_advance, writeString, List.length_append,
    writeU16_length]

/-- A byte array reads back when its length fits the `u32` prefix. -/
theorem readByteArray_reads (bytes : List UInt8) (hb : bytes.length < 2 ^ 32) :
    Reads readByteArray (writeByteArray bytes) bytes := by
  intro dec rest hdec
  have hlen : bytes.length.toUInt32.toNat = bytes.length := by
    simp [Nat.toUInt32]
    omega
  have hdec' : dec.rest = writeU32 bytes.length.toUInt32 ++ (bytes ++ rest) := by
    rw [hdec, writeByteArray, List.append_assoc]
  have hu32 := readU32_reads bytes.length.toUInt32 dec _ hdec'
  have hrest : (dec.advance 4).rest = bytes ++ rest := by
    simpa using Cursor.rest_advance hdec'
  simp only [writeU32_length] at hu32
  simp only [readByteArray, run_bind, hu32, run_get, hlen]
  have hroom : ¬ remaining (dec.advance 4) < bytes.length := by
    rw [remaining_eq, hrest, List.length_append]
    omega
  rw [if_neg hroom, hrest, List.take_left]
  simp only [run_bind, run_set, run_pure, Cursor.advance_advance, writeByteArray, List.length_append,
    writeU32_length]

theorem foldl_append_singleton (xs acc : List α) : xs.foldl (fun items x => items ++ [x]) acc = acc ++ xs := by
  induction xs generalizing acc with
  | nil => simp
  | cons x xs ih => simp [ih]

/-- A vector reads back item by item when its length fits the `u16` count. -/
theorem decodeVec_reads {item : DecodeM α} {enc : α → List UInt8} (xs : List α) (hlen : xs.length < 2 ^ 16)
    (hitem : ∀ x ∈ xs, Reads item (enc x) x) : Reads (decodeVec item) (encodeVec enc xs) xs := by
  have hcount : xs.length.toUInt16.toNat = xs.length := by
    simp [Nat.toUInt16]
    omega
  -- each round appends the item it read
  have hloop : Reads (repeatFold (fun items => do
        let x ← item
        pure (items ++ [x])) xs.length [])
      (xs.flatMap enc) (xs.foldl (fun items x => items ++ [x]) []) :=
    Reads.repeatFold xs (fun x hx acc => Reads.bind_pure (hitem x hx) (acc ++ [·])) []
  rw [foldl_append_singleton, List.nil_append] at hloop
  unfold decodeVec encodeVec
  refine Reads.bind (readU16_reads _) ?_
  rw [hcount]
  exact hloop

theorem decodeOption_reads {item : DecodeM α} {enc : α → List UInt8} :
    ∀ (o : Option α), (∀ x ∈ o, Reads item (enc x) x) → Reads (decodeOption item) (encodeOption enc o) o
  | none, _ => by
      have h := Reads.bind (f := fun tag : UInt8 => (if tag = 0 then pure none else do
          let x ← item
          pure (some x) : DecodeM (Option α)))
        (readU8_reads 0) (by rw [if_pos rfl]; exact Reads.pure none)
      rwa [List.append_nil] at h
  | some x, hx => by
      exact Reads.bind (f := fun tag : UInt8 => (if tag = 0 then pure none else do
          let x ← item
          pure (some x) : DecodeM (Option α)))
        (readU8_reads 1) (by rw [if_neg (by decide)]; exact Reads.bind_pure (hx x rfl) some)

theorem readTlvHeader_reads (msgType : UInt16) (length : UInt32) :
    Reads readTlvHeader (writeTlvHeader msgType length) (msgType, length) :=
  Reads.bind (readU16_reads msgType) (Reads.bind_pure (readU32_reads length) (msgType, ·))

end PandaOs.Abi.Encoding
