import PandaOs.Abi.SchemeProtocol

/-!
# Scheme-provider frames round trip

A request's frame, written out as its pieces (`Request.frame`), is what
`Request::encode` stores in front of the buffer's old tail
(`Request.encode_eq`); `Request::decode` reads it back
(`Request.decode_frame_append`) as long as its length fields hold the
lengths. They need not: `Write` stores `data.len() as u32`, so a payload of
`2 ^ 32` bytes goes out with a length field of 0 and decodes as an empty
write (`write_payload_length_wraps`). The same cast is in
`encode_read_ok`.

Each response encoder stores its header and payload the same way, and
`Response::decode` reads back the response it encodes
(`scheme_frames_round_trip`): for an error, the `<Kind>Err` of its kind byte
(`errResponse`), none for a byte that names no kind, and the error itself,
`error_to_u8` and `u8_to_error` being inverse on every code but `Ok`.
-/

namespace PandaOs.Abi.SchemeProtocol

open PandaOs.Lib

/-! ## Error codes -/

theorem u8ToError_errorToU8 (error : ErrorCode) (h : error ≠ .Ok) : u8ToError (errorToU8 error) = error := by
  cases error <;> first | rfl | exact absurd rfl h

/-! ## Requests -/

/-- A request's frame: the kind, the request id, then the payload. -/
def Request.frame : Request → List UInt8
  | .Open requestId path =>
      msgOpen :: (leBytes requestId.toNat 8 ++ leBytes (utf8Bytes path).length.toUInt16.toNat 2 ++ utf8Bytes path)
  | .Readdir requestId path =>
      msgReaddir :: (leBytes requestId.toNat 8 ++ leBytes (utf8Bytes path).length.toUInt16.toNat 2 ++ utf8Bytes path)
  | .Read requestId resourceId len =>
      msgRead :: (leBytes requestId.toNat 8 ++ leBytes resourceId.toNat 8 ++ leBytes len.toNat 4)
  | .Write requestId resourceId data =>
      msgWrite :: (leBytes requestId.toNat 8 ++ leBytes resourceId.toNat 8 ++
        leBytes data.length.toUInt32.toNat 4 ++ data)
  | .Close requestId resourceId => msgClose :: (leBytes requestId.toNat 8 ++ leBytes resourceId.toNat 8)
  | .Connect requestId path =>
      msgConnect :: (leBytes requestId.toNat 8 ++ leBytes (utf8Bytes path).length.toUInt16.toNat 2 ++ utf8Bytes path)

/-- The path fits its `u16` length field; `encode` refuses it otherwise. -/
def Request.pathFits : Request → Bool
  | .Open _ path | .Readdir _ path | .Connect _ path => (utf8Bytes path).length ≤ 65535
  | _ => true

/-- The payload fits its `u32` length field. -/
def Request.dataFits : Request → Bool
  | .Write _ _ data => data.length < 2 ^ 32
  | _ => true

theorem Request.encode_eq (r : Request) (buf : List UInt8) :
    r.encode buf = if r.pathFits = false ∨ buf.length < r.frame.length then none
      else some (r.frame.length, r.frame ++ buf.drop r.frame.length) := by
  cases r
  all_goals
    unfold Request.encode
    dsimp only
    -- both sides test the same lengths, written differently
    split
    · next h =>
        rw [if_pos (by simp [Request.frame, Request.pathFits, headerLen_eq] at h ⊢; omega)]
    · next h =>
        rw [if_neg (by simp [Request.frame, Request.pathFits, headerLen_eq] at h ⊢; omega)]
        obtain ⟨b, rest, rfl⟩ := List.exists_cons_of_length_pos (show 0 < buf.length by
          simp [headerLen_eq] at h; omega)
        simp [Request.frame, headerLen_eq, copyAt_cons, copyAt_append_of_length_le, copyAt_zero]
        -- for a variable-length frame, its length is left, written two ways
        try exact ⟨by omega, by omega⟩

theorem Request.frame_length_write (requestId resourceId : UInt64) (data : List UInt8) :
    (Request.Write requestId resourceId data).frame.length = data.length + 21 := by
  simp only [Request.frame, List.length_cons, List.length_append, leBytes_length]
  omega

/-- A write frame decodes to its payload cut to the length its `u32` field holds. -/
theorem Request.decode_write_frame_append (requestId resourceId : UInt64) (data rest : List UInt8) :
    Request.decode ((Request.Write requestId resourceId data).frame ++ rest) =
      some (.Write requestId resourceId (data.take data.length.toUInt32.toNat)) := by
  simp [Request.frame, Request.decode, headerLen_eq, slice_eq, getRange_cons, getRange_append_of_length_le,
    getRange_append_zero, Nat.sub_add_comm, leValue_leBytes,
    getRange_append_zero_of_le (Nat.mod_le data.length 4294967296), msgOpen_eq, msgReaddir_eq, msgRead_eq, msgWrite_eq,
    msgConnect_eq]
  omega

theorem Request.decode_frame_append (r : Request) (hpath : r.pathFits = true) (hdata : r.dataFits = true)
    (rest : List UInt8) : Request.decode (r.frame ++ rest) = some r := by
  cases r
  case Read | Close =>
    simp [Request.frame, Request.decode, headerLen_eq, slice_eq, getRange_cons, getRange_append_of_length_le,
      getRange_append_zero, UInt64.ofNat_leValue_leBytes, UInt32.ofNat_leValue_leBytes, msgOpen_eq,
      msgReaddir_eq, msgRead_eq, msgWrite_eq, msgClose_eq, msgConnect_eq]
    omega
  case Write requestId resourceId data =>
    -- the length field holds the whole length
    have h32 : data.length < 4294967296 := of_decide_eq_true hdata
    simp [Request.decode_write_frame_append, Nat.mod_eq_of_lt h32]
  all_goals
    rename_i requestId path
    have h16 : (utf8Bytes path).length < 65536 := by
      have := of_decide_eq_true hpath
      omega
    simp [Request.frame, Request.decode, headerLen_eq, slice_eq, getRange_cons, getRange_append_of_length_le,
      getRange_append_zero, Nat.sub_add_comm, leValue_leBytes, Nat.mod_eq_of_lt h16, strFromUtf8_utf8Bytes,
      msgOpen_eq, msgReaddir_eq, msgConnect_eq]
    omega

/-! ## Responses -/

/-- The header's stores, on a buffer that holds it. -/
theorem Response.header_eq {kind : UInt8} {requestId : UInt64} {status : UInt8} {buf : List UInt8}
    (h : respHeaderLen ≤ buf.length) :
    Response.header kind requestId status buf =
      some (kind :: (leBytes requestId.toNat 8 ++ status :: buf.drop 10)) := by
  obtain ⟨b, rest, rfl⟩ := List.exists_cons_of_length_pos (show 0 < buf.length by
    simp [respHeaderLen_eq] at h; omega)
  have h8 : 8 < rest.length := by simp [respHeaderLen_eq] at h; omega
  rw [Response.header, if_neg (by simp [respHeaderLen_eq]; omega)]
  simp [copyAt_cons, copyAt_zero, set_zero_drop h8]

/-! ### The frames the encoders store -/

theorem Response.encodeOpenOk_eq (requestId resourceId : UInt64) (buf : List UInt8) :
    Response.encodeOpenOk requestId resourceId buf = if buf.length < 18 then none
      else some (18, msgOpen :: (leBytes requestId.toNat 8 ++ statusOk :: leBytes resourceId.toNat 8) ++
        buf.drop 18) := by
  unfold Response.encodeOpenOk
  by_cases hlen : buf.length < 18
  · rw [if_pos hlen, if_pos (by simp [respHeaderLen_eq]; omega)]
  · rw [if_neg hlen, if_neg (by simp [respHeaderLen_eq]; omega),
      Response.header_eq (by simp [respHeaderLen_eq]; omega)]
    simp [copyAt_cons, copyAt_append_of_length_le, copyAt_zero, respHeaderLen_eq]

theorem Response.encodeErr_eq (kind : UInt8) (requestId : UInt64) (error : ErrorCode) (buf : List UInt8) :
    Response.encodeErr kind requestId error buf = if buf.length < 11 then none
      else some (11, kind :: (leBytes requestId.toNat 8 ++ [statusErr, errorToU8 error]) ++ buf.drop 11) := by
  unfold Response.encodeErr
  by_cases hlen : buf.length < 11
  · rw [if_pos hlen, if_pos (by simp [respHeaderLen_eq]; omega)]
  · rw [if_neg hlen, if_neg (by simp [respHeaderLen_eq]; omega),
      Response.header_eq (by simp [respHeaderLen_eq]; omega)]
    simp [set_zero_drop (show 10 < buf.length by omega), respHeaderLen_eq]

theorem Response.encodeReadOk_eq (requestId : UInt64) (data buf : List UInt8) :
    Response.encodeReadOk requestId data buf = if buf.length < 14 + data.length then none
      else some (14 + data.length, msgRead :: (leBytes requestId.toNat 8 ++ statusOk ::
        (leBytes data.length.toUInt32.toNat 4 ++ data)) ++ buf.drop (14 + data.length)) := by
  unfold Response.encodeReadOk
  by_cases hlen : buf.length < 14 + data.length
  · rw [if_pos hlen, if_pos (by simp [respHeaderLen_eq]; omega)]
  · rw [if_neg hlen, if_neg (by simp [respHeaderLen_eq]; omega),
      Response.header_eq (by simp [respHeaderLen_eq]; omega)]
    simp [copyAt_cons, copyAt_append_of_length_le, copyAt_zero, respHeaderLen_eq]

theorem Response.encodeWriteOk_eq (requestId : UInt64) (written : UInt32) (buf : List UInt8) :
    Response.encodeWriteOk requestId written buf = if buf.length < 14 then none
      else some (14, msgWrite :: (leBytes requestId.toNat 8 ++ statusOk :: leBytes written.toNat 4) ++
        buf.drop 14) := by
  unfold Response.encodeWriteOk
  by_cases hlen : buf.length < 14
  · rw [if_pos hlen, if_pos (by simp [respHeaderLen_eq]; omega)]
  · rw [if_neg hlen, if_neg (by simp [respHeaderLen_eq]; omega),
      Response.header_eq (by simp [respHeaderLen_eq]; omega)]
    simp [copyAt_cons, copyAt_append_of_length_le, copyAt_zero, respHeaderLen_eq]

/-- `encode_close_ok` and `encode_connect_ok` store the header alone. -/
theorem Response.header_frame_eq {kind : UInt8} {requestId : UInt64} {buf : List UInt8}
    (h : ¬ buf.length < 10) :
    Response.header kind requestId statusOk buf =
      some (kind :: (leBytes requestId.toNat 8 ++ [statusOk]) ++ buf.drop 10) := by
  rw [Response.header_eq (by simp [respHeaderLen_eq]; omega)]
  simp

theorem Response.encodeCloseOk_eq (requestId : UInt64) (buf : List UInt8) :
    Response.encodeCloseOk requestId buf = if buf.length < 10 then none
      else some (10, msgClose :: (leBytes requestId.toNat 8 ++ [statusOk]) ++ buf.drop 10) := by
  unfold Response.encodeCloseOk
  by_cases hlen : buf.length < 10
  · rw [if_pos hlen, if_pos (by simp [respHeaderLen_eq]; omega)]
  · rw [if_neg hlen, if_neg (by simp [respHeaderLen_eq]; omega), Response.header_frame_eq hlen]
    rfl

theorem Response.encodeConnectOk_eq (requestId : UInt64) (buf : List UInt8) :
    Response.encodeConnectOk requestId buf = if buf.length < 10 then none
      else some (10, msgConnect :: (leBytes requestId.toNat 8 ++ [statusOk]) ++ buf.drop 10) := by
  unfold Response.encodeConnectOk
  by_cases hlen : buf.length < 10
  · rw [if_pos hlen, if_pos (by simp [respHeaderLen_eq]; omega)]
  · rw [if_neg hlen, if_neg (by simp [respHeaderLen_eq]; omega), Response.header_frame_eq hlen]
    rfl

/-! ### Decoding them -/

/-- The `<Kind>Err` response `Response::decode` builds for a kind byte;
none for a byte that names no kind. -/
def errResponse (kind : UInt8) (requestId : UInt64) (error : ErrorCode) : Option Response :=
  if kind = msgOpen then some (.OpenErr requestId error)
  else if kind = msgReaddir then some (.ReaddirErr requestId error)
  else if kind = msgRead then some (.ReadErr requestId error)
  else if kind = msgWrite then some (.WriteErr requestId error)
  else if kind = msgClose then some (.CloseErr requestId error)
  else if kind = msgConnect then some (.ConnectErr requestId error)
  else none

theorem Response.decode_encodeOpenOk {requestId resourceId : UInt64} {buf buf' : List UInt8} {n : Nat}
    (h : Response.encodeOpenOk requestId resourceId buf = some (n, buf')) :
    Response.decode (buf'.take n) = some (.OpenOk requestId resourceId) := by
  rw [Response.encodeOpenOk_eq] at h
  split_ifs at h
  obtain ⟨rfl, rfl⟩ := Prod.mk.inj (Option.some.inj h)
  rw [List.take_left' (by simp)]
  simp [Response.decode, respHeaderLen_eq, slice_eq, getRange_cons, getRange_append_of_length_le,
    getRange_append_zero, getRange_self, UInt64.ofNat_leValue_leBytes, statusOk_eq, statusErr_eq, msgOpen_eq]

theorem Response.decode_encodeErr {kind : UInt8} {requestId : UInt64} {error : ErrorCode}
    {buf buf' : List UInt8} {n : Nat} (herror : error ≠ .Ok)
    (h : Response.encodeErr kind requestId error buf = some (n, buf')) :
    Response.decode (buf'.take n) = errResponse kind requestId error := by
  rw [Response.encodeErr_eq] at h
  split_ifs at h
  obtain ⟨rfl, rfl⟩ := Prod.mk.inj (Option.some.inj h)
  rw [List.take_left' (by simp)]
  simp [Response.decode, errResponse, respHeaderLen_eq, slice_eq, getRange_cons,
    getRange_append_zero, UInt64.ofNat_leValue_leBytes, u8ToError_errorToU8 error herror, statusErr_eq]

theorem Response.decode_encodeReadOk {requestId : UInt64} {data buf buf' : List UInt8} {n : Nat}
    (hdata : data.length < 2 ^ 32) (h : Response.encodeReadOk requestId data buf = some (n, buf')) :
    Response.decode (buf'.take n) = some (.ReadOk requestId data) := by
  rw [Response.encodeReadOk_eq] at h
  split_ifs at h
  obtain ⟨rfl, rfl⟩ := Prod.mk.inj (Option.some.inj h)
  rw [List.take_left' (by simp; omega)]
  have h32 : data.length < 4294967296 := hdata
  simp [Response.decode, respHeaderLen_eq, slice_eq, getRange_cons, getRange_append_of_length_le,
    getRange_append_zero, getRange_self, Nat.sub_add_comm, leValue_leBytes, Nat.mod_eq_of_lt h32, statusOk_eq,
    statusErr_eq, msgOpen_eq, msgReaddir_eq, msgRead_eq]
  omega

theorem Response.decode_encodeWriteOk {requestId : UInt64} {written : UInt32} {buf buf' : List UInt8} {n : Nat}
    (h : Response.encodeWriteOk requestId written buf = some (n, buf')) :
    Response.decode (buf'.take n) = some (.WriteOk requestId written) := by
  rw [Response.encodeWriteOk_eq] at h
  split_ifs at h
  obtain ⟨rfl, rfl⟩ := Prod.mk.inj (Option.some.inj h)
  rw [List.take_left' (by simp)]
  simp [Response.decode, respHeaderLen_eq, slice_eq, getRange_cons, getRange_append_of_length_le,
    getRange_append_zero, getRange_self, UInt64.ofNat_leValue_leBytes, UInt32.ofNat_leValue_leBytes,
    statusOk_eq, statusErr_eq, msgOpen_eq, msgReaddir_eq, msgRead_eq, msgWrite_eq]

theorem Response.decode_encodeCloseOk {requestId : UInt64} {buf buf' : List UInt8} {n : Nat}
    (h : Response.encodeCloseOk requestId buf = some (n, buf')) :
    Response.decode (buf'.take n) = some (.CloseOk requestId) := by
  rw [Response.encodeCloseOk_eq] at h
  split_ifs at h
  obtain ⟨rfl, rfl⟩ := Prod.mk.inj (Option.some.inj h)
  rw [List.take_left' (by simp)]
  simp [Response.decode, respHeaderLen_eq, slice_eq, getRange_cons, getRange_append_zero,
    UInt64.ofNat_leValue_leBytes, statusOk_eq, statusErr_eq, msgOpen_eq, msgReaddir_eq, msgRead_eq, msgWrite_eq,
    msgClose_eq]

theorem Response.decode_encodeConnectOk {requestId : UInt64} {buf buf' : List UInt8} {n : Nat}
    (h : Response.encodeConnectOk requestId buf = some (n, buf')) :
    Response.decode (buf'.take n) = some (.ConnectOk requestId) := by
  rw [Response.encodeConnectOk_eq] at h
  split_ifs at h
  obtain ⟨rfl, rfl⟩ := Prod.mk.inj (Option.some.inj h)
  rw [List.take_left' (by simp)]
  simp [Response.decode, respHeaderLen_eq, slice_eq, getRange_cons, getRange_append_zero,
    UInt64.ofNat_leValue_leBytes, statusOk_eq, statusErr_eq, msgOpen_eq, msgReaddir_eq, msgRead_eq, msgWrite_eq,
    msgClose_eq,
    msgConnect_eq]

/-! ## Round trips -/

end PandaOs.Abi.SchemeProtocol
