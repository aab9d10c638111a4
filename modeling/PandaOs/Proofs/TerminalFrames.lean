import PandaOs.Abi.Terminal
import PandaOs.Proofs.ValueCodec

/-!
# Terminal frames read back, and what their length field says

`encode_with_header` writes the header, the content, and then patches the
length field, so a frame is the header with the content's length `as u32`
followed by the content (`writeFrame_eq`). Every well-formed `Request` and
`Event` is read back from its frame by `from_bytes`, which stops at the
frame's end. Each decoder is assembled from the `Reads` facts of its fields,
the nested `Value`s from `Value.decode_reads`.

The length field is never checked on the way back, and it is the content's
length modulo `2 ^ 32`. An event's content is at most a few bytes longer than
one string, so its field is exact. A request's content is a `Value`, whose
byte arrays each fit their `u32` prefix while the content holding one need
not: a `Write` of a byte array of `u32::MAX` bytes round-trips, and its
length field says `4` (`huge_write_length_field_wraps`).
-/

namespace PandaOs.Abi.Terminal

open PandaOs.Lib PandaOs.Abi PandaOs.Abi.Encoding

variable {α : Type}

/-! ## The frame -/

/-- The patched frame: the header carries the content's length `as u32`. -/
theorem writeFrame_eq (msgType : UInt16) (content buf : List UInt8) :
    writeFrame msgType content buf = buf ++ writeTlvHeader msgType content.length.toUInt32 ++ content := by
  have hlen : (buf ++ writeTlvHeader msgType 0 ++ content).length - (buf ++ writeTlvHeader msgType 0).length =
      content.length := by
    simp only [List.length_append]
    omega
  have hsplit : buf ++ writeTlvHeader msgType 0 ++ content =
      (buf ++ writeU16 msgType) ++ (writeU32 0 ++ content) := by
    simp only [writeTlvHeader, List.append_assoc]
  -- the length field starts right after the message type
  simp only [writeFrame, updateLength]
  rw [hlen, hsplit, copyAt_append_of_length_le le_rfl, Nat.sub_self, copyAt_zero, writeU32_length,
    List.drop_left' (writeU32_length 0)]
  simp only [writeTlvHeader, List.append_assoc]

theorem decodeFrame_of_reads {dec : DecodeM α} {bytes : List UInt8} {x : α} (h : Reads dec bytes x)
    (rest : List UInt8) : decodeFrame dec (bytes ++ rest) = .ok (x, bytes.length) := by
  simp only [decodeFrame, h (Decoder.new (bytes ++ rest)) rest rfl]
  simp [Decoder.new]

theorem readTlvHeader_frame (msgType : UInt16) (length : UInt32) (rest : List UInt8) :
    (readTlvHeader.run.run (Decoder.new (writeTlvHeader msgType length ++ rest))).1 = .ok (msgType, length) := by
  rw [readTlvHeader_reads msgType length _ rest rfl]

theorem length_writeFrame (msgType : UInt16) (content : List UInt8) :
    (writeFrame msgType content []).length = content.length + 6 := by
  simp only [writeFrame_eq, writeTlvHeader, List.length_append, List.length_nil, writeU16_length,
    writeU32_length]
  omega

/-! ## Fields -/

theorem decodeU8Enum_reads {fromU8 : UInt8 → Option α} {toU8 : α → UInt8}
    (h : ∀ x, fromU8 (toU8 x) = some x) (x : α) : Reads (decodeU8Enum fromU8) [toU8 x] x := by
  refine Reads.bind_end (readU8_reads (toU8 x)) ?_
  simp only [h]
  exact Reads.pure x

/-- A prompt that is a well-formed value, and choices that fit their `u16`
count and lengths. -/
def InputRequest.WellFormed (req : InputRequest) : Prop :=
  (∀ p ∈ req.prompt, p.WellFormed) ∧ req.choices.length < 2 ^ 16 ∧
    ∀ c ∈ req.choices, (utf8Bytes c).length < 2 ^ 16

theorem InputRequest.decode_reads {req : InputRequest} (hwf : req.WellFormed) :
    Reads InputRequest.decode req.encode req := by
  obtain ⟨hprompt, hcount, hchoices⟩ := hwf
  simp only [InputRequest.encode, List.append_assoc]
  exact Reads.bind (readU32_reads _) (Reads.bind (decodeU8Enum_reads InputKind.fromU8_toU8 _)
    (Reads.bind (decodeOption_reads _ fun p hp => Value.decode_reads (hprompt p hp))
      (Reads.bind_pure (decodeVec_reads _ hcount fun c hc => readString_reads c (hchoices c hc))
        fun choices => (⟨req.id, req.kind, req.prompt, choices⟩ : InputRequest))))

/-- A character's UTF-8 bytes fit the `u16` length of the string it travels as. -/
theorem length_utf8Bytes_singleton (c : Char) : (utf8Bytes (String.singleton c)).length < 2 ^ 16 := by
  have := Char.utf8Size_le_four c
  rw [length_utf8Bytes, String.utf8ByteSize_singleton]
  omega

/-- A text that fits its `u16` length, and a choice index that fits its `u32`. -/
def InputValue.WellFormed : InputValue → Prop
  | .text s => (utf8Bytes s).length < 2 ^ 16
  | .choice idx => idx < 2 ^ 32
  | .char _ | .bool _ => True

theorem InputValue.decode_reads : ∀ {v : InputValue}, v.WellFormed → Reads InputValue.decode v.encode v
  | .text s, hs => Reads.bind (readU8_reads 0) (Reads.bind_pure (readString_reads s hs) InputValue.text)
  | .char c, _ => by
      refine Reads.bind (readU8_reads 1) (Reads.bind_end (readString_reads _ (length_utf8Bytes_singleton c)) ?_)
      -- the first character of the one-character string
      simp only [String.toList_singleton]
      exact Reads.pure _
  | .bool b, _ => Reads.bind (readU8_reads 2) (Reads.bind_pure (readBool_reads b) InputValue.bool)
  | .choice idx, hidx => by
      have hread := Reads.bind_pure (readU32_reads idx.toUInt32) fun i : UInt32 => InputValue.choice i.toNat
      rw [UInt32.toNat_ofNat_of_lt' hidx] at hread
      exact Reads.bind (readU8_reads 3) hread

/-- The flags come back out of the modifier byte. -/
theorem KeyModifiers.mods_bits (m : KeyModifiers) :
    decide (m.mods &&& 1 ≠ 0) = m.shift ∧ decide (m.mods &&& 2 ≠ 0) = m.ctrl ∧
      decide (m.mods &&& 4 ≠ 0) = m.alt := by
  obtain ⟨shift, ctrl, alt⟩ := m
  cases shift <;> cases ctrl <;> cases alt <;> simp [KeyModifiers.mods] <;> decide

theorem KeyEvent.decode_reads (key : KeyEvent) : Reads KeyEvent.decode key.encode key := by
  obtain ⟨hshift, hctrl, halt⟩ := key.modifiers.mods_bits
  show Reads KeyEvent.decode (writeU16 key.code ++ ([key.modifiers.mods] ++ [key.value])) key
  refine Reads.bind (readU16_reads _) (Reads.bind (readU8_reads _) ?_)
  simp only [hshift, hctrl, halt]
  exact Reads.bind_pure (readU8_reads _) fun value => (⟨key.code, key.modifiers, value⟩ : KeyEvent)

theorem TerminalCapabilities.decode_reads (caps : TerminalCapabilities) :
    Reads TerminalCapabilities.decode caps.encode caps := by
  simp only [TerminalCapabilities.encode, List.append_assoc]
  exact Reads.bind (decodeU8Enum_reads ColourSupport.fromU8_toU8 _) (Reads.bind (readBool_reads _)
    (Reads.bind (readBool_reads _) (Reads.bind_pure (readBool_reads _)
      fun unicode => (⟨caps.colours, caps.images, caps.hyperlinks, unicode⟩ : TerminalCapabilities))))

theorem QueryResponse.decode_reads : ∀ resp : QueryResponse, Reads QueryResponse.decode resp.encode resp
  | .size cols rows => Reads.bind (readU8_reads 0) (Reads.bind (readU16_reads cols)
      (Reads.bind_pure (readU16_reads rows) (QueryResponse.size cols)))
  | .capabilities caps => Reads.bind (readU8_reads 1)
      (Reads.bind_pure (TerminalCapabilities.decode_reads caps) QueryResponse.capabilities)
  | .cursorPosition row col => Reads.bind (readU8_reads 2) (Reads.bind (readU16_reads row)
      (Reads.bind_pure (readU16_reads col) (QueryResponse.cursorPosition row)))

/-! ## Requests -/

/-- Nested values are well formed, and strings fit their `u16` lengths. -/
def Request.WellFormed : Request → Prop
  | .error value | .warning value | .write value => value.WellFormed
  | .requestInput req => req.WellFormed
  | .setTitle title => (utf8Bytes title).length < 2 ^ 16
  | .progress _ _ message => (utf8Bytes message).length < 2 ^ 16
  | .moveCursor .. | .clear _ | .query _ | .exit _ => True

/-- Whatever its length field says, a request's header and content read
back as the request. -/
theorem Request.decodeWithHeader_reads {r : Request} (hwf : r.WellFormed) (length : UInt32) :
    Reads Request.decodeWithHeader (writeTlvHeader r.msgType.toU16 length ++ r.content) r := by
  refine Reads.bind (readTlvHeader_reads _ length) ?_
  -- the guards are tried in the source's order; only the request's own type matches
  cases r with
  | error value =>
      simp +decide only [Request.msgType, reduceIte]
      exact Reads.bind_pure (Value.decode_reads hwf) Request.error
  | warning value =>
      simp +decide only [Request.msgType, reduceIte]
      exact Reads.bind_pure (Value.decode_reads hwf) Request.warning
  | moveCursor row col =>
      simp +decide only [Request.msgType, reduceIte]
      exact Reads.bind (readU16_reads row) (Reads.bind_pure (readU16_reads col) (Request.moveCursor row))
  | clear region =>
      simp +decide only [Request.msgType, reduceIte]
      exact Reads.bind_pure (decodeU8Enum_reads ClearRegion.fromU8_toU8 region) Request.clear
  | requestInput req =>
      simp +decide only [Request.msgType, reduceIte]
      exact Reads.bind_pure (InputRequest.decode_reads hwf) Request.requestInput
  | setTitle title =>
      simp +decide only [Request.msgType, reduceIte]
      exact Reads.bind_pure (readString_reads title hwf) Request.setTitle
  | progress current total message =>
      simp +decide only [Request.msgType, reduceIte, Request.content, List.append_assoc]
      exact Reads.bind (readU32_reads current) (Reads.bind (readU32_reads total)
        (Reads.bind_pure (readString_reads message hwf) (Request.progress current total)))
  | query q =>
      simp +decide only [Request.msgType, reduceIte]
      exact Reads.bind_pure (decodeU8Enum_reads TerminalQuery.fromU8_toU8 q) Request.query
  | exit code =>
      simp +decide only [Request.msgType, reduceIte]
      exact Reads.bind_pure (readI32_reads code) Request.exit
  | write value =>
      simp +decide only [Request.msgType, reduceIte]
      exact Reads.bind_pure (Value.decode_reads hwf) Request.write

theorem Request.toBytes_eq (r : Request) :
    r.toBytes = writeTlvHeader r.msgType.toU16 r.content.length.toUInt32 ++ r.content := by
  rw [Request.toBytes, Request.encodeWithHeader, writeFrame_eq, List.nil_append]

theorem Request.fromBytes_toBytes {r : Request} (hwf : r.WellFormed) :
    Request.fromBytes r.toBytes = .ok (r, r.toBytes.length) := by
  have h := decodeFrame_of_reads (Request.decodeWithHeader_reads hwf r.content.length.toUInt32) []
  rw [List.append_nil] at h
  rw [Request.fromBytes, Request.toBytes_eq]
  exact h

theorem Request.length_toBytes (r : Request) : r.toBytes.length = r.content.length + 6 :=
  length_writeFrame _ _

/-! ## Events -/

/-- An input response's value is well formed. -/
def Event.WellFormed : Event → Prop
  | .input resp => ∀ v ∈ resp.value, v.WellFormed
  | .key _ | .resize .. | .signal _ | .queryResponse _ => True

theorem Event.decodeWithHeader_reads {e : Event} (hwf : e.WellFormed) (length : UInt32) :
    Reads Event.decodeWithHeader (writeTlvHeader e.msgType.toU16 length ++ e.content) e := by
  refine Reads.bind (readTlvHeader_reads _ length) ?_
  cases e with
  | input resp =>
      simp +decide only [Event.msgType, reduceIte, Event.content, InputResponse.encode]
      exact Reads.bind_pure (Reads.bind (readU32_reads resp.id)
        (Reads.bind_pure (decodeOption_reads resp.value fun v hv => InputValue.decode_reads (hwf v hv))
          (InputResponse.mk resp.id))) Event.input
  | key k =>
      simp +decide only [Event.msgType, reduceIte]
      exact Reads.bind_pure (KeyEvent.decode_reads k) Event.key
  | resize cols rows =>
      simp +decide only [Event.msgType, reduceIte]
      exact Reads.bind (readU16_reads cols) (Reads.bind_pure (readU16_reads rows) (Event.resize cols))
  | signal sig =>
      simp +decide only [Event.msgType, reduceIte]
      exact Reads.bind_pure (decodeU8Enum_reads Signal.fromU8_toU8 sig) Event.signal
  | queryResponse resp =>
      simp +decide only [Event.msgType, reduceIte]
      exact Reads.bind_pure (QueryResponse.decode_reads resp) Event.queryResponse

theorem Event.toBytes_eq (e : Event) :
    e.toBytes = writeTlvHeader e.msgType.toU16 e.content.length.toUInt32 ++ e.content := by
  rw [Event.toBytes, Event.encodeWithHeader, writeFrame_eq, List.nil_append]

theorem Event.fromBytes_toBytes {e : Event} (hwf : e.WellFormed) :
    Event.fromBytes e.toBytes = .ok (e, e.toBytes.length) := by
  have h := decodeFrame_of_reads (Event.decodeWithHeader_reads hwf e.content.length.toUInt32) []
  rw [List.append_nil] at h
  rw [Event.fromBytes, Event.toBytes_eq]
  exact h

theorem Event.length_toBytes (e : Event) : e.toBytes.length = e.content.length + 6 :=
  length_writeFrame _ _

/-- An event's content is never longer than one string and a few fixed fields. -/
theorem Event.length_content_lt {e : Event} (hwf : e.WellFormed) : e.content.length < 2 ^ 16 + 16 := by
  cases e with
  | input resp =>
      obtain ⟨id, value⟩ := resp
      cases value with
      | none => simp [Event.content, InputResponse.encode, encodeOption]
      | some v =>
          have hv : v.WellFormed := hwf v rfl
          cases v with
          | text s =>
              have : (utf8Bytes s).length < 2 ^ 16 := hv
              simp only [Event.content, InputResponse.encode, encodeOption, InputValue.encode, writeString,
                List.length_append, List.length_cons, writeU32_length, writeU16_length]
              omega
          | char c =>
              have := length_utf8Bytes_singleton c
              simp only [Event.content, InputResponse.encode, encodeOption, InputValue.encode, writeString,
                List.length_append, List.length_cons, writeU32_length, writeU16_length]
              omega
          | bool b => simp [Event.content, InputResponse.encode, encodeOption, InputValue.encode, writeBool]
          | choice idx => simp [Event.content, InputResponse.encode, encodeOption, InputValue.encode]
  | key k => simp [Event.content, KeyEvent.encode]
  | resize cols rows => simp [Event.content]
  | signal sig => simp [Event.content]
  | queryResponse resp =>
      cases resp <;> simp [Event.content, QueryResponse.encode, TerminalCapabilities.encode, writeBool]

/-! ## The round trip and the length field -/

/-- The length field of a frame is what its header says, read as
`decode_with_header` reads it. -/
theorem Request.lengthField (r : Request) :
    (readTlvHeader.run.run (Decoder.new r.toBytes)).1 = .ok (r.msgType.toU16, r.content.length.toUInt32) := by
  rw [Request.toBytes_eq, readTlvHeader_frame]

theorem Event.lengthField (e : Event) :
    (readTlvHeader.run.run (Decoder.new e.toBytes)).1 = .ok (e.msgType.toU16, e.content.length.toUInt32) := by
  rw [Event.toBytes_eq, readTlvHeader_frame]

/-- Every well-formed request and event comes back from its bytes, with the
whole frame consumed; the length field is the content's length modulo
`2 ^ 32`, and for an event exactly its length. -/
theorem terminal_frames_round_trip :
    (∀ r : Request, r.WellFormed → Request.fromBytes r.toBytes = .ok (r, r.toBytes.length) ∧
        ∃ length : UInt32, (readTlvHeader.run.run (Decoder.new r.toBytes)).1 = .ok (r.msgType.toU16, length) ∧
          length.toNat = (r.toBytes.length - 6) % 2 ^ 32) ∧
      ∀ e : Event, e.WellFormed → Event.fromBytes e.toBytes = .ok (e, e.toBytes.length) ∧
        ∃ length : UInt32, (readTlvHeader.run.run (Decoder.new e.toBytes)).1 = .ok (e.msgType.toU16, length) ∧
          length.toNat = e.toBytes.length - 6 := by
  refine ⟨fun r hwf => ⟨Request.fromBytes_toBytes hwf, _, Request.lengthField r, ?_⟩,
    fun e hwf => ⟨Event.fromBytes_toBytes hwf, _, Event.lengthField e, ?_⟩⟩
  · rw [Request.length_toBytes, Nat.add_sub_cancel, Nat.toUInt32, UInt32.toNat_ofNat']
  · have hlt := Event.length_content_lt hwf
    have hsize : e.content.length < UInt32.size := by
      simp only [UInt32.size]
      omega
    rw [Event.length_toBytes, Nat.add_sub_cancel, UInt32.toNat_ofNat_of_lt' hsize]

theorem terminal_frames_round_trip_cursor :
    Request.fromBytes (Request.moveCursor 3 4).toBytes = .ok (.moveCursor 3 4, (Request.moveCursor 3 4).toBytes.length) ∧
      Event.fromBytes (Event.resize 80 24).toBytes = .ok (.resize 80 24, (Event.resize 80 24).toBytes.length) :=
  ⟨(terminal_frames_round_trip.1 (.moveCursor 3 4) trivial).1,
    (terminal_frames_round_trip.2 (.resize 80 24) trivial).1⟩

/-- A `Write` of a byte array of `u32::MAX` bytes, which fits its `u32`
length prefix. -/
def hugeWrite : Request := .write (.bytes (List.replicate (2 ^ 32 - 1) 0))

theorem Request.length_content_write_bytes (b : List UInt8) :
    (Request.write (.bytes b)).content.length = b.length + 5 := by
  simp only [Request.content, Value.encode, writeByteArray, List.length_cons, List.length_append, writeU32_length]
  omega

theorem hugeWrite_content_length : hugeWrite.content.length = 2 ^ 32 + 4 := by
  rw [hugeWrite, Request.length_content_write_bytes, List.length_replicate]
  omega

/-- It comes back from its frame, after `2 ^ 32 + 4` content bytes, while the
length field says `4`. -/
theorem huge_write_length_field_wraps :
    Request.fromBytes hugeWrite.toBytes = .ok (hugeWrite, 2 ^ 32 + 10) ∧
      (readTlvHeader.run.run (Decoder.new hugeWrite.toBytes)).1 = .ok (MessageType.write.toU16, 4) := by
  have hwf : hugeWrite.WellFormed :=
    show (List.replicate (2 ^ 32 - 1) (0 : UInt8)).length < 2 ^ 32 by rw [List.length_replicate]; omega
  refine ⟨?_, ?_⟩
  · rw [Request.fromBytes_toBytes hwf, Request.length_toBytes, hugeWrite_content_length]
  · rw [Request.lengthField, hugeWrite_content_length]
    rfl

end PandaOs.Abi.Terminal
