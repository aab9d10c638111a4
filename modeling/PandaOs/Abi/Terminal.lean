import PandaOs.Abi.Value

/-!
# `panda_abi::terminal`: the control plane between a terminal and its child

A child sends `Request`s to its terminal and the terminal answers with
`Event`s, both on the `PARENT` channel, each message a TLV frame: a `u16`
message type, a `u32` length and the content. `encode_with_header` writes
the header with length `0`, then the content, and patches the length with
the number of bytes the content took, `as u32`. `decode_with_header` reads
the header, dispatches on the type and never looks at the length again.

The fieldless `#[repr(u8)]` enums all travel as their discriminant byte,
and all decode through one table (`decodeU8Enum`): a byte outside it is
`InvalidValue`. `usize` is a `Nat`; `InputValue::Choice` writes it `as u32`.
-/

namespace PandaOs.Abi.Terminal

open PandaOs.Lib PandaOs.Abi.Encoding

variable {α : Type}

/-- The `Decode` of a fieldless `#[repr(u8)]` enum: the `match` on its
discriminant byte, `fromU8`, with `InvalidValue` for any other byte. -/
def decodeU8Enum (fromU8 : UInt8 → Option α) : DecodeM α := do
  match fromU8 (← readU8) with
  | some x => pure x
  | none => throw .invalidValue

/-- The frame both `encode_with_header`s write after the encoder's buffer
`buf`: the header with a placeholder length, the content, and the length
patched to the content's, `as u32`. -/
def writeFrame (msgType : UInt16) (content buf : List UInt8) : List UInt8 :=
  let lenPos := (buf ++ writeU16 msgType).length
  let buf := buf ++ writeTlvHeader msgType 0
  let contentStart := buf.length
  let buf := buf ++ content
  let contentLen := buf.length - contentStart
  updateLength buf lenPos contentLen.toUInt32

/-- Both `from_bytes`: decode a message from the start of `bytes`, and
return it with the decoder's position after it. -/
def decodeFrame (decodeWithHeader : DecodeM α) (bytes : List UInt8) : Except DecodeError (α × Nat) :=
  match decodeWithHeader.run.run (Decoder.new bytes) with
  | (.ok msg, dec) => .ok (msg, dec.pos)
  | (.error e, _) => .error e

/-! ## Message types -/

/-- `MessageType`. -/
inductive MessageType where
  | write | moveCursor | clear | requestInput | setTitle | progress | query | exit | error | warning
  | inputResponse | key | resize | signal | queryResponse
  deriving DecidableEq, Repr

/-- `msg_type as u16`. -/
def MessageType.toU16 : MessageType → UInt16
  | .write => 0x0001 | .moveCursor => 0x0002 | .clear => 0x0003 | .requestInput => 0x0004
  | .setTitle => 0x0005 | .progress => 0x0006 | .query => 0x0007 | .exit => 0x0008
  | .error => 0x0009 | .warning => 0x000A
  | .inputResponse => 0x0100 | .key => 0x0101 | .resize => 0x0102 | .signal => 0x0103
  | .queryResponse => 0x0104

/-! ## The `u8` enums -/

/-- `ClearRegion`. -/
inductive ClearRegion where
  | screen | toEndOfScreen | toEndOfLine | line
  deriving DecidableEq, Repr

/-- `region as u8`. -/
def ClearRegion.toU8 : ClearRegion → UInt8
  | .screen => 0 | .toEndOfScreen => 1 | .toEndOfLine => 2 | .line => 3

/-- The `match` of `ClearRegion::decode`. -/
def ClearRegion.fromU8 (v : UInt8) : Option ClearRegion :=
  match v.toNat with
  | 0 => some .screen | 1 => some .toEndOfScreen | 2 => some .toEndOfLine | 3 => some .line
  | _ => none

theorem ClearRegion.fromU8_toU8 (x : ClearRegion) : ClearRegion.fromU8 x.toU8 = some x := by
  cases x <;> rfl

/-- `ClearRegion::decode`. -/
def ClearRegion.decode : DecodeM ClearRegion := decodeU8Enum ClearRegion.fromU8

/-- `InputKind`. -/
inductive InputKind where
  | line | password | char | confirm | choice | rawKeys
  deriving DecidableEq, Repr

/-- `kind as u8`. -/
def InputKind.toU8 : InputKind → UInt8
  | .line => 0 | .password => 1 | .char => 2 | .confirm => 3 | .choice => 4 | .rawKeys => 5

/-- The `match` of `InputKind::decode`. -/
def InputKind.fromU8 (v : UInt8) : Option InputKind :=
  match v.toNat with
  | 0 => some .line | 1 => some .password | 2 => some .char | 3 => some .confirm
  | 4 => some .choice | 5 => some .rawKeys
  | _ => none

theorem InputKind.fromU8_toU8 (x : InputKind) : InputKind.fromU8 x.toU8 = some x := by
  cases x <;> rfl

/-- `InputKind::decode`. -/
def InputKind.decode : DecodeM InputKind := decodeU8Enum InputKind.fromU8

/-- `TerminalQuery`. -/
inductive TerminalQuery where
  | size | capabilities | cursorPosition
  deriving DecidableEq, Repr

/-- `query as u8`. -/
def TerminalQuery.toU8 : TerminalQuery → UInt8
  | .size => 0 | .capabilities => 1 | .cursorPosition => 2

/-- The `match` of `TerminalQuery::decode`. -/
def TerminalQuery.fromU8 (v : UInt8) : Option TerminalQuery :=
  match v.toNat with
  | 0 => some .size | 1 => some .capabilities | 2 => some .cursorPosition
  | _ => none

theorem TerminalQuery.fromU8_toU8 (x : TerminalQuery) : TerminalQuery.fromU8 x.toU8 = some x := by
  cases x <;> rfl

/-- `TerminalQuery::decode`. -/
def TerminalQuery.decode : DecodeM TerminalQuery := decodeU8Enum TerminalQuery.fromU8

/-- `Signal`. -/
inductive Signal where
  | interrupt | quit | suspend
  deriving DecidableEq, Repr

/-- `signal as u8`. -/
def Signal.toU8 : Signal → UInt8
  | .interrupt => 0 | .quit => 1 | .suspend => 2

/-- The `match` of `Signal::decode`. -/
def Signal.fromU8 (v : UInt8) : Option Signal :=
  match v.toNat with
  | 0 => some .interrupt | 1 => some .quit | 2 => some .suspend
  | _ => none

theorem Signal.fromU8_toU8 (x : Signal) : Signal.fromU8 x.toU8 = some x := by
  cases x <;> rfl

/-- `Signal::decode`. -/
def Signal.decode : DecodeM Signal := decodeU8Enum Signal.fromU8

/-- `ColourSupport`. -/
inductive ColourSupport where
  | none | basic | palette | trueColour
  deriving DecidableEq, Repr

/-- `support as u8`. -/
def ColourSupport.toU8 : ColourSupport → UInt8
  | .none => 0 | .basic => 1 | .palette => 2 | .trueColour => 3

/-- The `match` of `ColourSupport::decode`. -/
def ColourSupport.fromU8 (v : UInt8) : Option ColourSupport :=
  match v.toNat with
  | 0 => some .none | 1 => some .basic | 2 => some .palette | 3 => some .trueColour
  | _ => none

theorem ColourSupport.fromU8_toU8 (x : ColourSupport) : ColourSupport.fromU8 x.toU8 = some x := by
  cases x <;> rfl

/-- `ColourSupport::decode`. -/
def ColourSupport.decode : DecodeM ColourSupport := decodeU8Enum ColourSupport.fromU8

/-! ## Requests -/

/-- `InputRequest`. -/
structure InputRequest where
  id : UInt32
  kind : InputKind
  prompt : Option Value
  choices : List String

/-- `InputRequest::encode`. -/
def InputRequest.encode (req : InputRequest) : List UInt8 :=
  writeU32 req.id ++ [req.kind.toU8] ++ encodeOption Value.encode req.prompt ++ encodeVec writeString req.choices

/-- `InputRequest::decode`. -/
def InputRequest.decode : DecodeM InputRequest := do
  let id ← readU32
  let kind ← InputKind.decode
  let prompt ← decodeOption Value.decode
  let choices ← decodeVec readString
  pure ⟨id, kind, prompt, choices⟩

/-- `Request`. -/
inductive Request where
  | error (value : Value)
  | warning (value : Value)
  | moveCursor (row col : UInt16)
  | clear (region : ClearRegion)
  | requestInput (req : InputRequest)
  | setTitle (title : String)
  | progress (current total : UInt32) (message : String)
  | query (query : TerminalQuery)
  | exit (code : Int32)
  | write (value : Value)

/-- The first `match` of `Request::encode_with_header`. -/
def Request.msgType : Request → MessageType
  | .error _ => .error
  | .warning _ => .warning
  | .moveCursor .. => .moveCursor
  | .clear _ => .clear
  | .requestInput _ => .requestInput
  | .setTitle _ => .setTitle
  | .progress .. => .progress
  | .query _ => .query
  | .exit _ => .exit
  | .write _ => .write

/-- The content bytes, the second `match` of `Request::encode_with_header`. -/
def Request.content : Request → List UInt8
  | .error value => value.encode
  | .warning value => value.encode
  | .moveCursor row col => writeU16 row ++ writeU16 col
  | .clear region => [region.toU8]
  | .requestInput req => req.encode
  | .setTitle title => writeString title
  | .progress current total message => writeU32 current ++ writeU32 total ++ writeString message
  | .query q => [q.toU8]
  | .exit code => writeI32 code
  | .write value => value.encode

/-- `Request::encode_with_header`. -/
def Request.encodeWithHeader (r : Request) (buf : List UInt8) : List UInt8 :=
  writeFrame r.msgType.toU16 r.content buf

/-- `Request::to_bytes`. -/
def Request.toBytes (r : Request) : List UInt8 := r.encodeWithHeader []

/-- `Request::decode_with_header`: the type's guards in the source's order;
the length is read and dropped. -/
def Request.decodeWithHeader : DecodeM Request := do
  let (msgType, _length) ← readTlvHeader
  if msgType = MessageType.error.toU16 then
    let value ← Value.decode
    pure (.error value)
  else if msgType = MessageType.warning.toU16 then
    let value ← Value.decode
    pure (.warning value)
  else if msgType = MessageType.write.toU16 then
    let value ← Value.decode
    pure (.write value)
  else if msgType = MessageType.moveCursor.toU16 then
    let row ← readU16
    let col ← readU16
    pure (.moveCursor row col)
  else if msgType = MessageType.clear.toU16 then
    let region ← ClearRegion.decode
    pure (.clear region)
  else if msgType = MessageType.requestInput.toU16 then
    let req ← InputRequest.decode
    pure (.requestInput req)
  else if msgType = MessageType.setTitle.toU16 then
    let title ← readString
    pure (.setTitle title)
  else if msgType = MessageType.progress.toU16 then
    let current ← readU32
    let total ← readU32
    let message ← readString
    pure (.progress current total message)
  else if msgType = MessageType.query.toU16 then
    let query ← TerminalQuery.decode
    pure (.query query)
  else if msgType = MessageType.exit.toU16 then
    let code ← readI32
    pure (.exit code)
  else throw .unknownType

/-- `Request::from_bytes`. -/
def Request.fromBytes (bytes : List UInt8) : Except DecodeError (Request × Nat) :=
  decodeFrame Request.decodeWithHeader bytes

/-! ## Events -/

/-- `InputValue`. -/
inductive InputValue where
  | text (s : String)
  | char (c : Char)
  | bool (b : Bool)
  | choice (idx : Nat)

/-- `InputValue::encode`: a character as the string of its UTF-8 bytes, a
choice index `as u32`. -/
def InputValue.encode : InputValue → List UInt8
  | .text s => 0 :: writeString s
  | .char c => 1 :: writeString (String.singleton c)
  | .bool b => 2 :: writeBool b
  | .choice idx => 3 :: writeU32 idx.toUInt32

/-- `InputValue::decode`: a character is the first of the string read. -/
def InputValue.decode : DecodeM InputValue := do
  match (← readU8).toNat with
  | 0 =>
      let s ← readString
      pure (.text s)
  | 1 =>
      let s ← readString
      match s.toList with
      | c :: _ => pure (.char c)
      | [] => throw .invalidValue
  | 2 =>
      let b ← readBool
      pure (.bool b)
  | 3 =>
      let idx ← readU32
      pure (.choice idx.toNat)
  | _ => throw .invalidValue

/-- `InputResponse`. -/
structure InputResponse where
  id : UInt32
  value : Option InputValue

/-- `InputResponse::encode`. -/
def InputResponse.encode (resp : InputResponse) : List UInt8 :=
  writeU32 resp.id ++ encodeOption InputValue.encode resp.value

/-- `InputResponse::decode`. -/
def InputResponse.decode : DecodeM InputResponse := do
  let id ← readU32
  let value ← decodeOption InputValue.decode
  pure ⟨id, value⟩

/-- `KeyModifiers`. -/
structure KeyModifiers where
  shift : Bool
  ctrl : Bool
  alt : Bool

/-- `KeyEvent`. -/
structure KeyEvent where
  code : UInt16
  modifiers : KeyModifiers
  value : UInt8

/-- The modifier byte of `KeyEvent::encode`. -/
def KeyModifiers.mods (m : KeyModifiers) : UInt8 :=
  (if m.shift then 1 else 0) ||| (if m.ctrl then 2 else 0) ||| (if m.alt then 4 else 0)

/-- `KeyEvent::encode`. -/
def KeyEvent.encode (key : KeyEvent) : List UInt8 :=
  writeU16 key.code ++ [key.modifiers.mods, key.value]

/-- `KeyEvent::decode`. -/
def KeyEvent.decode : DecodeM KeyEvent := do
  let code ← readU16
  let mods ← readU8
  let value ← readU8
  pure ⟨code, ⟨mods &&& 1 ≠ 0, mods &&& 2 ≠ 0, mods &&& 4 ≠ 0⟩, value⟩

/-- `TerminalCapabilities`. -/
structure TerminalCapabilities where
  colours : ColourSupport
  images : Bool
  hyperlinks : Bool
  unicode : Bool

/-- `TerminalCapabilities::encode`. -/
def TerminalCapabilities.encode (caps : TerminalCapabilities) : List UInt8 :=
  [caps.colours.toU8] ++ writeBool caps.images ++ writeBool caps.hyperlinks ++ writeBool caps.unicode

/-- `TerminalCapabilities::decode`. -/
def TerminalCapabilities.decode : DecodeM TerminalCapabilities := do
  let colours ← ColourSupport.decode
  let images ← readBool
  let hyperlinks ← readBool
  let unicode ← readBool
  pure ⟨colours, images, hyperlinks, unicode⟩

/-- `QueryResponse`. -/
inductive QueryResponse where
  | size (cols rows : UInt16)
  | capabilities (caps : TerminalCapabilities)
  | cursorPosition (row col : UInt16)

/-- `QueryResponse::encode`. -/
def QueryResponse.encode : QueryResponse → List UInt8
  | .size cols rows => 0 :: (writeU16 cols ++ writeU16 rows)
  | .capabilities caps => 1 :: caps.encode
  | .cursorPosition row col => 2 :: (writeU16 row ++ writeU16 col)

/-- `QueryResponse::decode`. -/
def QueryResponse.decode : DecodeM QueryResponse := do
  match (← readU8).toNat with
  | 0 =>
      let cols ← readU16
      let rows ← readU16
      pure (.size cols rows)
  | 1 =>
      let caps ← TerminalCapabilities.decode
      pure (.capabilities caps)
  | 2 =>
      let row ← readU16
      let col ← readU16
      pure (.cursorPosition row col)
  | _ => throw .invalidValue

/-- `Event`. -/
inductive Event where
  | input (resp : InputResponse)
  | key (key : KeyEvent)
  | resize (cols rows : UInt16)
  | signal (sig : Signal)
  | queryResponse (resp : QueryResponse)

/-- The first `match` of `Event::encode_with_header`. -/
def Event.msgType : Event → MessageType
  | .input _ => .inputResponse
  | .key _ => .key
  | .resize .. => .resize
  | .signal _ => .signal
  | .queryResponse _ => .queryResponse

/-- The content bytes, the second `match` of `Event::encode_with_header`. -/
def Event.content : Event → List UInt8
  | .input resp => resp.encode
  | .key k => k.encode
  | .resize cols rows => writeU16 cols ++ writeU16 rows
  | .signal sig => [sig.toU8]
  | .queryResponse resp => resp.encode

/-- `Event::encode_with_header`. -/
def Event.encodeWithHeader (e : Event) (buf : List UInt8) : List UInt8 :=
  writeFrame e.msgType.toU16 e.content buf

/-- `Event::to_bytes`. -/
def Event.toBytes (e : Event) : List UInt8 := e.encodeWithHeader []

/-- `Event::decode_with_header`. -/
def Event.decodeWithHeader : DecodeM Event := do
  let (msgType, _length) ← readTlvHeader
  if msgType = MessageType.inputResponse.toU16 then
    let resp ← InputResponse.decode
    pure (.input resp)
  else if msgType = MessageType.key.toU16 then
    let key ← KeyEvent.decode
    pure (.key key)
  else if msgType = MessageType.resize.toU16 then
    let cols ← readU16
    let rows ← readU16
    pure (.resize cols rows)
  else if msgType = MessageType.signal.toU16 then
    let sig ← Signal.decode
    pure (.signal sig)
  else if msgType = MessageType.queryResponse.toU16 then
    let resp ← QueryResponse.decode
    pure (.queryResponse resp)
  else throw .unknownType

/-- `Event::from_bytes`. -/
def Event.fromBytes (bytes : List UInt8) : Except DecodeError (Event × Nat) :=
  decodeFrame Event.decodeWithHeader bytes

end PandaOs.Abi.Terminal
