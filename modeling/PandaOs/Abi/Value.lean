import PandaOs.Abi.Encoding

/-!
# `panda_abi::value`: the pipeline `Value` and its codec

A `Value` is a tag byte and a payload. Strings, byte arrays, vectors and
options go through the codec of `encoding`; an array is a `Vec<Value>`, a
map its entry count as `u16` and then each key and value in key order, a
styled value its `Style` and the inner value, a link its URL and the inner
value, and a table its column count, its optional header row and its cells.

`BTreeMap<String, Value>` is kept as its entries in key order, keys
compared as bytes, as `String`'s `Ord` compares them; `mapInsert` is
`BTreeMap::insert`. `Table` is generic in its cells: its codec reads and
writes them through the cell codec, which for a `Value` is `Value`'s own.
A float is carried as its bits.

The decoder is recursive. Each level reads its tag byte before it reads
anything nested, so the nesting is never deeper than the bytes left:
`Value.decode` runs `Value.decodeFuel` with one more unit of fuel than
that, and the fuel never runs out first.
-/

namespace PandaOs.Abi

open PandaOs.Lib PandaOs.Abi.Encoding

/-- `NamedColour`. -/
inductive NamedColour where
  | black | red | green | yellow | blue | magenta | cyan | white
  | brightBlack | brightRed | brightGreen | brightYellow | brightBlue | brightMagenta | brightCyan | brightWhite
  deriving DecidableEq, Repr

/-- `c as u8`. -/
def NamedColour.toU8 : NamedColour → UInt8
  | .black => 0 | .red => 1 | .green => 2 | .yellow => 3
  | .blue => 4 | .magenta => 5 | .cyan => 6 | .white => 7
  | .brightBlack => 8 | .brightRed => 9 | .brightGreen => 10 | .brightYellow => 11
  | .brightBlue => 12 | .brightMagenta => 13 | .brightCyan => 14 | .brightWhite => 15

/-- `NamedColour::from_u8`. -/
def NamedColour.fromU8 (value : UInt8) : Option NamedColour :=
  match value.toNat with
  | 0 => some .black | 1 => some .red | 2 => some .green | 3 => some .yellow
  | 4 => some .blue | 5 => some .magenta | 6 => some .cyan | 7 => some .white
  | 8 => some .brightBlack | 9 => some .brightRed | 10 => some .brightGreen | 11 => some .brightYellow
  | 12 => some .brightBlue | 13 => some .brightMagenta | 14 => some .brightCyan | 15 => some .brightWhite
  | _ => none

theorem NamedColour.fromU8_toU8 (c : NamedColour) : NamedColour.fromU8 c.toU8 = some c := by
  cases c <;> rfl

/-- `Colour`. -/
inductive Colour where
  | named (c : NamedColour)
  | palette (p : UInt8)
  | rgb (r g b : UInt8)
  deriving DecidableEq, Repr

/-- `Colour::encode`. -/
def Colour.encode : Colour → List UInt8
  | .named c => [1, c.toU8]
  | .palette p => [2, p]
  | .rgb r g b => [3, r, g, b]

/-- `Colour::decode`. -/
def Colour.decode : DecodeM Colour := do
  match (← readU8).toNat with
  | 1 =>
      let c ← readU8
      match NamedColour.fromU8 c with
      | some colour => pure (.named colour)
      | none => throw .invalidValue
  | 2 =>
      let p ← readU8
      pure (.palette p)
  | 3 =>
      let r ← readU8
      let g ← readU8
      let b ← readU8
      pure (.rgb r g b)
  | _ => throw .invalidValue

/-- `Style`. -/
structure Style where
  foreground : Option Colour
  background : Option Colour
  bold : Bool
  italic : Bool
  underline : Bool
  strikethrough : Bool
  deriving DecidableEq, Repr

/-- The flag byte of `Style::encode`. -/
def Style.flags (s : Style) : UInt8 :=
  (if s.bold then 1 else 0) ||| (if s.italic then 2 else 0) ||| (if s.underline then 4 else 0) |||
    (if s.strikethrough then 8 else 0)

/-- `Style::encode`. -/
def Style.encode (s : Style) : List UInt8 :=
  s.flags :: (encodeOption Colour.encode s.foreground ++ encodeOption Colour.encode s.background)

/-- `Style::decode`. -/
def Style.decode : DecodeM Style := do
  let flags ← readU8
  let foreground ← decodeOption Colour.decode
  let background ← decodeOption Colour.decode
  pure ⟨foreground, background, flags &&& 1 ≠ 0, flags &&& 2 ≠ 0, flags &&& 4 ≠ 0, flags &&& 8 ≠ 0⟩

/-- `Table`, over its cells. -/
structure Table (α : Type) where
  cols : UInt16
  headers : Option (List α)
  cells : List α

/-- The structure checks at the end of `Table::decode`. -/
def Table.validate {α : Type} (t : Table α) : DecodeM (Table α) := do
  if t.cols = 0 ∧ !t.cells.isEmpty then throw .invalidValue
  match t.headers with
  | some h => if h.length ≠ t.cols.toNat then throw .invalidValue
  | none => pure ()
  if t.cols > 0 ∧ t.cells.length % t.cols.toNat ≠ 0 then throw .invalidValue
  pure t

/-- `Table::decode`, over the cell decoder. -/
def Table.decode {α : Type} (cell : DecodeM α) : DecodeM (Table α) := do
  let cols ← readU16
  let headers ← decodeOption (decodeVec cell)
  let cells ← decodeVec cell
  Table.validate ⟨cols, headers, cells⟩

/-- `ValueTag`. -/
inductive ValueTag where
  | null | bool | int | float | string | bytes | array | map | styled | link | table
  deriving DecidableEq, Repr

/-- `tag as u8`. -/
def ValueTag.toU8 : ValueTag → UInt8
  | .null => 0 | .bool => 1 | .int => 2 | .float => 3 | .string => 4 | .bytes => 5
  | .array => 6 | .map => 7 | .styled => 8 | .link => 9 | .table => 10

/-- `ValueTag::from_u8`. -/
def ValueTag.fromU8 (v : UInt8) : Option ValueTag :=
  match v.toNat with
  | 0 => some .null | 1 => some .bool | 2 => some .int | 3 => some .float
  | 4 => some .string | 5 => some .bytes | 6 => some .array | 7 => some .map
  | 8 => some .styled | 9 => some .link | 10 => some .table
  | _ => none

theorem ValueTag.fromU8_toU8 (t : ValueTag) : ValueTag.fromU8 t.toU8 = some t := by
  cases t <;> rfl

/-- `Value`. -/
inductive Value where
  | null
  | bool (b : Bool)
  | int (i : Int64)
  | float (bits : UInt64)
  | string (s : String)
  | bytes (b : List UInt8)
  | array (items : List Value)
  | map (entries : List (String × Value))
  | styled (style : Style) (inner : Value)
  | link (url : String) (inner : Value)
  | table (t : Table Value)

mutual

/-- `Value::encode`. -/
def Value.encode : Value → List UInt8
  | .null => [ValueTag.null.toU8]
  | .bool b => ValueTag.bool.toU8 :: writeBool b
  | .int i => ValueTag.int.toU8 :: writeI64 i
  | .float bits => ValueTag.float.toU8 :: writeF64 bits
  | .string s => ValueTag.string.toU8 :: writeString s
  | .bytes b => ValueTag.bytes.toU8 :: writeByteArray b
  | .array items => ValueTag.array.toU8 :: (writeU16 items.length.toUInt16 ++ Value.encodeItems items)
  | .map entries => ValueTag.map.toU8 :: (writeU16 entries.length.toUInt16 ++ Value.encodeEntries entries)
  | .styled style inner => ValueTag.styled.toU8 :: (style.encode ++ inner.encode)
  | .link url inner => ValueTag.link.toU8 :: (writeString url ++ inner.encode)
  | .table t => ValueTag.table.toU8 :: Value.encodeTable t
  termination_by structural v => v

/-- The items of `Vec<Value>::encode`, after its count. -/
def Value.encodeItems : List Value → List UInt8
  | [] => []
  | v :: vs => v.encode ++ Value.encodeItems vs
  termination_by structural vs => vs

/-- The entries of a map, key and value after key and value. -/
def Value.encodeEntries : List (String × Value) → List UInt8
  | [] => []
  | (k, v) :: rest => writeString k ++ v.encode ++ Value.encodeEntries rest
  termination_by structural entries => entries

/-- `Table::encode`. -/
def Value.encodeTable : Table Value → List UInt8
  | ⟨cols, headers, cells⟩ =>
      writeU16 cols ++ Value.encodeHeaders headers ++ (writeU16 cells.length.toUInt16 ++ Value.encodeItems cells)
  termination_by structural t => t

/-- `Option<Vec<Value>>::encode`, of a table's header row. -/
def Value.encodeHeaders : Option (List Value) → List UInt8
  | none => [0]
  | some headers => 1 :: (writeU16 headers.length.toUInt16 ++ Value.encodeItems headers)
  termination_by structural headers => headers

end

/-- `BTreeMap::insert`, on a map kept as its entries in key order. -/
def mapInsert {α : Type} (k : String) (v : α) : List (String × α) → List (String × α)
  | [] => [(k, v)]
  | (k', v') :: rest =>
      if k = k' then (k, v) :: rest
      else if utf8Bytes k < utf8Bytes k' then (k, v) :: (k', v') :: rest
      else (k', v') :: mapInsert k v rest

/-- The `match` of `Value::decode` on a tag already read, with `inner` the
decoder for the values nested in it. -/
def Value.decodePayload (inner : DecodeM Value) : ValueTag → DecodeM Value
  | .null => pure .null
  | .bool => do
      let b ← readBool
      pure (.bool b)
  | .int => do
      let i ← readI64
      pure (.int i)
  | .float => do
      let bits ← readF64
      pure (.float bits)
  | .string => do
      let s ← readString
      pure (.string s)
  | .bytes => do
      let b ← readByteArray
      pure (.bytes b)
  | .array => do
      let items ← decodeVec inner
      pure (.array items)
  | .map => do
      let count := (← readU16).toNat
      let map ← repeatFold (fun map => do
        let k ← readString
        let v ← inner
        pure (mapInsert k v map)) count []
      pure (.map map)
  | .styled => do
      let style ← Style.decode
      let v ← inner
      pure (.styled style v)
  | .link => do
      let url ← readString
      let v ← inner
      pure (.link url v)
  | .table => do
      let t ← Table.decode inner
      pure (.table t)

/-- `Value::decode` with at most `fuel` levels of nesting. -/
def Value.decodeFuel : Nat → DecodeM Value
  | 0 => throw .truncated
  | fuel + 1 => do
      let some tag := ValueTag.fromU8 (← readU8) | throw .unknownType
      Value.decodePayload (Value.decodeFuel fuel) tag

/-- `Value::decode`: one more level of fuel than there are bytes left. -/
def Value.decode : DecodeM Value := do
  let dec ← get
  Value.decodeFuel (remaining dec + 1)

/-- `Value::from_bytes`: a value read from the start of the bytes; what
follows it is ignored. -/
def Value.fromBytes (bytes : List UInt8) : Except DecodeError Value :=
  (Value.decode.run.run (Decoder.new bytes)).1

end PandaOs.Abi
