import PandaOs.Abi.Value

/-!
# The `Value` codec reads back what it writes

`Value.WellFormed` is what a `Value` built in Rust satisfies and the wire
format needs: every string fits its `u16` length, every byte array its
`u32` length, every vector and map its `u16` count; a map's keys are in
increasing order, as a `BTreeMap` iterates them; a table is rectangular.

The round trip is a `Reads` fact, proved for every value by induction on
the fuel: a value's encoding is longer than that of anything nested in it,
so its children are read with one unit of fuel less. Each constructor
assembles its `Reads` fact from those of its fields. The map entries come
back through `BTreeMap::insert`, which appends a key larger than all the
keys before it; the table passes its structure checks.
-/

namespace PandaOs.Abi

open PandaOs.Lib PandaOs.Abi.Encoding

/-! ## Well-formed values -/

mutual

/-- The lengths fit their prefixes, map keys increase and tables are
rectangular, at every level. -/
def Value.WellFormed : Value → Prop
  | .string s => (utf8Bytes s).length < 2 ^ 16
  | .bytes b => b.length < 2 ^ 32
  | .array items => items.length < 2 ^ 16 ∧ Value.AllWellFormed items
  | .map entries =>
      entries.length < 2 ^ 16 ∧ (entries.map fun e => utf8Bytes e.1).Pairwise (· < ·) ∧
        Value.EntriesWellFormed entries
  | .styled _ inner => inner.WellFormed
  | .link url inner => (utf8Bytes url).length < 2 ^ 16 ∧ inner.WellFormed
  | .table t => Value.TableWellFormed t
  | .null | .bool _ | .int _ | .float _ => True
  termination_by structural v => v

/-- Every item is well formed. -/
def Value.AllWellFormed : List Value → Prop
  | [] => True
  | v :: vs => v.WellFormed ∧ Value.AllWellFormed vs
  termination_by structural vs => vs

/-- Every key fits its `u16` length and every value is well formed. -/
def Value.EntriesWellFormed : List (String × Value) → Prop
  | [] => True
  | (k, v) :: rest => (utf8Bytes k).length < 2 ^ 16 ∧ v.WellFormed ∧ Value.EntriesWellFormed rest
  termination_by structural entries => entries

/-- The `Table` invariant, and well-formed headers and cells. -/
def Value.TableWellFormed : Table Value → Prop
  | ⟨cols, headers, cells⟩ =>
      (cols = 0 → cells = []) ∧ (∀ h ∈ headers, h.length = cols.toNat) ∧ cells.length % cols.toNat = 0 ∧
        Value.HeadersWellFormed headers ∧ cells.length < 2 ^ 16 ∧ Value.AllWellFormed cells
  termination_by structural t => t

/-- A well-formed header row, if any. -/
def Value.HeadersWellFormed : Option (List Value) → Prop
  | none => True
  | some headers => headers.length < 2 ^ 16 ∧ Value.AllWellFormed headers
  termination_by structural headers => headers

end

theorem Value.allWellFormed_iff : ∀ {items : List Value}, Value.AllWellFormed items ↔ ∀ v ∈ items, v.WellFormed
  | [] => by simp [Value.AllWellFormed]
  | v :: vs => by
      rw [Value.AllWellFormed, @Value.allWellFormed_iff vs]
      simp

theorem Value.entriesWellFormed_iff : ∀ {entries : List (String × Value)},
    Value.EntriesWellFormed entries ↔ ∀ e ∈ entries, (utf8Bytes e.1).length < 2 ^ 16 ∧ e.2.WellFormed
  | [] => by simp [Value.EntriesWellFormed]
  | (k, v) :: rest => by
      rw [Value.EntriesWellFormed, @Value.entriesWellFormed_iff rest]
      simp [and_assoc]

/-! ## The encoders as the generic ones -/

theorem Value.encodeItems_eq : ∀ items : List Value, Value.encodeItems items = items.flatMap Value.encode
  | [] => rfl
  | v :: vs => by
      show v.encode ++ Value.encodeItems vs = _
      rw [Value.encodeItems_eq vs, List.flatMap_cons]

/-- A map entry: its key, then its value. -/
def entryBytes (e : String × Value) : List UInt8 := writeString e.1 ++ e.2.encode

theorem Value.encodeEntries_eq : ∀ entries : List (String × Value),
    Value.encodeEntries entries = entries.flatMap entryBytes
  | [] => rfl
  | (k, v) :: rest => by
      show writeString k ++ v.encode ++ Value.encodeEntries rest = _
      rw [Value.encodeEntries_eq rest, List.flatMap_cons, entryBytes, List.append_assoc]

theorem Value.encode_array (items : List Value) :
    (Value.array items).encode = ValueTag.array.toU8 :: Encoding.encodeVec Value.encode items := by
  show ValueTag.array.toU8 :: (writeU16 items.length.toUInt16 ++ Value.encodeItems items) = _
  rw [Value.encodeItems_eq]
  rfl

theorem Value.encode_map (entries : List (String × Value)) :
    (Value.map entries).encode =
      ValueTag.map.toU8 :: (writeU16 entries.length.toUInt16 ++ entries.flatMap entryBytes) := by
  show ValueTag.map.toU8 :: (writeU16 entries.length.toUInt16 ++ Value.encodeEntries entries) = _
  rw [Value.encodeEntries_eq]

/-- `Table::encode`, over the cell encoder. -/
def Table.encode {α : Type} (cell : α → List UInt8) (t : Table α) : List UInt8 :=
  writeU16 t.cols ++ encodeOption (Encoding.encodeVec cell) t.headers ++ Encoding.encodeVec cell t.cells

theorem Value.encode_table (t : Table Value) :
    (Value.table t).encode = ValueTag.table.toU8 :: t.encode Value.encode := by
  obtain ⟨cols, headers, cells⟩ := t
  show ValueTag.table.toU8 :: (writeU16 cols ++ Value.encodeHeaders headers ++
    (writeU16 cells.length.toUInt16 ++ Value.encodeItems cells)) = _
  cases headers with
  | none => rw [Value.encodeItems_eq]; rfl
  | some hs =>
      show ValueTag.table.toU8 :: (writeU16 cols ++ 1 :: (writeU16 hs.length.toUInt16 ++ Value.encodeItems hs) ++
        (writeU16 cells.length.toUInt16 ++ Value.encodeItems cells)) = _
      rw [Value.encodeItems_eq, Value.encodeItems_eq]
      rfl

/-! ## Nested values are shorter -/

theorem length_le_flatMap {β : Type} {f : β → List UInt8} {x : β} {xs : List β} (hx : x ∈ xs) :
    (f x).length ≤ (xs.flatMap f).length := by
  induction xs with
  | nil => cases hx
  | cons y ys ih =>
      rw [List.flatMap_cons, List.length_append]
      rcases List.mem_cons.mp hx with rfl | hmem
      · omega
      · have := ih hmem
        omega

theorem Value.length_lt_array {x : Value} {items : List Value} (hx : x ∈ items) :
    x.encode.length < (Value.array items).encode.length := by
  have := length_le_flatMap (f := Value.encode) hx
  rw [Value.encode_array, List.length_cons, Encoding.encodeVec, List.length_append]
  omega

theorem Value.length_lt_map {e : String × Value} {entries : List (String × Value)} (he : e ∈ entries) :
    e.2.encode.length < (Value.map entries).encode.length := by
  have := length_le_flatMap (f := entryBytes) he
  rw [entryBytes, List.length_append] at this
  rw [Value.encode_map, List.length_cons, List.length_append]
  omega

theorem Value.length_lt_table_cells {x : Value} {t : Table Value} (hx : x ∈ t.cells) :
    x.encode.length < (Value.table t).encode.length := by
  have := length_le_flatMap (f := Value.encode) hx
  simp only [Value.encode_table, List.length_cons, Table.encode, Encoding.encodeVec, List.length_append]
  omega

theorem Value.length_lt_table_headers {x : Value} {t : Table Value} {hs : List Value} (hh : t.headers = some hs)
    (hx : x ∈ hs) : x.encode.length < (Value.table t).encode.length := by
  have := length_le_flatMap (f := Value.encode) hx
  rw [Value.encode_table, List.length_cons, Table.encode, hh, List.length_append, List.length_append,
    encodeOption, List.length_cons, Encoding.encodeVec, List.length_append]
  omega

/-! ## Colours, styles and tables -/

theorem Colour.decode_reads : ∀ c : Colour, Reads Colour.decode c.encode c
  | .named c => by
      show Reads Colour.decode ([1] ++ ([c.toU8] ++ [])) (.named c)
      refine Reads.bind (readU8_reads 1) ?_
      refine Reads.bind (readU8_reads c.toU8) ?_
      simp only [NamedColour.fromU8_toU8]
      exact Reads.pure _
  | .palette p => by
      show Reads Colour.decode ([2] ++ ([p] ++ [])) (.palette p)
      exact Reads.bind (readU8_reads 2) (Reads.bind (readU8_reads p) (Reads.pure _))
  | .rgb r g b => by
      show Reads Colour.decode ([3] ++ ([r] ++ ([g] ++ ([b] ++ [])))) (.rgb r g b)
      exact Reads.bind (readU8_reads 3) (Reads.bind (readU8_reads r) (Reads.bind (readU8_reads g)
        (Reads.bind (readU8_reads b) (Reads.pure _))))

/-- The four flags come back out of the flag byte. -/
theorem Style.flags_bits (s : Style) :
    decide (s.flags &&& 1 ≠ 0) = s.bold ∧ decide (s.flags &&& 2 ≠ 0) = s.italic ∧
      decide (s.flags &&& 4 ≠ 0) = s.underline ∧ decide (s.flags &&& 8 ≠ 0) = s.strikethrough := by
  obtain ⟨_, _, b, i, u, st⟩ := s
  cases b <;> cases i <;> cases u <;> cases st <;> simp [Style.flags] <;> decide

theorem Style.decode_reads (s : Style) : Reads Style.decode s.encode s := by
  obtain ⟨hb, hi, hu, hst⟩ := Style.flags_bits s
  show Reads Style.decode ([s.flags] ++
    (encodeOption Colour.encode s.foreground ++ encodeOption Colour.encode s.background)) s
  refine Reads.bind (readU8_reads _) (Reads.bind (decodeOption_reads _ fun c _ => Colour.decode_reads c) ?_)
  simp only [hb, hi, hu, hst]
  exact Reads.bind_pure (decodeOption_reads s.background fun c _ => Colour.decode_reads c)
    fun background : Option Colour => (⟨s.foreground, background, s.bold, s.italic, s.underline,
      s.strikethrough⟩ : Style)

/-- A rectangular table passes the checks of `Table::decode`. -/
theorem Table.validate_of_valid {α : Type} {t : Table α} (hcols : t.cols = 0 → t.cells = [])
    (hheaders : ∀ h ∈ t.headers, h.length = t.cols.toNat) (hcells : t.cells.length % t.cols.toNat = 0) :
    Table.validate t = pure t := by
  obtain ⟨cols, headers, cells⟩ := t
  have hzero : ¬ (cols = 0 ∧ (!cells.isEmpty) = true) := by
    rintro ⟨h0, hne⟩
    simp [show cells = [] from hcols h0] at hne
  have hrows : ¬ (cols > 0 ∧ cells.length % cols.toNat ≠ 0) := fun ⟨_, h⟩ => h hcells
  cases headers with
  | none => simp only [Table.validate, if_neg hzero, if_neg hrows]
  | some h =>
      have hh : ¬ h.length ≠ cols.toNat := not_not.mpr (hheaders h rfl)
      simp only [Table.validate, if_neg hzero, if_neg hh, if_neg hrows]

theorem Table.decode_reads {α : Type} {cell : DecodeM α} {enc : α → List UInt8} (t : Table α)
    (hcols : t.cols = 0 → t.cells = []) (hheaders : ∀ h ∈ t.headers, h.length = t.cols.toNat)
    (hcells : t.cells.length % t.cols.toNat = 0)
    (hlenHeaders : ∀ h ∈ t.headers, h.length < 2 ^ 16) (hlenCells : t.cells.length < 2 ^ 16)
    (hcell : ∀ x, (∃ h ∈ t.headers, x ∈ h) ∨ x ∈ t.cells → Reads cell (enc x) x) :
    Reads (Table.decode cell) (t.encode enc) t := by
  obtain ⟨cols, headers, cells⟩ := t
  have hheadersReads : Reads (decodeOption (decodeVec cell)) (encodeOption (Encoding.encodeVec enc) headers)
      headers :=
    decodeOption_reads headers fun h hh => decodeVec_reads h (hlenHeaders h hh)
      fun x hx => hcell x (.inl ⟨h, hh, hx⟩)
  have hcellsReads : Reads (decodeVec cell) (Encoding.encodeVec enc cells) cells :=
    decodeVec_reads cells hlenCells fun x hx => hcell x (.inr hx)
  rw [Table.encode, List.append_assoc]
  refine Reads.bind (readU16_reads cols) (Reads.bind hheadersReads (Reads.bind_end hcellsReads ?_))
  show Reads (Table.validate ⟨cols, headers, cells⟩) [] _
  rw [Table.validate_of_valid hcols hheaders hcells]
  exact Reads.pure _

/-! ## Maps come back through `BTreeMap::insert` -/

/-- A key larger than every key of the map goes at the end. -/
theorem mapInsert_of_lt {α : Type} (k : String) (v : α) :
    ∀ (m : List (String × α)), (∀ e ∈ m, utf8Bytes e.1 < utf8Bytes k) → mapInsert k v m = m ++ [(k, v)]
  | [], _ => rfl
  | (k', v') :: rest, h => by
      have hlt := h (k', v') List.mem_cons_self
      have hne : k ≠ k' := by
        rintro rfl
        exact List.lt_irrefl _ hlt
      rw [mapInsert, if_neg hne, if_neg (List.lt_asymm hlt),
        mapInsert_of_lt k v rest fun e he => h e (List.mem_cons_of_mem _ he)]
      rfl

/-- Inserting entries in increasing key order rebuilds them. -/
theorem foldl_mapInsert {α : Type} :
    ∀ (entries acc : List (String × α)), ((acc ++ entries).map fun e => utf8Bytes e.1).Pairwise (· < ·) →
      entries.foldl (fun m e => mapInsert e.1 e.2 m) acc = acc ++ entries
  | [], acc, _ => by simp
  | e :: rest, acc, h => by
      have hsorted := h
      rw [List.map_append, List.pairwise_append] at h
      have hlast : ∀ a ∈ acc, utf8Bytes a.1 < utf8Bytes e.1 := fun a ha =>
        h.2.2 _ (List.mem_map_of_mem ha) _ (List.mem_map_of_mem List.mem_cons_self)
      rw [List.foldl_cons, mapInsert_of_lt e.1 e.2 acc hlast,
        foldl_mapInsert rest (acc ++ [(e.1, e.2)]) (by simpa using hsorted)]
      simp

/-! ## Each constructor's payload -/

section Payload

variable {inner : DecodeM Value}

theorem Value.decodeFuel_succ_reads {fuel : Nat} {t : ValueTag} {payload : List UInt8} {v : Value}
    (h : Reads (Value.decodePayload (Value.decodeFuel fuel) t) payload v) :
    Reads (Value.decodeFuel (fuel + 1)) (t.toU8 :: payload) v := by
  show Reads (Value.decodeFuel (fuel + 1)) ([t.toU8] ++ payload) v
  refine Reads.bind (readU8_reads t.toU8) ?_
  simp only [ValueTag.fromU8_toU8]
  exact h

theorem Value.decodePayload_map {entries : List (String × Value)} (hlen : entries.length < 2 ^ 16)
    (hsorted : (entries.map fun e => utf8Bytes e.1).Pairwise (· < ·))
    (hentries : ∀ e ∈ entries, (utf8Bytes e.1).length < 2 ^ 16 ∧ Reads inner e.2.encode e.2) :
    Reads (Value.decodePayload inner .map) (writeU16 entries.length.toUInt16 ++ entries.flatMap entryBytes)
      (.map entries) := by
  have hfold : Value.map entries = Value.map (entries.foldl (fun map e => mapInsert e.1 e.2 map) []) := by
    rw [foldl_mapInsert entries [] (by simpa using hsorted), List.nil_append]
  rw [hfold]
  refine Reads.bind (readU16_reads _) ?_
  rw [UInt16.toNat_ofNat_of_lt' hlen]
  -- each round reads one key and one value and inserts them
  exact Reads.bind_pure (Reads.repeatFold entries (fun e he acc => Reads.bind (readString_reads e.1 (hentries e he).1)
    (Reads.bind_pure (hentries e he).2 fun v => mapInsert e.1 v acc)) []) Value.map

theorem Value.decodePayload_table {t : Table Value} (hwf : Value.TableWellFormed t)
    (hcells : ∀ x, (∃ h ∈ t.headers, x ∈ h) ∨ x ∈ t.cells → Reads inner x.encode x) :
    Reads (Value.decodePayload inner .table) (t.encode Value.encode) (.table t) := by
  obtain ⟨cols, headers, cells⟩ := t
  obtain ⟨hcols, hheaders, hrows, hhwf, hlenCells, -⟩ := hwf
  have hlenHeaders : ∀ h ∈ headers, h.length < 2 ^ 16 := by
    rintro h rfl
    exact hhwf.1
  exact Reads.bind_pure (Table.decode_reads _ hcols hheaders hrows hlenHeaders hlenCells hcells) Value.table

end Payload

theorem Value.headersWellFormed_of_mem {headers : Option (List Value)} {hs : List Value}
    (hwf : Value.HeadersWellFormed headers) (hh : hs ∈ headers) : ∀ x ∈ hs, x.WellFormed := by
  cases hh
  exact Value.allWellFormed_iff.mp hwf.2

/-! ## The round trip -/

/-- With more fuel than the value has bytes, `Value::decode`'s recursion
reads back the encoding of every well-formed value. -/
theorem Value.decodeFuel_reads : ∀ (fuel : Nat) (v : Value), v.WellFormed → v.encode.length < fuel →
    Reads (Value.decodeFuel fuel) v.encode v
  | 0, _, _, hlen => absurd hlen (Nat.not_lt_zero _)
  | fuel + 1, v, hwf, hlen => by
      -- a nested value is shorter than `v`, so one unit of fuel less reads it
      have ih : ∀ x : Value, x.WellFormed → x.encode.length < v.encode.length →
          Reads (Value.decodeFuel fuel) x.encode x :=
        fun x hx hlt => Value.decodeFuel_reads fuel x hx (by omega)
      cases v with
      | null => exact Value.decodeFuel_succ_reads (Reads.pure _)
      | bool b => exact Value.decodeFuel_succ_reads (Reads.bind_pure (readBool_reads b) Value.bool)
      | int i => exact Value.decodeFuel_succ_reads (Reads.bind_pure (readI64_reads i) Value.int)
      | float bits => exact Value.decodeFuel_succ_reads (Reads.bind_pure (readF64_reads bits) Value.float)
      | string s => exact Value.decodeFuel_succ_reads (Reads.bind_pure (readString_reads s hwf) Value.string)
      | bytes b => exact Value.decodeFuel_succ_reads (Reads.bind_pure (readByteArray_reads b hwf) Value.bytes)
      | array items =>
          obtain ⟨hlenItems, hall⟩ := hwf
          have hitems : ∀ x ∈ items, Reads (Value.decodeFuel fuel) x.encode x := fun x hx =>
            ih x (Value.allWellFormed_iff.mp hall x hx) (Value.length_lt_array hx)
          rw [Value.encode_array]
          exact Value.decodeFuel_succ_reads (Reads.bind_pure (decodeVec_reads items hlenItems hitems) Value.array)
      | map entries =>
          obtain ⟨hlenEntries, hsorted, hall⟩ := hwf
          have hentries : ∀ e ∈ entries, (utf8Bytes e.1).length < 2 ^ 16 ∧
              Reads (Value.decodeFuel fuel) e.2.encode e.2 := fun e he =>
            have hwfe := Value.entriesWellFormed_iff.mp hall e he
            ⟨hwfe.1, ih e.2 hwfe.2 (Value.length_lt_map he)⟩
          rw [Value.encode_map]
          exact Value.decodeFuel_succ_reads (Value.decodePayload_map hlenEntries hsorted hentries)
      | styled style inner =>
          have hinner := ih inner hwf (by
            show inner.encode.length < (ValueTag.styled.toU8 :: (style.encode ++ inner.encode)).length
            simp)
          exact Value.decodeFuel_succ_reads (Reads.bind (Style.decode_reads style) (Reads.bind_pure hinner _))
      | link url inner =>
          have hinner := ih inner hwf.2 (by
            show inner.encode.length < (ValueTag.link.toU8 :: (writeString url ++ inner.encode)).length
            simp)
          exact Value.decodeFuel_succ_reads
            (Reads.bind (readString_reads url hwf.1) (Reads.bind_pure hinner _))
      | table t =>
          obtain ⟨cols, headers, cells⟩ := t
          have htable : Value.TableWellFormed ⟨cols, headers, cells⟩ := hwf
          obtain ⟨-, -, -, hheaders, -, hallCells⟩ := htable
          have hcells : ∀ x, (∃ h ∈ headers, x ∈ h) ∨ x ∈ cells → Reads (Value.decodeFuel fuel) x.encode x
            | x, .inl ⟨hs, hh, hx⟩ =>
                ih x (Value.headersWellFormed_of_mem hheaders hh x hx) (Value.length_lt_table_headers hh hx)
            | x, .inr hx => ih x (Value.allWellFormed_iff.mp hallCells x hx) (Value.length_lt_table_cells hx)
          rw [Value.encode_table]
          exact Value.decodeFuel_succ_reads (Value.decodePayload_table hwf hcells)

/-- `Value::decode` reads back a well-formed value wherever it starts: the
bytes left hold at least its encoding, and that is fuel enough. -/
theorem Value.decode_reads {v : Value} (hwf : v.WellFormed) : Reads Value.decode v.encode v := by
  intro c rest hc
  have hfuel : v.encode.length < remaining c + 1 := by
    rw [remaining_eq, hc, List.length_append]
    omega
  simp only [Value.decode, run_bind, run_get]
  exact Value.decodeFuel_reads _ v hwf hfuel c rest hc

/-- `Value::decode` on a decoder over a well-formed value's encoding and any
suffix returns the value and stops where the suffix begins. -/
theorem Value.decode_encode (v : Value) (hwf : v.WellFormed) (rest : List UInt8) :
    Value.decode.run.run (Decoder.new (v.encode ++ rest)) = (.ok v, ⟨v.encode ++ rest, v.encode.length⟩) := by
  rw [Value.decode_reads hwf _ rest rfl]
  simp [Decoder.new, Cursor.advance]

/-- A styled array holding an integer and a two-column table with a header
row: every level reads back. -/
def nestedValue : Value :=
  .styled ⟨some (.named .red), none, true, false, true, false⟩
    (.array [.int 5, .table ⟨2, some [.null, .bool false], [.int 1, .float 0, .bool true, .null]⟩])

theorem decode_encode_nested :
    nestedValue.WellFormed ∧
      Value.decode.run.run (Decoder.new (nestedValue.encode ++ [7])) =
        (.ok nestedValue, ⟨nestedValue.encode ++ [7], nestedValue.encode.length⟩) :=
  have hwf : nestedValue.WellFormed := by
    simp [nestedValue, Value.WellFormed, Value.AllWellFormed, Value.TableWellFormed, Value.HeadersWellFormed]
  ⟨hwf, Value.decode_encode nestedValue hwf [7]⟩

end PandaOs.Abi
