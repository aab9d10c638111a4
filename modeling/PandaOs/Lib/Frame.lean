import PandaOs.Lib.Bytes

/-!
# Fixed-layout frames in a byte buffer

A wire protocol with fixed field offsets encodes by storing into a caller's
buffer (`buf[i] = b`, `buf[lo..hi].copy_from_slice(src)`) and decodes by
reading ranges of a slice (`buf.get(lo..hi)`), each read failing past the
slice's end. A buffer is a list: `List.set` is the byte store, `copyAt` the
range store, `getRange` the checked range read and `slice` a read whose
range the caller has checked. Fixed-width integers go through `leBytes` and
`leValue`, strings through their UTF-8 bytes.

The rules walk a store or a read along the buffer: past a byte
(`copyAt_cons`, `set_cons`, `getRange_cons`) and past a piece of known
length (`copyAt_append_of_length_le`, `getRange_append_of_length_le`), until
it lands at offset 0 (`copyAt_zero`, `getRange_append_zero`). Taken
together they compute an encoder's stores and a decoder's reads on a frame
written as its pieces. A read that succeeds ends inside the slice
(`getRange_le_length`), and a read that ends inside a prefix of the slice
sees only the prefix (`getRange_take`).
-/

namespace PandaOs.Lib

variable {α : Type}

/-- `buf.get(lo..hi)`. -/
def getRange (buf : List α) (lo hi : Nat) : Option (List α) :=
  if lo ≤ hi ∧ hi ≤ buf.length then some ((buf.drop lo).take (hi - lo)) else none

/-- `buf[lo..hi]`, where the caller has checked the range. -/
def slice (buf : List α) (lo hi : Nat) : List α := (getRange buf lo hi).getD []

/-- `buf[lo..lo + src.len()].copy_from_slice(src)`, for a range inside the
buffer. -/
def copyAt (buf : List α) (lo : Nat) (src : List α) : List α :=
  buf.take lo ++ src ++ buf.drop (lo + src.length)

theorem getRange_eq (buf : List α) (lo hi : Nat) :
    getRange buf lo hi = if lo ≤ hi ∧ hi ≤ buf.length then some ((buf.drop lo).take (hi - lo)) else none := rfl

theorem slice_eq (buf : List α) (lo hi : Nat) : slice buf lo hi = (getRange buf lo hi).getD [] := rfl

theorem copyAt_eq (buf : List α) (lo : Nat) (src : List α) :
    copyAt buf lo src = buf.take lo ++ src ++ buf.drop (lo + src.length) := rfl

/-! ## Stores -/

theorem copyAt_zero (buf src : List α) : copyAt buf 0 src = src ++ buf.drop src.length := by
  simp [copyAt_eq]

theorem copyAt_cons {x : α} {rest src : List α} {lo : Nat} (h : 0 < lo) :
    copyAt (x :: rest) lo src = x :: copyAt rest (lo - 1) src := by
  obtain ⟨k, rfl⟩ : ∃ k, lo = k + 1 := ⟨lo - 1, by omega⟩
  simp [copyAt_eq, Nat.add_right_comm]

theorem copyAt_append_of_length_le {pre rest src : List α} {lo : Nat} (h : pre.length ≤ lo) :
    copyAt (pre ++ rest) lo src = pre ++ copyAt rest (lo - pre.length) src := by
  simp only [copyAt_eq, List.take_append, List.drop_append, List.take_of_length_le h,
    List.drop_eq_nil_of_le (Nat.le_add_right_of_le h), List.nil_append, List.append_assoc]
  rw [Nat.sub_add_comm h]

theorem set_cons {x b : α} {rest : List α} {i : Nat} (h : 0 < i) :
    (x :: rest).set i b = x :: rest.set (i - 1) b := by
  obtain ⟨k, rfl⟩ : ∃ k, i = k + 1 := ⟨i - 1, by omega⟩
  simp

theorem set_zero_drop {l : List α} {n : Nat} {b : α} (h : n < l.length) :
    (l.drop n).set 0 b = b :: l.drop (n + 1) := by
  rw [List.drop_eq_getElem_cons h, List.set_cons_zero]

theorem length_copyAt {buf src : List α} {lo : Nat} (h : lo + src.length ≤ buf.length) :
    (copyAt buf lo src).length = buf.length := by
  simp only [copyAt_eq, List.length_append, List.length_take, List.length_drop]
  omega

/-! ## Reads -/

theorem getRange_append_zero {pre rest : List α} {hi : Nat} (h : hi = pre.length) :
    getRange (pre ++ rest) 0 hi = some pre := by
  subst h
  simp [getRange_eq]

theorem getRange_append_zero_of_le {pre rest : List α} {hi : Nat} (h : hi ≤ pre.length) :
    getRange (pre ++ rest) 0 hi = some (pre.take hi) := by
  rw [getRange_eq, if_pos ⟨Nat.zero_le hi, by simp only [List.length_append]; omega⟩]
  simp [List.take_append_of_le_length h]

theorem getRange_self {buf : List α} {hi : Nat} (h : hi = buf.length) :
    getRange buf 0 hi = some buf := by
  have hself := @getRange_append_zero α buf [] hi h
  rwa [List.append_nil] at hself

theorem getRange_length_self {buf : List α} {lo : Nat} (h : lo ≤ buf.length) :
    getRange buf lo buf.length = some (buf.drop lo) := by
  rw [getRange_eq, if_pos ⟨h, le_refl _⟩, List.take_of_length_le (by simp)]

theorem getRange_cons {x : α} {rest : List α} {lo hi : Nat} (h : 0 < lo) (hle : lo ≤ hi) :
    getRange (x :: rest) lo hi = getRange rest (lo - 1) (hi - 1) := by
  have hd : (x :: rest).drop lo = rest.drop (lo - 1) := by
    obtain ⟨k, rfl⟩ : ∃ k, lo = k + 1 := ⟨lo - 1, by omega⟩
    rfl
  simp only [getRange_eq, List.length_cons, hd]
  by_cases hr : hi ≤ rest.length + 1
  · rw [if_pos ⟨hle, hr⟩, if_pos ⟨by omega, by omega⟩]
    congr 2
    omega
  · rw [if_neg (by omega), if_neg (by omega)]

theorem getRange_append_of_length_le {pre rest : List α} {lo hi : Nat} (h : pre.length ≤ lo)
    (hle : lo ≤ hi) :
    getRange (pre ++ rest) lo hi = getRange rest (lo - pre.length) (hi - pre.length) := by
  have hd : (pre ++ rest).drop lo = rest.drop (lo - pre.length) := by
    rw [List.drop_append, List.drop_eq_nil_of_le h, List.nil_append]
  simp only [getRange_eq, List.length_append, hd]
  by_cases hr : hi ≤ pre.length + rest.length
  · rw [if_pos ⟨hle, hr⟩, if_pos ⟨by omega, by omega⟩, Nat.sub_sub_sub_cancel_right h]
  · rw [if_neg (by omega), if_neg (by omega)]

theorem getRange_le_length {buf s : List α} {lo hi : Nat} (h : getRange buf lo hi = some s) :
    hi ≤ buf.length := by
  rw [getRange_eq] at h
  split_ifs at h with hr
  exact hr.2

theorem getRange_length {buf s : List α} {lo hi : Nat} (h : getRange buf lo hi = some s) :
    s.length = hi - lo := by
  rw [getRange_eq] at h
  split_ifs at h with hr
  cases h
  simp only [List.length_take, List.length_drop]
  omega

theorem getRange_take {buf : List α} {lo hi k : Nat} (h : hi ≤ k) :
    getRange (buf.take k) lo hi = getRange buf lo hi := by
  rw [getRange_eq, getRange_eq]
  simp only [List.length_take, List.drop_take]
  by_cases hr : lo ≤ hi ∧ hi ≤ buf.length
  · rw [if_pos ⟨hr.1, by omega⟩, if_pos hr, List.take_take]
    congr 2
    omega
  · rw [if_neg (by omega), if_neg hr]

/-! ## Little-endian words and UTF-8 strings -/

theorem UInt64.ofNat_leValue_leBytes (v : UInt64) : UInt64.ofNat (leValue (leBytes v.toNat 8)) = v := by
  rw [leValue_leBytes, Nat.mod_eq_of_lt (by simpa using v.toNat_lt), UInt64.ofNat_toNat]

theorem UInt32.ofNat_leValue_leBytes (v : UInt32) : UInt32.ofNat (leValue (leBytes v.toNat 4)) = v := by
  rw [leValue_leBytes, Nat.mod_eq_of_lt (by simpa using v.toNat_lt), UInt32.ofNat_toNat]

theorem UInt16.ofNat_leValue_leBytes (v : UInt16) : UInt16.ofNat (leValue (leBytes v.toNat 2)) = v := by
  rw [leValue_leBytes, Nat.mod_eq_of_lt (by simpa using v.toNat_lt), UInt16.ofNat_toNat]

/-- `s.as_bytes()`. -/
def utf8Bytes (s : String) : List UInt8 := s.toByteArray.data.toList

/-- `core::str::from_utf8`. -/
def strFromUtf8 (bs : List UInt8) : Option String := String.fromUTF8? bs.toByteArray

theorem strFromUtf8_utf8Bytes (s : String) : strFromUtf8 (utf8Bytes s) = some s := by
  have h : (utf8Bytes s).toByteArray = s.toByteArray :=
    ByteArray.ext (Array.ext' (by simp [utf8Bytes]))
  rw [strFromUtf8, h, String.fromUTF8?, dif_pos s.isValidUTF8]
  rfl

end PandaOs.Lib
