import Mathlib

/-!
# Byte memories and little-endian words

Several parts of a kernel write byte strings into a larger byte-addressed
store and read them back: copying a syscall's result out to user memory,
writing a block to a disk, loading a segment into a page. This file is the
common ground: a memory is a function from addresses to bytes, `writeBytes`
overlays a string at an address, `readBytes` reads a window. The frame
lemmas say that a write changes exactly its own window.

Multi-byte integers are stored little-endian. `leBytes v n` is the `n`-byte
encoding of `v` (reduced mod `256 ^ n`, as a truncating store is) and
`leValue` reads one back; `leValue_leBytes` is the round trip.
-/

namespace PandaOs.Lib

/-- Overlay `data` on `m` starting at `addr`. -/
def writeBytes (m : Nat → UInt8) (addr : Nat) (data : List UInt8) : Nat → UInt8 :=
  fun a => if addr ≤ a ∧ a < addr + data.length then data.getD (a - addr) 0 else m a

/-- Overlay the first `len` bytes of the buffer `f` on `m` at `addr`. -/
def writeFn (m : Nat → UInt8) (addr len : Nat) (f : Nat → UInt8) : Nat → UInt8 :=
  fun a => if addr ≤ a ∧ a < addr + len then f (a - addr) else m a

/-- The `len` bytes of `m` from `addr`. -/
def readBytes (m : Nat → UInt8) (addr len : Nat) : List UInt8 :=
  List.ofFn fun i : Fin len => m (addr + i)

theorem writeBytes_apply (m : Nat → UInt8) (addr : Nat) (data : List UInt8) (a : Nat) :
    writeBytes m addr data a = if addr ≤ a ∧ a < addr + data.length then data.getD (a - addr) 0 else m a :=
  rfl

theorem writeFn_apply (m : Nat → UInt8) (addr len : Nat) (f : Nat → UInt8) (a : Nat) :
    writeFn m addr len f a = if addr ≤ a ∧ a < addr + len then f (a - addr) else m a := rfl

theorem readBytes_eq (m : Nat → UInt8) (addr len : Nat) :
    readBytes m addr len = List.ofFn fun i : Fin len => m (addr + i) := rfl

theorem writeBytes_of_lt {m : Nat → UInt8} {addr a : Nat} (data : List UInt8)
    (h : a < addr) : writeBytes m addr data a = m a := by
  rw [writeBytes_apply]
  rw [if_neg (by omega)]

theorem writeBytes_of_ge {m : Nat → UInt8} {addr a : Nat} {data : List UInt8}
    (h : addr + data.length ≤ a) : writeBytes m addr data a = m a := by
  rw [writeBytes_apply]
  rw [if_neg (by omega)]

/-- A write changes nothing outside its window. -/
theorem writeBytes_of_not_mem {m : Nat → UInt8} {addr a : Nat} {data : List UInt8}
    (h : a < addr ∨ addr + data.length ≤ a) : writeBytes m addr data a = m a := by
  rcases h with h | h
  · exact writeBytes_of_lt data h
  · exact writeBytes_of_ge h

theorem writeBytes_of_mem {m : Nat → UInt8} {addr a : Nat} {data : List UInt8}
    (h₁ : addr ≤ a) (h₂ : a < addr + data.length) :
    writeBytes m addr data a = data.get ⟨a - addr, by omega⟩ := by
  rw [writeBytes_apply]
  rw [if_pos ⟨h₁, h₂⟩, List.getD_eq_getElem _ _ (by omega)]
  rfl

/-- The byte at position `i` of a write's window. -/
theorem writeBytes_add (m : Nat → UInt8) (addr i : Nat) (data : List UInt8) :
    writeBytes m addr data (addr + i) = if i < data.length then data.getD i 0 else m (addr + i) := by
  rw [writeBytes_apply]
  by_cases hi : i < data.length
  · rw [if_pos ⟨by omega, by omega⟩, if_pos hi, Nat.add_sub_cancel_left]
  · rw [if_neg (by omega), if_neg hi]

theorem writeFn_of_not_mem {m f : Nat → UInt8} {addr len a : Nat} (h : a < addr ∨ addr + len ≤ a) :
    writeFn m addr len f a = m a := by
  rw [writeFn_apply]
  rw [if_neg (by omega)]

theorem writeFn_add {m f : Nat → UInt8} {addr len i : Nat} (h : i < len) :
    writeFn m addr len f (addr + i) = f i := by
  rw [writeFn_apply]
  rw [if_pos ⟨by omega, by omega⟩, Nat.add_sub_cancel_left]

@[simp] theorem writeFn_zero (m f : Nat → UInt8) (addr : Nat) : writeFn m addr 0 f = m := by
  funext a
  rw [writeFn_apply]
  rw [if_neg (by omega)]

@[simp] theorem writeBytes_nil (m : Nat → UInt8) (addr : Nat) : writeBytes m addr [] = m := by
  funext a
  simp only [writeBytes_apply, List.length_nil, Nat.add_zero]
  rw [if_neg (by omega)]

@[simp] theorem readBytes_length (m : Nat → UInt8) (addr len : Nat) :
    (readBytes m addr len).length = len := by
  simp [readBytes_eq]

theorem getElem_readBytes (m : Nat → UInt8) (addr len i : Nat) (h : i < (readBytes m addr len).length) :
    (readBytes m addr len)[i] = m (addr + i) := by
  simp [readBytes_eq]

/-- Reading back the window just written gives the bytes written. -/
@[simp] theorem readBytes_writeBytes_self (m : Nat → UInt8) (addr : Nat) (data : List UInt8) :
    readBytes (writeBytes m addr data) addr data.length = data := by
  apply List.ext_getElem (by simp)
  intro i h₁ h₂
  rw [getElem_readBytes, writeBytes_of_mem (by omega) (by simpa using h₂)]
  simp

/-- A read of a window disjoint from the write sees the old bytes. -/
theorem readBytes_writeBytes_disjoint (m : Nat → UInt8) {addr addr' : Nat} {len : Nat}
    {data : List UInt8} (h : addr' + len ≤ addr ∨ addr + data.length ≤ addr') :
    readBytes (writeBytes m addr data) addr' len = readBytes m addr' len := by
  apply List.ext_getElem (by simp)
  intro i h₁ _
  rw [getElem_readBytes, getElem_readBytes, writeBytes_of_not_mem]
  simp only [readBytes_length] at h₁
  omega

theorem getD_readBytes (m : Nat → UInt8) (addr len : Nat) {i : Nat} (h : i < len) :
    (readBytes m addr len).getD i 0 = m (addr + i) := by
  simp [readBytes_eq, List.getD_eq_getElem?_getD, h]

/-- A read of a window disjoint from a copy sees the old bytes. -/
theorem readBytes_writeFn_disjoint (m f : Nat → UInt8) {addr len addr' len' : Nat}
    (h : addr' + len' ≤ addr ∨ addr + len ≤ addr') :
    readBytes (writeFn m addr len f) addr' len' = readBytes m addr' len' := by
  apply List.ext_getElem (by simp)
  intro i h₁ _
  rw [getElem_readBytes, getElem_readBytes, writeFn_of_not_mem]
  simp only [readBytes_length] at h₁
  omega

theorem readBytes_shift (m : Nat → UInt8) (s addr len : Nat) :
    readBytes (fun i => m (s + i)) addr len = readBytes m (s + addr) len := by
  simp only [readBytes_eq, Nat.add_assoc]

/-- Copying the next `k` bytes of `f` just after a copy of its first `len`
bytes extends the copy. -/
theorem writeBytes_readBytes_writeFn (m f : Nat → UInt8) (addr len k : Nat) :
    writeBytes (writeFn m addr len f) (addr + len) (readBytes f len k) = writeFn m addr (len + k) f := by
  funext a
  simp only [writeBytes_apply, readBytes_length]
  by_cases hnew : addr + len ≤ a ∧ a < addr + len + k
  · rw [if_pos hnew, getD_readBytes _ _ _ (by omega), writeFn_apply, if_pos ⟨by omega, by omega⟩]
    congr 1
    omega
  · rw [if_neg hnew]
    simp only [writeFn_apply]
    by_cases hold : addr ≤ a ∧ a < addr + len
    · rw [if_pos hold, if_pos ⟨hold.1, by omega⟩]
    · rw [if_neg hold, if_neg (by omega)]

/-- Writing back a window of `m` into which `data` was copied at offset `o`
writes just `data`: the rest of the window is written with its own bytes. -/
theorem writeBytes_splice (m : Nat → UInt8) (addr o len : Nat) (data : List UInt8)
    (h : o + data.length ≤ len) :
    writeBytes m addr ((readBytes m addr len).take o ++ data ++
        (readBytes m addr len).drop (o + data.length)) =
      writeBytes m (addr + o) data := by
  funext a
  have htake : ((readBytes m addr len).take o).length = o := by simp; omega
  have hlen : ((readBytes m addr len).take o ++ data ++
      (readBytes m addr len).drop (o + data.length)).length = len := by simp; omega
  simp only [writeBytes_apply, hlen]
  by_cases hin : addr ≤ a ∧ a < addr + len
  · rw [if_pos hin]
    by_cases hlo : a - addr < o
    · -- before the copied bytes: the window's own byte
      rw [if_neg (by omega), List.append_assoc, List.getD_append _ _ _ _ (by omega),
        List.getD_eq_getElem?_getD, List.getElem?_take, if_pos hlo, ← List.getD_eq_getElem?_getD,
        getD_readBytes _ _ _ (by omega)]
      congr 1
      omega
    · by_cases hhi : a - addr < o + data.length
      · rw [if_pos (by omega), List.append_assoc, List.getD_append_right _ _ _ _ (by omega), htake,
          List.getD_append _ _ _ _ (by omega)]
        congr 1
        omega
      · -- after them: the window's own byte again
        rw [if_neg (by omega), List.getD_append_right _ _ _ _ (by simp; omega),
          List.getD_eq_getElem?_getD, List.getElem?_drop, ← List.getD_eq_getElem?_getD]
        have hlen' : (List.take o (readBytes m addr len) ++ data).length = o + data.length := by
          simp; omega
        rw [hlen', getD_readBytes _ _ _ (by omega)]
        congr 1
        omega
  · rw [if_neg hin, if_neg (by omega)]

/-- `leBytes v n`: the `n` low bytes of `v`, least significant first. -/
def leBytes (v : Nat) : Nat → List UInt8
  | 0 => []
  | n + 1 => UInt8.ofNat v :: leBytes (v / 256) n

theorem leBytes_zero (v : Nat) : leBytes v 0 = [] := rfl

theorem leBytes_succ (v n : Nat) : leBytes v (n + 1) = UInt8.ofNat v :: leBytes (v / 256) n := rfl

/-- Little-endian fields overlaid at `base`, each given as (offset, width, value). -/
def writeFields (m : Nat → UInt8) (base : Nat) (fields : List (Nat × Nat × Nat)) : Nat → UInt8 :=
  fields.foldl (fun m f => writeBytes m (base + f.1) (leBytes f.2.2 f.2.1)) m

/-- The value of a little-endian byte string. -/
def leValue : List UInt8 → Nat
  | [] => 0
  | b :: bs => b.toNat + 256 * leValue bs

theorem leValue_nil : leValue [] = 0 := rfl

theorem leValue_cons (b : UInt8) (bs : List UInt8) : leValue (b :: bs) = b.toNat + 256 * leValue bs := rfl

@[simp] theorem leBytes_length (v n : Nat) : (leBytes v n).length = n := by
  induction n generalizing v with
  | zero => rfl
  | succ n ih => simp [leBytes_succ, ih]

/-- Encoding then decoding keeps the value mod `256 ^ n`. -/
theorem leValue_leBytes (v n : Nat) : leValue (leBytes v n) = v % 256 ^ n := by
  induction n generalizing v with
  | zero => simp [leBytes_zero, leValue_nil, Nat.mod_one]
  | succ n ih =>
      have hb : (UInt8.ofNat v).toNat = v % 256 := UInt8.toNat_ofNat'
      rw [leBytes_succ, leValue_cons, ih, hb, Nat.pow_succ', Nat.mod_mul]

theorem leValue_lt (bs : List UInt8) : leValue bs < 256 ^ bs.length := by
  induction bs with
  | nil => simp [leValue_nil]
  | cons b bs ih =>
      have hb : b.toNat < 256 := b.toNat_lt
      rw [leValue_cons, List.length_cons, Nat.pow_succ']
      omega

end PandaOs.Lib
