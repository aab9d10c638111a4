import PandaOs.Collections.RingBuffer
import PandaOs.Lib.Window
import Mathlib.Data.List.Rotate

/-!
# `RingBuffer` is a bounded FIFO over the log of pushes

What a ring buffer of capacity `c` is for: it holds the last `c` items
pushed since it was last cleared, oldest first, with whatever the caller
wrote through its references applied to them. `Op.log` keeps that log, one
operation at a time, and `window c log` is the view (`Lib/Window`).

The buffer keeps its items in `buf` in the order of its slots; read from
`head` round, they are the view (`Refines.view`). While the buffer fills,
`head` is the end of `buf` and the rotation is the identity; once full,
`head` is the oldest slot. Each operation keeps this relation
(`Op.apply_refines`), so every run does (`run_refines`), and `get`, `iter`,
`len` and the item `push` evicts are read off the view.

The index arithmetic wraps at most once, since `head < cap` and a logical
index is below `cap`: `mod_eq_of_lt_two_mul` turns each `% cap` into a
subtraction that `omega` handles.
-/

namespace PandaOs.Collections

open PandaOs.Lib

variable {α : Type}

/-! ## The log of pushes -/

/-- The item a `push_or_recycle` closure leaves as the newest, when offered `oldest`. -/
def Recycle.recycled (r : Recycle α) (oldest : α) : α :=
  let (slot, result) := r.onSlot oldest
  result.getD slot

/-- One operation on the log of items pushed since the last `clear`. A
write to logical index `index` of the view is a write to the log at the
view's offset. -/
def Op.log (c : Nat) (log : List α) : Op α → List α
  | .push item => log ++ [item]
  | .pushOrRecycle r =>
      if c ≤ log.length then
        match (window c log).head? with
        | some oldest => log ++ [r.recycled oldest]
        | none => log
      else
        match r.onNone with
        | some item => log ++ [item]
        | none => log
  | .recycle f =>
      if c ≤ log.length then
        match (window c log).head? with
        | some oldest => log ++ [f oldest]
        | none => log
      else log
  | .getMut index f => log.modify (log.length - c + index) f
  | .lastMut f => log.modify (log.length - 1) f
  | .clear => []

/-- The log after a sequence of operations from a new buffer. -/
def logRun (c : Nat) (ops : List (Op α)) : List α := ops.foldl (Op.log c) []

/-! ## Wrapping once -/

theorem mod_eq_of_lt_two_mul {n c : Nat} (h : n < 2 * c) : n % c = if n < c then n else n - c := by
  split_ifs with hn
  · exact Nat.mod_eq_of_lt hn
  · rw [Nat.mod_eq_sub_mod (by omega), Nat.mod_eq_of_lt (by omega)]

/-- Overwriting the slot at `h` and moving on: the oldest item leaves the
view read from `h`, and the new one ends it. -/
theorem rotate_set_succ {l : List α} {h : Nat} (hh : h < l.length) (x : α) :
    (l.set h x).rotate ((h + 1) % l.length) = (l.rotate h).tail ++ [x] := by
  apply List.ext_getElem?
  intro j
  by_cases hj : j < l.length
  · have hwrap : (j + (h + 1) % l.length) % l.length = (j + h + 1) % l.length := by
      rw [Nat.add_mod_mod, Nat.add_assoc]
    have hmod := mod_eq_of_lt_two_mul (show j + h + 1 < 2 * l.length by omega)
    rw [List.getElem?_rotate (by simpa using hj), List.length_set, hwrap, List.getElem?_set]
    by_cases hlast : j + 1 = l.length
    · -- the last logical slot is the one just written
      rw [if_pos (by rw [hmod]; split_ifs <;> omega), if_pos (by omega),
        List.getElem?_append_right (by simp; omega), show j - ((l.rotate h).tail.length) = 0 by simp; omega]
      rfl
    · rw [if_neg (by rw [hmod]; split_ifs <;> omega),
        List.getElem?_append_left (by simp; omega), List.getElem?_tail,
        List.getElem?_rotate (by omega), show j + 1 + h = j + h + 1 by omega]
  · rw [List.getElem?_eq_none (by simp; omega), List.getElem?_eq_none (by simp; omega)]

/-- A write through the slot of logical index `i`, read from `h` round. -/
theorem rotate_modify {l : List α} {h i : Nat} (hh : h < l.length) (hi : i < l.length) (f : α → α) :
    (l.modify ((h + i) % l.length) f).rotate h = (l.rotate h).modify i f := by
  apply List.ext_getElem?
  intro j
  by_cases hj : j < l.length
  · rw [List.getElem?_rotate (by simpa using hj), List.length_modify, List.getElem?_modify,
      List.getElem?_modify, List.getElem?_rotate hj]
    -- both wrap at most once, so the slots agree exactly when the logical indices do
    have hslot : (h + i) % l.length = (j + h) % l.length ↔ i = j := by
      rw [mod_eq_of_lt_two_mul (show h + i < 2 * l.length by omega),
        mod_eq_of_lt_two_mul (show j + h < 2 * l.length by omega)]
      split_ifs <;> omega
    simp only [hslot]
  · rw [List.getElem?_eq_none (by simp; omega), List.getElem?_eq_none (by simp; omega)]

theorem modify_eq_set_getElem {l : List α} {i : Nat} (hi : i < l.length) (f : α → α) :
    l.modify i f = l.set i (f l[i]) := by
  apply List.ext_getElem?
  intro j
  rw [List.getElem?_modify, List.getElem?_set]
  by_cases hij : i = j
  · subst hij
    simp [hi]
  · simp [hij]

/-! ## The buffer refines the view of the log -/

/-- `rb` holds the view of `log` read from `head`: the relation every
operation keeps. -/
structure Refines (c : Nat) (rb : RingBuffer α) (log : List α) : Prop where
  cap_eq : rb.cap = c
  cap_pos : 0 < c
  len_eq : rb.len = rb.buf.length
  length_le : rb.buf.length ≤ c
  head_lt : rb.head < c
  head_filling : rb.buf.length < c → rb.head = rb.buf.length
  view : rb.buf.rotate rb.head = window c log

section Refines

variable {c : Nat} {rb : RingBuffer α} {log : List α}

theorem Refines.length_buf (h : Refines c rb log) : rb.buf.length = min log.length c := by
  rw [← List.length_rotate rb.buf rb.head, h.view, length_window]

theorem Refines.isFull_iff (h : Refines c rb log) : rb.isFull = true ↔ c ≤ log.length := by
  have hlen := h.length_buf
  simp only [RingBuffer.isFull, beq_iff_eq, h.len_eq, h.cap_eq, hlen]
  omega

/-- Before the buffer is full its slots are in logical order. -/
theorem Refines.buf_eq (h : Refines c rb log) (hf : rb.buf.length < c) : rb.buf = window c log := by
  rw [← h.view, h.head_filling hf, List.rotate_length]

/-- The oldest item sits at `head`, once the buffer is full. -/
theorem Refines.getElem?_head (h : Refines c rb log) (hf : rb.buf.length = c) :
    rb.buf[rb.head]? = (window c log).head? := by
  rw [← h.view, List.head?_rotate (by rw [hf]; exact h.head_lt)]

/-- `push` appends to the log, and evicts the view's oldest item exactly when
the buffer is full. -/
theorem Refines.push (h : Refines c rb log) (x : α) :
    Refines c (rb.push x).1 (log ++ [x]) ∧
      (rb.push x).2 = if c ≤ log.length then (window c log).head? else none := by
  have hlen := h.length_buf
  have hc := h.cap_pos
  unfold RingBuffer.push
  rw [h.cap_eq]
  by_cases hf : rb.buf.length < c
  · -- filling: the new item goes at the end, and the slots stay in logical order
    have hview : (rb.buf ++ [x]).rotate ((rb.buf.length + 1) % c) = rb.buf ++ [x] := by
      by_cases hlast : rb.buf.length + 1 < c
      · rw [Nat.mod_eq_of_lt hlast, show rb.buf.length + 1 = (rb.buf ++ [x]).length by simp,
          List.rotate_length]
      · rw [show rb.buf.length + 1 = c by omega, Nat.mod_self, List.rotate_zero]
    simp only [if_pos hf, List.length_append, List.length_singleton]
    refine ⟨⟨rfl, hc, ?_, ?_, ?_, ?_, ?_⟩, ?_⟩ <;> try dsimp only
    · simp
    · simp only [List.length_append, List.length_singleton]
      omega
    · exact Nat.mod_lt _ hc
    · simp only [List.length_append, List.length_singleton]
      exact Nat.mod_eq_of_lt
    · rw [hview, window_concat hc, if_pos (by omega), ← h.buf_eq hf]
    · rw [if_neg (by omega)]
  · -- full: the oldest slot is overwritten and `head` moves past it
    have hfull : rb.buf.length = c := by omega
    simp only [if_neg hf]
    refine ⟨⟨rfl, hc, ?_, ?_, ?_, ?_, ?_⟩, ?_⟩ <;> try dsimp only
    · rw [List.length_set, h.len_eq]
    · rw [List.length_set]
      omega
    · exact Nat.mod_lt _ hc
    · rw [List.length_set]
      omega
    · have hrot := rotate_set_succ (l := rb.buf) (h := rb.head) (by rw [hfull]; exact h.head_lt) x
      rw [hfull] at hrot
      rw [hrot, h.view, window_concat hc, if_neg (by omega)]
    · rw [if_pos (by omega), h.getElem?_head hfull]

theorem Refines.isFull_iff_length (h : Refines c rb log) : rb.isFull = true ↔ rb.buf.length = c := by
  simp only [RingBuffer.isFull, beq_iff_eq, h.len_eq, h.cap_eq]

/-- A full buffer has an oldest item. -/
theorem Refines.exists_oldest (h : Refines c rb log) (hfull : c ≤ log.length) :
    ∃ oldest, (window c log).head? = some oldest := by
  have hwin : (window c log).length = c := by rw [length_window]; omega
  obtain ⟨oldest, rest, hcons⟩ := List.exists_cons_of_length_pos (show 0 < (window c log).length by
    rw [hwin]; exact h.cap_pos)
  exact ⟨oldest, by rw [hcons, List.head?_cons]⟩

/-- `push_or_recycle` is a `push` of what the closure leaves, or nothing. -/
theorem Refines.pushOrRecycle_eq (h : Refines c rb log) (r : Recycle α) :
    rb.pushOrRecycle r =
      if c ≤ log.length then
        match (window c log).head? with
        | some oldest => (rb.push (r.recycled oldest)).1
        | none => rb
      else
        match r.onNone with
        | some item => (rb.push item).1
        | none => rb := by
  have hlen := h.length_buf
  unfold RingBuffer.pushOrRecycle
  by_cases hfull : c ≤ log.length
  · have hbuf : rb.buf.length = c := by omega
    rw [if_pos (h.isFull_iff.mpr hfull), if_pos hfull, h.getElem?_head hbuf]
    obtain ⟨oldest, ho⟩ := h.exists_oldest hfull
    rw [ho]
    simp [RingBuffer.push, h.cap_eq, hbuf, Recycle.recycled]
  · have hbuf : rb.buf.length < c := by omega
    rw [if_neg (by rw [h.isFull_iff]; exact hfull), if_neg hfull]
    cases r.onNone with
    | some item => simp [RingBuffer.push, h.cap_eq, hbuf]
    | none => rfl

/-- Recycling the oldest slot in place and advancing `head` is a `push` of
the recycled item. -/
theorem Refines.recycle_eq (h : Refines c rb log) (hfull : c ≤ log.length) {oldest : α}
    (ho : (window c log).head? = some oldest) (f : α → α) :
    (rb.nextEvictable f).advanceHead = some (rb.push (f oldest)).1 := by
  have hbuf : rb.buf.length = c := by have := h.length_buf; omega
  have hhead : rb.head < rb.buf.length := by rw [hbuf]; exact h.head_lt
  have hslot : rb.buf[rb.head] = oldest := by
    have := h.getElem?_head hbuf
    rw [ho, List.getElem?_eq_getElem hhead, Option.some.injEq] at this
    exact this
  have hlenc : rb.len = c := by rw [h.len_eq, hbuf]
  simp [RingBuffer.nextEvictable, RingBuffer.advanceHead, RingBuffer.push, h.cap_eq, hbuf, hlenc,
    RingBuffer.isFull, modify_eq_set_getElem hhead, hslot]

/-- A write through logical index `i` of the buffer is a write to the view. -/
theorem Refines.rotate_modify_actualIndex (h : Refines c rb log) {i : Nat} (hi : i < rb.len) (f : α → α) :
    (rb.buf.modify (rb.actualIndex i) f).rotate rb.head = (rb.buf.rotate rb.head).modify i f := by
  rw [h.len_eq] at hi
  unfold RingBuffer.actualIndex
  by_cases hfull : rb.isFull = true
  · have hbuf := h.isFull_iff_length.mp hfull
    rw [if_pos hfull, h.cap_eq, ← hbuf]
    exact rotate_modify (by rw [hbuf]; exact h.head_lt) hi f
  · -- filling: `head` is the end of `buf`, and both rotations are the identity
    have hbuf : rb.buf.length < c := by
      have := h.length_le
      have := h.isFull_iff_length.not.mp hfull
      omega
    rw [if_neg hfull, h.head_filling hbuf, List.rotate_length, ← List.length_modify f rb.buf i,
      List.rotate_length]

theorem Refines.getMut (h : Refines c rb log) (i : Nat) (f : α → α) :
    Refines c (rb.getMut i f) (log.modify (log.length - c + i) f) := by
  have hlen := h.length_buf
  unfold RingBuffer.getMut
  by_cases hi : i ≥ rb.len
  · -- `get_mut` answers `None`: nothing is written, and the offset is past the log
    rw [if_pos hi, List.modify_eq_self (by rw [h.len_eq] at hi; omega)]
    exact h
  · rw [if_neg hi]
    refine ⟨h.cap_eq, h.cap_pos, ?_, ?_, h.head_lt, ?_, ?_⟩ <;> dsimp only
    · rw [List.length_modify, h.len_eq]
    · rw [List.length_modify]
      exact h.length_le
    · rw [List.length_modify]
      exact h.head_filling
    · rw [h.rotate_modify_actualIndex (by omega), h.view, window_modify]

theorem Refines.lastMut (h : Refines c rb log) (f : α → α) :
    Refines c (rb.lastMut f) (log.modify (log.length - 1) f) := by
  have hlen := h.length_buf
  have hc := h.cap_pos
  unfold RingBuffer.lastMut
  by_cases hempty : rb.len = 0
  · -- an empty buffer has an empty log
    have hlog : log = [] := List.eq_nil_of_length_eq_zero (by rw [h.len_eq] at hempty; omega)
    rw [if_pos hempty]
    subst hlog
    rw [List.modify_nil]
    exact h
  · rw [if_neg hempty, show log.length - 1 = log.length - c + (rb.len - 1) by rw [h.len_eq]; omega]
    exact h.getMut _ f

theorem Refines.clear (h : Refines c rb log) : Refines c rb.clear [] :=
  ⟨h.cap_eq, h.cap_pos, rfl, Nat.zero_le c, h.cap_pos, fun _ => rfl, by simp [RingBuffer.clear]⟩

/-- Every operation keeps the relation, with the log moved by the same operation. -/
theorem Refines.apply (h : Refines c rb log) :
    ∀ op : Op α, ∃ rb', op.apply rb = some rb' ∧ Refines c rb' (op.log c log)
  | .push x => ⟨_, rfl, (h.push x).1⟩
  | .pushOrRecycle r => by
      refine ⟨_, rfl, ?_⟩
      rw [h.pushOrRecycle_eq, Op.log]
      split_ifs with hfull
      · obtain ⟨oldest, ho⟩ := h.exists_oldest hfull
        rw [ho]
        exact (h.push _).1
      · cases r.onNone with
        | some item => exact (h.push item).1
        | none => exact h
  | .recycle f => by
      by_cases hfull : c ≤ log.length
      · obtain ⟨oldest, ho⟩ := h.exists_oldest hfull
        refine ⟨(rb.push (f oldest)).1, ?_, ?_⟩
        · rw [Op.apply, if_pos (h.isFull_iff.mpr hfull), h.recycle_eq hfull ho]
        · rw [Op.log, if_pos hfull, ho]
          exact (h.push (f oldest)).1
      · refine ⟨rb, ?_, ?_⟩
        · rw [Op.apply, if_neg (by rw [h.isFull_iff]; exact hfull)]
        · rw [Op.log, if_neg hfull]
          exact h
  | .getMut i f => ⟨_, rfl, h.getMut i f⟩
  | .lastMut f => ⟨_, rfl, h.lastMut f⟩
  | .clear => ⟨_, rfl, h.clear⟩

/-! ### What the caller observes -/

/-- `get` and `get_mut` find logical index `i` in the view. -/
theorem Refines.getElem?_actualIndex (h : Refines c rb log) {i : Nat} (hi : i < rb.len) :
    rb.buf[rb.actualIndex i]? = (rb.buf.rotate rb.head)[i]? := by
  rw [h.len_eq] at hi
  rw [List.getElem?_rotate hi]
  unfold RingBuffer.actualIndex
  by_cases hfull : rb.isFull = true
  · rw [if_pos hfull, h.cap_eq, ← h.isFull_iff_length.mp hfull, Nat.add_comm]
  · -- filling: `head` is the end of `buf`
    have hbuf : rb.buf.length < c := by
      have := h.length_le
      have := h.isFull_iff_length.not.mp hfull
      omega
    rw [if_neg hfull, h.head_filling hbuf, Nat.add_mod_right, Nat.mod_eq_of_lt hi]

theorem Refines.get (h : Refines c rb log) (i : Nat) : rb.get i = (window c log)[i]? := by
  have hlen : (window c log).length = rb.len := by rw [length_window, h.len_eq, h.length_buf]
  unfold RingBuffer.get
  by_cases hi : i ≥ rb.len
  · rw [if_pos hi, List.getElem?_eq_none (by omega)]
  · rw [if_neg hi, h.getElem?_actualIndex (by omega), h.view]

/-- The iterator walks `get` from `index`; where `get` reads a list, it
returns the list from `index`. -/
theorem iterFrom_eq {rb : RingBuffer α} {v : List α} (hget : ∀ i, rb.get i = v[i]?) :
    ∀ fuel index, index + fuel = v.length → rb.iterFrom index fuel = v.drop index
  | 0, index, hend => by
      rw [RingBuffer.iterFrom, List.drop_eq_nil_of_le (by omega)]
  | fuel + 1, index, hend => by
      have hindex : index < v.length := by omega
      rw [RingBuffer.iterFrom, hget index, List.getElem?_eq_getElem hindex]
      dsimp only
      rw [iterFrom_eq hget fuel (index + 1) (by omega), ← List.drop_eq_getElem_cons hindex]

theorem Refines.iter (h : Refines c rb log) : rb.iter = window c log :=
  iterFrom_eq h.get rb.len 0 (by rw [length_window, h.len_eq, h.length_buf, Nat.zero_add])

theorem Refines.len (h : Refines c rb log) : rb.len = min log.length c := by
  rw [h.len_eq, h.length_buf]

/-- Every run keeps the relation. -/
theorem Refines.run : ∀ {rb : RingBuffer α} {log : List α}, Refines c rb log →
    ∀ ops : List (Op α), ∃ rb', Op.run rb ops = some rb' ∧ Refines c rb' (ops.foldl (Op.log c) log)
  | rb, _, h, [] => ⟨rb, rfl, h⟩
  | _, _, h, op :: ops => by
      obtain ⟨rb₁, happly, h₁⟩ := h.apply op
      obtain ⟨rb', hrun, h'⟩ := h₁.run ops
      exact ⟨rb', by rw [Op.run, happly, Option.bind_some, hrun], h'⟩

end Refines

theorem refines_new {c : Nat} (hc : 0 < c) :
    ∃ rb, (RingBuffer.new c : Option (RingBuffer α)) = some rb ∧ Refines c rb [] :=
  ⟨⟨[], c, 0, 0⟩, by rw [RingBuffer.new, if_pos hc], ⟨rfl, hc, rfl, Nat.zero_le c, hc, fun _ => rfl, by simp⟩⟩

/-- A new buffer of capacity `c > 0`, after any sequence of operations,
shows the last `min k c` items of the log of `k` items pushed since the
last `clear` (with the writes applied), through `iter`, `get` and `len`;
and a `push` now evicts the oldest of them exactly when it holds `c`. -/
theorem ringBuffer_refines_window (c : Nat) (hc : 0 < c) (ops : List (Op α)) :
    ∃ rb, ((RingBuffer.new c).bind fun rb => Op.run rb ops) = some rb ∧
      rb.iter = window c (logRun c ops) ∧ (∀ i, rb.get i = (window c (logRun c ops))[i]?) ∧
      rb.len = min (logRun c ops).length c ∧
      ∀ x, (rb.push x).2 = if c ≤ (logRun c ops).length then (window c (logRun c ops)).head? else none := by
  obtain ⟨rb₀, hnew, h₀⟩ := refines_new (α := α) hc
  obtain ⟨rb, hrun, h⟩ := h₀.run ops
  refine ⟨rb, by rw [hnew, Option.bind_some, hrun], h.iter, h.get, h.len, fun x => (h.push x).2⟩

/-- Three pushes into a buffer of two: `iter` shows the last two. -/
theorem ringBuffer_refines_window_wrap :
    ∃ rb, ((RingBuffer.new 2).bind fun rb => Op.run rb [.push (1 : Nat), .push 2, .push 3]) = some rb ∧
      rb.iter = [2, 3] := by
  obtain ⟨rb, hrun, hiter, -⟩ := ringBuffer_refines_window 2 (by decide) [.push (1 : Nat), .push 2, .push 3]
  exact ⟨rb, hrun, by rw [hiter]; rfl⟩

/-- In every state a run reaches, the slots the code indexes are inside
`buf`: `buf[head]` once the buffer is full, and `buf[actual]` for every
logical index below `len`. -/
theorem ringBuffer_indices_in_bounds (c : Nat) (hc : 0 < c) (ops : List (Op α)) :
    ∃ rb, ((RingBuffer.new c).bind fun rb => Op.run rb ops) = some rb ∧
      (rb.isFull = true → rb.head < rb.buf.length) ∧ ∀ i < rb.len, rb.actualIndex i < rb.buf.length := by
  obtain ⟨rb₀, hnew, h₀⟩ := refines_new (α := α) hc
  obtain ⟨rb, hrun, h⟩ := h₀.run ops
  refine ⟨rb, by rw [hnew, Option.bind_some, hrun], fun hfull => ?_, fun i hi => ?_⟩
  · rw [h.isFull_iff_length.mp hfull]
    exact h.head_lt
  · have hsome : (rb.buf.rotate rb.head)[i]?.isSome := by
      rw [Option.isSome_iff_ne_none, ne_eq, List.getElem?_eq_none_iff, List.length_rotate, ← h.len_eq]
      omega
    rw [← h.getElem?_actualIndex hi, Option.isSome_iff_ne_none, ne_eq, List.getElem?_eq_none_iff] at hsome
    omega

/-- A buffer of one, pushed twice: `buf[head]` and slot `0` are inside `buf`. -/
theorem ringBuffer_indices_in_bounds_one :
    ∃ rb, ((RingBuffer.new 1).bind fun rb => Op.run rb [.push (7 : Nat), .push 8]) = some rb ∧
      (rb.isFull = true → rb.head < rb.buf.length) ∧ ∀ i < rb.len, rb.actualIndex i < rb.buf.length :=
  ringBuffer_indices_in_bounds 1 (by decide) [.push (7 : Nat), .push 8]

end PandaOs.Collections
