import Mathlib.Data.List.Basic

/-!
# `ring_buffer::RingBuffer`

A fixed-capacity circular buffer over a `Vec` allocated once: `buf` grows
by `push` until it holds `cap` items, after which every push overwrites the
slot at `head`, the oldest entry, and moves `head` on. `len` counts the
live entries and `get` reads logical index `i` at `(head + i) % cap` once
the buffer is full and at `i` before.

Besides `push`, a full buffer can be written through references: the slot
`next_evictable` hands out (then `advance_head` commits it as the newest),
the slot `push_or_recycle` passes to its closure, and the slots of
`get_mut` and `last_mut`. A reference is modelled by the change the caller
makes through it, a function `α → α`; the closure of `push_or_recycle` by
what it does when offered a slot (the slot's new value and its result) and
when offered none (its result).

The two `assert!`s (`new` with capacity 0, `advance_head` on a buffer that
is not full) return `none`. The indexing `buf[head]`, `buf[actual]` would
panic out of bounds; it reads with `[i]?` here, and in every state the
operations reach the index is in bounds (`Proofs/RingBufferRefines`).
-/

namespace PandaOs.Collections

/-- `RingBuffer<T>`. -/
structure RingBuffer (α : Type) where
  buf : List α
  cap : Nat
  head : Nat
  len : Nat

/-- A `push_or_recycle` closure: the slot's new value and the result when
offered the oldest slot, and the result when offered none. -/
structure Recycle (α : Type) where
  onSlot : α → α × Option α
  onNone : Option α

namespace RingBuffer

variable {α : Type}

/-- `RingBuffer::new`. -/
def new (capacity : Nat) : Option (RingBuffer α) :=
  if capacity > 0 then some ⟨[], capacity, 0, 0⟩ else none

/-- `is_full`. -/
def isFull (rb : RingBuffer α) : Bool := rb.len == rb.cap

/-- `push`: the new state and the evicted item. -/
def push (rb : RingBuffer α) (item : α) : RingBuffer α × Option α :=
  if rb.buf.length < rb.cap then
    -- still filling the initial allocation
    let buf := rb.buf ++ [item]
    ({ rb with buf := buf, head := buf.length % rb.cap, len := buf.length }, none)
  else
    -- `core::mem::replace(&mut self.buf[self.head], item)`
    ({ rb with buf := rb.buf.set rb.head item, head := (rb.head + 1) % rb.cap }, rb.buf[rb.head]?)

/-- `next_evictable`, with the caller's change `f` made through the slot it returns. -/
def nextEvictable (rb : RingBuffer α) (f : α → α) : RingBuffer α :=
  if rb.isFull then { rb with buf := rb.buf.modify rb.head f } else rb

/-- `advance_head`. -/
def advanceHead (rb : RingBuffer α) : Option (RingBuffer α) :=
  if rb.isFull then some { rb with head := (rb.head + 1) % rb.cap } else none

/-- `push_or_recycle`. -/
def pushOrRecycle (rb : RingBuffer α) (recycle : Recycle α) : RingBuffer α :=
  if rb.isFull then
    match rb.buf[rb.head]? with
    | some slot =>
        -- a result replaces the slot; without one the slot keeps what the closure left in it
        let (slot, result) := recycle.onSlot slot
        { rb with buf := rb.buf.set rb.head (result.getD slot), head := (rb.head + 1) % rb.cap }
    | none => rb
  else
    match recycle.onNone with
    | some item =>
        let buf := rb.buf ++ [item]
        { rb with buf := buf, head := buf.length % rb.cap, len := buf.length }
    | none => rb

/-- The slot of logical index `index`, as `get` and `get_mut` compute it. -/
def actualIndex (rb : RingBuffer α) (index : Nat) : Nat :=
  if rb.isFull then (rb.head + index) % rb.cap else index

/-- `get`. -/
def get (rb : RingBuffer α) (index : Nat) : Option α :=
  if index ≥ rb.len then none else rb.buf[rb.actualIndex index]?

/-- `get_mut`, with the caller's change `f` made through the slot it returns. -/
def getMut (rb : RingBuffer α) (index : Nat) (f : α → α) : RingBuffer α :=
  if index ≥ rb.len then rb else { rb with buf := rb.buf.modify (rb.actualIndex index) f }

/-- `last`. -/
def last (rb : RingBuffer α) : Option α :=
  if rb.len = 0 then none else rb.get (rb.len - 1)

/-- `last_mut`, with the caller's change `f`. -/
def lastMut (rb : RingBuffer α) (f : α → α) : RingBuffer α :=
  if rb.len = 0 then rb else rb.getMut (rb.len - 1) f

/-- `RingBufferIter` from logical index `index`: `get` until it answers
`None`. It answers for at most `len` indices, which bounds the walk. -/
def iterFrom (rb : RingBuffer α) (index : Nat) : Nat → List α
  | 0 => []
  | fuel + 1 =>
      match rb.get index with
      | some item => item :: rb.iterFrom (index + 1) fuel
      | none => []

/-- `iter`. -/
def iter (rb : RingBuffer α) : List α := rb.iterFrom 0 rb.len

/-- `clear`. -/
def clear (rb : RingBuffer α) : RingBuffer α := { rb with buf := [], head := 0, len := 0 }

end RingBuffer

/-- The ways a caller changes the buffer. `recycle` is the pattern
`next_evictable` is for: change the oldest slot in place, then
`advance_head`, when the buffer is full. -/
inductive Op (α : Type) where
  | push (item : α)
  | pushOrRecycle (recycle : Recycle α)
  | recycle (f : α → α)
  | getMut (index : Nat) (f : α → α)
  | lastMut (f : α → α)
  | clear

namespace Op

variable {α : Type}

/-- One operation on the buffer; `none` is a failed `assert!`. -/
def apply (rb : RingBuffer α) : Op α → Option (RingBuffer α)
  | .push item => some (rb.push item).1
  | .pushOrRecycle r => some (rb.pushOrRecycle r)
  | .recycle f => if rb.isFull then (rb.nextEvictable f).advanceHead else some rb
  | .getMut index f => some (rb.getMut index f)
  | .lastMut f => some (rb.lastMut f)
  | .clear => some rb.clear

/-- A sequence of operations, stopping at a failed `assert!`. -/
def run (rb : RingBuffer α) : List (Op α) → Option (RingBuffer α)
  | [] => some rb
  | op :: ops => (op.apply rb).bind fun rb => run rb ops

end Op

end PandaOs.Collections
