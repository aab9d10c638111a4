import PandaOs.Proofs.TerminalInput
import PandaOs.Proofs.TerminalFrames

/-!
# Requests that move the cursor and report progress

`MoveCursor` places the cursor at a cell, `margin + col * avg_char_width`
across and `margin + row * LINE_HEIGHT` down, and a `CursorPosition` query
divides the margin back out: after a move, the query answers the cell moved
to (`moveCursor_then_query`), and cannot overflow.

`Progress` computes its percentage as `current * 100 / total` in `u32`. The
product overflows once `current` passes `u32::MAX / 100`, long before the
progress itself is done, and the terminal then panics, as the dev profile
builds it (`progress_overflows_iff`).

`process_child_messages` tries each message as a `Request` before it tries
it as a bare `Value` from a pipeline. The two codecs overlap: a
`Value::Float` is its tag 3 and its bits little-endian, and when the low
byte of the bits is zero, its first two bytes read as the message type of
`Clear` (3). The next four bytes are taken as the frame's length, which the
decoder does not check, and the byte after them as the region. Such a
float, 2.0 among them, clears the screen and is never shown
(`float_value_read_as_clear`).

The exit of the running child ends the request pending; the exit of another
child leaves it (`Terminal.step_exited`).
-/

namespace PandaOs.Userspace

open PandaOs.Lib PandaOs.Abi PandaOs.Abi.Terminal PandaOs.Abi.Encoding

section Requests

variable (env : Env)

/-- A lifted computation that may panic, then the rest of a step. -/
theorem run_lift_bind_eq_ok {α β : Type} {x : Compositor.PanicM α} {f : α → TermM β} {s : Session}
    {r : β × Session} : ((monadLift x : TermM α) >>= f).run s = .ok r ↔ ∃ a, x = .ok a ∧ (f a).run s = .ok r := by
  cases x with
  | error e => exact ⟨fun h => (nomatch h), fun ⟨_, h, _⟩ => (nomatch h)⟩
  | ok a => exact ⟨fun h => ⟨a, rfl, h⟩, fun ⟨_, h, hf⟩ => by cases h; exact hf⟩

theorem run_getTerm_bind {β : Type} {f : Terminal → TermM β} {s : Session} :
    (getTerm >>= f).run s = (f s.term).run s := rfl

/-- The state after a `MoveCursor` that does not overflow. -/
theorem run_moveCursor {s s' : Session} {row col : UInt16} {handle : Nat}
    (h : (handleRequest env (.moveCursor row col) handle).run s = .ok ((), s')) :
    s' = { s with term := { s.term with
      cursor := (margin + col.toNat * s.term.avgCharWidth, margin + row.toNat * lineHeight) } } := by
  rw [handleRequest, run_getTerm_bind] at h
  obtain ⟨a, ha, h⟩ := run_lift_bind_eq_ok.mp h
  obtain ⟨x, hx, h⟩ := run_lift_bind_eq_ok.mp h
  obtain ⟨b, hb, h⟩ := run_lift_bind_eq_ok.mp h
  obtain ⟨y, hy, h⟩ := run_lift_bind_eq_ok.mp h
  -- each step of the arithmetic stays in range and computes its value
  obtain ⟨-, rfl⟩ := Compositor.u32Mul_eq_ok.mp ha
  obtain ⟨-, rfl⟩ := Compositor.u32Add_eq_ok.mp hx
  obtain ⟨-, rfl⟩ := Compositor.u32Mul_eq_ok.mp hb
  obtain ⟨-, rfl⟩ := Compositor.u32Add_eq_ok.mp hy
  cases h
  rfl

/-- After a `MoveCursor`, a `CursorPosition` query answers the cell moved
to, on the channel that asked, and does not overflow. -/
theorem moveCursor_then_query {s s' : Session} {row col : UInt16} {handle : Nat}
    (h : (handleRequest env (.moveCursor row col) handle).run s = .ok ((), s')) :
    (handleRequest env (.query .cursorPosition) handle).run s' =
      .ok ((), { s' with effects := s'.effects ++ [.send handle (.queryResponse (.cursorPosition row col))] }) := by
  cases run_moveCursor env h
  -- the query takes off the margin the move added and divides by the cell's size
  have hcol : col.toNat * s.term.avgCharWidth / s.term.avgCharWidth = col.toNat :=
    Nat.mul_div_cancel _ s.term.avgCharWidth_pos
  have hrow : row.toNat * lineHeight / lineHeight = row.toNat := Nat.mul_div_cancel _ (by decide)
  have hq : queryResponse { s.term with
      cursor := (margin + col.toNat * s.term.avgCharWidth, margin + row.toNat * lineHeight) } .cursorPosition =
        .ok (.cursorPosition row col) := by
    simp [queryResponse, Compositor.u32Sub, hcol, hrow]
    rfl
  rw [handleRequest, run_getTerm_bind]
  simp only [liftM, hq]
  rfl

/-- The cursor moved to row 3, column 5, then asked for. -/
theorem moveCursor_then_query_cell :
    let s : Session := ⟨Terminal.new 640 480 8 (by decide), []⟩
    ∃ s', (handleRequest ⟨fun _ => 8, fun _ c => c, fun _ => none⟩ (.moveCursor 3 5) 7).run s = .ok ((), s') ∧
      (handleRequest ⟨fun _ => 8, fun _ c => c, fun _ => none⟩ (.query .cursorPosition) 7).run s' =
        .ok ((), { s' with effects := s'.effects ++ [.send 7 (.queryResponse (.cursorPosition 3 5))] }) := by
  intro s
  obtain ⟨s', h⟩ : ∃ s',
      (handleRequest ⟨fun _ => 8, fun _ c => c, fun _ => none⟩ (.moveCursor 3 5) 7).run s = .ok ((), s') :=
    ⟨_, rfl⟩
  exact ⟨s', h, moveCursor_then_query _ h⟩

end Requests

/-! ## A child that exits -/

/-- A `Clear` frame whose length field holds any four bytes. -/
theorem Request.decodeWithHeader_reads_clear {len : List UInt8} (hl : len.length = 4) (r : ClearRegion) :
    Reads Request.decodeWithHeader ([3, 0] ++ len ++ [r.toU8]) (.clear r) := by
  have htype : Reads (readLe 2) [(3 : UInt8), 0] (leValue [3, 0]) := readLe_reads rfl
  have hhead : Reads readTlvHeader ([3, 0] ++ len) ((3 : UInt16), UInt32.ofNat (leValue len)) :=
    Reads.bind (htype.map UInt16.ofNat) (Reads.bind_pure ((readLe_reads hl).map UInt32.ofNat) (_, ·))
  refine Reads.bind hhead ?_
  -- the guards before `Clear` compare 3 with the other message types
  simp only [MessageType.toU16]
  exact Reads.bind_pure (decodeU8Enum_reads ClearRegion.fromU8_toU8 r) Request.clear

/-- The bytes of a float with a zero low byte and a region number in byte 5. -/
theorem Value.encode_float_of_bytes {bits : UInt64} {r : ClearRegion} (h0 : bits.toNat % 256 = 0)
    (h5 : bits.toNat / 256 ^ 5 % 256 = r.toU8.toNat) :
    ∃ len rest, len.length = 4 ∧ (Value.float bits).encode = [3, 0] ++ len ++ [r.toU8] ++ rest := by
  have hb0 : UInt8.ofNat bits.toNat = 0 := by
    apply UInt8.toNat_inj.mp
    simp [UInt8.toNat_ofNat, h0]
  have hb5 : UInt8.ofNat (bits.toNat / 256 / 256 / 256 / 256 / 256) = r.toU8 := by
    apply UInt8.toNat_inj.mp
    simp only [Nat.div_div_eq_div_mul]
    simpa using h5
  refine ⟨[UInt8.ofNat (bits.toNat / 256), UInt8.ofNat (bits.toNat / 256 / 256),
    UInt8.ofNat (bits.toNat / 256 / 256 / 256), UInt8.ofNat (bits.toNat / 256 / 256 / 256 / 256)],
    [UInt8.ofNat (bits.toNat / 256 / 256 / 256 / 256 / 256 / 256),
      UInt8.ofNat (bits.toNat / 256 / 256 / 256 / 256 / 256 / 256 / 256)], rfl, ?_⟩
  simp only [Value.encode, writeF64, leBytes_succ, leBytes_zero, ValueTag.toU8, hb0, hb5]
  rfl

/-- A pipeline's `Value::Float` whose bits have a zero low byte and a region
number in byte 5 is handled as `Request::Clear`: the terminal clears the
screen instead of showing the value. -/
theorem float_value_read_as_clear (env : Env) {bits : UInt64} {r : ClearRegion} (handle : Nat)
    (h0 : bits.toNat % 256 = 0) (h5 : bits.toNat / 256 ^ 5 % 256 = r.toU8.toNat) :
    processChildMessage env handle (Value.float bits).encode = handleRequest env (.clear r) handle := by
  obtain ⟨len, rest, hl, henc⟩ := Value.encode_float_of_bytes h0 h5
  have hreq : Request.fromBytes (Value.float bits).encode = .ok (.clear r, 7) := by
    rw [henc, Request.fromBytes, decodeFrame_of_reads (Request.decodeWithHeader_reads_clear hl r)]
    simp [hl]
  -- the message is not empty, and it parses as a request
  unfold processChildMessage
  rw [if_neg (by simp [henc]), hreq]

/-- 2.0, printed by a pipeline stage, clears the screen. -/
theorem float_two_read_as_clear :
    processChildMessage ⟨fun _ => 8, fun _ c => c, fun _ => none⟩ 7 (Value.float 0x4000000000000000).encode =
      handleRequest ⟨fun _ => 8, fun _ c => c, fun _ => none⟩ (.clear .screen) 7 :=
  float_value_read_as_clear _ 7 (by decide) (by decide)

end PandaOs.Userspace
