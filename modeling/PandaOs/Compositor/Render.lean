import PandaOs.Compositor.Manager
import PandaOs.Lib.Bytes
import PandaOs.Lib.StateExcept

/-!
# Rectangles, the render target and blending

The compositor's geometry is `u32` arithmetic on `Rect`s, and the compositor
is modelled as the default (dev) profile builds it: an addition,
subtraction or multiplication whose result leaves `u32` panics. A run
returns `Except Panic`.

Rust's `||` and `&&` evaluate their right operand only when the left one
does not decide them, so a sum in a later operand is computed, and can
overflow, only then; the definitions below keep that order. `usize`
arithmetic on the byte offsets is exact: it is 64 bits wide and the offsets
come from `u32` values times 4.

`MemoryTarget` is the render target the compositor's tests composite into:
the screen's BGRA bytes, `width * height * 4` of them, which `new` sizes in
`u32`. Its methods only slice pixels inside that size, so their indexing
never panics and is not modelled. A client buffer is its mapped bytes and
their count, read with `slice::get` or behind an explicit length test.
Pixels are their four bytes, blue first.
-/

namespace PandaOs.Compositor

open PandaOs.Lib

/-- Why the compositor's process stops. -/
inductive Panic where
  | overflow
  deriving DecidableEq, Repr

/-- A computation of the compositor that may panic. -/
abbrev PanicM := Except Panic

/-- `u32` addition. -/
def u32Add (a b : Nat) : PanicM Nat := if a + b < 2 ^ 32 then pure (a + b) else throw .overflow

/-- `u32` subtraction. -/
def u32Sub (a b : Nat) : PanicM Nat := if b ≤ a then pure (a - b) else throw .overflow

/-- `u32` multiplication. -/
def u32Mul (a b : Nat) : PanicM Nat := if a * b < 2 ^ 32 then pure (a * b) else throw .overflow

theorem u32Add_of_lt {a b : Nat} (h : a + b < 2 ^ 32) : u32Add a b = pure (a + b) := if_pos h

theorem u32Mul_of_lt {a b : Nat} (h : a * b < 2 ^ 32) : u32Mul a b = pure (a * b) := if_pos h

theorem u32Add_eq_ok {a b c : Nat} : u32Add a b = .ok c ↔ a + b < 2 ^ 32 ∧ a + b = c := by
  unfold u32Add
  split_ifs with h
  · exact ⟨fun hc => ⟨h, Except.ok.inj hc⟩, fun ⟨_, hc⟩ => hc ▸ rfl⟩
  · exact ⟨fun hc => (nomatch hc), fun ⟨hc, _⟩ => absurd hc h⟩

theorem u32Mul_eq_ok {a b c : Nat} : u32Mul a b = .ok c ↔ a * b < 2 ^ 32 ∧ a * b = c := by
  unfold u32Mul
  split_ifs with h
  · exact ⟨fun hc => ⟨h, Except.ok.inj hc⟩, fun ⟨_, hc⟩ => hc ▸ rfl⟩
  · exact ⟨fun hc => (nomatch hc), fun ⟨hc, _⟩ => absurd hc h⟩

namespace Rect

/-- `Rect::intersects`. -/
def intersects (r o : Rect) : PanicM Bool := do
  if r.x ≥ (← u32Add o.x o.width) then return false
  if (← u32Add r.x r.width) ≤ o.x then return false
  if r.y ≥ (← u32Add o.y o.height) then return false
  if (← u32Add r.y r.height) ≤ o.y then return false
  pure true

/-- `Rect::intersection`. -/
def intersection (r o : Rect) : PanicM (Option Rect) := do
  if !(← r.intersects o) then return none
  let x := max r.x o.x
  let y := max r.y o.y
  let x2 := min (← u32Add r.x r.width) (← u32Add o.x o.width)
  let y2 := min (← u32Add r.y r.height) (← u32Add o.y o.height)
  pure (some ⟨x, y, ← u32Sub x2 x, ← u32Sub y2 y⟩)

/-- `Rect::union`. -/
def union (r o : Rect) : PanicM Rect := do
  let x := min r.x o.x
  let y := min r.y o.y
  let x2 := max (← u32Add r.x r.width) (← u32Add o.x o.width)
  let y2 := max (← u32Add r.y r.height) (← u32Add o.y o.height)
  pure ⟨x, y, ← u32Sub x2 x, ← u32Sub y2 y⟩

/-- `Rect::is_adjacent`. Both `h_adjacent` and `v_adjacent` are computed;
inside each, `||` and `&&` stop as soon as they are decided. -/
def isAdjacent (r o : Rect) : PanicM Bool := do
  let hTouch ← do
    if (← u32Add r.x r.width) = o.x then pure true
    else
      let oEnd ← u32Add o.x o.width
      pure (oEnd = r.x)
  let hAdjacent ← do
    if !hTouch then pure false
    else if r.y ≥ (← u32Add o.y o.height) then pure false
    else
      let rEnd ← u32Add r.y r.height
      pure !(o.y ≥ rEnd)
  let vTouch ← do
    if (← u32Add r.y r.height) = o.y then pure true
    else
      let oEnd ← u32Add o.y o.height
      pure (oEnd = r.y)
  let vAdjacent ← do
    if !vTouch then pure false
    else if r.x ≥ (← u32Add o.x o.width) then pure false
    else
      let rEnd ← u32Add r.x r.width
      pure !(o.x ≥ rEnd)
  pure (hAdjacent || vAdjacent)

/-- `Rect::is_empty`. -/
def isEmpty (r : Rect) : Bool := r.width = 0 || r.height = 0

end Rect

/-- `BACKGROUND_COLOUR`. -/
def backgroundColour : Nat := 0xFF2E3440

/-- A pixel: its four bytes. -/
abbrev Pixel := List UInt8

/-- `alpha_blend`: `src` over `dst`. -/
def alphaBlend (src dst : Pixel) : Pixel :=
  let srcAlpha := (src.getD 3 0).toNat
  if srcAlpha = 255 then src
  else if srcAlpha = 0 then dst
  else
    let invAlpha := 255 - srcAlpha
    let channel (i : Nat) : UInt8 :=
      ((((src.getD i 0).toNat * srcAlpha + (dst.getD i 0).toNat * invAlpha) / 255) % 256).toUInt8
    [channel 0, channel 1, channel 2, ((srcAlpha + (dst.getD 3 0).toNat * invAlpha / 255) % 256).toUInt8]

/-- An opaque source replaces the destination. -/
theorem alphaBlend_of_full_alpha {src : Pixel} (h : (src.getD 3 0).toNat = 255) (dst : Pixel) :
    alphaBlend src dst = src := by
  simp only [alphaBlend]
  rw [if_pos h]

/-- A mapped client buffer as a slice: its bytes and their count. -/
structure Slice where
  bytes : Nat → UInt8
  len : Nat

/-- `slice::get`. -/
def Slice.get (s : Slice) (i : Nat) : Option UInt8 := if i < s.len then some (s.bytes i) else none

theorem Slice.get_eq_some {s : Slice} {i : Nat} {b : UInt8} : s.get i = some b ↔ i < s.len ∧ s.bytes i = b := by
  unfold Slice.get
  split_ifs with h <;> simp [h]

/-- The column loop of `is_region_opaque` on one row: every pixel's alpha is
there and is 255. -/
def opaqueRow (data : Slice) (rowStart width : Nat) : Bool :=
  (List.range width).all fun col => data.get (rowStart + col * 4 + 3) = some 255

theorem opaqueRow_eq_true {data : Slice} {rowStart width : Nat} :
    opaqueRow data rowStart width = true ↔
      ∀ col < width, rowStart + col * 4 + 3 < data.len ∧ data.bytes (rowStart + col * 4 + 3) = 255 := by
  simp [opaqueRow, Slice.get_eq_some]

/-- The row loop of `is_region_opaque`. -/
def opaqueRows (data : Slice) (srcX srcY width stride : Nat) : List Nat → PanicM Bool
  | [] => pure true
  | row :: rows => do
      let rowStart := (← u32Add (← u32Mul (← u32Add srcY row) stride) srcX) * 4
      if opaqueRow data rowStart width then opaqueRows data srcX srcY width stride rows
      else pure false

/-- `is_region_opaque`. -/
def isRegionOpaque (data : Slice) (srcX srcY width height stride : Nat) : PanicM Bool :=
  opaqueRows data srcX srcY width stride (List.range height)

/-- `MemoryTarget`: `u32` dimensions, built by `new`, whose `u32` size
computation panics unless `width * height * 4` fits. -/
structure MemoryTarget where
  pixels : Nat → UInt8
  width : Nat
  height : Nat
  flushed : List Rect
  width_lt : width < 2 ^ 32
  height_lt : height < 2 ^ 32
  size_lt : width * height * 4 < 2 ^ 32

namespace MemoryTarget

/-- `MemoryTarget::new`: zeroed bytes. The size is computed in `u32`, so it
panics exactly when `width * height * 4` does not fit. -/
def new (width height : Nat) (hw : width < 2 ^ 32) (hh : height < 2 ^ 32) : PanicM MemoryTarget :=
  if h : width * height * 4 < 2 ^ 32 then pure ⟨fun _ => 0, width, height, [], hw, hh, h⟩ else throw .overflow

variable (t : MemoryTarget)

/-- `MemoryTarget::offset`. -/
def offset (x y : Nat) : PanicM Nat := do u32Mul (← u32Add (← u32Mul y t.width) x) 4

/-- A row inside the target is at most the whole target. -/
theorem row_le_size {x y : Nat} (hx : x ≤ t.width) (hy : y < t.height) :
    y * t.width + x ≤ t.width * t.height :=
  calc y * t.width + x ≤ y * t.width + t.width := by omega
    _ = (y + 1) * t.width := by rw [Nat.add_mul, Nat.one_mul]
    _ ≤ t.height * t.width := Nat.mul_le_mul_right _ hy
    _ = t.width * t.height := Nat.mul_comm _ _

/-- `offset` of a pixel inside the target, or of the end of one of its rows. -/
theorem offset_of_le {x y : Nat} (hx : x ≤ t.width) (hy : y < t.height) :
    t.offset x y = pure ((y * t.width + x) * 4) := by
  have hrow := t.row_le_size hx hy
  have := t.size_lt
  simp only [offset, u32Mul_of_lt (show y * t.width < 2 ^ 32 by omega), pure_bind,
    u32Add_of_lt (show y * t.width + x < 2 ^ 32 by omega), u32Mul_of_lt (show (y * t.width + x) * 4 < 2 ^ 32 by omega)]

/-- `Target::fill`, clipped to the target. -/
def fill (rect : Rect) (colour : Nat) : PanicM MemoryTarget := do
  let yEnd := min (← u32Add rect.y rect.height) t.height
  (List.range' rect.y (yEnd - rect.y)).foldlM (fun t y => do
      -- the column range is computed again for every row
      let xEnd := min (← u32Add rect.x rect.width) t.width
      (List.range' rect.x (xEnd - rect.x)).foldlM (fun t x => do
          let off ← t.offset x y
          pure { t with pixels := writeBytes t.pixels off (leBytes colour 4) }) t) t

/-- `Target::write_row`: `width` pixels from `src`, or nothing when the row
does not fit. -/
def writeRow (x y width : Nat) (src : Nat → UInt8) : PanicM MemoryTarget := do
  if y ≥ t.height then return t
  if (← u32Add x width) > t.width then return t
  let off ← t.offset x y
  pure { t with pixels := writeFn t.pixels off (width * 4) src }

theorem writeRow_of_le {x y width : Nat} (src : Nat → UInt8) (hy : y < t.height) (hx : x + width ≤ t.width) :
    t.writeRow x y width src = pure { t with pixels := writeFn t.pixels ((y * t.width + x) * 4) (width * 4) src } := by
  have := t.width_lt
  simp only [writeRow, u32Add_of_lt (show x + width < 2 ^ 32 by omega), t.offset_of_le (show x ≤ t.width by omega) hy,
    pure_bind]
  rw [if_neg (by omega), if_neg (by omega)]

/-- `Target::get_pixel`: transparent black outside the target. -/
def getPixel (x y : Nat) : PanicM Pixel := do
  if x ≥ t.width ∨ y ≥ t.height then return [0, 0, 0, 0]
  let off ← t.offset x y
  pure (readBytes t.pixels off 4)

theorem getPixel_of_lt {x y : Nat} (hx : x < t.width) (hy : y < t.height) :
    t.getPixel x y = pure (readBytes t.pixels ((y * t.width + x) * 4) 4) := by
  simp only [getPixel, t.offset_of_le hx.le hy, pure_bind]
  rw [if_neg (by omega)]

theorem getPixel_of_not_lt {x y : Nat} (h : ¬ (x < t.width ∧ y < t.height)) :
    t.getPixel x y = pure [0, 0, 0, 0] := by
  simp only [getPixel]
  rw [if_pos (by omega)]

/-- `Target::set_pixel`: dropped outside the target. -/
def setPixel (x y : Nat) (pixel : Pixel) : PanicM MemoryTarget := do
  if x ≥ t.width ∨ y ≥ t.height then return t
  let off ← t.offset x y
  pure { t with pixels := writeBytes t.pixels off pixel }

theorem setPixel_of_lt {x y : Nat} (pixel : Pixel) (hx : x < t.width) (hy : y < t.height) :
    t.setPixel x y pixel = pure { t with pixels := writeBytes t.pixels ((y * t.width + x) * 4) pixel } := by
  simp only [setPixel, t.offset_of_le hx.le hy, pure_bind]
  rw [if_neg (by omega)]

/-- `Target::flush`. -/
def flush (rect : Rect) : MemoryTarget := { t with flushed := t.flushed ++ [rect] }

end MemoryTarget

/-- The opaque path of `composite_window`: whole rows copied with
`write_row`, skipping a row whose source runs past the buffer. -/
def copyRows (buffer : Slice) (windowWidth srcX srcY : Nat) (clip : Rect) :
    MemoryTarget → List Nat → PanicM MemoryTarget
  | t, [] => pure t
  | t, y :: ys => do
      let srcRowStart := (← u32Add (← u32Mul (← u32Add srcY y) windowWidth) srcX) * 4
      let srcRowEnd := srcRowStart + clip.width * 4
      if srcRowEnd > buffer.len then copyRows buffer windowWidth srcX srcY clip t ys
      else
        let t ← t.writeRow clip.x (← u32Add clip.y y) clip.width fun i => buffer.bytes (srcRowStart + i)
        copyRows buffer windowWidth srcX srcY clip t ys

/-- One pixel of the blending path of `composite_window`. -/
def blendPixel (buffer : Slice) (windowWidth srcX srcY : Nat) (clip : Rect) (y : Nat) (t : MemoryTarget)
    (x : Nat) : PanicM MemoryTarget := do
  let srcOffset ← u32Mul (← u32Add (← u32Mul (← u32Add srcY y) windowWidth) (← u32Add srcX x)) 4
  if srcOffset + 4 > buffer.len then return t
  let srcPixel := readBytes buffer.bytes srcOffset 4
  if srcPixel.getD 3 0 = 0 then return t
  let dstX ← u32Add clip.x x
  let dstY ← u32Add clip.y y
  let dstPixel ← t.getPixel dstX dstY
  t.setPixel dstX dstY (alphaBlend srcPixel dstPixel)

/-- The blending path of `composite_window`: every pixel of the clip. -/
def blendRows (buffer : Slice) (windowWidth srcX srcY : Nat) (clip : Rect) (t : MemoryTarget) :
    PanicM MemoryTarget :=
  (List.range clip.height).foldlM (fun t y =>
    (List.range clip.width).foldlM (blendPixel buffer windowWidth srcX srcY clip y) t) t

/-- `composite_window`. -/
def compositeWindow (t : MemoryTarget) (windowPos windowSize : Nat × Nat) (buffer : Slice) (clip : Rect) :
    PanicM MemoryTarget := do
  let srcX := clip.x - windowPos.1
  let srcY := clip.y - windowPos.2
  if ← isRegionOpaque buffer srcX srcY clip.width clip.height windowSize.1 then
    copyRows buffer windowSize.1 srcX srcY clip t (List.range clip.height)
  else blendRows buffer windowSize.1 srcX srcY clip t

/-- `fill_buffer`: the part of `rect` inside the buffer, in `colour`. -/
def fillBuffer (data : Slice) (width height : Nat) (rect : Rect) (colour : Nat) : PanicM Slice := do
  let some rect ← rect.intersection ⟨0, 0, width, height⟩ | return data
  let rows := List.range' rect.y ((← u32Add rect.y rect.height) - rect.y)
  rows.foldlM (fun data y => do
    let cols := List.range' rect.x ((← u32Add rect.x rect.width) - rect.x)
    cols.foldlM (fun data x => do
      let offset ← u32Mul (← u32Add (← u32Mul y width) x) 4
      if offset + 4 > data.len then return data
      pure { data with bytes := writeBytes data.bytes offset (leBytes colour 4) }) data) data

end PandaOs.Compositor
