import PandaOs.Compositor.Screen

/-!
# Runs of the drawing window manager

Two runs of the frame loop from a freshly cleared screen.

A client may move its window anywhere a `u32` reaches. `mark_dirty` of the
moved rectangle compares it with each dirty region through
`Rect::intersects`, which adds the new rectangle's `x` and `width` in
`u32`: a visible window moved to `x = u32::MAX` overflows there, and the
compositor, built with the default dev profile, panics
(`move_to_u32_max_overflows`).

A commit marks dirty the window's rectangle at its new size, and nothing
of the old one. Committing a smaller buffer therefore leaves the pixels the
window no longer covers as they were: after the tick they still show the
old buffer, where a composition of the current windows shows the
background (`shrinking_commit_leaves_stale_pixel`). `referencePixel` is
that composition.
-/

namespace PandaOs.Compositor.Screen

open PandaOs.Lib

/-- The screen at pixel `(x, y)` as the current windows describe it: the
background, with every visible window that has a latched buffer and
contains the pixel blended over it, back to front, each read at the pixel's
position in its buffer. -/
def referencePixel (m : WindowManager) (x y : Nat) : Pixel :=
  m.windows.foldl (fun dst w =>
    match w.latched with
    | some buffer =>
        if w.visible ∧ w.position.1 ≤ x ∧ x < w.position.1 + w.size.1 ∧
            w.position.2 ≤ y ∧ y < w.position.2 + w.size.2 then
          alphaBlend (readBytes buffer.data.bytes (((y - w.position.2) * buffer.width + (x - w.position.1)) * 4) 4) dst
        else dst
    | none => dst)
    (leBytes backgroundColour 4)

/-- A cleared 2 × 1 screen. -/
def twoPixelScreen : MemoryTarget := ⟨fun _ => 0, 2, 1, [], by norm_num, by norm_num, by norm_num⟩

/-- An opaque one-pixel buffer. -/
def whitePixel : Attachment := ⟨0, ⟨fun _ => 255, 4⟩, 1, 1⟩

/-- Create a window, show a one-pixel buffer in it, and move it to the last
column a `u32` names. -/
def moveToEdge : List Input :=
  [.request .createWindow none,
   .request (.attachBuffer 1 1 1 formatBgra8888) (some whitePixel),
   .request (.commit 1) none,
   .request (.setVisible 1 true) none,
   .request (.move 1 (2 ^ 32 - 1) 0) none]

theorem move_to_u32_max_overflows :
    (WindowManager.new (some twoPixelScreen) >>= fun m => m.run moveToEdge) = .error .overflow := rfl

/-- A red pixel, blue byte first. -/
def red : Pixel := [0, 0, 255, 255]

/-- A green pixel. -/
def green : Pixel := [0, 255, 0, 255]

/-- Show a 2 × 1 red buffer, then commit a 1 × 1 green one in its place,
ticking after each commit. -/
def shrinkRun : List Input :=
  [.request .createWindow none,
   .request (.attachBuffer 1 2 1 formatBgra8888) (some ⟨0, ⟨fun i => red.getD (i % 4) 0, 8⟩, 2, 1⟩),
   .request (.setVisible 1 true) none,
   .request (.commit 1) none,
   .tick,
   .request (.attachBuffer 1 1 1 formatBgra8888) (some ⟨1, ⟨fun i => green.getD (i % 4) 0, 4⟩, 1, 1⟩),
   .request (.commit 1) none,
   .tick]

theorem shrinking_commit_leaves_stale_pixel :
    ∃ m events, (WindowManager.new (some twoPixelScreen) >>= fun m => m.run shrinkRun) = .ok (m, events) ∧
      m.target.map (·.getPixel 1 0) = some (.ok red) ∧
      referencePixel m 1 0 = leBytes backgroundColour 4 := ⟨_, _, rfl, rfl, rfl⟩

end PandaOs.Compositor.Screen
