import PandaOs.Compositor.Manager

/-!
# A libpanda window, as its compositor connection sees it

`graphics/surface.rs` gives a client a `Window` with one buffer slot, or two
when double-buffered. `flush` attaches the current slot (always sending
`AttachBuffer` with the slot's buffer handle), sends the damage and
`Commit`, and blocks until the compositor's `FrameDone`. A single-buffered
window then discards the window's `BufferReleased` events; a double-buffered
one switches to the other slot and, if that slot was attached before and
not yet released, blocks until `BufferReleased` names it.

The client names the attachment it waits for by its own count: each slot
remembers `attach_id`, the number it expects the compositor to have given
its latest `AttachBuffer`, and bumps it on every attach of that slot.

Both waits go through `Connection::wait_for`: an event already stashed in
`pending` is taken first; otherwise events are received one by one, the
awaited one ends the wait and every other one is stashed. A blocked flush
is modelled by the field `waiting`, and each received event by `recv`,
which either ends the wait and runs the rest of `flush` or stashes the
event. Buffer allocation and the pixels themselves are left out.
-/

namespace PandaOs.Graphics

open PandaOs.Compositor

/-- `Slot`: one buffer and what is known about its last attachment. -/
structure Slot where
  width : Nat
  height : Nat
  attachId : Option Nat
  released : Bool
  deriving DecidableEq, Repr

/-- `Slot::new`: never attached, so there is nothing to wait for. -/
def Slot.new (width height : Nat) : Slot := ⟨width, height, none, true⟩

/-- `next_id` in `attach_current_if_needed`: the slot's own count. -/
def Slot.nextAttachId (s : Slot) : Nat := (s.attachId.map (· + 1)).getD 0

/-- Where a blocked `flush` is waiting. -/
inductive Wait where
  | frameDone
  | release (buffer : Nat)
  deriving DecidableEq, Repr

/-- The event a wait is for, on window `window`. -/
def Wait.matches (window : Nat) : Wait → Event → Bool
  | .frameDone, .frameDone w _ => w == window
  | .release b, .bufferReleased w b' => w == window && b' == b
  | _, _ => false

/-- `Window`, with the `pending` stash of its connection. -/
structure Window where
  id : Nat
  slots : List Slot
  current : Nat
  damage : List Rect
  pending : List Event
  waiting : Option Wait
  deriving DecidableEq, Repr

/-- Remove the first element satisfying `p`, if there is one. -/
def takeFirst {α : Type} (p : α → Bool) : List α → Option (List α)
  | [] => none
  | a :: as => if p a then some as else (takeFirst p as).map (a :: ·)

namespace Window

/-- The window `build_with_connection` returns once `WindowCreated` has named
it `id`: one fresh slot, or two when double-buffered. -/
def new (id width height : Nat) (doubleBuffered : Bool) : Window :=
  let slots := if doubleBuffered then [Slot.new width height, Slot.new width height]
    else [Slot.new width height]
  ⟨id, slots, 0, [], [], none⟩

/-- The current slot. -/
def slot (w : Window) : Slot := w.slots.getD w.current (Slot.new 0 0)

/-- Write the current slot. -/
def setSlot (w : Window) (s : Slot) : Window := { w with slots := w.slots.set w.current s }

/-- `attach_current_if_needed`: the `AttachBuffer` to send with the slot's
handle, and the slot's new `attach_id`. -/
def attachCurrentIfNeeded (w : Window) : Window × Request :=
  let slot := w.slot
  (w.setSlot { slot with attachId := some slot.nextAttachId, released := false },
    .attachBuffer w.id slot.width slot.height formatBgra8888)

/-- The end of `wait_for_current_release`, once the release is seen. -/
def markReleased (w : Window) : Window :=
  { w.setSlot { w.slot with released := true } with waiting := none }

/-- `wait_for` a `BufferReleased` of `buffer`: from the stash, or block. -/
def waitForRelease (w : Window) (buffer : Nat) : Window :=
  match takeFirst ((Wait.release buffer).matches w.id) w.pending with
  | some rest => markReleased { w with pending := rest }
  | none => { w with waiting := some (.release buffer) }

/-- `wait_for_current_release`. -/
def waitForCurrentRelease (w : Window) : Window :=
  if w.slot.released then { w with waiting := none }
  else
    match w.slot.attachId with
    | none => { w with waiting := none }
    | some id => w.waitForRelease id

/-- The rest of `flush` once `FrameDone` has arrived. -/
def afterFrame (w : Window) : Window :=
  if w.slots.length = 1 then
    let kept := w.pending.filter fun e => match e with
      | .bufferReleased win _ => win != w.id
      | _ => true
    { w with pending := kept, waiting := none }
  else
    waitForCurrentRelease { w with current := (w.current + 1) % w.slots.length }

/-- `wait_for` the window's `FrameDone`: from the stash, or block. -/
def waitForFrame (w : Window) : Window :=
  match takeFirst (Wait.frameDone.matches w.id) w.pending with
  | some rest => afterFrame { w with pending := rest }
  | none => { w with waiting := some .frameDone }

/-- `flush`: the requests it sends (each with whether a handle goes with
it), and the window, blocked or done. -/
def flush (w : Window) : Window × List (Request × Bool) :=
  let (w₁, attach) := w.attachCurrentIfNeeded
  let sent := (attach, true) :: (w₁.damage.map fun r => (Request.damage w.id r, false)) ++
    [(Request.commit w.id, false)]
  (waitForFrame { w₁ with damage := [] }, sent)

/-- One event received while `flush` is blocked. -/
def recv (w : Window) (e : Event) : Window :=
  match w.waiting with
  | none => w
  | some wait =>
      if wait.matches w.id e then
        match wait with
        | .frameDone => afterFrame w
        | .release _ => markReleased w
      else { w with pending := w.pending ++ [e] }

/-- `set_size`: every slot is replaced by a fresh one. -/
def setSize (w : Window) (width height : Nat) : Window :=
  { w with slots := w.slots.map fun _ => Slot.new width height }

/-- `blit_region` into the current slot at `(dstX, dstY)`: only the damage
rectangle it records is kept. -/
def blitRegion (w : Window) (dstX dstY width height : Nat) : Option Window :=
  if dstX + width > w.slot.width ∨ dstY + height > w.slot.height then none
  else some { w with damage := w.damage ++ [⟨dstX, dstY, width, height⟩] }

/-- `fill`: handled by the compositor. -/
def fill (w : Window) (rect : Rect) (colour : Nat) : Request := .fill w.id rect colour

/-- `Drop for Window`. -/
def drop (w : Window) : Request := .destroyWindow w.id

/-- The window is not blocked on a `BufferReleased`. -/
def NoReleaseWait (w : Window) : Prop := ∀ b, w.waiting ≠ some (.release b)

@[simp] theorem setSlot_slots_length (w : Window) (s : Slot) :
    (w.setSlot s).slots.length = w.slots.length := by
  simp [setSlot]

@[simp] theorem setSlot_waiting (w : Window) (s : Slot) : (w.setSlot s).waiting = w.waiting := rfl

theorem flush_fst (w : Window) :
    (flush w).1 = waitForFrame { w.attachCurrentIfNeeded.1 with damage := [] } := rfl

@[simp] theorem setSize_slots_length (w : Window) (width height : Nat) :
    (w.setSize width height).slots.length = w.slots.length := by
  simp [setSize]

@[simp] theorem setSize_waiting (w : Window) (width height : Nat) :
    (w.setSize width height).waiting = w.waiting := rfl

@[simp] theorem setSize_noReleaseWait (w : Window) (width height : Nat) :
    (w.setSize width height).NoReleaseWait ↔ w.NoReleaseWait := Iff.rfl

theorem blitRegion_eq_some {w w' : Window} {dstX dstY width height : Nat}
    (h : w.blitRegion dstX dstY width height = some w') :
    w'.slots = w.slots ∧ w'.waiting = w.waiting := by
  unfold blitRegion at h
  split at h
  · cases h
  · cases h
    exact ⟨rfl, rfl⟩

theorem afterFrame_of_single {w : Window} (h : w.slots.length = 1) :
    (afterFrame w).slots = w.slots ∧ (afterFrame w).waiting = none := by
  simp [afterFrame, h]

theorem waitForFrame_of_single {w : Window} (h : w.slots.length = 1) :
    (waitForFrame w).slots.length = 1 ∧ (waitForFrame w).NoReleaseWait := by
  unfold waitForFrame
  split
  next rest _ =>
    obtain ⟨hs, hn⟩ := afterFrame_of_single (w := { w with pending := rest }) h
    exact ⟨by rw [hs]; exact h, fun b => by rw [hn]; simp⟩
  next => exact ⟨h, fun b => by simp⟩

/-- A single-buffered flush never blocks on a release. -/
theorem flush_of_single {w : Window} (h : w.slots.length = 1) :
    (flush w).1.slots.length = 1 ∧ (flush w).1.NoReleaseWait := by
  rw [flush_fst]
  apply waitForFrame_of_single
  simpa [attachCurrentIfNeeded] using h

theorem recv_of_single {w : Window} (h : w.slots.length = 1) (hw : w.NoReleaseWait) (e : Event) :
    (recv w e).slots.length = 1 ∧ (recv w e).NoReleaseWait := by
  match hwait : w.waiting with
  | none => simpa [recv, hwait] using And.intro h hw
  | some .frameDone =>
      simp only [recv, hwait]
      split
      · obtain ⟨hs, hn⟩ := afterFrame_of_single h
        exact ⟨by rw [hs]; exact h, fun b => by rw [hn]; simp⟩
      · exact ⟨h, fun b => by simp⟩
  | some (.release b) => exact absurd hwait (hw b)

end Window

end PandaOs.Graphics
