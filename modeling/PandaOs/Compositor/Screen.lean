import PandaOs.Compositor.Render

/-!
# The window manager with its screen

`WindowManager<T>` in full: each window's position, size, visibility and
pending damage beside its two attachment slots, the coalesced dirty regions,
and the target. `Manager` keeps only what decides the event stream; this is
the manager that draws.

A request changes the screen only through the dirty regions. `Commit`
marks the window's rectangle, or its damage moved to the window's position;
`Move` marks the old and the new rectangle, `SetVisible` and
`DestroyWindow` the rectangle. `mark_dirty` merges a rectangle into the
first region it overlaps or touches and appends it otherwise. `tick`
repaints each dirty region, clipped to the screen: background first, then
every visible window with a latched buffer, back to front, through
`composite_window`.

A client's buffer is `Slice`; the target is `MemoryTarget`.
-/

namespace PandaOs.Compositor.Screen

open PandaOs.Lib

/-- `Attachment`: a mapped client buffer, its attach sequence number and
its geometry. -/
structure Attachment where
  id : Nat
  data : Slice
  width : Nat
  height : Nat

/-- `Attachment::new`: BGRA only, and at least `width * height * 4` bytes,
computed in `usize`. -/
def Attachment.new (id : Nat) (data : Slice) (width height format : Nat) : Option Attachment :=
  if format ≠ formatBgra8888 then none
  else
    let needed := width * height * 4
    if needed ≥ 2 ^ 64 then none
    else if needed = 0 ∨ data.len < needed then none
    else some ⟨id, data, width, height⟩

/-- `Window`. -/
structure Window where
  id : Nat
  visible : Bool
  position : Nat × Nat
  size : Nat × Nat
  pending : Option Attachment
  latched : Option Attachment
  pendingDamage : List Rect
  awaitingFrame : Bool

/-- `Window::rect`. -/
def Window.rect (w : Window) : Rect := ⟨w.position.1, w.position.2, w.size.1, w.size.2⟩

/-- `WindowManager`. -/
structure WindowManager where
  windows : List Window
  dirtyRegions : List Rect
  target : Option MemoryTarget
  nextWindowId : Nat
  frame : Nat

/-- `window_mut(id)` and an update of the window it finds. -/
def updateWindow (ws : List Window) (id : Nat) (f : Window → Window) : List Window :=
  match ws with
  | [] => []
  | w :: rest => if w.id = id then f w :: rest else w :: updateWindow rest id f

theorem updateWindow_cons (w : Window) (rest : List Window) (id : Nat) (f : Window → Window) :
    updateWindow (w :: rest) id f = if w.id = id then f w :: rest else w :: updateWindow rest id f := rfl

/-- The region loop of `mark_dirty`: `rect` merged into the first region it
overlaps or touches, or `none` when there is none. -/
def coalesce (rect : Rect) : List Rect → PanicM (Option (List Rect))
  | [] => pure none
  | existing :: rest => do
      let merge ← if ← existing.intersects rect then pure true else existing.isAdjacent rect
      if merge then return some ((← existing.union rect) :: rest)
      match ← coalesce rect rest with
      | some rest' => pure (some (existing :: rest'))
      | none => pure none

/-- `WindowManager::mark_dirty`, on the dirty regions. -/
def markDirty (regions : List Rect) (rect : Rect) : PanicM (List Rect) := do
  if rect.isEmpty then return regions
  match ← coalesce rect regions with
  | some regions => pure regions
  | none => pure (regions ++ [rect])

/-- What `Compositor::run`'s frame loop hands the manager next: a request
`serve_clients` decoded, with the buffer `map_attachment` mapped for it, or
a tick. -/
inductive Input where
  | request (request : Request) (attachment : Option Attachment)
  | tick

namespace WindowManager

/-- `WindowManager::new`: the screen cleared to the background. -/
def new (target : Option MemoryTarget) : PanicM WindowManager := do
  let target ← match target with
    | none => pure none
    | some t =>
        let screen : Rect := ⟨0, 0, t.width, t.height⟩
        let t ← t.fill screen backgroundColour
        pure (some (t.flush screen))
  pure ⟨[], [], target, 1, 0⟩

/-- The `Commit` arm on a found window `w` with something attached. -/
def commitWindow (m : WindowManager) (window : Nat) (w : Window) : PanicM (WindowManager × List Event) := do
  let (w, events) := match w.pending with
    | some pending =>
        ({ w with size := (pending.width, pending.height), pending := none, latched := some pending },
          match w.latched with
          | some released => [Event.bufferReleased window released.id]
          | none => [])
    | none => (w, [])
  let damage := w.pendingDamage
  let w := { w with awaitingFrame := true, pendingDamage := [] }
  let m := { m with windows := updateWindow m.windows window fun _ => w }
  if !w.visible then return (m, events)
  let regions ←
    if damage.isEmpty then markDirty m.dirtyRegions w.rect
    else
      damage.foldlM (fun regions rect => do
        markDirty regions ⟨← u32Add w.position.1 rect.x, ← u32Add w.position.2 rect.y, rect.width, rect.height⟩)
        m.dirtyRegions
  pure ({ m with dirtyRegions := regions }, events)

/-- The `Fill` arm on a found window: into the pending buffer, or else the
latched one. -/
def fillWindow (w : Window) (rect : Rect) (colour : Nat) : PanicM (Option Window) :=
  match w.pending, w.latched with
  | some content, _ => do
      let data ← fillBuffer content.data content.width content.height rect colour
      pure (some { w with pending := some { content with data }, pendingDamage := w.pendingDamage ++ [rect] })
  | none, some content => do
      let data ← fillBuffer content.data content.width content.height rect colour
      pure (some { w with latched := some { content with data }, pendingDamage := w.pendingDamage ++ [rect] })
  | none, none => pure none

/-- `WindowManager::handle_request`: the events to send back. -/
def handleRequest (m : WindowManager) (request : Request) (attachment : Option Attachment) :
    PanicM (WindowManager × List Event) :=
  match request with
  | .createWindow =>
      let created : Window := ⟨m.nextWindowId, false, (0, 0), (0, 0), none, none, [], false⟩
      pure ({ m with windows := m.windows ++ [created], nextWindowId := m.nextWindowId + 1 },
        [.windowCreated m.nextWindowId])
  | .attachBuffer window _ _ _ =>
      match attachment, m.windows.find? (·.id = window) with
      | some a, some w =>
          pure ({ m with windows := updateWindow m.windows window fun w => { w with pending := some a } },
            match w.pending with
            | some replaced => [.bufferReleased window replaced.id]
            | none => [])
      | _, _ => pure (m, [])
  | .damage window rect =>
      pure ({ m with windows := updateWindow m.windows window fun w =>
        { w with pendingDamage := w.pendingDamage ++ [rect] } }, [])
  | .commit window =>
      match m.windows.find? (·.id = window) with
      | none => pure (m, [])
      | some w =>
          -- a commit with nothing attached has nothing to show
          if w.pending.isNone ∧ w.latched.isNone then pure (m, []) else m.commitWindow window w
  | .fill window rect colour =>
      match m.windows.find? (·.id = window) with
      | none => pure (m, [])
      | some w => do
          match ← fillWindow w rect colour with
          | some w => pure ({ m with windows := updateWindow m.windows window fun _ => w }, [])
          | none => pure (m, [])
  | .setVisible window visible =>
      match m.windows.find? (·.id = window) with
      | none => pure (m, [])
      | some w =>
          if w.visible = visible then pure (m, [])
          else do
            let regions ← markDirty m.dirtyRegions w.rect
            let windows := updateWindow m.windows window fun w => { w with visible }
            pure ({ m with windows, dirtyRegions := regions }, [])
  | .move window x y =>
      match m.windows.find? (·.id = window) with
      | none => pure (m, [])
      | some w => do
          let moved := { w with position := (x, y) }
          let m := { m with windows := updateWindow m.windows window fun _ => moved }
          if !moved.visible then return (m, [])
          let regions ← markDirty m.dirtyRegions w.rect
          let regions ← markDirty regions moved.rect
          pure ({ m with dirtyRegions := regions }, [])
  | .destroyWindow window =>
      match m.windows.find? (·.id = window) with
      | none => pure (m, [])
      | some removed => do
          let released := [removed.pending, removed.latched].reduceOption.map
            fun a => Event.bufferReleased window a.id
          let m := { m with windows := m.windows.eraseP (·.id = window) }
          let regions ←
            if removed.visible ∧ !removed.rect.isEmpty then markDirty m.dirtyRegions removed.rect
            else pure m.dirtyRegions
          pure ({ m with dirtyRegions := regions }, released ++ [.closed window])

/-! Each arm of `handle_request` read on its own: a proof about one request
rewrites with its arm and never unfolds the whole match. -/

section HandleRequestArms

variable (m : WindowManager) (attachment : Option Attachment)

theorem handleRequest_createWindow :
    m.handleRequest .createWindow attachment =
      pure ({ m with
          windows := m.windows ++ [⟨m.nextWindowId, false, (0, 0), (0, 0), none, none, [], false⟩]
          nextWindowId := m.nextWindowId + 1 },
        [.windowCreated m.nextWindowId]) := rfl

theorem handleRequest_attachBuffer (window width height format : Nat) :
    m.handleRequest (.attachBuffer window width height format) attachment =
      match attachment, m.windows.find? (·.id = window) with
      | some a, some w =>
          pure ({ m with windows := updateWindow m.windows window fun w => { w with pending := some a } },
            match w.pending with
            | some replaced => [.bufferReleased window replaced.id]
            | none => [])
      | _, _ => pure (m, []) := rfl

theorem handleRequest_damage (window : Nat) (rect : Rect) :
    m.handleRequest (.damage window rect) attachment =
      pure ({ m with windows := updateWindow m.windows window fun w =>
        { w with pendingDamage := w.pendingDamage ++ [rect] } }, []) := rfl

theorem handleRequest_commit (window : Nat) :
    m.handleRequest (.commit window) attachment =
      match m.windows.find? (·.id = window) with
      | none => pure (m, [])
      | some w =>
          if w.pending.isNone ∧ w.latched.isNone then pure (m, []) else m.commitWindow window w := rfl

theorem handleRequest_fill (window : Nat) (rect : Rect) (colour : Nat) :
    m.handleRequest (.fill window rect colour) attachment =
      (match m.windows.find? (·.id = window) with
      | none => pure (m, [])
      | some w => do
          match ← fillWindow w rect colour with
          | some w => pure ({ m with windows := updateWindow m.windows window fun _ => w }, [])
          | none => pure (m, [])) := rfl

theorem handleRequest_setVisible (window : Nat) (visible : Bool) :
    m.handleRequest (.setVisible window visible) attachment =
      (match m.windows.find? (·.id = window) with
      | none => pure (m, [])
      | some w =>
          if w.visible = visible then pure (m, [])
          else do
            let regions ← markDirty m.dirtyRegions w.rect
            let windows := updateWindow m.windows window fun w => { w with visible }
            pure ({ m with windows, dirtyRegions := regions }, [])) := rfl

theorem handleRequest_move (window x y : Nat) :
    m.handleRequest (.move window x y) attachment =
      (match m.windows.find? (·.id = window) with
      | none => pure (m, [])
      | some w => do
          let moved := { w with position := (x, y) }
          let m := { m with windows := updateWindow m.windows window fun _ => moved }
          if !moved.visible then return (m, [])
          let regions ← markDirty m.dirtyRegions w.rect
          let regions ← markDirty regions moved.rect
          pure ({ m with dirtyRegions := regions }, [])) := rfl

theorem handleRequest_destroyWindow (window : Nat) :
    m.handleRequest (.destroyWindow window) attachment =
      (match m.windows.find? (·.id = window) with
      | none => pure (m, [])
      | some removed => do
          let released := [removed.pending, removed.latched].reduceOption.map
            fun a => Event.bufferReleased window a.id
          let m := { m with windows := m.windows.eraseP (·.id = window) }
          let regions ←
            if removed.visible ∧ !removed.rect.isEmpty then markDirty m.dirtyRegions removed.rect
            else pure m.dirtyRegions
          pure ({ m with dirtyRegions := regions }, released ++ [.closed window])) := rfl

end HandleRequestArms

/-- One window of `composite` over a dirty region. -/
def compositeOne (dirtyRect : Rect) (t : MemoryTarget) (w : Window) : PanicM MemoryTarget := do
  if !w.visible ∨ w.size.1 = 0 ∨ w.size.2 = 0 then return t
  let some buffer := w.latched | return t
  let some clip ← w.rect.intersection dirtyRect | return t
  compositeWindow t w.position w.size buffer.data clip

/-- One dirty region of `composite`: clipped to the screen, cleared to the
background, the windows drawn back to front, and flushed. -/
def compositeRegion (windows : List Window) (screen : Rect) (t : MemoryTarget) (dirty : Rect) :
    PanicM MemoryTarget := do
  let some dirtyRect ← dirty.intersection screen | return t
  let t ← t.fill dirtyRect backgroundColour
  let t ← windows.foldlM (compositeOne dirtyRect) t
  pure (t.flush dirtyRect)

/-- `WindowManager::composite`. -/
def composite (m : WindowManager) : PanicM WindowManager := do
  if m.dirtyRegions.isEmpty then return m
  match m.target with
  | none => pure { m with dirtyRegions := [] }
  | some t =>
      let t ← m.dirtyRegions.foldlM (compositeRegion m.windows ⟨0, 0, t.width, t.height⟩) t
      pure { m with target := some t, dirtyRegions := [] }

/-- `WindowManager::tick`. -/
def tick (m : WindowManager) : PanicM (WindowManager × List Event) := do
  let m ← m.composite
  let frame := m.frame + 1
  pure ({ m with windows := m.windows.map fun w => { w with awaitingFrame := false }, frame },
    (m.windows.filter (·.awaitingFrame)).map fun w => .frameDone w.id frame)

/-- One input of the frame loop. -/
def step (m : WindowManager) : Input → PanicM (WindowManager × List Event)
  | .request request attachment => m.handleRequest request attachment
  | .tick => m.tick

/-- A run of the frame loop: the inputs in order, and every event sent. -/
def run (m : WindowManager) : List Input → PanicM (WindowManager × List Event)
  | [] => pure (m, [])
  | input :: inputs => do
      let (m, events) ← m.step input
      let (m, rest) ← m.run inputs
      pure (m, events ++ rest)

end WindowManager

end PandaOs.Compositor.Screen
