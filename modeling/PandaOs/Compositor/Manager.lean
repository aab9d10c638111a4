import Mathlib

/-!
# The compositor: protocol, window manager and client bookkeeping

A graphical client talks to the compositor over one channel:
`compositor-protocol` fixes the requests it sends and the events it gets
back. The compositor's `WindowManager` keeps, per window, the attachment
that was attached but not committed (`pending`) and the one being
composited (`latched`), and answers each request with events. Attaching
over an uncommitted attachment releases it at once; committing latches the
pending attachment and releases the one it replaces; destroying a window
releases both. A tick reports `FrameDone` for every window that committed
since the last one.

A buffer is named in `BufferReleased` by an attach sequence number. The
compositor counts it per window, in `Client::next_buffer_id`, when
`map_attachment` accepts an `AttachBuffer`.

Only the part of the state that decides the event stream is kept: window
ids, the two attachment slots and the frame flag. Positions, visibility,
damage, dirty regions and pixels only drive compositing and are left out;
`Damage`, `Fill`, `SetVisible` and `Move` therefore change nothing here.
Mapping a client's buffer (`buffer::map`) is taken to succeed.
-/

namespace PandaOs.Compositor

/-- `Rect` of the protocol. -/
structure Rect where
  x : Nat
  y : Nat
  width : Nat
  height : Nat
  deriving DecidableEq, Repr

/-- `FORMAT_BGRA8888`. -/
def formatBgra8888 : Nat := 1

/-- `Request`. -/
inductive Request where
  | createWindow
  | attachBuffer (window width height format : Nat)
  | damage (window : Nat) (rect : Rect)
  | commit (window : Nat)
  | fill (window : Nat) (rect : Rect) (colour : Nat)
  | setVisible (window : Nat) (visible : Bool)
  | move (window x y : Nat)
  | destroyWindow (window : Nat)
  deriving DecidableEq, Repr

/-- `Event`, after the connection greeting (`DisplayFormats`). -/
inductive Event where
  | windowCreated (window : Nat)
  | frameDone (window frame : Nat)
  | bufferReleased (window buffer : Nat)
  | closed (window : Nat)
  deriving DecidableEq, Repr

/-- `Attachment`: a mapped client buffer and the id it is released under. -/
structure Attachment where
  id : Nat
  len : Nat
  width : Nat
  height : Nat
  deriving DecidableEq, Repr

/-- `Attachment::new`: BGRA only, and at least `width * height * 4` bytes. -/
def Attachment.new (id len width height format : Nat) : Option Attachment :=
  if format ≠ formatBgra8888 then none
  else
    let needed := width * height * 4
    if needed ≥ 2 ^ 64 then none
    else if needed = 0 ∨ len < needed then none
    else some ⟨id, len, width, height⟩

/-- A window as the compositor tracks it. -/
structure Window where
  id : Nat
  pending : Option Attachment
  latched : Option Attachment
  awaitingFrame : Bool
  deriving DecidableEq, Repr

/-- `WindowManager`. -/
structure WindowManager where
  windows : List Window
  nextWindowId : Nat
  frame : Nat
  deriving DecidableEq, Repr

/-- `WindowManager::new`. -/
def WindowManager.new : WindowManager := ⟨[], 1, 0⟩

/-- `window_mut(id)` followed by an update of the first window with that id. -/
def modifyWindow (ws : List Window) (id : Nat) (f : Window → Window × List Event) :
    List Window × List Event :=
  match ws with
  | [] => ([], [])
  | w :: rest =>
      if w.id = id then ((f w).1 :: rest, (f w).2)
      else ((w :: (modifyWindow rest id f).1), (modifyWindow rest id f).2)

theorem modifyWindow_cons (w : Window) (rest : List Window) (id : Nat) (f : Window → Window × List Event) :
    modifyWindow (w :: rest) id f =
      if w.id = id then ((f w).1 :: rest, (f w).2)
      else ((w :: (modifyWindow rest id f).1), (modifyWindow rest id f).2) := rfl

/-- The `AttachBuffer` arm on a found window. -/
def Window.attach (w : Window) (a : Attachment) : Window × List Event :=
  match w.pending with
  | some replaced => ({ w with pending := some a }, [.bufferReleased w.id replaced.id])
  | none => ({ w with pending := some a }, [])

/-- The `Commit` arm on a found window. -/
def Window.commit (w : Window) : Window × List Event :=
  if w.pending.isNone ∧ w.latched.isNone then (w, [])
  else
    match w.pending with
    | some p =>
        let released := match w.latched with
          | some l => [Event.bufferReleased w.id l.id]
          | none => []
        ({ w with pending := none, latched := some p, awaitingFrame := true }, released)
    | none => ({ w with awaitingFrame := true }, [])

/-- `WindowManager::handle_request`. -/
def WindowManager.handleRequest (m : WindowManager) (request : Request)
    (attachment : Option Attachment) : WindowManager × List Event :=
  match request with
  | .createWindow =>
      let created : Window := ⟨m.nextWindowId, none, none, false⟩
      let m' : WindowManager := ⟨m.windows ++ [created], m.nextWindowId + 1, m.frame⟩
      (m', [.windowCreated m.nextWindowId])
  | .attachBuffer window _ _ _ =>
      match attachment with
      | none => (m, [])
      | some a =>
          let r := modifyWindow m.windows window (fun w => w.attach a)
          ({ m with windows := r.1 }, r.2)
  | .commit window =>
      let r := modifyWindow m.windows window Window.commit
      ({ m with windows := r.1 }, r.2)
  | .destroyWindow window =>
      match m.windows.find? (fun w => w.id = window) with
      | none => (m, [])
      | some removed =>
          let released := ([removed.pending, removed.latched].filterMap id).map
            fun a => Event.bufferReleased window a.id
          ({ m with windows := m.windows.erase removed }, released ++ [.closed window])
  | .damage _ _ | .fill _ _ _ | .setVisible _ _ | .move _ _ _ => (m, [])

/-! Each arm of `handle_request` read on its own: a proof about one request
rewrites with its arm and never unfolds the whole match. -/

section HandleRequestArms

variable (m : WindowManager) (attachment : Option Attachment)

theorem WindowManager.handleRequest_createWindow :
    m.handleRequest .createWindow attachment =
      (⟨m.windows ++ [⟨m.nextWindowId, none, none, false⟩], m.nextWindowId + 1, m.frame⟩,
        [.windowCreated m.nextWindowId]) := rfl

theorem WindowManager.handleRequest_attachBuffer (window width height format : Nat) :
    m.handleRequest (.attachBuffer window width height format) attachment =
      match attachment with
      | none => (m, [])
      | some a =>
          let r := modifyWindow m.windows window (fun w => w.attach a)
          ({ m with windows := r.1 }, r.2) := rfl

theorem WindowManager.handleRequest_commit (window : Nat) :
    m.handleRequest (.commit window) attachment =
      let r := modifyWindow m.windows window Window.commit
      ({ m with windows := r.1 }, r.2) := rfl

theorem WindowManager.handleRequest_destroyWindow (window : Nat) :
    m.handleRequest (.destroyWindow window) attachment =
      match m.windows.find? (fun w => w.id = window) with
      | none => (m, [])
      | some removed =>
          let released := ([removed.pending, removed.latched].filterMap id).map
            fun a => Event.bufferReleased window a.id
          ({ m with windows := m.windows.erase removed }, released ++ [.closed window]) := rfl

theorem WindowManager.handleRequest_damage (window : Nat) (rect : Rect) :
    m.handleRequest (.damage window rect) attachment = (m, []) := rfl

theorem WindowManager.handleRequest_fill (window : Nat) (rect : Rect) (colour : Nat) :
    m.handleRequest (.fill window rect colour) attachment = (m, []) := rfl

theorem WindowManager.handleRequest_setVisible (window : Nat) (visible : Bool) :
    m.handleRequest (.setVisible window visible) attachment = (m, []) := rfl

theorem WindowManager.handleRequest_move (window x y : Nat) :
    m.handleRequest (.move window x y) attachment = (m, []) := rfl

end HandleRequestArms

/-- `WindowManager::tick`: a `FrameDone` for each window awaiting one. -/
def WindowManager.tick (m : WindowManager) : WindowManager × List Event :=
  let frame := m.frame + 1
  let windows := m.windows.map fun w => { w with awaitingFrame := false }
  (⟨windows, m.nextWindowId, frame⟩,
    (m.windows.filter (·.awaitingFrame)).map fun w => .frameDone w.id frame)

theorem WindowManager.tick_eq (m : WindowManager) :
    m.tick = (⟨m.windows.map fun w => { w with awaitingFrame := false }, m.nextWindowId, m.frame + 1⟩,
      (m.windows.filter (·.awaitingFrame)).map fun w => .frameDone w.id (m.frame + 1)) := rfl

/-- The compositor's record of one connected client (`Client`). -/
structure Client where
  windows : List Nat
  bufferIds : List (Nat × Nat)
  deriving DecidableEq, Repr

/-- `Client::next_buffer_id`: the window's next attach sequence number. -/
def Client.nextBufferId (c : Client) (window : Nat) : Nat × Client :=
  match c.bufferIds.find? (fun p => p.1 = window) with
  | some (_, next) =>
      let bumped := c.bufferIds.map fun p => if p.1 = window then (p.1, p.2 + 1) else p
      (next, { c with bufferIds := bumped })
  | none => (0, { c with bufferIds := c.bufferIds ++ [(window, 1)] })

/-- `map_attachment`: an id is drawn as soon as the handle is there and the
declared size fits a `usize`, before `Attachment::new` validates. -/
def mapAttachment (c : Client) (window width height format : Nat) (attached : Bool) :
    Option Attachment × Client :=
  if ¬attached then (none, c)
  else
    let len := width * height * 4
    if len ≥ 2 ^ 64 then (none, c)
    else
      let r := c.nextBufferId window
      (Attachment.new r.1 len width height format, r.2)

/-- `Compositor` with its one client. -/
structure CompositorState where
  manager : WindowManager
  client : Client
  deriving DecidableEq, Repr

/-- The attachment `serve_clients` maps for a request: only `AttachBuffer`
goes through `map_attachment`. -/
def CompositorState.mapRequest (s : CompositorState) (request : Request) (attached : Bool) :
    Option Attachment × Client :=
  match request with
  | .attachBuffer window width height format =>
      mapAttachment s.client window width height format attached
  | _ => (none, s.client)

/-- One request taken from the client's channel by `serve_clients`, with
whether a handle came with it: the events to send back. -/
def CompositorState.serveRequest (s : CompositorState) (request : Request) (attached : Bool) :
    CompositorState × List Event :=
  let mapped := s.mapRequest request attached
  let r := s.manager.handleRequest request mapped.1
  let windows := r.2.foldl (fun ws e => match e with
    | .windowCreated w => ws ++ [w]
    | .closed w => ws.filter (· ≠ w)
    | _ => ws) mapped.2.windows
  (⟨r.1, { mapped.2 with windows := windows }⟩, r.2)

/-- `Compositor::tick`: the `FrameDone`s of the client's windows. -/
def CompositorState.tick (s : CompositorState) : CompositorState × List Event :=
  let r := s.manager.tick
  ({ s with manager := r.1 }, r.2.filter fun e => match e with
    | .frameDone w _ => w ∈ s.client.windows
    | _ => false)

theorem WindowManager.tick_quiet (m : WindowManager) :
    ∀ w ∈ m.tick.1.windows, w.awaitingFrame = false := by
  intro w hw
  simp only [WindowManager.tick_eq, List.mem_map] at hw
  obtain ⟨v, -, rfl⟩ := hw
  rfl

theorem WindowManager.tick_events_of_quiet {m : WindowManager}
    (h : ∀ w ∈ m.windows, w.awaitingFrame = false) : m.tick.2 = [] := by
  simp only [WindowManager.tick_eq, List.map_eq_nil_iff, List.filter_eq_nil_iff]
  intro w hw
  simp [h w hw]

theorem CompositorState.tick_quiet (s : CompositorState) :
    ∀ w ∈ s.tick.1.manager.windows, w.awaitingFrame = false :=
  s.manager.tick_quiet

theorem CompositorState.tick_events_of_quiet {s : CompositorState}
    (h : ∀ w ∈ s.manager.windows, w.awaitingFrame = false) : s.tick.2 = [] := by
  simp [CompositorState.tick, WindowManager.tick_events_of_quiet h]

end PandaOs.Compositor
