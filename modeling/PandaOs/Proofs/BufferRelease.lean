import PandaOs.Graphics.Surface
import PandaOs.Lib.Run

/-!
# A window and its compositor: which release a flush waits for

A `Session` is one libpanda window, the compositor serving it, and the two
directions of the channel between them. The client runs a window operation
only while no `flush` of it is blocked; a blocked flush goes on only by
receiving the next event the compositor sent. The compositor takes one
request at a time off its end (`serve_clients`) and ticks.

The client and the compositor count attachments separately: the client per
slot (`Slot::attach_id`), the compositor per window
(`Client::next_buffer_id`). With one slot the two counts agree, and a
single-buffered window never waits for a release anyway
(`single_buffered_never_waits_release`). With two slots they part after the
second flush: the client numbers the second slot's first attachment 0, the
compositor 1. The third flush then switches back to that slot and waits for
`BufferReleased` of buffer 0, which the compositor sent a flush earlier for
the other slot and the client has already used up. Nothing the compositor
does from there sends it again, and no step of either side lets the flush go
on: `Stuck` holds from then on.
-/

namespace PandaOs.Graphics

open PandaOs.Compositor PandaOs.Lib

/-- One window's client, the compositor, and the two queues of their
channel (a request travels with whether a handle is attached). -/
structure Session where
  window : Window
  alive : Bool
  server : CompositorState
  toServer : List (Request × Bool)
  toClient : List Event
  deriving DecidableEq

/-- What either side of a session does next. -/
inductive SessionEvent where
  | flush
  | setSize (width height : Nat)
  | blit (dstX dstY width height : Nat)
  | fill (rect : Rect) (colour : Nat)
  | drop
  | recv
  | serve
  | tick

/-- The attach sequence number each side gives an attachment: the client
when it sends `AttachBuffer`, the compositor when it accepts one. -/
inductive AttachLog where
  | client (id : Nat)
  | server (id : Nat)
  deriving DecidableEq, Repr

/-- The client may start a window operation: the window exists and no flush
of it is blocked. -/
def Session.idle (s : Session) : Bool := s.alive && s.window.waiting.isNone

/-- The ids an accepted request is given by the compositor. -/
def servedIds (s : CompositorState) (request : Request) (attached : Bool) : List AttachLog :=
  ((s.mapRequest request attached).1.map fun a => AttachLog.server a.id).toList

/-- One step of the session. -/
def Session.step (s : Session) : SessionEvent → Session × List AttachLog
  | .flush =>
      if s.idle then
        let r := s.window.flush
        ({ s with window := r.1, toServer := s.toServer ++ r.2 }, [.client s.window.slot.nextAttachId])
      else (s, [])
  | .setSize width height =>
      if s.idle then ({ s with window := s.window.setSize width height }, []) else (s, [])
  | .blit dstX dstY width height =>
      if s.idle then
        match s.window.blitRegion dstX dstY width height with
        | some w => ({ s with window := w }, [])
        | none => (s, [])
      else (s, [])
  | .fill rect colour =>
      if s.idle then ({ s with toServer := s.toServer ++ [(s.window.fill rect colour, false)] }, [])
      else (s, [])
  | .drop =>
      if s.idle then ({ s with alive := false, toServer := s.toServer ++ [(s.window.drop, false)] }, [])
      else (s, [])
  | .recv =>
      match s.toClient with
      | e :: rest =>
          if s.window.waiting.isSome then ({ s with window := s.window.recv e, toClient := rest }, [])
          else (s, [])
      | [] => (s, [])
  | .serve =>
      match s.toServer with
      | (request, attached) :: rest =>
          let r := s.server.serveRequest request attached
          ({ s with server := r.1, toServer := rest, toClient := s.toClient ++ r.2 },
            servedIds s.server request attached)
      | [] => (s, [])
  | .tick =>
      let r := s.server.tick
      ({ s with server := r.1, toClient := s.toClient ++ r.2 }, [])

/-- A session whose window the compositor has just created, as window 1 of
a fresh compositor; the builder's `Move` and `SetVisible` change nothing
kept here. -/
def Session.start (width height : Nat) (doubleBuffered : Bool) : Session :=
  let served := CompositorState.serveRequest ⟨WindowManager.new, ⟨[], []⟩⟩ .createWindow false
  ⟨Window.new 1 width height doubleBuffered, true, served.1, [], []⟩

/-- Run a session, logging the attach ids. -/
def runSession (s : Session) (events : List SessionEvent) : Session × List AttachLog :=
  runLog Session.step (s, []) events

/-! ## Single-buffered windows -/

/-- Every step keeps a single-slot window single-slot and out of any wait
for a release. -/
theorem step_of_single {s : Session} (h : s.window.slots.length = 1)
    (hw : s.window.NoReleaseWait) (e : SessionEvent) :
    (s.step e).1.window.slots.length = 1 ∧ (s.step e).1.window.NoReleaseWait := by
  cases e with
  | flush =>
      by_cases hi : s.idle
      · simpa [Session.step, hi] using Window.flush_of_single h
      · simpa [Session.step, hi] using And.intro h hw
  | setSize width height =>
      by_cases hi : s.idle
      · simpa [Session.step, hi] using And.intro h hw
      · simpa [Session.step, hi] using And.intro h hw
  | blit dstX dstY width height =>
      by_cases hi : s.idle
      · simp only [Session.step, hi, if_true]
        cases hb : s.window.blitRegion dstX dstY width height with
        | none => exact ⟨h, hw⟩
        | some w =>
            obtain ⟨hs, hwt⟩ := Window.blitRegion_eq_some hb
            exact ⟨by rw [hs]; exact h, fun b => by rw [hwt]; exact hw b⟩
      · simpa [Session.step, hi] using And.intro h hw
  | fill rect colour =>
      by_cases hi : s.idle
      · simpa [Session.step, hi] using And.intro h hw
      · simpa [Session.step, hi] using And.intro h hw
  | drop =>
      by_cases hi : s.idle
      · simpa [Session.step, hi] using And.intro h hw
      · simpa [Session.step, hi] using And.intro h hw
  | recv =>
      cases hq : s.toClient with
      | nil => simpa [Session.step, hq] using And.intro h hw
      | cons ev rest =>
          by_cases hs : s.window.waiting.isSome
          · simpa [Session.step, hq, hs] using Window.recv_of_single h hw ev
          · simpa [Session.step, hq, hs] using And.intro h hw
  | serve =>
      cases hq : s.toServer with
      | nil => simpa [Session.step, hq] using And.intro h hw
      | cons r rest => simpa [Session.step, hq] using And.intro h hw
  | tick => simpa [Session.step] using And.intro h hw

/-- The client waits for `BufferReleased` of buffer 0, no message is in
flight either way, and no window of the compositor has a frame to report. -/
structure Session.Stuck (s : Session) : Prop where
  waiting : s.window.waiting = some (.release 0)
  toServer : s.toServer = []
  toClient : s.toClient = []
  quiet : ∀ w ∈ s.server.manager.windows, w.awaitingFrame = false

theorem Session.Stuck.not_idle {s : Session} (h : s.Stuck) : s.idle = false := by
  simp [Session.idle, h.waiting]

/-- Every step keeps a stuck session stuck: the client cannot act, there is
nothing to receive or serve, and a tick reports no frame. -/
theorem Session.Stuck.step {s : Session} (h : s.Stuck) (e : SessionEvent) : (s.step e).1.Stuck := by
  have hi := h.not_idle
  cases e with
  | flush | setSize | blit | fill | drop => simpa [Session.step, hi] using h
  | recv => simpa [Session.step, h.toClient] using h
  | serve => simpa [Session.step, h.toServer] using h
  | tick =>
      have hev := CompositorState.tick_events_of_quiet h.quiet
      exact ⟨h.waiting, h.toServer, by simp [Session.step, h.toClient, hev],
        CompositorState.tick_quiet s.server⟩

theorem Session.Stuck.run {s : Session} (h : s.Stuck) (log : List AttachLog)
    (events : List SessionEvent) : (runLog Session.step (s, log) events).1.Stuck :=
  runLog_inv Session.step (fun s _ => s.Stuck) (fun _ _ e hs => hs.step e) events s log h

/-- Three flushes of a double-buffered window, each served and ticked by the
compositor, with the client reading what it is sent. -/
def alternatingFlushes : List SessionEvent :=
  [.flush, .serve, .serve, .tick, .recv,
    .flush, .serve, .serve, .tick, .recv, .recv,
    .flush, .serve, .serve, .tick, .recv, .recv]

/-- The client numbers the second slot's first attachment 0 where the
compositor numbers it 1; the third flush then waits for a release of buffer
0 that never comes, whatever either side does afterwards. -/
theorem double_buffered_flush_waits_forever :
    (runSession (Session.start 4 4 true) alternatingFlushes).2 =
        [.client 0, .server 0, .client 0, .server 1, .client 1, .server 2] ∧
      ∀ more : List SessionEvent,
        (runSession (Session.start 4 4 true) (alternatingFlushes ++ more)).1.window.waiting =
          some (.release 0) := by
  have hstuck : (runSession (Session.start 4 4 true) alternatingFlushes).1.Stuck := by
    refine ⟨?_, ?_, ?_, ?_⟩
    all_goals decide
  refine ⟨by decide, fun more => ?_⟩
  unfold runSession
  rw [runLog_append]
  exact (hstuck.run _ more).waiting

end PandaOs.Graphics
