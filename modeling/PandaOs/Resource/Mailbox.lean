import PandaOs.Abi.Basic
import PandaOs.Lib.Run

/-!
# Mailboxes

A mailbox gathers the events of the handles attached to it, so that a
process can wait on all of them at once. `MailboxInner` maps each attached
handle id to its event mask and queues pending `(handle_id, flags)` entries.
`post_event` ignores an event none of whose bits the handle's mask selects;
otherwise `push_event_bounded` ORs the event into the handle's entry if the
queue has one, and else appends a new entry, first dropping the oldest one
when the queue already holds `MAX_MAILBOX_EVENTS`. `detach` removes the
handle and its entries, `attach` sets a mask and leaves the queue alone,
and `wait` and `poll` both pop the front entry (the blocking is the
caller's).

The waker is the flag an `IoWaker` raises: every accepted event wakes it and
`clear_waker` lowers it. A `MailboxRef` holds a weak reference and its own
handle id; its post reaches the mailbox while the mailbox lives and does
nothing after.

`attached` is an `AList`, whose `insert` replaces a key as
`BTreeMap::insert` does; the queue is a list, front first. Flags and masks
are `u32`.
-/

namespace PandaOs.Resource

open PandaOs.Abi PandaOs.Lib

/-- `MailboxInner`, with the waker's signalled flag. -/
structure MailboxInner where
  attached : AList (fun _ : Nat => UInt32)
  pending : List (Nat × UInt32)
  signaled : Bool

namespace MailboxInner

/-- The inner state of `Mailbox::new`. -/
def new : MailboxInner := ⟨∅, [], false⟩

/-- The coalescing loop of `push_event_bounded`: OR `events` into the first
entry for `handleId`, or `none` when the queue has no such entry. -/
def coalesce (handleId : Nat) (events : UInt32) :
    List (Nat × UInt32) → Option (List (Nat × UInt32))
  | [] => none
  | e :: rest =>
      if e.1 = handleId then some ((e.1, e.2 ||| events) :: rest)
      else (coalesce handleId events rest).map (e :: ·)

theorem coalesce_nil (handleId : Nat) (events : UInt32) : coalesce handleId events [] = none := rfl

theorem coalesce_cons (handleId : Nat) (events : UInt32) (e : Nat × UInt32) (rest : List (Nat × UInt32)) :
    coalesce handleId events (e :: rest) =
      if e.1 = handleId then some ((e.1, e.2 ||| events) :: rest)
      else (coalesce handleId events rest).map (e :: ·) := rfl

/-- `push_event_bounded`. -/
def pushEventBounded (pending : List (Nat × UInt32)) (handleId : Nat) (events : UInt32) :
    List (Nat × UInt32) :=
  match coalesce handleId events pending with
  | some pending => pending
  | none =>
      -- at capacity the oldest entry is dropped to make room
      let pending := if pending.length ≥ maxMailboxEvents then pending.tail else pending
      pending ++ [(handleId, events)]

/-- `MailboxInner::post_event`. -/
def postEvent (s : MailboxInner) (handleId : Nat) (events : UInt32) : MailboxInner :=
  match s.attached.lookup handleId with
  | some mask =>
      if events &&& mask ≠ 0 then
        { s with pending := pushEventBounded s.pending handleId events, signaled := true }
      else s
  | none => s

/-- Whether `post_event` takes the event: the handle is attached and its
mask selects one of the event's bits. -/
def accepts (s : MailboxInner) (handleId : Nat) (events : UInt32) : Bool :=
  match s.attached.lookup handleId with
  | some mask => events &&& mask != 0
  | none => false

theorem postEvent_eq (s : MailboxInner) (handleId : Nat) (events : UInt32) :
    s.postEvent handleId events =
      if s.accepts handleId events then
        { s with pending := pushEventBounded s.pending handleId events, signaled := true }
      else s := by
  unfold postEvent accepts
  split
  · next mask _ => by_cases h : events &&& mask = 0 <;> simp [h]
  · rfl

end MailboxInner

/-! ## The mailbox's methods, each under the inner lock -/

namespace Mailbox

open MailboxInner

/-- `Mailbox::attach`. -/
def attach (s : MailboxInner) (handleId : Nat) (eventMask : UInt32) : MailboxInner :=
  { s with attached := s.attached.insert handleId eventMask }

/-- `Mailbox::detach`: the handle and its pending entries go. -/
def detach (s : MailboxInner) (handleId : Nat) : MailboxInner :=
  { s with
    attached := s.attached.erase handleId
    pending := s.pending.filter fun e => e.1 ≠ handleId }

/-- `Mailbox::post_event`. -/
def postEvent (s : MailboxInner) (handleId : Nat) (events : UInt32) : MailboxInner :=
  s.postEvent handleId events

/-- `pending.pop_front()`, the body of both `wait` and `poll`. -/
def popFront (s : MailboxInner) : Option (Nat × UInt32) × MailboxInner :=
  (s.pending.head?, { s with pending := s.pending.tail })

/-- `Mailbox::wait`. -/
def wait (s : MailboxInner) : Option (Nat × UInt32) × MailboxInner := popFront s

/-- `Mailbox::poll`. -/
def poll (s : MailboxInner) : Option (Nat × UInt32) × MailboxInner := popFront s

/-- `Mailbox::has_pending`. -/
def hasPending (s : MailboxInner) : Bool := !s.pending.isEmpty

/-- `Mailbox::clear_waker`. -/
def clearWaker (s : MailboxInner) : MailboxInner := { s with signaled := false }

end Mailbox

/-- `MailboxRef`: a weak reference to a mailbox's inner state, and the id of
the handle it posts for. -/
structure MailboxRef where
  handleId : Nat
  deriving DecidableEq, Repr

/-- `MailboxRef::post_event`: the target is `none` once the mailbox is gone. -/
def MailboxRef.postEvent (r : MailboxRef) (target : Option MailboxInner) (events : UInt32) :
    Option MailboxInner :=
  target.map (·.postEvent r.handleId events)

/-! ## Runs -/

/-- The operations on a live mailbox. -/
inductive MailboxOp where
  | attach (handleId : Nat) (eventMask : UInt32)
  | detach (handleId : Nat)
  | postEvent (handleId : Nat) (events : UInt32)
  | refPostEvent (r : MailboxRef) (events : UInt32)
  | wait
  | poll
  | clearWaker

/-- Whether an operation posts an event. -/
def MailboxOp.posts : MailboxOp → Bool
  | .postEvent .. | .refPostEvent .. => true
  | _ => false

namespace Mailbox

/-- One operation; `wait` and `poll` log the entry they return. The mailbox
lives for the whole run, so a `MailboxRef`'s post always reaches it. -/
def step (s : MailboxInner) : MailboxOp → MailboxInner × List (Nat × UInt32)
  | .attach h mask => (attach s h mask, [])
  | .detach h => (detach s h, [])
  | .postEvent h ev => (postEvent s h ev, [])
  | .refPostEvent r ev => ((r.postEvent (some s) ev).getD s, [])
  | .wait => ((wait s).2, (wait s).1.toList)
  | .poll => ((poll s).2, (poll s).1.toList)
  | .clearWaker => (clearWaker s, [])

/-- A run from `Mailbox::new`: the state, and the entries `wait` and `poll`
returned. -/
def run (ops : List MailboxOp) : MailboxInner × List (Nat × UInt32) :=
  runLog step (MailboxInner.new, []) ops

/-- A `MailboxRef`'s post is the mailbox's own post under the ref's handle. -/
theorem step_refPostEvent (s : MailboxInner) (r : MailboxRef) (ev : UInt32) :
    step s (.refPostEvent r ev) = step s (.postEvent r.handleId ev) := rfl

end Mailbox

end PandaOs.Resource
