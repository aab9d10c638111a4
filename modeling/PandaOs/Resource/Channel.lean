import PandaOs.Abi.Basic

/-!
# Channels: two queues behind one lock

`resource/channel.rs` implements a bidirectional channel as one shared
record with a half per endpoint. Each half owns the queue of messages *its*
endpoint has sent and that endpoint's `closed` flag; an endpoint therefore
pushes onto its own half's queue and receives by popping its peer's. The
source reaches the two halves through `ChannelShared::halves`, which hands
out `(ours, peer)` as two mutable references chosen by the endpoint's side.
The model keeps that accessor and pairs it with `setHalves`, which writes
the two references back, so that every operation reads exactly like its
source: take the halves, inspect them, write back what changed.

Every operation returns the new shared record together with its result,
failures included. The buffer-too-small path of `recv` pops the message
and pushes it back; that it leaves the record as it found it is a theorem
here, not something the types hide. Wakers and mailbox notifications are
side effects on other objects and are left out; nothing in a channel's own
state depends on them.

The resource a message may carry (`Arc<dyn Resource>` in the source) is a
type parameter: the channel only stores and returns it.
-/

namespace PandaOs.Resource

open PandaOs.Abi

/-- `ChannelError`. -/
inductive ChannelError where
  | MessageTooLarge
  | BufferTooSmall
  | QueueFull
  | QueueEmpty
  | PeerClosed
  deriving DecidableEq, Repr

/-- Which endpoint of the pair an operation is issued from. -/
inductive Side where
  | A
  | B
  deriving DecidableEq, Repr

/-- The other endpoint. -/
def Side.peer : Side → Side
  | .A => .B
  | .B => .A

@[simp] theorem Side.peer_peer (s : Side) : s.peer.peer = s := by
  cases s <;> rfl

@[simp] theorem Side.peer_ne (s : Side) : s.peer ≠ s := by
  cases s <;> decide

@[simp] theorem Side.ne_peer (s : Side) : s ≠ s.peer := by
  cases s <;> decide

/-- A side other than `side` is its peer. -/
theorem Side.eq_peer_of_ne {x side : Side} (h : x ≠ side) : x = side.peer := by
  cases x <;> cases side <;> first | rfl | exact absurd rfl h

section

variable {ρ : Type}

/-- `ChannelMessage`: the bytes and an optional attached resource. -/
structure ChannelMessage (ρ : Type) where
  data : List UInt8
  attachment : Option ρ

/-- `ChannelHalf`: the queue of messages this side has sent, and whether
this side has closed. -/
structure ChannelHalf (ρ : Type) where
  queue : List (ChannelMessage ρ)
  closed : Bool

/-- `ChannelShared`. -/
structure ChannelShared (ρ : Type) where
  a : ChannelHalf ρ
  b : ChannelHalf ρ
  capacity : Nat

/-- `ChannelHalf::new`. -/
def ChannelHalf.new : ChannelHalf ρ := ⟨[], false⟩

/-- `ChannelShared::new`, the state `create_pair` starts both endpoints on. -/
def ChannelShared.new : ChannelShared ρ :=
  ⟨ChannelHalf.new, ChannelHalf.new, defaultQueueCapacity⟩

/-- The half a side owns. -/
def ChannelShared.half (s : ChannelShared ρ) : Side → ChannelHalf ρ
  | .A => s.a
  | .B => s.b

/-- `ChannelShared::halves`: `(ours, peer)` for a side. -/
def ChannelShared.halves (s : ChannelShared ρ) (side : Side) :
    ChannelHalf ρ × ChannelHalf ρ :=
  (s.half side, s.half side.peer)

/-- Write back the two halves `halves` handed out. -/
def ChannelShared.setHalves (s : ChannelShared ρ) :
    Side → ChannelHalf ρ × ChannelHalf ρ → ChannelShared ρ
  | .A, (ours, peer) => { s with a := ours, b := peer }
  | .B, (ours, peer) => { s with b := ours, a := peer }

@[simp] theorem ChannelShared.half_peer_a (s : ChannelShared ρ) :
    s.half Side.A.peer = s.b := rfl

@[simp] theorem ChannelShared.half_peer_b (s : ChannelShared ρ) :
    s.half Side.B.peer = s.a := rfl

@[simp] theorem ChannelShared.half_setHalves (s : ChannelShared ρ) (side : Side)
    (ours peer : ChannelHalf ρ) (x : Side) :
    (s.setHalves side (ours, peer)).half x = if x = side then ours else peer := by
  cases side <;> cases x <;> rfl

@[simp] theorem ChannelShared.capacity_setHalves (s : ChannelShared ρ) (side : Side)
    (p : ChannelHalf ρ × ChannelHalf ρ) : (s.setHalves side p).capacity = s.capacity := by
  cases side <;> rfl

/-- Writing back the halves unchanged is the identity. -/
@[simp] theorem ChannelShared.setHalves_halves (s : ChannelShared ρ) (side : Side) :
    s.setHalves side (s.halves side) = s := by
  cases side <;> rfl

/-- Two shared records agree when their halves and capacity do. -/
theorem ChannelShared.ext_half {s t : ChannelShared ρ} (ha : ∀ x, s.half x = t.half x)
    (hc : s.capacity = t.capacity) : s = t := by
  cases s; cases t
  have h1 := ha .A
  have h2 := ha .B
  simp only [ChannelShared.half] at h1 h2 hc
  subst h1 h2 hc
  rfl

/-- `ChannelEndpoint::send_with_attachment`. -/
def sendWithAttachment (s : ChannelShared ρ) (side : Side) (msg : List UInt8)
    (attachment : Option ρ) : Except ChannelError Unit × ChannelShared ρ :=
  if msg.length > maxMessageSize then (.error .MessageTooLarge, s)
  else
    let capacity := s.capacity
    let (ours, peer) := s.halves side
    if peer.closed then (.error .PeerClosed, s)
    else if ours.queue.length ≥ capacity then (.error .QueueFull, s)
    else
      (.ok (), s.setHalves side
        ({ ours with queue := ours.queue ++ [⟨msg, attachment⟩] }, peer))

/-- `ChannelEndpoint::recv_with_attachment` into a buffer of `buf.length`
bytes: on success the received length, the buffer with the message copied
to its front, and the attachment. -/
def recvWithAttachment (s : ChannelShared ρ) (side : Side) (buf : List UInt8) :
    Except ChannelError (Nat × List UInt8 × Option ρ) × ChannelShared ρ :=
  let capacity := s.capacity
  let (ours, peer) := s.halves side
  -- We receive from the peer's queue: the peer sends to us through it.
  match peer.queue with
  | msg :: rest =>
      if buf.length < msg.data.length then
        -- Popped and pushed back to the front.
        (.error .BufferTooSmall,
          s.setHalves side (ours, { peer with queue := msg :: rest }))
      else
        let len := msg.data.length
        -- Only the peer's waker observes `was_full`; the queues do not.
        let _wasFull := rest.length + 1 ≥ capacity
        (.ok (len, msg.data ++ buf.drop len, msg.attachment),
          s.setHalves side (ours, { peer with queue := rest }))
  | [] =>
      if peer.closed then (.error .PeerClosed, s)
      else (.error .QueueEmpty, s)

/-- `ChannelEndpoint::peek_has_attachment`. -/
def peekHasAttachment (s : ChannelShared ρ) (side : Side) : Option Bool :=
  let (_, peer) := s.halves side
  peer.queue.head?.map fun msg => msg.attachment.isSome

/-- `ChannelEndpoint::would_block_send`. -/
def wouldBlockSend (s : ChannelShared ρ) (side : Side) : Bool :=
  let (ours, _) := s.halves side
  decide (ours.queue.length ≥ s.capacity)

/-- `ChannelEndpoint::would_block_recv`. -/
def wouldBlockRecv (s : ChannelShared ρ) (side : Side) : Bool :=
  let (_, peer) := s.halves side
  peer.queue.isEmpty && !peer.closed

/-- `ChannelEndpoint::close`, run when an endpoint is dropped. -/
def close (s : ChannelShared ρ) (side : Side) : ChannelShared ρ :=
  let (ours, peer) := s.halves side
  s.setHalves side ({ ours with closed := true }, peer)

/-! ## What each operation does, said once

The protocol proofs never unfold an operation: they go through these
lemmas, one per outcome. -/

theorem sendWithAttachment_ok {s s' : ChannelShared ρ} {side : Side} {msg : List UInt8}
    {att : Option ρ} {u : Unit} (h : sendWithAttachment s side msg att = (.ok u, s')) :
    msg.length ≤ maxMessageSize ∧ (s.half side.peer).closed = false ∧
      (s.half side).queue.length < s.capacity ∧
      s' = s.setHalves side ({ s.half side with queue := (s.half side).queue ++ [⟨msg, att⟩] },
        s.half side.peer) := by
  dsimp only [sendWithAttachment, ChannelShared.halves] at h
  split at h
  · cases h
  · next hlen =>
      split at h
      · cases h
      · next hc =>
          split at h
          · cases h
          · next hq =>
              injection h with _ h
              exact ⟨by omega, by simpa using hc, by omega, h.symm⟩

theorem sendWithAttachment_error {s s' : ChannelShared ρ} {side : Side} {msg : List UInt8}
    {att : Option ρ} {e : ChannelError}
    (h : sendWithAttachment s side msg att = (.error e, s')) : s' = s := by
  dsimp only [sendWithAttachment, ChannelShared.halves] at h
  split at h
  · injection h with _ h; exact h.symm
  · split at h
    · injection h with _ h; exact h.symm
    · split at h
      · injection h with _ h; exact h.symm
      · cases h

/-- Send fails with `PeerClosed` only when the message fits and the peer has
closed. -/
theorem sendWithAttachment_peerClosed {s s' : ChannelShared ρ} {side : Side}
    {msg : List UInt8} {att : Option ρ}
    (h : sendWithAttachment s side msg att = (.error .PeerClosed, s')) :
    (s.half side.peer).closed = true := by
  dsimp only [sendWithAttachment, ChannelShared.halves] at h
  split at h
  · cases h
  · split at h
    · next hc => exact hc
    · split at h <;> cases h

theorem recvWithAttachment_ok {s s' : ChannelShared ρ} {side : Side} {buf : List UInt8}
    {r : Nat × List UInt8 × Option ρ}
    (h : recvWithAttachment s side buf = (.ok r, s')) :
    ∃ msg rest, (s.half side.peer).queue = msg :: rest ∧ msg.data.length ≤ buf.length ∧
      r = (msg.data.length, msg.data ++ buf.drop msg.data.length, msg.attachment) ∧
      s' = s.setHalves side (s.half side, { s.half side.peer with queue := rest }) := by
  dsimp only [recvWithAttachment, ChannelShared.halves] at h
  split at h
  · next msg rest hq =>
      split at h
      · cases h
      · next hlen =>
          injection h with h1 h2
          injection h1 with h1
          exact ⟨msg, rest, hq, by omega, h1.symm, h2.symm⟩
  · by_cases hc : (s.half side.peer).closed = true
    · simp only [hc] at h; cases h
    · simp only [hc] at h; cases h

theorem recvWithAttachment_error {s s' : ChannelShared ρ} {side : Side} {buf : List UInt8}
    {e : ChannelError} (h : recvWithAttachment s side buf = (.error e, s')) : s' = s := by
  dsimp only [recvWithAttachment, ChannelShared.halves] at h
  split at h
  · next msg rest hq =>
      split at h
      · injection h with _ h
        -- The popped message went back to the front: the halves are as found.
        rw [← h, ← hq]
        exact ChannelShared.setHalves_halves s side
      · cases h
  · by_cases hc : (s.half side.peer).closed = true
    · simp only [hc] at h; injection h with _ h; exact h.symm
    · simp only [hc] at h; injection h with _ h; exact h.symm

/-- Receive reports `PeerClosed` only on an empty queue from a closed peer. -/
theorem recvWithAttachment_peerClosed {s s' : ChannelShared ρ} {side : Side}
    {buf : List UInt8} (h : recvWithAttachment s side buf = (.error .PeerClosed, s')) :
    (s.half side.peer).queue = [] ∧ (s.half side.peer).closed = true := by
  dsimp only [recvWithAttachment, ChannelShared.halves] at h
  split at h
  · split at h <;> cases h
  · next hq =>
      by_cases hc : (s.half side.peer).closed = true
      · exact ⟨hq, hc⟩
      · simp only [hc] at h; cases h

/-- `peek_has_attachment` looks at the message a receive would pop. -/
theorem peekHasAttachment_of_queue {s : ChannelShared ρ} {side : Side}
    {msg : ChannelMessage ρ} {rest : List (ChannelMessage ρ)}
    (h : (s.half side.peer).queue = msg :: rest) :
    peekHasAttachment s side = some msg.attachment.isSome := by
  simp only [peekHasAttachment, ChannelShared.halves, h, List.head?_cons, Option.map_some]

/-- The three ways a receive fails, each with the queue state behind it. -/
theorem recvWithAttachment_error_cases {s s' : ChannelShared ρ} {side : Side}
    {buf : List UInt8} {e : ChannelError} (h : recvWithAttachment s side buf = (.error e, s')) :
    (∃ msg rest, (s.half side.peer).queue = msg :: rest ∧ buf.length < msg.data.length ∧
        e = .BufferTooSmall) ∨
      ((s.half side.peer).queue = [] ∧ (s.half side.peer).closed = false ∧ e = .QueueEmpty) ∨
      ((s.half side.peer).queue = [] ∧ (s.half side.peer).closed = true ∧ e = .PeerClosed) := by
  dsimp only [recvWithAttachment, ChannelShared.halves] at h
  split at h
  · next msg rest hq =>
      split at h
      · next hlen =>
          injection h with h
          injection h with h
          exact .inl ⟨msg, rest, hq, hlen, h.symm⟩
      · cases h
  · next hq =>
      by_cases hc : (s.half side.peer).closed = true
      · simp only [hc] at h
        injection h with h
        injection h with h
        exact .inr (.inr ⟨hq, hc, h.symm⟩)
      · simp only [hc] at h
        injection h with h
        injection h with h
        exact .inr (.inl ⟨hq, by simpa using hc, h.symm⟩)

/-- The three ways a send fails, checked in this order. -/
theorem sendWithAttachment_error_cases {s s' : ChannelShared ρ} {side : Side}
    {msg : List UInt8} {att : Option ρ} {e : ChannelError}
    (h : sendWithAttachment s side msg att = (.error e, s')) :
    (maxMessageSize < msg.length ∧ e = .MessageTooLarge) ∨
      (msg.length ≤ maxMessageSize ∧ (s.half side.peer).closed = true ∧ e = .PeerClosed) ∨
      (msg.length ≤ maxMessageSize ∧ (s.half side.peer).closed = false ∧
        s.capacity ≤ (s.half side).queue.length ∧ e = .QueueFull) := by
  dsimp only [sendWithAttachment, ChannelShared.halves] at h
  split at h
  · next hlen =>
      injection h with h
      injection h with h
      exact .inl ⟨hlen, h.symm⟩
  · next hlen =>
      split at h
      · next hc =>
          injection h with h
          injection h with h
          exact .inr (.inl ⟨by omega, hc, h.symm⟩)
      · next hc =>
          split at h
          · next hq =>
              injection h with h
              injection h with h
              exact .inr (.inr ⟨by omega, by simpa using hc, hq, h.symm⟩)
          · cases h

/-! ## What an operation leaves alone -/

/-- A send touches only the sender's half. -/
theorem sendWithAttachment_half_peer (s : ChannelShared ρ) (side : Side) (msg : List UInt8)
    (att : Option ρ) : (sendWithAttachment s side msg att).2.half side.peer = s.half side.peer := by
  cases h : sendWithAttachment s side msg att with
  | mk r s' =>
      cases r with
      | ok u =>
          rw [(sendWithAttachment_ok h).2.2.2, ChannelShared.half_setHalves, if_neg (Side.peer_ne side)]
      | error e => rw [sendWithAttachment_error h]

/-- A receive touches only the peer's half. -/
theorem recvWithAttachment_half_self (s : ChannelShared ρ) (side : Side) (buf : List UInt8) :
    (recvWithAttachment s side buf).2.half side = s.half side := by
  cases h : recvWithAttachment s side buf with
  | mk r s' =>
      cases r with
      | ok v =>
          obtain ⟨_, _, _, _, _, rfl⟩ := recvWithAttachment_ok h
          rw [ChannelShared.half_setHalves, if_pos rfl]
      | error e => rw [recvWithAttachment_error h]

/-- A send leaves the sender's `closed` flag. -/
theorem sendWithAttachment_closed_self (s : ChannelShared ρ) (side : Side) (msg : List UInt8)
    (att : Option ρ) : ((sendWithAttachment s side msg att).2.half side).closed = (s.half side).closed := by
  cases h : sendWithAttachment s side msg att with
  | mk r s' =>
      cases r with
      | ok u =>
          rw [(sendWithAttachment_ok h).2.2.2, ChannelShared.half_setHalves, if_pos rfl]
      | error e => rw [sendWithAttachment_error h]

/-- A receive leaves the peer's `closed` flag. -/
theorem recvWithAttachment_closed_peer (s : ChannelShared ρ) (side : Side) (buf : List UInt8) :
    ((recvWithAttachment s side buf).2.half side.peer).closed = (s.half side.peer).closed := by
  cases h : recvWithAttachment s side buf with
  | mk r s' =>
      cases r with
      | ok v =>
          obtain ⟨_, _, _, _, _, rfl⟩ := recvWithAttachment_ok h
          rw [ChannelShared.half_setHalves, if_neg (Side.peer_ne side)]
      | error e => rw [recvWithAttachment_error h]

/-- Closing a side marks its half closed and keeps its queue. -/
theorem close_half (s : ChannelShared ρ) (side x : Side) :
    (close s side).half x = if x = side then { s.half side with closed := true } else s.half x := by
  simp only [close, ChannelShared.halves, ChannelShared.half_setHalves]
  split
  · rfl
  · next hx => rw [Side.eq_peer_of_ne hx]

end

end PandaOs.Resource
