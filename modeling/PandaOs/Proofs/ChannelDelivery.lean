import PandaOs.Resource.Channel
import PandaOs.Lib.Run

/-!
# Channel delivery: nothing lost, nothing duplicated, nothing reordered

A channel is a protocol between two parties that share one record. Either
endpoint may send, receive into a buffer of any length, or close, in any
interleaving. This file proves what that protocol guarantees over every run
started from `create_pair`: what an endpoint receives is a prefix of what
its peer sent, in send order; neither queue outgrows the capacity; a failed
step changes nothing; and `PeerClosed` on receive means the peer really has
closed and everything it sent has been received.

The invariant behind all of it is one equation per side: what a side has
sent is what its peer has received followed by what is still in the side's
queue. `send` appends to both sides of the equation, a successful `recv`
moves the queue's head across it, and every other step leaves both sides
alone. The only subtle case is the buffer-too-small receive, which pops and
pushes the head back; `recvWithAttachment_error` has already shown that it
returns the record it was given.

A run is observed through its log of deliveries: the messages each side
sent and received successfully, as `(data, attachment)` pairs. A received
message is read back from the buffer the receive filled, exactly as a
caller sees it: its first `len` bytes and the attachment.
-/

namespace PandaOs.Resource

open PandaOs.Abi PandaOs.Lib

variable {ρ : Type}

/-- A step either endpoint can take. -/
inductive ChannelStep (ρ : Type) where
  | send (side : Side) (msg : List UInt8) (attachment : Option ρ)
  | recv (side : Side) (bufLen : Nat)
  | close (side : Side)

/-- A message that crossed an endpoint successfully. -/
inductive Delivery (ρ : Type) where
  | sent (side : Side) (data : List UInt8) (attachment : Option ρ)
  | received (side : Side) (data : List UInt8) (attachment : Option ρ)

/-- One step on the shared record, with the delivery it made if any. A
receive uses a zeroed buffer of the requested length, as `handle_recv`
does, and delivers the first `len` bytes of it. -/
def ChannelStep.apply (s : ChannelShared ρ) : ChannelStep ρ → ChannelShared ρ × List (Delivery ρ)
  | .send side msg att =>
      match sendWithAttachment s side msg att with
      | (.ok _, s') => (s', [.sent side msg att])
      | (.error _, s') => (s', [])
  | .recv side bufLen =>
      match recvWithAttachment s side (List.replicate bufLen 0) with
      | (.ok (len, buf, att), s') => (s', [.received side (buf.take len) att])
      | (.error _, s') => (s', [])
  | .close side => (Resource.close s side, [])

/-- The `(data, attachment)` pairs a side sent, in order. -/
def sentBy (side : Side) : List (Delivery ρ) → List (List UInt8 × Option ρ)
  | [] => []
  | .sent x d a :: log => if x = side then (d, a) :: sentBy side log else sentBy side log
  | .received _ _ _ :: log => sentBy side log

/-- The `(data, attachment)` pairs a side received, in order. -/
def receivedBy (side : Side) : List (Delivery ρ) → List (List UInt8 × Option ρ)
  | [] => []
  | .received x d a :: log =>
      if x = side then (d, a) :: receivedBy side log else receivedBy side log
  | .sent _ _ _ :: log => receivedBy side log

@[simp] theorem sentBy_append (side : Side) (l₁ l₂ : List (Delivery ρ)) :
    sentBy side (l₁ ++ l₂) = sentBy side l₁ ++ sentBy side l₂ := by
  induction l₁ with
  | nil => rfl
  | cons d l ih =>
      cases d with
      | sent x _ _ => by_cases hx : x = side <;> simp [sentBy, hx, ih]
      | received _ _ _ => simp [sentBy, ih]

@[simp] theorem receivedBy_append (side : Side) (l₁ l₂ : List (Delivery ρ)) :
    receivedBy side (l₁ ++ l₂) = receivedBy side l₁ ++ receivedBy side l₂ := by
  induction l₁ with
  | nil => rfl
  | cons d l ih =>
      cases d with
      | received x _ _ => by_cases hx : x = side <;> simp [receivedBy, hx, ih]
      | sent _ _ _ => simp [receivedBy, ih]

/-- A channel's runs, with their logs, from `create_pair`. -/
def runChannel (steps : List (ChannelStep ρ)) : ChannelShared ρ × List (Delivery ρ) :=
  runLog ChannelStep.apply (ChannelShared.new, []) steps

/-- The pairs still queued in a half, as the invariant compares them. -/
def pending (h : ChannelHalf ρ) : List (List UInt8 × Option ρ) :=
  h.queue.map fun m => (m.data, m.attachment)

/-- The delivery invariant: on each side, sent = peer's received ++ queued,
each queue within capacity, and the capacity the one `create_pair` set. -/
structure DeliveryInv (s : ChannelShared ρ) (log : List (Delivery ρ)) : Prop where
  conserve : ∀ x, sentBy x log = receivedBy x.peer log ++ pending (s.half x)
  bounded : ∀ x, (s.half x).queue.length ≤ s.capacity
  capacity : s.capacity = defaultQueueCapacity

theorem deliveryInv_new : DeliveryInv (ChannelShared.new : ChannelShared ρ) [] where
  conserve x := by cases x <;> rfl
  bounded x := by cases x <;> simp [ChannelShared.new, ChannelShared.half, ChannelHalf.new]
  capacity := rfl

/-- `close` touches neither queue nor the capacity. -/
theorem close_half_queue (s : ChannelShared ρ) (side x : Side) :
    ((close s side).half x).queue = (s.half x).queue := by
  simp only [close, ChannelShared.halves, ChannelShared.half_setHalves]
  split
  · next hx => subst hx; rfl
  · next hx =>
      have := Side.eq_peer_of_ne hx
      subst this; rfl

theorem deliveryInv_send {s s' : ChannelShared ρ} {log : List (Delivery ρ)} {side : Side}
    {msg : List UInt8} {att : Option ρ} {u : Unit} (hi : DeliveryInv s log)
    (h : sendWithAttachment s side msg att = (.ok u, s')) :
    DeliveryInv s' (log ++ [Delivery.sent side msg att]) := by
  obtain ⟨-, -, hq, rfl⟩ := sendWithAttachment_ok h
  refine ⟨fun x => ?_, fun x => ?_, ?_⟩
  · rw [sentBy_append, receivedBy_append, hi.conserve x]
    simp only [ChannelShared.half_setHalves]
    by_cases hx : x = side
    · subst hx
      simp [sentBy, receivedBy, pending]
    · have hpx := Side.eq_peer_of_ne hx
      subst hpx
      simp [sentBy, receivedBy, hx]
  · simp only [ChannelShared.half_setHalves, ChannelShared.capacity_setHalves]
    split
    · simp only [List.length_append, List.length_singleton]; omega
    · next hx =>
        have hpx := Side.eq_peer_of_ne hx
        subst hpx; exact hi.bounded _
  · rw [ChannelShared.capacity_setHalves]; exact hi.capacity

theorem deliveryInv_recv {s s' : ChannelShared ρ} {log : List (Delivery ρ)} {side : Side}
    {buf : List UInt8} {len : Nat} {out : List UInt8} {att : Option ρ} (hi : DeliveryInv s log)
    (h : recvWithAttachment s side buf = (.ok (len, out, att), s')) :
    DeliveryInv s' (log ++ [Delivery.received side (out.take len) att]) := by
  obtain ⟨msg, rest, hq, -, hr, rfl⟩ := recvWithAttachment_ok h
  simp only [Prod.mk.injEq] at hr
  obtain ⟨rfl, rfl, rfl⟩ := hr
  have htake : (msg.data ++ List.drop msg.data.length buf).take msg.data.length = msg.data := by
    simp
  refine ⟨fun x => ?_, fun x => ?_, ?_⟩
  · rw [sentBy_append, receivedBy_append, hi.conserve x, htake]
    simp only [ChannelShared.half_setHalves]
    by_cases hx : x = side
    · -- Our own queue is untouched; the peer's receipts do not change either.
      subst hx
      simp [sentBy, receivedBy]
    · -- The peer's queue loses its head, which moves into our receipts.
      have hpx := Side.eq_peer_of_ne hx
      subst hpx
      simp [sentBy, receivedBy, pending, hq]
  · simp only [ChannelShared.half_setHalves, ChannelShared.capacity_setHalves]
    split
    · next hx => subst hx; exact hi.bounded _
    · next hx =>
        have hb := hi.bounded side.peer
        rw [hq, List.length_cons] at hb
        simp only; omega
  · rw [ChannelShared.capacity_setHalves]; exact hi.capacity

/-- The step lemma: every step of either endpoint keeps the invariant. -/
theorem deliveryInv_step {s : ChannelShared ρ} {log : List (Delivery ρ)} (st : ChannelStep ρ)
    (hi : DeliveryInv s log) : DeliveryInv (st.apply s).1 (log ++ (st.apply s).2) := by
  cases st with
  | send side msg att =>
      simp only [ChannelStep.apply]
      split
      · next u s' h => exact deliveryInv_send hi h
      · next e s' h =>
          rw [sendWithAttachment_error h, List.append_nil]; exact hi
  | recv side bufLen =>
      simp only [ChannelStep.apply]
      split
      · next len out att s' h => exact deliveryInv_recv hi h
      · next e s' h =>
          rw [recvWithAttachment_error h, List.append_nil]; exact hi
  | close side =>
      simp only [ChannelStep.apply, List.append_nil]
      refine ⟨fun x => ?_, fun x => ?_, ?_⟩
      · rw [hi.conserve x, pending, pending, close_half_queue]
      · rw [close_half_queue]
        have : (close s side).capacity = s.capacity := by
          simp only [close, ChannelShared.halves, ChannelShared.capacity_setHalves]
        rw [this]; exact hi.bounded x
      · simp only [close, ChannelShared.halves, ChannelShared.capacity_setHalves]
        exact hi.capacity

/-- The run lemma: the invariant holds after every run from `create_pair`. -/
theorem deliveryInv_run (steps : List (ChannelStep ρ)) :
    DeliveryInv (runChannel steps).1 (runChannel steps).2 :=
  runLog_inv ChannelStep.apply DeliveryInv (fun _ _ st hi => deliveryInv_step st hi) steps
    ChannelShared.new [] deliveryInv_new

/-- Over every interleaving of sends, receives (into buffers of any length)
and closes from `create_pair`: each endpoint's receipts are a prefix of its
peer's sends, in order; both queues stay within the capacity; every failed
send or receive returns the record unchanged; and a receive that reports
`PeerClosed` finds the peer closed with everything it sent received. -/
theorem channel_delivery (steps : List (ChannelStep ρ)) :
    (∀ side, receivedBy side.peer (runChannel steps).2 <+: sentBy side (runChannel steps).2) ∧
    (∀ side, ((runChannel steps).1.half side).queue.length ≤ (runChannel steps).1.capacity) ∧
    (∀ side msg att e s', sendWithAttachment (runChannel steps).1 side msg att = (.error e, s') →
      s' = (runChannel steps).1) ∧
    (∀ side buf e s', recvWithAttachment (runChannel steps).1 side buf = (.error e, s') →
      s' = (runChannel steps).1) ∧
    (∀ side buf s', recvWithAttachment (runChannel steps).1 side buf = (.error .PeerClosed, s') →
      ((runChannel steps).1.half side.peer).closed = true ∧
        receivedBy side (runChannel steps).2 = sentBy side.peer (runChannel steps).2) := by
  have hi := deliveryInv_run steps
  refine ⟨fun side => ?_, hi.bounded, fun _ _ _ _ _ h => sendWithAttachment_error h,
    fun _ _ _ _ h => recvWithAttachment_error h, fun side buf s' h => ?_⟩
  · rw [hi.conserve side]
    exact List.prefix_append _ _
  · obtain ⟨hq, hc⟩ := recvWithAttachment_peerClosed h
    refine ⟨hc, ?_⟩
    rw [hi.conserve side.peer, Side.peer_peer, pending, hq, List.map_nil, List.append_nil]

end PandaOs.Resource
