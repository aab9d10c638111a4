import PandaOs.Resource.Channel
import PandaOs.Lib.Bytes

/-!
# Round trips to a userspace scheme provider

A registered provider serves requests over an ordinary channel: the kernel
holds side A, the provider side B. A request frame is a kind byte, the
request id as a little-endian `u64`, and a payload; a response echoes the id
in the same place. `next_request_id` mints ids from a counter that starts
at 1.

A round trip (`round_trip_with_attachment`, behind `open`, `readdir`,
`connect`, `read` and `write`) mints its id first, then takes the
provider's `AsyncLock`, sends its request, and receives until a frame with
its own id arrives, discarding any other frame. A frame shorter than nine
bytes is a protocol error; an empty queue parks it; a closed peer ends it
with `Disconnected`, as does any failure of its send. Dropping the guard,
on return or when the waiting future is cancelled, frees the lock. Dropping
a `SchemeProxyResource` mints an id and sends a `Close` frame outside the
lock, ignoring failure; the reply to it is an orphan that a later round
trip discards.

The provider is any process: it receives the frames the kernel sent, in
order, sends any frames it likes, and may close its endpoint. Beside the
system state a ghost keeps the ids minted, the ids of the frames the
provider has received, for each frame it sent the ids it had received by
then, and the error each failed request send met.

The lock's waiter list only decides whom a release wakes; it is left out,
as are wakers, which change no state here.
-/

namespace PandaOs.Resource

open PandaOs.Abi PandaOs.Lib

/-- `MSG_OPEN`. -/
def msgOpen : UInt8 := 1

/-- `MSG_CLOSE`. -/
def msgClose : UInt8 := 5

/-- A frame's header: the kind byte and the request id. -/
def frameHeader (kind : UInt8) (requestId : Nat) : List UInt8 := kind :: leBytes requestId 8

/-- `u64::from_le_bytes(buf[1..9])`. -/
def frameId (frame : List UInt8) : Nat := leValue ((frame.drop 1).take 8)

/-- `ProviderError`. -/
inductive ProviderError where
  | Disconnected
  | Protocol
  deriving DecidableEq, Repr

/-- A round trip, stopped at an await or returned. -/
inductive RoundTrip where
  /-- Minted `requestId`, waiting for the lock, `request` encoded. -/
  | acquiring (requestId : Nat) (request : List UInt8)
  /-- Holding the lock, request sent, receiving. -/
  | receiving (requestId : Nat)
  /-- Returned. -/
  | returned (requestId : Nat) (result : Except ProviderError (List UInt8))
  /-- The future was dropped. -/
  | cancelled (requestId : Nat)
  deriving DecidableEq, Repr

/-- The provider's state: its channel, the lock's flag, the id counter, the
round trips, and the ghost. -/
structure ProviderSys where
  chan : ChannelShared Unit
  busy : Bool
  nextRequestId : Nat
  trips : List RoundTrip
  minted : List Nat
  received : List Nat
  providerSends : List (List UInt8 × List Nat)
  sendFailures : List (Nat × ChannelError)

/-- What the clients, the kernel and the provider do. -/
inductive ProviderOp where
  /-- A client mints an id and starts a round trip with this request kind and payload. -/
  | begin (kind : UInt8) (payload : List UInt8)
  /-- Round trip `i` is polled. -/
  | poll (i : Nat)
  /-- Round trip `i`'s future is dropped. -/
  | cancel (i : Nat)
  /-- A `SchemeProxyResource` for `resourceId` is dropped. -/
  | dropResource (resourceId : Nat)
  /-- The provider receives a frame. -/
  | providerRecv
  /-- The provider sends a frame. -/
  | providerSend (frame : List UInt8)
  /-- The provider closes its endpoint. -/
  | providerClose

namespace ProviderSys

/-- `ProviderState::new` on a fresh channel. -/
def new : ProviderSys := ⟨ChannelShared.new, false, 1, [], [], [], [], []⟩

/-- `ProviderState::next_request_id`. -/
def mint (s : ProviderSys) : Nat × ProviderSys :=
  (s.nextRequestId,
    { s with nextRequestId := s.nextRequestId + 1, minted := s.minted ++ [s.nextRequestId] })

/-- Round trip `i` moved to `t`, the lock's flag now `busy`. -/
def setTrip (s : ProviderSys) (i : Nat) (t : RoundTrip) (busy : Bool) : ProviderSys :=
  { s with trips := s.trips.set i t, busy := busy }

/-- A poll of a round trip: the lock and the send, or one receive. -/
def pollTrip (s : ProviderSys) (i : Nat) : RoundTrip → ProviderSys
  | .acquiring requestId request =>
      -- `compare_exchange(false, true)`: a held lock parks the poll
      if s.busy then s
      else
        match sendWithAttachment s.chan .A request none with
        | (.ok (), chan) => { s.setTrip i (.receiving requestId) true with chan := chan }
        -- the `?` on the send drops the guard
        | (.error e, chan) =>
            { s.setTrip i (.returned requestId (.error .Disconnected)) false with
              chan := chan
              sendFailures := s.sendFailures ++ [(requestId, e)] }
  | .receiving requestId =>
      match recvWithAttachment s.chan .A (List.replicate maxMessageSize 0) with
      | (.ok (len, buf, _), chan) =>
          let frame := buf.take len
          let s := { s with chan := chan }
          if frame.length < 9 then s.setTrip i (.returned requestId (.error .Protocol)) false
          else if frameId frame = requestId then s.setTrip i (.returned requestId (.ok frame)) false
          -- an orphaned response is discarded
          else s
      | (.error .QueueEmpty, _) => s
      | (.error .PeerClosed, _) => s.setTrip i (.returned requestId (.error .Disconnected)) false
      | (.error _, _) => s.setTrip i (.returned requestId (.error .Protocol)) false
  | _ => s

/-- One step. -/
def step (s : ProviderSys) : ProviderOp → ProviderSys
  | .begin kind payload =>
      let (requestId, s) := s.mint
      let request := frameHeader kind requestId ++ payload
      -- a request that does not encode into one message fails before the round trip
      if request.length > maxMessageSize then s
      else { s with trips := s.trips ++ [.acquiring requestId request] }
  | .poll i =>
      match s.trips[i]? with
      | some t => s.pollTrip i t
      | none => s
  | .cancel i =>
      match s.trips[i]? with
      | some (.acquiring requestId _) => { s with trips := s.trips.set i (.cancelled requestId) }
      -- dropping the future drops the guard
      | some (.receiving requestId) => s.setTrip i (.cancelled requestId) false
      | _ => s
  | .dropResource resourceId =>
      let (requestId, s) := s.mint
      { s with chan := (sendWithAttachment s.chan .A
          (frameHeader msgClose requestId ++ leBytes resourceId 8) none).2 }
  | .providerRecv =>
      match recvWithAttachment s.chan .B (List.replicate maxMessageSize 0) with
      | (.ok (len, buf, _), chan) =>
          { s with chan := chan, received := s.received ++ [frameId (buf.take len)] }
      | (.error _, _) => s
  | .providerSend frame =>
      match sendWithAttachment s.chan .B frame none with
      | (.ok (), chan) =>
          { s with chan := chan, providerSends := s.providerSends ++ [(frame, s.received)] }
      | (.error _, _) => s
  | .providerClose => { s with chan := close s.chan .B }

/-- A run from a freshly registered provider. -/
def run (ops : List ProviderOp) : ProviderSys := ops.foldl step new

end ProviderSys

end PandaOs.Resource
