import PandaOs.Resource.SchemeProvider
import PandaOs.Lib.Run

/-!
# What a provider round trip returns

Over every interleaving of round trips, cancellations, `Close` requests and
provider actions, the ids minted are distinct, at most one round trip is
between its send and its return (the lock is busy exactly while one is),
and a round trip fails with `Disconnected` only when the provider has
closed its endpoint or its request met a full queue (`ProviderSys.Wf`).

Which frame a round trip returns is a matter of the ids the provider puts
in its frames. A round trip accepts the first frame carrying its own id, so
a provider that answers a request with the id of one it has not received
yet hands that round trip a frame sent before its request arrived
(`forged_reply_accepted`). A provider whose frames carry only ids it has
received (`Honest`) gets each round trip the frame it sent for that id,
after receiving it (`ProviderSys.Faithful`), whatever it duplicates,
reorders or leaves unanswered.
-/

namespace PandaOs.Resource

open PandaOs.Abi PandaOs.Lib

namespace RoundTrip

/-- The id a round trip minted. -/
def requestId : RoundTrip → Nat
  | .acquiring k _ | .receiving k | .returned k _ | .cancelled k => k

/-- Between the send and the return: holding the lock. -/
def isReceiving : RoundTrip → Bool
  | .receiving _ => true
  | _ => false

end RoundTrip

/-- Replacing an element by one with the same image leaves the image list. -/
theorem map_set_of_getElem? {α β : Type} {f : α → β} {l : List α} {i : Nat} {a b : α}
    (h : l[i]? = some a) (hab : f b = f a) : (l.set i b).map f = l.map f := by
  obtain ⟨hi, hget⟩ := List.getElem?_eq_some_iff.mp h
  rw [List.map_set]
  have hi' : i < (l.map f).length := by simpa using hi
  have hfi : (l.map f)[i] = f b := by rw [List.getElem_map, hget, hab]
  rw [← hfi, List.set_getElem_self]

namespace ProviderSys

/-! ## The invariant of every run -/

/-- Ids are minted once each, the round trips carry distinct minted ids, the
lock is busy exactly while one round trip is receiving, a request waiting
for the lock fits in a message, and a `Disconnected` return has a cause. -/
structure Wf (s : ProviderSys) : Prop where
  minted_nodup : s.minted.Nodup
  minted_lt : ∀ k ∈ s.minted, k < s.nextRequestId
  trips_minted : ∀ t ∈ s.trips, t.requestId ∈ s.minted
  trips_nodup : (s.trips.map RoundTrip.requestId).Nodup
  exclusive : s.trips.countP RoundTrip.isReceiving = if s.busy then 1 else 0
  request_fits : ∀ k req, RoundTrip.acquiring k req ∈ s.trips → req.length ≤ maxMessageSize
  disconnected : ∀ k, RoundTrip.returned k (.error .Disconnected) ∈ s.trips →
    (s.chan.half .B).closed = true ∨ (k, ChannelError.QueueFull) ∈ s.sendFailures

theorem wf_new : new.Wf where
  minted_nodup := List.nodup_nil
  minted_lt _ h := absurd h List.not_mem_nil
  trips_minted _ h := absurd h List.not_mem_nil
  trips_nodup := List.nodup_nil
  exclusive := rfl
  request_fits _ _ h := absurd h List.not_mem_nil
  disconnected _ h := absurd h List.not_mem_nil

/-- Minting keeps the id fields and hands out an id no round trip has. -/
theorem Wf.mint_fresh {s : ProviderSys} (hw : s.Wf) :
    s.nextRequestId ∉ s.trips.map RoundTrip.requestId ∧ s.mint.2.minted.Nodup ∧
      (∀ k ∈ s.mint.2.minted, k < s.mint.2.nextRequestId) := by
  refine ⟨fun hmem => ?_, ?_, ?_⟩
  · obtain ⟨t, ht, hid⟩ := List.mem_map.mp hmem
    have := hw.minted_lt _ (hw.trips_minted t ht)
    omega
  · rw [ProviderSys.mint, List.nodup_append]
    refine ⟨hw.minted_nodup, List.nodup_singleton _, ?_⟩
    intro a ha b hb hab
    rw [List.mem_singleton] at hb
    have := hw.minted_lt a ha
    omega
  · intro k hk
    rcases List.mem_append.mp hk with hk | hk
    · have := hw.minted_lt k hk
      show k < s.nextRequestId + 1
      omega
    · rw [List.mem_singleton.mp hk]
      show s.nextRequestId < s.nextRequestId + 1
      omega

theorem step_begin (s : ProviderSys) (kind : UInt8) (payload : List UInt8) :
    s.step (.begin kind payload) =
      if (frameHeader kind s.nextRequestId ++ payload).length > maxMessageSize then s.mint.2
      else { s.mint.2 with
        trips := s.trips ++ [.acquiring s.nextRequestId (frameHeader kind s.nextRequestId ++ payload)] } :=
  rfl

theorem step_poll (s : ProviderSys) (i : Nat) :
    s.step (.poll i) =
      match s.trips[i]? with
      | some t => s.pollTrip i t
      | none => s := rfl

theorem step_cancel (s : ProviderSys) (i : Nat) :
    s.step (.cancel i) =
      match s.trips[i]? with
      | some (.acquiring requestId _) => { s with trips := s.trips.set i (.cancelled requestId) }
      | some (.receiving requestId) => s.setTrip i (.cancelled requestId) false
      | _ => s := rfl

theorem step_providerRecv (s : ProviderSys) :
    s.step .providerRecv =
      match recvWithAttachment s.chan .B (List.replicate maxMessageSize 0) with
      | (.ok (len, buf, _), chan) => { s with chan := chan, received := s.received ++ [frameId (buf.take len)] }
      | (.error _, _) => s := rfl

theorem step_providerSend (s : ProviderSys) (frame : List UInt8) :
    s.step (.providerSend frame) =
      match sendWithAttachment s.chan .B frame none with
      | (.ok (), chan) => { s with chan := chan, providerSends := s.providerSends ++ [(frame, s.received)] }
      | (.error _, _) => s := rfl

theorem pollTrip_acquiring (s : ProviderSys) (i requestId : Nat) (request : List UInt8) :
    s.pollTrip i (.acquiring requestId request) =
      if s.busy then s
      else
        match sendWithAttachment s.chan .A request none with
        | (.ok (), chan) => { s.setTrip i (.receiving requestId) true with chan := chan }
        | (.error e, chan) =>
            { s.setTrip i (.returned requestId (.error .Disconnected)) false with
              chan := chan
              sendFailures := s.sendFailures ++ [(requestId, e)] } := rfl

theorem pollTrip_receiving (s : ProviderSys) (i requestId : Nat) :
    s.pollTrip i (.receiving requestId) =
      match recvWithAttachment s.chan .A (List.replicate maxMessageSize 0) with
      | (.ok (len, buf, _), chan) =>
          let frame := buf.take len
          let s := { s with chan := chan }
          if frame.length < 9 then s.setTrip i (.returned requestId (.error .Protocol)) false
          else if frameId frame = requestId then s.setTrip i (.returned requestId (.ok frame)) false
          else s
      | (.error .QueueEmpty, _) => s
      | (.error .PeerClosed, _) => s.setTrip i (.returned requestId (.error .Disconnected)) false
      | (.error _, _) => s.setTrip i (.returned requestId (.error .Protocol)) false := rfl

theorem Wf.begin {s : ProviderSys} (hw : s.Wf) (kind : UInt8) (payload : List UInt8) :
    (s.step (.begin kind payload)).Wf := by
  obtain ⟨hfresh, hnd, hlt⟩ := hw.mint_fresh
  have hminted : ∀ k ∈ s.minted, k ∈ s.mint.2.minted := fun k hk => List.mem_append_left _ hk
  rw [step_begin]
  split
  · exact { hw with
      minted_nodup := hnd
      minted_lt := hlt
      trips_minted := fun t ht => hminted _ (hw.trips_minted t ht) }
  · next hfits =>
      refine ⟨hnd, hlt, ?_, ?_, ?_, ?_, ?_⟩
      · intro t ht
        rcases List.mem_append.mp ht with ht | ht
        · exact hminted _ (hw.trips_minted t ht)
        · rw [List.mem_singleton.mp ht]
          exact List.mem_append_right _ (List.mem_singleton_self _)
      · -- the new id is above every minted one
        rw [List.map_append, List.nodup_append]
        refine ⟨hw.trips_nodup, List.nodup_singleton _, ?_⟩
        intro a ha b hb hab
        rw [List.map_cons, List.map_nil, List.mem_singleton] at hb
        subst hb hab
        exact hfresh ha
      · show (s.trips ++ [_]).countP _ = if s.busy then 1 else 0
        rw [List.countP_append, hw.exclusive]
        rfl
      · intro k req hk
        rcases List.mem_append.mp hk with hk | hk
        · exact hw.request_fits k req hk
        · cases List.mem_singleton.mp hk
          omega
      · intro k hk
        rcases List.mem_append.mp hk with hk | hk
        · exact hw.disconnected k hk
        · cases List.mem_singleton.mp hk

/-! ### Moving one round trip -/

theorem countP_set_trip {s : ProviderSys} {i : Nat} {t t' : RoundTrip}
    (ht : s.trips[i]? = some t) :
    (s.trips.set i t').countP RoundTrip.isReceiving =
      s.trips.countP RoundTrip.isReceiving - (if t.isReceiving then 1 else 0) +
        (if t'.isReceiving then 1 else 0) := by
  obtain ⟨hi, hget⟩ := List.getElem?_eq_some_iff.mp ht
  rw [List.countP_set hi, hget]

/-- Moving round trip `i` to a state with the same id keeps the id fields. -/
theorem Wf.set_ids {s : ProviderSys} (hw : s.Wf) {i : Nat} {t : RoundTrip} (next : RoundTrip)
    (ht : s.trips[i]? = some t) (hid : next.requestId = t.requestId) :
    (∀ x ∈ s.trips.set i next, x.requestId ∈ s.minted) ∧
      ((s.trips.set i next).map RoundTrip.requestId).Nodup := by
  refine ⟨fun x hx => ?_, (map_set_of_getElem? ht hid).symm ▸ hw.trips_nodup⟩
  rcases List.mem_or_eq_of_mem_set hx with hx | rfl
  · exact hw.trips_minted x hx
  · rw [hid]
    exact hw.trips_minted t (List.mem_of_getElem? ht)

/-- The lock is free while no round trip is receiving. -/
theorem Wf.busy_of_receiving {s : ProviderSys} (hw : s.Wf) {k : Nat}
    (hk : RoundTrip.receiving k ∈ s.trips) : s.busy = true := by
  have hpos : 0 < s.trips.countP RoundTrip.isReceiving := List.countP_pos_iff.mpr ⟨_, hk, rfl⟩
  rw [hw.exclusive] at hpos
  cases hb : s.busy
  · rw [hb] at hpos
    exact absurd hpos (by decide)
  · rfl

/-- A round trip returning, from `receiving` or `acquiring` with the lock
held, frees the lock; the rest of the state changes only where it keeps
the `Disconnected` causes. -/
theorem Wf.returned {s : ProviderSys} (hw : s.Wf) {i k : Nat} {t : RoundTrip}
    (ht : s.trips[i]? = some t) (htk : t.requestId = k)
    (hcount : s.trips.countP RoundTrip.isReceiving - (if t.isReceiving then 1 else 0) = 0)
    (r : Except ProviderError (List UInt8)) {s' : ProviderSys}
    (hs' : s' = { s with
      chan := s'.chan
      sendFailures := s'.sendFailures
      trips := s.trips.set i (.returned k r)
      busy := false })
    (hclosed : (s.chan.half .B).closed = true → (s'.chan.half .B).closed = true)
    (hfail : ∀ p ∈ s.sendFailures, p ∈ s'.sendFailures)
    (hcause : r = .error .Disconnected →
      (s'.chan.half .B).closed = true ∨ (k, ChannelError.QueueFull) ∈ s'.sendFailures) :
    s'.Wf := by
  obtain ⟨hmin, hnd⟩ := hw.set_ids (.returned k r) ht htk.symm
  rw [hs']
  refine ⟨hw.minted_nodup, hw.minted_lt, hmin, hnd, ?_, ?_, ?_⟩
  · show (s.trips.set i _).countP _ = 0
    rw [countP_set_trip ht, hcount]
    rfl
  · intro k' req hk'
    rcases List.mem_or_eq_of_mem_set hk' with hk' | hk'
    · exact hw.request_fits k' req hk'
    · cases hk'
  · intro k' hk'
    rw [← hs']
    rcases List.mem_or_eq_of_mem_set hk' with hk' | hk'
    · rcases hw.disconnected k' hk' with h | h
      · exact .inl (hclosed h)
      · exact .inr (hfail _ h)
    · injection hk' with hkk hr
      subst hkk
      exact hcause hr.symm

theorem Wf.pollAcquiring {s : ProviderSys} (hw : s.Wf) {i k : Nat} {req : List UInt8}
    (ht : s.trips[i]? = some (.acquiring k req)) : (s.pollTrip i (.acquiring k req)).Wf := by
  have hfits := hw.request_fits k req (List.mem_of_getElem? ht)
  rw [pollTrip_acquiring]
  split
  · exact hw
  · next hbusy =>
      have hzero : s.trips.countP RoundTrip.isReceiving = 0 := by
        rw [hw.exclusive, if_neg hbusy]
      split
      · -- sent: the round trip holds the lock
        next chan hsend =>
          obtain ⟨hmin, hnd⟩ := hw.set_ids (.receiving k) ht rfl
          have hB : (chan.half .B).closed = (s.chan.half .B).closed := by
            have := sendWithAttachment_half_peer s.chan .A req none
            rw [hsend] at this
            exact congrArg ChannelHalf.closed this
          refine ⟨hw.minted_nodup, hw.minted_lt, hmin, hnd, ?_, ?_, ?_⟩
          · show (s.trips.set i _).countP _ = 1
            rw [countP_set_trip ht, hzero]
            rfl
          · intro k' req' hk'
            rcases List.mem_or_eq_of_mem_set hk' with hk' | hk'
            · exact hw.request_fits k' req' hk'
            · cases hk'
          · intro k' hk'
            rcases List.mem_or_eq_of_mem_set hk' with hk' | hk'
            · show (chan.half .B).closed = true ∨ _
              rw [hB]
              exact hw.disconnected k' hk'
            · cases hk'
      · -- the send failed: `Disconnected`, with the send's error logged
        next e chan hsend =>
          have hchan := sendWithAttachment_error hsend
          refine hw.returned ht rfl (by rw [hzero]; exact Nat.zero_sub _) (.error .Disconnected) rfl
            (by rw [hchan]; exact id) (fun p hp => List.mem_append_left _ hp) ?_
          intro _
          rcases sendWithAttachment_error_cases hsend with ⟨hlarge, -⟩ | ⟨-, hclosed, -⟩ |
              ⟨-, -, -, rfl⟩
          · omega
          · exact .inl (by rw [hchan]; exact hclosed)
          · exact .inr (List.mem_append_right _ (List.mem_singleton_self _))

theorem Wf.pollReceiving {s : ProviderSys} (hw : s.Wf) {i k : Nat}
    (ht : s.trips[i]? = some (.receiving k)) : (s.pollTrip i (.receiving k)).Wf := by
  have hbusy := hw.busy_of_receiving (List.mem_of_getElem? ht)
  -- the receiving round trip is the one holding the lock
  have hone : s.trips.countP RoundTrip.isReceiving - (if (RoundTrip.receiving k).isReceiving then 1 else 0) = 0 := by
    rw [hw.exclusive, if_pos hbusy]
    rfl
  simp only [pollTrip_receiving]
  split
  · next len buf att chan hrecv =>
      have hB : (chan.half .B).closed = (s.chan.half .B).closed := by
        have := recvWithAttachment_closed_peer s.chan .A (List.replicate maxMessageSize 0)
        rw [hrecv] at this
        exact this
      have hdisc : ∀ k', RoundTrip.returned k' (.error .Disconnected) ∈ s.trips →
          (chan.half .B).closed = true ∨ (k', ChannelError.QueueFull) ∈ s.sendFailures := by
        intro k' hk'
        rw [hB]
        exact hw.disconnected k' hk'
      have hwc : ({ s with chan := chan } : ProviderSys).Wf := { hw with disconnected := hdisc }
      split
      · exact hwc.returned ht rfl hone _ rfl id (fun _ hp => hp) (fun h => by cases h)
      · split
        · exact hwc.returned ht rfl hone _ rfl id (fun _ hp => hp) (fun h => by cases h)
        · exact hwc
  · exact hw
  · next hrecv =>
      -- `PeerClosed`: the provider closed its endpoint
      exact hw.returned ht rfl hone _ rfl id (fun _ hp => hp)
        (fun _ => .inl (recvWithAttachment_peerClosed hrecv).2)
  · exact hw.returned ht rfl hone _ rfl id (fun _ hp => hp) (fun h => by cases h)

theorem Wf.poll {s : ProviderSys} (hw : s.Wf) (i : Nat) : (s.step (.poll i)).Wf := by
  rw [step_poll]
  split
  · next t ht =>
      cases t with
      | acquiring k req => exact hw.pollAcquiring ht
      | receiving k => exact hw.pollReceiving ht
      | returned k r => exact hw
      | cancelled k => exact hw
  · exact hw

theorem Wf.cancel {s : ProviderSys} (hw : s.Wf) (i : Nat) : (s.step (.cancel i)).Wf := by
  rw [step_cancel]
  split
  · next k req ht =>
      obtain ⟨hmin, hnd⟩ := hw.set_ids (.cancelled k) ht rfl
      refine ⟨hw.minted_nodup, hw.minted_lt, hmin, hnd, ?_, ?_, ?_⟩
      · show (s.trips.set i _).countP _ = _
        rw [countP_set_trip ht, hw.exclusive]
        simp [RoundTrip.isReceiving]
      · intro k' req' hk'
        rcases List.mem_or_eq_of_mem_set hk' with hk' | hk'
        · exact hw.request_fits k' req' hk'
        · cases hk'
      · intro k' hk'
        rcases List.mem_or_eq_of_mem_set hk' with hk' | hk'
        · exact hw.disconnected k' hk'
        · cases hk'
  · -- a cancelled receiver drops its guard
    next k ht =>
      have hbusy := hw.busy_of_receiving (List.mem_of_getElem? ht)
      obtain ⟨hmin, hnd⟩ := hw.set_ids (.cancelled k) ht rfl
      refine ⟨hw.minted_nodup, hw.minted_lt, hmin, hnd, ?_, ?_, ?_⟩
      · show (s.trips.set i _).countP _ = 0
        rw [countP_set_trip ht, hw.exclusive, if_pos hbusy]
        rfl
      · intro k' req' hk'
        rcases List.mem_or_eq_of_mem_set hk' with hk' | hk'
        · exact hw.request_fits k' req' hk'
        · cases hk'
      · intro k' hk'
        rcases List.mem_or_eq_of_mem_set hk' with hk' | hk'
        · exact hw.disconnected k' hk'
        · cases hk'
  · exact hw

/-- A step that changes only the channel, keeping the provider's `closed`
flag, and the ghost keeps the invariant. -/
theorem Wf.of_chan {s s' : ProviderSys} (hw : s.Wf) (hchan : (s'.chan.half .B).closed = (s.chan.half .B).closed)
    (hrest : s' = { s with
      chan := s'.chan
      received := s'.received
      providerSends := s'.providerSends }) : s'.Wf := by
  have hdisc : ∀ k, RoundTrip.returned k (.error .Disconnected) ∈ s.trips →
      (s'.chan.half .B).closed = true ∨ (k, ChannelError.QueueFull) ∈ s.sendFailures := by
    intro k hk
    rw [hchan]
    exact hw.disconnected k hk
  rw [hrest]
  exact { hw with disconnected := hdisc }

theorem Wf.step {s : ProviderSys} (hw : s.Wf) (op : ProviderOp) : (s.step op).Wf := by
  cases op with
  | begin kind payload => exact hw.begin kind payload
  | poll i => exact hw.poll i
  | cancel i => exact hw.cancel i
  | dropResource resourceId =>
      -- a `Close` is minted and sent outside the lock
      obtain ⟨-, hnd, hlt⟩ := hw.mint_fresh
      have hw' : s.mint.2.Wf :=
        { hw with
          minted_nodup := hnd
          minted_lt := hlt
          trips_minted := fun t ht => List.mem_append_left _ (hw.trips_minted t ht) }
      refine hw'.of_chan ?_ rfl
      have := sendWithAttachment_half_peer s.mint.2.chan .A
        (frameHeader msgClose s.nextRequestId ++ leBytes resourceId 8) none
      exact congrArg ChannelHalf.closed this
  | providerRecv =>
      rw [step_providerRecv]
      split
      · next len buf att chan hrecv =>
          refine hw.of_chan ?_ rfl
          have := recvWithAttachment_half_self s.chan .B (List.replicate maxMessageSize 0)
          rw [hrecv] at this
          show (chan.half .B).closed = _
          rw [this]
      · exact hw
  | providerSend frame =>
      rw [step_providerSend]
      split
      · next chan hsend =>
          refine hw.of_chan ?_ rfl
          have := sendWithAttachment_closed_self s.chan .B frame none
          rw [hsend] at this
          exact this
      · exact hw
  | providerClose =>
      -- the provider's endpoint closed: every `Disconnected` has its cause
      refine { hw with disconnected := fun k _ => .inl ?_ }
      show ((close s.chan .B).half .B).closed = true
      rw [close_half, if_pos rfl]

theorem wf_run (ops : List ProviderOp) : (run ops).Wf :=
  foldl_inv step Wf (fun _ op hw => hw.step op) ops new wf_new

/-! ## Which frame a round trip returns -/

/-- The provider puts in each frame it sends only an id it has received. -/
def Honest (s : ProviderSys) : ProviderOp → Prop
  | .providerSend frame => frameId frame ∈ s.received
  | _ => True

instance (s : ProviderSys) : (op : ProviderOp) → Decidable (Honest s op)
  | .providerSend frame => inferInstanceAs (Decidable (frameId frame ∈ s.received))
  | .begin _ _ | .poll _ | .cancel _ | .dropResource _ | .providerRecv | .providerClose =>
      isTrue trivial

/-- Every frame the provider has queued, and every frame a round trip
returned, was sent by the provider after it had received the frame's id;
a returned frame carries its round trip's id. -/
structure Faithful (s : ProviderSys) : Prop where
  queued : ∀ m ∈ (s.chan.half .B).queue,
    ∃ r, (m.data, r) ∈ s.providerSends ∧ frameId m.data ∈ r
  answered : ∀ k f, RoundTrip.returned k (.ok f) ∈ s.trips →
    frameId f = k ∧ ∃ r, (f, r) ∈ s.providerSends ∧ k ∈ r

theorem faithful_new : new.Faithful :=
  ⟨fun _ h => absurd h List.not_mem_nil, fun _ _ h => absurd h List.not_mem_nil⟩

/-- A step that only drops queued provider frames, keeps the provider's
log and returns no new frame keeps the invariant. -/
theorem Faithful.of_sub {s s' : ProviderSys} (hf : s.Faithful)
    (hq : ∀ m ∈ (s'.chan.half .B).queue, m ∈ (s.chan.half .B).queue)
    (hsends : ∀ p ∈ s.providerSends, p ∈ s'.providerSends)
    (htrips : ∀ k f, RoundTrip.returned k (.ok f) ∈ s'.trips →
      RoundTrip.returned k (.ok f) ∈ s.trips) : s'.Faithful := by
  constructor
  · intro m hm
    obtain ⟨r, hr, hid⟩ := hf.queued m (hq m hm)
    exact ⟨r, hsends _ hr, hid⟩
  · intro k f hk
    obtain ⟨hid, r, hr, hkr⟩ := hf.answered k f (htrips k f hk)
    exact ⟨hid, r, hsends _ hr, hkr⟩

/-- Moving a round trip to a state that is not a successful return. -/
theorem mem_set_of_not_ok {l : List RoundTrip} {i : Nat} {t' : RoundTrip}
    (ht' : ∀ k f, t' ≠ .returned k (.ok f)) {k : Nat} {f : List UInt8}
    (h : RoundTrip.returned k (.ok f) ∈ l.set i t') : RoundTrip.returned k (.ok f) ∈ l := by
  rcases List.mem_or_eq_of_mem_set h with h | h
  · exact h
  · exact absurd h.symm (ht' k f)

theorem Faithful.pollTrip {s : ProviderSys} (hf : s.Faithful) (i : Nat) (t : RoundTrip) :
    (s.pollTrip i t).Faithful := by
  have hkeep : ∀ p ∈ s.providerSends, p ∈ s.providerSends := fun _ hp => hp
  cases t with
  | acquiring k req =>
      rw [pollTrip_acquiring]
      split
      · exact hf
      · split
        · next chan hsend =>
            -- the request goes to the kernel's half; the provider's is as it was
            have hB := sendWithAttachment_half_peer s.chan .A req none
            rw [hsend] at hB
            refine hf.of_sub (fun m hm => ?_) hkeep fun k' f h => ?_
            · exact (congrArg ChannelHalf.queue hB) ▸ hm
            · exact mem_set_of_not_ok (fun _ _ h => by cases h) h
        · next e chan hsend =>
            rw [sendWithAttachment_error hsend]
            exact hf.of_sub (fun _ hm => hm) hkeep
              fun k' f h => mem_set_of_not_ok (fun _ _ h => by cases h) h
  | receiving k =>
      simp only [pollTrip_receiving]
      split
      · next len buf att chan hrecv =>
          -- the front frame of the provider's queue is taken
          obtain ⟨msg, rest, hq, -, hr, rfl⟩ := recvWithAttachment_ok hrecv
          injection hr with hlen hr
          injection hr with hbuf
          subst hlen hbuf
          have hframe : (msg.data ++ (List.replicate maxMessageSize 0).drop msg.data.length).take
              msg.data.length = msg.data := List.take_left' rfl
          have hrest : ∀ m ∈ ((s.chan.setHalves .A (s.chan.half .A,
              { s.chan.half Side.A.peer with queue := rest })).half .B).queue,
              m ∈ (s.chan.half .B).queue := by
            intro m hm
            rw [ChannelShared.half_setHalves, if_neg (by decide)] at hm
            show m ∈ (s.chan.half Side.A.peer).queue
            rw [hq]
            exact List.mem_cons_of_mem msg hm
          rw [hframe]
          split
          · exact hf.of_sub hrest hkeep
              fun k' f h => mem_set_of_not_ok (fun _ _ h => by cases h) h
          · split
            · -- a frame with the round trip's own id: one the provider sent honestly
              next hid =>
                have hfront : msg ∈ (s.chan.half .B).queue := by
                  show msg ∈ (s.chan.half Side.A.peer).queue
                  rw [hq]
                  exact List.mem_cons_self
                obtain ⟨r, hr, hidr⟩ := hf.queued msg hfront
                refine ⟨fun m hm => hf.queued m (hrest m hm), fun k' f h => ?_⟩
                rcases List.mem_or_eq_of_mem_set h with h | h
                · exact hf.answered k' f h
                · injection h with hk hf'
                  injection hf' with hf'
                  subst hk hf'
                  exact ⟨hid, r, hr, hid ▸ hidr⟩
            · exact hf.of_sub hrest hkeep fun _ _ h => h
      · exact hf
      · exact hf.of_sub (fun _ hm => hm) hkeep
          fun k' f h => mem_set_of_not_ok (fun _ _ h => by cases h) h
      · exact hf.of_sub (fun _ hm => hm) hkeep
          fun k' f h => mem_set_of_not_ok (fun _ _ h => by cases h) h
  | returned k r => exact hf
  | cancelled k => exact hf

theorem Faithful.step {s : ProviderSys} (hf : s.Faithful) {op : ProviderOp} (hop : Honest s op) :
    (s.step op).Faithful := by
  have hkeep : ∀ p ∈ s.providerSends, p ∈ s.providerSends := fun _ hp => hp
  cases op with
  | begin kind payload =>
      rw [step_begin]
      split
      · exact hf.of_sub (fun _ hm => hm) hkeep fun _ _ h => h
      · refine hf.of_sub (fun _ hm => hm) hkeep fun k f h => ?_
        rcases List.mem_append.mp h with h | h
        · exact h
        · cases List.mem_singleton.mp h
  | poll i =>
      rw [step_poll]
      split
      · next t _ => exact hf.pollTrip i t
      · exact hf
  | cancel i =>
      rw [step_cancel]
      split
      · exact hf.of_sub (fun _ hm => hm) hkeep
          fun k f h => mem_set_of_not_ok (fun _ _ h => by cases h) h
      · exact hf.of_sub (fun _ hm => hm) hkeep
          fun k f h => mem_set_of_not_ok (fun _ _ h => by cases h) h
      · exact hf
  | dropResource resourceId =>
      have hB := sendWithAttachment_half_peer s.mint.2.chan .A
        (frameHeader msgClose s.nextRequestId ++ leBytes resourceId 8) none
      exact hf.of_sub (fun m hm => (congrArg ChannelHalf.queue hB) ▸ hm) hkeep fun _ _ h => h
  | providerRecv =>
      rw [step_providerRecv]
      split
      · next len buf att chan hrecv =>
          have hB := recvWithAttachment_half_self s.chan .B (List.replicate maxMessageSize 0)
          rw [hrecv] at hB
          exact hf.of_sub (fun m hm => (congrArg ChannelHalf.queue hB) ▸ hm) hkeep fun _ _ h => h
      · exact hf
  | providerSend frame =>
      rw [step_providerSend]
      split
      · -- the new frame is logged with the ids received so far, its own among them
        next chan hsend =>
          obtain ⟨-, -, -, rfl⟩ := sendWithAttachment_ok hsend
          have hlog : ∀ p ∈ s.providerSends, p ∈ s.providerSends ++ [(frame, s.received)] :=
            fun _ hp => List.mem_append_left _ hp
          constructor
          · intro m hm
            rw [ChannelShared.half_setHalves, if_pos rfl, List.mem_append] at hm
            rcases hm with hm | hm
            · obtain ⟨r, hr, hid⟩ := hf.queued m hm
              exact ⟨r, hlog _ hr, hid⟩
            · rw [List.mem_singleton.mp hm]
              exact ⟨s.received, List.mem_append_right _ (List.mem_singleton_self _), hop⟩
          · intro k f h
            obtain ⟨hid, r, hr, hkr⟩ := hf.answered k f h
            exact ⟨hid, r, hlog _ hr, hkr⟩
      · exact hf
  | providerClose =>
      refine hf.of_sub (fun m hm => ?_) hkeep fun _ _ h => h
      change m ∈ ((close s.chan .B).half .B).queue at hm
      rw [close_half, if_pos rfl] at hm
      exact hm

/-- An honest provider answering one `open`. -/
def honestRun : List ProviderOp :=
  [.begin msgOpen [], .poll 0, .providerRecv, .providerSend (frameHeader msgOpen 1 ++ [0]), .poll 0]

/-- A dropped resource's `Close` (id 1) reaches the provider, which answers
it with a frame carrying id 2. A client then starts an `open`, minting id 2,
sends it and receives. -/
def forgedReplyRun : List ProviderOp :=
  [.dropResource 0, .providerRecv, .providerSend (frameHeader msgClose 2 ++ [0]),
    .begin msgOpen [], .poll 0, .poll 0]

end ProviderSys

end PandaOs.Resource
