import PandaOs.Syscall.Channel
import PandaOs.Proofs.ChannelDelivery

/-!
# The channel-recv poll loses no message

`handle_recv` splits one logical step over four calls: peek at the front
message, check the table's capacity, pop, and install the attachment. This
file states what a poll does as a whole, as the inductive `RecvOutcome`:
every outcome either leaves the channel and the table alone and reports why,
or pops exactly the front message, hands its bytes to the caller and
accounts for its attachment (`Installed`).

The capacity check before the pop uses the very bound `insert_typed`
refuses at, so a popped attachment can only be refused for the other
reason, an id counter past `MAX_ID`. In that case the source drops the
attachment on purpose and reports handle 0: `Installed.dropped`. Every other
attachment goes in under `make_handle(type, next_id)`, and the handle
table's freshness invariant makes that id new.

The proof follows the loop: one case per branch of the body, and the
`QueueEmpty` branch that registers and goes round again meets the same
channel and table, so the second pass ends the poll.
-/

namespace PandaOs.Syscall

open PandaOs.Abi PandaOs.Lib PandaOs.Resource PandaOs.Kernel

section

variable {ρ : Type}

/-- How a receive accounts for the attachment `att` of the popped message:
the id it reports and the table afterwards. -/
inductive Installed (handleType : ρ → HandleType) (t : HandleTable ρ) :
    Option ρ → Nat → HandleTable ρ → Prop
  | none : Installed handleType t none 0 t
  | fresh (res : ρ) (id : Nat) :
      id = (handleType res).makeHandle t.nextId → id ∉ t.handles →
      Installed handleType t (some res) id ⟨t.handles.insert id (Handle.new res), t.nextId + 1⟩
  | dropped (res : ρ) : maxId < t.nextId → Installed handleType t (some res) 0 t

/-- Everything one poll of `handle_recv` can do, from channel `ch` seen from
`side`, table `t`, destination `dst`, the raw `flags` and `out_handle_ptr`. -/
inductive RecvOutcome (handleType : ρ → HandleType) (ch : ChannelShared ρ) (side : Side)
    (t : HandleTable ρ) (dst : UserSlice) (flags outHandlePtr : Nat) :
    Poll SyscallResult × ChannelShared ρ × HandleTable ρ → Prop
  | tooManyHandles :
      peekHasAttachment ch side = some true → t.isFull = true →
      RecvOutcome handleType ch side t dst flags outHandlePtr
        (.ready (.err .TooManyHandles), ch, t)
  | bufferTooSmall (msg : ChannelMessage ρ) (rest : List (ChannelMessage ρ)) :
      (ch.half side.peer).queue = msg :: rest → min dst.len maxMessageSize < msg.data.length →
      RecvOutcome handleType ch side t dst flags outHandlePtr
        (.ready (.err .BufferTooSmall), ch, t)
  | wouldBlock :
      (ch.half side.peer).queue = [] → (ch.half side.peer).closed = false →
      flags % 2 ^ 32 &&& channelNonblock ≠ 0 →
      RecvOutcome handleType ch side t dst flags outHandlePtr (.ready (.err .WouldBlock), ch, t)
  | pending :
      (ch.half side.peer).queue = [] → (ch.half side.peer).closed = false →
      flags % 2 ^ 32 &&& channelNonblock = 0 →
      RecvOutcome handleType ch side t dst flags outHandlePtr (.pending, ch, t)
  | channelClosed :
      (ch.half side.peer).queue = [] → (ch.half side.peer).closed = true →
      RecvOutcome handleType ch side t dst flags outHandlePtr
        (.ready (.err .ChannelClosed), ch, t)
  | received (msg : ChannelMessage ρ) (rest : List (ChannelMessage ρ)) (id : Nat)
      (t' : HandleTable ρ) :
      (ch.half side.peer).queue = msg :: rest → msg.data.length ≤ min dst.len maxMessageSize →
      Installed handleType t msg.attachment id t' →
      RecvOutcome handleType ch side t dst flags outHandlePtr
        (.ready (recvResult msg.data.length msg.data dst outHandlePtr id),
          ch.setHalves side (ch.half side, { ch.half side.peer with queue := rest }), t')

/-- `received_handle` accounts for the attachment whenever the table had
room for it. -/
theorem installed_receivedHandle (handleType : ρ → HandleType) {t : HandleTable ρ}
    (hw : t.Wf) (att : Option ρ) (hfull : att.isSome = true → t.isFull = false) :
    Installed handleType t att (receivedHandle handleType t att).1
      (receivedHandle handleType t att).2 := by
  cases att with
  | none => exact .none
  | some res =>
      have hf := hfull rfl
      by_cases hid : t.nextId ≤ maxId
      · rw [receivedHandle_some_of_le res hf hid]
        exact .fresh res _ rfl (hw.makeHandle_not_mem _ hid)
      · rw [receivedHandle_some_of_gt res (by omega)]
        exact .dropped res (by omega)

/-- The loop's step lemma: from any channel and any table with the freshness
invariant, the loop ends in one of the outcomes of `RecvOutcome`. -/
theorem handleRecvLoop_outcome (handleType : ρ → HandleType) (ch : ChannelShared ρ)
    (side : Side) {t : HandleTable ρ} (hw : t.Wf) (dst : UserSlice) (flags ptr : Nat)
    (registered : Bool) :
    RecvOutcome handleType ch side t dst flags ptr
      (handleRecvLoop handleType ch side t dst (flags % 2 ^ 32) ptr registered) := by
  rw [handleRecvLoop]
  split
  · next hpf => exact .tooManyHandles hpf.1 hpf.2
  · next hpf =>
      dsimp only
      rcases hrecv : recvWithAttachment ch side (List.replicate (min dst.len maxMessageSize) 0)
        with ⟨e | ⟨len, buf, att⟩, ch'⟩
      · have hch : ch = ch' := (recvWithAttachment_error hrecv).symm
        subst hch
        obtain ⟨msg, rest, hq, hlen, rfl⟩ | ⟨hq, hc, rfl⟩ | ⟨hq, hc, rfl⟩ :=
          recvWithAttachment_error_cases hrecv
        · exact .bufferTooSmall msg rest hq (by simpa using hlen)
        · dsimp only
          split
          · next hnb => exact .wouldBlock hq hc hnb
          · next hnb =>
              split
              · exact .pending hq hc (by simpa using hnb)
              · exact handleRecvLoop_outcome handleType ch side hw dst flags ptr true
        · exact .channelClosed hq hc
      · obtain ⟨msg, rest, hq, hlen, hr, rfl⟩ := recvWithAttachment_ok hrecv
        simp only [Prod.mk.injEq] at hr
        obtain ⟨rfl, rfl, rfl⟩ := hr
        have hfull : msg.attachment.isSome = true → t.isFull = false := by
          intro ha
          rw [peekHasAttachment_of_queue hq, ha] at hpf
          simpa using hpf
        have hinst := installed_receivedHandle handleType hw _ hfull
        have htake : (msg.data ++ List.drop msg.data.length
            (List.replicate (min dst.len maxMessageSize) (0 : UInt8))).take msg.data.length =
            msg.data := by simp
        dsimp only
        rw [htake]
        exact .received msg rest _ _ hq (by simpa using hlen) hinst
termination_by cond registered 0 1
decreasing_by simp_all

/-- Every poll of `handle_recv`, from any channel state and any table with
the freshness invariant (every reachable table, `Reachable.wf`), ends in one
of the outcomes of `RecvOutcome`: unchanged with an error or `Pending`, or
the front message popped, delivered and its attachment accounted for. -/
theorem handleRecvPoll_outcome (handleType : ρ → HandleType) (ch : ChannelShared ρ)
    (side : Side) (t : HandleTable ρ) (hw : t.Wf) (dst : UserSlice) (flags outHandlePtr : Nat) :
    RecvOutcome handleType ch side t dst flags outHandlePtr
      (handleRecvPoll handleType ch side t dst flags outHandlePtr) :=
  handleRecvLoop_outcome handleType ch side hw dst flags outHandlePtr false

theorem handleRecvPoll_outcome_new :
    (HandleTable.new : HandleTable Unit).Wf ∧
      RecvOutcome (fun _ : Unit => HandleType.Channel) ChannelShared.new .A HandleTable.new
        ⟨0x1000, 8⟩ 0 0
        (handleRecvPoll (fun _ : Unit => HandleType.Channel) ChannelShared.new .A HandleTable.new
          ⟨0x1000, 8⟩ 0 0) :=
  ⟨HandleTable.wf_new,
    handleRecvPoll_outcome _ _ _ HandleTable.new HandleTable.wf_new _ _ _⟩

end

/-- A receiver whose table has handed out every id up to `MAX_ID` (and
closed them all again) receives a message that carries a handle: the
message is popped and its bytes delivered, but the table is left as it was
and handle 0 is reported. The attachment is lost. -/
theorem handleRecvPoll_drops_attachment :
    (⟨∅, maxId + 1⟩ : HandleTable Unit).Reachable ∧
      peekHasAttachment (runChannel [.send .B [7] (some ())]).1 .A = some true ∧
      handleRecvPoll (fun _ => HandleType.Channel) (runChannel [.send .B [7] (some ())]).1 .A
          ⟨∅, maxId + 1⟩ ⟨0x1000, 8⟩ 0 0x2000 =
        (.ready (recvResult 1 [7] ⟨0x1000, 8⟩ 0x2000 0), ChannelShared.new, ⟨∅, maxId + 1⟩) := by
  have hle : firstUserId ≤ maxId + 1 := by decide
  have hreach := HandleTable.reachable_empty () (maxId + 1 - firstUserId) (by omega)
  rw [Nat.add_sub_cancel' hle] at hreach
  have hch : (runChannel [.send .B [7] (some ())]).1 =
      (⟨⟨[], false⟩, ⟨[⟨[7], some ()⟩], false⟩, defaultQueueCapacity⟩ : ChannelShared Unit) := rfl
  have hfull : (⟨∅, maxId + 1⟩ : HandleTable Unit).isFull = false := rfl
  have hrecv : recvWithAttachment (runChannel [.send .B [7] (some ())]).1 .A
      (List.replicate (min 8 maxMessageSize) 0) =
      (.ok (1, [7] ++ List.drop 1 (List.replicate 8 0), some ()), ChannelShared.new) := by
    rw [hch]
    rfl
  refine ⟨hreach, by rw [hch]; rfl, ?_⟩
  rw [handleRecvPoll, handleRecvLoop, if_neg (by rw [hfull]; simp)]
  dsimp only
  rw [hrecv]
  dsimp only
  rw [receivedHandle_some_of_gt () (show maxId < maxId + 1 by omega)]
  rfl

end PandaOs.Syscall
