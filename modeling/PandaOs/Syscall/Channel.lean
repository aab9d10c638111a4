import PandaOs.Resource.Channel
import PandaOs.Kernel.HandleTable
import PandaOs.Syscall.UserPtr

/-!
# The channel syscalls

`syscall/channel.rs` turns the channel operations into syscall futures.
`handle_create` runs at once: it inserts both endpoints into the caller's
handle table, taking the first back out if the second does not fit, and
writes the two ids to user memory. `handle_send` and `handle_recv` return a
future whose every poll runs the same loop: try the operation; on a full
(send) or empty (receive) queue fail at once under `CHANNEL_NONBLOCK`,
otherwise register with the waker and try exactly once more before
reporting `Pending`. The loop is modelled by recursion on the `registered`
flag, which it sets at most once.

A receive checks, before popping, that a message with an attachment will
fit into the table: `peek_has_attachment` and `is_full` guard the pop, and
`HandleTable::insert` installs the attachment after it. The insert can
still fail when the id counter has passed `MAX_ID`; the source then drops
the attachment and reports handle 0.

The waker registration (`set_waiting`) changes no state this model keeps,
and the resource lookup that yields the endpoint is left out: each poll is
given the shared channel record and the endpoint's side.
-/

namespace PandaOs.Syscall

open PandaOs.Abi PandaOs.Lib PandaOs.Resource PandaOs.Kernel

section

variable {ρ : Type}

/-! ## `handle_recv` -/

/-- `received_handle`: the attachment installed in the receiver's table, or
0 when there was none or `insert` refused it. -/
def receivedHandle (handleType : ρ → HandleType) (table : HandleTable ρ) :
    Option ρ → Nat × HandleTable ρ
  | none => (0, table)
  | some res =>
      match table.insert handleType res with
      | (.ok id, table') => (id, table')
      | (.error _, table') => (0, table')

/-- The result a successful receive completes with: the length in `rax`,
the bytes for `dst`, and the handle id for `out_handle_ptr` when it is not 0. -/
def recvResult (len : Nat) (kernelBuf : List UInt8) (dst : UserSlice) (outHandlePtr : Nat)
    (handle : Nat) : SyscallResult :=
  if outHandlePtr ≠ 0 then .writeBackWithHandle len kernelBuf dst outHandlePtr handle
  else .writeBack len kernelBuf dst

/-- The loop inside `handle_recv`'s poll closure. -/
def handleRecvLoop (handleType : ρ → HandleType) (ch : ChannelShared ρ) (side : Side)
    (table : HandleTable ρ) (dst : UserSlice) (flags outHandlePtr : Nat) (registered : Bool) :
    Poll SyscallResult × ChannelShared ρ × HandleTable ρ :=
  if peekHasAttachment ch side = some true ∧ table.isFull = true then
    (.ready (.err .TooManyHandles), ch, table)
  else
    let allocLen := min dst.len maxMessageSize
    match recvWithAttachment ch side (List.replicate allocLen 0) with
    | (.ok (len, kernelBuf, attachment), ch') =>
        let (handle, table') := receivedHandle handleType table attachment
        (.ready (recvResult len (kernelBuf.take len) dst outHandlePtr handle), ch', table')
    | (.error .QueueEmpty, ch') =>
        if flags &&& channelNonblock ≠ 0 then (.ready (.err .WouldBlock), ch', table)
        else if registered then (.pending, ch', table)
        else handleRecvLoop handleType ch' side table dst flags outHandlePtr true
    | (.error .BufferTooSmall, ch') => (.ready (.err .BufferTooSmall), ch', table)
    | (.error .PeerClosed, ch') => (.ready (.err .ChannelClosed), ch', table)
    | (.error _, ch') => (.ready (.err .IoError), ch', table)
termination_by cond registered 0 1
decreasing_by simp_all

/-- One poll of the future `handle_recv` returns; `flags` is cast to `u32`. -/
def handleRecvPoll (handleType : ρ → HandleType) (ch : ChannelShared ρ) (side : Side)
    (table : HandleTable ρ) (dst : UserSlice) (flags outHandlePtr : Nat) :
    Poll SyscallResult × ChannelShared ρ × HandleTable ρ :=
  handleRecvLoop handleType ch side table dst (flags % 2 ^ 32) outHandlePtr false

/-! ## `handle_send` -/

/-- `handle_send`'s synchronous part, run while the caller's page table is
active: copy the message in and resolve the attached handle, which must name
a transferable resource in the caller's table. -/
def handleSend (isTransferable : ρ → Bool) (mem : Nat → UInt8) (table : HandleTable ρ)
    (bufPtr bufLen attachHandle : Nat) : Except SyscallError (List UInt8 × Option ρ) :=
  match UserAccess.read mem ⟨bufPtr, bufLen⟩ with
  | .error e => .error e
  | .ok msg =>
      if attachHandle = 0 then .ok (msg, none)
      else
        match table.get attachHandle with
        | some h => if isTransferable h.resource then .ok (msg, some h.resource)
            else .error .InvalidHandle
        | none => .error .InvalidHandle

/-- The loop inside `handle_send`'s poll closure. -/
def handleSendLoop (ch : ChannelShared ρ) (side : Side) (msg : List UInt8)
    (attachment : Option ρ) (flags : Nat) (registered : Bool) :
    Poll SyscallResult × ChannelShared ρ :=
  match sendWithAttachment ch side msg attachment with
  | (.ok (), ch') => (.ready (.ok 0), ch')
  | (.error .QueueFull, ch') =>
      if flags &&& channelNonblock ≠ 0 then (.ready (.err .WouldBlock), ch')
      else if registered then (.pending, ch')
      else handleSendLoop ch' side msg attachment flags true
  | (.error .MessageTooLarge, ch') => (.ready (.err .MessageTooLarge), ch')
  | (.error .PeerClosed, ch') => (.ready (.err .ChannelClosed), ch')
  | (.error _, ch') => (.ready (.err .IoError), ch')
termination_by cond registered 0 1
decreasing_by simp_all

/-- One poll of the future `handle_send` returns. -/
def handleSendPoll (ch : ChannelShared ρ) (side : Side) (msg : List UInt8)
    (attachment : Option ρ) (flags : Nat) : Poll SyscallResult × ChannelShared ρ :=
  handleSendLoop ch side msg attachment (flags % 2 ^ 32) false

/-! ## `handle_create` -/

/-- `handle_create` for the two endpoints `a` and `b` of a fresh pair: the
result, the caller's table and its memory. A failed copy-out reports `-1`
and keeps both handles. -/
def handleCreate (a b : ρ) (mem : Nat → UInt8) (table : HandleTable ρ) (outHandlesPtr : Nat) :
    SyscallResult × HandleTable ρ × (Nat → UInt8) :=
  match table.insertTyped .Channel a with
  | (.error _, t₁) => (.err .TooManyHandles, t₁, mem)
  | (.ok handleA, t₁) =>
      match t₁.insertTyped .Channel b with
      | (.error _, t₂) => (.err .TooManyHandles, (t₂.remove handleA).2, mem)
      | (.ok handleB, t₂) =>
          match UserAccess.writeUser mem outHandlesPtr (leBytes handleA 8 ++ leBytes handleB 8) with
          | .ok mem' => (.ok 0, t₂, mem')
          | .error _ => (.ok (-1), t₂, mem)

/-! ## What the pieces do -/

@[simp] theorem receivedHandle_none (handleType : ρ → HandleType) (t : HandleTable ρ) :
    receivedHandle handleType t none = (0, t) := rfl

/-- With room in the table and ids left, the attachment goes in under the
counter's id, which the invariant makes fresh. -/
theorem receivedHandle_some_of_le {handleType : ρ → HandleType} {t : HandleTable ρ}
    (res : ρ) (hfull : t.isFull = false) (hid : t.nextId ≤ maxId) :
    receivedHandle handleType t (some res) =
      ((handleType res).makeHandle t.nextId,
        ⟨t.handles.insert ((handleType res).makeHandle t.nextId) (Handle.new res),
          t.nextId + 1⟩) := by
  have hlen : ¬ t.len ≥ maxHandlesPerProcess := by
    simpa [HandleTable.isFull] using hfull
  simp only [receivedHandle, HandleTable.insert, HandleTable.insertTyped_eq]
  rw [if_neg hlen, if_neg (by omega)]

/-- With the ids spent, the attachment is dropped and the table is as it was. -/
theorem receivedHandle_some_of_gt {handleType : ρ → HandleType} {t : HandleTable ρ}
    (res : ρ) (hid : maxId < t.nextId) :
    receivedHandle handleType t (some res) = (0, t) := by
  obtain ⟨e, he⟩ := t.insertTyped_of_gt (handleType res) res hid
  simp only [receivedHandle, HandleTable.insert, he]

theorem recvResult_code (len : Nat) (buf : List UInt8) (dst : UserSlice) (ptr handle : Nat) :
    (recvResult len buf dst ptr handle).code = len := by
  unfold recvResult
  split <;> rfl

/-- With `registered` set the loop never goes round again. -/
theorem handleRecvLoop_true_eq (handleType : ρ → HandleType) (ch : ChannelShared ρ) (side : Side)
    (t : HandleTable ρ) (dst : UserSlice) (flags ptr : Nat) :
    handleRecvLoop handleType ch side t dst flags ptr true =
      if peekHasAttachment ch side = some true ∧ t.isFull = true then
        (.ready (.err .TooManyHandles), ch, t)
      else
        match recvWithAttachment ch side (List.replicate (min dst.len maxMessageSize) 0) with
        | (.ok (len, kernelBuf, attachment), ch') =>
            let (handle, table') := receivedHandle handleType t attachment
            (.ready (recvResult len (kernelBuf.take len) dst ptr handle), ch', table')
        | (.error .QueueEmpty, ch') =>
            if flags &&& channelNonblock ≠ 0 then (.ready (.err .WouldBlock), ch', t)
            else (.pending, ch', t)
        | (.error .BufferTooSmall, ch') => (.ready (.err .BufferTooSmall), ch', t)
        | (.error .PeerClosed, ch') => (.ready (.err .ChannelClosed), ch', t)
        | (.error _, ch') => (.ready (.err .IoError), ch', t) := by
  rw [handleRecvLoop]
  rfl

/-- An empty queue from an open peer, without `CHANNEL_NONBLOCK`: the poll
registers, looks once more, and reports `Pending` with nothing changed. -/
theorem handleRecvPoll_of_empty (handleType : ρ → HandleType) {ch : ChannelShared ρ}
    {side : Side} (t : HandleTable ρ) (dst : UserSlice) {flags : Nat} (ptr : Nat)
    (hq : (ch.half side.peer).queue = []) (hc : (ch.half side.peer).closed = false)
    (hf : flags % 2 ^ 32 &&& channelNonblock = 0) :
    handleRecvPoll handleType ch side t dst flags ptr = (.pending, ch, t) := by
  have hpeek : peekHasAttachment ch side = none := by
    simp only [peekHasAttachment, ChannelShared.halves, hq, List.head?_nil, Option.map_none]
  have hrecv : recvWithAttachment ch side (List.replicate (min dst.len maxMessageSize) 0) =
      (.error .QueueEmpty, ch) := by
    simp only [recvWithAttachment, ChannelShared.halves, hq, hc, Bool.false_eq_true, if_false]
  rw [handleRecvPoll, handleRecvLoop, if_neg (by rw [hpeek]; simp)]
  dsimp only
  rw [hrecv]
  dsimp only
  rw [if_neg (by omega), if_neg (by decide), handleRecvLoop_true_eq,
    if_neg (by rw [hpeek]; simp), hrecv]
  dsimp only
  rw [if_neg (by omega)]

/-- A front message that fits, and whose attachment the table has room
for: the poll pops it and completes with its bytes and handle. -/
theorem handleRecvPoll_of_cons (handleType : ρ → HandleType) {ch : ChannelShared ρ}
    {side : Side} {t : HandleTable ρ} {dst : UserSlice} (flags ptr : Nat)
    {msg : ChannelMessage ρ} {rest : List (ChannelMessage ρ)}
    (hq : (ch.half side.peer).queue = msg :: rest)
    (hfit : msg.data.length ≤ min dst.len maxMessageSize)
    (hfull : msg.attachment.isSome = true → t.isFull = false) :
    handleRecvPoll handleType ch side t dst flags ptr =
      (.ready (recvResult msg.data.length msg.data dst ptr
          (receivedHandle handleType t msg.attachment).1),
        ch.setHalves side (ch.half side, { ch.half side.peer with queue := rest }),
        (receivedHandle handleType t msg.attachment).2) := by
  have hnot : ¬ (peekHasAttachment ch side = some true ∧ t.isFull = true) := by
    rintro ⟨hp, hf⟩
    rw [peekHasAttachment_of_queue hq, Option.some_inj] at hp
    rw [hfull hp] at hf
    cases hf
  have hlen : ¬ (List.replicate (min dst.len maxMessageSize) (0 : UInt8)).length <
      msg.data.length := by
    rw [List.length_replicate]
    omega
  rw [handleRecvPoll, handleRecvLoop, if_neg hnot]
  dsimp only
  simp only [recvWithAttachment, ChannelShared.halves, hq, if_neg hlen, List.take_left']

/-- A send that goes through completes the poll at once. -/
theorem handleSendPoll_of_ok {ch ch' : ChannelShared ρ} {side : Side} {msg : List UInt8}
    {att : Option ρ} (flags : Nat) (h : sendWithAttachment ch side msg att = (.ok (), ch')) :
    handleSendPoll ch side msg att flags = (.ready (.ok 0), ch') := by
  rw [handleSendPoll, handleSendLoop, h]

end

end PandaOs.Syscall
