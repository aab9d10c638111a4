import PandaOs.Kernel.Scheduler
import PandaOs.Proofs.ChannelRecv

/-!
# A syscall completes differently after it has blocked

A syscall's result reaches user space along one of two paths. If the
future is ready on its first poll, `poll_and_dispatch` copies out both
write-backs: the bytes for `writeback.dst` and the `u64` for
`handle_writeback.ptr`. If it was parked and completes later,
`dispatch_completed_syscall` copies out the byte write-back only. The two
agree on every result without a handle write-back
(`pollAndDispatchCopyOut_of_none`), and disagree on the others.

The only syscall that produces a handle write-back is a channel receive
with a non-zero `out_handle_ptr` that pops a message carrying a handle.
This file runs the channel syscalls on the scheduler model: the kernel
objects are one channel and every process's handle table, and a future is
a pending send or receive, polled by `handle_send`'s and `handle_recv`'s
loops. Two runs deliver the same message with the same attached handle to
process 1. In the first the message is already queued when process 1
asks; in the second process 1 blocks first and process 2 sends while it
waits. Both runs install the handle in process 1's table and return the
same length, but only the first writes its id to `out_handle_ptr`.
-/

namespace PandaOs.Scheduler

open PandaOs.Abi PandaOs.Lib PandaOs.Resource PandaOs.Kernel PandaOs.Syscall

/-- The kernel objects the channel syscalls act on: one channel, and each
process's handle table. -/
structure ChannelWorld (ρ : Type) where
  channel : ChannelShared ρ
  tables : Nat → HandleTable ρ

/-- A parked channel syscall: the arguments its future captured. -/
inductive ChannelFuture (ρ : Type) where
  | recv (side : Side) (dst : UserSlice) (flags outHandlePtr : Nat)
  | send (side : Side) (msg : List UInt8) (attachment : Option ρ) (flags : Nat)

/-- The channel futures, polled for process `pid`: `with_current_process`
inside a receive reaches `pid`'s table. They write no user memory while
polled; their results are copied out by the dispatch paths. -/
def channelFutures {ρ : Type} (handleType : ρ → HandleType) :
    Futures (ChannelFuture ρ) (ChannelWorld ρ) Empty where
  poll pid f w := match f with
    | .recv side dst flags ptr =>
        let r := handleRecvPoll handleType w.channel side (w.tables pid) dst flags ptr
        ⟨r.1, f, ⟨r.2.1, Function.update w.tables pid r.2.2⟩, []⟩
    | .send side msg att flags =>
        let r := handleSendPoll w.channel side msg att flags
        ⟨r.1, f, { w with channel := r.2 }, []⟩
  irq e _ := nomatch e

/-- Process 1 running with a fresh channel between it (side A) and process
2 (side B), every table fresh and all memory zero. -/
def recvKernel : Kernel (ChannelFuture Unit) (ChannelWorld Unit) :=
  ⟨⟨ChannelShared.new, fun _ => HandleTable.new⟩, 1, 1, some 1, fun _ _ => 0, fun _ => none⟩

/-- Process 1's receive: 8 bytes at `0x1000`, blocking, the handle id to `0x2000`. -/
def recvFuture : ChannelFuture Unit := .recv .A ⟨0x1000, 8⟩ 0 0x2000

/-- Process 2's send of one byte with a handle attached. -/
def sendFuture : ChannelFuture Unit := .send .B [7] (some ()) 0

/-- The channel once process 2 has sent. -/
def sentChannel : ChannelShared Unit :=
  ⟨⟨[], false⟩, ⟨[⟨[7], some ()⟩], false⟩, defaultQueueCapacity⟩

/-- A receive that blocks on an empty channel, is resumed after the peer
sends a message carrying a handle, and completes from the scheduler, never
writes the new handle's id to `out_handle_ptr`; the same receive made
after the send does. Both install the handle in process 1's table. -/
theorem blocked_recv_drops_handle_writeback :
    readBytes ((runKernel (channelFutures fun _ => .Channel) recvKernel
        [.preempt, .schedule 2, .syscall sendFuture, .preempt, .schedule 1,
          .syscall recvFuture]).1.mem 1) 0x2000 8 = leBytes (HandleType.Channel.makeHandle 7) 8 ∧
      readBytes ((runKernel (channelFutures fun _ => .Channel) recvKernel
        [.syscall recvFuture, .schedule 2, .syscall sendFuture, .preempt,
          .schedule 1]).1.mem 1) 0x2000 8 = List.replicate 8 0 ∧
      ((runKernel (channelFutures fun _ => .Channel) recvKernel
        [.syscall recvFuture, .schedule 2, .syscall sendFuture, .preempt,
          .schedule 1]).1.world.tables 1).get (HandleType.Channel.makeHandle 7) =
        some (Handle.new ()) := by
  have hpending : handleRecvPoll (fun _ : Unit => HandleType.Channel) ChannelShared.new .A
      HandleTable.new ⟨0x1000, 8⟩ 0 0x2000 = (.pending, ChannelShared.new, HandleTable.new) :=
    handleRecvPoll_of_empty _ _ _ _ rfl rfl (by decide)
  have hsend : handleSendPoll (ChannelShared.new : ChannelShared Unit) .B [7] (some ()) 0 =
      (.ready (.ok 0), sentChannel) := handleSendPoll_of_ok _ rfl
  have hq : (sentChannel.half Side.A.peer).queue = [⟨[7], some ()⟩] := rfl
  have hrecv : handleRecvPoll (fun _ : Unit => HandleType.Channel) sentChannel .A
      HandleTable.new ⟨0x1000, 8⟩ 0 0x2000 = _ :=
    handleRecvPoll_of_cons _ 0 0x2000 hq (by decide) (fun _ => rfl)
  refine ⟨?_, ?_, ?_⟩
  all_goals
    simp [runKernel, runLog, kernelStep, pollAndDispatch, execNextRunnable, pollPendingSyscall,
      dispatchCompletedSyscall, dispatchNormalProcess, Kernel.writeRaw, rawLog, channelFutures,
      recvKernel, recvFuture, sendFuture, hpending, hsend, hrecv]
  all_goals decide

end PandaOs.Scheduler
