import PandaOs.Syscall.UserPtr
import PandaOs.Lib.Run

/-!
# Syscall completion and the scheduler

A syscall is a future. `poll_and_dispatch` polls it once on the syscall
entry path, where the calling process's page table is active; if it is
ready the result is copied out to user memory at once. Otherwise the future
is parked as the process's `PendingSyscall` and the process yields. From
then on `exec_next_runnable` owns it: whenever it picks the process,
`poll_pending_syscall` sets `current_process` and polls the future again,
and if it completes, `dispatch_completed_syscall` switches to the process's
page table, copies the result out and returns to user mode. A process with
nothing pending is resumed by `dispatch_normal_process`, which also
switches page tables. Nothing else changes CR3.

The model keeps exactly that machinery. The page table in CR3 is `active`;
each address space's user memory is a byte map; `current` is
`scheduler.current_process`, which is what `with_current_process` sees
inside a future; `running` is the process executing in user mode, the only
one that can enter a syscall. The futures and the kernel objects they act
on are parameters: `Futures.poll` polls one on behalf of a process against
the objects (`ω`) and reports, beside the result, the bytes it wrote through
raw user addresses while it ran (`SharedBuffer::with_mut_slice` does that).
Those writes land in whatever address space is active, as the hardware
would put them. Device interrupts change the objects through `Futures.irq`.

Which process runs next is left to the environment: `schedule` may pick
any process, so statements over all runs cover every scheduling policy.
Every user-memory write is logged with the process whose syscall made it
and the address space it landed in.
-/

namespace PandaOs.Scheduler

open PandaOs.Abi PandaOs.Lib PandaOs.Syscall

/-! ## Copying a result out -/

/-- Run a user write whose error the caller ignores (`let _ = ua.write(..)`). -/
def writeOrKeep (mem : Nat → UInt8) : Except SyscallError (Nat → UInt8) → Nat → UInt8
  | .ok mem' => mem'
  | .error _ => mem

/-- The copy-out in `poll_and_dispatch`'s `Ready` arm: the byte
`writeback`, then the `handle_writeback` `u64`. -/
def pollAndDispatchCopyOut (mem : Nat → UInt8) (r : SyscallResult) : Nat → UInt8 :=
  if r.writeback.isSome || r.handleWriteback.isSome then
    let mem₁ := match r.writeback with
      | some wb => writeOrKeep mem ((UserAccess.write mem wb.dst wb.data).map Prod.snd)
      | none => mem
    match r.handleWriteback with
    | some hwb => writeOrKeep mem₁ (UserAccess.writeUser mem₁ hwb.ptr (leBytes hwb.value 8))
    | none => mem₁
  else mem

/-- The copy-out in `dispatch_completed_syscall`. -/
def dispatchCompletedCopyOut (mem : Nat → UInt8) (r : SyscallResult) : Nat → UInt8 :=
  match r.writeback with
  | some wb => writeOrKeep mem ((UserAccess.write mem wb.dst wb.data).map Prod.snd)
  | none => mem

/-! ## The kernel -/

/-- One poll of a future: its result, the future to keep if it is pending,
the kernel objects afterwards, and the raw user writes it made. -/
structure PollStep (φ ω : Type) where
  result : Poll SyscallResult
  future : φ
  world : ω
  writes : List (Nat × List UInt8)

/-- The syscall futures of a kernel: polling one for a process, and what a
device interrupt does to the objects they act on. -/
structure Futures (φ ω ε : Type) where
  poll : Nat → φ → ω → PollStep φ ω
  irq : ε → ω → ω

/-- The scheduler's state. -/
structure Kernel (φ ω : Type) where
  world : ω
  active : Nat
  current : Nat
  running : Option Nat
  mem : Nat → Nat → UInt8
  pending : Nat → Option φ

/-- What the environment can do next. -/
inductive KernelEvent (φ ε : Type) where
  | syscall (future : φ)
  | preempt
  | schedule (pid : Nat)
  | interrupt (e : ε)

/-- How a user-memory write was made. -/
inductive AccessKind where
  | copyOut
  | raw
  deriving DecidableEq, Repr

/-- What a step shows: a write into user memory, made for the syscall of
`owner` into address space `space`, or a syscall returning to user mode. -/
inductive KernelLog where
  | access (owner space : Nat) (kind : AccessKind)
  | returned (pid : Nat) (code : Int)
  deriving DecidableEq, Repr

/-- `PendingSyscallOutcome`. -/
inductive PendingSyscallOutcome where
  | completed (r : SyscallResult)
  | blocked
  | noPending

section

variable {φ ω ε : Type}

/-- Apply raw writes to the active address space. -/
def Kernel.writeRaw (k : Kernel φ ω) (writes : List (Nat × List UInt8)) : Kernel φ ω :=
  let space := writes.foldl (fun m w => writeBytes m w.1 w.2) (k.mem k.active)
  { k with mem := Function.update k.mem k.active space }

/-- The log of raw writes made for `owner`'s syscall into `space`. -/
def rawLog (owner space : Nat) (writes : List (Nat × List UInt8)) : List KernelLog :=
  writes.map fun _ => .access owner space .raw

/-- `poll_and_dispatch` for the running process `pid`. -/
def pollAndDispatch (F : Futures φ ω ε) (k : Kernel φ ω) (pid : Nat) (future : φ) :
    Kernel φ ω × List KernelLog :=
  let st := F.poll pid future k.world
  let k₁ := Kernel.writeRaw { k with world := st.world } st.writes
  let log := rawLog pid k.active st.writes
  match st.result with
  | .ready r =>
      let space := pollAndDispatchCopyOut (k₁.mem k₁.active) r
      ({ k₁ with mem := Function.update k₁.mem k₁.active space },
        log ++ (if r.writeback.isSome || r.handleWriteback.isSome
          then [.access pid k₁.active .copyOut] else []) ++ [.returned pid r.code])
  | .pending =>
      ({ k₁ with pending := Function.update k₁.pending pid (some st.future), running := none },
        log)

/-- `poll_pending_syscall`: set `current_process`, take the pending future
and poll it, without touching CR3. -/
def pollPendingSyscall (F : Futures φ ω ε) (k : Kernel φ ω) (pid : Nat) :
    PendingSyscallOutcome × Kernel φ ω × List KernelLog :=
  let k₀ := { k with current := pid }
  match k.pending pid with
  | none => (.noPending, k₀, [])
  | some future =>
      let st := F.poll pid future k.world
      let k₁ := Kernel.writeRaw { k₀ with world := st.world } st.writes
      let log := rawLog pid k.active st.writes
      match st.result with
      | .ready r => (.completed r, { k₁ with pending := Function.update k₁.pending pid none }, log)
      | .pending =>
          (.blocked, { k₁ with pending := Function.update k₁.pending pid (some st.future) }, log)

/-- `dispatch_completed_syscall`: switch to `pid`'s page table, copy the
result out, return to user mode. -/
def dispatchCompletedSyscall (k : Kernel φ ω) (pid : Nat) (r : SyscallResult) :
    Kernel φ ω × List KernelLog :=
  let space := dispatchCompletedCopyOut (k.mem pid) r
  let k' : Kernel φ ω := { k with current := pid, active := pid, running := some pid }
  ({ k' with mem := Function.update k.mem pid space },
    (if r.writeback.isSome then [.access pid pid .copyOut] else []) ++ [.returned pid r.code])

/-- `dispatch_normal_process`. -/
def dispatchNormalProcess (k : Kernel φ ω) (pid : Nat) : Kernel φ ω :=
  { k with current := pid, active := pid, running := some pid }

/-- One turn of `exec_next_runnable` that picked `pid`. -/
def execNextRunnable (F : Futures φ ω ε) (k : Kernel φ ω) (pid : Nat) :
    Kernel φ ω × List KernelLog :=
  match pollPendingSyscall F k pid with
  | (.completed r, k₁, log) =>
      ((dispatchCompletedSyscall k₁ pid r).1, log ++ (dispatchCompletedSyscall k₁ pid r).2)
  | (.blocked, k₁, log) => (k₁, log)
  | (.noPending, k₁, _) => (dispatchNormalProcess k₁ pid, [])

/-- One step of the whole system. A syscall can only be entered by the
running process, and the scheduler only runs when no process does. -/
def kernelStep (F : Futures φ ω ε) (k : Kernel φ ω) : KernelEvent φ ε → Kernel φ ω × List KernelLog
  | .syscall future =>
      match k.running with
      | some pid => pollAndDispatch F k pid future
      | none => (k, [])
  | .preempt => ({ k with running := none }, [])
  | .schedule pid =>
      match k.running with
      | none => execNextRunnable F k pid
      | some _ => (k, [])
  | .interrupt e => ({ k with world := F.irq e k.world }, [])

/-- The runs of the kernel from `k`. -/
def runKernel (F : Futures φ ω ε) (k : Kernel φ ω) (events : List (KernelEvent φ ε)) :
    Kernel φ ω × List KernelLog :=
  runLog (kernelStep F) (k, []) events

/-! ## What each step does to CR3 and `current_process` -/

@[simp] theorem Kernel.writeRaw_active (k : Kernel φ ω) (w : List (Nat × List UInt8)) :
    (k.writeRaw w).active = k.active := rfl

@[simp] theorem Kernel.writeRaw_current (k : Kernel φ ω) (w : List (Nat × List UInt8)) :
    (k.writeRaw w).current = k.current := rfl

@[simp] theorem Kernel.writeRaw_running (k : Kernel φ ω) (w : List (Nat × List UInt8)) :
    (k.writeRaw w).running = k.running := rfl

theorem eq_of_mem_rawLog {x : KernelLog} {owner space : Nat} {w : List (Nat × List UInt8)}
    (h : x ∈ rawLog owner space w) : x = .access owner space .raw := by
  obtain ⟨_, _, rfl⟩ := List.mem_map.1 h
  rfl

/-- `poll_and_dispatch` keeps CR3 and `current_process`; the process
either keeps running or yields. All its writes go to the active space. -/
theorem pollAndDispatch_cases (F : Futures φ ω ε) (k : Kernel φ ω) (pid : Nat) (fut : φ) :
    (pollAndDispatch F k pid fut).1.active = k.active ∧
      (pollAndDispatch F k pid fut).1.current = k.current ∧
      ((pollAndDispatch F k pid fut).1.running = k.running ∨
        (pollAndDispatch F k pid fut).1.running = none) ∧
      ∀ o s kind, KernelLog.access o s kind ∈ (pollAndDispatch F k pid fut).2 →
        o = pid ∧ s = k.active := by
  unfold pollAndDispatch
  dsimp only
  cases hr : (F.poll pid fut k.world).result with
  | ready r =>
      refine ⟨rfl, rfl, .inl rfl, fun o s kind hmem => ?_⟩
      simp only [List.mem_append] at hmem
      rcases hmem with (hmem | hmem) | hmem
      · cases eq_of_mem_rawLog hmem
        exact ⟨rfl, rfl⟩
      · split at hmem
        · simp only [List.mem_singleton, KernelLog.access.injEq] at hmem
          exact ⟨hmem.1, hmem.2.1⟩
        · cases hmem
      · simp at hmem
  | pending =>
      refine ⟨rfl, rfl, .inr rfl, fun o s kind hmem => ?_⟩
      cases eq_of_mem_rawLog hmem
      exact ⟨rfl, rfl⟩

/-- `poll_pending_syscall` only moves `current_process`, and its writes are
raw writes into the space that was active. -/
theorem pollPendingSyscall_cases (F : Futures φ ω ε) (k : Kernel φ ω) (pid : Nat) :
    (pollPendingSyscall F k pid).2.1.active = k.active ∧
      (pollPendingSyscall F k pid).2.1.running = k.running ∧
      ∀ o s kind, KernelLog.access o s kind ∈ (pollPendingSyscall F k pid).2.2 →
        o = pid ∧ s = k.active ∧ kind = .raw := by
  unfold pollPendingSyscall
  dsimp only
  cases hp : k.pending pid with
  | none => exact ⟨rfl, rfl, fun o s kind h => by cases h⟩
  | some fut =>
      dsimp only
      have hraw : ∀ o s kind, KernelLog.access o s kind ∈ rawLog pid k.active
          (F.poll pid fut k.world).writes → o = pid ∧ s = k.active ∧ kind = .raw := by
        intro o s kind hmem
        cases eq_of_mem_rawLog hmem
        exact ⟨rfl, rfl, rfl⟩
      cases hr : (F.poll pid fut k.world).result with
      | ready r => exact ⟨rfl, rfl, hraw⟩
      | pending => exact ⟨rfl, rfl, hraw⟩

/-- A turn of the scheduler either hands the CPU to `pid` with its page
table active, or leaves the CPU as it was and CR3 where it was. It copies
out into `pid`'s own space, and writes raw into the space that was active. -/
theorem execNextRunnable_cases (F : Futures φ ω ε) (k : Kernel φ ω) (pid : Nat) :
    ((execNextRunnable F k pid).1.running = some pid ∧
        (execNextRunnable F k pid).1.active = pid ∧ (execNextRunnable F k pid).1.current = pid ∨
      (execNextRunnable F k pid).1.running = k.running ∧
        (execNextRunnable F k pid).1.active = k.active) ∧
      ∀ o s kind, KernelLog.access o s kind ∈ (execNextRunnable F k pid).2 →
        o = pid ∧ (s = pid ∧ kind = .copyOut ∨ s = k.active ∧ kind = .raw) := by
  obtain ⟨ha, hrun, hlog⟩ := pollPendingSyscall_cases F k pid
  unfold execNextRunnable
  split
  · next r k₁ log h =>
      rw [h] at hlog
      refine ⟨.inl ⟨rfl, rfl, rfl⟩, fun o s kind hmem => ?_⟩
      simp only [dispatchCompletedSyscall, List.mem_append] at hmem
      rcases hmem with hmem | hmem | hmem
      · obtain ⟨ho, hs, hk⟩ := hlog o s kind hmem
        exact ⟨ho, .inr ⟨hs, hk⟩⟩
      · split at hmem
        · simp only [List.mem_singleton, KernelLog.access.injEq] at hmem
          exact ⟨hmem.1, .inl ⟨hmem.2.1, hmem.2.2⟩⟩
        · cases hmem
      · simp at hmem
  · next k₁ log h =>
      rw [h] at ha hrun hlog
      refine ⟨.inr ⟨hrun, ha⟩, fun o s kind hmem => ?_⟩
      obtain ⟨ho, hs, hk⟩ := hlog o s kind hmem
      exact ⟨ho, .inr ⟨hs, hk⟩⟩
  · next k₁ log h =>
      exact ⟨.inl ⟨rfl, rfl, rfl⟩, fun o s kind hmem => by cases hmem⟩

/-! ## The copy-outs go to the right address space, in every run -/

/-- While a process runs in user mode its page table is active and it is
`current_process`. -/
def Kernel.Consistent (k : Kernel φ ω) : Prop :=
  ∀ p, k.running = some p → k.active = p ∧ k.current = p

/-- Every copy-out in the log went to the address space of the process it
was made for. -/
def CopyOutsOwned (log : List KernelLog) : Prop :=
  ∀ o s, KernelLog.access o s .copyOut ∈ log → o = s

theorem copyOutsOwned_append {l₁ l₂ : List KernelLog} (h₁ : CopyOutsOwned l₁)
    (h₂ : CopyOutsOwned l₂) : CopyOutsOwned (l₁ ++ l₂) := by
  intro o s h
  rcases List.mem_append.1 h with h | h
  · exact h₁ o s h
  · exact h₂ o s h

/-- The step lemma: every step keeps `Consistent`, and from a consistent
state every copy-out it makes goes to its owner's space. -/
theorem kernelStep_consistent (F : Futures φ ω ε) {k : Kernel φ ω} (hk : k.Consistent)
    (e : KernelEvent φ ε) :
    (kernelStep F k e).1.Consistent ∧ CopyOutsOwned (kernelStep F k e).2 := by
  cases e with
  | syscall fut =>
      cases hrun : k.running with
      | none =>
          simp only [kernelStep, hrun]
          exact ⟨hk, fun o s h => by cases h⟩
      | some pid =>
          simp only [kernelStep, hrun]
          obtain ⟨ha, hc, hr, hlog⟩ := pollAndDispatch_cases F k pid fut
          obtain ⟨hpa, hpc⟩ := hk pid hrun
          refine ⟨fun p hp => ?_, fun o s h => ?_⟩
          · rcases hr with hr | hr
            · rw [hr, hrun] at hp
              rw [ha, hc, ← Option.some_inj.1 hp]
              exact ⟨hpa, hpc⟩
            · rw [hr] at hp
              cases hp
          · obtain ⟨rfl, rfl⟩ := hlog o s .copyOut h
            exact hpa.symm
  | preempt =>
      exact ⟨fun p hp => (nomatch hp), fun o s h => (nomatch h)⟩
  | schedule pid =>
      cases hrun : k.running with
      | none =>
          simp only [kernelStep, hrun]
          obtain ⟨hcase, hlog⟩ := execNextRunnable_cases F k pid
          refine ⟨fun p hp => ?_, fun o s h => ?_⟩
          · rcases hcase with ⟨hr, ha, hc⟩ | ⟨hr, -⟩
            · rw [hr] at hp
              rw [ha, hc, Option.some_inj.1 hp]
              exact ⟨rfl, rfl⟩
            · rw [hr, hrun] at hp
              cases hp
          · obtain ⟨rfl, ⟨rfl, -⟩ | ⟨-, hk⟩⟩ := hlog o s .copyOut h
            · rfl
            · cases hk
      | some _ =>
          simp only [kernelStep, hrun]
          exact ⟨hk, fun o s h => by cases h⟩
  | interrupt e => exact ⟨hk, fun o s h => by cases h⟩

/-- The run lemma: from a consistent state, every run stays consistent and
every copy-out of a syscall result lands in the caller's address space. -/
theorem runKernel_consistent (F : Futures φ ω ε) {k : Kernel φ ω} (hk : k.Consistent)
    (events : List (KernelEvent φ ε)) :
    (runKernel F k events).1.Consistent ∧ CopyOutsOwned (runKernel F k events).2 :=
  runLog_inv (kernelStep F) (fun k log => k.Consistent ∧ CopyOutsOwned log)
    (fun _ _ e hi => ⟨(kernelStep_consistent F hi.1 e).1,
      copyOutsOwned_append hi.2 (kernelStep_consistent F hi.1 e).2⟩)
    events k [] ⟨hk, fun o s h => by cases h⟩

/-- Where a step's user writes land, from a consistent state: in the
owner's own space, except the raw writes of a future the scheduler polls
for `o`, which land in whatever space was active. -/
theorem kernelStep_access (F : Futures φ ω ε) {k : Kernel φ ω} (hk : k.Consistent)
    (e : KernelEvent φ ε) {o s : Nat} {kind : AccessKind}
    (h : KernelLog.access o s kind ∈ (kernelStep F k e).2) :
    o = s ∨ (kind = .raw ∧ s = k.active ∧ e = .schedule o) := by
  cases e with
  | syscall fut =>
      cases hrun : k.running with
      | none =>
          simp only [kernelStep, hrun] at h
          cases h
      | some pid =>
          simp only [kernelStep, hrun] at h
          obtain ⟨-, -, -, hlog⟩ := pollAndDispatch_cases F k pid fut
          obtain ⟨rfl, rfl⟩ := hlog o s kind h
          exact .inl (hk o hrun).1.symm
  | preempt => cases h
  | schedule pid =>
      cases hrun : k.running with
      | none =>
          simp only [kernelStep, hrun] at h
          obtain ⟨-, hlog⟩ := execNextRunnable_cases F k pid
          obtain ⟨rfl, ⟨rfl, -⟩ | ⟨rfl, rfl⟩⟩ := hlog o s kind h
          · exact .inl rfl
          · exact .inr ⟨rfl, rfl, rfl⟩
      | some _ =>
          simp only [kernelStep, hrun] at h
          cases h
  | interrupt e => cases h

/-! ## The copy-outs compared -/

/-- Without a handle write-back both copy-outs do the same. -/
theorem pollAndDispatchCopyOut_of_none (mem : Nat → UInt8) {r : SyscallResult}
    (h : r.handleWriteback = none) :
    pollAndDispatchCopyOut mem r = dispatchCompletedCopyOut mem r := by
  unfold pollAndDispatchCopyOut dispatchCompletedCopyOut
  rw [h]
  cases hw : r.writeback with
  | none => rfl
  | some wb => rfl

/-- `poll_and_dispatch` leaves the handle id at `ptr`, little-endian. -/
theorem readBytes_pollAndDispatchCopyOut (mem : Nat → UInt8) {r : SyscallResult}
    {hwb : HandleWriteBack} (h : r.handleWriteback = some hwb)
    (hv : UserAccess.validate ⟨hwb.ptr, 8⟩ = .ok ()) :
    readBytes (pollAndDispatchCopyOut mem r) hwb.ptr 8 = leBytes hwb.value 8 := by
  unfold pollAndDispatchCopyOut
  simp only [h, Option.isSome_some, Bool.or_true, if_true]
  unfold UserAccess.writeUser
  rw [leBytes_length, hv]
  simpa [writeOrKeep] using readBytes_writeBytes_self _ hwb.ptr (leBytes hwb.value 8)

/-- `dispatch_completed_syscall` never writes outside the byte write-back's
destination. -/
theorem dispatchCompletedCopyOut_of_not_mem (mem : Nat → UInt8) (r : SyscallResult) {a : Nat}
    (h : ∀ wb, r.writeback = some wb → a < wb.dst.addr ∨ wb.dst.addr + wb.dst.len ≤ a) :
    dispatchCompletedCopyOut mem r a = mem a := by
  unfold dispatchCompletedCopyOut
  cases hw : r.writeback with
  | none => rfl
  | some wb =>
      simp only [writeOrKeep]
      cases hwr : UserAccess.write mem wb.dst wb.data with
      | error e => rfl
      | ok p =>
          obtain ⟨n, mem'⟩ := p
          obtain ⟨rfl, rfl⟩ := UserAccess.write_ok hwr
          apply writeBytes_of_not_mem
          have := h wb hw
          simp only [List.length_take]
          omega

end

end PandaOs.Scheduler
