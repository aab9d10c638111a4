import Mathlib

/-!
# The async mutex, under the cooperative executor

`AsyncMutex` keeps a `locked` flag and a queue of wakers under a spinlock.
Polling an `AsyncMutexLock` takes the lock when it is free and returns the
guard; otherwise it queues the polling task's waker and returns `Pending`.
Dropping the guard clears the flag and wakes the task of the front waker,
if any. Nothing else touches the queue: a lock future that is dropped
while pending leaves its waker queued, and one polled again while the lock
is held queues a second waker without removing its first.

The executor is modelled by what it does to lock futures: a task creates
one with `lock()`, polls it (when woken, or spuriously, whenever its
process's waker fires), drops it, or drops the guard it returned. A waker
is the id of its task, and `wake` schedules that task. Beside the executor
state a ghost records the tasks the last release woke.

Mutual exclusion holds over every interleaving (`exclusive_run`): at most
one guard is alive, and `locked` is set exactly while one is. The wake-up
a release sends is not tied to a pending future, though: a spurious
re-poll queues a second waker for the same task, the first release wakes
that task, it takes the lock, and its own release wakes it again, off the
duplicate, while another task's future stays pending with its waker
queued and nothing left to wake it (`duplicate_waker_loses_wakeup`).
-/

namespace PandaOs.Executor

/-- `Inner` of `AsyncMutex`, without the data: the flag and the queued
wakers, each the id of the task it wakes. -/
structure Inner where
  locked : Bool
  waiters : List Nat
  deriving DecidableEq, Repr

/-- `AsyncMutex::new`. -/
def Inner.new : Inner := ⟨false, []⟩

/-- `AsyncMutexLock::poll` by task `task`: `true` for `Ready`. -/
def lockPoll (inner : Inner) (task : Nat) : Bool × Inner :=
  if !inner.locked then (true, { inner with locked := true })
  else (false, { inner with waiters := inner.waiters ++ [task] })

/-- `AsyncMutexGuard::drop`: the task it wakes, if any. -/
def guardDrop (inner : Inner) : Option Nat × Inner :=
  match inner.waiters with
  | [] => (none, { inner with locked := false })
  | task :: rest => (some task, ⟨false, rest⟩)

theorem lockPoll_of_unlocked {inner : Inner} (h : inner.locked = false) (task : Nat) :
    lockPoll inner task = (true, { inner with locked := true }) := by
  obtain ⟨locked, waiters⟩ := inner
  cases h
  rfl

theorem lockPoll_of_locked {inner : Inner} (h : inner.locked = true) (task : Nat) :
    lockPoll inner task = (false, { inner with waiters := inner.waiters ++ [task] }) := by
  obtain ⟨locked, waiters⟩ := inner
  cases h
  rfl

@[simp] theorem guardDrop_locked (inner : Inner) : (guardDrop inner).2.locked = false := by
  unfold guardDrop
  split <;> rfl

/-- Where a lock future stands. -/
inductive LockPhase where
  /-- Returned by `lock()`, not yet polled. -/
  | idle
  /-- Its last poll returned `Pending`. -/
  | pending
  /-- It returned `Ready`; its guard is alive. -/
  | holding
  /-- Its guard was dropped. -/
  | released
  /-- Dropped before it was ready. -/
  | dropped
  deriving DecidableEq, Repr

/-- A lock future and the task that polls it. -/
structure LockFuture where
  task : Nat
  phase : LockPhase
  deriving DecidableEq, Repr

/-- A future the executor may still poll. -/
def LockFuture.live (f : LockFuture) : Bool :=
  f.phase = .idle || f.phase = .pending

theorem LockFuture.phase_ne_holding {f : LockFuture} (h : f.live = true) : f.phase ≠ .holding := by
  intro hp
  simp [LockFuture.live, hp] at h

/-- The mutex, the lock futures by id, and the ghost: the tasks the last
release woke. -/
structure MutexSys where
  inner : Inner
  futures : List LockFuture
  woken : List Nat
  deriving DecidableEq, Repr

/-- What the tasks do with the mutex. -/
inductive MutexOp where
  /-- `mutex.lock()` in task `task`. -/
  | lock (task : Nat)
  /-- The executor polls future `f`, woken or spuriously. -/
  | poll (f : Nat)
  /-- Future `f` is dropped. -/
  | dropLock (f : Nat)
  /-- The guard future `f` returned is dropped. -/
  | dropGuard (f : Nat)
  deriving DecidableEq, Repr

namespace MutexSys

def new : MutexSys := ⟨Inner.new, [], []⟩

/-- Future `f`, which is `fut`, moved to phase `p`. -/
def setPhase (s : MutexSys) (f : Nat) (fut : LockFuture) (p : LockPhase) : List LockFuture :=
  s.futures.set f { fut with phase := p }

/-- One step of one task. The executor polls only futures that have not
completed, and a guard is dropped only by the future that returned it. -/
def step (s : MutexSys) : MutexOp → MutexSys
  | .lock task => { s with futures := s.futures ++ [⟨task, .idle⟩] }
  | .poll f =>
      match s.futures[f]? with
      | some fut =>
          if fut.live then
            match lockPoll s.inner fut.task with
            | (true, inner) => { s with inner := inner, futures := s.setPhase f fut .holding }
            | (false, inner) => { s with inner := inner, futures := s.setPhase f fut .pending }
          else s
      | none => s
  | .dropLock f =>
      match s.futures[f]? with
      | some fut => if fut.live then { s with futures := s.setPhase f fut .dropped } else s
      | none => s
  | .dropGuard f =>
      match s.futures[f]? with
      | some fut =>
          if fut.phase = .holding then
            ⟨(guardDrop s.inner).2, s.setPhase f fut .released, (guardDrop s.inner).1.toList⟩
          else s
      | none => s

/-! Each arm of `step` read on its own. -/

section StepArms

variable (s : MutexSys)

theorem step_lock (task : Nat) : s.step (.lock task) = { s with futures := s.futures ++ [⟨task, .idle⟩] } := rfl

theorem step_poll (f : Nat) :
    s.step (.poll f) =
      match s.futures[f]? with
      | some fut =>
          if fut.live then
            match lockPoll s.inner fut.task with
            | (true, inner) => { s with inner := inner, futures := s.setPhase f fut .holding }
            | (false, inner) => { s with inner := inner, futures := s.setPhase f fut .pending }
          else s
      | none => s := rfl

theorem step_dropLock (f : Nat) :
    s.step (.dropLock f) =
      match s.futures[f]? with
      | some fut => if fut.live then { s with futures := s.setPhase f fut .dropped } else s
      | none => s := rfl

theorem step_dropGuard (f : Nat) :
    s.step (.dropGuard f) =
      match s.futures[f]? with
      | some fut =>
          if fut.phase = .holding then
            ⟨(guardDrop s.inner).2, s.setPhase f fut .released, (guardDrop s.inner).1.toList⟩
          else s
      | none => s := rfl

end StepArms

/-- A run of the tasks' steps from `AsyncMutex::new`. -/
def run (ops : List MutexOp) : MutexSys := ops.foldl step new

/-- The number of futures whose guard is alive. -/
def holders (s : MutexSys) : Nat := s.futures.countP fun f => f.phase = .holding

theorem holders_eq (s : MutexSys) : s.holders = s.futures.countP fun f => f.phase = .holding := rfl

/-! ## Mutual exclusion -/

/-- The guards alive are counted by the flag: one while it is set, none
while it is clear. -/
def Exclusive (s : MutexSys) : Prop := s.holders = if s.inner.locked then 1 else 0

theorem exclusive_iff (s : MutexSys) : s.Exclusive ↔ s.holders = if s.inner.locked then 1 else 0 := Iff.rfl

/-- Moving future `f` from `fut` to phase `p` changes the count by what the
two phases contribute. -/
theorem holders_setPhase {s : MutexSys} {f : Nat} {fut : LockFuture}
    (hf : s.futures[f]? = some fut) (p : LockPhase) :
    (s.setPhase f fut p).countP (fun g => g.phase = .holding) =
      s.holders - (if fut.phase = .holding then 1 else 0) + (if p = .holding then 1 else 0) := by
  obtain ⟨hlt, hget⟩ := List.getElem?_eq_some_iff.mp hf
  rw [setPhase, List.countP_set hlt, hget, holders_eq]
  simp

theorem Exclusive.poll {s : MutexSys} (hx : s.Exclusive) {f : Nat} {fut : LockFuture}
    (hf : s.futures[f]? = some fut) (hlive : fut.live = true) : (s.step (.poll f)).Exclusive := by
  have hnot := LockFuture.phase_ne_holding hlive
  rw [exclusive_iff] at hx ⊢
  simp only [step_poll, hf, if_pos hlive]
  cases hl : s.inner.locked with
  | false =>
      -- the lock was free, so no guard was alive; the poll makes the one
      rw [lockPoll_of_unlocked hl]
      rw [hl] at hx
      show (s.setPhase f fut .holding).countP _ = _
      rw [holders_setPhase hf, hx]
      simp [hnot]
  | true =>
      rw [lockPoll_of_locked hl]
      rw [hl] at hx
      show (s.setPhase f fut .pending).countP _ = _
      rw [holders_setPhase hf, hx]
      simp [hnot, hl]

theorem Exclusive.dropLock {s : MutexSys} (hx : s.Exclusive) {f : Nat} {fut : LockFuture}
    (hf : s.futures[f]? = some fut) (hlive : fut.live = true) : (s.step (.dropLock f)).Exclusive := by
  rw [exclusive_iff] at hx ⊢
  simp only [step_dropLock, hf, if_pos hlive]
  show (s.setPhase f fut .dropped).countP _ = _
  rw [holders_setPhase hf, hx]
  -- a live future holds no guard, so dropping it leaves the count as it was
  simp [LockFuture.phase_ne_holding hlive]

theorem Exclusive.dropGuard {s : MutexSys} (hx : s.Exclusive) {f : Nat} {fut : LockFuture}
    (hf : s.futures[f]? = some fut) (hheld : fut.phase = .holding) :
    (s.step (.dropGuard f)).Exclusive := by
  rw [exclusive_iff] at hx ⊢
  simp only [step_dropGuard, hf, if_pos hheld]
  show (s.setPhase f fut .released).countP _ = if (guardDrop s.inner).2.locked then 1 else 0
  rw [holders_setPhase hf, guardDrop_locked, hx, if_pos hheld]
  -- the guard dropped was the one alive
  split <;> simp

theorem Exclusive.step {s : MutexSys} (hx : s.Exclusive) (op : MutexOp) : (s.step op).Exclusive := by
  cases op with
  | lock task =>
      -- a new future is idle
      rw [exclusive_iff] at hx ⊢
      show (s.futures ++ [(⟨task, .idle⟩ : LockFuture)]).countP _ = if s.inner.locked then 1 else 0
      rw [List.countP_append, ← hx]
      simp [holders_eq]
  | poll f =>
      cases hf : s.futures[f]? with
      | none => simpa [exclusive_iff, step_poll, hf] using hx
      | some fut =>
          by_cases hlive : fut.live = true
          · exact hx.poll hf hlive
          · simpa [exclusive_iff, step_poll, hf, hlive] using hx
  | dropLock f =>
      cases hf : s.futures[f]? with
      | none => simpa [exclusive_iff, step_dropLock, hf] using hx
      | some fut =>
          by_cases hlive : fut.live = true
          · exact hx.dropLock hf hlive
          · simpa [exclusive_iff, step_dropLock, hf, hlive] using hx
  | dropGuard f =>
      cases hf : s.futures[f]? with
      | none => simpa [exclusive_iff, step_dropGuard, hf] using hx
      | some fut =>
          by_cases hheld : fut.phase = .holding
          · exact hx.dropGuard hf hheld
          · simpa [exclusive_iff, step_dropGuard, hf, hheld] using hx

/-- Over every interleaving of the tasks' steps, at most one guard is
alive, and the mutex is locked exactly while one is. -/
theorem exclusive_run (ops : List MutexOp) :
    (run ops).holders ≤ 1 ∧ ((run ops).inner.locked = true ↔ (run ops).holders = 1) := by
  have hx : (run ops).Exclusive := by
    unfold run
    induction ops using List.reverseRecOn with
    | nil => rfl
    | append_singleton ops op ih =>
        rw [List.foldl_append, List.foldl_cons, List.foldl_nil]
        exact ih.step op
  rw [exclusive_iff] at hx
  rw [hx]
  cases (run ops).inner.locked <;> simp

/-! ## A lost wake-up -/

/-- What the claim asks of every state: when the mutex is free and some
future is pending, the last release woke the task of a pending future. -/
def WakesPendingTask (s : MutexSys) : Prop :=
  s.inner.locked = false → (∃ f ∈ s.futures, f.phase = .pending) →
    ∃ f ∈ s.futures, f.phase = .pending ∧ f.task ∈ s.woken

instance (s : MutexSys) : Decidable s.WakesPendingTask :=
  inferInstanceAs (Decidable (_ → _ → _))

/-- Task 0 takes the lock; task 1 waits and is polled once more spuriously,
queueing its waker twice; task 2 waits. The release by task 0 wakes task 1,
which takes the lock; its release pops the duplicate and wakes task 1
again. -/
def duplicateWakerRun : List MutexOp :=
  [.lock 0, .lock 1, .lock 2, .poll 0, .poll 1, .poll 1, .poll 2, .dropGuard 0, .poll 1,
    .dropGuard 1]

/-- After that run the mutex is free, task 2's future is still pending with
its waker queued, and the last release woke only task 1, whose future has
completed. -/
theorem duplicate_waker_loses_wakeup :
    (run duplicateWakerRun).inner = ⟨false, [2]⟩ ∧
      (run duplicateWakerRun).futures[2]? = some ⟨2, .pending⟩ ∧
      (run duplicateWakerRun).woken = [1] ∧
      ¬ (run duplicateWakerRun).WakesPendingTask := by
  decide

end MutexSys

end PandaOs.Executor
