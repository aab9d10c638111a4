import Mathlib

/-!
# The scheduler's run queues

The scheduler files every schedulable entity, a process or a kernel task,
in one of three heaps, keyed by state: `Runnable`, `Running`, `Blocked`.
An entry is the entity with the time it was last scheduled, and a heap pops
its least recently scheduled entry first (`Reverse<RTC>`; ties go to the
greater entity). Processes also carry their state in the process table,
and `change_state` moves a process's entry from the heap of its old state
to the heap of its new one. Kernel tasks have no such record:
`change_kernel_task_state` removes the task from every heap and pushes it
onto the one asked for, whether or not the task still exists.

`prepare_next_runnable` asserts that the `Running` heap is empty, pops the
next runnable entity and files it as running. What happens next is the
dispatch: a process whose syscall is still pending is blocked, and a kernel
task is polled once by the executor, which removes it on completion; on
`Completed` the scheduler removes the task, on `Pending` it blocks it, and
on `NotFound` it does nothing. Deadlines are a list of `(deadline, entity)`
pairs; `wake_deadline_tasks` collects the expired ones in deadline order
and makes each runnable again, a process only if it is still blocked.

`RTC::now()` is a clock in the state that no operation here advances: the
order of the heaps only matters through which entry pops first.
-/

namespace PandaOs.Scheduler

/-- `SchedulableEntity`. -/
inductive SchedulableEntity where
  | process (pid : Nat)
  | kernelTask (taskId : Nat)
  deriving DecidableEq, Repr

/-- The derived `Ord` of `SchedulableEntity`: processes first, then by id. -/
def SchedulableEntity.lt : SchedulableEntity → SchedulableEntity → Bool
  | .process a, .process b => a < b
  | .process _, .kernelTask _ => true
  | .kernelTask _, .process _ => false
  | .kernelTask a, .kernelTask b => a < b

/-- `ProcessState`. -/
inductive ProcessState where
  | Runnable
  | Running
  | Blocked
  deriving DecidableEq, Repr

/-- What the scheduler reads of a `Process`. -/
structure Proc where
  state : ProcessState
  lastScheduled : Nat
  deriving DecidableEq, Repr

/-- A heap entry: the time last scheduled and the entity. -/
abbrev Entry := Nat × SchedulableEntity

/-- Whether `a` pops before `b` from a `BinaryHeap<(Reverse<RTC>, _)>`:
the earlier time, and for equal times the greater entity. -/
def Entry.before (a b : Entry) : Bool :=
  a.1 < b.1 || (a.1 == b.1 && b.2.lt a.2)

/-- `BinaryHeap::pop`. -/
def heapPop : List Entry → Option (Entry × List Entry)
  | [] => none
  | x :: rest =>
      let best := rest.foldl (fun m y => if Entry.before y m then y else m) x
      some (best, (x :: rest).erase best)

/-- `DeadlineTracker::collect_expired`: the entities whose deadline has
passed, in deadline order and, for one deadline, in registration order; and
the deadlines left. -/
def collectExpired (deadlines : List (Nat × SchedulableEntity)) (nowMs : Nat) :
    List SchedulableEntity × List (Nat × SchedulableEntity) :=
  (((deadlines.filter fun d => d.1 ≤ nowMs).insertionSort fun a b => a.1 ≤ b.1).map Prod.snd,
    deadlines.filter fun d => ¬ d.1 ≤ nowMs)

/-- `Scheduler`, with the executor's set of live kernel tasks. -/
structure Sched where
  processes : AList (fun _ : Nat => Proc)
  heaps : ProcessState → List Entry
  current : SchedulableEntity
  kernelTaskRtc : AList (fun _ : Nat => Nat)
  deadlines : List (Nat × SchedulableEntity)
  now : Nat
  tasks : List Nat

namespace Sched

/-- `remove_from_state`. -/
def removeFromState (s : Sched) (state : ProcessState) (entity : SchedulableEntity) : Sched :=
  { s with heaps := Function.update s.heaps state ((s.heaps state).filter fun e => e.2 ≠ entity) }

/-- `add_to_state`. -/
def addToState (s : Sched) (state : ProcessState) (entity : SchedulableEntity)
    (lastScheduled : Nat) : Sched :=
  { s with heaps := Function.update s.heaps state (s.heaps state ++ [(lastScheduled, entity)]) }

/-- `remove_from_state` for all three states, as the loops do. -/
def removeFromAll (s : Sched) (entity : SchedulableEntity) : Sched :=
  ((s.removeFromState .Runnable entity).removeFromState .Running entity).removeFromState .Blocked
    entity

/-- `update_process`. -/
def updateProcess (s : Sched) (pid : Nat) : Sched :=
  match s.processes.lookup pid with
  | none => s
  | some p => (s.removeFromAll (.process pid)).addToState p.state (.process pid) p.lastScheduled

/-- `Scheduler::add` of a new process, which starts `Runnable` and never
scheduled. -/
def add (s : Sched) (pid : Nat) : Sched :=
  { s with processes := s.processes.insert pid ⟨.Runnable, 0⟩ }.updateProcess pid

/-- `change_state`: `false` when the process is gone. -/
def changeState (s : Sched) (pid : Nat) (state : ProcessState) : Bool × Sched :=
  match s.processes.lookup pid with
  | none => (false, s)
  | some p =>
      let s := { s with processes := s.processes.insert pid { p with state := state } }
      (true, (s.removeFromState p.state (.process pid)).addToState state (.process pid)
        p.lastScheduled)

/-- `remove_process`. -/
def removeProcess (s : Sched) (pid : Nat) : Sched :=
  { s.removeFromAll (.process pid) with processes := s.processes.erase pid }

/-- `add_kernel_task`. -/
def addKernelTask (s : Sched) (taskId : Nat) : Sched :=
  { s with kernelTaskRtc := s.kernelTaskRtc.insert taskId s.now }.addToState .Runnable
    (.kernelTask taskId) s.now

/-- `change_kernel_task_state`: no check that the task exists. -/
def changeKernelTaskState (s : Sched) (taskId : Nat) (state : ProcessState) : Sched :=
  let rtc := (s.kernelTaskRtc.lookup taskId).getD s.now
  (s.removeFromAll (.kernelTask taskId)).addToState state (.kernelTask taskId) rtc

/-- `remove_kernel_task`. -/
def removeKernelTask (s : Sched) (taskId : Nat) : Sched :=
  { s.removeFromAll (.kernelTask taskId) with
    kernelTaskRtc := s.kernelTaskRtc.erase taskId }

/-- `register_deadline`. -/
def registerDeadline (s : Sched) (entity : SchedulableEntity) (deadlineMs : Nat) : Sched :=
  { s with deadlines := s.deadlines ++ [(deadlineMs, entity)] }

/-- The waking loop of `wake_deadline_tasks`. -/
def wakeEntities (s : Sched) : List SchedulableEntity → Sched
  | [] => s
  | .kernelTask taskId :: rest => (s.changeKernelTaskState taskId .Runnable).wakeEntities rest
  | .process pid :: rest =>
      -- only a process that is still blocked
      match s.processes.lookup pid with
      | some p =>
          if p.state = .Blocked then ((s.changeState pid .Runnable).2).wakeEntities rest
          else s.wakeEntities rest
      | none => s.wakeEntities rest

/-- `wake_deadline_tasks`. -/
def wakeDeadlineTasks (s : Sched) (nowMs : Nat) : Sched :=
  { s with deadlines := (collectExpired s.deadlines nowMs).2 }.wakeEntities
    (collectExpired s.deadlines nowMs).1

/-- The loop of `prepare_next_runnable`, popping at most `fuel` entries. -/
def pickRunnable (s : Sched) : Nat → Option SchedulableEntity × Sched
  | 0 => (none, s)
  | fuel + 1 =>
      match heapPop (s.heaps .Runnable) with
      | none => (none, s)
      | some ((_, entity), rest) =>
          let s := { s with heaps := Function.update s.heaps .Runnable rest }
          match entity with
          | .process pid =>
              match s.processes.lookup pid with
              -- a stale entry of a removed process is skipped
              | none => s.pickRunnable fuel
              | some p =>
                  let s := { s with processes := s.processes.insert pid { p with lastScheduled := s.now } }
                  (some entity, { (s.changeState pid .Running).2 with current := entity })
          | .kernelTask taskId =>
              let s := { s with kernelTaskRtc := s.kernelTaskRtc.insert taskId s.now }
              let s := (s.removeFromState .Runnable entity).addToState .Running entity s.now
              (some entity, { s with current := entity })

/-- `prepare_next_runnable`; `none` when its assertion fails. Each pass of
the loop pops an entry, so the heap's length bounds it. -/
def prepareNextRunnable (s : Sched) : Option (Option SchedulableEntity × Sched) :=
  if (s.heaps .Running).isEmpty then some (s.pickRunnable (s.heaps .Runnable).length)
  else none

/-- `dispatch_kernel_task`: the executor polls the task if it still has it;
`done` says whether the poll completes it. -/
def dispatchKernelTask (s : Sched) (taskId : Nat) (done : Bool) : Sched :=
  if taskId ∈ s.tasks then
    if done then { s.removeKernelTask taskId with tasks := s.tasks.erase taskId }
    else s.changeKernelTaskState taskId .Blocked
  else s  -- `NotFound`: the task was already removed

end Sched

/-- The scheduler's steps. `schedule` is one pass of `exec_next_runnable`:
`prepare_next_runnable` and then the dispatch, where `blocks` says whether a
picked process's pending syscall stays pending and `done` whether a picked
kernel task completes. -/
inductive SchedOp where
  | add (pid : Nat)
  | changeState (pid : Nat) (state : ProcessState)
  | schedule (blocks done : Bool)
  | removeProcess (pid : Nat)
  | spawn (taskId : Nat)
  | changeKernelTaskState (taskId : Nat) (state : ProcessState)
  | removeKernelTask (taskId : Nat)
  | registerDeadline (entity : SchedulableEntity) (deadlineMs : Nat)
  | wakeDeadlineTasks (nowMs : Nat)
  deriving DecidableEq, Repr

namespace Sched

/-- One step; `none` once the assertion of `prepare_next_runnable` has
failed and the kernel has panicked. -/
def step (s : Sched) : SchedOp → Option Sched
  | .add pid => some (s.add pid)
  | .changeState pid state => some (s.changeState pid state).2
  | .schedule blocks done =>
      match s.prepareNextRunnable with
      | none => none
      | some (some (.process pid), s) =>
          some (if blocks then (s.changeState pid .Blocked).2 else s)
      | some (some (.kernelTask taskId), s) => some (s.dispatchKernelTask taskId done)
      | some (none, s) => some s
  | .removeProcess pid => some (s.removeProcess pid)
  | .spawn taskId => some { s.addKernelTask taskId with tasks := s.tasks ++ [taskId] }
  | .changeKernelTaskState taskId state => some (s.changeKernelTaskState taskId state)
  | .removeKernelTask taskId => some (s.removeKernelTask taskId)
  | .registerDeadline entity deadlineMs => some (s.registerDeadline entity deadlineMs)
  | .wakeDeadlineTasks nowMs => some (s.wakeDeadlineTasks nowMs)

/-- `Scheduler::new(init)`. -/
def new (initPid : Nat) : Sched :=
  (⟨∅, fun _ => [], .process initPid, ∅, [], 0, []⟩ : Sched).add initPid

/-- A run from `Scheduler::new(init)`; `none` after a panic. -/
def run (initPid : Nat) (ops : List SchedOp) : Option Sched :=
  ops.foldlM step (new initPid)

/-- Whether some heap holds an entry for the kernel task. -/
def queuesTask (s : Sched) (taskId : Nat) : Bool :=
  [ProcessState.Runnable, .Running, .Blocked].any fun st =>
    (s.heaps st).any fun e => e.2 = .kernelTask taskId

end Sched

/-- Process 1 blocks; kernel task 0 is spawned and registers a deadline at
10 ms; it is scheduled and completes before the deadline, so the scheduler
and the executor remove it; the deadline then expires. -/
def staleDeadlineRun : List SchedOp :=
  [.changeState 1 .Blocked, .spawn 0, .registerDeadline (.kernelTask 0) 10,
    .schedule false true, .wakeDeadlineTasks 10]

/-- After that run the removed task is queued as runnable again. It is
picked next, the executor no longer has it, and the `NotFound` dispatch
leaves it in the `Running` heap, so the following `prepare_next_runnable`
fails its assertion. -/
theorem removed_task_requeued_by_deadline :
    ((Sched.run 1 staleDeadlineRun).map fun s => (s.heaps .Runnable, s.tasks)) =
        some ([(0, .kernelTask 0)], []) ∧
      ((Sched.run 1 (staleDeadlineRun ++ [.schedule false false])).map
        fun s => (s.heaps .Running, s.prepareNextRunnable.isNone)) =
        some ([(0, .kernelTask 0)], true) := by
  decide

end PandaOs.Scheduler
