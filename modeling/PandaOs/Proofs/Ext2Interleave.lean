import PandaOs.Proofs.Ext2FileLeak
import PandaOs.Proofs.Ext2DirBlocks

/-!
# Two creates in one directory

Only the bitmaps are serialised (`alloc_lock`); a directory has no lock.
`create` awaits the block device many times, and between two awaits another
task may run. Three stretches of `create` matter here, each one atomic step
of `CreatePhase.step`: everything up to the inode allocation
(`createPrepare`), the scan of `add_dir_entry`, which reads the directory
block into a buffer (`scanForEntry`), and the write-back of that buffer with
the new entry in it, followed by the two inode writes (`createFinish`). Each
of those stretches is a sequence of await points too, so the schedules here
are some of the ones the driver can take, not all of them.

Run alone, the three steps are `create` itself (`run_create_alone`). Run
interleaved, a task whose scan read the block before another task wrote its
entry there writes back the old buffer with only its own entry in it, and
the other entry is gone (`interleaved_creates_lose_entry`). Both creates
report success, and the inode of the lost entry stays allocated with no
entry naming it.
-/

namespace PandaOs.Ext2

open PandaOs.Lib

/-- Where one `create` is: before it starts, after its inode allocation,
after its scan of the directory, or done with its result. -/
inductive CreatePhase where
  | start (path : List UInt8) (mode : Nat)
  | allocated (mode parentIno : Nat) (parentInode : Inode) (name : List UInt8) (ino : Nat)
  | scanned (mode parentIno : Nat) (parentInode : Inode) (name : List UInt8) (ino : Nat)
      (found : Option (Nat × (Nat → UInt8) × Slot))
  | done (result : Except FsError Nat)

/-- `create` from its commit on: the entry placed from the buffer the scan
read, then the new inode and the parent written. -/
def createFinish (mode parentIno : Nat) (parentInode : Inode) (name : List UInt8) (ino : Nat)
    (found : Option (Nat × (Nat → UInt8) × Slot)) : FsM Nat := do
  let (newIno, updatedParent) ← placeEntry parentInode name ino ftRegFile found
  writeInode newIno (newFileInode mode)
  writeInode parentIno updatedParent
  pure newIno

/-- One atomic stretch of a `create`. -/
def CreatePhase.step : CreatePhase → FsM CreatePhase
  | .start path mode => do
      let (parentIno, parentInode, name, ino) ← createPrepare path
      pure (.allocated mode parentIno parentInode name ino)
  | .allocated mode parentIno parentInode name ino => do
      let found ← scanForEntry parentInode name ino
      pure (.scanned mode parentIno parentInode name ino found)
  | .scanned mode parentIno parentInode name ino found => do
      let newIno ← createFinish mode parentIno parentInode name ino found
      pure (.done (.ok newIno))
  | .done result => pure (.done result)

/-- The result of a finished `create`. -/
def CreatePhase.result : CreatePhase → Option (Except FsError Nat)
  | .done result => some result
  | _ => none

/-- Tasks sharing one filesystem. -/
structure Tasks where
  fs : Ext2Fs
  tasks : List CreatePhase

/-- Task `i` runs its next stretch; an error ends it with that error. -/
def Tasks.step (s : Tasks) (i : Nat) : Tasks :=
  match s.tasks[i]? with
  | none => s
  | some t =>
      match t.step.run.run s.fs with
      | (.ok t', fs) => ⟨fs, s.tasks.set i t'⟩
      | (.error e, fs) => ⟨fs, s.tasks.set i (.done (.error e))⟩

/-- A schedule: which task runs next, step after step. -/
def Tasks.run (s : Tasks) (schedule : List Nat) : Tasks := schedule.foldl Tasks.step s

/-! ## Alone, the stretches are `create` -/

theorem addDirEntry_eq (dirIno : Nat) (dirInode : Inode) (name : List UInt8) (ino fileType : Nat) :
    addDirEntry dirIno dirInode name ino fileType =
      scanForEntry dirInode name ino >>= placeEntry dirInode name ino fileType := rfl

/-- `create` is its three stretches in a row. -/
theorem create_eq_stretches (path : List UInt8) (mode : Nat) :
    create path mode = (do
      let (parentIno, parentInode, name, ino) ← createPrepare path
      let found ← scanForEntry parentInode name ino
      let newIno ← createFinish mode parentIno parentInode name ino found
      pure (Ext2File.new (newFileInode mode) newIno)) := by
  simp only [create, addDirEntry_eq, createFinish, bind_assoc, pure_bind]

/-- The only task takes a step. -/
theorem Tasks.step_single (fs : Ext2Fs) (t : CreatePhase) :
    Tasks.step ⟨fs, [t]⟩ 0 =
      match t.step.run.run fs with
      | (.ok t', fs') => ⟨fs', [t']⟩
      | (.error e, fs') => ⟨fs', [.done (.error e)]⟩ := rfl

/-- A task running alone, three steps, ends where `create` ends, with the
number of the file `create` opens. -/
theorem run_create_alone (fs : Ext2Fs) (path : List UInt8) (mode : Nat) :
    (Tasks.run ⟨fs, [.start path mode]⟩ [0, 0, 0]).fs = ((create path mode).run.run fs).2 ∧
      ((Tasks.run ⟨fs, [.start path mode]⟩ [0, 0, 0]).tasks.map CreatePhase.result) =
        [some (((create path mode).run.run fs).1.map Ext2File.ino)] := by
  rw [create_eq_stretches]
  simp only [Tasks.run, List.foldl_cons, List.foldl_nil, run_bind]
  -- a stretch that fails ends the task with its error, and the stretches after it do nothing
  rcases h₁ : (createPrepare path).run.run fs with ⟨_ | ⟨parentIno, parentInode, name, ino⟩, fs₁⟩
  · simp only [Tasks.step_single, CreatePhase.step, run_bind, run_pure, CreatePhase.result,
      List.map_cons, List.map_nil, Except.map, true_and, h₁]
  rcases h₂ : (scanForEntry parentInode name ino).run.run fs₁ with ⟨_ | found, fs₂⟩
  · simp only [Tasks.step_single, CreatePhase.step, run_bind, run_pure, CreatePhase.result,
      List.map_cons, List.map_nil, Except.map, true_and, h₁, h₂]
  rcases h₃ : (createFinish mode parentIno parentInode name ino found).run.run fs₂ with
    ⟨_ | newIno, fs₃⟩
  · simp only [Tasks.step_single, CreatePhase.step, run_bind, run_pure, CreatePhase.result,
      List.map_cons, List.map_nil, Except.map, true_and, h₁, h₂, h₃]
  · simp only [Tasks.step_single, CreatePhase.step, run_bind, run_pure, CreatePhase.result,
      List.map_cons, List.map_nil, Except.map, true_and, h₁, h₂, h₃, Ext2File.new]

/-! ## Interleaved, an entry is lost -/

/-- `create("a")` and `create("b")` in the root directory of `smallFs`. -/
def twoCreates : Tasks := ⟨smallFs, [.start [0x61] 0o644, .start [0x62] 0o644]⟩

set_option maxRecDepth 20000 in
/-- Run one after the other, both entries are there. Interleaved so that
`a` scans, `b` runs to its end and then `a` writes back, both creates return
their inodes but `b`'s entry is gone, and `b`'s inode 13 stays allocated with
nothing naming it. -/
theorem interleaved_creates_lose_entry :
    ((findEntry rootInode [0x61]).run.run (twoCreates.run [0, 0, 0, 1, 1, 1]).fs).1 = .ok 12 ∧
      ((findEntry rootInode [0x62]).run.run (twoCreates.run [0, 0, 0, 1, 1, 1]).fs).1 = .ok 13 ∧
      (twoCreates.run [0, 0, 1, 1, 1, 0]).tasks.map CreatePhase.result = [some (.ok 12), some (.ok 13)] ∧
      ((findEntry rootInode [0x61]).run.run (twoCreates.run [0, 0, 1, 1, 1, 0]).fs).1 = .ok 12 ∧
      ((findEntry rootInode [0x62]).run.run (twoCreates.run [0, 0, 1, 1, 1, 0]).fs).1 =
        .error .notFound ∧
      getBit (blockAt (twoCreates.run [0, 0, 1, 1, 1, 0]).fs 4) 12 = true ∧
      (twoCreates.run [0, 0, 1, 1, 1, 0]).fs.freeInodesCount = 3 := by
  decide

end PandaOs.Ext2
