import PandaOs.Vfs.Path

/-!
# The initrd's archive filesystem

`TarFs` keeps the archive's regular files in a `BTreeMap` from path to data,
and stores no directories: `stat` calls a path a directory when some key
lies under it, `readdir` lists the first component below the path of every
key under it, and `open` looks the path up as a key.

`from_tar_data` keys each entry by its name with every leading `./`
trimmed, and skips empty names and names with a `.` or `..` component. The
archive itself is parsed by `tar_no_std`; the model starts from the entries
it yields, each name as bytes (`none` when it is not UTF-8) with the length
of its data. The map is its list of entries with distinct keys; a key
inserted again keeps its place. Iteration in key order only orders the
listing of `readdir`, and is not modelled.

`InitrdScheme::open` strips leading `/`s, tries `readdir` and then `open`.
-/

namespace PandaOs.Vfs

open PandaOs.Ext2 (FsError)

/-- `TarFsError`. -/
inductive TarFsError where
  | invalidArchive
  | invalidFilename
  deriving DecidableEq, Repr

/-- `TarFs`: its `BTreeMap` from path to data length, as a list of entries
with distinct keys. -/
structure TarFs where
  files : List (List UInt8 × Nat)
  keys_nodup : (files.map Prod.fst).Nodup

/-- `BTreeMap::insert`: a key already present takes the new length in place. -/
def insertFile (key : List UInt8) (len : Nat) (files : List (List UInt8 × Nat)) : List (List UInt8 × Nat) :=
  if files.any (·.1 = key) then files.map fun e => if e.1 = key then (key, len) else e
  else files ++ [(key, len)]

theorem map_fst_insertFile (key : List UInt8) (len : Nat) (files : List (List UInt8 × Nat)) :
    (insertFile key len files).map Prod.fst =
      if files.any (·.1 = key) then files.map Prod.fst else files.map Prod.fst ++ [key] := by
  unfold insertFile
  split_ifs
  · simp only [List.map_map]
    congr 1
    funext e
    by_cases h : e.1 = key <;> simp [h]
  · simp

namespace TarFs

/-- An empty map. -/
def empty : TarFs := ⟨[], List.nodup_nil⟩

/-- Insert `key` with data length `len`. -/
def insert (fs : TarFs) (key : List UInt8) (len : Nat) : TarFs :=
  ⟨insertFile key len fs.files, by
    rw [map_fst_insertFile]
    split_ifs with h
    · exact fs.keys_nodup
    · refine List.nodup_append.mpr ⟨fs.keys_nodup, List.nodup_singleton _, ?_⟩
      simp only [List.any_eq_true, decide_eq_true_eq, not_exists, not_and] at h
      intro a ha b hb heq
      obtain ⟨e, he, rfl⟩ := List.mem_map.mp ha
      exact h e he (heq.trans (List.mem_singleton.mp hb))⟩

end TarFs

/-- `str::trim_start_matches("./")`. -/
def trimStartDotSlash : List UInt8 → List UInt8
  | a :: b :: rest => if a = dot ∧ b = slash then trimStartDotSlash rest else a :: b :: rest
  | name => name

/-- One entry of `from_tar_data`'s loop. -/
def addEntry (fs : TarFs) (entry : Option (List UInt8) × Nat) : Except TarFsError TarFs := do
  let name ← match entry.1 with
    | some name => pure name
    | none => throw .invalidFilename
  if name.isEmpty then return fs
  let normalized := trimStartDotSlash name
  -- defence in depth: no `.` or `..` component
  if (normalized.splitOn slash).any fun c => c = [dot, dot] ∨ c = [dot] then return fs
  pure (fs.insert normalized entry.2)

/-- `TarFs::from_tar_data`, over the entries the archive yields. -/
def fromTarData (entries : List (Option (List UInt8) × Nat)) : Except TarFsError TarFs :=
  entries.foldlM addEntry TarFs.empty

/-- `FileStat`. -/
structure FileStat where
  size : Nat
  isDir : Bool
  mode : Nat
  inode : Nat
  nlinks : Nat
  mtime : Nat
  ctime : Nat
  atime : Nat
  deriving DecidableEq, Repr

/-- `DirEntry` of the VFS. -/
structure DirEntry where
  name : List UInt8
  isDir : Bool
  deriving DecidableEq, Repr

/-- `TarFile`: the length of its data and the position. -/
structure TarFile where
  len : Nat
  pos : Nat
  deriving DecidableEq, Repr

/-- `str::strip_prefix`. -/
def stripPrefix (s pre : List UInt8) : Option (List UInt8) :=
  if pre <+: s then some (s.drop pre.length) else none

/-- `strip_dir_prefix`: what follows `path/` in `key`; all of it at the root. -/
def stripDirPrefix (key path : List UInt8) : Option (List UInt8) :=
  if path.isEmpty then some key
  else (stripPrefix key path).bind fun rest => stripPrefix rest [slash]

namespace TarFs

/-- `BTreeMap::get`. -/
def get (fs : TarFs) (path : List UInt8) : Option Nat :=
  (fs.files.find? (·.1 = path)).map (·.2)

/-- `Filesystem::open` of `TarFs`. -/
def openFile (fs : TarFs) (path : List UInt8) : Except FsError TarFile :=
  match fs.get path with
  | some len => .ok ⟨len, 0⟩
  | none => .error .notFound

/-- `Filesystem::stat` of `TarFs`. -/
def stat (fs : TarFs) (path : List UInt8) : Except FsError FileStat :=
  match fs.get path with
  | some len => .ok ⟨len, false, 0o644, 0, 1, 0, 0, 0⟩
  | none =>
      -- a directory: any key lives under this path
      if fs.files.any fun e => (stripDirPrefix e.1 path).isSome then .ok ⟨0, true, 0o755, 0, 1, 0, 0, 0⟩
      else .error .notFound

/-- One key of `readdir`'s loop, over the directory names seen and the entries so far. -/
def readdirStep (path : List UInt8) (st : List (List UInt8) × List DirEntry) (file : List UInt8 × Nat) :
    List (List UInt8) × List DirEntry :=
  match stripDirPrefix file.1 path with
  | none => st
  | some relative =>
      let name := relative.takeWhile (· ≠ slash)
      if name.isEmpty then st
      else if slash ∈ relative then
        if name ∈ st.1 then st else (name :: st.1, st.2 ++ [⟨name, true⟩])
      else (st.1, st.2 ++ [⟨name, false⟩])

/-- `Filesystem::readdir` of `TarFs`. -/
def readdir (fs : TarFs) (path : List UInt8) : Except FsError (List DirEntry) :=
  let entries := (fs.files.foldl (readdirStep path) ([], [])).2
  if entries.isEmpty ∧ !path.isEmpty then .error .notFound else .ok entries

end TarFs

/-- `OpenError`. -/
inductive OpenError where
  | notFound
  | busy
  deriving DecidableEq, Repr

/-- What `InitrdScheme::open` hands out: a directory resource with its
entries, or a file resource. -/
inductive InitrdResource where
  | directory (entries : List DirEntry)
  | file (file : TarFile)
  deriving DecidableEq, Repr

/-- `InitrdScheme::open`. -/
def initrdOpen (fs : TarFs) (path : List UInt8) : Except OpenError InitrdResource :=
  let path := path.dropWhile (· = slash)
  match fs.readdir path with
  | .ok entries => .ok (.directory entries)
  | .error _ =>
      match fs.openFile path with
      | .ok file => .ok (.file file)
      | .error _ => .error .notFound

end PandaOs.Vfs
