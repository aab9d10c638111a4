import PandaOs.Ext2.Disk

/-!
# Canonical paths and mount resolution

Every VFS call resolves its path the same way: `canonicalize` it, then pick
the mount whose path is the longest prefix of the result, and hand that
filesystem the rest of the path.

`panda_abi::path::is_canonical` accepts a path that starts with `/`, has no
empty, `.` or `..` component, and does not end with `/` unless it is `/`.
`canonicalize_path_to_buf` splits the path at `/`, drops empty and `.`
components, lets `..` pop the last kept one, and joins the rest with a
leading `/` each; it gives up on a 65th kept component and on a result
longer than the buffer. The VFS's `canonicalize` keeps a canonical path as
it is and otherwise canonicalises into 4096 bytes, falling back to `/`.

`resolve_path` scans the mount table for mount paths that are a byte prefix
of the path and are followed in it by `/` or by its end, keeps the longest
(the first among equals), and cuts the path after the mount path and the
`/` that follows it. `resolve_mount` looks the index up again and returns
the filesystem.

Paths are byte strings, as the code compares them (`as_bytes`, `/` is one
byte in UTF-8). A mount's filesystem is any value; `FsError` is the one the
ext2 model uses, which is the VFS's.
-/

namespace PandaOs.Vfs

open PandaOs.Ext2 (FsError)

/-- `/`. -/
def slash : UInt8 := 0x2F

/-- `.`. -/
def dot : UInt8 := 0x2E

/-- `path::is_canonical`. With no `/` at its end, the pieces the loop visits
after the first byte are those of `splitOn`. -/
def isCanonical (path : List UInt8) : Bool :=
  match path with
  | [] => false
  | first :: rest =>
      if first ≠ slash then false
      else if rest.isEmpty then true
      else if path.getLast? = some slash then false
      else (rest.splitOn slash).all fun c => !c.isEmpty && c != [dot] && c != [dot, dot]

/-- The size of `positions` in `canonicalize_path_to_buf`. -/
def maxComponents : Nat := 64

/-- The component loop of `canonicalize_path_to_buf`: the kept components,
or `none` when a 65th would be kept. -/
def pushComponents : List (List UInt8) → List (List UInt8) → Option (List (List UInt8))
  | stack, [] => some stack
  | stack, c :: cs =>
      if c = [dot] then pushComponents stack cs
      else if c = [dot, dot] then pushComponents stack.dropLast cs
      else if stack.length ≥ maxComponents then none
      else pushComponents (stack ++ [c]) cs

/-- Components joined, each after a `/`. -/
def joinComponents (cs : List (List UInt8)) : List UInt8 := cs.flatMap (slash :: ·)

/-- `canonicalize_path_to_buf` into a buffer of `bufLen` bytes. -/
def canonicalizePathToBuf (path : List UInt8) (bufLen : Nat) : Option (List UInt8) := do
  let comps ← pushComponents [] ((path.splitOn slash).filter fun c => !c.isEmpty)
  if comps.isEmpty then
    if bufLen = 0 then none else some [slash]
  else
    let needed := (comps.map fun c => 1 + c.length).sum
    if needed > bufLen then none else some (joinComponents comps)

/-- `canonicalize`: into a 4096-byte buffer, and `/` when that fails. -/
def canonicalize (input : List UInt8) : List UInt8 :=
  if isCanonical input then input
  else (canonicalizePathToBuf input 4096).getD [slash]

/-- `Mount`: a mount path and its filesystem. -/
structure Mount (α : Type) where
  path : List UInt8
  fs : α

/-- The test `resolve_path` makes of one mount path: a byte prefix of the
path, followed in it by `/` or by its end. -/
def matchesMount (path mountPath : List UInt8) : Bool :=
  mountPath.isPrefixOf path && (path.length == mountPath.length || path[mountPath.length]? == some slash)

/-- One step of `resolve_path`'s scan: `best` holds the length and index of
the longest match so far, and only a strictly longer match replaces it. -/
def bestMatch (path : List UInt8) (best : Option (Nat × Nat)) (m : List UInt8 × Nat) :
    Option (Nat × Nat) :=
  if matchesMount path m.1 then
    match best with
    | some (bestLen, _) => if m.1.length > bestLen then some (m.1.length, m.2) else best
    | none => some (m.1.length, m.2)
  else best

/-- `resolve_path` over the table's mount paths: the index of the mount and
the path relative to it. -/
def resolvePath (mounts : List (List UInt8)) (path : List UInt8) : Option (Nat × List UInt8) :=
  (mounts.zipIdx.foldl (bestMatch path) none).map fun best =>
    (best.2, if path.length > best.1 then path.drop (best.1 + 1) else [])

/-- `resolve_mount`. The index comes from the same table, which only grows,
so looking it up again finds the mount. -/
def resolveMount {α : Type} (mounts : List (Mount α)) (path : List UInt8) :
    Except FsError (α × List UInt8) :=
  match resolvePath (mounts.map (·.path)) (canonicalize path) with
  | some (index, relative) =>
      match mounts[index]? with
      | some m => .ok (m.fs, relative)
      | none => .error .notFound
  | none => .error .notFound

end PandaOs.Vfs
