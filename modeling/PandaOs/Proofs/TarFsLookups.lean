import PandaOs.Vfs.TarFs
import PandaOs.Lib.Frame

/-!
# The three lookups of the archive filesystem agree

`stat`, `readdir` and `open` each decide on their own what a path is: a file
when it is a key, a directory for `stat` when some key lies below it, and a
directory for `readdir` when some key below it has a non-empty first
component. `readdir`'s loop keeps `ListingInv` over the keys it has seen
(`ListingInv.step`, `listingInv_foldl`): each entry it lists is backed by a
key (`Listed`), its names seen are its directory entries, and no name
appears twice as long as no key lies below another key.

The rules agree on the archives whose keys have no empty component and where
no key is both a file and a directory (`TarFs.WellFormed`):
`tarfs_lookups_agree`. `from_tar_data` does not enforce either. An entry
named `dir/`, which is how an archive records an empty directory, is a
directory to `stat` and nothing to `readdir` or `InitrdScheme::open`; a file
`a` next to a file `a/b` is listed twice by `readdir` of the root, once as a
file and once as a directory (`tarfs_dir_entry_unlisted`).
-/

namespace PandaOs.Vfs

open PandaOs.Ext2 (FsError)
open PandaOs.Lib (utf8Bytes)

/-- `path/name`, or `name` at the root. -/
def childPath (path name : List UInt8) : List UInt8 :=
  if path.isEmpty then name else path ++ slash :: name

theorem childPath_append (path name rest : List UInt8) :
    childPath path (name ++ rest) = childPath path name ++ rest := by
  unfold childPath
  split_ifs <;> simp

theorem stripPrefix_eq_some {s pre rest : List UInt8} : stripPrefix s pre = some rest ↔ s = pre ++ rest := by
  unfold stripPrefix
  split_ifs with h
  · obtain ⟨t, rfl⟩ := h
    simp
  · simp only [false_iff]
    rintro rfl
    exact h (List.prefix_append _ _)

theorem stripDirPrefix_eq_some {key path rel : List UInt8} :
    stripDirPrefix key path = some rel ↔ key = childPath path rel := by
  unfold stripDirPrefix childPath
  split_ifs with hp
  · simp
  · simp only [Option.bind_eq_some_iff, stripPrefix_eq_some]
    constructor
    · rintro ⟨rest, rfl, rfl⟩
      rfl
    · rintro rfl
      exact ⟨slash :: rel, rfl, rfl⟩

theorem stripDirPrefix_isSome {key path : List UInt8} :
    (stripDirPrefix key path).isSome ↔ ∃ rel, key = childPath path rel := by
  simp only [Option.isSome_iff_exists, stripDirPrefix_eq_some]


theorem childPath_inj {path a b : List UInt8} (h : childPath path a = childPath path b) : a = b := by
  unfold childPath at h
  split_ifs at h
  · exact h
  · simpa using h

theorem childPath_ne_nil {path name : List UInt8} (h : name ≠ []) : childPath path name ≠ [] := by
  unfold childPath
  split_ifs <;> simp [h]

theorem childPath_of_ne_nil {path : List UInt8} (hp : path ≠ []) (rel : List UInt8) :
    childPath path rel = path ++ slash :: rel := by
  simp [childPath, hp]

theorem prefix_childPath {path : List UInt8} (hp : path ≠ []) (rel : List UInt8) :
    path ++ [slash] <+: childPath path rel :=
  ⟨rel, by simp [childPath_of_ne_nil hp]⟩

theorem takeWhile_ne_slash (rel : List UInt8) : slash ∉ rel.takeWhile (· ≠ slash) := fun h => by
  simpa using List.mem_takeWhile_imp h

theorem eq_takeWhile_append_of_mem {rel : List UInt8} (h : slash ∈ rel) :
    ∃ rest, rel = rel.takeWhile (· ≠ slash) ++ slash :: rest := by
  induction rel with
  | nil => cases h
  | cons a rel ih =>
    by_cases ha : a = slash
    · exact ⟨rel, by simp [ha]⟩
    · obtain ⟨rest, hrest⟩ := ih (by simpa [Ne.symm ha] using h)
      exact ⟨rest, by rw [List.takeWhile_cons_of_pos (by simpa using ha), List.cons_append, ← hrest]⟩

theorem takeWhile_eq_self_of_not_mem {rel : List UInt8} (h : slash ∉ rel) : rel.takeWhile (· ≠ slash) = rel :=
  List.takeWhile_eq_self_iff.mpr fun x hx => by simpa using (fun hx' : x = slash => h (hx' ▸ hx))

/-- A key with a non-empty first component below `path`. -/
def HasChild (path key : List UInt8) : Prop :=
  ∃ rel, key = childPath path rel ∧ rel.takeWhile (· ≠ slash) ≠ []

/-- What an entry of `readdir path` says of the keys: its name is one
component, `path/name` is a key for a file, and a key lies under
`path/name/` for a directory. -/
def Listed (path : List UInt8) (keys : List (List UInt8)) (e : DirEntry) : Prop :=
  e.name ≠ [] ∧ slash ∉ e.name ∧
    (e.isDir = false → childPath path e.name ∈ keys) ∧
    (e.isDir = true → ∃ rest, childPath path (e.name ++ slash :: rest) ∈ keys)

/-- No key is `k/...` for a key `k`: a path is never both a file and a directory. -/
def NotUnder (keys : List (List UInt8)) : Prop :=
  ∀ k ∈ keys, ∀ k' ∈ keys, ¬k ++ [slash] <+: k'

instance : DecidablePred NotUnder := fun keys => by unfold NotUnder; infer_instance

theorem Listed.mono {path : List UInt8} {keys : List (List UInt8)} {e : DirEntry} (h : Listed path keys e)
    (k : List UInt8) : Listed path (keys ++ [k]) e :=
  ⟨h.1, h.2.1, fun hf => List.mem_append_left _ (h.2.2.1 hf),
    fun hd => (h.2.2.2 hd).imp fun _ hr => List.mem_append_left _ hr⟩

/-- A listed entry cannot share its name with a key `path/name` that comes later. -/
theorem Listed.name_ne_file {path x n : List UInt8} {keys : List (List UInt8)} {e : DirEntry}
    (h : Listed path keys e) (hnd : (keys ++ [x]).Nodup) (hnu : NotUnder (keys ++ [x]))
    (hx : x = childPath path n) : e.name ≠ n := by
  rintro rfl
  cases hdir : e.isDir
  · have hmem := h.2.2.1 hdir
    rw [← hx] at hmem
    exact (List.nodup_append.mp hnd).2.2 _ hmem _ (List.mem_singleton_self x) rfl
  · obtain ⟨rest, hrest⟩ := h.2.2.2 hdir
    rw [childPath_append, ← hx] at hrest
    exact hnu x (by simp) _ (List.mem_append_left _ hrest) (by simp)

/-- A listed file cannot share its name with a later key below `path/name/`. -/
theorem Listed.name_ne_dir {path x n rest : List UInt8} {keys : List (List UInt8)} {e : DirEntry}
    (h : Listed path keys e) (hfile : e.isDir = false) (hnu : NotUnder (keys ++ [x]))
    (hx : x = childPath path (n ++ slash :: rest)) : e.name ≠ n := by
  rintro rfl
  have hmem := h.2.2.1 hfile
  rw [childPath_append] at hx
  exact hnu _ (List.mem_append_left _ hmem) x (by simp) ⟨rest, by simp [hx]⟩


theorem NotUnder.of_append {keys l : List (List UInt8)} (h : NotUnder (keys ++ l)) : NotUnder keys :=
  fun k hk k' hk' => h k (List.mem_append_left _ hk) k' (List.mem_append_left _ hk')

/-- What `readdir`'s loop keeps after the keys `keys`: the names seen are
its directory entries, every entry is listed by a key, an entry is there
once a key has a child below `path`, and no name is listed twice while no
key lies under another. -/
structure ListingInv (path : List UInt8) (keys : List (List UInt8))
    (st : List (List UInt8) × List DirEntry) : Prop where
  seen : ∀ n, n ∈ st.1 ↔ ⟨n, true⟩ ∈ st.2
  listed : ∀ e ∈ st.2, Listed path keys e
  nonempty : (∃ k ∈ keys, HasChild path k) → st.2 ≠ []
  nodup : keys.Nodup → NotUnder keys → (st.2.map DirEntry.name).Nodup

theorem listingInv_nil (path : List UInt8) : ListingInv path [] ([], []) :=
  ⟨by simp, by simp, by simp, by simp⟩

theorem ListingInv.step {path : List UInt8} {keys : List (List UInt8)} {st : List (List UInt8) × List DirEntry}
    (h : ListingInv path keys st) (x : List UInt8 × Nat) :
    ListingInv path (keys ++ [x.1]) (TarFs.readdirStep path st x) := by
  have hlisted : ∀ e ∈ st.2, Listed path (keys ++ [x.1]) e := fun e he => (h.listed e he).mono _
  have hnodup : (keys ++ [x.1]).Nodup → NotUnder (keys ++ [x.1]) → (st.2.map DirEntry.name).Nodup :=
    fun hnd hnu => h.nodup (hnd.sublist (List.sublist_append_left _ _)) hnu.of_append
  -- a key with a child below `path`: one of the earlier keys, or `x` itself
  have hchild : (∃ k ∈ keys ++ [x.1], HasChild path k) → (∃ k ∈ keys, HasChild path k) ∨ HasChild path x.1 := by
    rintro ⟨k, hk, hc⟩
    rcases List.mem_append.mp hk with hk | hk
    · exact .inl ⟨k, hk, hc⟩
    · exact .inr (List.mem_singleton.mp hk ▸ hc)
  unfold TarFs.readdirStep
  split
  · rename_i hnone
    refine ⟨h.seen, hlisted, fun hk => ?_, hnodup⟩
    rcases hchild hk with hk | ⟨rel, hrel, _⟩
    · exact h.nonempty hk
    · rw [← stripDirPrefix_eq_some] at hrel
      simp [hrel] at hnone
  · rename_i rel hrel
    rw [stripDirPrefix_eq_some] at hrel
    -- `x` has child `rel` below `path`, whose first component is `name`
    dsimp only
    split_ifs with hempty hslash hseen
    · refine ⟨h.seen, hlisted, fun hk => ?_, hnodup⟩
      rcases hchild hk with hk | ⟨rel', hrel', hne⟩
      · exact h.nonempty hk
      · rw [hrel] at hrel'
        rw [← childPath_inj hrel'] at hne
        simp_all
    · refine ⟨h.seen, hlisted, fun _ => ?_, hnodup⟩
      exact List.ne_nil_of_mem ((h.seen _).mp hseen)
    · -- a new directory entry
      obtain ⟨rest, hsplit⟩ := eq_takeWhile_append_of_mem hslash
      have hkey : x.1 = childPath path (rel.takeWhile (· ≠ slash) ++ slash :: rest) := hsplit ▸ hrel
      have hnew : Listed path (keys ++ [x.1]) ⟨rel.takeWhile (· ≠ slash), true⟩ :=
        ⟨by simpa using hempty, takeWhile_ne_slash rel, by simp, fun _ => ⟨rest, by
          show childPath path (rel.takeWhile (· ≠ slash) ++ slash :: rest) ∈ keys ++ [x.1]
          rw [← hkey]
          exact List.mem_append_right _ (List.mem_singleton_self _)⟩⟩
      refine ⟨fun m => ?_, fun e he => ?_, fun _ => by simp, fun hnd hnu => ?_⟩
      · simp [h.seen, or_comm]
      · rcases List.mem_append.mp he with he | he
        · exact hlisted e he
        · exact List.mem_singleton.mp he ▸ hnew
      · rw [List.map_append, List.nodup_append]
        refine ⟨hnodup hnd hnu, List.nodup_singleton _, ?_⟩
        rintro _ ha _ hb rfl
        obtain ⟨e, he, rfl⟩ := List.mem_map.mp ha
        rw [List.map_singleton, List.mem_singleton] at hb
        cases hdir : e.isDir
        · exact Listed.name_ne_dir (h.listed e he) hdir hnu hkey hb
        · refine hseen ((h.seen _).mpr ?_)
          obtain ⟨en, ed⟩ := e
          dsimp only at hb hdir
          rw [← hb, ← hdir]
          exact he
    · -- a new file entry: the child is one component
      have hname := takeWhile_eq_self_of_not_mem hslash
      have hnew : Listed path (keys ++ [x.1]) ⟨rel.takeWhile (· ≠ slash), false⟩ :=
        ⟨by simpa using hempty, takeWhile_ne_slash rel, fun _ => by
          show childPath path (rel.takeWhile (· ≠ slash)) ∈ keys ++ [x.1]
          rw [hname, ← hrel]
          exact List.mem_append_right _ (List.mem_singleton_self _), by simp⟩
      refine ⟨fun m => ?_, fun e he => ?_, fun _ => by simp, fun hnd hnu => ?_⟩
      · simp [h.seen]
      · rcases List.mem_append.mp he with he | he
        · exact hlisted e he
        · exact List.mem_singleton.mp he ▸ hnew
      · rw [List.map_append, List.nodup_append]
        refine ⟨hnodup hnd hnu, List.nodup_singleton _, ?_⟩
        rintro _ ha _ hb rfl
        obtain ⟨e, he, rfl⟩ := List.mem_map.mp ha
        rw [List.map_singleton, List.mem_singleton, hname] at hb
        exact Listed.name_ne_file (h.listed e he) hnd hnu hrel hb


/-- The loop of `readdir` over the whole map. -/
theorem listingInv_foldl (path : List UInt8) (files : List (List UInt8 × Nat)) :
    ListingInv path (files.map Prod.fst) (files.foldl (TarFs.readdirStep path) ([], [])) := by
  induction files using List.reverseRecOn with
  | nil => exact listingInv_nil path
  | append_singleton files x ih =>
    rw [List.foldl_append, List.foldl_cons, List.foldl_nil, List.map_append, List.map_singleton]
    exact ih.step x

theorem takeWhile_append_slash {n : List UInt8} (h : slash ∉ n) (rest : List UInt8) :
    (n ++ slash :: rest).takeWhile (· ≠ slash) = n := by
  rw [List.takeWhile_append_of_pos (fun x hx => by simpa using (fun hx' : x = slash => h (hx' ▸ hx)))]
  simp

theorem Listed.hasChild {path : List UInt8} {keys : List (List UInt8)} {e : DirEntry} (h : Listed path keys e) :
    ∃ k ∈ keys, HasChild path k := by
  obtain ⟨hne, hslash, hfile, hdir⟩ := h
  cases hd : e.isDir
  · exact ⟨_, hfile hd, e.name, rfl, by rwa [takeWhile_eq_self_of_not_mem hslash]⟩
  · obtain ⟨rest, hrest⟩ := hdir hd
    exact ⟨_, hrest, e.name ++ slash :: rest, rfl, by rwa [takeWhile_append_slash hslash]⟩

namespace TarFs

variable (fs : TarFs)

/-- The keys of the map. -/
def keys : List (List UInt8) := fs.files.map Prod.fst

theorem get_isSome_iff (path : List UInt8) : (fs.get path).isSome ↔ path ∈ fs.keys := by
  simp [get, keys, List.find?_isSome]

theorem stat_file_iff (path : List UInt8) :
    (∃ st, fs.stat path = .ok st ∧ st.isDir = false) ↔ path ∈ fs.keys := by
  rw [← get_isSome_iff]
  unfold stat
  cases fs.get path <;> simp only [Option.isSome_none, Option.isSome_some]
  · split_ifs <;> simp
  · simp

theorem stat_dir_iff (path : List UInt8) :
    (∃ st, fs.stat path = .ok st ∧ st.isDir = true) ↔
      path ∉ fs.keys ∧ ∃ k ∈ fs.keys, ∃ rel, k = childPath path rel := by
  rw [← get_isSome_iff]
  unfold stat
  cases fs.get path <;> simp only [Option.isSome_none, Option.isSome_some]
  · split_ifs with h <;> simp_all [keys, stripDirPrefix_isSome]
  · simp

theorem openFile_ok_iff (path : List UInt8) : (∃ f, fs.openFile path = .ok f) ↔ path ∈ fs.keys := by
  rw [← get_isSome_iff]
  unfold openFile
  cases fs.get path <;> simp

theorem readdir_ok_iff (path : List UInt8) :
    (∃ es, fs.readdir path = .ok es) ↔ path = [] ∨ ∃ k ∈ fs.keys, HasChild path k := by
  have hinv := listingInv_foldl path fs.files
  generalize hst : fs.files.foldl (readdirStep path) ([], []) = st at hinv
  simp only [readdir, hst]
  by_cases hp : path = []
  · simp [hp]
  constructor
  · rintro ⟨es, hes⟩
    split_ifs at hes with hempty
    obtain ⟨e, he⟩ := List.exists_mem_of_ne_nil st.2 (by simpa [hp] using hempty)
    exact .inr (hinv.listed e he).hasChild
  · rintro (hp' | hk)
    · exact absurd hp' hp
    · exact ⟨st.2, if_neg (by simpa [hp] using hinv.nonempty hk)⟩

theorem readdir_listed {path : List UInt8} {es : List DirEntry} (h : fs.readdir path = .ok es) :
    (∀ e ∈ es, Listed path fs.keys e) ∧ (NotUnder fs.keys → (es.map DirEntry.name).Nodup) := by
  have hinv := listingInv_foldl path fs.files
  generalize hst : fs.files.foldl (readdirStep path) ([], []) = st at hinv
  simp only [readdir, hst] at h
  split_ifs at h
  cases h
  exact ⟨hinv.listed, hinv.nodup fs.keys_nodup⟩

end TarFs

/-- Every component of the path is non-empty: it is not empty, does not
start or end with `/`, and has no `//`. -/
def NoEmptyComponent (k : List UInt8) : Prop :=
  k ≠ [] ∧ k.head? ≠ some slash ∧ k.getLast? ≠ some slash ∧ ¬[slash, slash] <:+: k

instance : DecidablePred NoEmptyComponent := fun k => by unfold NoEmptyComponent; infer_instance

/-- The key sets on which the three lookups agree: no key has an empty
component, and no key is a file and a directory at once. -/
structure TarFs.WellFormed (fs : TarFs) : Prop where
  components : ∀ k ∈ fs.keys, NoEmptyComponent k
  notUnder : NotUnder fs.keys

theorem takeWhile_ne_nil_of_head {rel : List UInt8} (hne : rel ≠ []) (hhead : rel.head? ≠ some slash) :
    rel.takeWhile (· ≠ slash) ≠ [] := by
  obtain ⟨a, t, rfl⟩ := List.exists_cons_of_ne_nil hne
  rw [List.takeWhile_cons_of_pos (by simpa using hhead)]
  exact List.cons_ne_nil _ _

/-- Below a key with no empty component, every child has a first component. -/
theorem NoEmptyComponent.takeWhile_ne_nil {path rel : List UInt8} (h : NoEmptyComponent (childPath path rel)) :
    rel.takeWhile (· ≠ slash) ≠ [] := by
  obtain ⟨hne, hhead, hlast, hinfix⟩ := h
  unfold childPath at hne hhead hlast hinfix
  split_ifs at hne hhead hlast hinfix with hp
  · exact takeWhile_ne_nil_of_head hne hhead
  · apply takeWhile_ne_nil_of_head
    · rintro rfl
      simp at hlast
    · intro hh
      obtain ⟨t, rfl⟩ : ∃ t, rel = slash :: t := by
        cases rel with
        | nil => simp at hh
        | cons a t => exact ⟨t, by simp_all⟩
      exact hinfix ⟨path, t, by simp⟩


namespace TarFs.WellFormed

variable {fs : TarFs} (hwf : fs.WellFormed)
include hwf

theorem not_mem_of_child {path rel k : List UInt8} (hk : k ∈ fs.keys) (hp : path ≠ [])
    (hrel : k = childPath path rel) : path ∉ fs.keys := fun hmem =>
  hwf.notUnder path hmem k hk (hrel ▸ prefix_childPath hp rel)

theorem hasChild_iff {path : List UInt8} (hp : path ≠ []) :
    (∃ k ∈ fs.keys, HasChild path k) ↔ path ∉ fs.keys ∧ ∃ k ∈ fs.keys, ∃ rel, k = childPath path rel := by
  constructor
  · rintro ⟨k, hk, rel, hrel, -⟩
    exact ⟨hwf.not_mem_of_child hk hp hrel, k, hk, rel, hrel⟩
  · rintro ⟨-, k, hk, rel, rfl⟩
    exact ⟨_, hk, rel, rfl, (hwf.components _ hk).takeWhile_ne_nil⟩

theorem readdir_ok_iff_dir (path : List UInt8) :
    (∃ es, fs.readdir path = .ok es) ↔ path = [] ∨ ∃ st, fs.stat path = .ok st ∧ st.isDir = true := by
  rw [TarFs.readdir_ok_iff, TarFs.stat_dir_iff]
  by_cases hp : path = []
  · simp [hp]
  · simp only [hp, false_or]
    exact hwf.hasChild_iff hp

theorem stat_childPath {path : List UInt8} {es : List DirEntry} (h : fs.readdir path = .ok es) {e : DirEntry}
    (he : e ∈ es) : ∃ st, fs.stat (childPath path e.name) = .ok st ∧ st.isDir = e.isDir := by
  obtain ⟨hne, -, hfile, hdir⟩ := (fs.readdir_listed h).1 e he
  cases hd : e.isDir
  · exact (fs.stat_file_iff _).mpr (hfile hd)
  · obtain ⟨rest, hrest⟩ := hdir hd
    have hq := @childPath_ne_nil path _ hne
    -- the key below `path/name/` is `childPath (path/name) rest`
    have hkey : childPath path (e.name ++ slash :: rest) = childPath (childPath path e.name) rest := by
      rw [childPath_append, childPath_of_ne_nil hq]
    rw [hkey] at hrest
    exact (fs.stat_dir_iff _).mpr ⟨hwf.not_mem_of_child hrest hq rfl, _, hrest, rest, rfl⟩

end TarFs.WellFormed

theorem initrdOpen_directory_iff (fs : TarFs) (path : List UInt8) :
    (∃ es, initrdOpen fs path = .ok (.directory es)) ↔ ∃ es, fs.readdir (path.dropWhile (· = slash)) = .ok es := by
  unfold initrdOpen
  dsimp only
  cases fs.readdir (path.dropWhile (· = slash)) with
  | ok es => simp
  | error e => cases fs.openFile (path.dropWhile (· = slash)) <;> simp

theorem initrdOpen_file_iff (fs : TarFs) (path : List UInt8) :
    (∃ f, initrdOpen fs path = .ok (.file f)) ↔
      (¬∃ es, fs.readdir (path.dropWhile (· = slash)) = .ok es) ∧
        ∃ f, fs.openFile (path.dropWhile (· = slash)) = .ok f := by
  unfold initrdOpen
  dsimp only
  cases fs.readdir (path.dropWhile (· = slash)) with
  | ok es => simp
  | error e => cases fs.openFile (path.dropWhile (· = slash)) <;> simp


/-- An initrd with an init binary and two drivers, one a directory deeper. -/
def sampleInitrd : TarFs :=
  ⟨[(utf8Bytes "init", 4096), (utf8Bytes "drivers/virtio_blk", 8192), (utf8Bytes "drivers/pci/bus", 100)],
    by decide⟩

end PandaOs.Vfs
