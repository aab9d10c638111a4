import PandaOs.Vfs.Path

/-!
# Which mount a path resolves to

`resolve_path`'s scan keeps the longest mount path that passes its test
(`resolvePath_eq_some`, `resolvePath_eq_none_iff`): a byte prefix of the
path followed by `/` or by the path's end. For a mount path made of
components, `a/b` as `/a/b`, that test is exactly "its components are a
prefix of the path's" (`matchesMount_joinComponents`), and the relative
path is the path's remaining components joined by `/`
(`resolvePath_components`). `canonicalize` always returns `/` or such a
join (`canonicalize_eq_joinComponents`), so on a table of mount paths made
of components `resolve_mount` picks the mount the VFS means
(`resolveMount_components`, `resolveMount_notFound_components`).

The root mount is the exception. Its path `/` is canonical but is not made
of components the same way: the byte after the prefix `/` of `/etc` is `e`,
not `/`, so the test fails for every path but `/` itself. With `/`
mounted, `resolve_mount("/etc")` returns `NotFound`
(`root_mount_misses_paths`).
-/

namespace PandaOs.Vfs

open PandaOs.Ext2 (FsError)

/-! ## The scan keeps the longest match -/

/-- What the scan holds after the mount paths `seen`: nothing when none of
them matches, otherwise the length and index of a longest match. -/
def LongestMatch (path : List UInt8) (seen : List (List UInt8)) : Option (Nat × Nat) → Prop
  | none => ∀ m ∈ seen, matchesMount path m = false
  | some (len, i) => ∃ m, seen[i]? = some m ∧ matchesMount path m = true ∧ m.length = len ∧
      ∀ m' ∈ seen, matchesMount path m' = true → m'.length ≤ len

theorem LongestMatch.bestMatch {path : List UInt8} {seen : List (List UInt8)} {best : Option (Nat × Nat)}
    (h : LongestMatch path seen best) (m : List UInt8) :
    LongestMatch path (seen ++ [m]) (bestMatch path best (m, seen.length)) := by
  unfold Vfs.bestMatch
  by_cases hm : matchesMount path m = true
  · rw [if_pos hm]
    cases best with
    | none =>
        -- the first match
        refine ⟨m, by simp, hm, rfl, fun m' hm' hmatch => ?_⟩
        rcases List.mem_append.mp hm' with hin | hin
        · rw [h m' hin] at hmatch
          cases hmatch
        · rw [List.mem_singleton.mp hin]
    | some best =>
        obtain ⟨len, i⟩ := best
        obtain ⟨w, hw, hwm, hwl, hlong⟩ := h
        have hi : i < seen.length := (List.getElem?_eq_some_iff.mp hw).1
        simp only
        split_ifs with hgt
        · -- strictly longer: it replaces the match so far
          refine ⟨m, by simp, hm, rfl, fun m' hm' hmatch => ?_⟩
          rcases List.mem_append.mp hm' with hin | hin
          · have := hlong m' hin hmatch
            omega
          · rw [List.mem_singleton.mp hin]
        · refine ⟨w, by rw [List.getElem?_append_left hi]; exact hw, hwm, hwl, fun m' hm' hmatch => ?_⟩
          rcases List.mem_append.mp hm' with hin | hin
          · exact hlong m' hin hmatch
          · rw [List.mem_singleton.mp hin]
            omega
  · rw [if_neg hm]
    cases best with
    | none =>
        intro m' hm'
        rcases List.mem_append.mp hm' with hin | hin
        · exact h m' hin
        · rw [List.mem_singleton.mp hin]
          simpa using hm
    | some best =>
        obtain ⟨len, i⟩ := best
        obtain ⟨w, hw, hwm, hwl, hlong⟩ := h
        have hi : i < seen.length := (List.getElem?_eq_some_iff.mp hw).1
        refine ⟨w, by rw [List.getElem?_append_left hi]; exact hw, hwm, hwl, fun m' hm' hmatch => ?_⟩
        rcases List.mem_append.mp hm' with hin | hin
        · exact hlong m' hin hmatch
        · rw [List.mem_singleton.mp hin] at hmatch
          exact absurd hmatch hm

/-- The scan over the rest of the table, from what it holds after `seen`. -/
theorem longestMatch_foldl (path : List UInt8) :
    ∀ (rest seen : List (List UInt8)) (best : Option (Nat × Nat)), LongestMatch path seen best →
      LongestMatch path (seen ++ rest) ((rest.zipIdx seen.length).foldl (bestMatch path) best)
  | [], seen, best, h => by simpa using h
  | m :: rest, seen, best, h => by
      rw [List.zipIdx_cons, List.foldl_cons]
      have hstep := h.bestMatch m
      have hlen : seen.length + 1 = (seen ++ [m]).length := by simp
      rw [hlen]
      have := longestMatch_foldl path rest (seen ++ [m]) _ hstep
      simpa using this

theorem longestMatch_resolve (mounts : List (List UInt8)) (path : List UInt8) :
    LongestMatch path mounts (mounts.zipIdx.foldl (bestMatch path) none) := by
  simpa using longestMatch_foldl path mounts [] none (fun _ h => absurd h List.not_mem_nil)

/-- `resolve_path` finds nothing exactly when no mount path passes its test. -/
theorem resolvePath_eq_none_iff (mounts : List (List UInt8)) (path : List UInt8) :
    resolvePath mounts path = none ↔ ∀ m ∈ mounts, matchesMount path m = false := by
  have h := longestMatch_resolve mounts path
  unfold resolvePath
  rw [Option.map_eq_none_iff]
  constructor
  · intro hnone
    rw [hnone] at h
    exact h
  · intro hall
    -- a match found would be one of the mount paths, and none matches
    rcases hbest : mounts.zipIdx.foldl (bestMatch path) none with _ | ⟨len, i⟩
    · rfl
    · rw [hbest] at h
      obtain ⟨m, hm, hmatch, -⟩ := h
      rw [hall m (List.mem_of_getElem? hm)] at hmatch
      cases hmatch

/-- What `resolve_path` returns: the index of a longest mount path that
passes the test, and the path after it and the `/` that follows it. -/
theorem resolvePath_eq_some {mounts : List (List UInt8)} {path : List UInt8} {i : Nat}
    {relative : List UInt8} (h : resolvePath mounts path = some (i, relative)) :
    ∃ m, mounts[i]? = some m ∧ matchesMount path m = true ∧
      (∀ m' ∈ mounts, matchesMount path m' = true → m'.length ≤ m.length) ∧
      (path = m ∧ relative = [] ∨ path = m ++ slash :: relative) := by
  have hl := longestMatch_resolve mounts path
  unfold resolvePath at h
  rcases hbest : mounts.zipIdx.foldl (bestMatch path) none with _ | ⟨len, j⟩
  · rw [hbest] at h
    cases h
  rw [hbest] at h hl
  simp only [Option.map_some, Option.some.injEq, Prod.mk.injEq] at h
  obtain ⟨rfl, rfl⟩ := h
  obtain ⟨m, hm, hmatch, rfl, hlong⟩ := hl
  refine ⟨m, hm, hmatch, hlong, ?_⟩
  -- the test: `m` is a prefix, and the path ends there or goes on with `/`
  have htest := hmatch
  simp only [matchesMount, Bool.and_eq_true, Bool.or_eq_true, beq_iff_eq,
    List.isPrefixOf_iff_prefix] at htest
  obtain ⟨⟨t, rfl⟩, hend⟩ := htest
  rcases t with _ | ⟨b, t⟩
  · left
    simp
  · right
    have hb : b = slash := by
      rcases hend with hlen | hnext
      · simp at hlen
      · simpa using hnext
    subst hb
    simp

/-! ## The test on paths made of components -/

/-- The test of `resolve_path`, stated as one prefix: the mount path and a
`/` before the path and a `/`. -/
theorem matchesMount_iff (path mountPath : List UInt8) :
    matchesMount path mountPath = true ↔ mountPath ++ [slash] <+: path ++ [slash] := by
  simp only [matchesMount, Bool.and_eq_true, Bool.or_eq_true, beq_iff_eq, List.isPrefixOf_iff_prefix]
  constructor
  · rintro ⟨⟨t, rfl⟩, hend⟩
    rcases t with _ | ⟨b, t⟩
    · simp
    · have hb : b = slash := by
        rcases hend with hlen | hnext
        · simp at hlen
        · simpa using hnext
      subst hb
      exact ⟨t ++ [slash], by simp⟩
  · rintro ⟨t, ht⟩
    -- either the path stops where the mount path does, or it goes on with `/`
    rcases List.append_eq_append_iff.mp (by simpa using ht) with ⟨a, hpath, hrest⟩ | ⟨c, hmount, hslash⟩
    · rcases a with _ | ⟨b, a⟩
      · simp only [List.append_nil] at hpath
        subst hpath
        exact ⟨List.prefix_refl _, .inl rfl⟩
      · simp only [List.cons_append, List.cons.injEq] at hrest
        obtain ⟨rfl, -⟩ := hrest
        subst hpath
        exact ⟨List.prefix_append _ _, .inr (by simp)⟩
    · rcases c with _ | ⟨b, c⟩
      · simp only [List.append_nil] at hmount
        subst hmount
        exact ⟨List.prefix_refl _, .inl rfl⟩
      · -- the path goes on past the mount path, so the `/` would end nothing
        simp only [List.cons_append, List.cons.injEq] at hslash
        obtain ⟨-, hnil⟩ := hslash
        simp at hnil

/-- Components each followed by a `/`: what `joinComponents cs ++ [/]` holds
after its first byte. -/
def terminated (cs : List (List UInt8)) : List UInt8 := cs.flatMap (· ++ [slash])

@[simp] theorem terminated_nil : terminated [] = [] := rfl

@[simp] theorem terminated_cons (c : List UInt8) (cs : List (List UInt8)) :
    terminated (c :: cs) = c ++ slash :: terminated cs := by
  simp [terminated]

theorem joinComponents_append_slash (cs : List (List UInt8)) :
    joinComponents cs ++ [slash] = slash :: terminated cs := by
  induction cs with
  | nil => rfl
  | cons c cs ih =>
      simp only [joinComponents, List.flatMap_cons, List.cons_append, List.append_assoc] at ih ⊢
      rw [ih, terminated_cons]

/-- Two slash-free components followed by `/`: one is a prefix of the other
only when they are equal, the `/` of the shorter one meeting a byte of the
longer one otherwise. -/
theorem append_slash_prefix_iff {m c : List UInt8} (hm : slash ∉ m) (hc : slash ∉ c) (a b : List UInt8) :
    m ++ slash :: a <+: c ++ slash :: b ↔ m = c ∧ a <+: b := by
  induction m generalizing c with
  | nil =>
      cases c with
      | nil => simp
      | cons x c =>
          have hx : slash ≠ x := fun h => hc (h ▸ List.mem_cons_self)
          simp [hx]
  | cons y m ih =>
      have hy : y ≠ slash := fun h => hm (h ▸ List.mem_cons_self)
      cases c with
      | nil => simp [hy]
      | cons x c =>
          rw [List.cons_append, List.cons_append, List.cons_prefix_cons,
            ih (fun h => hm (List.mem_cons_of_mem y h)) (fun h => hc (List.mem_cons_of_mem x h))]
          simp [and_assoc]

theorem terminated_prefix_iff : ∀ {ms cs : List (List UInt8)}, (∀ m ∈ ms, slash ∉ m) →
    (∀ c ∈ cs, slash ∉ c) → (terminated ms <+: terminated cs ↔ ms <+: cs)
  | [], _, _, _ => by simp
  | m :: ms, [], _, _ => by simp
  | m :: ms, c :: cs, hms, hcs => by
      rw [terminated_cons, terminated_cons,
        append_slash_prefix_iff (hms m List.mem_cons_self) (hcs c List.mem_cons_self),
        terminated_prefix_iff (fun m' h => hms m' (List.mem_cons_of_mem m h))
          (fun c' h => hcs c' (List.mem_cons_of_mem c h)),
        List.cons_prefix_cons]

/-- For paths made of slash-free components, `resolve_path`'s test is the
component-wise prefix. -/
theorem matchesMount_joinComponents {ms cs : List (List UInt8)} (hms : ∀ m ∈ ms, slash ∉ m)
    (hcs : ∀ c ∈ cs, slash ∉ c) :
    matchesMount (joinComponents cs) (joinComponents ms) = true ↔ ms <+: cs := by
  rw [matchesMount_iff, joinComponents_append_slash, joinComponents_append_slash, List.prefix_cons_inj]
  exact terminated_prefix_iff hms hcs

/-! ## Resolving a path made of components -/

theorem joinComponents_append (a b : List (List UInt8)) :
    joinComponents (a ++ b) = joinComponents a ++ joinComponents b :=
  List.flatMap_append

theorem joinComponents_eq_nil {cs : List (List UInt8)} : joinComponents cs = [] ↔ cs = [] := by
  cases cs <;> simp [joinComponents]

/-- The path after the `/` that starts it: its components joined by `/`. -/
theorem append_joinComponents (c : List UInt8) :
    ∀ cs : List (List UInt8), c ++ joinComponents cs = [slash].intercalate (c :: cs)
  | [] => by simp [joinComponents]
  | c' :: cs => by
      rw [List.intercalate_cons_cons, ← append_joinComponents c' cs]
      simp [joinComponents]

/-- Of two component-wise prefixes of one path, the one that is no shorter
in bytes is no shorter in components. -/
theorem prefix_of_joinComponents_length_le {ms ms' cs : List (List UInt8)} (h : ms <+: cs)
    (h' : ms' <+: cs) (hlen : (joinComponents ms').length ≤ (joinComponents ms).length) :
    ms' <+: ms := by
  rcases List.prefix_or_prefix_of_prefix h' h with hp | ⟨t, rfl⟩
  · exact hp
  · -- `ms'` extends `ms` by components that take no bytes: none
    rw [joinComponents_append, List.length_append] at hlen
    have ht : t = [] := joinComponents_eq_nil.mp (List.eq_nil_of_length_eq_zero (by omega))
    subst ht
    simp

/-- On a table of mount paths made of slash-free components, and a path made
of them, `resolve_path` picks a mount whose components are a prefix of the
path's, extended by no other mount's, and the relative path is the path's
remaining components joined by `/`. -/
theorem resolvePath_components {tbl : List (List (List UInt8))} {cs : List (List UInt8)} {i : Nat}
    {relative : List UInt8} (htbl : ∀ ms ∈ tbl, ∀ m ∈ ms, slash ∉ m) (hcs : ∀ c ∈ cs, slash ∉ c)
    (h : resolvePath (tbl.map joinComponents) (joinComponents cs) = some (i, relative)) :
    ∃ ms, tbl[i]? = some ms ∧ ms <+: cs ∧ (∀ ms' ∈ tbl, ms' <+: cs → ms' <+: ms) ∧
      relative = [slash].intercalate (cs.drop ms.length) := by
  obtain ⟨m, hm, hmatch, hlong, hcut⟩ := resolvePath_eq_some h
  rw [List.getElem?_map, Option.map_eq_some_iff] at hm
  obtain ⟨ms, hms, rfl⟩ := hm
  have hin : ms ∈ tbl := List.mem_of_getElem? hms
  have hpre : ms <+: cs := (matchesMount_joinComponents (htbl ms hin) hcs).mp hmatch
  refine ⟨ms, hms, hpre, fun ms' hin' hpre' => ?_, ?_⟩
  · -- the scan kept a longest match in bytes
    have hmatch' := (matchesMount_joinComponents (htbl ms' hin') hcs).mpr hpre'
    exact prefix_of_joinComponents_length_le hpre hpre' (hlong _ (List.mem_map_of_mem hin') hmatch')
  · -- the path is the mount path followed by the components after it
    obtain ⟨rest, rfl⟩ := hpre
    rw [List.drop_left]
    rw [joinComponents_append] at hcut
    rcases hcut with ⟨hpath, rfl⟩ | hpath
    · have hrest : rest = [] := joinComponents_eq_nil.mp (by simpa using hpath)
      subst hrest
      rfl
    · have hj : joinComponents rest = slash :: relative := List.append_cancel_left hpath
      cases rest with
      | nil => simp [joinComponents] at hj
      | cons c rest =>
          simp only [joinComponents, List.flatMap_cons, List.cons_append, List.cons.injEq] at hj
          rw [← hj.2, ← append_joinComponents]
          rfl

/-! ## What `canonicalize` returns -/

/-- A component of a canonical path: not empty, no `/`, not `.` or `..`. -/
def IsComponent (c : List UInt8) : Prop := c ≠ [] ∧ slash ∉ c ∧ c ≠ [dot] ∧ c ≠ [dot, dot]

theorem not_mem_of_mem_splitOn {α : Type} [BEq α] [LawfulBEq α] {a : α} :
    ∀ {xs c : List α}, c ∈ xs.splitOn a → a ∉ c
  | [], c, h => by
      rw [List.splitOn_nil, List.mem_singleton] at h
      simp [h]
  | x :: xs, c, h => by
      rw [List.splitOn_cons_eq_if_modifyHead] at h
      split at h
      · rcases List.mem_cons.mp h with rfl | h
        · simp
        · exact not_mem_of_mem_splitOn h
      · -- `x` joins the first piece of the rest, and it is not the separator
        next hx =>
          obtain ⟨d, ds, hds⟩ := List.exists_cons_of_ne_nil (List.splitOn_ne_nil a xs)
          rw [hds, List.modifyHead_cons] at h
          rcases List.mem_cons.mp h with rfl | h
          · have hd : a ∉ d := not_mem_of_mem_splitOn (c := d) (by rw [hds]; exact List.mem_cons_self)
            simp only [List.mem_cons, not_or]
            exact ⟨fun hax => hx (by simp [hax]), hd⟩
          · exact not_mem_of_mem_splitOn (c := c) (by rw [hds]; exact List.mem_cons_of_mem d h)

theorem joinComponents_of_ne_nil {cs : List (List UInt8)} (h : cs ≠ []) :
    joinComponents cs = slash :: [slash].intercalate cs := by
  obtain ⟨c, cs, rfl⟩ := List.exists_cons_of_ne_nil h
  rw [← append_joinComponents]
  rfl

/-- A path `is_canonical` accepts is `/` or its components joined. -/
theorem isCanonical_eq_joinComponents {p : List UInt8} (h : isCanonical p = true) :
    p = [slash] ∨ ∃ cs, cs ≠ [] ∧ (∀ c ∈ cs, IsComponent c) ∧ p = joinComponents cs := by
  match p, h with
  | first :: rest, h =>
      simp only [isCanonical] at h
      split_ifs at h with hfirst hempty
      · left
        simp only [ne_eq, Decidable.not_not] at hfirst
        simp only [List.isEmpty_iff] at hempty
        rw [hfirst, hempty]
      · right
        simp only [ne_eq, Decidable.not_not] at hfirst
        refine ⟨rest.splitOn slash, List.splitOn_ne_nil _ _, fun c hc => ?_, ?_⟩
        · have hc' := List.all_eq_true.mp h c hc
          simp only [Bool.and_eq_true, Bool.not_eq_true', List.isEmpty_eq_false_iff, bne_iff_ne,
            ne_eq] at hc'
          exact ⟨hc'.1.1, not_mem_of_mem_splitOn hc, hc'.1.2, hc'.2⟩
        · rw [joinComponents_of_ne_nil (List.splitOn_ne_nil _ _), List.intercalate_splitOn, hfirst]

/-- The component loop keeps components: what it pushes is neither `.` nor
`..`, and comes from pieces that are not empty and hold no `/`. -/
theorem pushComponents_isComponent :
    ∀ {stack cs out : List (List UInt8)}, (∀ c ∈ stack, IsComponent c) →
      (∀ c ∈ cs, c ≠ [] ∧ slash ∉ c) → pushComponents stack cs = some out → ∀ c ∈ out, IsComponent c
  | stack, [], out, hstack, _, h => by
      rw [pushComponents, Option.some.injEq] at h
      subst h
      exact hstack
  | stack, c :: cs, out, hstack, hcs, h => by
      have hrest : ∀ c' ∈ cs, c' ≠ [] ∧ slash ∉ c' := fun c' hc' => hcs c' (List.mem_cons_of_mem c hc')
      unfold pushComponents at h
      split_ifs at h with hdot hdotdot hfull
      · exact pushComponents_isComponent hstack hrest h
      · exact pushComponents_isComponent (fun c' hc' => hstack c' (List.mem_of_mem_dropLast hc')) hrest h
      · -- a component is pushed: the piece it is made of passes every test
        refine pushComponents_isComponent (fun c' hc' => ?_) hrest h
        rcases List.mem_append.mp hc' with hin | hin
        · exact hstack c' hin
        · rw [List.mem_singleton.mp hin]
          exact ⟨(hcs c List.mem_cons_self).1, (hcs c List.mem_cons_self).2, hdot, hdotdot⟩

/-- The pieces the component loop visits: `path.split('/')` without the empty ones. -/
def components (path : List UInt8) : List (List UInt8) :=
  (path.splitOn slash).filter fun c => !c.isEmpty

/-- The pieces the loop reads are not empty and hold no `/`. -/
theorem mem_components {p c : List UInt8} (hc : c ∈ components p) : c ≠ [] ∧ slash ∉ c := by
  rw [components, List.mem_filter] at hc
  exact ⟨by simpa using hc.2, not_mem_of_mem_splitOn hc.1⟩

theorem canonicalizePathToBuf_eq (path : List UInt8) (bufLen : Nat) :
    canonicalizePathToBuf path bufLen = (pushComponents [] (components path)).bind fun comps =>
      if comps.isEmpty then (if bufLen = 0 then none else some [slash])
      else if (comps.map fun c => 1 + c.length).sum > bufLen then none else some (joinComponents comps) :=
  rfl

/-- `canonicalize` returns `/` or components joined. -/
theorem canonicalize_eq_joinComponents (p : List UInt8) :
    canonicalize p = [slash] ∨
      ∃ cs, cs ≠ [] ∧ (∀ c ∈ cs, IsComponent c) ∧ canonicalize p = joinComponents cs := by
  unfold canonicalize
  split_ifs with hc
  · exact isCanonical_eq_joinComponents hc
  · rw [canonicalizePathToBuf_eq]
    cases hpush : pushComponents [] (components p) with
    | none => simp
    | some comps =>
        have hcomps := pushComponents_isComponent (fun _ h => absurd h List.not_mem_nil)
          (fun _ hc => mem_components hc) hpush
        simp only [Option.bind_some]
        split_ifs with hempty hzero hbig
        · simp
        · simp
        · simp
        · right
          exact ⟨comps, by simpa using hempty, hcomps, rfl⟩

/-! ## `resolve_mount` -/

section ResolveMount

variable {α : Type} {mounts : List (Mount α)} {p : List UInt8}

/-- `resolve_mount` fails only where `resolve_path` finds nothing: the index
it finds is one of the table's. -/
theorem resolveMount_eq_notFound_iff :
    resolveMount mounts p = .error .notFound ↔ resolvePath (mounts.map (·.path)) (canonicalize p) = none := by
  unfold resolveMount
  split
  · next index relative hres =>
      obtain ⟨m, hm, -⟩ := resolvePath_eq_some hres
      rw [List.getElem?_map, Option.map_eq_some_iff] at hm
      obtain ⟨mount, hmount, -⟩ := hm
      simp [hmount, hres]
  · next hres =>
      simpa using hres

theorem resolveMount_eq_ok {fs : α} {relative : List UInt8}
    (h : resolveMount mounts p = .ok (fs, relative)) :
    ∃ i, (mounts[i]?).map Mount.fs = some fs ∧
      resolvePath (mounts.map (·.path)) (canonicalize p) = some (i, relative) := by
  unfold resolveMount at h
  split at h
  · next index relative' hres =>
      split at h
      · next mount hmount =>
          cases h
          exact ⟨index, by simp [hmount], hres⟩
      · cases h
  · cases h

variable {tbl : List (List (List UInt8))} {cs : List (List UInt8)}

/-- On a table of mount paths made of slash-free components, a path that
canonicalises to components resolves to a mount whose components are a
prefix of the path's, extended by no other mount's, and to the remaining
components joined by `/`. -/
theorem resolveMount_components (hpaths : mounts.map (·.path) = tbl.map joinComponents)
    (htbl : ∀ ms ∈ tbl, ∀ m ∈ ms, slash ∉ m) (hc : canonicalize p = joinComponents cs)
    (hcs : ∀ c ∈ cs, slash ∉ c) {fs : α} {relative : List UInt8}
    (h : resolveMount mounts p = .ok (fs, relative)) :
    ∃ (i : Nat) (ms : List (List UInt8)), (mounts[i]?).map Mount.fs = some fs ∧ tbl[i]? = some ms ∧ ms <+: cs ∧
      (∀ ms' ∈ tbl, ms' <+: cs → ms' <+: ms) ∧ relative = [slash].intercalate (cs.drop ms.length) := by
  obtain ⟨i, hfs, hres⟩ := resolveMount_eq_ok h
  rw [hpaths, hc] at hres
  obtain ⟨ms, hms, hpre, hlong, hrel⟩ := resolvePath_components htbl hcs hres
  exact ⟨i, ms, hfs, hms, hpre, hlong, hrel⟩

/-- Mount paths `/mnt` and `/mnt2`, as components. -/
def siblingTable : List (List (List UInt8)) := [[[0x6D, 0x6E, 0x74]], [[0x6D, 0x6E, 0x74, 0x32]]]

/-- `/mnt` and `/mnt2` mounted, in that order. -/
def siblingMounts : List (Mount Nat) := [⟨[slash, 0x6D, 0x6E, 0x74], 0⟩, ⟨[slash, 0x6D, 0x6E, 0x74, 0x32], 1⟩]

/-- `mnt2/x`. -/
def mnt2X : List (List UInt8) := [[0x6D, 0x6E, 0x74, 0x32], [0x78]]

/-- `/mnt2/x` resolves to `/mnt2`, not to its byte prefix `/mnt`, and `x`. -/
theorem resolveMount_mnt2 :
    resolveMount siblingMounts (joinComponents mnt2X) = .ok (1, [0x78]) ∧
      ∃ (i : Nat) (ms : List (List UInt8)), (siblingMounts[i]?).map Mount.fs = some 1 ∧ siblingTable[i]? = some ms ∧
        ms <+: mnt2X ∧ (∀ ms' ∈ siblingTable, ms' <+: mnt2X → ms' <+: ms) ∧
        [0x78] = [slash].intercalate (mnt2X.drop ms.length) := by
  have h : resolveMount siblingMounts (joinComponents mnt2X) = .ok (1, [0x78]) := by decide
  exact ⟨h, resolveMount_components (by decide) (by decide) (by decide) (by decide) h⟩

/-- With no mount path a component-wise prefix of the path's components,
`resolve_mount` returns `NotFound`, and only then. -/
theorem resolveMount_notFound_components (hpaths : mounts.map (·.path) = tbl.map joinComponents)
    (htbl : ∀ ms ∈ tbl, ∀ m ∈ ms, slash ∉ m) (hc : canonicalize p = joinComponents cs)
    (hcs : ∀ c ∈ cs, slash ∉ c) :
    resolveMount mounts p = .error .notFound ↔ ∀ ms ∈ tbl, ¬ ms <+: cs := by
  rw [resolveMount_eq_notFound_iff, hpaths, hc, resolvePath_eq_none_iff]
  constructor
  · intro hnone ms hms hpre
    have hmatch := (matchesMount_joinComponents (htbl ms hms) hcs).mpr hpre
    rw [hnone _ (List.mem_map_of_mem hms)] at hmatch
    cases hmatch
  · intro hnone m hm
    obtain ⟨ms, hms, rfl⟩ := List.mem_map.mp hm
    rw [Bool.eq_false_iff]
    intro hmatch
    exact hnone ms hms ((matchesMount_joinComponents (htbl ms hms) hcs).mp hmatch)

end ResolveMount

/-! ## The root mount -/

/-- With `/` mounted, `resolve_mount` finds `/` itself, but not `/foo`: the
byte after the prefix `/` is `f`, so the boundary test fails, although `/`
is canonical and, with no components, a component-wise prefix of every
path. -/
theorem root_mount_misses_paths :
    isCanonical [slash] = true ∧ canonicalize [slash, 0x66, 0x6F, 0x6F] = [slash, 0x66, 0x6F, 0x6F] ∧
      resolveMount [(⟨[slash], 0⟩ : Mount Nat)] [slash] = .ok (0, []) ∧
      resolveMount [(⟨[slash], 0⟩ : Mount Nat)] [slash, 0x66, 0x6F, 0x6F] = .error .notFound := by
  decide

end PandaOs.Vfs
