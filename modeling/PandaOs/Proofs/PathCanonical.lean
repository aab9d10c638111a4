import PandaOs.Proofs.VfsResolve

/-!
# `canonicalize_path_to_buf` is stack normalisation

The reference a reader has in mind for a path canonicaliser is a stack:
split at `/`, drop the empty and `.` pieces, let `..` pop the last kept
piece (nothing at the root), and join what is left, each piece after a `/`.
`normalizePath` is that reference, with no limit on the depth.

`canonicalize_path_to_buf` keeps at most 64 pieces in its `positions` array
and measures the output before it writes it. When it answers, neither limit
was hit, so its stack is the reference's (`pushComponents_foldl`), its
output is the joined stack, and that output is canonical. A canonical path
is its components joined (`isCanonical_eq_joinComponents`), and joined
components of at most 64 pieces canonicalise to themselves
(`canonicalizePathToBuf_joinComponents`): that gives idempotence and the
converse at once.
-/

namespace PandaOs.Vfs

/-- One step of stack normalisation: `.` is skipped, `..` pops, anything else is pushed. -/
def normalizeStep (stack : List (List UInt8)) (c : List UInt8) : List (List UInt8) :=
  if c = [dot] then stack else if c = [dot, dot] then stack.dropLast else stack ++ [c]

/-- The reference normalisation, with no depth limit: `/` for an empty stack. -/
def normalizePath (path : List UInt8) : List UInt8 :=
  let stack := (components path).foldl normalizeStep []
  if stack = [] then [slash] else joinComponents stack

/-! ## The component loop -/

/-- When the loop answers, it kept what the unlimited stack keeps. -/
theorem pushComponents_foldl :
    ∀ {stack cs out : List (List UInt8)}, pushComponents stack cs = some out →
      out = cs.foldl normalizeStep stack
  | stack, [], out, h => by
      rw [pushComponents, Option.some.injEq] at h
      exact h.symm
  | stack, c :: cs, out, h => by
      unfold pushComponents at h
      rw [List.foldl_cons]
      split_ifs at h with hdot hdotdot hfull
      · rw [normalizeStep, if_pos hdot]
        exact pushComponents_foldl h
      · rw [normalizeStep, if_neg hdot, if_pos hdotdot]
        exact pushComponents_foldl h
      · rw [normalizeStep, if_neg hdot, if_neg hdotdot]
        exact pushComponents_foldl h

/-- The loop never holds more than the 64 slots of `positions`. -/
theorem pushComponents_length_le :
    ∀ {stack cs out : List (List UInt8)}, stack.length ≤ maxComponents →
      pushComponents stack cs = some out → out.length ≤ maxComponents
  | stack, [], out, hstack, h => by
      rw [pushComponents, Option.some.injEq] at h
      rw [← h]
      exact hstack
  | stack, c :: cs, out, hstack, h => by
      unfold pushComponents at h
      split_ifs at h with hdot hdotdot hfull
      · exact pushComponents_length_le hstack h
      · exact pushComponents_length_le (by rw [List.length_dropLast]; omega) h
      · exact pushComponents_length_le (by rw [List.length_append, List.length_singleton]; omega) h

/-- Components that are neither `.` nor `..` are all pushed, while they fit. -/
theorem pushComponents_of_isComponent :
    ∀ {stack cs : List (List UInt8)}, (∀ c ∈ cs, IsComponent c) →
      stack.length + cs.length ≤ maxComponents → pushComponents stack cs = some (stack ++ cs)
  | stack, [], _, _ => by rw [pushComponents, List.append_nil]
  | stack, c :: cs, hcs, hlen => by
      obtain ⟨-, -, hdot, hdotdot⟩ := hcs c List.mem_cons_self
      rw [List.length_cons] at hlen
      unfold pushComponents
      rw [if_neg hdot, if_neg hdotdot, if_neg (by omega)]
      rw [pushComponents_of_isComponent (fun c' hc' => hcs c' (List.mem_cons_of_mem c hc'))
        (by rw [List.length_append, List.length_singleton]; omega)]
      simp

/-! ## Joined components -/

theorem length_joinComponents (cs : List (List UInt8)) :
    (joinComponents cs).length = (cs.map fun c => 1 + c.length).sum := by
  induction cs with
  | nil => rfl
  | cons c cs ih =>
      simp only [joinComponents, List.flatMap_cons, List.length_append, List.length_cons,
        List.map_cons, List.sum_cons] at ih ⊢
      rw [ih]
      omega

/-- The pieces of joined components are the components. -/
theorem components_joinComponents {cs : List (List UInt8)} (hcs : ∀ c ∈ cs, IsComponent c) :
    components (joinComponents cs) = cs := by
  cases cs with
  | nil => rfl
  | cons c cs =>
      have hsplit : ([slash].intercalate (c :: cs)).splitOn slash = c :: cs :=
        List.splitOn_intercalate slash (fun c hc => (hcs c hc).2.1) (List.cons_ne_nil c cs)
      -- the leading `/` splits off an empty piece, which the filter drops
      rw [components, joinComponents_of_ne_nil (List.cons_ne_nil c cs), List.splitOn_cons_eq_if_modifyHead,
        if_pos (by simp), hsplit, List.filter_cons_of_neg (by simp)]
      exact List.filter_eq_self.mpr fun c hc => by simpa using (hcs c hc).1

/-- The last byte of pieces joined by `/` belongs to a piece, when none is empty. -/
theorem mem_of_getLast?_intercalate {x : UInt8} :
    ∀ {cs : List (List UInt8)}, (∀ c ∈ cs, c ≠ []) → ([slash].intercalate cs).getLast? = some x →
      ∃ c ∈ cs, x ∈ c
  | [], _, h => by simp at h
  | [c], _, h => ⟨c, List.mem_singleton_self c, List.mem_of_getLast? (by simpa using h)⟩
  | c :: c' :: cs, hcs, h => by
      -- the last byte lies in the pieces after `c`, which do not join to nothing
      have hne : [slash].intercalate (c' :: cs) ≠ [] := by
        rw [← List.length_pos_iff, ← append_joinComponents, List.length_append]
        have := List.length_pos_iff.mpr (hcs c' (by simp))
        omega
      rw [List.intercalate_cons_cons, List.getLast?_append_of_ne_nil _ hne] at h
      obtain ⟨d, hd, hx⟩ := mem_of_getLast?_intercalate (fun d hd => hcs d (List.mem_cons_of_mem c hd)) h
      exact ⟨d, List.mem_cons_of_mem c hd, hx⟩

theorem isCanonical_joinComponents {cs : List (List UInt8)} (hne : cs ≠ [])
    (hcs : ∀ c ∈ cs, IsComponent c) : isCanonical (joinComponents cs) = true := by
  have hsplit : ([slash].intercalate cs).splitOn slash = cs :=
    List.splitOn_intercalate slash (fun c hc => (hcs c hc).2.1) hne
  have hrest : [slash].intercalate cs ≠ [] := by
    intro h
    rw [h, List.splitOn_nil] at hsplit
    exact (hcs [] (by rw [← hsplit]; exact List.mem_singleton_self _)).1 rfl
  -- the path ends inside its last component, so not with `/`
  have hlast : (slash :: [slash].intercalate cs).getLast? ≠ some slash := by
    rw [List.getLast?_cons_of_ne_nil hrest]
    intro h
    obtain ⟨c, hc, hx⟩ := mem_of_getLast?_intercalate (fun c hc => (hcs c hc).1) h
    exact (hcs c hc).2.1 hx
  rw [joinComponents_of_ne_nil hne, isCanonical, if_neg (by simp), if_neg (by simpa using hrest),
    if_neg hlast, hsplit, List.all_eq_true]
  intro c hc
  obtain ⟨hempty, -, hdot, hdotdot⟩ := hcs c hc
  simp [hempty, hdot, hdotdot]

/-! ## What `canonicalize_path_to_buf` answers -/

/-- `/` canonicalises to itself in any buffer that holds a byte. -/
theorem canonicalizePathToBuf_root {bufLen : Nat} (h : 0 < bufLen) :
    canonicalizePathToBuf [slash] bufLen = some [slash] := by
  have hroot : components [slash] = [] := by decide
  rw [canonicalizePathToBuf_eq, hroot]
  simp [pushComponents, Nat.pos_iff_ne_zero.mp h]

/-- Components joined canonicalise to themselves, when there are at most 64
of them and the buffer holds them. -/
theorem canonicalizePathToBuf_joinComponents {cs : List (List UInt8)} {bufLen : Nat} (hne : cs ≠ [])
    (hcs : ∀ c ∈ cs, IsComponent c) (hlen : cs.length ≤ maxComponents)
    (hbuf : (joinComponents cs).length ≤ bufLen) :
    canonicalizePathToBuf (joinComponents cs) bufLen = some (joinComponents cs) := by
  have hpush : pushComponents [] cs = some cs := by
    simpa using @pushComponents_of_isComponent [] cs hcs (by simpa using hlen)
  rw [canonicalizePathToBuf_eq, components_joinComponents hcs, hpush, Option.bind_some,
    if_neg (by simpa using hne), ← length_joinComponents, if_neg (by omega)]

/-- What an answer of `canonicalize_path_to_buf` is made of: the loop's
stack, and `/` for an empty one or the stack joined, which fits the buffer. -/
theorem canonicalizePathToBuf_eq_some {p s : List UInt8} {bufLen : Nat}
    (h : canonicalizePathToBuf p bufLen = some s) :
    ∃ comps, pushComponents [] (components p) = some comps ∧
      (comps = [] ∧ s = [slash] ∧ 0 < bufLen ∨
        comps ≠ [] ∧ s = joinComponents comps ∧ s.length ≤ bufLen) := by
  rw [canonicalizePathToBuf_eq] at h
  cases hpush : pushComponents [] (components p) with
  | none => simp [hpush] at h
  | some comps =>
      rw [hpush, Option.bind_some, ← length_joinComponents] at h
      refine ⟨comps, rfl, ?_⟩
      split_ifs at h with hempty hzero hbig
      · left
        exact ⟨List.isEmpty_iff.mp hempty, (Option.some.inj h).symm, by omega⟩
      · right
        rw [← Option.some.inj h]
        exact ⟨by simpa using hempty, rfl, by omega⟩

theorem canonicalize_path_to_buf_spec :
    (∀ (p : List UInt8) (bufLen : Nat) (s : List UInt8), canonicalizePathToBuf p bufLen = some s →
      isCanonical s = true ∧ s = normalizePath p ∧
        ∀ bufLen', s.length ≤ bufLen' → canonicalizePathToBuf s bufLen' = some s) ∧
    (∀ (p : List UInt8) (bufLen : Nat), isCanonical p = true → (components p).length ≤ 64 →
      p.length ≤ bufLen → canonicalizePathToBuf p bufLen = some p) := by
  refine ⟨fun p bufLen s h => ?_, fun p bufLen hp hlen hbuf => ?_⟩
  · obtain ⟨comps, hpush, hs⟩ := canonicalizePathToBuf_eq_some h
    -- the stack is the reference's, and its components pass `is_canonical`
    have hstack : (components p).foldl normalizeStep [] = comps := (pushComponents_foldl hpush).symm
    have hcomps : ∀ c ∈ comps, IsComponent c :=
      pushComponents_isComponent (fun _ h => absurd h List.not_mem_nil) (fun _ hc => mem_components hc) hpush
    have hlen : comps.length ≤ maxComponents := pushComponents_length_le (by simp [maxComponents]) hpush
    rcases hs with ⟨rfl, rfl, -⟩ | ⟨hne, rfl, -⟩
    · refine ⟨by decide, by simp [normalizePath, hstack], fun bufLen' h' => ?_⟩
      exact canonicalizePathToBuf_root (by simp at h'; omega)
    · refine ⟨isCanonical_joinComponents hne hcomps, by simp [normalizePath, hstack, hne], ?_⟩
      exact fun bufLen' h' => canonicalizePathToBuf_joinComponents hne hcomps hlen h'
  · rcases isCanonical_eq_joinComponents hp with rfl | ⟨cs, hne, hcs, rfl⟩
    · exact canonicalizePathToBuf_root (by simp at hbuf; omega)
    · rw [components_joinComponents hcs] at hlen
      exact canonicalizePathToBuf_joinComponents hne hcs hlen hbuf

/-- `/a/../b` into an 8-byte buffer: `/b`, which is canonical. -/
theorem canonicalize_path_to_buf_dotdot :
    canonicalizePathToBuf [slash, 0x61, slash, dot, dot, slash, 0x62] 8 = some [slash, 0x62] ∧
      isCanonical [slash, 0x62] = true := by
  have h : canonicalizePathToBuf [slash, 0x61, slash, dot, dot, slash, 0x62] 8 = some [slash, 0x62] := by
    decide
  exact ⟨h, (canonicalize_path_to_buf_spec.1 _ _ _ h).1⟩

end PandaOs.Vfs
