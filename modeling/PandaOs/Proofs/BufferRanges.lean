import PandaOs.Process.Memory

/-!
# The buffer free list partitions the buffer region

`alloc_buffer_vaddr` and `free_buffer_vaddr` keep a `BTreeMap` of free
ranges, each a start address and a number of pages. A client allocates
ranges and frees each one it got, once, with the same page count. Across
any such sequence the free ranges and the outstanding allocations partition
the region: every byte of the region lies in exactly one of them and no
other byte in any (`Inv.partition`). The free ranges are sorted and each ends
strictly before the next begins (`Separated`): disjoint, and never adjacent,
since every free merges with its free neighbours.

Byte counts are what make the partition easy to carry: `coverCount rs x`
counts the ranges holding `x`, and each step of the allocator changes the
ranges so that the count of every byte is unchanged, a range split in two by
an allocation or two or three ranges merged by a free. Where the free list
is searched (the first fit, the ranges before and after a freed range) the
order of the keys decides which range is found, and the partition says
that no free range reaches into the range being freed.
-/

namespace PandaOs.Process

open PandaOs.Memory

/-- Byte `x` lies in the range of `r.2` pages from `r.1`. -/
def covers (r : Nat × Nat) (x : Nat) : Bool := decide (r.1 ≤ x ∧ x < r.1 + r.2 * pageSize)

/-- How many ranges of `rs` hold byte `x`. -/
def coverCount (rs : List (Nat × Nat)) (x : Nat) : Nat := rs.countP (covers · x)

/-- `r` ends strictly before `r'` begins. -/
def Separated (r r' : Nat × Nat) : Prop := r.1 + r.2 * pageSize < r'.1

theorem coverCount_append (l l' : List (Nat × Nat)) (x : Nat) :
    coverCount (l ++ l') x = coverCount l x + coverCount l' x := List.countP_append

theorem coverCount_cons (r : Nat × Nat) (l : List (Nat × Nat)) (x : Nat) :
    coverCount (r :: l) x = coverCount l x + if r.1 ≤ x ∧ x < r.1 + r.2 * pageSize then 1 else 0 := by
  simp [coverCount, covers, List.countP_cons]

theorem coverCount_nil (x : Nat) : coverCount [] x = 0 := rfl

theorem coverCount_perm {l l' : List (Nat × Nat)} (h : l.Perm l') (x : Nat) :
    coverCount l x = coverCount l' x := h.countP_eq _

theorem coverCount_pos {rs : List (Nat × Nat)} {r : Nat × Nat} {x : Nat} (hr : r ∈ rs)
    (hx : r.1 ≤ x ∧ x < r.1 + r.2 * pageSize) : 0 < coverCount rs x :=
  List.countP_pos_iff.mpr ⟨r, hr, by simpa [covers] using hx⟩

theorem exists_of_coverCount_pos {rs : List (Nat × Nat)} {x : Nat} (h : 0 < coverCount rs x) :
    ∃ r ∈ rs, r.1 ≤ x ∧ x < r.1 + r.2 * pageSize := by
  obtain ⟨r, hr, hx⟩ := List.countP_pos_iff.mp h
  exact ⟨r, hr, by simpa [covers] using hx⟩

/-- Ranges no byte of which is counted twice are pairwise disjoint. -/
theorem pairwise_disjoint_of_coverCount_le :
    ∀ {rs : List (Nat × Nat)}, (∀ x, coverCount rs x ≤ 1) →
      rs.Pairwise fun r r' => ∀ x, ¬(covers r x = true ∧ covers r' x = true)
  | [], _ => List.Pairwise.nil
  | r :: rs, hle => by
      refine List.Pairwise.cons (fun r' hr' x ⟨hx, hx'⟩ => ?_) (pairwise_disjoint_of_coverCount_le fun x => ?_)
      · -- a byte of both would be counted by `r` and again in the rest
        have hrest : 0 < coverCount rs x := List.countP_pos_iff.mpr ⟨r', hr', hx'⟩
        have hcons : coverCount (r :: rs) x = coverCount rs x + 1 := List.countP_cons_of_pos hx
        have := hle x
        omega
      · exact le_trans (List.Sublist.countP_le (List.sublist_cons_self r rs)) (hle x)

/-- A range of `p + q` pages is its first `p` pages and the `q` after them. -/
theorem covers_add (a p q x : Nat) :
    (if a ≤ x ∧ x < a + (p + q) * pageSize then 1 else 0) =
      (if a ≤ x ∧ x < a + p * pageSize then 1 else 0) +
        if a + p * pageSize ≤ x ∧ x < a + p * pageSize + q * pageSize then 1 else 0 := by
  rw [Nat.add_mul]
  split_ifs <;> omega

/-- A range of `p` pages is its first `n` pages and the rest. -/
theorem covers_split (a p n x : Nat) (hn : n ≤ p) :
    (if a ≤ x ∧ x < a + p * pageSize then 1 else 0) =
      (if a ≤ x ∧ x < a + n * pageSize then 1 else 0) +
        if a + n * pageSize ≤ x ∧ x < a + n * pageSize + (p - n) * pageSize then 1 else 0 := by
  have h := covers_add a n (p - n) x
  rwa [Nat.add_sub_cancel' hn] at h

/-- Three adjacent ranges make one. -/
theorem covers_add_add (a p q r x : Nat) :
    (if a ≤ x ∧ x < a + (p + q + r) * pageSize then 1 else 0) =
      (if a ≤ x ∧ x < a + p * pageSize then 1 else 0) +
        (if a + p * pageSize ≤ x ∧ x < a + p * pageSize + q * pageSize then 1 else 0) +
          if a + p * pageSize + q * pageSize ≤ x ∧ x < a + p * pageSize + q * pageSize + r * pageSize then 1 else 0 := by
  rw [Nat.add_mul, Nat.add_mul]
  split_ifs <;> omega

/-! ## Keys in order -/

theorem Separated.lt {r r' : Nat × Nat} (h : Separated r r') : r.1 < r'.1 := by
  unfold Separated at h
  omega

/-- In a separated list the range with the smaller key comes first. -/
theorem separated_of_lt : ∀ {rs : List (Nat × Nat)} {r r' : Nat × Nat}, rs.Pairwise Separated →
    r ∈ rs → r' ∈ rs → r.1 < r'.1 → Separated r r'
  | b :: rest, r, r', hrs, hr, hr', hlt => by
      rw [List.pairwise_cons] at hrs
      rcases List.mem_cons.mp hr with hrb | hr
      · rcases List.mem_cons.mp hr' with hr'b | hr'
        · rw [hrb, hr'b] at hlt
          exact absurd hlt (Nat.lt_irrefl _)
        · rw [hrb]
          exact hrs.1 r' hr'
      · rcases List.mem_cons.mp hr' with hr'b | hr'
        · rw [hr'b] at hlt
          exact absurd hlt (Nat.lt_asymm (hrs.1 r hr).lt)
        · exact separated_of_lt hrs.2 hr hr' hlt

theorem keys_nodup {rs : List (Nat × Nat)} (hrs : rs.Pairwise Separated) : (rs.map Prod.fst).Nodup :=
  List.Pairwise.imp (fun h => Nat.ne_of_lt h) (List.pairwise_map.mpr (hrs.imp Separated.lt))

/-- The first range of a separated list has the smallest key. -/
theorem head?_le {l : List (Nat × Nat)} {y : Nat × Nat} (hl : l.Pairwise Separated) (hy : l.head? = some y) :
    ∀ r ∈ l, y.1 ≤ r.1 := by
  obtain ⟨t, rfl⟩ : ∃ t, l = y :: t := by
    cases l with
    | nil => simp at hy
    | cons a t => exact ⟨t, by rw [List.head?_cons, Option.some.injEq] at hy; rw [hy]⟩
  intro r hr
  rcases List.mem_cons.mp hr with rfl | hr
  · exact Nat.le_refl _
  · exact Nat.le_of_lt (List.rel_of_pairwise_cons hl hr).lt

/-- The last range of a separated list has the largest key. -/
theorem le_getLast? {l : List (Nat × Nat)} {y : Nat × Nat} (hl : l.Pairwise Separated)
    (hy : l.getLast? = some y) : ∀ r ∈ l, r.1 ≤ y.1 := by
  obtain ⟨init, rfl⟩ := List.getLast?_eq_some_iff.mp hy
  intro r hr
  rcases List.mem_append.mp hr with hr | hr
  · exact Nat.le_of_lt ((List.pairwise_append.mp hl).2.2 r hr y List.mem_cons_self).lt
  · rw [List.mem_singleton.mp hr]

/-! ## `BTreeMap::insert` and `remove` on separated lists -/

theorem rangeInsert_perm {a n : Nat} :
    ∀ {rs : List (Nat × Nat)}, (∀ r ∈ rs, r.1 ≠ a) → (rangeInsert rs a n).Perm ((a, n) :: rs)
  | [], _ => List.Perm.refl _
  | (b, k) :: rest, hfresh => by
      rw [rangeInsert_cons]
      split_ifs with hlt heq
      · exact List.Perm.refl _
      · exact absurd heq.symm (hfresh (b, k) List.mem_cons_self)
      · exact ((rangeInsert_perm fun r hr => hfresh r (List.mem_cons_of_mem _ hr)).cons _).trans
          (List.Perm.swap _ _ _)

theorem rangeRemove_cons (b j : Nat) (rest : List (Nat × Nat)) (a : Nat) :
    rangeRemove ((b, j) :: rest) a = if b ≠ a then (b, j) :: rangeRemove rest a else rangeRemove rest a := by
  by_cases hb : b = a <;> simp [rangeRemove, hb]

theorem rangeRemove_of_forall {rs : List (Nat × Nat)} {a : Nat} (h : ∀ r ∈ rs, r.1 ≠ a) :
    rangeRemove rs a = rs :=
  List.filter_eq_self.mpr fun r hr => by simpa using h r hr

theorem rangeRemove_perm {a k : Nat} :
    ∀ {rs : List (Nat × Nat)}, (rs.map Prod.fst).Nodup → (a, k) ∈ rs → rs.Perm ((a, k) :: rangeRemove rs a)
  | (b, j) :: rest, hkeys, hmem => by
      rw [List.map_cons, List.nodup_cons] at hkeys
      rw [rangeRemove_cons]
      rcases List.mem_cons.mp hmem with heq | hmem
      · -- the removed range is the first: no other range has its key
        obtain ⟨rfl, rfl⟩ := Prod.mk.inj heq
        rw [if_neg (fun h => h rfl), rangeRemove_of_forall fun r hr hra =>
          hkeys.1 (List.mem_map.mpr ⟨r, hr, hra⟩)]
      · have hb : b ≠ a := fun h => hkeys.1 (List.mem_map.mpr ⟨(a, k), hmem, h.symm⟩)
        rw [if_pos hb]
        exact ((rangeRemove_perm hkeys.2 hmem).cons _).trans (List.Perm.swap _ _ _)

theorem rangeInsert_pairwise {a n : Nat} :
    ∀ {rs : List (Nat × Nat)}, rs.Pairwise Separated → (∀ r ∈ rs, r.1 ≠ a) →
      (∀ r ∈ rs, r.1 < a → Separated r (a, n)) → (∀ r ∈ rs, a < r.1 → Separated (a, n) r) →
      (rangeInsert rs a n).Pairwise Separated
  | [], _, _, _, _ => List.pairwise_singleton _ _
  | (b, k) :: rest, hrs, hfresh, hbefore, hafter => by
      have hb : b ≠ a := hfresh (b, k) List.mem_cons_self
      rw [rangeInsert_cons]
      split_ifs with hlt heq
      · -- the new range goes first: every key after it is larger
        refine List.Pairwise.cons (fun r hr => hafter r hr ?_) hrs
        rcases List.mem_cons.mp hr with rfl | hr
        · exact hlt
        · exact Nat.lt_trans hlt (List.rel_of_pairwise_cons hrs hr).lt
      · exact absurd heq hb.symm
      · have hrest := List.pairwise_cons.mp hrs
        refine List.Pairwise.cons (fun r hr => ?_)
          (rangeInsert_pairwise hrest.2 (fun r hr => hfresh r (List.mem_cons_of_mem _ hr))
            (fun r hr => hbefore r (List.mem_cons_of_mem _ hr)) (fun r hr => hafter r (List.mem_cons_of_mem _ hr)))
        rcases mem_rangeInsert hr with rfl | hr
        · exact hbefore (b, k) List.mem_cons_self (by omega)
        · exact hrest.1 r hr

theorem rangeRemove_pairwise {rs : List (Nat × Nat)} (hrs : rs.Pairwise Separated) (a : Nat) :
    (rangeRemove rs a).Pairwise Separated :=
  List.Pairwise.filter _ hrs

theorem key_ne_of_mem_rangeRemove {rs : List (Nat × Nat)} {a : Nat} {r : Nat × Nat} (h : r ∈ rangeRemove rs a) :
    r.1 ≠ a := by
  simpa using (List.mem_filter.mp h).2

/-! ## The invariant -/

/-- The free ranges `rs` and the outstanding allocations `A` of a layout:
the free ranges separated and in order, every range at least a page long
and page-aligned, and every byte of the region in exactly one range, no
other byte in any. -/
structure Inv (L : Layout) (rs A : List (Nat × Nat)) : Prop where
  separated : rs.Pairwise Separated
  pos : ∀ r ∈ rs ++ A, 0 < r.2
  aligned : ∀ r ∈ rs ++ A, r.1 % pageSize = 0
  partition : ∀ x, coverCount (rs ++ A) x =
    if L.bufferBase ≤ x ∧ x < L.bufferBase + L.bufferMaxSize then 1 else 0

/-- The free list `Process::new` starts with: the whole region. -/
def initialRanges (L : Layout) : List (Nat × Nat) := [(L.bufferBase, L.bufferMaxSize / pageSize)]

section Inv

variable {L : Layout}

theorem inv_initial (hbase : L.bufferBase % pageSize = 0) (hsize : L.bufferMaxSize % pageSize = 0)
    (hpos : 0 < L.bufferMaxSize) : Inv L (initialRanges L) [] := by
  have hpages : L.bufferMaxSize / pageSize * pageSize = L.bufferMaxSize := Nat.div_mul_cancel (Nat.dvd_of_mod_eq_zero hsize)
  refine ⟨List.pairwise_singleton _ _, ?_, ?_, fun x => ?_⟩
  · simp only [initialRanges, List.append_nil, List.mem_singleton]
    rintro r rfl
    refine Nat.pos_of_ne_zero fun h => ?_
    dsimp only at h
    rw [h, Nat.zero_mul] at hpages
    omega
  · simp only [initialRanges, List.append_nil, List.mem_singleton]
    rintro r rfl
    exact hbase
  · rw [initialRanges, List.append_nil, coverCount_cons, coverCount_nil, Nat.zero_add, hpages]

variable {rs A : List (Nat × Nat)}

theorem Inv.coverCount_le (h : Inv L rs A) (x : Nat) : coverCount (rs ++ A) x ≤ 1 := by
  rw [h.partition x]
  split_ifs <;> omega

/-- Every range lies inside the region. -/
theorem Inv.inside (h : Inv L rs A) {r : Nat × Nat} (hr : r ∈ rs ++ A) :
    L.bufferBase ≤ r.1 ∧ r.1 + r.2 * pageSize ≤ L.bufferBase + L.bufferMaxSize := by
  have hp : 0 < r.2 * pageSize := Nat.mul_pos (h.pos r hr) (by decide)
  -- its first and its last byte are counted, so they are bytes of the region
  have h₁ := coverCount_pos hr (x := r.1) ⟨le_refl _, by omega⟩
  have h₂ := coverCount_pos hr (x := r.1 + r.2 * pageSize - 1) ⟨by omega, by omega⟩
  rw [h.partition] at h₁ h₂
  split_ifs at h₁ h₂ <;> omega

/-- No free range holds a byte of an outstanding allocation. -/
theorem Inv.free_count_eq_zero (h : Inv L rs A) {a : Nat × Nat} (ha : a ∈ A) {x : Nat}
    (hx : a.1 ≤ x ∧ x < a.1 + a.2 * pageSize) : coverCount rs x = 0 := by
  have hle := h.coverCount_le x
  have hA := coverCount_pos ha hx
  rw [coverCount_append] at hle
  omega

/-- The ranges of the free list other than `(a, k)` lie wholly before or wholly after it. -/
theorem Inv.separated_around (h : Inv L rs A) {a k : Nat} (hmem : (a, k) ∈ rs) {r : Nat × Nat}
    (hr : r ∈ rangeRemove rs a) : Separated r (a, k) ∨ Separated (a, k) r := by
  rcases Nat.lt_or_gt_of_ne (key_ne_of_mem_rangeRemove hr) with hlt | hgt
  · exact .inl (separated_of_lt h.separated (mem_of_mem_rangeRemove hr) hmem hlt)
  · exact .inr (separated_of_lt h.separated hmem (mem_of_mem_rangeRemove hr) hgt)

end Inv

/-! ## `alloc_buffer_vaddr` -/

theorem allocBufferVaddr_eq_some {rs rs' : List (Nat × Nat)} {n v : Nat}
    (h : allocBufferVaddr rs n = some (v, rs')) :
    ∃ p, rs.find? (fun r => n ≤ r.2) = some (v, p) ∧
      rs' = if p > n then rangeInsert (rangeRemove rs v) (v + n * pageSize) (p - n) else rangeRemove rs v := by
  unfold allocBufferVaddr at h
  split at h
  · cases h
  · next a p hfind =>
      simp only [Option.some.injEq, Prod.mk.injEq] at h
      obtain ⟨rfl, rfl⟩ := h
      exact ⟨p, hfind, rfl⟩

theorem allocBufferVaddr_eq_none_iff (rs : List (Nat × Nat)) (n : Nat) :
    allocBufferVaddr rs n = none ↔ ∀ r ∈ rs, r.2 < n := by
  unfold allocBufferVaddr
  split
  · next hfind =>
      simp only [true_iff]
      intro r hr
      have := List.find?_eq_none.mp hfind r hr
      simp only [decide_eq_true_eq] at this
      omega
  · next a p hfind =>
      simp only [reduceCtorEq, false_iff, not_forall, not_lt]
      exact ⟨(a, p), List.mem_of_find?_eq_some hfind, by simpa using List.find?_some hfind⟩

section Alloc

variable {L : Layout} {rs A rs' : List (Nat × Nat)} {n v : Nat}

/-- An allocation of at least one page keeps the invariant: the range it
takes is split into what it hands out and what stays free. -/
theorem Inv.alloc (h : Inv L rs A) (hn : 0 < n) (halloc : allocBufferVaddr rs n = some (v, rs')) :
    Inv L rs' (A ++ [(v, n)]) := by
  obtain ⟨p, hfind, rfl⟩ := allocBufferVaddr_eq_some halloc
  have hmem : (v, p) ∈ rs := List.mem_of_find?_eq_some hfind
  have hle : n ≤ p := by simpa using List.find?_some hfind
  have hperm := rangeRemove_perm (keys_nodup h.separated) hmem
  have hvalign : v % pageSize = 0 := h.aligned (v, p) (List.mem_append_left A hmem)
  have hcount (x : Nat) : coverCount rs x = coverCount (rangeRemove rs v) x +
      if v ≤ x ∧ x < v + p * pageSize then 1 else 0 := by
    rw [coverCount_perm hperm x, coverCount_cons]
  have hmono : n * pageSize ≤ p * pageSize := Nat.mul_le_mul_right _ hle
  split_ifs with hsplit
  · -- the rest of the range stays free, at a key no other range has
    have hfresh : ∀ r ∈ rangeRemove rs v, r.1 ≠ v + n * pageSize := fun r hr => by
      rcases h.separated_around hmem hr with hsep | hsep <;> unfold Separated at hsep <;> dsimp only at hsep <;>
        omega
    have hperm' := rangeInsert_perm (n := p - n) hfresh
    have hrest : p - n + n = p := Nat.sub_add_cancel hle
    refine ⟨?_, fun r hr => ?_, fun r hr => ?_, fun x => ?_⟩
    · refine rangeInsert_pairwise (rangeRemove_pairwise h.separated v) hfresh (fun r hr hlt => ?_)
        (fun r hr hgt => ?_) <;> rcases h.separated_around hmem hr with hsep | hsep <;>
        unfold Separated at hsep ⊢ <;> dsimp only at hsep ⊢
      all_goals
        have hsum : v + n * pageSize + (p - n) * pageSize = v + p * pageSize := by
          rw [Nat.add_assoc, ← Nat.add_mul, Nat.add_sub_cancel' hle]
        omega
    · rw [List.mem_append, hperm'.mem_iff, List.mem_cons, List.mem_append, List.mem_singleton] at hr
      rcases hr with (rfl | hr) | hr | rfl
      · exact Nat.sub_pos_of_lt hsplit
      · exact h.pos r (List.mem_append_left A (mem_of_mem_rangeRemove hr))
      · exact h.pos r (List.mem_append_right rs hr)
      · exact hn
    · rw [List.mem_append, hperm'.mem_iff, List.mem_cons, List.mem_append, List.mem_singleton] at hr
      rcases hr with (rfl | hr) | hr | rfl
      · rw [Nat.add_mul_mod_self_right]
        exact hvalign
      · exact h.aligned r (List.mem_append_left A (mem_of_mem_rangeRemove hr))
      · exact h.aligned r (List.mem_append_right rs hr)
      · exact hvalign
    · -- every byte is counted as often as before: the range became two
      have hsplit := covers_split v p n x hle
      rw [← h.partition x, coverCount_append, coverCount_append, coverCount_append,
        coverCount_perm hperm' x, coverCount_cons, coverCount_cons, coverCount_nil, hcount x]
      dsimp only
      omega
  · -- an exact fit: the whole range is handed out
    have hpn : p = n := by omega
    subst hpn
    refine ⟨rangeRemove_pairwise h.separated v, fun r hr => ?_, fun r hr => ?_, fun x => ?_⟩
    · rw [List.mem_append, List.mem_append, List.mem_singleton] at hr
      rcases hr with hr | hr | rfl
      · exact h.pos r (List.mem_append_left A (mem_of_mem_rangeRemove hr))
      · exact h.pos r (List.mem_append_right rs hr)
      · exact hn
    · rw [List.mem_append, List.mem_append, List.mem_singleton] at hr
      rcases hr with hr | hr | rfl
      · exact h.aligned r (List.mem_append_left A (mem_of_mem_rangeRemove hr))
      · exact h.aligned r (List.mem_append_right rs hr)
      · exact hvalign
    · rw [← h.partition x, coverCount_append, coverCount_append, coverCount_append, hcount x,
        coverCount_cons, coverCount_nil]
      dsimp only
      omega

end Alloc

/-! ## `free_buffer_vaddr` -/

/-- `prev_merge`: the free range with the largest key below `vaddr`, if it ends at `vaddr`. -/
def prevMerge (rs : List (Nat × Nat)) (vaddr : Nat) : Option (Nat × Nat) :=
  ((rs.filter (·.1 < vaddr)).getLast?).filter fun r => r.1 + r.2 * pageSize = vaddr

/-- `next_merge`: the free range with the smallest key from `vaddr` on, if it starts at the freed range's end. -/
def nextMerge (rs : List (Nat × Nat)) (vaddr numPages : Nat) : Option (Nat × Nat) :=
  ((rs.filter (vaddr ≤ ·.1)).head?).filter fun r => r.1 = vaddr + numPages * pageSize

theorem freeBufferVaddr_eq (rs : List (Nat × Nat)) (vaddr numPages : Nat) :
    freeBufferVaddr rs vaddr numPages =
      match prevMerge rs vaddr, nextMerge rs vaddr numPages with
      | some (pa, pp), some (na, np) => rangeInsert (rangeRemove (rangeRemove rs pa) na) pa (pp + numPages + np)
      | some (pa, pp), none => rangeInsert (rangeRemove rs pa) pa (pp + numPages)
      | none, some (na, np) => rangeInsert (rangeRemove rs na) vaddr (numPages + np)
      | none, none => rangeInsert rs vaddr numPages :=
  rfl

section Free

variable {L : Layout} {rs A : List (Nat × Nat)} {v n : Nat}

/-- A merged range put into what is left of the free list keeps the
invariant, when it fits between its neighbours and every byte keeps its count. -/
theorem Inv.insert_merged (h : Inv L rs A) {rest A' : List (Nat × Nat)} {s m : Nat}
    (hrest : rest.Pairwise Separated) (hsub : ∀ r ∈ rest, r ∈ rs) (hsubA : ∀ r ∈ A', r ∈ A)
    (hfresh : ∀ r ∈ rest, r.1 ≠ s) (hbefore : ∀ r ∈ rest, r.1 < s → Separated r (s, m))
    (hafter : ∀ r ∈ rest, s < r.1 → Separated (s, m) r) (hm : 0 < m) (hs : s % pageSize = 0)
    (hcount : ∀ x, coverCount rest x + (if s ≤ x ∧ x < s + m * pageSize then 1 else 0) + coverCount A' x =
      coverCount (rs ++ A) x) :
    Inv L (rangeInsert rest s m) A' := by
  have hperm := rangeInsert_perm (n := m) hfresh
  refine ⟨rangeInsert_pairwise hrest hfresh hbefore hafter, fun r hr => ?_, fun r hr => ?_, fun x => ?_⟩
  · rw [List.mem_append, hperm.mem_iff, List.mem_cons] at hr
    rcases hr with (rfl | hr) | hr
    · exact hm
    · exact h.pos r (List.mem_append_left A (hsub r hr))
    · exact h.pos r (List.mem_append_right rs (hsubA r hr))
  · rw [List.mem_append, hperm.mem_iff, List.mem_cons] at hr
    rcases hr with (rfl | hr) | hr
    · exact hs
    · exact h.aligned r (List.mem_append_left A (hsub r hr))
    · exact h.aligned r (List.mem_append_right rs (hsubA r hr))
  · rw [← h.partition x, ← hcount x, coverCount_append, coverCount_perm hperm x, coverCount_cons]

variable (h : Inv L rs A) (hv : (v, n) ∈ A)
include h hv

/-- A free range below the freed one ends before it: it would hold its first byte. -/
theorem Inv.end_le_of_lt {r : Nat × Nat} (hr : r ∈ rs) (hlt : r.1 < v) : r.1 + r.2 * pageSize ≤ v := by
  have hn : 0 < n * pageSize := Nat.mul_pos (h.pos (v, n) (List.mem_append_right rs hv)) (by decide)
  have hzero := h.free_count_eq_zero hv (x := v) ⟨le_refl v, by dsimp only; omega⟩
  by_contra hgt
  have := coverCount_pos hr (x := v) ⟨by omega, by omega⟩
  omega

/-- A free range from the freed one on starts after it: it would hold its own first byte. -/
theorem Inv.end_le_of_le {r : Nat × Nat} (hr : r ∈ rs) (hle : v ≤ r.1) : v + n * pageSize ≤ r.1 := by
  have hp : 0 < r.2 * pageSize := Nat.mul_pos (h.pos r (List.mem_append_left A hr)) (by decide)
  by_contra hlt
  have hzero := h.free_count_eq_zero hv (x := r.1) ⟨hle, by dsimp only; omega⟩
  have := coverCount_pos hr (x := r.1) ⟨le_refl _, by omega⟩
  omega

theorem Inv.key_ne_vaddr {r : Nat × Nat} (hr : r ∈ rs) : r.1 ≠ v := by
  have hn : 0 < n * pageSize := Nat.mul_pos (h.pos (v, n) (List.mem_append_right rs hv)) (by decide)
  intro heq
  have := h.end_le_of_le hv hr heq.ge
  omega

omit hv in
theorem Inv.prevMerge_some {pa pp : Nat} (hp : prevMerge rs v = some (pa, pp)) :
    (pa, pp) ∈ rs ∧ pa + pp * pageSize = v ∧ ∀ r ∈ rs, r.1 < v → r.1 ≤ pa := by
  rw [prevMerge, Option.filter_eq_some_iff] at hp
  obtain ⟨hlast, hend⟩ := hp
  refine ⟨(List.mem_filter.mp (List.mem_of_getLast? hlast)).1, by simpa using hend, fun r hr hlt => ?_⟩
  exact le_getLast? (h.separated.filter _) hlast r (List.mem_filter.mpr ⟨hr, by simpa using hlt⟩)

/-- Without a range to merge below, every free range below the freed one ends short of it. -/
theorem Inv.prevMerge_none (hp : prevMerge rs v = none) :
    ∀ r ∈ rs, r.1 < v → r.1 + r.2 * pageSize < v := by
  intro r hr hlt
  have hin : r ∈ rs.filter (·.1 < v) := List.mem_filter.mpr ⟨hr, by simpa using hlt⟩
  obtain ⟨last, hlast⟩ := Option.isSome_iff_exists.mp
    (List.getLast?_isSome.mpr (List.ne_nil_of_mem hin))
  have hlastmem := (List.mem_filter.mp (List.mem_of_getLast? hlast)).1
  have hlastlt : last.1 < v := by simpa using (List.mem_filter.mp (List.mem_of_getLast? hlast)).2
  -- the last range below `vaddr` does not end at it, so it ends before it
  have hne : last.1 + last.2 * pageSize ≠ v := by
    rw [prevMerge, hlast, Option.filter_eq_none_iff] at hp
    simpa using hp
  have hend := h.end_le_of_lt hv hlastmem hlastlt
  rcases Nat.lt_or_ge r.1 last.1 with hr' | hr'
  · have := separated_of_lt h.separated hr hlastmem hr'
    unfold Separated at this
    omega
  · have hkey : r.1 = last.1 := Nat.le_antisymm (le_getLast? (h.separated.filter _) hlast r hin) hr'
    have hrl : r = last := List.inj_on_of_nodup_map (keys_nodup h.separated) hr hlastmem hkey
    subst hrl
    omega

/-- The first free range from the freed one on starts after it, so ranges past it start later still. -/
theorem Inv.nextMerge_none (hq : nextMerge rs v n = none) :
    ∀ r ∈ rs, v ≤ r.1 → v + n * pageSize < r.1 := by
  intro r hr hle
  have hin : r ∈ rs.filter (v ≤ ·.1) := List.mem_filter.mpr ⟨hr, by simpa using hle⟩
  obtain ⟨first, hfirst⟩ := Option.isSome_iff_exists.mp (List.isSome_head?.mpr (List.ne_nil_of_mem hin))
  have hfirstmem := List.mem_filter.mp (List.mem_of_mem_head? hfirst)
  -- it does not start at the freed range's end, as there is nothing to merge
  have hne : first.1 ≠ v + n * pageSize := by
    rw [nextMerge, hfirst, Option.filter_eq_none_iff] at hq
    simpa using hq
  have hend := h.end_le_of_le hv hfirstmem.1 (by simpa using hfirstmem.2)
  have hmin := head?_le (h.separated.filter _) hfirst r hin
  omega

omit hv in
/-- Past the range merged below, the next free range starts from the freed one on. -/
theorem Inv.le_of_prevMerge {pa pp : Nat} (hp : prevMerge rs v = some (pa, pp)) {r : Nat × Nat}
    (hr : r ∈ rs) (hgt : pa < r.1) : v ≤ r.1 := by
  have hmax := (h.prevMerge_some hp).2.2 r hr
  by_contra hlt
  exact absurd (hmax (by omega)) (by omega)

/-- Past the range merged above, the next free range starts after its end. -/
theorem Inv.end_lt_of_nextMerge {na np : Nat} (hq : nextMerge rs v n = some (na, np)) {r : Nat × Nat}
    (hr : r ∈ rs) (hle : v ≤ r.1) (hne : r.1 ≠ na) : na + np * pageSize < r.1 := by
  rw [nextMerge, Option.filter_eq_some_iff] at hq
  obtain ⟨hhead, hstart⟩ := hq
  have hqmem := (List.mem_filter.mp (List.mem_of_mem_head? hhead)).1
  have hend := h.end_le_of_le hv hr hle
  have hna : na = v + n * pageSize := by simpa using hstart
  exact separated_of_lt h.separated hqmem hr (by omega)

end Free

section FreeCases

variable {L : Layout} {rs A A' : List (Nat × Nat)} {v n : Nat}
variable (h : Inv L rs A) (hA : A.Perm ((v, n) :: A'))
include h hA

omit h in
/-- Every byte of `A` is in the freed range or in the rest of `A`. -/
theorem coverCount_freed (x : Nat) :
    coverCount A x = coverCount A' x + if v ≤ x ∧ x < v + n * pageSize then 1 else 0 := by
  rw [coverCount_perm hA x, coverCount_cons]

omit h in
theorem mem_freed : (v, n) ∈ A := hA.mem_iff.mpr List.mem_cons_self

omit h in
theorem mem_of_mem_freed {r : Nat × Nat} (hr : r ∈ A') : r ∈ A := hA.mem_iff.mpr (List.mem_cons_of_mem _ hr)

/-- Neither neighbour ends or starts at the freed range: it goes in as it is. -/
theorem Inv.free_isolated (hp : prevMerge rs v = none) (hq : nextMerge rs v n = none) :
    Inv L (rangeInsert rs v n) A' := by
  have hv := mem_freed hA
  refine h.insert_merged h.separated (fun r hr => hr) (fun r hr => mem_of_mem_freed hA hr)
    (fun r hr => h.key_ne_vaddr hv hr) (fun r hr hlt => h.prevMerge_none hv hp r hr hlt)
    (fun r hr hgt => h.nextMerge_none hv hq r hr hgt.le) (h.pos _ (List.mem_append_right rs hv))
    (h.aligned _ (List.mem_append_right rs hv)) fun x => ?_
  rw [coverCount_append, coverCount_freed hA x]
  omega

/-- The range below ends at the freed one: it grows by the freed pages. -/
theorem Inv.free_merge_prev {pa pp : Nat} (hp : prevMerge rs v = some (pa, pp))
    (hq : nextMerge rs v n = none) : Inv L (rangeInsert (rangeRemove rs pa) pa (pp + n)) A' := by
  have hv := mem_freed hA
  obtain ⟨hpmem, hpend, -⟩ := h.prevMerge_some hp
  have hperm := rangeRemove_perm (keys_nodup h.separated) hpmem
  refine h.insert_merged (rangeRemove_pairwise h.separated pa) (fun r hr => mem_of_mem_rangeRemove hr)
    (fun r hr => mem_of_mem_freed hA hr) (fun r hr => key_ne_of_mem_rangeRemove hr)
    (fun r hr hlt => (separated_of_lt h.separated (mem_of_mem_rangeRemove hr) hpmem hlt :))
    (fun r hr hgt => ?_) (Nat.add_pos_left (h.pos _ (List.mem_append_left A hpmem)) n)
    (h.aligned _ (List.mem_append_left A hpmem)) fun x => ?_
  · -- past the freed range nothing follows closely
    have hmem := mem_of_mem_rangeRemove hr
    have := h.nextMerge_none hv hq r hmem (h.le_of_prevMerge hp hmem hgt)
    unfold Separated
    dsimp only
    rw [Nat.add_mul]
    omega
  · subst hpend
    have hsplit := covers_add pa pp n x
    rw [coverCount_append, coverCount_freed hA x, coverCount_perm hperm x, coverCount_cons]
    dsimp only
    omega

/-- The range above starts at the freed one's end: the freed range takes it in. -/
theorem Inv.free_merge_next {na np : Nat} (hp : prevMerge rs v = none)
    (hq : nextMerge rs v n = some (na, np)) : Inv L (rangeInsert (rangeRemove rs na) v (n + np)) A' := by
  have hv := mem_freed hA
  obtain ⟨hqmem, hqstart⟩ : (na, np) ∈ rs ∧ na = v + n * pageSize := by
    rw [nextMerge, Option.filter_eq_some_iff] at hq
    exact ⟨(List.mem_filter.mp (List.mem_of_mem_head? hq.1)).1, by simpa using hq.2⟩
  have hperm := rangeRemove_perm (keys_nodup h.separated) hqmem
  refine h.insert_merged (rangeRemove_pairwise h.separated na) (fun r hr => mem_of_mem_rangeRemove hr)
    (fun r hr => mem_of_mem_freed hA hr) (fun r hr => h.key_ne_vaddr hv (mem_of_mem_rangeRemove hr))
    (fun r hr hlt => h.prevMerge_none hv hp r (mem_of_mem_rangeRemove hr) hlt) (fun r hr hgt => ?_)
    (Nat.add_pos_left (h.pos _ (List.mem_append_right rs hv)) np)
    (h.aligned _ (List.mem_append_right rs hv)) fun x => ?_
  · have := h.end_lt_of_nextMerge hv hq (mem_of_mem_rangeRemove hr) hgt.le (key_ne_of_mem_rangeRemove hr)
    unfold Separated
    dsimp only
    rw [Nat.add_mul]
    omega
  · subst hqstart
    have hsplit := covers_add v n np x
    rw [coverCount_append, coverCount_freed hA x, coverCount_perm hperm x, coverCount_cons]
    dsimp only
    omega

/-- Both neighbours touch the freed range: the three become one range at the lower key. -/
theorem Inv.free_merge_both {pa pp na np : Nat} (hp : prevMerge rs v = some (pa, pp))
    (hq : nextMerge rs v n = some (na, np)) :
    Inv L (rangeInsert (rangeRemove (rangeRemove rs pa) na) pa (pp + n + np)) A' := by
  have hv := mem_freed hA
  obtain ⟨hpmem, hpend, -⟩ := h.prevMerge_some hp
  obtain ⟨hqmem, hqstart⟩ : (na, np) ∈ rs ∧ na = v + n * pageSize := by
    rw [nextMerge, Option.filter_eq_some_iff] at hq
    exact ⟨(List.mem_filter.mp (List.mem_of_mem_head? hq.1)).1, by simpa using hq.2⟩
  have hn : 0 < n * pageSize := Nat.mul_pos (h.pos _ (List.mem_append_right rs hv)) (by decide)
  -- the range above is still there once the range below is taken out
  have hqmem' : (na, np) ∈ rangeRemove rs pa :=
    List.mem_filter.mpr ⟨hqmem, by simp only [decide_eq_true_eq]; omega⟩
  have hperm := rangeRemove_perm (keys_nodup h.separated) hpmem
  have hperm' := rangeRemove_perm (keys_nodup (rangeRemove_pairwise h.separated pa)) hqmem'
  have hsub {r : Nat × Nat} (hr : r ∈ rangeRemove (rangeRemove rs pa) na) : r ∈ rs :=
    mem_of_mem_rangeRemove (mem_of_mem_rangeRemove hr)
  refine h.insert_merged (rangeRemove_pairwise (rangeRemove_pairwise h.separated pa) na) (fun r hr => hsub hr)
    (fun r hr => mem_of_mem_freed hA hr) (fun r hr => key_ne_of_mem_rangeRemove (mem_of_mem_rangeRemove hr))
    (fun r hr hlt => (separated_of_lt h.separated (hsub hr) hpmem hlt :)) (fun r hr hgt => ?_)
    (Nat.add_pos_left (Nat.add_pos_left (h.pos _ (List.mem_append_left A hpmem)) n) np)
    (h.aligned _ (List.mem_append_left A hpmem)) fun x => ?_
  · have := h.end_lt_of_nextMerge hv hq (hsub hr) (h.le_of_prevMerge hp (hsub hr) hgt)
      (key_ne_of_mem_rangeRemove hr)
    unfold Separated
    dsimp only
    rw [Nat.add_mul, Nat.add_mul]
    omega
  · subst hpend hqstart
    have hsplit := covers_add_add pa pp n np x
    rw [coverCount_append, coverCount_freed hA x, coverCount_perm hperm x, coverCount_cons,
      coverCount_perm hperm' x, coverCount_cons]
    dsimp only
    omega

end FreeCases

/-- `free_buffer_vaddr` of an outstanding allocation keeps the invariant, the
allocation no longer outstanding. -/
theorem Inv.free {L : Layout} {rs A : List (Nat × Nat)} {v n k : Nat} (h : Inv L rs A)
    (hk : A[k]? = some (v, n)) : Inv L (freeBufferVaddr rs v n) (A.eraseIdx k) := by
  obtain ⟨hlt, hget⟩ := List.getElem?_eq_some_iff.mp hk
  have hA : A.Perm ((v, n) :: A.eraseIdx k) := by
    have hperm := List.getElem_cons_eraseIdx_perm hlt
    rw [hget] at hperm
    exact hperm.symm
  rw [freeBufferVaddr_eq]
  rcases hp : prevMerge rs v with _ | ⟨pa, pp⟩ <;> rcases hq : nextMerge rs v n with _ | ⟨na, np⟩
  · exact h.free_isolated hA hp hq
  · exact h.free_merge_next hA hp hq
  · exact h.free_merge_prev hA hp hq
  · exact h.free_merge_both hA hp hq

/-! ## Runs of allocations and frees -/

/-- A call on the buffer region: \x60alloc_buffer_vaddr(num_pages)\x60, or the free
of the \x60index\x60th allocation still outstanding with the page count it was
allocated with, as the buffer handle's drop and \x60handle_resize\x60 free. -/
inductive BufOp where
  | alloc (numPages : Nat)
  | free (index : Nat)
  deriving DecidableEq, Repr

/-- The free list and the outstanding allocations, oldest first, after one
call. A free that names no outstanding allocation is not a call a client
makes, and changes nothing. -/
def BufOp.apply (s : List (Nat × Nat) × List (Nat × Nat)) : BufOp → List (Nat × Nat) × List (Nat × Nat)
  | .alloc numPages =>
      match allocBufferVaddr s.1 numPages with
      | some (vaddr, rs) => (rs, s.2 ++ [(vaddr, numPages)])
      | none => s
  | .free index =>
      match s.2[index]? with
      | some (vaddr, numPages) => (freeBufferVaddr s.1 vaddr numPages, s.2.eraseIdx index)
      | none => s

/-- A run from the free list of \x60Process::new\x60. -/
def runBufOps (L : Layout) (ops : List BufOp) : List (Nat × Nat) × List (Nat × Nat) :=
  ops.foldl BufOp.apply (initialRanges L, [])

section Run

variable {L : Layout}

theorem Inv.bufOp_apply {s : List (Nat × Nat) × List (Nat × Nat)} (h : Inv L s.1 s.2) {op : BufOp}
    (hop : ∀ n, op = .alloc n → 1 ≤ n) : Inv L (op.apply s).1 (op.apply s).2 := by
  cases op with
  | alloc numPages =>
      dsimp only [BufOp.apply]
      rcases halloc : allocBufferVaddr s.1 numPages with _ | ⟨vaddr, rs⟩
      · exact h
      · exact h.alloc (hop numPages rfl) halloc
  | free index =>
      dsimp only [BufOp.apply]
      rcases hk : s.2[index]? with _ | ⟨vaddr, numPages⟩
      · exact h
      · exact h.free hk

/-- The invariant holds along every run of calls that allocate at least a page. -/
theorem Inv.foldl_apply {s : List (Nat × Nat) × List (Nat × Nat)} (h : Inv L s.1 s.2) (ops : List BufOp)
    (hops : ∀ n, BufOp.alloc n ∈ ops → 1 ≤ n) :
    Inv L (ops.foldl BufOp.apply s).1 (ops.foldl BufOp.apply s).2 := by
  induction ops generalizing s with
  | nil => exact h
  | cons op ops ih =>
      have hop : ∀ n, op = .alloc n → 1 ≤ n := fun n hn => hops n (hn ▸ List.mem_cons_self)
      exact ih (h.bufOp_apply hop) fun n hn => hops n (List.mem_cons_of_mem _ hn)

/-- With nothing outstanding the free list is the whole region as one range. -/
theorem Inv.eq_initialRanges {rs : List (Nat × Nat)} (h : Inv L rs []) (hpos : 0 < L.bufferMaxSize) :
    rs = initialRanges L := by
  have hin : ∀ r ∈ rs, L.bufferBase ≤ r.1 ∧ r.1 + r.2 * pageSize ≤ L.bufferBase + L.bufferMaxSize :=
    fun r hr => h.inside (List.mem_append_left [] hr)
  have hcount (x : Nat) (hx : L.bufferBase ≤ x ∧ x < L.bufferBase + L.bufferMaxSize) :
      ∃ r ∈ rs, r.1 ≤ x ∧ x < r.1 + r.2 * pageSize := by
    have hx' := h.partition x
    rw [List.append_nil, if_pos hx] at hx'
    exact exists_of_coverCount_pos (by omega)
  -- the range holding the region's first byte starts the region
  obtain ⟨r, hr, hrx⟩ := hcount L.bufferBase ⟨le_refl _, by omega⟩
  have hstart : r.1 = L.bufferBase := Nat.le_antisymm hrx.1 (hin r hr).1
  have hsame {r' : Nat × Nat} (hr' : r' ∈ rs) (hkey : r'.1 = r.1) : r' = r :=
    List.inj_on_of_nodup_map (keys_nodup h.separated) hr' hr hkey
  -- and it reaches the region's end: a byte past it would start another range
  have hend : r.1 + r.2 * pageSize = L.bufferBase + L.bufferMaxSize := by
    refine Nat.le_antisymm (hin r hr).2 (Nat.not_lt.mp fun hlt => ?_)
    obtain ⟨r', hr', hr'x⟩ := hcount (r.1 + r.2 * pageSize) ⟨by omega, hlt⟩
    rcases Nat.lt_trichotomy r'.1 r.1 with hkey | hkey | hkey
    · have := (hin r' hr').1
      omega
    · rw [hsame hr' hkey] at hr'x
      omega
    · have := separated_of_lt h.separated hr hr' hkey
      unfold Separated at this
      omega
  -- no other range fits beside it
  have honly : ∀ r' ∈ rs, r' = r := by
    intro r' hr'
    refine hsame hr' (Nat.le_antisymm (Nat.not_lt.mp fun hkey => ?_) (by have := (hin r' hr').1; omega))
    have hsep := separated_of_lt h.separated hr hr' hkey
    have hp : 0 < r'.2 * pageSize := Nat.mul_pos (h.pos r' (List.mem_append_left [] hr')) (by decide)
    unfold Separated at hsep
    have := (hin r' hr').2
    omega
  have hpages : r.2 = L.bufferMaxSize / pageSize :=
    (Nat.div_eq_of_eq_mul_left (by decide) (by omega)).symm
  cases rs with
  | nil => exact absurd hr List.not_mem_nil
  | cons r₀ rest =>
      have hr₀ : r₀ = r := honly r₀ List.mem_cons_self
      have hrest : rest = [] := List.eq_nil_iff_forall_not_mem.mpr fun r' hr' => by
        have hlt := (List.rel_of_pairwise_cons h.separated hr').lt
        rw [hr₀, honly r' (List.mem_cons_of_mem _ hr')] at hlt
        exact Nat.lt_irrefl _ hlt
      rw [hr₀, hrest, initialRanges, ← hstart, ← hpages]

end Run

/-- From \x60Process::new\x60, along any run of allocations of at least a page and
frees of outstanding allocations, the free list stays sorted, disjoint and
coalesced; every range, free or handed out, is page-aligned and inside the
region; no two share a byte and together they hold every byte of the region
once; with nothing outstanding the free list is the initial range; and an
allocation fails only when no free range is large enough. -/
theorem buffer_free_ranges_partition (L : Layout) (hbase : L.bufferBase % pageSize = 0)
    (hsize : L.bufferMaxSize % pageSize = 0) (hpos : 0 < L.bufferMaxSize) (ops : List BufOp)
    (hops : ∀ n, BufOp.alloc n ∈ ops → 1 ≤ n) (rs A : List (Nat × Nat)) (hrun : runBufOps L ops = (rs, A)) :
    rs.Pairwise Separated ∧
      (∀ r ∈ rs ++ A, 0 < r.2 ∧ r.1 % pageSize = 0 ∧ L.bufferBase ≤ r.1 ∧
        r.1 + r.2 * pageSize ≤ L.bufferBase + L.bufferMaxSize) ∧
      (rs ++ A).Pairwise (fun r r' => ∀ x, ¬(covers r x = true ∧ covers r' x = true)) ∧
      (∀ x, coverCount (rs ++ A) x = if L.bufferBase ≤ x ∧ x < L.bufferBase + L.bufferMaxSize then 1 else 0) ∧
      (A = [] → rs = initialRanges L) ∧
      ∀ n, allocBufferVaddr rs n = none ↔ ∀ r ∈ rs, r.2 < n := by
  have h : Inv L rs A := by
    have hinv := (inv_initial hbase hsize hpos).foldl_apply (s := (initialRanges L, [])) ops hops
    rw [← runBufOps, hrun] at hinv
    exact hinv
  refine ⟨h.separated, fun r hr => ⟨h.pos r hr, h.aligned r hr, h.inside hr⟩,
    pairwise_disjoint_of_coverCount_le h.coverCount_le, h.partition, fun hA => ?_,
    allocBufferVaddr_eq_none_iff rs⟩
  subst hA
  exact h.eq_initialRanges hpos

-- freeing in allocation order fills the hole the first free left
example : runBufOps abiLayout [.alloc 2, .alloc 3, .free 0, .free 0] = (initialRanges abiLayout, []) := by
  decide

/-- Free the first of two allocations: the hole it leaves stays a range of
its own, apart from the rest of the region past the second. -/
theorem buffer_free_ranges_partition_hole :
    runBufOps abiLayout [.alloc 2, .alloc 3, .free 0] =
        ([(Abi.bufferBase, 2), (Abi.bufferBase + 5 * pageSize, Abi.bufferMaxSize / pageSize - 5)],
          [(Abi.bufferBase + 2 * pageSize, 3)]) ∧
      [(Abi.bufferBase, 2), (Abi.bufferBase + 5 * pageSize, Abi.bufferMaxSize / pageSize - 5)].Pairwise Separated :=
  have hrun : runBufOps abiLayout [.alloc 2, .alloc 3, .free 0] =
      ([(Abi.bufferBase, 2), (Abi.bufferBase + 5 * pageSize, Abi.bufferMaxSize / pageSize - 5)],
        [(Abi.bufferBase + 2 * pageSize, 3)]) := by
    decide
  ⟨hrun, (buffer_free_ranges_partition abiLayout (by decide) (by decide) (by decide) _
    (fun n hn => by simp at hn; omega) _ _ hrun).1⟩

end PandaOs.Process
