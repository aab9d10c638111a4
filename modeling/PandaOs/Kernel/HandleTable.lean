import PandaOs.Abi.Basic

/-!
# The per-process handle table

`handle.rs` keeps each process's handles in a `BTreeMap` from tagged ids to
`Handle`s, next to a counter `next_id` that starts above the seven reserved
well-known ids. `insert_typed` refuses when the table already holds
`MAX_HANDLES_PER_PROCESS` entries or when the counter has passed `MAX_ID`;
otherwise it tags the counter's value, stores the handle under it and bumps
the counter. `insert_at` stores under an id the caller chooses, and every
caller passes a well-known id.

The map is an `AList`, whose `insert` replaces an existing key exactly as
`BTreeMap::insert` does. A resource is left abstract (`ρ`); `insert` asks
it for its type through a function, as the source asks the trait object.

What the rest of the kernel relies on is freshness: an id handed out by
`insert_typed` names no handle already in the table. That is not true of an
arbitrary map and counter, only of the tables the kernel can build. The
invariant `Wf` says every stored id lies below the counter; every operation
keeps it (`Reachable.wf`), and under it the id `insert_typed` picks is new
(`Wf.makeHandle_not_mem`).
-/

namespace PandaOs.Kernel

open PandaOs.Abi

/-- `MAX_HANDLES_PER_PROCESS`. -/
def maxHandlesPerProcess : Nat := 4096

/-- `HandleError`. -/
inductive HandleError where
  | IdSpaceExhausted
  | TooManyHandles
  deriving DecidableEq, Repr

section

variable {ρ : Type}

/-- `Handle`: a resource and the per-handle offset. -/
structure Handle (ρ : Type) where
  resource : ρ
  offset : Nat
  deriving DecidableEq

def Handle.new (resource : ρ) : Handle ρ := ⟨resource, 0⟩

/-- `HandleTable`. -/
structure HandleTable (ρ : Type) where
  handles : AList (fun _ : Nat => Handle ρ)
  nextId : Nat

namespace HandleTable

/-- `HandleTable::new`: ids 0 to 6 are reserved for the well-known handles. -/
def new : HandleTable ρ := ⟨∅, firstUserId⟩

/-- `HandleTable::insert_at`. -/
def insertAt (t : HandleTable ρ) (id : Nat) (resource : ρ) : HandleTable ρ :=
  { t with handles := t.handles.insert id (Handle.new resource) }

@[simp] theorem insertAt_nextId (t : HandleTable ρ) (id : Nat) (r : ρ) :
    (t.insertAt id r).nextId = t.nextId := rfl

/-- `HandleTable::len`. -/
def len (t : HandleTable ρ) : Nat := t.handles.keys.length

/-- `HandleTable::insert_typed`. -/
def insertTyped (t : HandleTable ρ) (handleType : HandleType) (resource : ρ) :
    Except HandleError Nat × HandleTable ρ :=
  if t.len ≥ maxHandlesPerProcess then (.error .TooManyHandles, t)
  else
    let id := t.nextId
    if id > maxId then (.error .IdSpaceExhausted, t)
    else
      let taggedId := handleType.makeHandle id
      (.ok taggedId, ⟨t.handles.insert taggedId (Handle.new resource), t.nextId + 1⟩)

theorem insertTyped_eq (t : HandleTable ρ) (handleType : HandleType) (resource : ρ) :
    t.insertTyped handleType resource =
      if t.len ≥ maxHandlesPerProcess then (.error .TooManyHandles, t)
      else if t.nextId > maxId then (.error .IdSpaceExhausted, t)
      else (.ok (handleType.makeHandle t.nextId),
        ⟨t.handles.insert (handleType.makeHandle t.nextId) (Handle.new resource), t.nextId + 1⟩) := rfl

/-- `HandleTable::insert`: the type is the resource's own. -/
def insert (handleType : ρ → HandleType) (t : HandleTable ρ) (resource : ρ) :
    Except HandleError Nat × HandleTable ρ :=
  t.insertTyped (handleType resource) resource

/-- `HandleTable::get`. -/
def get (t : HandleTable ρ) (id : Nat) : Option (Handle ρ) := t.handles.lookup id

theorem get_eq (t : HandleTable ρ) (id : Nat) : t.get id = t.handles.lookup id := rfl

/-- `HandleTable::get_mut` followed by a write through the reference
(`set_offset`, `replace_resource`). -/
def modify (t : HandleTable ρ) (id : Nat) (f : Handle ρ → Handle ρ) : HandleTable ρ :=
  match t.get id with
  | none => t
  | some h => { t with handles := t.handles.insert id (f h) }

/-- `HandleTable::remove`. -/
def remove (t : HandleTable ρ) (id : Nat) : Option (Handle ρ) × HandleTable ρ :=
  (t.get id, { t with handles := t.handles.erase id })

/-- `HandleTable::is_full`. -/
def isFull (t : HandleTable ρ) : Bool := t.len ≥ maxHandlesPerProcess

/-! ## What `insert_typed` can do -/

theorem insertTyped_ok {t t' : HandleTable ρ} {ty : HandleType} {r : ρ} {id : Nat}
    (h : t.insertTyped ty r = (.ok id, t')) :
    t.len < maxHandlesPerProcess ∧ t.nextId ≤ maxId ∧ id = ty.makeHandle t.nextId ∧
      t' = ⟨t.handles.insert id (Handle.new r), t.nextId + 1⟩ := by
  rw [insertTyped_eq] at h
  split at h
  · cases h
  · next hlen =>
      split at h
      · cases h
      · next hid =>
          injection h with h₁ h₂
          injection h₁ with h₁
          subst h₁ h₂
          exact ⟨by omega, by omega, rfl, rfl⟩

theorem insertTyped_error {t t' : HandleTable ρ} {ty : HandleType} {r : ρ} {e : HandleError}
    (h : t.insertTyped ty r = (.error e, t')) :
    t' = t ∧ (e = .TooManyHandles ∧ maxHandlesPerProcess ≤ t.len ∨
      e = .IdSpaceExhausted ∧ t.len < maxHandlesPerProcess ∧ maxId < t.nextId) := by
  rw [insertTyped_eq] at h
  split at h
  · next hlen =>
      injection h with h₁ h₂
      injection h₁ with h₁
      exact ⟨h₂.symm, .inl ⟨h₁.symm, hlen⟩⟩
  · next hlen =>
      split at h
      · next hid =>
          injection h with h₁ h₂
          injection h₁ with h₁
          exact ⟨h₂.symm, .inr ⟨h₁.symm, by omega, hid⟩⟩
      · cases h

/-- Once the counter has passed `MAX_ID` every insert fails and changes nothing. -/
theorem insertTyped_of_gt (t : HandleTable ρ) (ty : HandleType) (r : ρ) (hid : maxId < t.nextId) :
    ∃ e, t.insertTyped ty r = (.error e, t) := by
  rw [insertTyped_eq, if_pos hid]
  split <;> exact ⟨_, rfl⟩

/-- A table that is not full refuses an insert only when the ids are spent. -/
theorem insertTyped_error_of_not_isFull {t t' : HandleTable ρ} {ty : HandleType} {r : ρ}
    {e : HandleError} (hfull : t.isFull = false) (h : t.insertTyped ty r = (.error e, t')) :
    t' = t ∧ e = .IdSpaceExhausted ∧ maxId < t.nextId := by
  obtain ⟨rfl, ⟨-, hlen⟩ | ⟨he, -, hid⟩⟩ := insertTyped_error h
  · simp only [isFull, decide_eq_false_iff_not] at hfull
    omega
  · exact ⟨rfl, he, hid⟩

theorem get_insertAt_self (t : HandleTable ρ) (id : Nat) (r : ρ) :
    (t.insertAt id r).get id = some (Handle.new r) := by
  simp [insertAt, get_eq]

theorem get_insert_of_ne {t : HandleTable ρ} {id k : Nat} {hd : Handle ρ} (hk : k ≠ id) :
    (⟨t.handles.insert id hd, t.nextId + 1⟩ : HandleTable ρ).get k = t.get k := by
  simp only [get_eq]
  exact AList.lookup_insert_ne hk

/-! ## The freshness invariant -/

/-- Every stored id lies below the counter, and the counter is past the
reserved ids. -/
structure Wf (t : HandleTable ρ) : Prop where
  reserved : firstUserId ≤ t.nextId
  fresh : ∀ k ∈ t.handles, idFromHandle k < t.nextId

theorem wf_new : (new : HandleTable ρ).Wf where
  reserved := le_refl _
  fresh k hk := absurd hk (AList.notMem_empty k)

/-- Under the invariant the id `insert_typed` is about to hand out is new. -/
theorem Wf.makeHandle_not_mem {t : HandleTable ρ} (hw : t.Wf) (ty : HandleType)
    (hid : t.nextId ≤ maxId) : ty.makeHandle t.nextId ∉ t.handles := by
  intro hmem
  have h := hw.fresh _ hmem
  rw [idFromHandle_makeHandle_of_le hid] at h
  exact lt_irrefl _ h

theorem Wf.insertTyped {t t' : HandleTable ρ} (hw : t.Wf) {ty : HandleType} {r : ρ}
    {res : Except HandleError Nat} (h : t.insertTyped ty r = (res, t')) : t'.Wf := by
  cases res with
  | error e =>
      rw [(insertTyped_error h).1]
      exact hw
  | ok id =>
      obtain ⟨-, hid, rfl, rfl⟩ := insertTyped_ok h
      have hr := hw.reserved
      refine ⟨show firstUserId ≤ t.nextId + 1 by omega, fun k hk => ?_⟩
      show idFromHandle k < t.nextId + 1
      rcases (AList.mem_insert _).1 hk with rfl | hk
      · rw [idFromHandle_makeHandle_of_le hid]
        omega
      · have := hw.fresh k hk
        omega

theorem Wf.insertAt {t : HandleTable ρ} (hw : t.Wf) {id : Nat} (hid : idFromHandle id < firstUserId)
    (r : ρ) : (t.insertAt id r).Wf := by
  refine ⟨hw.reserved, fun k hk => ?_⟩
  rw [insertAt_nextId]
  rcases (AList.mem_insert _).1 hk with rfl | hk
  · have := hw.reserved
    omega
  · exact hw.fresh k hk

theorem Wf.remove {t : HandleTable ρ} (hw : t.Wf) (id : Nat) : (t.remove id).2.Wf := by
  refine ⟨hw.reserved, fun k hk => ?_⟩
  exact hw.fresh k (AList.mem_erase.1 hk).2

theorem Wf.modify {t : HandleTable ρ} (hw : t.Wf) (id : Nat) (f : Handle ρ → Handle ρ) :
    (t.modify id f).Wf := by
  simp only [HandleTable.modify]
  split
  · exact hw
  · next hd hget =>
      refine ⟨hw.reserved, fun k hk => ?_⟩
      rcases (AList.mem_insert _).1 hk with rfl | hk
      · exact hw.fresh k (AList.lookup_isSome.1 (by simp only [get_eq] at hget; simp [hget]))
      · exact hw.fresh k hk

/-! ## The tables the kernel builds -/

/-- Tables reachable from `HandleTable::new` through the kernel's uses:
`insert_at` of a well-known id, `insert_typed` (and so `insert`), `remove`,
and writes through `get_mut`. -/
inductive Reachable : HandleTable ρ → Prop
  | new : Reachable new
  | insertAt {t : HandleTable ρ} (id : Nat) (r : ρ) :
      Reachable t → idFromHandle id < firstUserId → Reachable (t.insertAt id r)
  | insertTyped {t t' : HandleTable ρ} (ty : HandleType) (r : ρ) (res : Except HandleError Nat) :
      Reachable t → t.insertTyped ty r = (res, t') → Reachable t'
  | remove {t : HandleTable ρ} (id : Nat) : Reachable t → Reachable (t.remove id).2
  | modify {t : HandleTable ρ} (id : Nat) (f : Handle ρ → Handle ρ) :
      Reachable t → Reachable (t.modify id f)

theorem Reachable.wf {t : HandleTable ρ} (h : t.Reachable) : t.Wf := by
  induction h with
  | new => exact wf_new
  | insertAt id r _ hid ih => exact ih.insertAt hid r
  | insertTyped ty r res _ hins ih => exact ih.insertTyped hins
  | remove id _ ih => exact ih.remove id
  | modify id f _ ih => exact ih.modify id f

/-- Inserting a handle and closing it again leaves an empty table whose
counter has moved on by one: every counter value up to `MAX_ID + 1` is
reached by an empty table. -/
theorem reachable_empty (r : ρ) (n : Nat) (hn : firstUserId + n ≤ maxId + 1) :
    (⟨∅, firstUserId + n⟩ : HandleTable ρ).Reachable := by
  induction n with
  | zero => exact Reachable.new
  | succ n ih =>
      let t : HandleTable ρ := ⟨∅, firstUserId + n⟩
      have hins : t.insertTyped .Channel r =
          (.ok (HandleType.Channel.makeHandle t.nextId),
            ⟨(∅ : AList _).insert (HandleType.Channel.makeHandle t.nextId) (Handle.new r),
              firstUserId + n + 1⟩) := by
        have hlen : ¬ t.len ≥ maxHandlesPerProcess := by
          simp [t, len, maxHandlesPerProcess]
        have hid : ¬ t.nextId > maxId := by
          show ¬ firstUserId + n > maxId
          omega
        rw [insertTyped_eq, if_neg hlen, if_neg hid]
      have hrem := (Reachable.insertTyped .Channel r _ (ih (by omega)) hins).remove
        (HandleType.Channel.makeHandle t.nextId)
      have he : ((∅ : AList (fun _ : Nat => Handle ρ)).insert
          (HandleType.Channel.makeHandle t.nextId) (Handle.new r)).erase
          (HandleType.Channel.makeHandle t.nextId) = ∅ := by
        apply AList.ext
        simp [AList.singleton, AList.erase, List.kerase_cons_eq]
      simp only [HandleTable.remove, he] at hrem
      exact hrem

end HandleTable

end

end PandaOs.Kernel
