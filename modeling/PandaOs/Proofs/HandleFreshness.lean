import PandaOs.Kernel.HandleTable
import PandaOs.Lib.Run

/-!
# Handle ids are never reused

A process's handle table is built by a run of operations from
`HandleTable::new`: `insert_at` with the well-known ids, `insert_typed`
(which `insert` calls with the resource's own type), `get`, writes through
`get_mut`, and `remove`. The run here keeps, beside the table, the list of
ids `insert_typed` handed out.

The counter `next_id` only grows, and every id part handed out or stored
is below it; the well-known ids are below 7, where the counter starts. So
the id part of the next `insert_typed` is the counter itself: at least 7,
new to the table, and different from every id handed out before, removed
or not (`insertTyped_never_reuses`).
-/

namespace PandaOs.Kernel

open PandaOs.Abi PandaOs.Lib

namespace HandleTable

variable {ρ : Type}

/-- The kernel's table operations. -/
inductive Op (ρ : Type) where
  | insertAt (id : Nat) (resource : ρ)
  | insertTyped (handleType : HandleType) (resource : ρ)
  | get (id : Nat)
  | modify (id : Nat) (f : Handle ρ → Handle ρ)
  | remove (id : Nat)

/-- `insert_at` is only called with a well-known id. -/
def Op.WellKnown : Op ρ → Prop
  | .insertAt id _ => idFromHandle id < firstUserId
  | _ => True

instance : (op : Op ρ) → Decidable op.WellKnown
  | .insertAt id _ => inferInstanceAs (Decidable (idFromHandle id < firstUserId))
  | .insertTyped _ _ => isTrue trivial
  | .get _ => isTrue trivial
  | .modify _ _ => isTrue trivial
  | .remove _ => isTrue trivial

/-- One operation; an id `insert_typed` hands out goes to the log. -/
def step (t : HandleTable ρ) : Op ρ → HandleTable ρ × List Nat
  | .insertAt id r => (t.insertAt id r, [])
  | .insertTyped ty r =>
      match t.insertTyped ty r with
      | (.ok id, t') => (t', [id])
      | (.error _, t') => (t', [])
  | .get _ => (t, [])
  | .modify id f => (t.modify id f, [])
  | .remove id => ((t.remove id).2, [])

/-- A run from `HandleTable::new`: the table, and the ids handed out. -/
def run (ops : List (Op ρ)) : HandleTable ρ × List Nat := runLog step (new, []) ops

/-- The run invariant: the table is well formed, and the id parts handed
out are distinct, at least 7, and below the counter. -/
structure Issued (t : HandleTable ρ) (issued : List Nat) : Prop where
  wf : t.Wf
  nodup : (issued.map idFromHandle).Nodup
  above : ∀ k ∈ issued, firstUserId ≤ idFromHandle k
  below : ∀ k ∈ issued, idFromHandle k < t.nextId

theorem issued_new : Issued (new : HandleTable ρ) [] :=
  ⟨wf_new, List.nodup_nil, fun _ h => absurd h List.not_mem_nil,
    fun _ h => absurd h List.not_mem_nil⟩

/-- What a successful `insert_typed` hands out, in a table whose ids are below
its counter: the counter's value under the requested tag, new to the table. -/
theorem Wf.insertTyped_ok_id {t t' : HandleTable ρ} (hw : t.Wf) {ty : HandleType} {r : ρ}
    {id : Nat} (h : t.insertTyped ty r = (.ok id, t')) :
    idFromHandle id = t.nextId ∧ fromHandle id = ty.tag ∧ id ∉ t.handles ∧
      t'.nextId = t.nextId + 1 := by
  obtain ⟨-, hid, rfl, rfl⟩ := insertTyped_ok h
  exact ⟨idFromHandle_makeHandle_of_le hid, fromHandle_makeHandle ty t.nextId,
    hw.makeHandle_not_mem ty hid, rfl⟩

/-- A step that hands out nothing and keeps the counter keeps the invariant. -/
theorem Issued.keep {t t' : HandleTable ρ} {issued : List Nat} (hi : Issued t issued)
    (hw : t'.Wf) (hnext : t'.nextId = t.nextId) : Issued t' (issued ++ []) := by
  rw [List.append_nil]
  refine ⟨hw, hi.nodup, hi.above, fun k hk => ?_⟩
  rw [hnext]
  exact hi.below k hk

theorem modify_nextId (t : HandleTable ρ) (id : Nat) (f : Handle ρ → Handle ρ) :
    (t.modify id f).nextId = t.nextId := by
  unfold HandleTable.modify
  split <;> rfl

theorem Issued.step {t : HandleTable ρ} {issued : List Nat} (hi : Issued t issued) {op : Op ρ}
    (hop : op.WellKnown) : Issued (step t op).1 (issued ++ (step t op).2) := by
  cases op with
  | insertAt id r => exact hi.keep (hi.wf.insertAt hop r) rfl
  | insertTyped ty r =>
      simp only [HandleTable.step]
      split
      · next id t' h =>
          obtain ⟨hidv, -, -, hnext⟩ := hi.wf.insertTyped_ok_id h
          have hres := hi.wf.reserved
          refine ⟨hi.wf.insertTyped h, ?_, ?_, ?_⟩
          · -- the new id part is the counter, above every earlier one
            rw [List.map_append, List.nodup_append]
            refine ⟨hi.nodup, List.nodup_singleton _, ?_⟩
            intro a ha b hb
            simp only [List.map_cons, List.map_nil, List.mem_singleton] at hb
            obtain ⟨k, hk, rfl⟩ := List.mem_map.mp ha
            have := hi.below k hk
            omega
          · intro k hk
            rcases List.mem_append.mp hk with hk | hk
            · exact hi.above k hk
            · rw [List.mem_singleton.mp hk, hidv]
              exact hres
          · intro k hk
            rw [hnext]
            rcases List.mem_append.mp hk with hk | hk
            · have := hi.below k hk
              omega
            · rw [List.mem_singleton.mp hk, hidv]
              omega
      · next e t' h =>
          rw [(insertTyped_error h).1, List.append_nil]
          exact hi
  | get id => exact hi.keep hi.wf rfl
  | modify id f => exact hi.keep (hi.wf.modify id f) (modify_nextId t id f)
  | remove id => exact hi.keep (hi.wf.remove id) rfl

theorem issued_run (ops : List (Op ρ)) (hops : ∀ op ∈ ops, op.WellKnown) :
    Issued (run ops).1 (run ops).2 :=
  runLog_inv_of step Op.WellKnown Issued (fun _ _ _ hop hi => hi.step hop) ops hops new []
    issued_new

/-- After any run of the kernel's table operations, the ids handed out have
distinct id parts, and the next `insert_typed` either hands out an id whose
id part is at least 7, is new to the table, differs from every id part handed
out before and decodes to the requested type and the counter's value, or
fails leaving the table as it was; it fails with `TooManyHandles` exactly when
the table holds `MAX_HANDLES_PER_PROCESS` handles. -/
theorem insertTyped_never_reuses (ops : List (Op ρ)) (hops : ∀ op ∈ ops, op.WellKnown)
    (ty : HandleType) (r : ρ) :
    ((run ops).2.map idFromHandle).Nodup ∧
      (∀ id t', (run ops).1.insertTyped ty r = (.ok id, t') →
        firstUserId ≤ idFromHandle id ∧ id ∉ (run ops).1.handles ∧
        (∀ k ∈ (run ops).2, idFromHandle k ≠ idFromHandle id) ∧
        fromHandle id = ty.tag ∧ idFromHandle id = (run ops).1.nextId) ∧
      (∀ e t', (run ops).1.insertTyped ty r = (.error e, t') → t' = (run ops).1) ∧
      ((∃ t', (run ops).1.insertTyped ty r = (.error .TooManyHandles, t')) ↔
        maxHandlesPerProcess ≤ (run ops).1.len) := by
  have hi := issued_run ops hops
  refine ⟨hi.nodup, ?_, fun e t' h => (insertTyped_error h).1, ?_⟩
  · intro id t' h
    obtain ⟨hidv, htag, hnew, -⟩ := hi.wf.insertTyped_ok_id h
    refine ⟨hidv ▸ hi.wf.reserved, hnew, ?_, htag, hidv⟩
    intro k hk
    have := hi.below k hk
    omega
  · constructor
    · rintro ⟨t', h⟩
      obtain ⟨-, ⟨-, hlen⟩ | ⟨he, -⟩⟩ := insertTyped_error h
      · exact hlen
      · cases he
    · intro hlen
      exact ⟨(run ops).1, by rw [insertTyped_eq, if_pos hlen]⟩

/-- The witness: `STDIN` at its well-known id, then a channel. -/
theorem insertTyped_never_reuses_after_stdin :
    (∀ op ∈ ([.insertAt handleStdin (), .insertTyped .Channel ()] : List (Op Unit)),
        op.WellKnown) ∧
      ((run ([.insertAt handleStdin (), .insertTyped .Channel ()] :
        List (Op Unit))).2.map idFromHandle).Nodup :=
  ⟨by decide, (insertTyped_never_reuses _ (by decide) .Channel ()).1⟩

end HandleTable

end PandaOs.Kernel
