import PandaOs.Resource.Mailbox

/-!
# A mailbox's pending queue, and no lost events below its bound

Over every run of mailbox operations the pending queue holds at most one
entry per handle, never more than `MAX_MAILBOX_EVENTS` entries, and only
entries of attached handles (`MailboxInner.Wf`). Each operation keeps the
three facts: `push_event_bounded` coalesces before it appends, so an append
is for a handle with no entry; `detach` filters the handle's entries out as
it removes the handle; a pop only shortens the queue.

The one entry per handle is what keeps the drop path closed. With every
queued handle distinct and attached, the queue is no longer than the
attached set, so while fewer than `MAX_MAILBOX_EVENTS` handles are attached
an append never finds the queue full. No event is lost then: against the
flags each handle has accumulated since its last entry was dequeued or it
was detached (`accumulate`, a ghost kept beside the state), every queued
entry carries exactly its handle's accumulated flags and a handle with no
entry has accumulated nothing (`Coherent`), so what `wait` and `poll` return
is the OR of the accepted events.
-/

namespace PandaOs.Resource

open PandaOs.Abi PandaOs.Lib

namespace MailboxInner

/-- What `push_event_bounded`'s coalescing does to an entry. -/
def orInto (handleId : Nat) (events : UInt32) (e : Nat × UInt32) : Nat × UInt32 :=
  if e.1 = handleId then (e.1, e.2 ||| events) else e

theorem orInto_eq (handleId : Nat) (events : UInt32) (e : Nat × UInt32) :
    orInto handleId events e = if e.1 = handleId then (e.1, e.2 ||| events) else e := rfl

@[simp] theorem orInto_fst (handleId : Nat) (events : UInt32) (e : Nat × UInt32) :
    (orInto handleId events e).1 = e.1 := by
  rw [orInto_eq]
  split <;> rfl

theorem keys_map_orInto (handleId : Nat) (events : UInt32) (l : List (Nat × UInt32)) :
    (l.map (orInto handleId events)).map Prod.fst = l.map Prod.fst := by
  rw [List.map_map]
  exact List.map_congr_left fun e _ => orInto_fst handleId events e

theorem coalesce_eq_none {handleId : Nat} {events : UInt32} :
    ∀ {l : List (Nat × UInt32)}, coalesce handleId events l = none ↔ handleId ∉ l.map Prod.fst
  | [] => by simp [coalesce_nil]
  | e :: rest => by
      by_cases he : e.1 = handleId
      · simp [coalesce_cons, he]
      · simp only [coalesce_cons, if_neg he, Option.map_eq_none_iff, coalesce_eq_none, List.map_cons,
          List.mem_cons, not_or]
        exact ⟨fun h => ⟨Ne.symm he, h⟩, fun h => h.2⟩

/-- In a queue with one entry per handle, coalescing ORs into the handle's
one entry and leaves every other entry alone. -/
theorem coalesce_eq_map {handleId : Nat} {events : UInt32} :
    ∀ {l : List (Nat × UInt32)}, (l.map Prod.fst).Nodup → handleId ∈ l.map Prod.fst →
      coalesce handleId events l = some (l.map (orInto handleId events))
  | [], _, hmem => absurd hmem List.not_mem_nil
  | e :: rest, hnd, hmem => by
      rw [List.map_cons, List.nodup_cons] at hnd
      by_cases he : e.1 = handleId
      · -- the rest holds no other entry for the handle
        have hrest : rest.map (orInto handleId events) = rest := by
          calc rest.map (orInto handleId events)
              = rest.map id := List.map_congr_left fun f hf => by
                have hne : f.1 ≠ handleId := fun h => hnd.1 (he ▸ h ▸ List.mem_map_of_mem hf)
                simp [orInto_eq, hne]
            _ = rest := List.map_id rest
        simp [coalesce_cons, he, orInto_eq, hrest]
      · have hmem' : handleId ∈ rest.map Prod.fst := by
          rcases List.mem_cons.mp hmem with h | h
          · exact absurd h.symm he
          · exact h
        rw [coalesce_cons, if_neg he, coalesce_eq_map hnd.2 hmem']
        simp [orInto_eq, he]

/-- `push_event_bounded` in a queue with one entry per handle: it ORs into
the handle's entry, or appends after dropping the oldest entry at capacity. -/
theorem pushEventBounded_cases {l : List (Nat × UInt32)} (hnd : (l.map Prod.fst).Nodup)
    (handleId : Nat) (events : UInt32) :
    (handleId ∈ l.map Prod.fst ∧
        pushEventBounded l handleId events = l.map (orInto handleId events)) ∨
      (handleId ∉ l.map Prod.fst ∧
        pushEventBounded l handleId events =
          (if l.length ≥ maxMailboxEvents then l.tail else l) ++ [(handleId, events)]) := by
  by_cases hmem : handleId ∈ l.map Prod.fst
  · left
    refine ⟨hmem, ?_⟩
    rw [pushEventBounded, coalesce_eq_map hnd hmem]
  · right
    refine ⟨hmem, ?_⟩
    rw [pushEventBounded, coalesce_eq_none.2 hmem]

theorem pushEventBounded_nodup {l : List (Nat × UInt32)} (hnd : (l.map Prod.fst).Nodup)
    (handleId : Nat) (events : UInt32) :
    ((pushEventBounded l handleId events).map Prod.fst).Nodup := by
  rcases pushEventBounded_cases hnd handleId events with ⟨-, heq⟩ | ⟨hmem, heq⟩
  · rw [heq, keys_map_orInto]
    exact hnd
  · -- the kept queue is a sublist, and the new handle is not in it
    have hkept : List.Sublist (if l.length ≥ maxMailboxEvents then l.tail else l) l := by
      split
      · exact List.tail_sublist l
      · exact List.Sublist.refl l
    rw [heq, List.map_append, List.nodup_append]
    refine ⟨hnd.sublist (hkept.map _), List.nodup_singleton _, ?_⟩
    intro a ha b hb hab
    rw [List.map_cons, List.map_nil, List.mem_singleton] at hb
    subst hb hab
    exact hmem ((hkept.map Prod.fst).subset ha)

theorem pushEventBounded_length_le {l : List (Nat × UInt32)} (hnd : (l.map Prod.fst).Nodup)
    (hlen : l.length ≤ maxMailboxEvents) (handleId : Nat) (events : UInt32) :
    (pushEventBounded l handleId events).length ≤ maxMailboxEvents := by
  rcases pushEventBounded_cases hnd handleId events with ⟨-, heq⟩ | ⟨-, heq⟩
  · rw [heq, List.length_map]
    exact hlen
  · rw [heq, List.length_append, List.length_singleton]
    -- `omega` reads the bound only as a literal
    unfold maxMailboxEvents at hlen ⊢
    split
    · next hfull =>
        rw [List.length_tail]
        omega
    · next hroom => omega

theorem mem_pushEventBounded {l : List (Nat × UInt32)} (hnd : (l.map Prod.fst).Nodup)
    {handleId : Nat} {events : UInt32} {e : Nat × UInt32}
    (he : e ∈ pushEventBounded l handleId events) : e.1 = handleId ∨ e.1 ∈ l.map Prod.fst := by
  rcases pushEventBounded_cases hnd handleId events with ⟨-, heq⟩ | ⟨-, heq⟩
  · rw [heq] at he
    obtain ⟨f, hf, rfl⟩ := List.mem_map.mp he
    exact .inr (by rw [orInto_fst]; exact List.mem_map_of_mem hf)
  · rw [heq, List.mem_append, List.mem_singleton] at he
    rcases he with he | rfl
    · have hkept : (if l.length ≥ maxMailboxEvents then l.tail else l) ⊆ l := by
        split
        · exact List.tail_subset l
        · exact List.Subset.refl l
      exact .inr (List.mem_map_of_mem (hkept he))
    · exact .inl rfl

theorem mem_of_accepts {s : MailboxInner} {handleId : Nat} {events : UInt32}
    (h : s.accepts handleId events = true) : handleId ∈ s.attached := by
  unfold accepts at h
  rw [← AList.lookup_isSome]
  split at h
  · next mask hl => rw [hl]; rfl
  · cases h

/-! ## The queue invariant -/

/-- One entry per handle, at most `MAX_MAILBOX_EVENTS` entries, each for an
attached handle. -/
structure Wf (s : MailboxInner) : Prop where
  nodup : (s.pending.map Prod.fst).Nodup
  bounded : s.pending.length ≤ maxMailboxEvents
  attached : ∀ e ∈ s.pending, e.1 ∈ s.attached

theorem wf_new : MailboxInner.new.Wf :=
  ⟨List.nodup_nil, Nat.zero_le _, fun _ h => absurd h List.not_mem_nil⟩

/-- A queue cut down to a sublist keeps the invariant, given its entries are
attached. -/
theorem Wf.of_sublist {s s' : MailboxInner} (hw : s.Wf) (hsub : List.Sublist s'.pending s.pending)
    (hatt : ∀ e ∈ s'.pending, e.1 ∈ s'.attached) : s'.Wf :=
  ⟨hw.nodup.sublist (hsub.map _), hsub.length_le.trans hw.bounded, hatt⟩

/-- The queue is no longer than the attached set. -/
theorem Wf.length_le_attached {s : MailboxInner} (hw : s.Wf) :
    s.pending.length ≤ s.attached.keys.length := by
  rw [← List.length_map (f := Prod.fst)]
  apply hw.nodup.length_le_of_subset
  intro k hk
  obtain ⟨e, he, rfl⟩ := List.mem_map.mp hk
  exact AList.mem_keys.mp (hw.attached e he)

theorem Wf.postEvent {s : MailboxInner} (hw : s.Wf) (handleId : Nat) (events : UInt32) :
    (s.postEvent handleId events).Wf := by
  rw [postEvent_eq]
  split
  · next hacc =>
      refine ⟨pushEventBounded_nodup hw.nodup _ _,
        pushEventBounded_length_le hw.nodup hw.bounded _ _, ?_⟩
      intro e he
      rcases mem_pushEventBounded hw.nodup he with h | h
      · rw [h]
        exact mem_of_accepts hacc
      · obtain ⟨f, hf, hfe⟩ := List.mem_map.mp h
        exact hfe ▸ hw.attached f hf
  · exact hw

end MailboxInner

namespace Mailbox

open MailboxInner

theorem Wf.step {s : MailboxInner} (hw : s.Wf) (op : MailboxOp) : (step s op).1.Wf := by
  cases op with
  | attach h mask =>
      refine hw.of_sublist (List.Sublist.refl _) fun e he => ?_
      exact (AList.mem_insert _).mpr (.inr (hw.attached e he))
  | detach h =>
      refine hw.of_sublist (List.filter_sublist) fun e he => ?_
      have hkeep := List.mem_filter.mp he
      exact AList.mem_erase.mpr ⟨of_decide_eq_true hkeep.2, hw.attached e hkeep.1⟩
  | postEvent h ev => exact hw.postEvent h ev
  | refPostEvent r ev => exact hw.postEvent r.handleId ev
  | wait | poll =>
      exact hw.of_sublist (List.tail_sublist _) fun e he => hw.attached e (List.mem_of_mem_tail he)
  | clearWaker => exact hw.of_sublist (List.Sublist.refl _) hw.attached

theorem wf_run (ops : List MailboxOp) : (run ops).1.Wf :=
  runLog_inv step (fun s _ => s.Wf) (fun _ _ op hw => Wf.step hw op) ops _ [] wf_new

/-- What `wait` and `poll` return comes off the queue. -/
theorem mem_step_log {s : MailboxInner} {op : MailboxOp} {e : Nat × UInt32}
    (he : e ∈ (step s op).2) : e ∈ s.pending := by
  cases op with
  | wait | poll =>
      simp only [step, wait, poll, popFront, Option.mem_toList] at he
      exact List.mem_of_mem_head? he
  | _ => simp [step] at he

/-! ## Accepted events are delivered -/

/-- The flags `handleId` has accumulated, after `s` takes an event. -/
def acceptInto (s : MailboxInner) (acc : Nat → UInt32) (handleId : Nat) (events : UInt32) :
    Nat → UInt32 :=
  if s.accepts handleId events then Function.update acc handleId (acc handleId ||| events) else acc

/-- The flags accumulated after the front entry, if any, is dequeued. -/
def dequeued (s : MailboxInner) (acc : Nat → UInt32) : Nat → UInt32 :=
  match s.pending.head? with
  | some e => Function.update acc e.1 0
  | none => acc

/-- The ghost: for each handle, the OR of its events the mailbox accepted
since its last entry was dequeued or it was detached. -/
def accumulate (s : MailboxInner) (acc : Nat → UInt32) : MailboxOp → Nat → UInt32
  | .postEvent h ev => acceptInto s acc h ev
  | .refPostEvent r ev => acceptInto s acc r.handleId ev
  | .detach h => Function.update acc h 0
  | .wait | .poll => dequeued s acc
  | .attach _ _ | .clearWaker => acc

/-- A step with the ghost beside the state; each returned entry is logged
with the flags its handle had accumulated. -/
def observe (p : MailboxInner × (Nat → UInt32)) (op : MailboxOp) :
    (MailboxInner × (Nat → UInt32)) × List ((Nat × UInt32) × UInt32) :=
  (((step p.1 op).1, accumulate p.1 p.2 op), (step p.1 op).2.map fun e => (e, p.2 e.1))

/-- A run from `Mailbox::new`, observed. -/
def observedRun (ops : List MailboxOp) :
    (MailboxInner × (Nat → UInt32)) × List ((Nat × UInt32) × UInt32) :=
  runLog observe ((MailboxInner.new, fun _ => 0), []) ops

/-- The ghost changes nothing: an observed run is the run. -/
theorem runLog_observe (ops : List MailboxOp) :
    ∀ (s : MailboxInner) (acc : Nat → UInt32) (log : List ((Nat × UInt32) × UInt32)),
      (runLog observe ((s, acc), log) ops).1.1 = (runLog step (s, log.map Prod.fst) ops).1 ∧
      (runLog observe ((s, acc), log) ops).2.map Prod.fst =
        (runLog step (s, log.map Prod.fst) ops).2 := by
  induction ops with
  | nil => intro s acc log; exact ⟨rfl, rfl⟩
  | cons op ops ih =>
      intro s acc log
      have hlog : (log ++ (step s op).2.map fun e => (e, acc e.1)).map Prod.fst =
          log.map Prod.fst ++ (step s op).2 := by
        rw [List.map_append, List.map_map]
        exact congrArg (log.map Prod.fst ++ ·) (List.map_id' _)
      rw [runLog_cons, runLog_cons]
      simp only [observe]
      rw [← hlog]
      exact ih _ _ _

/-- Fewer than `MAX_MAILBOX_EVENTS` handles are attached when an event is
posted. -/
def Roomy (s : MailboxInner) (op : MailboxOp) : Prop :=
  op.posts = true → s.attached.keys.length < maxMailboxEvents

instance (s : MailboxInner) (op : MailboxOp) : Decidable (Roomy s op) :=
  inferInstanceAs (Decidable (_ → _))

theorem admits_observe (ops : List MailboxOp) :
    ∀ (s : MailboxInner) (acc : Nat → UInt32), Admits step Roomy s ops →
      Admits observe (fun p op => Roomy p.1 op) (s, acc) ops := by
  induction ops with
  | nil => intro _ _ _; trivial
  | cons op ops ih => intro s acc h; exact ⟨h.1, ih _ _ h.2⟩

/-- Each queued entry carries its handle's accumulated flags; a handle with
no entry has accumulated nothing. -/
structure Coherent (s : MailboxInner) (acc : Nat → UInt32) : Prop where
  entry : ∀ e ∈ s.pending, e.2 = acc e.1
  absent : ∀ h, h ∉ s.pending.map Prod.fst → acc h = 0

theorem coherent_new : Coherent MailboxInner.new fun _ => 0 :=
  ⟨fun _ h => absurd h List.not_mem_nil, fun _ _ => rfl⟩

/-- An accepted event ORed into the handle's entry. -/
theorem Coherent.coalesce {s s' : MailboxInner} {acc : Nat → UInt32} (hc : Coherent s acc)
    {handleId : Nat} {events : UInt32} (hmem : handleId ∈ s.pending.map Prod.fst)
    (hp : s'.pending = s.pending.map (orInto handleId events)) :
    Coherent s' (Function.update acc handleId (acc handleId ||| events)) := by
  constructor
  · intro e he
    rw [hp] at he
    obtain ⟨f, hf, rfl⟩ := List.mem_map.mp he
    by_cases hfh : f.1 = handleId
    · rw [orInto_eq, if_pos hfh]
      show f.2 ||| events = Function.update acc handleId (acc handleId ||| events) f.1
      rw [hc.entry f hf, hfh, Function.update_self]
    · simp only [orInto_eq, if_neg hfh, Function.update_of_ne hfh]
      exact hc.entry f hf
  · intro k hk
    rw [hp, keys_map_orInto] at hk
    have hne : k ≠ handleId := fun h => hk (h ▸ hmem)
    rw [Function.update_of_ne hne]
    exact hc.absent k hk

/-- An accepted event for a handle with no entry, appended. -/
theorem Coherent.append {s s' : MailboxInner} {acc : Nat → UInt32} (hc : Coherent s acc)
    {handleId : Nat} {events : UInt32} (hmem : handleId ∉ s.pending.map Prod.fst)
    (hp : s'.pending = s.pending ++ [(handleId, events)]) :
    Coherent s' (Function.update acc handleId (acc handleId ||| events)) := by
  have hzero : acc handleId = 0 := hc.absent handleId hmem
  constructor
  · intro e he
    rw [hp] at he
    rcases List.mem_append.mp he with he | he
    · have hne : e.1 ≠ handleId := fun h => hmem (h ▸ List.mem_map_of_mem he)
      rw [Function.update_of_ne hne]
      exact hc.entry e he
    · rw [List.mem_singleton.mp he, Function.update_self, hzero, UInt32.zero_or]
  · intro k hk
    rw [hp, List.map_append, List.mem_append, not_or] at hk
    have hne : k ≠ handleId := fun h => hk.2 (by simp [h])
    rw [Function.update_of_ne hne]
    exact hc.absent k hk.1

theorem Coherent.postEvent {s : MailboxInner} {acc : Nat → UInt32} (hw : s.Wf)
    (hc : Coherent s acc) {handleId : Nat} {events : UInt32}
    (hroom : s.attached.keys.length < maxMailboxEvents) :
    Coherent (s.postEvent handleId events) (acceptInto s acc handleId events) := by
  rw [postEvent_eq, acceptInto]
  split
  · rcases pushEventBounded_cases hw.nodup handleId events with ⟨hmem, heq⟩ | ⟨hmem, heq⟩
    · exact hc.coalesce hmem heq
    · -- the queue is shorter than the attached set, so nothing is dropped
      have hshort : ¬ s.pending.length ≥ maxMailboxEvents := by
        have := hw.length_le_attached
        omega
      rw [if_neg hshort] at heq
      exact hc.append hmem heq
  · exact hc

theorem Coherent.detach {s : MailboxInner} {acc : Nat → UInt32} (hc : Coherent s acc)
    (handleId : Nat) : Coherent (detach s handleId) (Function.update acc handleId 0) := by
  constructor
  · intro e he
    have hkeep := List.mem_filter.mp he
    rw [Function.update_of_ne (of_decide_eq_true hkeep.2)]
    exact hc.entry e hkeep.1
  · intro k hk
    by_cases hkh : k = handleId
    · rw [hkh, Function.update_self]
    · rw [Function.update_of_ne hkh]
      apply hc.absent k
      intro hmem
      obtain ⟨e, he, rfl⟩ := List.mem_map.mp hmem
      exact hk (List.mem_map_of_mem (List.mem_filter.mpr ⟨he, decide_eq_true hkh⟩))

theorem Coherent.popFront {s : MailboxInner} {acc : Nat → UInt32} (hw : s.Wf)
    (hc : Coherent s acc) : Coherent (popFront s).2 (dequeued s acc) := by
  have hnd := hw.nodup
  have hentry := hc.entry
  have habsent := hc.absent
  unfold dequeued Mailbox.popFront
  cases hp : s.pending with
  | nil => exact ⟨fun e he => absurd he List.not_mem_nil, fun k _ => habsent k (by simp [hp])⟩
  | cons e rest =>
      rw [hp, List.map_cons, List.nodup_cons] at hnd
      simp only [List.head?_cons, List.tail_cons]
      constructor
      · intro f hf
        have hne : f.1 ≠ e.1 := fun h => hnd.1 (h ▸ List.mem_map_of_mem hf)
        rw [Function.update_of_ne hne]
        exact hentry f (by rw [hp]; exact List.mem_cons_of_mem e hf)
      · intro k hk
        by_cases hke : k = e.1
        · rw [hke, Function.update_self]
        · rw [Function.update_of_ne hke]
          apply habsent k
          rw [hp, List.map_cons, List.mem_cons, not_or]
          exact ⟨hke, hk⟩

theorem Coherent.step {s : MailboxInner} {acc : Nat → UInt32} (hw : s.Wf) (hc : Coherent s acc)
    {op : MailboxOp} (hroom : Roomy s op) : Coherent (step s op).1 (accumulate s acc op) := by
  cases op with
  | attach h mask => exact ⟨hc.entry, hc.absent⟩
  | detach h => exact hc.detach h
  | postEvent h ev => exact hc.postEvent hw (hroom rfl)
  | refPostEvent r ev => exact hc.postEvent hw (hroom rfl)
  | wait => exact hc.popFront hw
  | poll => exact hc.popFront hw
  | clearWaker => exact ⟨hc.entry, hc.absent⟩

/-- The run invariant of the observed run: the queue invariant, coherence,
and every returned entry's flags equal to what its handle accumulated. -/
def Delivered (p : MailboxInner × (Nat → UInt32)) (log : List ((Nat × UInt32) × UInt32)) : Prop :=
  p.1.Wf ∧ Coherent p.1 p.2 ∧ ∀ d ∈ log, d.1.2 = d.2

theorem Delivered.observe {p : MailboxInner × (Nat → UInt32)}
    {log : List ((Nat × UInt32) × UInt32)} (hd : Delivered p log) {op : MailboxOp}
    (hroom : Roomy p.1 op) : Delivered (observe p op).1 (log ++ (observe p op).2) := by
  obtain ⟨hw, hc, hlog⟩ := hd
  refine ⟨Wf.step hw op, hc.step hw hroom, ?_⟩
  intro d hd
  rcases List.mem_append.mp hd with hd | hd
  · exact hlog d hd
  · obtain ⟨e, he, rfl⟩ := List.mem_map.mp hd
    exact hc.entry e (mem_step_log he)

end Mailbox

end PandaOs.Resource
