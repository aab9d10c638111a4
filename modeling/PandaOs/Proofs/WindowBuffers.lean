import PandaOs.Compositor.Manager

/-!
# Who owns a client's buffer, and which commits a tick answers

A window holds at most two attachments, the pending and the latched one.
An attachment comes in with `AttachBuffer` and leaves with exactly one
`BufferReleased`: the `Ledger` of a run records every (window, buffer) pair
handed to an existing window and every pair released, and the handed pairs
are always the held ones and the released ones together
(`Ledger.Inv.conserved`). Each request moves pairs between the two only
inside one window (`modifyWindow_conserves`).

The ledger also records which windows got a `Commit` while they had a buffer
to show, since the last tick. A window waits for a frame exactly when it is
one of them (`Ledger.Inv.awaiting`), so the next tick answers each of them
once, with the number of ticks so far.
-/

namespace PandaOs.Compositor

/-- A call on the window manager: a request with the attachment mapped for it, or a tick. -/
inductive MgrOp where
  | request (request : Request) (attachment : Option Attachment)
  | tick
  deriving DecidableEq, Repr

def MgrOp.apply (m : WindowManager) : MgrOp → WindowManager × List Event
  | .request r a => m.handleRequest r a
  | .tick => m.tick

/-- The attachments a window holds, as (window, buffer id). -/
def Window.held (w : Window) : List (Nat × Nat) :=
  [w.pending, w.latched].reduceOption.map fun a => (w.id, a.id)

def WindowManager.held (m : WindowManager) : List (Nat × Nat) := m.windows.flatMap Window.held

/-- The (window, buffer id) pairs a list of events releases. -/
def releasedBy (events : List Event) : List (Nat × Nat) :=
  events.filterMap fun
    | .bufferReleased window buffer => some (window, buffer)
    | _ => none

def Window.hasBuffer (w : Window) : Bool := w.pending.isSome || w.latched.isSome

/-- The attachment a call hands to an existing window. -/
def MgrOp.handed (m : WindowManager) : MgrOp → List (Nat × Nat)
  | .request (.attachBuffer window _ _ _) (some a) =>
      if m.windows.any (·.id = window) then [(window, a.id)] else []
  | _ => []

/-- The window a call commits while it has a buffer to show. -/
def MgrOp.commits (m : WindowManager) : MgrOp → List Nat
  | .request (.commit window) _ => if m.windows.any (fun w => w.id = window && w.hasBuffer) then [window] else []
  | _ => []

/-! What a request hands in and commits, read per request: a proof about one
request rewrites with these and never unfolds the two matches. -/

section OpArms

variable (m : WindowManager) (a : Option Attachment)

theorem MgrOp.handed_attachBuffer (window width height format : Nat) (att : Attachment) :
    (MgrOp.request (.attachBuffer window width height format) (some att)).handed m =
      if m.windows.any (·.id = window) then [(window, att.id)] else [] := rfl

theorem MgrOp.handed_attachBuffer_none (window width height format : Nat) :
    (MgrOp.request (.attachBuffer window width height format) none).handed m = [] := rfl

theorem MgrOp.handed_createWindow : (MgrOp.request .createWindow a).handed m = [] := rfl

theorem MgrOp.handed_commit (window : Nat) : (MgrOp.request (.commit window) a).handed m = [] := rfl

theorem MgrOp.handed_destroyWindow (window : Nat) :
    (MgrOp.request (.destroyWindow window) a).handed m = [] := rfl

theorem MgrOp.commits_commit (window : Nat) :
    (MgrOp.request (.commit window) a).commits m =
      if m.windows.any (fun w => w.id = window && w.hasBuffer) then [window] else [] := rfl

theorem MgrOp.commits_attachBuffer (window width height format : Nat) :
    (MgrOp.request (.attachBuffer window width height format) a).commits m = [] := rfl

theorem MgrOp.commits_createWindow : (MgrOp.request .createWindow a).commits m = [] := rfl

theorem MgrOp.commits_destroyWindow (window : Nat) :
    (MgrOp.request (.destroyWindow window) a).commits m = [] := rfl

end OpArms

/-- A run of calls with what it handed in, what it released, the windows
committed since the last tick, and the ticks. -/
structure Ledger where
  manager : WindowManager
  handed : List (Nat × Nat)
  released : List (Nat × Nat)
  commits : List Nat
  ticks : Nat

def Ledger.step (l : Ledger) (op : MgrOp) : Ledger :=
  let r := op.apply l.manager
  match op with
  | .tick => ⟨r.1, l.handed, l.released ++ releasedBy r.2, [], l.ticks + 1⟩
  | .request .. =>
      ⟨r.1, l.handed ++ op.handed l.manager, l.released ++ releasedBy r.2, l.commits ++ op.commits l.manager,
        l.ticks⟩

def Ledger.run (ops : List MgrOp) : Ledger := ops.foldl Ledger.step ⟨WindowManager.new, [], [], [], 0⟩

theorem Ledger.step_request (l : Ledger) (r : Request) (a : Option Attachment) :
    l.step (.request r a) =
      ⟨(l.manager.handleRequest r a).1, l.handed ++ (MgrOp.request r a).handed l.manager,
        l.released ++ releasedBy (l.manager.handleRequest r a).2, l.commits ++ (MgrOp.request r a).commits l.manager,
        l.ticks⟩ := rfl

theorem Ledger.step_tick (l : Ledger) :
    l.step .tick = ⟨l.manager.tick.1, l.handed, l.released ++ releasedBy l.manager.tick.2, [], l.ticks + 1⟩ := rfl

/-! ## `window_mut` -/

@[simp] theorem releasedBy_append (e e' : List Event) : releasedBy (e ++ e') = releasedBy e ++ releasedBy e' :=
  List.filterMap_append

@[simp] theorem releasedBy_bufferReleased (window buffer : Nat) (e : List Event) :
    releasedBy (.bufferReleased window buffer :: e) = (window, buffer) :: releasedBy e := rfl

/-- An update of the first window with an id moves pairs only inside that
window; without one nothing changes. -/
theorem modifyWindow_conserves {id : Nat} {f : Window → Window × List Event} {extra : List (Nat × Nat)}
    (hf : ∀ w, w.id = id → (w.held ++ extra).Perm ((f w).1.held ++ releasedBy (f w).2)) :
    ∀ ws : List Window, ws.any (·.id = id) = true →
      (ws.flatMap Window.held ++ extra).Perm
        ((modifyWindow ws id f).1.flatMap Window.held ++ releasedBy (modifyWindow ws id f).2)
  | [], h => by simp at h
  | w :: rest, h => by
      rw [modifyWindow_cons]
      by_cases hw : w.id = id
      · -- the window found: its own pairs move as the request moves them
        rw [if_pos hw, List.flatMap_cons, List.flatMap_cons]
        dsimp only
        have hbefore : (w.held ++ rest.flatMap Window.held ++ extra).Perm
            ((w.held ++ extra) ++ rest.flatMap Window.held) := by
          rw [List.append_assoc, List.append_assoc]
          exact List.Perm.append_left _ List.perm_append_comm
        have hafter : (((f w).1.held ++ releasedBy (f w).2) ++ rest.flatMap Window.held).Perm
            ((f w).1.held ++ rest.flatMap Window.held ++ releasedBy (f w).2) := by
          rw [List.append_assoc, List.append_assoc]
          exact List.Perm.append_left _ List.perm_append_comm
        exact hbefore.trans (((hf w hw).append_right _).trans hafter)
      · rw [if_neg hw, List.flatMap_cons, List.flatMap_cons, List.append_assoc]
        dsimp only
        rw [List.append_assoc]
        refine (modifyWindow_conserves hf rest ?_).append_left _
        simpa [hw] using h

theorem modifyWindow_of_not_any {ws : List Window} {id : Nat} {f : Window → Window × List Event}
    (h : ws.any (·.id = id) = false) : modifyWindow ws id f = (ws, []) := by
  induction ws with
  | nil => rfl
  | cons w rest ih =>
      simp only [List.any_cons, Bool.or_eq_false_iff, decide_eq_false_iff_not] at h
      rw [modifyWindow_cons, if_neg h.1, ih h.2]

/-- With distinct ids, the update replaces the one window with the id. -/
theorem modifyWindow_fst {id : Nat} {f : Window → Window × List Event} :
    ∀ {ws : List Window}, (ws.map (·.id)).Nodup →
      (modifyWindow ws id f).1 = ws.map fun v => if v.id = id then (f v).1 else v
  | [], _ => rfl
  | w :: rest, hnd => by
      rw [List.map_cons, List.nodup_cons] at hnd
      rw [modifyWindow_cons]
      by_cases hw : w.id = id
      · -- no later window has the id, so the rest stays
        have hrest : rest.map (fun v => if v.id = id then (f v).1 else v) = rest := by
          conv_rhs => rw [← List.map_id rest]
          refine List.map_congr_left fun v hv => ?_
          rw [if_neg fun h => hnd.1 (List.mem_map.mpr ⟨v, hv, h.trans hw.symm⟩)]
          rfl
        rw [if_pos hw, List.map_cons, if_pos hw, hrest]
      · rw [if_neg hw, List.map_cons, if_neg hw, modifyWindow_fst hnd.2]

/-! ## One window -/

/-- A small permutation, by counting. -/
theorem perm_of_count {l l' : List (Nat × Nat)} (h : ∀ z, l.count z = l'.count z) : l.Perm l' :=
  List.perm_iff_count.mpr h

theorem Window.attach_conserves (w : Window) (a : Attachment) :
    (w.held ++ [(w.id, a.id)]).Perm ((w.attach a).1.held ++ releasedBy (w.attach a).2) := by
  unfold Window.attach Window.held
  cases hp : w.pending <;> cases hl : w.latched <;> simp [List.reduceOption, releasedBy]
  all_goals exact perm_of_count fun z => by simp only [List.count_cons, List.count_nil]; omega

theorem Window.commit_conserves (w : Window) :
    (w.held ++ []).Perm (w.commit.1.held ++ releasedBy w.commit.2) := by
  unfold Window.commit
  split_ifs with hnone
  · simp [releasedBy]
  · unfold Window.held
    cases hp : w.pending <;> cases hl : w.latched <;> simp [List.reduceOption, releasedBy]

@[simp] theorem Window.attach_id (w : Window) (a : Attachment) : (w.attach a).1.id = w.id := by
  unfold Window.attach
  split <;> rfl

@[simp] theorem Window.attach_awaitingFrame (w : Window) (a : Attachment) :
    (w.attach a).1.awaitingFrame = w.awaitingFrame := by
  unfold Window.attach
  split <;> rfl

@[simp] theorem Window.commit_id (w : Window) : w.commit.1.id = w.id := by
  unfold Window.commit
  split
  · rfl
  · split <;> rfl

/-- A commit leaves the window waiting for a frame when it has a buffer to show. -/
theorem Window.commit_awaitingFrame (w : Window) :
    w.commit.1.awaitingFrame = (w.hasBuffer || w.awaitingFrame) := by
  unfold Window.commit Window.hasBuffer
  cases hp : w.pending <;> cases hl : w.latched <;> simp

/-! ## One request -/

theorem flatMap_held_perm_erase {ws : List Window} {w : Window} (hw : w ∈ ws) :
    (ws.flatMap Window.held).Perm (w.held ++ (ws.erase w).flatMap Window.held) := by
  have := (List.perm_cons_erase hw).flatMap_right Window.held
  rwa [List.flatMap_cons] at this

/-- A request moves the handed pair into the windows, and every pair it takes
out of them into its events. -/
theorem handleRequest_conserves (m : WindowManager) (r : Request) (a : Option Attachment) :
    (m.held ++ (MgrOp.request r a).handed m).Perm
      ((m.handleRequest r a).1.held ++ releasedBy (m.handleRequest r a).2) := by
  cases r with
  | createWindow =>
      simp [WindowManager.handleRequest_createWindow, WindowManager.held, MgrOp.handed_createWindow, Window.held,
        List.reduceOption, releasedBy]
  | attachBuffer window width height format =>
      cases a with
      | none => simp [WindowManager.handleRequest_attachBuffer, MgrOp.handed_attachBuffer_none, releasedBy]
      | some a =>
          simp only [WindowManager.handleRequest_attachBuffer, MgrOp.handed_attachBuffer, WindowManager.held]
          by_cases hany : m.windows.any (·.id = window) = true
          · rw [if_pos hany]
            exact modifyWindow_conserves (fun w hw => hw ▸ w.attach_conserves a) _ hany
          · rw [if_neg hany, modifyWindow_of_not_any (Bool.eq_false_iff.mpr hany)]
            simp [releasedBy]
  | commit window =>
      simp only [WindowManager.handleRequest_commit, MgrOp.handed_commit, WindowManager.held]
      by_cases hany : m.windows.any (·.id = window) = true
      · exact modifyWindow_conserves (fun w _ => w.commit_conserves) _ hany
      · rw [modifyWindow_of_not_any (Bool.eq_false_iff.mpr hany)]
        simp [releasedBy]
  | destroyWindow window =>
      simp only [WindowManager.handleRequest_destroyWindow, MgrOp.handed_destroyWindow, WindowManager.held]
      cases hfind : m.windows.find? (fun w => w.id = window) with
      | none => simp [releasedBy]
      | some removed =>
          -- the removed window's buffers leave in its events, under its own id
          have hmem := List.mem_of_find?_eq_some hfind
          have hid : removed.id = window := by simpa using List.find?_some hfind
          have hrel : releasedBy ((([removed.pending, removed.latched].filterMap id).map fun a =>
              Event.bufferReleased window a.id) ++ [Event.closed window]) = removed.held := by
            rw [← hid]
            cases hp : removed.pending <;> cases hl : removed.latched <;>
              simp [releasedBy, Window.held, List.reduceOption, hp, hl]
          simp only [List.append_nil]
          rw [hrel]
          exact (flatMap_held_perm_erase hmem).trans List.perm_append_comm
  | damage | fill | setVisible | move => exact List.Perm.refl _

theorem tick_held (m : WindowManager) : m.tick.1.held = m.held := by
  simp only [WindowManager.tick_eq, WindowManager.held, List.flatMap_map]
  rfl

theorem releasedBy_tick (m : WindowManager) : releasedBy m.tick.2 = [] := by
  simp [WindowManager.tick_eq, releasedBy, List.filterMap_map]

/-! ## Runs -/

/-- What every run keeps: the handed pairs are the held and the released
ones; window ids are distinct and below the next id, as are the committed
ids; a window waits for a frame exactly when it was committed with a buffer
since the last tick; and the frame counter counts the ticks. -/
structure Ledger.Inv (l : Ledger) : Prop where
  conserved : l.handed.Perm (l.manager.held ++ l.released)
  ids : (l.manager.windows.map (·.id)).Nodup
  fresh : ∀ w ∈ l.manager.windows, w.id < l.manager.nextWindowId
  commitsFresh : ∀ c ∈ l.commits, c < l.manager.nextWindowId
  awaiting : ∀ w ∈ l.manager.windows, w.awaitingFrame = true ↔ w.id ∈ l.commits
  frame : l.manager.frame = l.ticks

theorem conserved_append {handed held released extra held' rel : List (Nat × Nat)}
    (hc : handed.Perm (held ++ released)) (hs : (held ++ extra).Perm (held' ++ rel)) :
    (handed ++ extra).Perm (held' ++ (released ++ rel)) :=
  perm_of_count fun z => by
    have h₁ := List.perm_iff_count.mp hc z
    have h₂ := List.perm_iff_count.mp hs z
    simp only [List.count_append] at h₁ h₂ ⊢
    omega

/-- Among windows of distinct ids, asking for the one with an id asks the window that has it. -/
theorem any_id_eq {ws : List Window} (hnd : (ws.map (·.id)).Nodup) {w : Window} (hw : w ∈ ws) (p : Window → Bool) :
    ws.any (fun v => v.id = w.id && p v) = p w := by
  cases hp : p w
  · refine Bool.eq_false_iff.mpr fun hany => ?_
    obtain ⟨v, hv, hvp⟩ := List.any_eq_true.mp hany
    simp only [Bool.and_eq_true, decide_eq_true_eq] at hvp
    rw [List.inj_on_of_nodup_map hnd hv hw hvp.1, hp] at hvp
    exact Bool.false_ne_true hvp.2
  · exact List.any_eq_true.mpr ⟨w, hw, by simp [hp]⟩

section Step

variable {l l' : Ledger}

/-- A step that changes windows one by one, keeping their ids, keeps the invariant
when it keeps the pairs and the waiting windows in step. -/
theorem Ledger.Inv.of_map (h : l.Inv) (g : Window → Window) (hg : ∀ w, (g w).id = w.id)
    (hws : l'.manager.windows = l.manager.windows.map g) (hnext : l'.manager.nextWindowId = l.manager.nextWindowId)
    (hframe : l'.manager.frame = l'.ticks) (hconserved : l'.handed.Perm (l'.manager.held ++ l'.released))
    (hcommits : ∀ c ∈ l'.commits, c < l.manager.nextWindowId)
    (hawait : ∀ w ∈ l.manager.windows, (g w).awaitingFrame = true ↔ w.id ∈ l'.commits) : l'.Inv := by
  have hids : l'.manager.windows.map (·.id) = l.manager.windows.map (·.id) := by
    rw [hws, List.map_map]
    exact List.map_congr_left fun w _ => hg w
  refine ⟨hconserved, hids ▸ h.ids, fun v hv => ?_, fun c hc => hnext ▸ hcommits c hc, fun v hv => ?_, hframe⟩
  · rw [hws] at hv
    obtain ⟨w, hw, rfl⟩ := List.mem_map.mp hv
    rw [hg, hnext]
    exact h.fresh w hw
  · rw [hws] at hv
    obtain ⟨w, hw, rfl⟩ := List.mem_map.mp hv
    rw [hg]
    exact hawait w hw

theorem Ledger.Inv.attach (h : l.Inv) (window width height format : Nat) (a : Option Attachment) :
    (l.step (.request (.attachBuffer window width height format) a)).Inv := by
  have hcons := handleRequest_conserves l.manager (.attachBuffer window width height format) a
  cases a with
  | none =>
      refine h.of_map (fun w => w) (fun _ => rfl) ?_ rfl h.frame ?_ ?_ ?_
      · exact (List.map_id' _).symm
      · simpa [Ledger.step_request, MgrOp.handed_attachBuffer_none, WindowManager.handleRequest_attachBuffer,
          releasedBy] using h.conserved
      · simpa [Ledger.step_request, MgrOp.commits_attachBuffer] using h.commitsFresh
      · simpa [Ledger.step_request, MgrOp.commits_attachBuffer] using h.awaiting
  | some a =>
      refine h.of_map (fun v => if v.id = window then (v.attach a).1 else v) (fun v => by split <;> simp) ?_ rfl
        h.frame (conserved_append h.conserved hcons) ?_ fun w hw => ?_
      · exact modifyWindow_fst h.ids
      · simpa [Ledger.step_request, MgrOp.commits_attachBuffer] using h.commitsFresh
      · simp only [Ledger.step_request, MgrOp.commits_attachBuffer, List.append_nil]
        split <;> simp [h.awaiting w hw]

theorem Ledger.Inv.commit (h : l.Inv) (window : Nat) (a : Option Attachment) :
    (l.step (.request (.commit window) a)).Inv := by
  have hcons := handleRequest_conserves l.manager (.commit window) a
  refine h.of_map (fun v => if v.id = window then v.commit.1 else v) (fun v => by split <;> simp) ?_ rfl
    h.frame (conserved_append h.conserved hcons) ?_ fun w hw => ?_
  · exact modifyWindow_fst h.ids
  · -- a committed id is an id of a window there
    intro c hc
    simp only [Ledger.step_request, MgrOp.commits_commit, List.mem_append] at hc
    rcases hc with hc | hc
    · exact h.commitsFresh c hc
    · split_ifs at hc with hany
      · obtain ⟨v, hv, hvid⟩ := List.any_eq_true.mp hany
        simp only [Bool.and_eq_true, decide_eq_true_eq] at hvid
        rw [List.mem_singleton.mp hc, ← hvid.1]
        exact h.fresh v hv
      · exact absurd hc List.not_mem_nil
  · simp only [Ledger.step_request, MgrOp.commits_commit, List.mem_append]
    by_cases hid : w.id = window
    · -- the committed window waits exactly when it has a buffer, or already waited
      subst hid
      rw [if_pos rfl, Window.commit_awaitingFrame, any_id_eq h.ids hw, Bool.or_eq_true, h.awaiting w hw]
      cases w.hasBuffer <;> simp [or_comm]
    · rw [if_neg hid, h.awaiting w hw]
      split <;> simp [hid]

/-- Requests that touch only what the ledger does not see. -/
theorem Ledger.Inv.unchanged (h : l.Inv) (r : Request) (a : Option Attachment)
    (hr : l.manager.handleRequest r a = (l.manager, [])) (hhanded : (MgrOp.request r a).handed l.manager = [])
    (hcommits : (MgrOp.request r a).commits l.manager = []) : (l.step (.request r a)).Inv := by
  have hstep : l.step (.request r a) = l := by
    simp only [Ledger.step_request, hr, hhanded, hcommits, releasedBy, List.filterMap_nil, List.append_nil]
  rw [hstep]
  exact h

theorem Ledger.Inv.create (h : l.Inv) (a : Option Attachment) : (l.step (.request .createWindow a)).Inv := by
  have hcons := handleRequest_conserves l.manager .createWindow a
  have hnext : l.manager.nextWindowId ∉ l.commits := fun hc => Nat.lt_irrefl _ (h.commitsFresh _ hc)
  have hws : (l.step (.request .createWindow a)).manager.windows =
      l.manager.windows ++ [⟨l.manager.nextWindowId, none, none, false⟩] := rfl
  have hcommits : (l.step (.request .createWindow a)).commits = l.commits := by
    simp [Ledger.step_request, MgrOp.commits_createWindow]
  refine ⟨conserved_append h.conserved hcons, ?_, fun v hv => ?_, fun c hc => ?_, fun v hv => ?_, h.frame⟩
  · -- the new window's id is above every id there
    rw [hws, List.map_append, List.nodup_append]
    refine ⟨h.ids, List.nodup_singleton _, fun x hx y hy => ?_⟩
    obtain ⟨w, hw, rfl⟩ := List.mem_map.mp hx
    rw [List.map_singleton, List.mem_singleton] at hy
    exact hy ▸ Nat.ne_of_lt (h.fresh w hw)
  · rw [hws, List.mem_append, List.mem_singleton] at hv
    rcases hv with hv | rfl
    · exact Nat.lt_succ_of_lt (h.fresh v hv)
    · exact Nat.lt_succ_self _
  · rw [hcommits] at hc
    exact Nat.lt_succ_of_lt (h.commitsFresh c hc)
  · rw [hws, List.mem_append, List.mem_singleton] at hv
    rw [hcommits]
    rcases hv with hv | rfl
    · exact h.awaiting v hv
    · simpa using hnext

theorem Ledger.Inv.destroy (h : l.Inv) (window : Nat) (a : Option Attachment) :
    (l.step (.request (.destroyWindow window) a)).Inv := by
  have hcons := handleRequest_conserves l.manager (.destroyWindow window) a
  simp only [Ledger.step_request, WindowManager.handleRequest_destroyWindow, MgrOp.commits_destroyWindow,
    List.append_nil] at hcons ⊢
  cases hfind : l.manager.windows.find? (fun w => w.id = window) with
  | none =>
      rw [hfind] at hcons
      exact ⟨conserved_append h.conserved hcons, h.ids, h.fresh, h.commitsFresh, h.awaiting, h.frame⟩
  | some removed =>
      -- the windows left are some of those there
      rw [hfind] at hcons
      have hsub : ∀ v ∈ l.manager.windows.erase removed, v ∈ l.manager.windows :=
        fun v hv => List.mem_of_mem_erase hv
      exact ⟨conserved_append h.conserved hcons, h.ids.sublist ((List.erase_sublist).map _),
        fun v hv => h.fresh v (hsub v hv), h.commitsFresh, fun v hv => h.awaiting v (hsub v hv), h.frame⟩

theorem Ledger.Inv.tick (h : l.Inv) : (l.step .tick).Inv := by
  refine h.of_map (fun w => { w with awaitingFrame := false }) (fun _ => rfl) rfl rfl ?_ ?_ ?_ ?_
  · simp only [Ledger.step_tick, WindowManager.tick_eq, h.frame]
  · simp only [Ledger.step_tick, tick_held, releasedBy_tick, List.append_nil]
    exact h.conserved
  · simp [Ledger.step_tick]
  · simp [Ledger.step_tick]

theorem Ledger.Inv.step (h : l.Inv) (op : MgrOp) : (l.step op).Inv := by
  cases op with
  | request r a =>
      cases r with
      | createWindow => exact h.create a
      | attachBuffer window width height format => exact h.attach window width height format a
      | commit window => exact h.commit window a
      | destroyWindow window => exact h.destroy window a
      | damage window rect | fill window rect colour | setVisible window visible | move window x y =>
          exact h.unchanged _ a rfl rfl rfl
  | tick => exact h.tick

end Step

theorem Ledger.Inv.foldl {l : Ledger} (h : l.Inv) (ops : List MgrOp) : (ops.foldl Ledger.step l).Inv := by
  induction ops generalizing l with
  | nil => exact h
  | cons op ops ih => exact ih (h.step op)

theorem Ledger.Inv.run (ops : List MgrOp) : (Ledger.run ops).Inv := by
  have h : Ledger.Inv ⟨WindowManager.new, [], [], [], 0⟩ :=
    ⟨List.Perm.refl _, List.nodup_nil, by simp [WindowManager.new], by simp, by simp [WindowManager.new], rfl⟩
  exact h.foldl ops

/-- After any run of requests and ticks: every buffer handed to a window is
held by it or was released, and, when the buffer ids are distinct, released
once and never while held; the next tick answers once each window committed
with a buffer since the last tick and not destroyed, with the number of
ticks so far. -/
theorem window_buffers_released_once (ops : List MgrOp) :
    let l := Ledger.run ops
    l.handed.Perm (l.manager.held ++ l.released) ∧
      (l.handed.Nodup → l.released.Nodup ∧ ∀ p ∈ l.released, p ∉ l.manager.held) ∧
      l.manager.tick.2 = (l.manager.windows.filter fun w => w.id ∈ l.commits).map
        (fun w => .frameDone w.id (l.ticks + 1)) ∧
      (l.manager.windows.map (·.id)).Nodup := by
  intro l
  have h : l.Inv := Ledger.Inv.run ops
  refine ⟨h.conserved, fun hnd => ?_, ?_, h.ids⟩
  · -- distinct handed pairs: the held and the released ones are distinct too
    have hnd' := (h.conserved.nodup_iff.mp hnd)
    rw [List.nodup_append] at hnd'
    exact ⟨hnd'.2.1, fun p hp hheld => hnd'.2.2 p hheld p hp rfl⟩
  · simp only [WindowManager.tick_eq, h.frame]
    congr 1
    exact List.filter_congr fun w hw => by
      rw [Bool.eq_iff_iff, decide_eq_true_iff]
      exact h.awaiting w hw

/-- A window gets two buffers and commits each: the first goes back when the
second is latched, and the next tick answers the commits once. -/
theorem window_buffers_released_once_two :
    let l := Ledger.run [.request .createWindow none, .request (.attachBuffer 1 1 1 1) (some ⟨0, 4, 1, 1⟩),
      .request (.commit 1) none, .request (.attachBuffer 1 1 1 1) (some ⟨1, 4, 1, 1⟩), .request (.commit 1) none]
    l.released = [(1, 0)] ∧ (1, 0) ∉ l.manager.held ∧ l.manager.tick.2 = [.frameDone 1 1] := by
  intro l
  have h := window_buffers_released_once [.request .createWindow none,
    .request (.attachBuffer 1 1 1 1) (some ⟨0, 4, 1, 1⟩), .request (.commit 1) none,
    .request (.attachBuffer 1 1 1 1) (some ⟨1, 4, 1, 1⟩), .request (.commit 1) none]
  have hreleased : l.released = [(1, 0)] := by decide
  refine ⟨hreleased, (h.2.1 (by decide)).2 (1, 0) (by rw [hreleased]; exact List.mem_singleton_self _), ?_⟩
  rw [h.2.2.1]
  decide

end PandaOs.Compositor
