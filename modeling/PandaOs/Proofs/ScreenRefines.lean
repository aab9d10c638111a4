import PandaOs.Compositor.Screen
import PandaOs.Proofs.WindowBuffers
import PandaOs.Lib.Run

/-!
# The window manager that draws refines the one that only answers

`Manager` keeps of the compositor only what decides the event stream;
`Screen` is the manager that draws. Seen through `WindowManager.abs`, which
forgets positions, sizes, visibility, damage, the dirty regions, the target
and every byte of a client's buffer but their count, each request and each
tick the drawing manager completes is a step of the event-level manager,
with the same events (`WindowManager.step_refines`). A run that does not
panic is then a run of the event-level manager (`WindowManager.run_refines`,
by the simulation rule of `Lib.Run`), and what `WindowBuffers` proves of
those runs holds of the compositor that draws: every buffer handed to a
window is held or released, and released once (`screen_buffers_released_once`).

The two managers find a window differently. `Manager` updates the first
window with the id through `modifyWindow` and destroys with `List.erase`;
`Screen` looks the window up with `find?` and then updates or removes by
id. Both touch the first window with the id (`modifyWindow_abs`,
`erase_eq_eraseP_of_find?`).
-/

namespace PandaOs.Compositor

open PandaOs.Lib

/-! ## The ledger of a run -/

@[simp] theorem Ledger.step_manager (l : Ledger) (op : MgrOp) : (l.step op).manager = (op.apply l.manager).1 := by
  cases op <;> rfl

@[simp] theorem Ledger.step_released (l : Ledger) (op : MgrOp) :
    (l.step op).released = l.released ++ releasedBy (op.apply l.manager).2 := by
  cases op <;> rfl

/-- The ledger follows the plain run: its manager is the run's, and what it
records as released is what the run's events release. -/
theorem Ledger.foldl_runLog (ops : List MgrOp) :
    ∀ (l : Ledger) (log : List Event), l.released = releasedBy log →
      (ops.foldl Ledger.step l).manager = (runLog MgrOp.apply (l.manager, log) ops).1 ∧
        (ops.foldl Ledger.step l).released = releasedBy (runLog MgrOp.apply (l.manager, log) ops).2 := by
  induction ops with
  | nil => intro l log h; exact ⟨rfl, h⟩
  | cons op ops ih =>
      intro l log h
      rw [List.foldl_cons, runLog_cons, ← Ledger.step_manager]
      exact ih _ _ (by rw [Ledger.step_released, h, releasedBy_append])

namespace Screen

/-- What the event-level manager keeps of an attachment: the id it is
released under, the length of the mapping and the geometry. -/
def Attachment.abs (a : Attachment) : Compositor.Attachment := ⟨a.id, a.data.len, a.width, a.height⟩

/-- What the event-level manager keeps of a window. -/
def Window.abs (w : Window) : Compositor.Window :=
  ⟨w.id, w.pending.map Attachment.abs, w.latched.map Attachment.abs, w.awaitingFrame⟩

/-- What the event-level manager keeps of the manager. -/
def WindowManager.abs (m : WindowManager) : Compositor.WindowManager :=
  ⟨m.windows.map Window.abs, m.nextWindowId, m.frame⟩

/-- An input of the frame loop as a call on the event-level manager. -/
def Input.abs : Input → MgrOp
  | .request r a => .request r (a.map Attachment.abs)
  | .tick => .tick

@[simp] theorem Attachment.abs_id (a : Attachment) : a.abs.id = a.id := rfl

@[simp] theorem Window.abs_id (w : Window) : w.abs.id = w.id := rfl

/-- `map_attachment` validates the same at both levels. -/
theorem Attachment.abs_new (id : Nat) (data : Slice) (width height format : Nat) :
    (Attachment.new id data width height format).map Attachment.abs =
      Compositor.Attachment.new id data.len width height format := by
  unfold Attachment.new Compositor.Attachment.new
  dsimp only
  split_ifs <;> rfl

/-! ## Finding a window -/

theorem find?_abs (ws : List Window) (id : Nat) :
    (ws.map Window.abs).find? (fun w => w.id = id) = (ws.find? (·.id = id)).map Window.abs := by
  rw [List.find?_map]
  rfl

/-- `modifyWindow` on the abstract windows is `updateWindow` on the windows,
when the two updates agree on the window found. -/
theorem modifyWindow_abs {id : Nat} {f : Window → Window}
    {g : Compositor.Window → Compositor.Window × List Event} {events : List Event} :
    ∀ {ws : List Window} {w : Window}, ws.find? (·.id = id) = some w → g w.abs = ((f w).abs, events) →
      modifyWindow (ws.map Window.abs) id g = ((updateWindow ws id f).map Window.abs, events)
  | [], _, hfind, _ => by simp at hfind
  | v :: rest, w, hfind, hg => by
      rw [List.find?_cons] at hfind
      by_cases hv : v.id = id
      · -- the head is the window found
        simp only [hv, decide_true, Option.some.injEq] at hfind
        subst hfind
        simp [modifyWindow_cons, updateWindow_cons, hv, hg]
      · simp only [hv, decide_false] at hfind
        have ih := modifyWindow_abs hfind hg
        simp only [List.map_cons, modifyWindow_cons, updateWindow_cons, Window.abs_id, hv, if_false, ih]

/-- Without a window with the id, neither update changes anything. -/
theorem modifyWindow_abs_of_find?_none {id : Nat} {f : Window → Window}
    {g : Compositor.Window → Compositor.Window × List Event} :
    ∀ {ws : List Window}, ws.find? (·.id = id) = none →
      modifyWindow (ws.map Window.abs) id g = (ws.map Window.abs, []) ∧ updateWindow ws id f = ws
  | [], _ => ⟨rfl, rfl⟩
  | v :: rest, hfind => by
      rw [List.find?_cons] at hfind
      by_cases hv : v.id = id
      · simp [hv] at hfind
      · simp only [hv, decide_false] at hfind
        have ih := modifyWindow_abs_of_find?_none (f := f) (g := g) hfind
        simp only [List.map_cons, modifyWindow_cons, updateWindow_cons, Window.abs_id, hv, if_false, ih, and_self]

/-- An update of the window found that keeps what the event-level manager
sees keeps the abstract windows. -/
theorem updateWindow_abs_of_find? {id : Nat} {f : Window → Window} :
    ∀ {ws : List Window} {w : Window}, ws.find? (·.id = id) = some w → (f w).abs = w.abs →
      (updateWindow ws id f).map Window.abs = ws.map Window.abs
  | [], _, hfind, _ => by simp at hfind
  | v :: rest, w, hfind, hf => by
      rw [List.find?_cons] at hfind
      by_cases hv : v.id = id
      · simp only [hv, decide_true, Option.some.injEq] at hfind
        subst hfind
        simp [updateWindow_cons, hv, hf]
      · simp only [hv, decide_false] at hfind
        simp [updateWindow_cons, hv, updateWindow_abs_of_find? hfind hf]

theorem updateWindow_abs {id : Nat} {f : Window → Window} (hf : ∀ w, (f w).abs = w.abs)
    (ws : List Window) : (updateWindow ws id f).map Window.abs = ws.map Window.abs := by
  cases hfind : ws.find? (·.id = id) with
  | none => rw [(modifyWindow_abs_of_find?_none (g := fun v => (v, [])) hfind).2]
  | some w => exact updateWindow_abs_of_find? hfind (hf w)

/-- Erasing the window `find?` returned erases the first window with its id. -/
theorem erase_eq_eraseP_of_find? {id : Nat} :
    ∀ {ws : List Compositor.Window} {w : Compositor.Window}, ws.find? (fun v => v.id = id) = some w →
      ws.erase w = ws.eraseP (fun v => v.id = id)
  | [], _, hfind => by simp at hfind
  | v :: rest, w, hfind => by
      rw [List.find?_cons] at hfind
      by_cases hv : v.id = id
      · simp only [hv, decide_true, Option.some.injEq] at hfind
        subst hfind
        simp [hv]
      · simp only [hv, decide_false] at hfind
        -- the found window has the id, so it is not the head
        have hne : v ≠ w := fun h => hv (h ▸ by simpa using List.find?_some hfind)
        rw [List.erase_cons_tail (by simpa using hne), List.eraseP_cons_of_neg (by simpa using hv),
          erase_eq_eraseP_of_find? hfind]

/-! ## What a step changes -/

/-- A step that ends by recomputing the dirty regions: what the event-level
manager sees is fixed before the regions are. -/
theorem ok_of_regions {ws : List Window} {target : Option MemoryTarget} {next frame : Nat}
    {events events' : List Event} {regions : PanicM (List Rect)} {m' : WindowManager}
    (h : (regions >>= fun rs => pure (⟨ws, rs, target, next, frame⟩, events)) = .ok (m', events')) :
    m'.abs = ⟨ws.map Window.abs, next, frame⟩ ∧ events' = events := by
  obtain ⟨rs, -, h⟩ := except_bind_eq_ok.mp h
  cases h
  exact ⟨rfl, rfl⟩

/-- `fill_buffer` writes pixels in place: the slice keeps its length. -/
theorem fillBuffer_len {data d : Slice} {width height : Nat} {rect : Rect} {colour : Nat}
    (h : fillBuffer data width height rect colour = .ok d) : d.len = data.len := by
  unfold fillBuffer at h
  obtain ⟨clip, -, h⟩ := except_bind_eq_ok.mp h
  cases clip with
  | none => cases h; rfl
  | some clip =>
      obtain ⟨bottom, -, h⟩ := except_bind_eq_ok.mp h
      -- the row loop, then the column loop, each keeping the length
      refine foldlM_except_inv _ (fun d' : Slice => d'.len = data.len) ?_ _ data d rfl h
      intro s y s' hs hrow
      obtain ⟨right, -, hrow⟩ := except_bind_eq_ok.mp hrow
      refine foldlM_except_inv _ (fun d' : Slice => d'.len = data.len) ?_ _ s s' hs hrow
      intro t x t' ht hpix
      obtain ⟨o₁, -, hpix⟩ := except_bind_eq_ok.mp hpix
      obtain ⟨o₂, -, hpix⟩ := except_bind_eq_ok.mp hpix
      obtain ⟨offset, -, hpix⟩ := except_bind_eq_ok.mp hpix
      split at hpix <;> cases hpix <;> exact ht

theorem fillWindow_abs {w w' : Window} {rect : Rect} {colour : Nat}
    (h : WindowManager.fillWindow w rect colour = .ok (some w')) : w'.abs = w.abs := by
  unfold WindowManager.fillWindow at h
  split at h
  · rename_i content _ hp
    obtain ⟨data, hdata, h⟩ := except_bind_eq_ok.mp h
    cases h
    simp [Window.abs, Attachment.abs, hp, fillBuffer_len hdata]
  · rename_i content hp hl
    obtain ⟨data, hdata, h⟩ := except_bind_eq_ok.mp h
    cases h
    simp [Window.abs, Attachment.abs, hp, hl, fillBuffer_len hdata]
  · cases h

theorem composite_abs {m m' : WindowManager} (h : m.composite = .ok m') :
    m'.windows = m.windows ∧ m'.nextWindowId = m.nextWindowId ∧ m'.frame = m.frame := by
  unfold WindowManager.composite at h
  split at h
  · cases h; exact ⟨rfl, rfl, rfl⟩
  · split at h
    · cases h; exact ⟨rfl, rfl, rfl⟩
    · obtain ⟨t, -, h⟩ := except_bind_eq_ok.mp h
      cases h
      exact ⟨rfl, rfl, rfl⟩

/-! ## One request -/

section Request

variable {m m' : WindowManager} {events : List Event} {attachment : Option Attachment}

/-- A `Manager` arm that updates the window found through `modifyWindow`
is the `Screen` arm that updates it through `updateWindow`, when the two
updates agree on that window. -/
theorem modifyWindow_refines {id : Nat} {f : Window → Window}
    {g : Compositor.Window → Compositor.Window × List Event} {w : Window} {e : List Event}
    (hfind : m.windows.find? (·.id = id) = some w) (hg : g w.abs = ((f w).abs, e)) :
    (let r := modifyWindow m.abs.windows id g; ({ m.abs with windows := r.1 }, r.2)) =
      ((⟨(updateWindow m.windows id f).map Window.abs, m.nextWindowId, m.frame⟩ : Compositor.WindowManager), e) := by
  simp only [WindowManager.abs, modifyWindow_abs hfind hg]

theorem createWindow_refines (h : m.handleRequest .createWindow attachment = .ok (m', events)) :
    m.abs.handleRequest .createWindow (attachment.map Attachment.abs) = (m'.abs, events) := by
  cases h
  simp [WindowManager.abs, Compositor.WindowManager.handleRequest_createWindow, Window.abs]

theorem attachBuffer_refines {window width height format : Nat}
    (h : m.handleRequest (.attachBuffer window width height format) attachment = .ok (m', events)) :
    m.abs.handleRequest (.attachBuffer window width height format) (attachment.map Attachment.abs) =
      (m'.abs, events) := by
  simp only [WindowManager.handleRequest_attachBuffer] at h
  cases attachment with
  | none => cases h; rfl
  | some a =>
      cases hfind : m.windows.find? (·.id = window) with
      | none =>
          simp only [hfind] at h
          cases h
          simp [Compositor.WindowManager.handleRequest_attachBuffer, WindowManager.abs,
            (modifyWindow_abs_of_find?_none (f := id) hfind).1]
      | some w =>
          simp only [hfind] at h
          cases h
          -- the buffer replaced, if any, goes back under the window's id
          have hid : w.id = window := by simpa using List.find?_some hfind
          exact modifyWindow_refines hfind (by
            cases hp : w.pending <;> simp [Compositor.Window.attach, Window.abs, hp, hid])

/-- The `Commit` arm on a window with something attached. -/
theorem commitWindow_refines {window : Nat} {w : Window} {a : Option Compositor.Attachment}
    (hfind : m.windows.find? (·.id = window) = some w) (hbuf : ¬(w.pending.isNone ∧ w.latched.isNone))
    (h : m.commitWindow window w = .ok (m', events)) :
    m.abs.handleRequest (.commit window) a = (m'.abs, events) := by
  have hid : w.id = window := by simpa using List.find?_some hfind
  unfold WindowManager.commitWindow at h
  cases hp : w.pending <;> cases hl : w.latched <;> simp only [hp, hl] at h hbuf
  · simp at hbuf
  -- whether the commit redraws or not, the window it leaves is `Window.commit`'s
  all_goals
    split at h
    · cases h
      exact modifyWindow_refines hfind (by simp [Compositor.Window.commit, Window.abs, hp, hl, hid])
    · split at h <;>
        obtain ⟨hm', rfl⟩ := ok_of_regions h <;>
        rw [hm'] <;>
        exact modifyWindow_refines hfind (by simp [Compositor.Window.commit, Window.abs, hp, hl, hid])

theorem commit_refines {window : Nat} (h : m.handleRequest (.commit window) attachment = .ok (m', events)) :
    m.abs.handleRequest (.commit window) (attachment.map Attachment.abs) = (m'.abs, events) := by
  simp only [WindowManager.handleRequest_commit] at h
  cases hfind : m.windows.find? (·.id = window) with
  | none =>
      simp only [hfind] at h
      cases h
      simp [Compositor.WindowManager.handleRequest_commit, WindowManager.abs,
        (modifyWindow_abs_of_find?_none (f := id) hfind).1]
  | some w =>
      simp only [hfind] at h
      split_ifs at h with hbuf
      · -- nothing attached: `Window.commit` leaves the window as it is
        cases h
        have hcommit := modifyWindow_refines (f := fun v => v) (g := Compositor.Window.commit) (e := [])
          hfind (by simp [Compositor.Window.commit, Window.abs, Option.isNone_iff_eq_none.mp hbuf.1,
            Option.isNone_iff_eq_none.mp hbuf.2])
        rw [updateWindow_abs (fun _ => rfl)] at hcommit
        exact hcommit
      · exact commitWindow_refines hfind hbuf h

theorem damage_refines {window : Nat} {rect : Rect}
    (h : m.handleRequest (.damage window rect) attachment = .ok (m', events)) :
    m.abs.handleRequest (.damage window rect) (attachment.map Attachment.abs) = (m'.abs, events) := by
  cases h
  -- damage is kept for the next commit, out of the event-level manager's sight
  have hdamaged : (updateWindow m.windows window fun w =>
      { w with pendingDamage := w.pendingDamage ++ [rect] }).map Window.abs = m.windows.map Window.abs :=
    updateWindow_abs (fun _ => by rfl) m.windows
  simp [Compositor.WindowManager.handleRequest_damage, WindowManager.abs, hdamaged]

theorem fill_refines {window : Nat} {rect : Rect} {colour : Nat}
    (h : m.handleRequest (.fill window rect colour) attachment = .ok (m', events)) :
    m.abs.handleRequest (.fill window rect colour) (attachment.map Attachment.abs) = (m'.abs, events) := by
  simp only [WindowManager.handleRequest_fill] at h
  cases hfind : m.windows.find? (·.id = window) with
  | none => simp only [hfind] at h; cases h; rfl
  | some w =>
      simp only [hfind] at h
      obtain ⟨filled, hfill, h⟩ := except_bind_eq_ok.mp h
      cases filled with
      | none => cases h; rfl
      | some w' =>
          -- the filled window differs in its bytes and its damage only
          cases h
          simp [Compositor.WindowManager.handleRequest_fill, WindowManager.abs,
            updateWindow_abs_of_find? (f := fun _ => w') hfind (fillWindow_abs hfill)]

theorem setVisible_refines {window : Nat} {visible : Bool}
    (h : m.handleRequest (.setVisible window visible) attachment = .ok (m', events)) :
    m.abs.handleRequest (.setVisible window visible) (attachment.map Attachment.abs) = (m'.abs, events) := by
  simp only [WindowManager.handleRequest_setVisible] at h
  cases hfind : m.windows.find? (·.id = window) with
  | none => simp only [hfind] at h; cases h; rfl
  | some w =>
      simp only [hfind] at h
      split_ifs at h
      · cases h; rfl
      · obtain ⟨hm', rfl⟩ := ok_of_regions h
        have hshown : (updateWindow m.windows window fun w => { w with visible }).map Window.abs =
            m.windows.map Window.abs := updateWindow_abs (fun _ => by rfl) m.windows
        rw [hm']
        simp [Compositor.WindowManager.handleRequest_setVisible, WindowManager.abs, hshown]

theorem move_refines {window x y : Nat}
    (h : m.handleRequest (.move window x y) attachment = .ok (m', events)) :
    m.abs.handleRequest (.move window x y) (attachment.map Attachment.abs) = (m'.abs, events) := by
  simp only [WindowManager.handleRequest_move] at h
  cases hfind : m.windows.find? (·.id = window) with
  | none => simp only [hfind] at h; cases h; rfl
  | some w =>
      simp only [hfind] at h
      -- the moved window differs in its position only
      have hmoved : (updateWindow m.windows window fun _ => { w with position := (x, y) }).map Window.abs =
          m.windows.map Window.abs := updateWindow_abs_of_find? hfind rfl
      split at h
      · cases h
        simp [Compositor.WindowManager.handleRequest_move, WindowManager.abs, hmoved]
      · obtain ⟨regions, -, h⟩ := except_bind_eq_ok.mp h
        obtain ⟨hm', rfl⟩ := ok_of_regions h
        rw [hm']
        simp [Compositor.WindowManager.handleRequest_move, WindowManager.abs, hmoved]

theorem destroyWindow_refines {window : Nat}
    (h : m.handleRequest (.destroyWindow window) attachment = .ok (m', events)) :
    m.abs.handleRequest (.destroyWindow window) (attachment.map Attachment.abs) = (m'.abs, events) := by
  simp only [WindowManager.handleRequest_destroyWindow] at h
  have hfind' := find?_abs m.windows window
  cases hfind : m.windows.find? (·.id = window) with
  | none =>
      simp only [hfind] at h
      cases h
      simp [Compositor.WindowManager.handleRequest_destroyWindow, WindowManager.abs, hfind', hfind]
  | some removed =>
      simp only [hfind] at h
      rw [hfind, Option.map_some] at hfind'
      -- the screen is redrawn where the window was, if it showed
      have hdestroyed : m'.abs = ⟨(m.windows.eraseP (·.id = window)).map Window.abs, m.nextWindowId, m.frame⟩ ∧
          events = [removed.pending, removed.latched].reduceOption.map (fun a => Event.bufferReleased window a.id) ++
            [Event.closed window] := by
        split at h <;> exact ok_of_regions h
      obtain ⟨hm', rfl⟩ := hdestroyed
      -- `erase` of the window found is `eraseP` by its id
      have herase : (m.windows.map Window.abs).erase removed.abs =
          (m.windows.eraseP (·.id = window)).map Window.abs := by
        rw [erase_eq_eraseP_of_find? hfind', List.eraseP_map]
        rfl
      rw [hm']
      simp only [Compositor.WindowManager.handleRequest_destroyWindow, WindowManager.abs, hfind', herase]
      cases hp : removed.pending <;> cases hl : removed.latched <;>
        simp [Window.abs, hp, hl, List.reduceOption]

theorem handleRequest_refines {request : Request}
    (h : m.handleRequest request attachment = .ok (m', events)) :
    m.abs.handleRequest request (attachment.map Attachment.abs) = (m'.abs, events) := by
  cases request with
  | createWindow => exact createWindow_refines h
  | attachBuffer window width height format => exact attachBuffer_refines h
  | damage window rect => exact damage_refines h
  | commit window => exact commit_refines h
  | fill window rect colour => exact fill_refines h
  | setVisible window visible => exact setVisible_refines h
  | move window x y => exact move_refines h
  | destroyWindow window => exact destroyWindow_refines h

theorem tick_refines (h : m.tick = .ok (m', events)) : m.abs.tick = (m'.abs, events) := by
  unfold WindowManager.tick at h
  obtain ⟨c, hc, h⟩ := except_bind_eq_ok.mp h
  obtain ⟨hws, hnext, hframe⟩ := composite_abs hc
  cases h
  simp [Compositor.WindowManager.tick_eq, WindowManager.abs, Window.abs, hws, hnext, hframe,
    List.filter_map, Function.comp_def]

end Request

/-! ## Runs -/

/-- Each input the frame loop completes is a call on the event-level
manager, with the same events. -/
theorem WindowManager.step_refines {m m' : WindowManager} {input : Input} {events : List Event}
    (h : m.step input = .ok (m', events)) : input.abs.apply m.abs = (m'.abs, events) := by
  cases input with
  | request r a => exact handleRequest_refines h
  | tick => exact tick_refines h

theorem WindowManager.run_refines {m m' : WindowManager} {inputs : List Input} {events : List Event}
    (h : m.run inputs = .ok (m', events)) :
    runLog MgrOp.apply (m.abs, []) (inputs.map Input.abs) = (m'.abs, events) := by
  have hsim := runLog_of_simulates WindowManager.step WindowManager.run MgrOp.apply WindowManager.abs Input.abs
    (fun _ => rfl) (fun _ _ _ => rfl) (fun _ _ _ _ hs => WindowManager.step_refines hs) inputs m m' events [] h
  rwa [List.nil_append] at hsim

/-- A freshly cleared screen has no windows. -/
theorem WindowManager.new_abs {target : Option MemoryTarget} {m : WindowManager}
    (h : WindowManager.new target = .ok m) : m.abs = Compositor.WindowManager.new := by
  unfold WindowManager.new at h
  cases target with
  | none => cases h; rfl
  | some t =>
      obtain ⟨t', -, h⟩ := except_bind_eq_ok.mp h
      cases h
      rfl

/-- A run of the frame loop from a freshly cleared screen that does not
panic: the ledger of the same calls on the event-level manager ends in the
screen's manager and releases what the run's events release. -/
theorem Ledger.run_abs {target : Option MemoryTarget} {inputs : List Input} {m : WindowManager}
    {events : List Event} (h : (WindowManager.new target >>= fun m => m.run inputs) = .ok (m, events)) :
    (Ledger.run (inputs.map Input.abs)).manager = m.abs ∧
      (Ledger.run (inputs.map Input.abs)).released = releasedBy events := by
  obtain ⟨m₀, h₀, hrun⟩ := except_bind_eq_ok.mp h
  have hsim := WindowManager.run_refines hrun
  rw [WindowManager.new_abs h₀] at hsim
  have hl := Ledger.foldl_runLog (inputs.map Input.abs) ⟨Compositor.WindowManager.new, [], [], [], 0⟩ [] rfl
  rw [hsim] at hl
  exact hl

theorem screen_buffers_released_once {target : Option MemoryTarget} {inputs : List Input}
    {m : WindowManager} {events : List Event}
    (h : (WindowManager.new target >>= fun m => m.run inputs) = .ok (m, events)) :
    let l := Ledger.run (inputs.map Input.abs)
    l.handed.Perm (m.abs.held ++ releasedBy events) ∧
      (l.handed.Nodup → (releasedBy events).Nodup ∧ ∀ p ∈ releasedBy events, p ∉ m.abs.held) ∧
      (m.windows.map (·.id)).Nodup ∧
      ∀ m'' ticked, m.tick = .ok (m'', ticked) →
        ticked = (m.windows.filter fun w => w.id ∈ l.commits).map fun w => .frameDone w.id (l.ticks + 1) := by
  intro l
  obtain ⟨hman, hrel⟩ := Ledger.run_abs h
  have hinv : l.Inv := Ledger.Inv.run _
  have hconserved : l.handed.Perm (m.abs.held ++ releasedBy events) := by
    rw [← hman, ← hrel]
    exact hinv.conserved
  refine ⟨hconserved, fun hnd => ?_, ?_, fun m'' ticked htick => ?_⟩
  · -- distinct handed pairs: the held and the released ones are distinct too
    have hnd' := hconserved.nodup_iff.mp hnd
    rw [List.nodup_append] at hnd'
    exact ⟨hnd'.2.1, fun p hp hheld => hnd'.2.2 p hheld p hp rfl⟩
  · have hids := hinv.ids
    rw [hman] at hids
    simpa [WindowManager.abs, List.map_map, Function.comp_def] using hids
  · -- the tick of the screen is the event-level tick; a window waits exactly when committed
    have hticked : ticked = m.abs.tick.2 := by rw [tick_refines htick]
    have hframe : m.frame = l.ticks := by rw [← hinv.frame, hman]; rfl
    have hawait : ∀ w ∈ m.windows, w.awaitingFrame = true ↔ w.id ∈ l.commits := fun w hw => by
      have := hinv.awaiting w.abs (by rw [hman]; exact List.mem_map_of_mem hw)
      simpa [Window.abs] using this
    rw [hticked]
    simp only [Compositor.WindowManager.tick_eq, WindowManager.abs, List.filter_map, List.map_map, hframe]
    congr 1
    exact List.filter_congr fun w hw => by
      rw [Function.comp_apply, Bool.eq_iff_iff, decide_eq_true_iff]
      exact hawait w hw

/-- A window shown with two one-pixel buffers in turn, on no screen. -/
def twoBuffers : List Input :=
  [.request .createWindow none,
   .request (.attachBuffer 1 1 1 formatBgra8888) (some ⟨0, ⟨fun _ => 255, 4⟩, 1, 1⟩),
   .request (.commit 1) none,
   .request (.attachBuffer 1 1 1 formatBgra8888) (some ⟨1, ⟨fun _ => 255, 4⟩, 1, 1⟩),
   .request (.commit 1) none]

theorem run_refines_two_buffers :
    ∃ m events, (⟨[], [], none, 1, 0⟩ : WindowManager).run twoBuffers = .ok (m, events) ∧
      runLog MgrOp.apply (Compositor.WindowManager.new, []) (twoBuffers.map Input.abs) = (m.abs, events) :=
  ⟨_, _, rfl, WindowManager.run_refines (m := ⟨[], [], none, 1, 0⟩) rfl⟩

/-- The first buffer goes back once, when the second is latched, and is not held after. -/
theorem screen_buffers_released_once_two :
    ∃ m events, (WindowManager.new none >>= fun m => m.run twoBuffers) = .ok (m, events) ∧
      releasedBy events = [(1, 0)] ∧ (1, 0) ∉ m.abs.held := by
  refine ⟨_, _, rfl, rfl, ?_⟩
  exact ((screen_buffers_released_once
    (show (WindowManager.new none >>= fun m => m.run twoBuffers) = .ok (_, _) from rfl)).2.1 (by decide)).2 (1, 0)
    (List.mem_singleton_self _)

end Screen

end PandaOs.Compositor
