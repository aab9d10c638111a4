import Mathlib

/-!
# Runs of a step function with an output log

A component driven by requests is a deterministic step function: a state
and a request give the next state and what the step emitted. A run feeds it
a list of requests and keeps everything emitted, in order. The safety
properties of such a component are statements about the state and the log
after an arbitrary run; they are proved by finding an invariant of the pair
and showing one step preserves it.

Nothing here names a particular component. `runLog_inv` is the induction
rule the protocol proofs use; `runLog_append` and `Reachable` let a
statement about "the state at some point of some run" be phrased without
committing to where the run stops.
-/

namespace PandaOs.Lib

variable {σ α ω : Type}

/-- Feed `as` to `step` starting from `p`, appending each step's output to
the log carried in `p`. -/
def runLog (step : σ → α → σ × List ω) : σ × List ω → List α → σ × List ω
  | p, [] => p
  | (s, log), a :: as => runLog step ((step s a).1, log ++ (step s a).2) as

@[simp] theorem runLog_nil (step : σ → α → σ × List ω) (p : σ × List ω) :
    runLog step p [] = p := rfl

theorem runLog_cons (step : σ → α → σ × List ω) (s : σ) (log : List ω) (a : α)
    (as : List α) :
    runLog step (s, log) (a :: as) = runLog step ((step s a).1, log ++ (step s a).2) as := rfl

theorem runLog_append (step : σ → α → σ × List ω) (p : σ × List ω) (as bs : List α) :
    runLog step p (as ++ bs) = runLog step (runLog step p as) bs := by
  induction as generalizing p with
  | nil => rfl
  | cons a as ih =>
      obtain ⟨s, log⟩ := p
      exact ih _

/-- The log only grows: a run appends to what was logged before it. -/
theorem runLog_log_prefix (step : σ → α → σ × List ω) (p : σ × List ω) (as : List α) :
    p.2 <+: (runLog step p as).2 := by
  induction as generalizing p with
  | nil => exact List.prefix_refl _
  | cons a as ih =>
      obtain ⟨s, log⟩ := p
      rw [runLog_cons]
      exact (List.prefix_append log _).trans (ih ((step s a).1, log ++ (step s a).2))

/-- The induction rule for runs: an invariant of the state and the log that
every step preserves holds after any run. -/
theorem runLog_inv (step : σ → α → σ × List ω) (I : σ → List ω → Prop)
    (hstep : ∀ s log a, I s log → I (step s a).1 (log ++ (step s a).2)) :
    ∀ (as : List α) (s : σ) (log : List ω), I s log →
      I (runLog step (s, log) as).1 (runLog step (s, log) as).2 := by
  intro as
  induction as with
  | nil => intro s log h; exact h
  | cons a as ih =>
      intro s log h
      exact ih _ _ (hstep s log a h)

/-- The same rule when only some inputs keep the invariant, for runs made
of those inputs. -/
theorem runLog_inv_of (step : σ → α → σ × List ω) (P : α → Prop) (I : σ → List ω → Prop)
    (hstep : ∀ s log a, P a → I s log → I (step s a).1 (log ++ (step s a).2)) :
    ∀ (as : List α), (∀ a ∈ as, P a) → ∀ (s : σ) (log : List ω), I s log →
      I (runLog step (s, log) as).1 (runLog step (s, log) as).2 := by
  intro as
  induction as with
  | nil => intro _ s log h; exact h
  | cons a as ih =>
      intro has s log h
      exact ih (fun b hb => has b (List.mem_cons_of_mem a hb)) _ _
        (hstep s log a (has a List.mem_cons_self) h)

/-- Every input of a run is admissible in the state it is fed to: the
hypothesis of a property that holds only of runs that stay within a bound. -/
def Admits (step : σ → α → σ × List ω) (P : σ → α → Prop) : σ → List α → Prop
  | _, [] => True
  | s, a :: as => P s a ∧ Admits step P (step s a).1 as

instance Admits.decidable (step : σ → α → σ × List ω) (P : σ → α → Prop)
    [∀ s a, Decidable (P s a)] : ∀ (s : σ) (as : List α), Decidable (Admits step P s as)
  | _, [] => isTrue trivial
  | s, a :: as =>
      have := Admits.decidable step P (step s a).1 as
      inferInstanceAs (Decidable (P s a ∧ Admits step P (step s a).1 as))

/-- The induction rule for runs whose every step is admissible. -/
theorem runLog_inv_on (step : σ → α → σ × List ω) (P : σ → α → Prop) (I : σ → List ω → Prop)
    (hstep : ∀ s log a, P s a → I s log → I (step s a).1 (log ++ (step s a).2)) :
    ∀ (as : List α) (s : σ) (log : List ω), Admits step P s as → I s log →
      I (runLog step (s, log) as).1 (runLog step (s, log) as).2 := by
  intro as
  induction as with
  | nil => intro s log _ h; exact h
  | cons a as ih =>
      intro s log hadm h
      exact ih _ _ hadm.2 (hstep s log a hadm.1 h)

/-- The state-and-log pairs some run from `init` reaches. -/
def Reachable (step : σ → α → σ × List ω) (init : σ × List ω) (p : σ × List ω) : Prop :=
  ∃ as, runLog step init as = p

theorem Reachable.init (step : σ → α → σ × List ω) (init : σ × List ω) :
    Reachable step init init := ⟨[], rfl⟩

theorem Reachable.step {step : σ → α → σ × List ω} {init : σ × List ω} {s : σ}
    {log : List ω} (h : Reachable step init (s, log)) (a : α) :
    Reachable step init ((step s a).1, log ++ (step s a).2) := by
  obtain ⟨as, has⟩ := h
  refine ⟨as ++ [a], ?_⟩
  rw [runLog_append, has]
  rfl

/-- An invariant of every step holds at every reachable pair. -/
theorem Reachable.inv {step : σ → α → σ × List ω} {init : σ × List ω}
    (I : σ → List ω → Prop) (h0 : I init.1 init.2)
    (hstep : ∀ s log a, I s log → I (step s a).1 (log ++ (step s a).2))
    {p : σ × List ω} (h : Reachable step init p) : I p.1 p.2 := by
  obtain ⟨as, rfl⟩ := h
  obtain ⟨s, log⟩ := init
  exact runLog_inv step I hstep as s log h0

/-- The induction rule for a loop without output: an invariant every step
preserves holds after any run. -/
theorem foldl_inv (step : σ → α → σ) (I : σ → Prop) (hstep : ∀ s a, I s → I (step s a)) :
    ∀ (as : List α) (s : σ), I s → I (as.foldl step s) := by
  intro as
  induction as with
  | nil => intro s h; exact h
  | cons a as ih => intro s h; exact ih _ (hstep s a h)

/-- Every input of a loop is admissible in the state it is fed to. -/
def FoldAdmits (step : σ → α → σ) (P : σ → α → Prop) : σ → List α → Prop
  | _, [] => True
  | s, a :: as => P s a ∧ FoldAdmits step P (step s a) as

instance FoldAdmits.decidable (step : σ → α → σ) (P : σ → α → Prop)
    [∀ s a, Decidable (P s a)] : ∀ (s : σ) (as : List α), Decidable (FoldAdmits step P s as)
  | _, [] => isTrue trivial
  | s, a :: as =>
      have := FoldAdmits.decidable step P (step s a) as
      inferInstanceAs (Decidable (P s a ∧ FoldAdmits step P (step s a) as))

/-- The induction rule for loops whose every step is admissible. -/
theorem foldl_inv_on (step : σ → α → σ) (P : σ → α → Prop) (I : σ → Prop)
    (hstep : ∀ s a, P s a → I s → I (step s a)) :
    ∀ (as : List α) (s : σ), FoldAdmits step P s as → I s → I (as.foldl step s) := by
  intro as
  induction as with
  | nil => intro s _ h; exact h
  | cons a as ih => intro s hadm h; exact ih _ hadm.2 (hstep s a hadm.1 h)

/-- The induction rule for a fallible loop: an invariant every successful
step preserves holds at the end of every successful run. -/
theorem foldlM_except_inv {ε : Type} (f : σ → α → Except ε σ) (I : σ → Prop)
    (hstep : ∀ s a s', I s → f s a = .ok s' → I s') :
    ∀ (as : List α) (s s' : σ), I s → as.foldlM f s = .ok s' → I s' := by
  intro as
  induction as with
  | nil =>
      intro s s' hs h
      cases h
      exact hs
  | cons a as ih =>
      intro s s' hs h
      simp only [List.foldlM_cons] at h
      cases hf : f s a with
      | error e => rw [hf] at h; cases h
      | ok t =>
          rw [hf] at h
          exact ih t s' (hstep s a t hs hf) h

/-- The simulation rule for a fallible loop. `run` feeds inputs to `step`
and stops at the first error (its two equations are the hypotheses). When
every successful step is, through `abs` on states and `absIn` on inputs, a
step of the total `step'` with the same output, every successful run is a
run of `step'` with the same log. -/
theorem runLog_of_simulates {σ' α' ε : Type} (step : σ → α → Except ε (σ × List ω))
    (run : σ → List α → Except ε (σ × List ω)) (step' : σ' → α' → σ' × List ω)
    (abs : σ → σ') (absIn : α → α')
    (hnil : ∀ s, run s [] = pure (s, []))
    (hcons : ∀ s a as, run s (a :: as) = do
      let (s, out) ← step s a
      let (s, rest) ← run s as
      pure (s, out ++ rest))
    (hstep : ∀ s a s' out, step s a = .ok (s', out) → step' (abs s) (absIn a) = (abs s', out)) :
    ∀ (as : List α) (s s' : σ) (out log : List ω), run s as = .ok (s', out) →
      runLog step' (abs s, log) (as.map absIn) = (abs s', log ++ out) := by
  intro as
  induction as with
  | nil =>
      intro s s' out log h
      rw [hnil] at h
      cases h
      simp
  | cons a as ih =>
      intro s s' out log h
      rw [hcons] at h
      -- peel the first step, then the rest of the run
      cases hs : step s a with
      | error e => rw [hs] at h; cases h
      | ok r =>
          obtain ⟨s₁, out₁⟩ := r
          rw [hs] at h
          have h : (run s₁ as >>= fun r => (pure (r.1, out₁ ++ r.2) : Except ε (σ × List ω))) =
              .ok (s', out) := h
          cases hr : run s₁ as with
          | error e => rw [hr] at h; cases h
          | ok r' =>
              obtain ⟨s₂, rest⟩ := r'
              rw [hr] at h
              cases h
              rw [List.map_cons, runLog_cons, hstep s a s₁ out₁ hs, ih s₁ s₂ rest _ hr, List.append_assoc]

end PandaOs.Lib
