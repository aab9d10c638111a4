import Mathlib

/-!
# Relations a fallible state step keeps

`StateT σ (Except ε)` is a step that works on a state and may stop with an
error, dropping what it had done. `Keeps R x` says that every run of `x`
that succeeds relates the state it started in to the state it ends in by
`R`: a safety property of one step, stated without committing to what the
step returns.

The rules follow the shape of a `do` block. `get`, `pure` and a lifted
computation leave the state as it is; `modify f` keeps `R` when `f` does;
a bind keeps `T` when its first part keeps `R`, every continuation keeps
`S`, and `R` followed by `S` is `T`. A `match` or an `if` is split, and each
branch proved on its own.
-/

namespace PandaOs.Lib

variable {σ ε α β : Type}

/-- A computation that has thrown stays thrown. -/
@[simp] theorem except_throw_bind (e : ε) (f : α → Except ε β) : (throw e >>= f : Except ε β) = throw e := rfl

@[simp] theorem except_throw_ne_ok (e : ε) (a : α) : (throw e : Except ε α) ≠ .ok a := by
  intro h
  cases h

@[simp] theorem except_map_throw (f : α → β) (e : ε) : (f <$> (throw e : Except ε α)) = throw e := rfl

@[simp] theorem except_pure_ne_error (a : α) (e : ε) : (pure a : Except ε α) ≠ .error e := by
  intro h
  cases h

/-- Every successful run of `x` relates its start and end states by `R`. -/
def Keeps (R : σ → σ → Prop) (x : StateT σ (Except ε) α) : Prop :=
  ∀ s a s', x.run s = .ok (a, s') → R s s'

section Rules

variable {R S T : σ → σ → Prop}

theorem Keeps.pure (hR : ∀ s, R s s) (a : α) : Keeps R (pure a : StateT σ (Except ε) α) := by
  intro s b s' h
  cases h
  exact hR s

theorem Keeps.get (hR : ∀ s, R s s) : Keeps R (get : StateT σ (Except ε) σ) := by
  intro s b s' h
  cases h
  exact hR s

theorem Keeps.modify {f : σ → σ} (hf : ∀ s, R s (f s)) :
    Keeps R (modify f : StateT σ (Except ε) PUnit) := by
  intro s b s' h
  cases h
  exact hf s

theorem Keeps.lift (hR : ∀ s, R s s) (x : Except ε α) :
    Keeps R (monadLift x : StateT σ (Except ε) α) := by
  intro s b s' h
  cases x with
  | error e => cases h
  | ok a => cases h; exact hR s

/-- The rule for a bind: the first part's relation, then the continuation's. -/
theorem Keeps.bind {x : StateT σ (Except ε) α} {f : α → StateT σ (Except ε) β}
    (hx : Keeps R x) (hf : ∀ a, Keeps S (f a)) (htrans : ∀ s₁ s₂ s₃, R s₁ s₂ → S s₂ s₃ → T s₁ s₃) :
    Keeps T (x >>= f) := by
  intro s b s' h
  rw [StateT.run_bind] at h
  cases hrun : x.run s with
  | error e => rw [hrun] at h; cases h
  | ok r =>
      obtain ⟨a, s₁⟩ := r
      rw [hrun] at h
      exact htrans s s₁ s' (hx s a s₁ hrun) (hf a s₁ b s' h)

theorem Keeps.mono {x : StateT σ (Except ε) α} (hx : Keeps R x) (hRS : ∀ s s', R s s' → S s s') :
    Keeps S x :=
  fun s a s' h => hRS s s' (hx s a s' h)

end Rules

end PandaOs.Lib
