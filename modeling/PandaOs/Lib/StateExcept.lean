import Mathlib

/-!
# Operations that fail and keep what they changed

A driver operation written with `?` returns early on an error, and what it
wrote before that stays written. `ExceptT ε (StateM σ)` is that monad: the
state survives a `throw`.

Two combinators come up in every such driver. `focus` runs an operation on
one part of a larger state (the filesystem inside an open file's context,
an inode updated in place through a `&mut`), keeping the rest. `onError`
runs a handler when an operation fails and then fails the same way; it is
what dropping a value with a `Drop` implementation does on an early return.
-/

namespace PandaOs.Lib

variable {ε σ τ α : Type}

/-- Run `x` on the part of a `τ` that `get` and `put` select. -/
def focus (get : τ → σ) (put : σ → τ → τ) (x : ExceptT ε (StateM σ) α) :
    ExceptT ε (StateM τ) α :=
  ExceptT.mk fun t => let r := x.run.run (get t); (r.1, put r.2 t)

/-- Run `x`; when it fails, run `h` and fail with the same error. -/
def onError (x : ExceptT ε (StateM σ) α) (h : ExceptT ε (StateM σ) Unit) :
    ExceptT ε (StateM σ) α :=
  tryCatch x fun e => do h; throw e

/-! The simp set for running such an operation from a state. -/

section Run

variable (s : σ)

@[simp] theorem run_pure (a : α) : (pure a : ExceptT ε (StateM σ) α).run.run s = (.ok a, s) := rfl

@[simp] theorem run_throw (e : ε) : (throw e : ExceptT ε (StateM σ) α).run.run s = (.error e, s) :=
  rfl

@[simp] theorem run_get : (get : ExceptT ε (StateM σ) σ).run.run s = (.ok s, s) := rfl

@[simp] theorem run_set (t : σ) : (set t : ExceptT ε (StateM σ) PUnit).run.run s = (.ok ⟨⟩, t) :=
  rfl

@[simp] theorem run_modify (f : σ → σ) :
    (modify f : ExceptT ε (StateM σ) PUnit).run.run s = (.ok ⟨⟩, f s) := rfl

/-- A bind runs its first part, and stops there on an error, keeping the state. -/
@[simp] theorem run_bind {β : Type} (x : ExceptT ε (StateM σ) α) (f : α → ExceptT ε (StateM σ) β) :
    (x >>= f).run.run s =
      match x.run.run s with
      | (.ok a, t) => (f a).run.run t
      | (.error e, t) => (.error e, t) := by
  simp only [ExceptT.run_bind, StateT.run_bind]
  rcases x.run.run s with ⟨_ | _, t⟩ <;> rfl

end Run

theorem run_focus (get : τ → σ) (put : σ → τ → τ) (x : ExceptT ε (StateM σ) α) (t : τ) :
    (focus get put x).run.run t = ((x.run.run (get t)).1, put (x.run.run (get t)).2 t) := rfl

/-- A plain `Except` computation succeeds through a bind exactly when both
halves do: the inversion rule for peeling a `do` block apart. -/
theorem except_bind_eq_ok {β : Type} {x : Except ε α} {f : α → Except ε β} {b : β} :
    x >>= f = .ok b ↔ ∃ a, x = .ok a ∧ f a = .ok b := by
  cases x with
  | error e => exact ⟨fun h => (nomatch h), fun ⟨_, h, _⟩ => (nomatch h)⟩
  | ok a => exact ⟨fun h => ⟨a, rfl, h⟩, fun ⟨_, h, hf⟩ => by cases h; exact hf⟩

end PandaOs.Lib
