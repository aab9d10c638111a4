import PandaOs.Lib.StateExcept

/-!
# Reading a stream through a cursor

A decoder over a slice keeps the slice and a read position; every read
looks at what is left past the position, fails or moves the position on.
Such decoders are operations of `ExceptT ε (StateM (Cursor β))`.

A codec's round trip is a statement about what one read consumes: `Reads m
bytes a` says that wherever the rest of the slice starts with `bytes`, `m`
returns `a` and moves the cursor exactly past `bytes`, whatever follows. It
composes the way the decoder does: reads in sequence consume the
concatenation (`Reads.bind`), and a counted loop of reads consumes the
concatenation of what each round reads (`Reads.repeatFold`). A decoder for
nested data is then read back by induction on the data, each constructor
assembled from its fields' `Reads` facts.
-/

namespace PandaOs.Lib

/-- A slice and a read position in it. -/
structure Cursor (β : Type) where
  buf : List β
  pos : Nat

variable {ε β α γ σ : Type}

namespace Cursor

/-- What is left to read, `buf[pos..]`. -/
def rest (c : Cursor β) : List β := c.buf.drop c.pos

/-- The cursor moved `n` items on. -/
def advance (c : Cursor β) (n : Nat) : Cursor β := { c with pos := c.pos + n }

@[simp] theorem advance_buf (c : Cursor β) (n : Nat) : (c.advance n).buf = c.buf := rfl

@[simp] theorem advance_pos (c : Cursor β) (n : Nat) : (c.advance n).pos = c.pos + n := rfl

theorem advance_advance (c : Cursor β) (n k : Nat) : (c.advance n).advance k = c.advance (n + k) := by
  simp only [advance, Nat.add_assoc]

theorem rest_advance {c : Cursor β} {pre rest : List β} (h : c.rest = pre ++ rest) :
    (c.advance pre.length).rest = rest := by
  simp only [Cursor.rest, advance, ← List.drop_drop] at h ⊢
  rw [h, List.drop_left]

theorem length_rest (c : Cursor β) : c.rest.length = c.buf.length - c.pos := List.length_drop

end Cursor

/-! ## What a read consumes -/

/-- `m` reads `a` from exactly `bytes`: started where the rest of the slice
begins with `bytes`, it returns `a` and moves past them. -/
def Reads (m : ExceptT ε (StateM (Cursor β)) α) (bytes : List β) (a : α) : Prop :=
  ∀ c rest, c.rest = bytes ++ rest → m.run.run c = (.ok a, c.advance bytes.length)

theorem Reads.pure (a : α) : Reads (pure a : ExceptT ε (StateM (Cursor β)) α) [] a := by
  intro c rest _
  rfl

theorem Reads.bind {m : ExceptT ε (StateM (Cursor β)) α} {f : α → ExceptT ε (StateM (Cursor β)) γ}
    {b₁ b₂ : List β} {a : α} {x : γ} (hm : Reads m b₁ a) (hf : Reads (f a) b₂ x) :
    Reads (m >>= f) (b₁ ++ b₂) x := by
  intro c rest h
  -- the first read stops where the second one's bytes begin
  have h₁ : c.rest = b₁ ++ (b₂ ++ rest) := by rw [h, List.append_assoc]
  rw [run_bind, hm c _ h₁]
  dsimp only
  rw [hf _ rest (Cursor.rest_advance h₁), Cursor.advance_advance, List.length_append]

theorem Reads.map {m : ExceptT ε (StateM (Cursor β)) α} {bytes : List β} {a : α} (hm : Reads m bytes a)
    (g : α → γ) : Reads (g <$> m) bytes (g a) := by
  intro c rest h
  simp only [ExceptT.run_map, StateT.run_map, hm c rest h]
  rfl

/-- A read followed by a step that reads nothing consumes what the read does. -/
theorem Reads.bind_end {m : ExceptT ε (StateM (Cursor β)) α} {f : α → ExceptT ε (StateM (Cursor β)) γ}
    {bytes : List β} {a : α} {x : γ} (hm : Reads m bytes a) (hf : Reads (f a) [] x) :
    Reads (m >>= f) bytes x := by
  have h := Reads.bind hm hf
  rwa [List.append_nil] at h

/-- A read followed by a pure step consumes what the read does. -/
theorem Reads.bind_pure {m : ExceptT ε (StateM (Cursor β)) α} {bytes : List β} {a : α} (hm : Reads m bytes a)
    (g : α → γ) : Reads (m >>= fun x => Pure.pure (g x)) bytes (g a) :=
  Reads.bind_end hm (Reads.pure (g a))

/-! ## Counted loops -/

/-- `for _ in 0..count { acc = step(acc)? }`. -/
def repeatFold {m : Type → Type} [Monad m] (step : σ → m σ) : Nat → σ → m σ
  | 0, acc => Pure.pure acc
  | n + 1, acc => do
    let acc ← step acc
    repeatFold step n acc

/-- A loop of `xs.length` rounds, where the round on `acc` reads the next
`x` of `xs` from `enc x` and folds it in, reads all of `xs` in order. -/
theorem Reads.repeatFold {step : σ → ExceptT ε (StateM (Cursor β)) σ} {enc : γ → List β}
    {g : σ → γ → σ} (xs : List γ) (hstep : ∀ x ∈ xs, ∀ acc, Reads (step acc) (enc x) (g acc x))
    (acc : σ) : Reads (PandaOs.Lib.repeatFold step xs.length acc) (xs.flatMap enc) (xs.foldl g acc) := by
  induction xs generalizing acc with
  | nil => exact Reads.pure acc
  | cons x xs ih =>
    -- one round reads `x`, the rest of the loop reads `xs`
    have hx := hstep x List.mem_cons_self acc
    have hxs := ih (fun y hy => hstep y (List.mem_cons_of_mem x hy)) (g acc x)
    rw [List.length_cons, List.flatMap_cons, List.foldl_cons]
    exact Reads.bind hx hxs

end PandaOs.Lib
