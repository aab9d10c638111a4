import Mathlib.Data.List.Basic

/-!
# The last `c` items of a log

A bounded FIFO of capacity `c` that overwrites its oldest entry holds, at
any time, the last `c` items pushed into it (all of them while fewer were
pushed). `window c log` is that view of the log of pushes.

The lemmas say how the view moves with the log: a push appends to the view
and, at capacity, drops its oldest item (`window_concat`); a write to a
logical item of the view is a write to the log at the view's offset
(`window_modify`).
-/

namespace PandaOs.Lib

variable {α : Type}

/-- The last `c` items of `log`, oldest first. -/
def window (c : Nat) (log : List α) : List α := log.drop (log.length - c)

@[simp] theorem window_nil (c : Nat) : window c ([] : List α) = [] := by simp [window]

theorem length_window (c : Nat) (log : List α) : (window c log).length = min log.length c := by
  rw [window, List.length_drop]
  omega

/-- A push appends to the view; at capacity the oldest item leaves it. -/
theorem window_concat {c : Nat} (hc : 0 < c) (log : List α) (x : α) :
    window c (log ++ [x]) = if log.length < c then window c log ++ [x] else (window c log).tail ++ [x] := by
  simp only [window, List.length_append, List.length_singleton]
  split_ifs with hlt
  · rw [Nat.sub_eq_zero_of_le (by omega), Nat.sub_eq_zero_of_le (by omega), List.drop_zero, List.drop_zero]
  · rw [List.drop_append_of_le_length (by omega), List.tail_drop]
    congr 2
    omega

/-- A write to the `i`th item of the view is a write to the log at the view's offset. -/
theorem window_modify (c i : Nat) (log : List α) (f : α → α) :
    window c (log.modify (log.length - c + i) f) = (window c log).modify i f := by
  apply List.ext_getElem?
  intro j
  simp only [window, List.length_modify, List.getElem?_drop, List.getElem?_modify]
  -- the offsets agree exactly when the logical indices do
  have hiff : log.length - c + i = log.length - c + j ↔ i = j := by omega
  simp only [hiff]

/-- A write to the last item of the log is a write to the last item of the view. -/
theorem window_modify_last {c : Nat} (hc : 0 < c) {log : List α} (hlog : log ≠ []) (f : α → α) :
    window c (log.modify (log.length - 1) f) = (window c log).modify ((window c log).length - 1) f := by
  have hlen : 0 < log.length := List.length_pos_iff.mpr hlog
  have hwin : (window c log).length = min log.length c := length_window c log
  have hoff : log.length - 1 = log.length - c + ((window c log).length - 1) := by omega
  rw [hoff, window_modify]

end PandaOs.Lib
