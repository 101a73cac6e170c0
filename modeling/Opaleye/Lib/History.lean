import Mathlib.Data.List.Basic

/-!
# Values and their history

A place that holds one value at a time, first `start` and then those of `hist`,
one after another.  Who looks at it some time after there were `since` of them
finds a value that was the latest then or later (`SeenSince`).  More values do
not take that away.
-/

namespace History

variable {α : Type}

/-- `x` was the latest value when there were as many as some number from `since` on. -/
def SeenSince (start : α) (hist : List α) (since : Nat) (x : α) : Prop :=
  ∃ j, since ≤ j ∧ j ≤ hist.length ∧ (start :: hist)[j]? = some x

variable {start : α} {hist : List α} {since : Nat}

theorem seenSince_latest (h : since ≤ hist.length) : SeenSince start hist since (hist.getLastD start) := by
  refine ⟨hist.length, h, Nat.le_refl _, ?_⟩
  rcases List.eq_nil_or_concat hist with hnil | ⟨l, x, hl⟩
  · rw [hnil]
    rfl
  · rw [hl]
    simp

theorem SeenSince.append {x : α} (h : SeenSince start hist since x) (new : List α) :
    SeenSince start (hist ++ new) since x := by
  obtain ⟨j, hsince, hj, hx⟩ := h
  refine ⟨j, hsince, ?_, ?_⟩
  · rw [List.length_append]
    omega
  · rw [← List.cons_append, List.getElem?_append_left (by rw [List.length_cons]; omega)]
    exact hx

end History
