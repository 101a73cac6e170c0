import Mathlib.Data.Fintype.Basic

/-!
# Copying a record field by field

A record is a function from its fields.  An assignment of a record that no mutex
protects is a loop that copies one field after another, in an order of its own;
`todo` are the fields it has not copied yet.

`Copied todo src dst` says that the others are those of `src`.  It holds of any
two records when nothing is copied, one field more keeps it, and at the end the
copy is the source (`Copied.eq`): of the source as it was all the time, so a
source that changes while a copy is `Partway` gives a mixture of two records.
-/

namespace FieldCopy

variable {F V : Type}

/-- `dst.f = src.f` -/
def copyField [DecidableEq F] (src dst : F → V) (f : F) : F → V := Function.update dst f (src f)

/-- The fields that are not left to do are copied. -/
def Copied (todo : Finset F) (src dst : F → V) : Prop := ∀ f, f ∉ todo → dst f = src f

theorem Copied.step [DecidableEq F] {todo : Finset F} {src dst : F → V} (h : Copied todo src dst) (f : F) :
    Copied (todo.erase f) src (copyField src dst f) := by
  intro g hg
  by_cases hgf : g = f
  · rw [hgf, copyField, Function.update_self]
  · rw [copyField, Function.update_of_ne hgf]
    exact h g (fun hmem => hg (Finset.mem_erase.mpr ⟨hgf, hmem⟩))

/-- **A copy of all fields is the source.** -/
theorem Copied.eq {src dst : F → V} (h : Copied ∅ src dst) : dst = src :=
  funext (fun f => h f (Finset.notMem_empty f))

section Fintype

variable [Fintype F]

theorem copied_univ (src dst : F → V) : Copied Finset.univ src dst :=
  fun f hf => absurd (Finset.mem_univ f) hf

/-- Some fields are copied and some are not. -/
def Partway (todo : Finset F) : Prop := todo ≠ ∅ ∧ todo ≠ Finset.univ

theorem not_partway_empty : ¬ Partway (∅ : Finset F) := fun h => h.1 rfl

theorem not_partway_univ : ¬ Partway (Finset.univ : Finset F) := fun h => h.2 rfl

/-- A copy that is not partway has not begun or has ended. -/
theorem eq_of_not_partway {todo : Finset F} (h : ¬ Partway todo) : todo = ∅ ∨ todo = Finset.univ := by
  rw [Partway, not_and_or, not_not, not_not] at h
  exact h

theorem erase_ne_univ [DecidableEq F] (todo : Finset F) (f : F) : todo.erase f ≠ Finset.univ := by
  intro h
  have hmem : f ∈ todo.erase f := h ▸ Finset.mem_univ f
  exact Finset.notMem_erase f todo hmem

end Fintype

end FieldCopy
