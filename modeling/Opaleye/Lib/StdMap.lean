import Mathlib.Order.Lattice
import Mathlib.Data.List.Pairwise
import Mathlib.Data.List.Sort

/-!
# Ordered maps

`std::map`: entries in increasing order of their keys, so that a key occurs at
most once and the `i`-th entry is the one iteration reaches after `i` steps.
`emplace` leaves the map as it is when the key is there already, `assign` does
not, and `erase` takes a key out.
-/

/-- `std::map<κ, ν>` -/
structure StdMap (κ ν : Type) [LinearOrder κ] where
  entries : List (κ × ν)
  sorted : entries.Pairwise (fun a b => a.1 < b.1)

namespace StdMap

variable {κ ν : Type} [LinearOrder κ]

def empty : StdMap κ ν := ⟨[], List.Pairwise.nil⟩

def findEntry (k : κ) : List (κ × ν) → Option ν
  | [] => none
  | e :: l => if e.1 = k then some e.2 else findEntry k l

/-- `find`, with `end()` as `none`. -/
def find (m : StdMap κ ν) (k : κ) : Option ν := findEntry k m.entries

def insertEntry (k : κ) (v : ν) : List (κ × ν) → List (κ × ν)
  | [] => [(k, v)]
  | e :: l => if k < e.1 then (k, v) :: e :: l
      else if e.1 = k then e :: l else e :: insertEntry k v l

theorem mem_insertEntry {k : κ} {v : ν} {x : κ × ν} : ∀ {l : List (κ × ν)},
    x ∈ insertEntry k v l → x = (k, v) ∨ x ∈ l := by
  intro l
  induction l with
  | nil => intro h; exact Or.inl (List.mem_singleton.mp h)
  | cons e l ih =>
    intro h
    rw [insertEntry] at h
    by_cases hlt : k < e.1
    · rw [if_pos hlt] at h
      exact List.mem_cons.mp h
    · by_cases heq : e.1 = k
      · rw [if_neg hlt, if_pos heq] at h
        exact Or.inr h
      · rw [if_neg hlt, if_neg heq] at h
        rcases List.mem_cons.mp h with rfl | h
        · exact Or.inr List.mem_cons_self
        · exact (ih h).imp id (List.mem_cons_of_mem _)

theorem sorted_insertEntry (k : κ) (v : ν) : ∀ {l : List (κ × ν)},
    l.Pairwise (fun a b => a.1 < b.1) →
    (insertEntry k v l).Pairwise (fun a b => a.1 < b.1) := by
  intro l
  induction l with
  | nil => intro _; exact List.pairwise_singleton _ _
  | cons e l ih =>
    intro h
    obtain ⟨he, hl⟩ := List.pairwise_cons.mp h
    rw [insertEntry]
    by_cases hlt : k < e.1
    · rw [if_pos hlt]
      refine List.pairwise_cons.mpr ⟨fun x hx => ?_, h⟩
      rcases List.mem_cons.mp hx with rfl | hx
      · exact hlt
      · exact lt_trans hlt (he x hx)
    · by_cases heq : e.1 = k
      · rw [if_neg hlt, if_pos heq]
        exact h
      · rw [if_neg hlt, if_neg heq]
        refine List.pairwise_cons.mpr ⟨fun x hx => ?_, ih hl⟩
        rcases mem_insertEntry hx with rfl | hx
        · exact lt_of_le_of_ne (not_lt.mp hlt) heq
        · exact he x hx

/-- `emplace` -/
def emplace (m : StdMap κ ν) (k : κ) (v : ν) : StdMap κ ν :=
  ⟨insertEntry k v m.entries, sorted_insertEntry k v m.sorted⟩

theorem findEntry_of_lt {k : κ} : ∀ {l : List (κ × ν)}, (∀ e ∈ l, k < e.1) →
    findEntry k l = none := by
  intro l
  induction l with
  | nil => intro _; rfl
  | cons e l ih =>
    intro h
    rw [findEntry, if_neg (ne_of_gt (h e List.mem_cons_self)),
      ih (fun x hx => h x (List.mem_cons_of_mem _ hx))]

theorem findEntry_insertEntry (k : κ) (v : ν) (k' : κ) : ∀ {l : List (κ × ν)},
    l.Pairwise (fun a b => a.1 < b.1) →
    findEntry k' (insertEntry k v l)
      = if k' = k then some ((findEntry k l).getD v) else findEntry k' l := by
  intro l
  induction l with
  | nil =>
    intro _
    show (if k = k' then some v else none) = if k' = k then some v else none
    by_cases hk : k' = k
    · rw [if_pos hk, if_pos hk.symm]
    · rw [if_neg hk, if_neg (Ne.symm hk)]
  | cons e l ih =>
    intro h
    obtain ⟨he, hl⟩ := List.pairwise_cons.mp h
    rw [insertEntry]
    by_cases hlt : k < e.1
    · have hnone : findEntry k (e :: l) = none := by
        refine findEntry_of_lt (fun x hx => ?_)
        rcases List.mem_cons.mp hx with rfl | hx
        · exact hlt
        · exact lt_trans hlt (he x hx)
      rw [if_pos hlt, hnone]
      by_cases hk : k' = k
      · rw [if_pos hk, findEntry, if_pos hk.symm]; rfl
      · rw [if_neg hk, findEntry, if_neg (Ne.symm hk)]
    · by_cases heq : e.1 = k
      · rw [if_neg hlt, if_pos heq]
        by_cases hk : k' = k
        · rw [if_pos hk, hk, findEntry, if_pos heq]; rfl
        · rw [if_neg hk]
      · rw [if_neg hlt, if_neg heq, findEntry, ih hl]
        by_cases hk : k' = k
        · rw [if_pos hk, if_pos hk, hk, if_neg heq, findEntry, if_neg heq]
        · rw [if_neg hk, if_neg hk, findEntry]

@[simp] theorem find_empty (k : κ) : (empty : StdMap κ ν).find k = none := rfl

/-- **`emplace` adds its entry where there was none**, and touches no other
key. -/
theorem find_emplace (m : StdMap κ ν) (k : κ) (v : ν) (k' : κ) :
    (m.emplace k v).find k' = if k' = k then some ((m.find k).getD v) else m.find k' :=
  findEntry_insertEntry k v k' m.sorted

theorem find_emplace_self (m : StdMap κ ν) (k : κ) (v : ν) :
    (m.emplace k v).find k = some ((m.find k).getD v) := by
  rw [find_emplace, if_pos rfl]

theorem find_emplace_of_ne (m : StdMap κ ν) {k k' : κ} (v : ν) (h : k' ≠ k) :
    (m.emplace k v).find k' = m.find k' := by
  rw [find_emplace, if_neg h]

/-- **Of several entries with one key the first stays.** -/
theorem find_foldl_emplace {α : Type} (key : α → κ) (val : α → ν) (k : κ)
    [∀ x, Decidable (key x = k)] : ∀ (l : List α) (m : StdMap κ ν),
    (l.foldl (fun m x => m.emplace (key x) (val x)) m).find k
      = (m.find k).or ((l.find? (fun x => key x = k)).map val) := by
  intro l
  induction l with
  | nil =>
    intro m
    rw [List.foldl_nil, List.find?_nil, Option.map_none, Option.or_none]
  | cons x l ih =>
    intro m
    rw [List.foldl_cons, ih, find_emplace]
    by_cases hk : k = key x
    · rw [if_pos hk, List.find?_cons_of_pos (by simp [hk]), ← hk]
      cases m.find k <;> rfl
    · rw [if_neg hk, List.find?_cons_of_neg (by simpa using Ne.symm hk)]

theorem find_eq_some_iff (m : StdMap κ ν) (k : κ) (v : ν) :
    m.find k = some v ↔ (k, v) ∈ m.entries := by
  rw [find]
  have hs := m.sorted
  revert hs
  induction m.entries with
  | nil => intro _; simp [findEntry]
  | cons e l ih =>
    intro hs
    obtain ⟨he, hl⟩ := List.pairwise_cons.mp hs
    rw [findEntry, List.mem_cons]
    by_cases hk : e.1 = k
    · rw [if_pos hk, Option.some.injEq]
      refine ⟨fun h => Or.inl (by rw [← hk, ← h]), ?_⟩
      rintro (h | h)
      · rw [← h]
      · exact absurd hk (ne_of_lt (he _ h))
    · rw [if_neg hk]
      refine ⟨fun h => Or.inr ((ih hl).mp h), ?_⟩
      rintro (h | h)
      · exact absurd (by rw [← h]) hk
      · exact (ih hl).mpr h

theorem ext_find {m m' : StdMap κ ν} (h : ∀ k, m.find k = m'.find k) : m = m' := by
  obtain ⟨l, hl⟩ := m
  obtain ⟨l', hl'⟩ := m'
  have : Std.Irrefl (fun a b : κ × ν => a.1 < b.1) := ⟨fun a => lt_irrefl a.1⟩
  have : Std.Asymm (fun a b : κ × ν => a.1 < b.1) := ⟨fun a b => lt_asymm⟩
  congr 1
  refine List.Pairwise.eq_of_mem_iff hl hl' ?_
  rintro ⟨k, v⟩
  rw [← find_eq_some_iff ⟨l, hl⟩, ← find_eq_some_iff ⟨l', hl'⟩, h]

/-- The keys, in the order of iteration. -/
def keys (m : StdMap κ ν) : List κ := m.entries.map Prod.fst

theorem nodup_keys (m : StdMap κ ν) : m.keys.Nodup := by
  rw [keys, List.Nodup, List.pairwise_map]
  exact m.sorted.imp (fun h => h.ne)

theorem mem_keys_iff (m : StdMap κ ν) (k : κ) : k ∈ m.keys ↔ m.find k ≠ none := by
  constructor
  · intro h
    obtain ⟨⟨k', v⟩, hmem, rfl⟩ := List.mem_map.mp h
    rw [(m.find_eq_some_iff k' v).mpr hmem]
    simp
  · intro h
    obtain ⟨v, hv⟩ := Option.ne_none_iff_exists'.mp h
    exact List.mem_map.mpr ⟨(k, v), (m.find_eq_some_iff k v).mp hv, rfl⟩

/-! ### Entries in any order -/

theorem insertEntry_perm {k : κ} {v : ν} : ∀ {l : List (κ × ν)}, findEntry k l = none →
    (insertEntry k v l).Perm ((k, v) :: l) := by
  intro l
  induction l with
  | nil => intro _; exact List.Perm.refl _
  | cons e l ih =>
    intro h
    rw [findEntry] at h
    by_cases heq : e.1 = k
    · rw [if_pos heq] at h
      cases h
    · rw [if_neg heq] at h
      rw [insertEntry]
      by_cases hlt : k < e.1
      · rw [if_pos hlt]
      · rw [if_neg hlt, if_neg heq]
        exact ((ih h).cons e).trans (List.Perm.swap _ _ l)

theorem entries_emplace_perm {m : StdMap κ ν} {k : κ} (v : ν) (h : m.find k = none) :
    (m.emplace k v).entries.Perm ((k, v) :: m.entries) := insertEntry_perm h

/-- **Entries with different keys are all there.** -/
theorem entries_foldl_emplace_perm : ∀ (l : List (κ × ν)) (m : StdMap κ ν),
    (l.map Prod.fst).Nodup → (∀ e ∈ l, m.find e.1 = none) →
    (l.foldl (fun m e => m.emplace e.1 e.2) m).entries.Perm (l ++ m.entries) := by
  intro l
  induction l with
  | nil => intro m _ _; exact List.Perm.refl _
  | cons e l ih =>
    intro m hkeys hnew
    rw [List.map_cons, List.nodup_cons] at hkeys
    have hstep : ∀ x ∈ l, (m.emplace e.1 e.2).find x.1 = none := by
      intro x hx
      have hne : x.1 ≠ e.1 := fun heq => hkeys.1 (heq ▸ List.mem_map_of_mem hx)
      rw [find_emplace_of_ne _ _ hne]
      exact hnew x (List.mem_cons_of_mem e hx)
    have hfirst := entries_emplace_perm e.2 (hnew e List.mem_cons_self)
    rw [List.foldl_cons]
    exact ((ih _ hkeys.2 hstep).trans (hfirst.append_left l)).trans List.perm_middle

theorem mem_keys_foldl_emplace {l : List (κ × ν)} {k : κ} :
    k ∈ (l.foldl (fun m e => m.emplace e.1 e.2) (empty : StdMap κ ν)).keys ↔ k ∈ l.map Prod.fst := by
  rw [mem_keys_iff, find_foldl_emplace Prod.fst Prod.snd, find_empty, Option.none_or, ne_eq,
    Option.map_eq_none_iff, List.find?_eq_none, List.mem_map]
  simp

theorem ext_perm {m m' : StdMap κ ν} (h : m.entries.Perm m'.entries) : m = m' := by
  refine ext_find (fun k => ?_)
  refine Option.ext (fun v => ?_)
  rw [find_eq_some_iff, find_eq_some_iff]
  exact h.mem_iff

/-! ### Removing and replacing -/

/-- `erase` -/
def erase (m : StdMap κ ν) (k : κ) : StdMap κ ν :=
  ⟨m.entries.filter (fun e => e.1 ≠ k), m.sorted.filter _⟩

theorem findEntry_filter (k k' : κ) (l : List (κ × ν)) :
    findEntry k' (l.filter (fun e => e.1 ≠ k)) = if k' = k then none else findEntry k' l := by
  induction l with
  | nil => rw [List.filter_nil, findEntry, ite_self]
  | cons e l ih =>
    by_cases he : e.1 = k
    · rw [List.filter_cons_of_neg (by simp [he]), ih]
      by_cases hk : k' = k
      · rw [if_pos hk, if_pos hk]
      · rw [if_neg hk, if_neg hk, findEntry, if_neg (fun h => hk (h.symm.trans he))]
    · rw [List.filter_cons_of_pos (by simp [he]), findEntry, ih]
      by_cases hk : k' = k
      · rw [if_pos hk, if_pos hk, if_neg (fun h => he (h.trans hk))]
      · rw [if_neg hk, if_neg hk, findEntry]

theorem find_erase (m : StdMap κ ν) (k k' : κ) :
    (m.erase k).find k' = if k' = k then none else m.find k' :=
  findEntry_filter k k' m.entries

theorem find_erase_self (m : StdMap κ ν) (k : κ) : (m.erase k).find k = none := by
  rw [find_erase, if_pos rfl]

theorem find_erase_of_ne (m : StdMap κ ν) {k k' : κ} (h : k' ≠ k) :
    (m.erase k).find k' = m.find k' := by
  rw [find_erase, if_neg h]

/-- `operator[]` on the left of an assignment. -/
def assign (m : StdMap κ ν) (k : κ) (v : ν) : StdMap κ ν := (m.erase k).emplace k v

theorem find_assign (m : StdMap κ ν) (k : κ) (v : ν) (k' : κ) :
    (m.assign k v).find k' = if k' = k then some v else m.find k' := by
  rw [assign, find_emplace, find_erase, find_erase, if_pos rfl]
  by_cases hk : k' = k
  · rw [if_pos hk, if_pos hk, Option.getD_none]
  · rw [if_neg hk, if_neg hk, if_neg hk]

theorem find_assign_self (m : StdMap κ ν) (k : κ) (v : ν) : (m.assign k v).find k = some v := by
  rw [find_assign, if_pos rfl]

theorem find_assign_of_ne (m : StdMap κ ν) {k k' : κ} (v : ν) (h : k' ≠ k) :
    (m.assign k v).find k' = m.find k' := by
  rw [find_assign, if_neg h]

theorem find_assign_eq_some {m : StdMap κ ν} {k k' : κ} {v w : ν}
    (h : (m.assign k v).find k' = some w) : k' = k ∧ v = w ∨ k' ≠ k ∧ m.find k' = some w := by
  rw [find_assign] at h
  by_cases hk : k' = k
  · rw [if_pos hk] at h
    exact Or.inl ⟨hk, Option.some.inj h⟩
  · rw [if_neg hk] at h
    exact Or.inr ⟨hk, h⟩

end StdMap
