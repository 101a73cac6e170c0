import Opaleye.Lib.TransSys
import Opaleye.Path.DirectoryTree

/-!
# Children by name and by index

`Directory_tree_node` gives its children by name, from the map they are kept in, and
by their place in it.  `get_child_by_idx` takes the iterator of the first child and
calls `std::next` to go on from there, but `std::next` returns the iterator it has
moved and leaves its argument where it is, and what it returns is dropped: whatever
the index, it is the first child that is returned.

`Linked` is kept by every `create_child` with a new name: the map has the children
that were created, under their names.  So it is the index alone that goes wrong, and
`enumerates_iff` says that it does with the second child.
-/

namespace Opaleye.Path

open FsPath TransSys

variable {δ : Type}

/-! ### The two ways -/

namespace DirectoryTree

def getChildCount (t : DirectoryTree δ) (p : Ptr) : Nat := (t.node p).children.entries.length

def getChildByIdx (t : DirectoryTree δ) (p : Ptr) (idx : Nat) : Option Ptr :=
  if idx ≥ t.getChildCount p then none
  else
    -- `m_children.begin()`; the iterator that `std::next` returns is dropped
    let it := 0
    (t.node p).children.entries[it]?.map Prod.snd

end DirectoryTree

/-! ### Nodes and their children -/

/-- Nodes that were created, with a record of who created whom. -/
structure Family (δ : Type) where
  tree : DirectoryTree δ
  born : List (Ptr × Ptr)

/-- Calls of `create_child` on the nodes there are, from a node without a parent. -/
def families (δ : Type) : TransSys (Family δ) (Ptr × Path) where
  init := fun f => ∃ fullPath, f = ⟨⟨[DirectoryTreeNode.create fullPath]⟩, []⟩
  step := fun f call =>
    if call.1 < f.tree.nodes.length then
      let r := f.tree.createChild call.1 call.2
      some ⟨r.1, (call.1, r.2) :: f.born⟩
    else none

/-- No child of that node has the name already. -/
def NewName (f : Family δ) (call : Ptr × Path) : Prop :=
  ∀ e ∈ f.born, e.1 = call.1 → (f.tree.node e.2).name ≠ call.2.filename

instance (f : Family δ) (call : Ptr × Path) : Decidable (NewName f call) :=
  inferInstanceAs (Decidable (∀ e ∈ f.born, _))

/-- The indices below the count give every child once, by increasing name and as
`get_child_by_name` has it, and the others give none. -/
def Enumerates (f : Family δ) (p : Ptr) : Prop :=
  ∃ kids : List Ptr, kids.length = f.tree.getChildCount p ∧
    (∀ idx, f.tree.getChildByIdx p idx = kids[idx]?) ∧
    (kids.Nodup ∧ ∀ c, c ∈ kids ↔ (p, c) ∈ f.born) ∧
    kids.Pairwise (fun a b => (f.tree.node a).name < (f.tree.node b).name) ∧
    ∀ c ∈ kids, f.tree.getChildByName p (f.tree.node c).name = some c

/-! ### What the map holds -/

/-- **The map of a node has the children that were created, under their names.** -/
structure Linked (f : Family δ) : Prop where
  lt : ∀ p c, (p, c) ∈ f.born → p < f.tree.nodes.length ∧ c < f.tree.nodes.length
  find : ∀ p k c, p < f.tree.nodes.length →
    (f.tree.getChildByName p k = some c ↔ (p, c) ∈ f.born ∧ (f.tree.node c).name = k)

theorem linked_single (fullPath : Path) :
    Linked (⟨⟨[DirectoryTreeNode.create fullPath]⟩, []⟩ : Family δ) := by
  refine ⟨nofun, fun p k c hp => ?_⟩
  obtain rfl : p = 0 := Nat.lt_one_iff.mp hp
  exact iff_of_false nofun nofun

section Step

variable {f : Family δ} {p : Ptr} {childPath : Path}

theorem length_createChild (t : DirectoryTree δ) (p : Ptr) (childPath : Path) :
    (t.createChild p childPath).1.nodes.length = t.nodes.length + 1 := by
  simp only [DirectoryTree.createChild, List.length_append, List.length_modify, List.length_singleton]

theorem name_createChild (t : DirectoryTree δ) (p : Ptr) (childPath : Path) {q : Ptr}
    (hq : q < t.nodes.length) :
    ((t.createChild p childPath).1.node q).name = (t.node q).name := by
  rw [DirectoryTree.node_createChild t p childPath q hq]
  split
  · rfl
  · rfl

theorem Linked.find_new (h : Linked f) (hp : p < f.tree.nodes.length)
    (hnew : NewName f (p, childPath)) : f.tree.getChildByName p childPath.filename = none := by
  cases hfind : f.tree.getChildByName p childPath.filename with
  | none => rfl
  | some c =>
    obtain ⟨hborn, hname⟩ := (h.find p _ c hp).mp hfind
    exact absurd hname (hnew (p, c) hborn rfl)

theorem Linked.getChildByName_createChild (h : Linked f) (hp : p < f.tree.nodes.length)
    (hnew : NewName f (p, childPath)) {q : Ptr} (hq : q < f.tree.nodes.length) (k : List Char) :
    (f.tree.createChild p childPath).1.getChildByName q k
      = if q = p ∧ k = childPath.filename then some f.tree.nodes.length
        else f.tree.getChildByName q k := by
  have hnone := h.find_new hp hnew
  rw [DirectoryTree.getChildByName] at hnone
  rw [DirectoryTree.getChildByName, DirectoryTree.node_createChild _ _ _ _ hq]
  by_cases hqp : p = q
  · subst hqp
    rw [if_pos rfl, StdMap.find_emplace, hnone, DirectoryTree.getChildByName]
    by_cases hk : k = childPath.filename
    · rw [if_pos hk, if_pos ⟨rfl, hk⟩]
      rfl
    · rw [if_neg hk, if_neg (fun hc => hk hc.2)]
  · rw [if_neg hqp, if_neg (fun hc => hqp hc.1.symm), DirectoryTree.getChildByName]

theorem Linked.getChildByName_eq_new_iff (h : Linked f) (hp : p < f.tree.nodes.length)
    (hnew : NewName f (p, childPath)) {q : Ptr} (hq : q < f.tree.nodes.length) (k : List Char) :
    (f.tree.createChild p childPath).1.getChildByName q k = some f.tree.nodes.length ↔
      q = p ∧ k = childPath.filename := by
  rw [h.getChildByName_createChild hp hnew hq]
  by_cases hqk : q = p ∧ k = childPath.filename
  · rw [if_pos hqk]
    exact iff_of_true rfl hqk
  · rw [if_neg hqk]
    refine iff_of_false (fun hfind => ?_) hqk
    exact absurd (h.lt _ _ ((h.find q k _ hq).mp hfind).1).2 (lt_irrefl _)

theorem Linked.getChildByName_eq_old_iff (h : Linked f) (hp : p < f.tree.nodes.length)
    (hnew : NewName f (p, childPath)) {q c : Ptr} (hq : q < f.tree.nodes.length)
    (hc : c ≠ f.tree.nodes.length) (k : List Char) :
    (f.tree.createChild p childPath).1.getChildByName q k = some c ↔
      f.tree.getChildByName q k = some c := by
  rw [h.getChildByName_createChild hp hnew hq]
  by_cases hqk : q = p ∧ k = childPath.filename
  · have hnone := h.find_new hp hnew
    rw [if_pos hqk, hqk.1, hqk.2, hnone]
    exact iff_of_false (fun heq => hc (Option.some.inj heq).symm) nofun
  · rw [if_neg hqk]

/-- **A child with a new name is linked with the others.** -/
theorem Linked.createChild (h : Linked f) (hp : p < f.tree.nodes.length)
    (hnew : NewName f (p, childPath)) :
    Linked ⟨(f.tree.createChild p childPath).1, (p, f.tree.nodes.length) :: f.born⟩ := by
  constructor
  · intro q c hborn
    rw [length_createChild]
    rcases List.mem_cons.mp hborn with heq | hborn
    · cases heq
      exact ⟨Nat.lt_succ_of_lt hp, Nat.lt_succ_self _⟩
    · obtain ⟨hq, hc⟩ := h.lt q c hborn
      exact ⟨Nat.lt_succ_of_lt hq, Nat.lt_succ_of_lt hc⟩
  · intro q k c hq
    rw [length_createChild] at hq
    rw [List.mem_cons, Prod.mk.injEq]
    by_cases hlt : q < f.tree.nodes.length
    · by_cases hc : c = f.tree.nodes.length
      · subst hc
        have hborn : (q, f.tree.nodes.length) ∉ f.born :=
          fun hborn => absurd (h.lt _ _ hborn).2 (lt_irrefl _)
        rw [h.getChildByName_eq_new_iff hp hnew hlt, DirectoryTree.node_createChild_new]
        constructor
        · rintro ⟨rfl, rfl⟩
          exact ⟨Or.inl ⟨rfl, rfl⟩, rfl⟩
        · rintro ⟨⟨rfl, -⟩ | hq', hk⟩
          · exact ⟨rfl, hk.symm⟩
          · exact absurd hq' hborn
      · rw [h.getChildByName_eq_old_iff hp hnew hlt hc, h.find q k c hlt]
        constructor
        · rintro ⟨hborn, hname⟩
          exact ⟨Or.inr hborn, by rw [name_createChild _ _ _ (h.lt _ _ hborn).2, hname]⟩
        · rintro ⟨⟨-, heq⟩ | hborn, hname⟩
          · exact absurd heq hc
          · rw [name_createChild _ _ _ (h.lt _ _ hborn).2] at hname
            exact ⟨hborn, hname⟩
    · -- the new node has no children
      obtain rfl : q = f.tree.nodes.length := by omega
      rw [DirectoryTree.getChildByName_createChild_new]
      refine iff_of_false nofun ?_
      rintro ⟨⟨rfl, -⟩ | hborn, -⟩
      · exact hlt hp
      · exact hlt (h.lt _ _ hborn).1

end Step

theorem linked_of_reach {f : Family δ} (h : Reach (families δ) NewName f) : Linked f := by
  refine Reach.invariant (I := Linked) ?_ ?_ h
  · rintro f ⟨fullPath, rfl⟩
    exact linked_single fullPath
  · intro f call f' hlinked hnew hstep
    simp only [families] at hstep
    split at hstep
    · next hp =>
      cases hstep
      exact hlinked.createChild hp hnew
    · cases hstep

/-! ### By index -/

theorem getChildByIdx_of_le {t : DirectoryTree δ} {p : Ptr} {idx : Nat} (h : t.getChildCount p ≤ idx) :
    t.getChildByIdx p idx = none := if_pos h

/-- **Every index gives the first child.** -/
theorem getChildByIdx_of_lt {t : DirectoryTree δ} {p : Ptr} {idx : Nat} (h : idx < t.getChildCount p) :
    t.getChildByIdx p idx = t.getChildByIdx p 0 := by
  rw [DirectoryTree.getChildByIdx, if_neg (by omega), DirectoryTree.getChildByIdx, if_neg (by omega)]

section Map

variable {f : Family δ} {p : Ptr}

theorem Linked.mem_entries_iff (h : Linked f) (hp : p < f.tree.nodes.length) (e : List Char × Ptr) :
    e ∈ (f.tree.node p).children.entries ↔ (p, e.2) ∈ f.born ∧ (f.tree.node e.2).name = e.1 :=
  (StdMap.find_eq_some_iff _ e.1 e.2).symm.trans (h.find p e.1 e.2 hp)

theorem Linked.sorted (h : Linked f) (hp : p < f.tree.nodes.length) :
    ((f.tree.node p).children.entries.map Prod.snd).Pairwise
      (fun a b => (f.tree.node a).name < (f.tree.node b).name) := by
  rw [List.pairwise_map]
  refine List.Pairwise.imp_of_mem ?_ (f.tree.node p).children.sorted
  intro a b ha hb hlt
  rw [((h.mem_entries_iff hp a).mp ha).2, ((h.mem_entries_iff hp b).mp hb).2]
  exact hlt

theorem Linked.mem_kids_iff (h : Linked f) (hp : p < f.tree.nodes.length) (c : Ptr) :
    c ∈ (f.tree.node p).children.entries.map Prod.snd ↔ (p, c) ∈ f.born := by
  rw [List.mem_map]
  constructor
  · rintro ⟨e, he, rfl⟩
    exact ((h.mem_entries_iff hp e).mp he).1
  · intro hborn
    exact ⟨((f.tree.node c).name, c), (h.mem_entries_iff hp _).mpr ⟨hborn, rfl⟩, rfl⟩

theorem getChildByIdx_eq_of_le_one (hle : f.tree.getChildCount p ≤ 1) (idx : Nat) :
    f.tree.getChildByIdx p idx = ((f.tree.node p).children.entries.map Prod.snd)[idx]? := by
  rw [List.getElem?_map]
  by_cases hlt : idx < f.tree.getChildCount p
  · obtain rfl : idx = 0 := by omega
    rw [DirectoryTree.getChildByIdx, if_neg (by omega)]
  · rw [getChildByIdx_of_le (by omega), List.getElem?_eq_none (not_lt.mp hlt), Option.map_none]

end Map

theorem not_enumerates_of_lt {f : Family δ} {p : Ptr} (h : 1 < f.tree.getChildCount p) :
    ¬ Enumerates f p := by
  rintro ⟨kids, hlen, hidx, ⟨hnodup, -⟩, -⟩
  have h0 : 0 < kids.length := by omega
  have h1 : 1 < kids.length := by omega
  have hsame : kids[0]? = kids[1]? := by
    rw [← hidx 0, ← hidx 1, getChildByIdx_of_lt h]
  rw [List.getElem?_eq_getElem h0, List.getElem?_eq_getElem h1, Option.some.injEq] at hsame
  exact absurd ((hnodup.getElem_inj_iff).mp hsame) (by omega)

/-- **The children are enumerated exactly when there is one at most.** -/
theorem enumerates_iff (f : Family δ) (h : Reach (families δ) NewName f) (p : Ptr)
    (hp : p < f.tree.nodes.length) : Enumerates f p ↔ f.tree.getChildCount p ≤ 1 := by
  have hlinked := linked_of_reach h
  constructor
  · intro henum
    by_contra hmany
    exact not_enumerates_of_lt (by omega) henum
  · intro hle
    have hsorted := hlinked.sorted hp
    refine ⟨_, List.length_map _, getChildByIdx_eq_of_le_one hle, ⟨?_, hlinked.mem_kids_iff hp⟩, hsorted,
      fun c hc => ?_⟩
    · exact hsorted.imp (fun hlt heq => absurd (heq ▸ hlt) (lt_irrefl _))
    · exact (hlinked.find p _ c hp).mpr ⟨(hlinked.mem_kids_iff hp c).mp hc, rfl⟩

theorem enumerates_iff_oneChild :
    ∃ f : Family Unit, Reach (families Unit) NewName f ∧ f.born = [(0, 1)] ∧ Enumerates f 0 := by
  have hinit : (families Unit).init ⟨⟨[DirectoryTreeNode.create ⟨['/']⟩]⟩, []⟩ := ⟨_, rfl⟩
  obtain ⟨f, hf, hP⟩ := Reach.of_trace (C := NewName) [(0, ⟨"/foo".toList⟩)]
    (P := fun f : Family Unit => decide (f.born = [(0, 1)] ∧ 0 < f.tree.nodes.length ∧
      f.tree.getChildCount 0 ≤ 1)) hinit (by decide) (by decide)
  obtain ⟨hborn, hlt, hle⟩ := of_decide_eq_true hP
  exact ⟨f, hf, hborn, (enumerates_iff f hf 0 hlt).mpr hle⟩

/-- **Two children are enough**: both indices give `bar`, and no index gives `foo`. -/
theorem enumerates_not_twoChildren :
    ∃ f : Family Unit, Reach (families Unit) NewName f ∧
      f.tree.getChildByName 0 "foo".toList = some 1 ∧ f.tree.getChildByName 0 "bar".toList = some 2 ∧
      f.tree.getChildByIdx 0 0 = some 2 ∧ f.tree.getChildByIdx 0 1 = some 2 ∧ ¬ Enumerates f 0 := by
  have hinit : (families Unit).init ⟨⟨[DirectoryTreeNode.create ⟨['/']⟩]⟩, []⟩ := ⟨_, rfl⟩
  obtain ⟨f, hf, hP⟩ := Reach.of_trace (C := NewName)
    [(0, ⟨"/foo".toList⟩), (0, ⟨"/bar".toList⟩)]
    (P := fun f : Family Unit => decide (f.tree.getChildByName 0 "foo".toList = some 1 ∧
      f.tree.getChildByName 0 "bar".toList = some 2 ∧ f.tree.getChildByIdx 0 0 = some 2 ∧
      f.tree.getChildByIdx 0 1 = some 2 ∧ 1 < f.tree.getChildCount 0)) hinit (by decide) (by decide)
  obtain ⟨hfoo, hbar, h0, h1, hcount⟩ := of_decide_eq_true hP
  exact ⟨f, hf, hfoo, hbar, h0, h1, not_enumerates_of_lt hcount⟩

end Opaleye.Path
