import Opaleye.Lib.FsPath
import Opaleye.Lib.PrefixMap
import Opaleye.Lib.StdMap
import Mathlib.Data.List.Lex
import Mathlib.Data.Char
import Mathlib.Data.List.GetD

/-!
# The directory tree

`libs/opaleye-util/include/opaleye-util/path/Directory_tree.hpp`: a tree of
nodes with named children, kept for a table of URIs.  A node is named here by
its place in the order of creation, the root being number `0`; the children map
holds these numbers as the source's holds shared pointers.

Every node stores its whole path, put together one element at a time on the
way down, and hangs under the last element of it.  `Rep` says that the stored
path is the sequence of names from the root.  Then a node is reached by one
sequence only, and the tree is a map on sequences (`view`), on which `set_node`
is `PrefixMap.set` (`setNode_rooted`).  `run_spec` puts calls together; what a
lookup reads off the map is in `Path/TreeLookup.lean`.
-/

namespace Opaleye.Path

open FsPath

/-- `std::domain_error` -/
structure DomainError where
  what : String
  deriving DecidableEq, Repr

/-- A pointer to a node. -/
abbrev Ptr := Nat

/-- `Directory_tree_node` -/
structure DirectoryTreeNode (δ : Type) where
  fullPath : Path
  name : List Char
  children : StdMap (List Char) Ptr
  data : Option δ

namespace DirectoryTreeNode

variable {δ : Type}

/-- `create(parent, full_path)` -/
def create (fullPath : Path) : DirectoryTreeNode δ where
  fullPath := fullPath
  name := fullPath.filename
  children := StdMap.empty
  data := none

def isPath (n : DirectoryTreeNode δ) (fullPath : Path) : Bool := n.fullPath.eqv fullPath

def isNodeName (n : DirectoryTreeNode δ) (name : List Char) : Bool := n.name == name

end DirectoryTreeNode

/-- `Path_util::trailing_element_is_dir` -/
def trailingElementIsDir (path : Path) : Bool := path.elements.getLast? == some ['.']

/-- `Directory_tree::MATCH_TYPE` -/
inductive MatchType
  | parentPath
  | exact
  | none
  deriving DecidableEq, Repr

/-- `Directory_tree`, with all the nodes it has created. -/
structure DirectoryTree (δ : Type) where
  nodes : List (DirectoryTreeNode δ)

namespace DirectoryTree

variable {δ : Type}

def mRoot : Ptr := 0

/-- `Directory_tree()` -/
def create : DirectoryTree δ := ⟨[DirectoryTreeNode.create ⟨['/']⟩]⟩

/-- `*p` -/
def node (t : DirectoryTree δ) (p : Ptr) : DirectoryTreeNode δ :=
  t.nodes.getD p (DirectoryTreeNode.create ⟨[]⟩)

def setData (t : DirectoryTree δ) (p : Ptr) (data : Option δ) : DirectoryTree δ :=
  ⟨t.nodes.modify p (fun n => { n with data := data })⟩

def createChild (t : DirectoryTree δ) (p : Ptr) (childPath : Path) : DirectoryTree δ × Ptr :=
  let childNode := t.nodes.length
  (⟨t.nodes.modify p (fun n => { n with children := n.children.emplace childPath.filename childNode })
      ++ [DirectoryTreeNode.create childPath]⟩, childNode)

def getChildByName (t : DirectoryTree δ) (p : Ptr) (name : List Char) : Option Ptr :=
  (t.node p).children.find name

/-- The loop of `set_node`, from `curr_node` with `curr_path`. -/
def setNodeLoop (t : DirectoryTree δ) (currNode : Ptr) (currPath : Path) :
    List (List Char) → DirectoryTree δ × Ptr
  | [] => (t, currNode)
  | q :: qs =>
    let currPath := currPath.append ⟨q⟩
    match t.getChildByName currNode q with
    | some child => setNodeLoop t child currPath qs
    | none =>
      let r := t.createChild currNode currPath
      setNodeLoop r.1 r.2 currPath qs

/-- `set_node`: what it throws or returns, and the tree it leaves. -/
def setNode (t : DirectoryTree δ) (fullPath : Path) (data : Option δ) :
    Except DomainError (Option Ptr) × DirectoryTree δ :=
  if !fullPath.isAbsolute then (.error ⟨"full_path must be absolute path"⟩, t)
  else if !(t.node mRoot).isNodeName (fullPath.elements.headD []) then (.ok none, t)
  else
    let r := t.setNodeLoop mRoot (t.node mRoot).fullPath fullPath.elements.tail
    (.ok (some r.2), r.1.setData r.2 data)

/-- The loop of `find_match`: where `curr_node` ends up. -/
def findLoop (t : DirectoryTree δ) (mode : MatchType) (currNode : Ptr) :
    List (List Char) → Option Ptr
  | [] => some currNode
  | q :: qs =>
    match t.getChildByName currNode q with
    | none => if mode = .parentPath then t.getChildByName currNode ['.'] else some currNode
    | some nextNode => findLoop t mode nextNode qs

/-- The `switch(mode)` of `find_match`. -/
def acceptMatch (t : DirectoryTree δ) (queryPath : Path) (mode : MatchType) (currNode : Ptr) :
    Except DomainError (Option Ptr) :=
  match mode with
  | .parentPath =>
    if (t.node currNode).isPath queryPath then .ok (some currNode)
    else if trailingElementIsDir (t.node currNode).fullPath then .ok (some currNode)
    else .ok none
  | .exact => if (t.node currNode).isPath queryPath then .ok (some currNode) else .ok none
  | .none => .error ⟨"mode is oob"⟩

def findMatch (t : DirectoryTree δ) (queryPath : Path) (mode : MatchType) :
    Except DomainError (Option Ptr) :=
  if !queryPath.isAbsolute then .error ⟨"query_path must be absolute path"⟩
  else if !(t.node mRoot).isNodeName (queryPath.elements.headD []) then .ok none
  else
    match t.findLoop mode mRoot queryPath.elements.tail with
    | some currNode => t.acceptMatch queryPath mode currNode
    | none => .ok none

/-- A sequence of `set_node` calls on a new tree; a caller goes on after one
that throws. -/
def run (calls : List (Path × Option δ)) : DirectoryTree δ :=
  calls.foldl (fun t c => (t.setNode c.1 c.2).2) create

/-- The node reached from `p` by a sequence of names. -/
def walk (t : DirectoryTree δ) (p : Ptr) : List (List Char) → Option Ptr
  | [] => some p
  | e :: es => (t.getChildByName p e).bind (fun c => t.walk c es)

/-- The tree as a map on sequences of names. -/
def view (t : DirectoryTree δ) : PrefixMap (List Char) δ :=
  fun ks => (t.walk mRoot ks).map (fun p => (t.node p).data)

/-! ### Nodes after an update -/

theorem node_of_lt {t : DirectoryTree δ} {p : Ptr} (h : p < t.nodes.length) :
    t.node p = t.nodes[p] := by
  rw [node, List.getD_eq_getElem _ _ h]

theorem node_setData (t : DirectoryTree δ) (p : Ptr) (data : Option δ) (q : Ptr)
    (hq : q < t.nodes.length) :
    (t.setData p data).node q = if p = q then { t.node q with data := data } else t.node q := by
  rw [node_of_lt hq, node_of_lt (by simpa [setData] using hq)]
  simp only [setData, List.getElem_modify]

theorem node_createChild (t : DirectoryTree δ) (p : Ptr) (childPath : Path) (q : Ptr)
    (hq : q < t.nodes.length) :
    (t.createChild p childPath).1.node q
      = if p = q then
          { t.node q with
            children := (t.node q).children.emplace childPath.filename t.nodes.length }
        else t.node q := by
  have hq' : q < (t.createChild p childPath).1.nodes.length := by
    simp only [createChild, List.length_append, List.length_modify]
    exact Nat.lt_succ_of_lt hq
  rw [node_of_lt hq, node_of_lt hq']
  simp only [createChild]
  rw [List.getElem_append_left (by simpa using hq), List.getElem_modify]

theorem node_createChild_new (t : DirectoryTree δ) (p : Ptr) (childPath : Path) :
    (t.createChild p childPath).1.node t.nodes.length = DirectoryTreeNode.create childPath := by
  rw [node_of_lt (by simp [createChild])]
  simp [createChild]

/-! ### The representation -/

/-- The node `p` holds the path spelled by `es`. -/
def At (t : DirectoryTree δ) (p : Ptr) (es : List (List Char)) : Prop :=
  p < t.nodes.length ∧ (∀ e ∈ es, Proper e) ∧ (t.node p).fullPath = spell es

/-- **What every run keeps**: the root holds `/` and is called so, and a child
named `k` holds the path of its parent with `k` behind it. -/
structure Rep (t : DirectoryTree δ) : Prop where
  root : t.At mRoot []
  root_name : (t.node mRoot).name = ['/']
  child : ∀ p k c, p < t.nodes.length → t.getChildByName p k = some c →
    ∃ es, t.At p es ∧ t.At c (es ++ [k])

theorem At.unique {t : DirectoryTree δ} {p : Ptr} {es es' : List (List Char)} (h : t.At p es)
    (h' : t.At p es') : es = es' := by
  refine spell_injective h.2.1 h'.2.1 ?_
  rw [← h.2.2, ← h'.2.2]

theorem walk_concat (t : DirectoryTree δ) (k : List Char) : ∀ (ks : List (List Char)) (p : Ptr),
    t.walk p (ks ++ [k]) = (t.walk p ks).bind (fun c => t.getChildByName c k) := by
  intro ks
  induction ks with
  | nil =>
    intro p
    simp [walk]
  | cons e es ih =>
    intro p
    rw [List.cons_append, walk, walk]
    cases t.getChildByName p e with
    | none => rfl
    | some c => exact ih c

/-- **A node is reached by the path it holds**, and by no other. -/
theorem Rep.at_walk {t : DirectoryTree δ} (h : t.Rep) : ∀ {es : List (List Char)} {p : Ptr},
    t.walk mRoot es = some p → t.At p es := by
  intro es
  induction es using List.reverseRecOn with
  | nil =>
    intro p hp
    rw [walk, Option.some.injEq] at hp
    exact hp ▸ h.root
  | append_singleton es e ih =>
    intro p hp
    rw [walk_concat] at hp
    obtain ⟨c, hc, hcp⟩ := Option.bind_eq_some_iff.mp hp
    have hat := ih hc
    obtain ⟨es', hat', hp'⟩ := h.child c e p hat.1 hcp
    rw [hat.unique hat']
    exact hp'

theorem walk_prefix {t : DirectoryTree δ} {ks es : List (List Char)} {p : Ptr}
    (hp : t.walk mRoot es = some p) (hk : ks <+: es) : ∃ q, t.walk mRoot ks = some q := by
  obtain ⟨r, rfl⟩ := hk
  induction r using List.reverseRecOn generalizing p with
  | nil => exact ⟨p, by simpa using hp⟩
  | append_singleton r e ih =>
    rw [← List.append_assoc, walk_concat] at hp
    obtain ⟨c, hc, -⟩ := Option.bind_eq_some_iff.mp hp
    exact ih hc

theorem rep_create : (create : DirectoryTree δ).Rep := by
  refine ⟨⟨Nat.zero_lt_one, by simp, rfl⟩, rfl, fun p k c hp hc => ?_⟩
  have hp0 : p = 0 := Nat.lt_one_iff.mp hp
  subst hp0
  exact absurd hc (by simp [getChildByName, node, create, DirectoryTreeNode.create])

/-! ### One new child -/

section NewChild

variable {t : DirectoryTree δ} {ds : List (List Char)} {p : Ptr} {e : List Char}

theorem proper_concat (hds : ∀ x ∈ ds, Proper x) (he : Proper e) : ∀ x ∈ ds ++ [e], Proper x := by
  intro x hx
  rcases List.mem_append.mp hx with hx | hx
  · exact hds x hx
  · exact List.mem_singleton.mp hx ▸ he

theorem getChildByName_createChild (h : t.At p ds) (he : Proper e)
    (hnew : t.getChildByName p e = none) {q : Ptr} (hq : q < t.nodes.length) (k : List Char) :
    (t.createChild p (spell (ds ++ [e]))).1.getChildByName q k
      = if q = p ∧ k = e then some t.nodes.length else t.getChildByName q k := by
  rw [getChildByName, node_createChild _ _ _ _ hq, filename_spell_append h.2.1 he]
  by_cases hqp : p = q
  · subst hqp
    rw [if_pos rfl, StdMap.find_emplace]
    by_cases hk : k = e
    · subst hk
      rw [getChildByName] at hnew
      rw [if_pos rfl, if_pos ⟨rfl, rfl⟩, hnew]
      rfl
    · rw [if_neg hk, if_neg (fun hc => hk hc.2), getChildByName]
  · rw [if_neg hqp, if_neg (fun hc => hqp hc.1.symm), getChildByName]

theorem getChildByName_createChild_new (childPath : Path) (k : List Char) :
    (t.createChild p childPath).1.getChildByName t.nodes.length k = none := by
  rw [getChildByName, node_createChild_new]
  rfl

theorem At.createChild {q : Ptr} {es : List (List Char)} (h : t.At q es) (childPath : Path) :
    (t.createChild p childPath).1.At q es := by
  refine ⟨?_, h.2.1, ?_⟩
  · simp only [DirectoryTree.createChild, List.length_append, List.length_modify]
    exact Nat.lt_succ_of_lt h.1
  · rw [node_createChild _ _ _ _ h.1]
    split
    · exact h.2.2
    · exact h.2.2

theorem at_createChild_new (h : t.At p ds) (he : Proper e) :
    (t.createChild p (spell (ds ++ [e]))).1.At t.nodes.length (ds ++ [e]) := by
  refine ⟨by simp [DirectoryTree.createChild], proper_concat h.2.1 he, ?_⟩
  rw [node_createChild_new]
  rfl

theorem rep_createChild (hr : t.Rep) (h : t.At p ds) (he : Proper e)
    (hnew : t.getChildByName p e = none) : (t.createChild p (spell (ds ++ [e]))).1.Rep := by
  refine ⟨hr.root.createChild _, ?_, fun q k c hq hc => ?_⟩
  · rw [node_createChild _ _ _ _ hr.root.1]
    split
    · exact hr.root_name
    · exact hr.root_name
  · by_cases hlt : q < t.nodes.length
    · rw [getChildByName_createChild h he hnew hlt] at hc
      by_cases hqk : q = p ∧ k = e
      · obtain ⟨rfl, rfl⟩ := hqk
        rw [if_pos ⟨rfl, rfl⟩, Option.some.injEq] at hc
        subst hc
        exact ⟨ds, h.createChild _, at_createChild_new h he⟩
      · rw [if_neg hqk] at hc
        obtain ⟨es, hq', hc'⟩ := hr.child q k c hlt hc
        exact ⟨es, hq'.createChild _, hc'.createChild _⟩
    · -- the new node has no children
      have hql : q = t.nodes.length := by
        simp only [DirectoryTree.createChild, List.length_append, List.length_modify] at hq
        exact Nat.le_antisymm (Nat.lt_succ_iff.mp hq) (Nat.not_lt.mp hlt)
      rw [hql, getChildByName_createChild_new] at hc
      exact absurd hc (by simp)

/-- **A new child is one new place**, and every other walk ends where it did. -/
theorem walk_createChild (hr : t.Rep) (hp : t.walk mRoot ds = some p) (he : Proper e)
    (hnew : t.getChildByName p e = none) (ks : List (List Char)) :
    (t.createChild p (spell (ds ++ [e]))).1.walk mRoot ks
      = if ks = ds ++ [e] then some t.nodes.length else t.walk mRoot ks := by
  have hat := hr.at_walk hp
  have hnone : t.walk mRoot (ds ++ [e]) = none := by rw [walk_concat, hp]; exact hnew
  induction ks using List.reverseRecOn with
  | nil => rw [if_neg (by simp)]; rfl
  | append_singleton ks k ih =>
    rw [walk_concat, ih, walk_concat]
    by_cases hks : ks = ds ++ [e]
    · -- below the new place
      rw [if_pos hks, hks, hnone, if_neg (fun h => by simpa using congrArg List.length h)]
      exact getChildByName_createChild_new _ _
    · rw [if_neg hks]
      cases hq : t.walk mRoot ks with
      | none =>
        have hne : ks ++ [k] ≠ ds ++ [e] := by
          intro h
          obtain ⟨rfl, -⟩ := List.append_inj' h rfl
          rw [hp] at hq
          exact absurd hq (by simp)
        rw [if_neg hne]
        rfl
      | some q =>
        have hatq := hr.at_walk hq
        show (t.createChild p (spell (ds ++ [e]))).1.getChildByName q k = _
        rw [getChildByName_createChild hat he hnew hatq.1]
        refine if_congr ⟨?_, ?_⟩ rfl rfl
        · rintro ⟨rfl, rfl⟩
          rw [hat.unique hatq]
        · intro h
          obtain ⟨rfl, h'⟩ := List.append_inj' h rfl
          rw [hp, Option.some.injEq] at hq
          exact ⟨hq.symm, by simpa using h'⟩

theorem view_createChild (hr : t.Rep) (hp : t.walk mRoot ds = some p) (he : Proper e)
    (hnew : t.getChildByName p e = none) (ks : List (List Char)) :
    (t.createChild p (spell (ds ++ [e]))).1.view ks
      = if ks = ds ++ [e] then some none else t.view ks := by
  rw [view, walk_createChild hr hp he hnew]
  by_cases hk : ks = ds ++ [e]
  · rw [if_pos hk, if_pos hk, Option.map_some, node_createChild_new]
    rfl
  · rw [if_neg hk, if_neg hk, view]
    cases hq : t.walk mRoot ks with
    | none => rfl
    | some q =>
      rw [Option.map_some, Option.map_some, node_createChild _ _ _ _ (hr.at_walk hq).1]
      split
      · rfl
      · rfl

end NewChild

/-! ### Data -/

section SetData

variable {t : DirectoryTree δ} {ds : List (List Char)} {p : Ptr}

theorem getChildByName_setData (data : Option δ) (q : Ptr) (k : List Char) :
    (t.setData p data).getChildByName q k = t.getChildByName q k := by
  rw [getChildByName, getChildByName]
  by_cases hq : q < t.nodes.length
  · rw [node_setData _ _ _ _ hq]
    split
    · rfl
    · rfl
  · have hq' : t.nodes.length ≤ q := Nat.not_lt.mp hq
    rw [node, node, List.getD_eq_default _ _ hq', List.getD_eq_default _ _ (by simpa [setData])]

theorem walk_setData (data : Option δ) : ∀ (ks : List (List Char)) (q : Ptr),
    (t.setData p data).walk q ks = t.walk q ks := by
  intro ks
  induction ks with
  | nil => intro q; rfl
  | cons k ks ih =>
    intro q
    rw [walk, walk, getChildByName_setData]
    cases t.getChildByName q k with
    | none => rfl
    | some c => exact ih c

theorem At.setData {q : Ptr} {es : List (List Char)} (h : t.At q es) (data : Option δ) :
    (t.setData p data).At q es := by
  refine ⟨by simpa [DirectoryTree.setData] using h.1, h.2.1, ?_⟩
  rw [node_setData _ _ _ _ h.1]
  split
  · exact h.2.2
  · exact h.2.2

theorem rep_setData (hr : t.Rep) (data : Option δ) : (t.setData p data).Rep := by
  refine ⟨hr.root.setData data, ?_, fun q k c hq hc => ?_⟩
  · rw [node_setData _ _ _ _ hr.root.1]
    split
    · exact hr.root_name
    · exact hr.root_name
  · rw [getChildByName_setData] at hc
    obtain ⟨es, hq', hc'⟩ := hr.child q k c (by simpa [DirectoryTree.setData] using hq) hc
    exact ⟨es, hq'.setData data, hc'.setData data⟩

theorem view_setData (hr : t.Rep) (hp : t.walk mRoot ds = some p) (data : Option δ)
    (ks : List (List Char)) :
    (t.setData p data).view ks = if ks = ds then some data else t.view ks := by
  rw [view, walk_setData]
  by_cases hk : ks = ds
  · rw [if_pos hk, hk, hp, Option.map_some, node_setData _ _ _ _ (hr.at_walk hp).1, if_pos rfl]
  · rw [if_neg hk, view]
    cases hq : t.walk mRoot ks with
    | none => rfl
    | some q =>
      have hpq : p ≠ q := fun h => hk ((hr.at_walk hq).unique (h ▸ hr.at_walk hp))
      rw [Option.map_some, Option.map_some, node_setData _ _ _ _ (hr.at_walk hq).1, if_neg hpq]

end SetData

/-! ### `set_node` -/

theorem view_isSome_of_walk {t : DirectoryTree δ} {ks ds : List (List Char)} {p : Ptr}
    (hp : t.walk mRoot ds = some p) (hk : ks <+: ds) : ∃ d, t.view ks = some d := by
  obtain ⟨q, hq⟩ := walk_prefix hp hk
  exact ⟨(t.node q).data, by rw [view, hq]; rfl⟩

/-- **The loop makes places of all prefixes**, and its node is the one for the
whole path. -/
theorem setNodeLoop_spec : ∀ (es ds : List (List Char)) {t : DirectoryTree δ} {p : Ptr},
    t.Rep → t.walk mRoot ds = some p → (∀ e ∈ es, Proper e) →
    (t.setNodeLoop p (spell ds) es).1.Rep ∧
      (t.setNodeLoop p (spell ds) es).1.walk mRoot (ds ++ es)
        = some (t.setNodeLoop p (spell ds) es).2 ∧
      ∀ ks, (t.setNodeLoop p (spell ds) es).1.view ks
        = if ks <+: ds ++ es then some ((t.view ks).getD none) else t.view ks := by
  intro es
  induction es with
  | nil =>
    intro ds t p hr hp _
    refine ⟨hr, by rw [List.append_nil]; exact hp, fun ks => ?_⟩
    rw [List.append_nil]
    split
    · next hk =>
      obtain ⟨d, hd⟩ := view_isSome_of_walk hp hk
      show t.view ks = _
      rw [hd]; rfl
    · rfl
  | cons e es ih =>
    intro ds t p hr hp hes
    have he : Proper e := hes e (by simp)
    have hat := hr.at_walk hp
    have hassoc : ds ++ e :: es = ds ++ [e] ++ es := by
      rw [List.append_assoc, List.singleton_append]
    have hes' : ∀ x ∈ es, Proper x := fun x hx => hes x (by simp [hx])
    rw [setNodeLoop, append_spell hat.2.1 he, hassoc]
    cases hc : t.getChildByName p e with
    | some c =>
      have hwalk : t.walk mRoot (ds ++ [e]) = some c := by rw [walk_concat, hp]; exact hc
      exact ih (ds ++ [e]) hr hwalk hes'
    | none =>
      have hwalk : (t.createChild p (spell (ds ++ [e]))).1.walk mRoot (ds ++ [e])
          = some t.nodes.length := by rw [walk_createChild hr hp he hc, if_pos rfl]
      obtain ⟨hr', hw', hv'⟩ := ih (ds ++ [e]) (rep_createChild hr hat he hc) hwalk hes'
      refine ⟨hr', hw', fun ks => (hv' ks).trans ?_⟩
      rw [view_createChild hr hp he hc]
      by_cases hk : ks = ds ++ [e]
      · -- the new place: it had no data before
        have hnone : t.view ks = none := by rw [hk, view, walk_concat, hp]; simp [hc]
        rw [if_pos hk, if_pos (hk ▸ List.prefix_append _ _), hnone,
          if_pos (hk ▸ List.prefix_append _ _)]
        rfl
      · rw [if_neg hk]

/-- Paths that name a place in the tree: those without a root name. -/
def Rooted (p : Path) : Prop := p.elements.head? = some ['/']

instance (p : Path) : Decidable (Rooted p) := inferInstanceAs (Decidable (_ = _))

theorem Rooted.elements_eq {p : Path} (h : Rooted p) :
    p.elements = ['/'] :: p.elements.tail ∧ p.isAbsolute = true ∧
      ∀ e ∈ p.elements.tail, Proper e := by
  have heq : p.elements = ['/'] :: p.elements.tail := (List.cons_head?_tail h).symm
  obtain ⟨habs, hes⟩ := isAbsolute_of_root heq
  exact ⟨heq, habs, hes⟩

theorem setNode_not_absolute {t : DirectoryTree δ} {p : Path} (h : p.isAbsolute = false)
    (data : Option δ) : t.setNode p data = (.error ⟨"full_path must be absolute path"⟩, t) := by
  rw [setNode, h]
  rfl

theorem isNodeName_root {t : DirectoryTree δ} (hr : t.Rep) (p : Path) :
    (t.node mRoot).isNodeName (p.elements.headD []) = true ↔ Rooted p := by
  rw [DirectoryTreeNode.isNodeName, hr.root_name, beq_iff_eq, Rooted]
  cases p.elements with
  | nil => exact ⟨fun h => absurd h (by simp), fun h => absurd h (by simp)⟩
  | cons e es => exact ⟨fun h => congrArg some h.symm, fun h => (Option.some.inj h).symm⟩

theorem setNode_not_rooted {t : DirectoryTree δ} (hr : t.Rep) {p : Path}
    (habs : p.isAbsolute = true) (h : ¬ Rooted p) (data : Option δ) :
    t.setNode p data = (.ok none, t) := by
  have hname := mt (isNodeName_root hr p).mp h
  rw [setNode, habs, if_neg (by decide), if_pos (by simpa using hname)]

/-- **`set_node` on a rooted path**: it returns a node, and sets one place. -/
theorem setNode_rooted {t : DirectoryTree δ} (hr : t.Rep) {p : Path} (h : Rooted p)
    (data : Option δ) :
    (∃ n, (t.setNode p data).1 = .ok (some n)) ∧ (t.setNode p data).2.Rep ∧
      (t.setNode p data).2.view = t.view.set p.elements.tail data := by
  obtain ⟨-, habs, hes⟩ := h.elements_eq
  have hname := (isNodeName_root hr p).mpr h
  have hroot : (t.node mRoot).fullPath = spell [] := hr.root.2.2
  obtain ⟨hr', hw', hv'⟩ := setNodeLoop_spec p.elements.tail [] hr rfl hes
  rw [List.nil_append] at hw' hv'
  rw [setNode, habs, if_neg (by decide), if_neg (by rw [hname]; decide), hroot]
  refine ⟨⟨_, rfl⟩, rep_setData hr' data, ?_⟩
  funext ks
  show (setData _ _ data).view ks = _
  rw [view_setData hr' hw', hv', PrefixMap.set]

/-- The settings a sequence of calls comes to. -/
def settings (calls : List (Path × Option δ)) : List (List (List Char) × Option δ) :=
  (calls.filter (fun c => Rooted c.1)).map (fun c => (c.1.elements.tail, c.2))

theorem settings_concat (calls : List (Path × Option δ)) (c : Path × Option δ) :
    settings (calls ++ [c])
      = if Rooted c.1 then settings calls ++ [(c.1.elements.tail, c.2)] else settings calls := by
  by_cases hc : Rooted c.1
  · rw [if_pos hc]
    simp [settings, hc]
  · rw [if_neg hc]
    simp [settings, hc]

theorem run_concat (calls : List (Path × Option δ)) (c : Path × Option δ) :
    run (calls ++ [c]) = ((run calls).setNode c.1 c.2).2 := by
  rw [run, List.foldl_append]
  rfl

theorem setNode_not_rooted_snd {t : DirectoryTree δ} (hr : t.Rep) {p : Path} (h : ¬ Rooted p)
    (data : Option δ) : (t.setNode p data).2 = t := by
  cases habs : p.isAbsolute with
  | false => rw [setNode_not_absolute habs]
  | true => rw [setNode_not_rooted hr habs h]

/-- **Every run refines a map on sequences.** -/
theorem run_spec : ∀ calls : List (Path × Option δ),
    (run calls).Rep ∧ (run calls).view = PrefixMap.after (settings calls) := by
  intro calls
  induction calls using List.reverseRecOn with
  | nil =>
    refine ⟨rep_create, ?_⟩
    funext ks
    cases ks with
    | nil => rfl
    | cons k ks => rfl
  | append_singleton calls c ih =>
    obtain ⟨hr, hv⟩ := ih
    rw [run_concat, settings_concat]
    by_cases hc : Rooted c.1
    · obtain ⟨-, hr', hv'⟩ := setNode_rooted hr hc c.2
      rw [if_pos hc, PrefixMap.after_concat, hv', hv]
      exact ⟨hr', rfl⟩
    · rw [if_neg hc, setNode_not_rooted_snd hr hc]
      exact ⟨hr, hv⟩

end DirectoryTree

end Opaleye.Path
