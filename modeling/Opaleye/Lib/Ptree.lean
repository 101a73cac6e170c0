import Mathlib.Data.List.Basic

/-!
# Property trees

`boost::property_tree`: every node has data and a list of children under keys
that need not be distinct.  A path names the first child under its first key,
the first child of that one under its second key, and so on.

Writing goes down the same way and appends a child where there is none under a
key.  `put` and `put_child` change the node at the end of the path, `add` and
`add_child` give its parent one child more.
-/

/-- `basic_ptree<κ, δ>` -/
inductive Ptree (κ δ : Type)
  | node (data : δ) (children : List (κ × Ptree κ δ))

namespace Ptree

variable {κ δ : Type} [DecidableEq κ]

def data : Ptree κ δ → δ
  | .node d _ => d

def children : Ptree κ δ → List (κ × Ptree κ δ)
  | .node _ cs => cs

/-- `get_child_optional` -/
def getChild : Ptree κ δ → List κ → Option (Ptree κ δ)
  | t, [] => some t
  | t, k :: ks =>
    match t.children.find? (fun c => c.1 = k) with
    | none => none
    | some c => getChild c.2 ks

/-- `equal_range`: the children under a key, in order. -/
def equalRange (t : Ptree κ δ) (k : κ) : List (Ptree κ δ) :=
  (t.children.filter (fun c => c.1 = k)).map Prod.snd

theorem getChild_append : ∀ (p q : List κ) (t : Ptree κ δ),
    t.getChild (p ++ q) = (t.getChild p).bind (fun c => c.getChild q) := by
  intro p
  induction p with
  | nil => intro q t; rfl
  | cons k p ih =>
    intro q t
    rw [List.cons_append, getChild, getChild]
    cases t.children.find? (fun c => c.1 = k) with
    | none => rfl
    | some c => exact ih q c.2

theorem getChild_of_append {p q : List κ} {t c : Ptree κ δ} (h : t.getChild (p ++ q) = some c) :
    (t.getChild p).isSome = true := by
  rw [getChild_append] at h
  obtain ⟨d, hd, -⟩ := Option.bind_eq_some_iff.mp h
  rw [hd]
  rfl

/-! ### Writing -/

variable [Inhabited δ]

/-- A tree that was cleared. -/
def empty : Ptree κ δ := .node default []

/-- Goes on in the first child under a key, or in a new one. -/
def modifyChild (k : κ) (f : Ptree κ δ → Ptree κ δ) :
    List (κ × Ptree κ δ) → List (κ × Ptree κ δ)
  | [] => [(k, f empty)]
  | c :: cs => if c.1 = k then (c.1, f c.2) :: cs else c :: modifyChild k f cs

/-- Changes the node at the end of a path. -/
def modify (f : Ptree κ δ → Ptree κ δ) : List κ → Ptree κ δ → Ptree κ δ
  | [], t => f t
  | k :: ks, .node d cs => .node d (modifyChild k (modify f ks) cs)

/-- `put_value` -/
def putValue (v : δ) : Ptree κ δ → Ptree κ δ
  | .node _ cs => .node v cs

/-- `push_back` -/
def pushBack (k : κ) (c : Ptree κ δ) : Ptree κ δ → Ptree κ δ
  | .node d cs => .node d (cs ++ [(k, c)])

/-- `put`: a node that is there keeps its children. -/
def put (t : Ptree κ δ) (p : List κ) (v : δ) : Ptree κ δ := t.modify (putValue v) p

/-- `put_child` -/
def putChild (t : Ptree κ δ) (p : List κ) (c : Ptree κ δ) : Ptree κ δ := t.modify (fun _ => c) p

/-- `add_child`: the last key is the new child's; a path without keys is not allowed. -/
def addChild (t : Ptree κ δ) (p : List κ) (c : Ptree κ δ) : Ptree κ δ :=
  match p.getLast? with
  | none => t
  | some k => t.modify (pushBack k c) p.dropLast

/-- `add` -/
def add (t : Ptree κ δ) (p : List κ) (v : δ) : Ptree κ δ := t.addChild p (.node v [])

theorem addChild_concat (t : Ptree κ δ) (p : List κ) (k : κ) (c : Ptree κ δ) :
    t.addChild (p ++ [k]) c = t.modify (pushBack k c) p := by
  rw [addChild, List.getLast?_concat, List.dropLast_concat]

theorem modifyChild_modifyChild (k : κ) (f g : Ptree κ δ → Ptree κ δ) :
    ∀ cs : List (κ × Ptree κ δ),
      modifyChild k f (modifyChild k g cs) = modifyChild k (fun t => f (g t)) cs := by
  intro cs
  induction cs with
  | nil => rw [modifyChild, modifyChild, modifyChild, if_pos rfl]
  | cons c cs ih =>
    rw [modifyChild]
    by_cases hc : c.1 = k
    · rw [if_pos hc, modifyChild, if_pos hc, modifyChild, if_pos hc]
    · rw [if_neg hc, modifyChild, if_neg hc, ih, modifyChild, if_neg hc]

theorem modify_modify (f g : Ptree κ δ → Ptree κ δ) : ∀ (p : List κ) (t : Ptree κ δ),
    (t.modify g p).modify f p = t.modify (fun t => f (g t)) p := by
  intro p
  induction p with
  | nil => intro t; rfl
  | cons k p ih =>
    rintro ⟨d, cs⟩
    rw [modify, modify, modify, modifyChild_modifyChild]
    congr 2
    funext t
    exact ih t

/-- **Texts that are added one after another under one key stand there in their order.** -/
theorem foldl_add (p : List κ) (k : κ) : ∀ (vs : List δ) (f : Ptree κ δ → Ptree κ δ)
    (t : Ptree κ δ), vs.foldl (fun t v => t.add (p ++ [k]) v) (t.modify f p) =
      t.modify (fun t => .node (f t).data ((f t).children ++ vs.map (fun v => (k, .node v [])))) p := by
  intro vs
  induction vs with
  | nil =>
    intro f t
    rw [List.foldl_nil]
    congr 1
    funext t
    rw [List.map_nil, List.append_nil]
    cases f t
    rfl
  | cons v vs ih =>
    intro f t
    rw [List.foldl_cons, add, addChild_concat, modify_modify, ih]
    congr 1
    funext t
    cases f t
    rw [pushBack, data, children, data, children, List.append_assoc, List.map_cons]
    rfl

end Ptree
