import Opaleye.Path.DirectoryTree

/-!
# Looking up a path

What `find_match` answers on the tree a run leaves, in terms of the map it
refines (`run_spec`).  A lookup follows its path as far as there are nodes.
When it gets to the end, that node is the answer in both modes.  When it gets
stuck, an exact lookup has no answer, and a parent lookup goes to the child `.`
of the node it is stuck at, and to no other.
-/

namespace Opaleye.Path.DirectoryTree

open FsPath

variable {δ : Type}

/-- What a caller sees of a lookup: the path and the data of the node. -/
def lookup (t : DirectoryTree δ) (q : Path) (mode : MatchType) :
    Except DomainError (Option (List (List Char) × Option δ)) :=
  (t.findMatch q mode).map (Option.map (fun n => ((t.node n).fullPath.elements, (t.node n).data)))

/-! ### The loop -/

theorem findLoop_whole {t : DirectoryTree δ} (mode : MatchType) :
    ∀ (es : List (List Char)) {p c : Ptr}, t.walk p es = some c →
    t.findLoop mode p es = some c := by
  intro es
  induction es with
  | nil => intro p c h; exact h
  | cons e es ih =>
    intro p c h
    rw [walk] at h
    obtain ⟨n, hn, hc⟩ := Option.bind_eq_some_iff.mp h
    rw [findLoop, hn]
    exact ih hc

theorem findLoop_stuck {t : DirectoryTree δ} (mode : MatchType) {c : Ptr} {e : List Char}
    (hc : t.getChildByName c e = none) (r : List (List Char)) :
    ∀ (ds : List (List Char)) {p : Ptr}, t.walk p ds = some c →
    t.findLoop mode p (ds ++ e :: r)
      = if mode = .parentPath then t.getChildByName c ['.'] else some c := by
  intro ds
  induction ds with
  | nil =>
    intro p h
    rw [walk, Option.some.injEq] at h
    subst h
    rw [List.nil_append, findLoop, hc]
  | cons d ds ih =>
    intro p h
    rw [walk] at h
    obtain ⟨n, hn, hc'⟩ := Option.bind_eq_some_iff.mp h
    rw [List.cons_append, findLoop, hn]
    exact ih hc'

theorem isPath_iff {t : DirectoryTree δ} {p : Ptr} {es : List (List Char)} (h : t.At p es)
    {q : Path} (hq : Rooted q) : (t.node p).isPath q = true ↔ es = q.elements.tail := by
  obtain ⟨heq, -, -⟩ := hq.elements_eq
  rw [DirectoryTreeNode.isPath, Path.eqv, beq_iff_eq, h.2.2, elements_spell h.2.1]
  constructor
  · intro h'
    rw [← h', List.tail_cons]
  · intro h'
    rw [heq, h']

theorem trailingElementIsDir_dot {t : DirectoryTree δ} {p : Ptr} {ds : List (List Char)}
    (h : t.At p (ds ++ [['.']])) : trailingElementIsDir (t.node p).fullPath = true := by
  rw [trailingElementIsDir, h.2.2, elements_spell h.2.1, ← List.cons_append,
    List.getLast?_concat]
  rfl

/-- **Every path has a node, or is stuck at one.** -/
theorem walk_or_stuck (t : DirectoryTree δ) (es : List (List Char)) :
    (∃ n, t.walk mRoot es = some n) ∨
      ∃ ds e r c, es = ds ++ e :: r ∧ t.walk mRoot ds = some c ∧
        t.walk mRoot (ds ++ [e]) = none := by
  induction es using List.reverseRecOn with
  | nil => exact Or.inl ⟨mRoot, rfl⟩
  | append_singleton es x ih =>
    rcases ih with ⟨n, hn⟩ | ⟨ds, e, r, c, rfl, hd, he⟩
    · cases hx : t.walk mRoot (es ++ [x]) with
      | some m => exact Or.inl ⟨m, rfl⟩
      | none => exact Or.inr ⟨es, x, [], n, rfl, hn, hx⟩
    · exact Or.inr ⟨ds, e, r ++ [x], c, by simp, hd, he⟩

theorem walk_none_of_stuck {t : DirectoryTree δ} {ds r : List (List Char)} {e : List Char}
    (he : t.walk mRoot (ds ++ [e]) = none) : t.walk mRoot (ds ++ e :: r) = none := by
  have hpre : ds ++ [e] <+: ds ++ e :: r := ⟨r, by simp⟩
  cases hw : t.walk mRoot (ds ++ e :: r) with
  | none => rfl
  | some p =>
    obtain ⟨c, hc⟩ := walk_prefix hw hpre
    rw [he] at hc
    exact absurd hc (by simp)

/-! ### `find_match` -/

theorem findMatch_isOk (t : DirectoryTree δ) {q : Path} (habs : q.isAbsolute = true)
    {mode : MatchType} (hm : mode ≠ .none) : ∃ r, t.findMatch q mode = .ok r := by
  have haccept : ∀ c, ∃ r, t.acceptMatch q mode c = .ok r := by
    intro c
    cases mode with
    | none => exact absurd rfl hm
    | exact =>
      rw [acceptMatch]
      split
      · exact ⟨_, rfl⟩
      · exact ⟨_, rfl⟩
    | parentPath =>
      rw [acceptMatch]
      split
      · exact ⟨_, rfl⟩
      · split
        · exact ⟨_, rfl⟩
        · exact ⟨_, rfl⟩
  rw [findMatch, habs, if_neg (by decide)]
  split
  · exact ⟨_, rfl⟩
  · split
    · exact haccept _
    · exact ⟨_, rfl⟩

section FindMatch

variable {t : DirectoryTree δ} {q : Path}

theorem findMatch_eq (hr : t.Rep) (hq : Rooted q) (mode : MatchType) {r : Option Ptr}
    (hloop : t.findLoop mode mRoot q.elements.tail = r) :
    t.findMatch q mode = r.elim (.ok none) (t.acceptMatch q mode) := by
  obtain ⟨-, habs, -⟩ := hq.elements_eq
  rw [findMatch, habs, if_neg (by decide), if_neg (by rw [(isNodeName_root hr q).mpr hq]; decide),
    hloop]
  cases r with
  | none => rfl
  | some n => rfl

/-- **A path with a node is found**, in both modes. -/
theorem findMatch_whole (hr : t.Rep) (hq : Rooted q) {mode : MatchType} (hm : mode ≠ .none)
    {n : Ptr} (hn : t.walk mRoot q.elements.tail = some n) :
    t.findMatch q mode = .ok (some n) := by
  have hpath := (isPath_iff (hr.at_walk hn) hq).mpr rfl
  rw [findMatch_eq hr hq mode (findLoop_whole mode _ hn), Option.elim_some]
  cases mode with
  | none => exact absurd rfl hm
  | exact => rw [acceptMatch, if_pos hpath]
  | parentPath => rw [acceptMatch, if_pos hpath]

/-- **Stuck, an exact lookup fails**: the node it is at holds a shorter path. -/
theorem findMatch_exact_stuck (hr : t.Rep) (hq : Rooted q) {ds r : List (List Char)}
    {e : List Char} {c : Ptr} (hes : q.elements.tail = ds ++ e :: r)
    (hc : t.walk mRoot ds = some c) (he : t.walk mRoot (ds ++ [e]) = none) :
    t.findMatch q .exact = .ok none := by
  have hchild : t.getChildByName c e = none := by rw [walk_concat, hc] at he; exact he
  have hpath : ¬ (t.node c).isPath q = true := by
    rw [isPath_iff (hr.at_walk hc) hq, hes]
    intro h
    exact absurd (congrArg List.length h) (by simp)
  rw [findMatch_eq hr hq .exact (hes ▸ findLoop_stuck .exact hchild r ds hc),
    if_neg (by decide), Option.elim_some, acceptMatch, if_neg hpath]

/-- **Stuck, a parent lookup goes to the child `.`** of the node it is at. -/
theorem findMatch_parentPath_stuck (hr : t.Rep) (hq : Rooted q) {ds r : List (List Char)}
    {e : List Char} {c : Ptr} (hes : q.elements.tail = ds ++ e :: r)
    (hc : t.walk mRoot ds = some c) (he : t.walk mRoot (ds ++ [e]) = none) :
    t.findMatch q .parentPath = .ok (t.walk mRoot (ds ++ [['.']])) := by
  have hchild : t.getChildByName c e = none := by rw [walk_concat, hc] at he; exact he
  rw [findMatch_eq hr hq .parentPath (hes ▸ findLoop_stuck .parentPath hchild r ds hc),
    if_pos rfl, walk_concat, hc, Option.bind_some]
  cases hn : t.getChildByName c ['.'] with
  | none => rfl
  | some n =>
    have hwalk : t.walk mRoot (ds ++ [['.']]) = some n := by rw [walk_concat, hc]; exact hn
    have hdir := trailingElementIsDir_dot (hr.at_walk hwalk)
    rw [Option.elim_some, acceptMatch]
    by_cases hpath : (t.node n).isPath q = true
    · rw [if_pos hpath]
    · rw [if_neg hpath, if_pos hdir]

/-- **An exact lookup is the walk along its path.** -/
theorem findMatch_exact (hr : t.Rep) (hq : Rooted q) :
    t.findMatch q .exact = .ok (t.walk mRoot q.elements.tail) := by
  rcases walk_or_stuck t q.elements.tail with ⟨n, hn⟩ | ⟨ds, e, r, c, hes, hc, he⟩
  · rw [findMatch_whole hr hq (by decide) hn, hn]
  · rw [findMatch_exact_stuck hr hq hes hc he, hes, walk_none_of_stuck he]

theorem findMatch_not_rooted (hr : t.Rep) (habs : q.isAbsolute = true) (hq : ¬ Rooted q)
    (mode : MatchType) : t.findMatch q mode = .ok none := by
  have hname := mt (isNodeName_root hr q).mp hq
  rw [findMatch, habs, if_neg (by decide), if_pos (by simpa using hname)]

end FindMatch

/-! ### Lookups read the map -/

section Lookup

variable {t : DirectoryTree δ} {q : Path}

/-- What a lookup shows of the node at `ks`. -/
def shown (m : PrefixMap (List Char) δ) (ks : List (List Char)) :
    Option (List (List Char) × Option δ) := (m ks).map (fun d => (['/'] :: ks, d))

theorem map_walk (hr : t.Rep) (ks : List (List Char)) :
    (t.walk mRoot ks).map (fun n => ((t.node n).fullPath.elements, (t.node n).data))
      = shown t.view ks := by
  rw [shown, view, Option.map_map]
  cases hn : t.walk mRoot ks with
  | none => rfl
  | some n =>
    have hat := hr.at_walk hn
    simp only [Option.map_some, Function.comp, hat.2.2, elements_spell hat.2.1]

theorem lookup_exact (hr : t.Rep) (hq : Rooted q) :
    t.lookup q .exact = .ok (shown t.view q.elements.tail) := by
  rw [lookup, findMatch_exact hr hq, ← map_walk hr]
  rfl

theorem lookup_parentPath_whole (hr : t.Rep) (hq : Rooted q) {n : Ptr}
    (hn : t.walk mRoot q.elements.tail = some n) :
    t.lookup q .parentPath = .ok (shown t.view q.elements.tail) := by
  rw [lookup, findMatch_whole hr hq (by decide) hn, ← map_walk hr, hn]
  rfl

theorem lookup_parentPath_stuck (hr : t.Rep) (hq : Rooted q) {ds r : List (List Char)}
    {e : List Char} {c : Ptr} (hes : q.elements.tail = ds ++ e :: r)
    (hc : t.walk mRoot ds = some c) (he : t.walk mRoot (ds ++ [e]) = none) :
    t.lookup q .parentPath = .ok (shown t.view (ds ++ [['.']])) := by
  rw [lookup, findMatch_parentPath_stuck hr hq hes hc he, ← map_walk hr]
  rfl

theorem lookup_none (hr : t.Rep) (hq : Rooted q) :
    t.lookup q .none = .error ⟨"mode is oob"⟩ := by
  have hsome : ∃ c, t.findLoop .none mRoot q.elements.tail = some c := by
    rcases walk_or_stuck t q.elements.tail with ⟨n, hn⟩ | ⟨ds, e, r, c, hes, hc, he⟩
    · exact ⟨n, findLoop_whole .none _ hn⟩
    · rw [walk_concat, hc] at he
      exact ⟨c, by rw [hes, findLoop_stuck .none he r ds hc, if_neg (by decide)]⟩
  obtain ⟨c, hc⟩ := hsome
  rw [lookup, findMatch_eq hr hq .none hc]
  rfl

/-- **Trees with the same map answer every lookup alike.** -/
theorem lookup_congr {t' : DirectoryTree δ} (hr : t.Rep) (hr' : t'.Rep) (hv : t.view = t'.view)
    (q : Path) (mode : MatchType) : t.lookup q mode = t'.lookup q mode := by
  cases habs : q.isAbsolute with
  | false => simp only [lookup, findMatch, habs, Bool.not_false, if_true, Except.map]
  | true =>
    by_cases hq : Rooted q
    · cases mode with
      | none => rw [lookup_none hr hq, lookup_none hr' hq]
      | exact => rw [lookup_exact hr hq, lookup_exact hr' hq, hv]
      | parentPath =>
        have hisSome : ∀ ks, (t'.walk mRoot ks).isSome = (t.walk mRoot ks).isSome := by
          intro ks
          have hks := congrArg Option.isSome (congrFun hv ks)
          simpa only [view, Option.isSome_map] using hks.symm
        rcases walk_or_stuck t q.elements.tail with ⟨n, hn⟩ | ⟨ds, e, r, c, hes, hc, he⟩
        · obtain ⟨n', hn'⟩ := Option.isSome_iff_exists.mp (by rw [hisSome, hn]; rfl)
          rw [lookup_parentPath_whole hr hq hn, lookup_parentPath_whole hr' hq hn', hv]
        · obtain ⟨c', hc'⟩ := Option.isSome_iff_exists.mp (by rw [hisSome, hc]; rfl)
          have he' : t'.walk mRoot (ds ++ [e]) = none := by
            rw [← Option.isNone_iff_eq_none, ← Option.not_isSome, hisSome, he]
            rfl
          rw [lookup_parentPath_stuck hr hq hes hc he,
            lookup_parentPath_stuck hr' hq hes hc' he', hv]
    · rw [lookup, lookup, findMatch_not_rooted hr habs hq, findMatch_not_rooted hr' habs hq]
      rfl

end Lookup

/-! ### After a run -/

theorem walk_run_isSome (calls : List (Path × Option δ)) (ks : List (List Char)) :
    ((run calls).walk mRoot ks).isSome = true ↔ PrefixMap.Place (settings calls) ks := by
  obtain ⟨-, hv⟩ := run_spec calls
  rw [← PrefixMap.after_isSome, ← hv, view, Option.isSome_map]

theorem data_run {calls : List (Path × Option δ)} {ks : List (List Char)} {n : Ptr}
    (hn : (run calls).walk mRoot ks = some n) :
    ((run calls).node n).data = PrefixMap.lastValue (settings calls) ks := by
  obtain ⟨-, hv⟩ := run_spec calls
  have hpl := (walk_run_isSome calls ks).mp (by rw [hn]; rfl)
  have hview : (run calls).view ks = some ((run calls).node n).data := by rw [view, hn]; rfl
  rw [hv, PrefixMap.after_apply, if_pos hpl, Option.some.injEq] at hview
  exact hview.symm

/-- The data of the last call on a path; none if there was none. -/
def lastData (calls : List (Path × Option δ)) (q : Path) : Option δ :=
  (calls.filter (fun c => c.1.eqv q)).getLast?.bind Prod.snd

/-- The calls on any one path come in the same order in both sequences. -/
def SameOrder (calls calls' : List (Path × Option δ)) : Prop :=
  ∀ q : Path, calls.filter (fun c => c.1.eqv q) = calls'.filter (fun c => c.1.eqv q)

theorem settingsAt_settings (calls : List (Path × Option δ)) {q : Path} (hq : Rooted q) :
    PrefixMap.settingsAt (settings calls) q.elements.tail
      = (calls.filter (fun c => c.1.eqv q)).map (fun c => (c.1.elements.tail, c.2)) := by
  rw [PrefixMap.settingsAt, settings, List.filter_map, List.filter_filter]
  congr 1
  refine List.filter_congr (fun c _ => ?_)
  obtain ⟨heq, -, -⟩ := hq.elements_eq
  have hiff : (c.1.elements.tail = q.elements.tail ∧ Rooted c.1) ↔ c.1.elements = q.elements := by
    constructor
    · rintro ⟨htail, hroot⟩
      rw [hroot.elements_eq.1, heq, htail]
    · intro h
      exact ⟨by rw [h], by rw [Rooted, h]; exact hq⟩
  rw [Path.eqv, Bool.eq_iff_iff]
  simpa using hiff

theorem lastValue_settings (calls : List (Path × Option δ)) {q : Path} (hq : Rooted q) :
    PrefixMap.lastValue (settings calls) q.elements.tail = lastData calls q := by
  rw [PrefixMap.lastValue, settingsAt_settings calls hq, lastData, List.getLast?_map]
  cases (calls.filter (fun c => c.1.eqv q)).getLast? with
  | none => rfl
  | some c => rfl

theorem place_settings {calls : List (Path × Option δ)} {ks : List (List Char)} :
    PrefixMap.Place (settings calls) ks ↔
      ks = [] ∨ ∃ c ∈ calls, Rooted c.1 ∧ ['/'] :: ks <+: c.1.elements := by
  refine or_congr_right ⟨?_, ?_⟩
  · rintro ⟨s, hs, hpre⟩
    obtain ⟨c, hc, rfl⟩ := List.mem_map.mp hs
    obtain ⟨hc, hroot⟩ := List.mem_filter.mp hc
    have hroot' : Rooted c.1 := of_decide_eq_true hroot
    refine ⟨c, hc, hroot', ?_⟩
    rw [hroot'.elements_eq.1]
    exact List.cons_prefix_cons.mpr ⟨rfl, hpre⟩
  · rintro ⟨c, hc, hroot, hpre⟩
    refine ⟨(c.1.elements.tail, c.2),
      List.mem_map.mpr ⟨c, List.mem_filter.mpr ⟨hc, decide_eq_true hroot⟩, rfl⟩, ?_⟩
    rw [hroot.elements_eq.1] at hpre
    exact (List.cons_prefix_cons.mp hpre).2

theorem SameOrder.settingsAt {calls calls' : List (Path × Option δ)} (h : SameOrder calls calls')
    (ks : List (List Char)) :
    PrefixMap.settingsAt (settings calls) ks = PrefixMap.settingsAt (settings calls') ks := by
  by_cases hq : ∃ q : Path, Rooted q ∧ q.elements.tail = ks
  · obtain ⟨q, hq, rfl⟩ := hq
    rw [settingsAt_settings calls hq, settingsAt_settings calls' hq, h q]
  · -- no path spells `ks`: nothing was set there
    have hnil : ∀ l : List (Path × Option δ), PrefixMap.settingsAt (settings l) ks = [] := by
      intro l
      refine List.filter_eq_nil_iff.mpr (fun s hs hks => hq ?_)
      obtain ⟨c, hc, rfl⟩ := List.mem_map.mp hs
      exact ⟨c.1, of_decide_eq_true (List.mem_filter.mp hc).2, of_decide_eq_true hks⟩
    rw [hnil, hnil]

theorem filter_eq_of_perm {α : Type} {p : α → Bool} {l l' : List α} (hp : l.Perm l')
    (hd : l.Pairwise (fun a b => ¬ (p a = true ∧ p b = true))) : l.filter p = l'.filter p := by
  have hpw := hd.sublist (List.filter_sublist (p := p))
  have hmem : ∀ a ∈ l.filter p, p a = true := fun a ha => (List.mem_filter.mp ha).2
  have hperm : (l.filter p).Perm (l'.filter p) := hp.filter p
  rcases hs : l.filter p with _ | ⟨a, _ | ⟨b, r⟩⟩
  · rw [hs] at hperm
    exact (List.nil_perm.mp hperm).symm
  · rw [hs] at hperm
    exact List.singleton_perm.mp hperm
  · rw [hs] at hpw hmem
    exact absurd ⟨hmem a (by simp), hmem b (by simp)⟩ ((List.pairwise_cons.mp hpw).1 b (by simp))

theorem sameOrder_of_perm {calls calls' : List (Path × Option δ)} (hp : calls.Perm calls')
    (hd : calls.Pairwise (fun a b => a.1.elements ≠ b.1.elements)) : SameOrder calls calls' := by
  intro q
  refine filter_eq_of_perm hp (hd.imp (fun {a b} hab h => hab ?_))
  rw [beq_iff_eq.mp h.1, beq_iff_eq.mp h.2]

/-- **The tree refines a finite map on element sequences.**  After any calls:

* a call throws on a path that is not absolute and returns null on one with a
  root name; both leave the tree as it is, and any other call returns a node;
* a path has a node when it is `/` or a prefix of a path that was set, and the
  node holds that path and the data set last;
* only the order of calls on one path matters, so calls on pairwise different
  paths may come in any order. -/
theorem tree_refines_map (calls : List (Path × Option δ)) :
    (∀ (p : Path) (d : Option δ),
      ((run calls).setNode p d).1.isOk = p.isAbsolute ∧
      ((∃ n, ((run calls).setNode p d).1 = .ok (some n)) ↔ Rooted p) ∧
      (¬ Rooted p → ((run calls).setNode p d).2 = run calls)) ∧
    (∀ q : Path, Rooted q → ∃ r, (run calls).findMatch q .exact = .ok r ∧
      (r ≠ none ↔ q.elements = [['/']] ∨
        ∃ c ∈ calls, Rooted c.1 ∧ q.elements <+: c.1.elements) ∧
      ∀ n, r = some n → ((run calls).node n).fullPath.eqv q = true ∧
        ((run calls).node n).data = lastData calls q) ∧
    (∀ calls' : List (Path × Option δ),
      SameOrder calls calls' ∨
        (calls.Perm calls' ∧ calls.Pairwise (fun a b => a.1.elements ≠ b.1.elements)) →
      ∀ q mode, (run calls).lookup q mode = (run calls').lookup q mode) := by
  obtain ⟨hr, hv⟩ := run_spec calls
  refine ⟨fun p d => ?_, fun q hq => ?_, fun calls' hsame q mode => ?_⟩
  · by_cases hp : Rooted p
    · obtain ⟨⟨n, hn⟩, -, -⟩ := setNode_rooted hr hp d
      obtain ⟨-, habs, -⟩ := hp.elements_eq
      exact ⟨by rw [hn, habs]; rfl, ⟨fun _ => hp, fun _ => ⟨n, hn⟩⟩, fun h => absurd hp h⟩
    · refine ⟨?_, ⟨fun ⟨n, hn⟩ => ?_, fun h => absurd h hp⟩, fun _ => setNode_not_rooted_snd hr hp d⟩
      · cases habs : p.isAbsolute with
        | false => rw [setNode_not_absolute habs]; rfl
        | true => rw [setNode_not_rooted hr habs hp]; rfl
      · cases habs : p.isAbsolute with
        | false => rw [setNode_not_absolute habs] at hn; exact absurd hn (by simp)
        | true => rw [setNode_not_rooted hr habs hp] at hn; exact absurd hn (by simp)
  · obtain ⟨heq, -, -⟩ := hq.elements_eq
    refine ⟨_, findMatch_exact hr hq, ?_, fun n hn => ?_⟩
    · rw [Option.ne_none_iff_isSome, walk_run_isSome, place_settings, ← heq]
      exact or_congr_left ⟨fun h => by rw [heq, h], fun h => by rw [h]; rfl⟩
    · refine ⟨(isPath_iff (hr.at_walk hn) hq).mpr rfl, ?_⟩
      rw [data_run hn, lastValue_settings calls hq]
  · obtain ⟨hr', hv'⟩ := run_spec calls'
    have hsame' : SameOrder calls calls' := hsame.elim id (fun h => sameOrder_of_perm h.1 h.2)
    exact lookup_congr hr hr' (by rw [hv, hv', PrefixMap.after_congr hsame'.settingsAt]) q mode

end Opaleye.Path.DirectoryTree
