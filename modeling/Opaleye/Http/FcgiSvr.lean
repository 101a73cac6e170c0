import Opaleye.Path.TreeLookup

/-!
# Routing

`libs/http-bridge/http_fcgi_svr.cpp` keeps its handlers in a directory tree.  A
URI is looked up exactly first and then by its parents.  The second lookup only
looks at the node where the walk gets stuck, so whether the handler of an
enclosing directory is found depends on all the other URIs in the table.

`getCbForDocUri_place` and `getCbForDocUri_stuck` say what is returned, for the
two ways a walk can end; `routing_sound`, `directory_routing` and `leaf_routing` are
read off from them.

A handler is any type `β`; a null callback is `none`.
-/

namespace Opaleye.Http

open FsPath Opaleye.Path DirectoryTree

variable {β : Type}

/-- `http_fcgi_svr_cb` -/
structure HttpFcgiSvrCb (β : Type) where
  cb : Option β
  deriving DecidableEq, Repr

/-- `http_fcgi_svr`, as far as routing goes. -/
structure HttpFcgiSvr (β : Type) where
  cbTable : DirectoryTree (HttpFcgiSvrCb β)

namespace HttpFcgiSvr

def create : HttpFcgiSvr β := ⟨DirectoryTree.create⟩

/-- `register_cb_for_doc_uri`: what it throws, and the server it leaves. -/
def registerCbForDocUri (s : HttpFcgiSvr β) (docUri : Path) (cb : Option β) :
    Except DomainError Unit × HttpFcgiSvr β :=
  let r := s.cbTable.setNode docUri (some ⟨cb⟩)
  (r.1.map (fun _ => ()), ⟨r.2⟩)

def getCbForDocUri (s : HttpFcgiSvr β) (docUri : Path) : Except DomainError (Option β) := do
  let mut node ← s.cbTable.findMatch docUri .exact
  if node.isNone then
    node ← s.cbTable.findMatch docUri .parentPath
  return node.bind (fun n => (s.cbTable.node n).data.bind HttpFcgiSvrCb.cb)

/-- Any sequence of registrations. -/
def registerAll (regs : List (Path × Option β)) : HttpFcgiSvr β :=
  regs.foldl (fun s r => (s.registerCbForDocUri r.1 r.2).2) create

end HttpFcgiSvr

open HttpFcgiSvr

/-- The callback of the last registration on a URI, if there was one. -/
def lastRegistered (regs : List (Path × Option β)) (u : Path) : Option (Option β) :=
  (regs.filter (fun r => r.1.eqv u)).getLast?.map Prod.snd

/-- What stands before the last element: for `/a/` the path `/a`. -/
def dirOf (u : Path) : List (List Char) := u.elements.dropLast

/-- `u` is written with a trailing separator, and the path before it is a prefix
of `q`. -/
def Encloses (u q : Path) : Prop := trailingElementIsDir u = true ∧ dirOf u <+: q.elements

instance (u q : Path) : Decidable (Encloses u q) := inferInstanceAs (Decidable (_ ∧ _))

theorem encloses_of_append {u q : Path} {ds : List (List Char)} (hu : u.elements = ds ++ [['.']])
    (h : ds <+: q.elements) : Encloses u q ∧ dirOf u = ds := by
  have hdir : dirOf u = ds := by rw [dirOf, hu, List.dropLast_concat]
  refine ⟨⟨?_, hdir ▸ h⟩, hdir⟩
  rw [trailingElementIsDir, hu, List.getLast?_concat]
  rfl

theorem Encloses.elements_eq {u q : Path} (h : Encloses u q) : u.elements = dirOf u ++ [['.']] :=
  (List.dropLast_append_getLast? _ (beq_iff_eq.mp h.1)).symm

/-! ### The table as a tree -/

/-- The calls of `set_node` that registrations make. -/
def tableCalls (regs : List (Path × Option β)) : List (Path × Option (HttpFcgiSvrCb β)) :=
  regs.map (fun r => (r.1, some ⟨r.2⟩))

theorem registerAll_cbTable (regs : List (Path × Option β)) :
    (registerAll regs).cbTable = run (tableCalls regs) := by
  induction regs using List.reverseRecOn with
  | nil => rfl
  | append_singleton regs r ih =>
    rw [registerAll, List.foldl_append, tableCalls, List.map_append, List.map_singleton,
      run_concat, ← tableCalls, ← ih]
    rfl

theorem lastData_tableCalls (regs : List (Path × Option β)) (q : Path) :
    lastData (tableCalls regs) q = (lastRegistered regs q).map HttpFcgiSvrCb.mk := by
  rw [lastData, tableCalls, List.filter_map, List.getLast?_map, lastRegistered]
  show (Option.map _ (regs.filter (fun r => r.1.eqv q)).getLast?).bind _ = _
  cases (regs.filter (fun r => r.1.eqv q)).getLast? with
  | none => rfl
  | some r => rfl

theorem data_registered {regs : List (Path × Option β)} {u : Path} (hu : Rooted u) {n : Ptr}
    (hn : (run (tableCalls regs)).walk mRoot u.elements.tail = some n) :
    ((run (tableCalls regs)).node n).data.bind HttpFcgiSvrCb.cb = (lastRegistered regs u).join := by
  rw [data_run hn, lastValue_settings _ hu, lastData_tableCalls]
  cases lastRegistered regs u with
  | none => rfl
  | some cb => rfl

theorem mem_of_lastRegistered {regs : List (Path × Option β)} {u : Path} {cb : Option β}
    (h : lastRegistered regs u = some cb) : ∃ r ∈ regs, r.1.elements = u.elements := by
  obtain ⟨r, hr, -⟩ := Option.map_eq_some_iff.mp h
  obtain ⟨hmem, heq⟩ := List.mem_filter.mp (List.mem_of_getLast? hr)
  exact ⟨r, hmem, beq_iff_eq.mp heq⟩

theorem lastRegistered_ne_none {regs : List (Path × Option β)} {r : Path × Option β}
    (hr : r ∈ regs) (hcb : ∀ x ∈ regs, x.2 ≠ none) :
    ∃ cb, lastRegistered regs r.1 = some (some cb) := by
  have hmem : r ∈ regs.filter (fun x => x.1.eqv r.1) :=
    List.mem_filter.mpr ⟨hr, beq_iff_eq.mpr rfl⟩
  obtain ⟨x, hx⟩ := Option.isSome_iff_exists.mp (List.getLast?_isSome.mpr (List.ne_nil_of_mem hmem))
  have hxmem := (List.mem_filter.mp (List.mem_of_getLast? hx)).1
  obtain ⟨cb, hx2⟩ := Option.ne_none_iff_exists'.mp (hcb x hxmem)
  exact ⟨cb, by rw [lastRegistered, hx, Option.map_some, hx2]⟩

theorem place_tableCalls {regs : List (Path × Option β)} {ks : List (List Char)} :
    PrefixMap.Place (settings (tableCalls regs)) ks ↔
      ks = [] ∨ ∃ r ∈ regs, Rooted r.1 ∧ ['/'] :: ks <+: r.1.elements := by
  rw [place_settings]
  refine or_congr_right ⟨?_, ?_⟩
  · rintro ⟨c, hc, h⟩
    obtain ⟨r, hr, rfl⟩ := List.mem_map.mp hc
    exact ⟨r, hr, h⟩
  · rintro ⟨r, hr, h⟩
    exact ⟨_, List.mem_map.mpr ⟨r, hr, rfl⟩, h⟩

theorem place_of_registered {regs : List (Path × Option β)} {r : Path × Option β} (hr : r ∈ regs)
    {q : Path} (hq : Rooted q) (heq : r.1.elements = q.elements) :
    PrefixMap.Place (settings (tableCalls regs)) q.elements.tail := by
  refine place_tableCalls.mpr (Or.inr ⟨r, hr, by rw [Rooted, heq]; exact hq, ?_⟩)
  rw [heq, ← hq.elements_eq.1]

theorem lastRegistered_congr (regs : List (Path × Option β)) {u u' : Path}
    (h : u.elements = u'.elements) : lastRegistered regs u = lastRegistered regs u' := by
  simp only [lastRegistered, Path.eqv, h]

/-! ### What is returned -/

section Returned

variable (regs : List (Path × Option β)) {q : Path}

theorem getCbForDocUri_not_rooted (habs : q.isAbsolute = true) (hq : ¬ Rooted q) :
    (registerAll regs).getCbForDocUri q = .ok none := by
  obtain ⟨hr, -⟩ := run_spec (tableCalls regs)
  rw [getCbForDocUri, registerAll_cbTable, findMatch_not_rooted hr habs hq,
    findMatch_not_rooted hr habs hq]
  rfl

theorem getCbForDocUri_absolute (s : HttpFcgiSvr β) (habs : q.isAbsolute = true) :
    ∃ r, s.getCbForDocUri q = .ok r := by
  obtain ⟨r, hr⟩ := findMatch_isOk s.cbTable habs (by decide : MatchType.exact ≠ .none)
  obtain ⟨r', hr'⟩ := findMatch_isOk s.cbTable habs (by decide : MatchType.parentPath ≠ .none)
  rw [getCbForDocUri, hr, hr']
  cases r with
  | none => exact ⟨_, rfl⟩
  | some n => exact ⟨_, rfl⟩

theorem getCbForDocUri_not_absolute (s : HttpFcgiSvr β) (habs : q.isAbsolute = false) :
    s.getCbForDocUri q = .error ⟨"query_path must be absolute path"⟩ := by
  rw [getCbForDocUri, findMatch, habs]
  rfl

/-- **A URI that is a prefix of registered ones is found exactly**, with the
callback it has itself. -/
theorem getCbForDocUri_place (hq : Rooted q)
    (h : PrefixMap.Place (settings (tableCalls regs)) q.elements.tail) :
    (registerAll regs).getCbForDocUri q = .ok (lastRegistered regs q).join := by
  obtain ⟨hr, -⟩ := run_spec (tableCalls regs)
  obtain ⟨n, hn⟩ := Option.isSome_iff_exists.mp ((walk_run_isSome _ _).mpr h)
  rw [getCbForDocUri, registerAll_cbTable, findMatch_exact hr hq, hn]
  exact congrArg Except.ok (data_registered hq hn)

/-- **A URI that leaves the table behind `ds`** gets the callback of the
directory `ds`, if that has one. -/
theorem getCbForDocUri_stuck (hq : Rooted q) {ds r : List (List Char)} {e : List Char}
    (hes : q.elements.tail = ds ++ e :: r)
    (hd : PrefixMap.Place (settings (tableCalls regs)) ds)
    (he : ¬ PrefixMap.Place (settings (tableCalls regs)) (ds ++ [e])) :
    (registerAll regs).getCbForDocUri q
      = .ok (lastRegistered regs (spell (ds ++ [['.']]))).join := by
  obtain ⟨hr, -⟩ := run_spec (tableCalls regs)
  obtain ⟨c, hc⟩ := Option.isSome_iff_exists.mp ((walk_run_isSome _ _).mpr hd)
  have hstop : (run (tableCalls regs)).walk mRoot (ds ++ [e]) = none :=
    Option.not_isSome_iff_eq_none.mp (mt (walk_run_isSome _ _).mp he)
  have hds := proper_concat (hr.at_walk hc).2.1 proper_dot
  have hdot : Rooted (spell (ds ++ [['.']])) := by rw [Rooted, elements_spell hds]; rfl
  have htail : (spell (ds ++ [['.']])).elements.tail = ds ++ [['.']] := by
    rw [elements_spell hds]; rfl
  rw [getCbForDocUri, registerAll_cbTable, findMatch_exact_stuck hr hq hes hc hstop,
    findMatch_parentPath_stuck hr hq hes hc hstop]
  cases hn : (run (tableCalls regs)).walk mRoot (ds ++ [['.']]) with
  | none =>
    -- nothing was registered on the directory
    have hlast : lastRegistered regs (spell (ds ++ [['.']])) = none := by
      rw [Option.eq_none_iff_forall_ne_some]
      intro cb hcb
      obtain ⟨x, hx, hxe⟩ := mem_of_lastRegistered hcb
      have hpl := place_of_registered hx hdot hxe
      rw [htail] at hpl
      exact absurd ((walk_run_isSome _ _).mpr hpl) (by rw [hn]; simp)
    rw [hlast]
    rfl
  | some n =>
    rw [← htail] at hn
    exact congrArg Except.ok (data_registered hdot hn)

end Returned

theorem mem_of_getCbForDocUri {regs : List (Path × Option β)} {q : Path} {cb : β}
    (h : (registerAll regs).getCbForDocUri q = .ok (some cb)) : ∃ r ∈ regs, r.2 = some cb := by
  have hlast : ∀ u, (lastRegistered regs u).join = some cb → ∃ r ∈ regs, r.2 = some cb := by
    intro u hu
    obtain ⟨r, hr, hcb⟩ := Option.map_eq_some_iff.mp (Option.join_eq_some_iff.mp hu)
    exact ⟨r, (List.mem_filter.mp (List.mem_of_getLast? hr)).1, hcb⟩
  cases habs : q.isAbsolute with
  | false =>
    rw [getCbForDocUri_not_absolute _ habs] at h
    cases h
  | true =>
    by_cases hq : Rooted q
    · rcases PrefixMap.place_or_stop (settings (tableCalls regs)) q.elements.tail with
        hpl | ⟨ds, e, r, hes, hd, he⟩
      · rw [getCbForDocUri_place regs hq hpl] at h
        exact hlast q (Except.ok.inj h)
      · rw [getCbForDocUri_stuck regs hq hes hd he] at h
        exact hlast _ (Except.ok.inj h)
    · rw [getCbForDocUri_not_rooted regs habs hq] at h
      cases h

/-! ### Soundness -/

/-- **No handler is reached from outside the paths it was registered for.**
What is returned for an absolute URI was last registered on the URI itself, or
on a directory that encloses it; and a callback last registered on the URI
itself is returned, unless the URI has a root name, for which there is never a
callback. -/
theorem routing_sound (regs : List (Path × Option β)) (q : Path) (habs : q.isAbsolute = true) :
    ∃ r, (registerAll regs).getCbForDocUri q = .ok r ∧
      (∀ cb, r = some cb → ∃ u, lastRegistered regs u = some (some cb) ∧
        (u.elements = q.elements ∨ Encloses u q)) ∧
      (Rooted q → ∀ cb, lastRegistered regs q = some (some cb) → r = some cb) ∧
      (¬ Rooted q → r = none) := by
  by_cases hq : Rooted q
  · obtain ⟨heq, -, hprop⟩ := hq.elements_eq
    rcases PrefixMap.place_or_stop (settings (tableCalls regs)) q.elements.tail with
      h | ⟨ds, e, r, hes, hd, he⟩
    · refine ⟨_, getCbForDocUri_place regs hq h, fun cb hcb => ?_, fun _ cb hcb => ?_,
        fun h' => absurd hq h'⟩
      · exact ⟨q, Option.join_eq_some_iff.mp hcb, Or.inl rfl⟩
      · rw [hcb]; rfl
    · refine ⟨_, getCbForDocUri_stuck regs hq hes hd he, fun cb hcb => ?_, fun _ cb hcb => ?_,
        fun h' => absurd hq h'⟩
      · have hds : ∀ x ∈ ds, Proper x := fun x hx => hprop x (by rw [hes]; simp [hx])
        have hspell := elements_spell (proper_concat hds proper_dot)
        rw [← List.cons_append] at hspell
        refine ⟨_, Option.join_eq_some_iff.mp hcb, Or.inr (encloses_of_append hspell ?_).1⟩
        rw [heq, hes]
        exact ⟨e :: r, by simp⟩
      · -- a registered URI is a place
        obtain ⟨x, hx, hxe⟩ := mem_of_lastRegistered hcb
        have hpl := place_of_registered hx hq hxe
        rw [hes] at hpl
        exact absurd (hpl.of_prefix ⟨r, by simp⟩) he
  · exact ⟨none, getCbForDocUri_not_rooted regs habs hq, fun cb hcb => absurd hcb (by simp),
      fun h => absurd h hq, fun _ => rfl⟩

/-- Two handlers: one on the directory `/a/`, and one on the file `/a/b`. -/
theorem routing_sound_dir :
    let regs : List (Path × Option Nat) := [(⟨"/a/".toList⟩, some 0), (⟨"/a/b".toList⟩, some 1)]
    (registerAll regs).getCbForDocUri ⟨"/a/x".toList⟩ = .ok (some 0) ∧
      ∃ r, (registerAll regs).getCbForDocUri ⟨"/a/b".toList⟩ = .ok r ∧ r = some 1 := by
  intro regs
  obtain ⟨r, hr, -, hself, -⟩ := routing_sound regs ⟨"/a/b".toList⟩ (by decide)
  exact ⟨rfl, r, hr, hself (by decide) 1 (by decide)⟩

/-- A URI with a root name is absolute, and a callback registered on it is
never returned. -/
theorem routing_root_name :
    ¬ ∀ (regs : List (Path × Option Nat)) (q : Path) (cb : Nat), q.isAbsolute = true →
      lastRegistered regs q = some (some cb) →
      (registerAll regs).getCbForDocUri q = .ok (some cb) := by
  intro h
  have hnet := h [(⟨"//net/a".toList⟩, some 0)] ⟨"//net/a".toList⟩ 0 (by decide) (by decide)
  rw [getCbForDocUri_not_rooted _ (by decide) (by decide)] at hnet
  exact absurd hnet (by simp)

/-! ### Directories -/

section Directories

/-- `u` is the longest registered directory URI that encloses `q`. -/
def LongestEnclosing (regs : List (Path × Option β)) (u q : Path) : Prop :=
  u ∈ regs.map Prod.fst ∧ Encloses u q ∧
    ∀ u' ∈ regs.map Prod.fst, Encloses u' q → (dirOf u').length ≤ (dirOf u).length

instance (regs : List (Path × Option β)) (u q : Path) : Decidable (LongestEnclosing regs u q) :=
  inferInstanceAs (Decidable (_ ∧ _ ∧ _))

variable {regs : List (Path × Option β)} {q : Path}

/-- The callback of an enclosing directory that is returned shows where the
lookup left the table. -/
theorem stuck_of_directory (hq : Rooted q)
    (hnot : ∀ r ∈ regs, r.1.elements ≠ q.elements) {dt : List (List Char)}
    (hdt : PrefixMap.Place (settings (tableCalls regs)) dt) (hpre : dt <+: q.elements.tail)
    (hlong : ∀ u' ∈ regs.map Prod.fst, Encloses u' q → (dirOf u').length ≤ dt.length + 1)
    {cb : β} (hcb : (registerAll regs).getCbForDocUri q = .ok (some cb)) :
    ∃ e r, q.elements.tail = dt ++ e :: r ∧
      ¬ PrefixMap.Place (settings (tableCalls regs)) (dt ++ [e]) := by
  obtain ⟨heq, -, hprop⟩ := hq.elements_eq
  rcases PrefixMap.place_or_stop (settings (tableCalls regs)) q.elements.tail with
    h | ⟨ds, e, r, hes, hd, he⟩
  · -- a node without a callback of its own
    rw [getCbForDocUri_place regs hq h, Except.ok.injEq] at hcb
    obtain ⟨x, hx, hxe⟩ := mem_of_lastRegistered (Option.join_eq_some_iff.mp hcb)
    exact absurd hxe (hnot x hx)
  · rw [getCbForDocUri_stuck regs hq hes hd he, Except.ok.injEq] at hcb
    obtain ⟨x, hx, hxe⟩ := mem_of_lastRegistered (Option.join_eq_some_iff.mp hcb)
    have hds : ∀ y ∈ ds, Proper y := fun y hy => hprop y (by rw [hes]; simp [hy])
    rw [elements_spell (proper_concat hds proper_dot), ← List.cons_append] at hxe
    obtain ⟨henc, hdir⟩ := encloses_of_append hxe (by rw [heq, hes]; exact ⟨e :: r, by simp⟩)
    have hlen := hlong x.1 (List.mem_map.mpr ⟨x, hx, rfl⟩) henc
    rw [hdir] at hlen
    -- both are prefixes of the query, and neither is the longer one
    have hdspre : ds <+: q.elements.tail := by rw [hes]; exact List.prefix_append _ _
    rcases List.prefix_or_prefix_of_prefix hpre hdspre with h | ⟨s, hs⟩
    · obtain rfl : dt = ds := h.eq_of_length_le (by simpa using hlen)
      exact ⟨e, r, hes, he⟩
    · cases s with
      | nil =>
        rw [List.append_nil] at hs
        subst hs
        exact ⟨e, r, hes, he⟩
      | cons y s =>
        rw [hes, ← hs, List.prefix_append_right_inj, List.cons_prefix_cons] at hpre
        have hsucc : ds ++ [e] <+: dt := ⟨s, by rw [← hs, hpre.1]; simp⟩
        exact absurd (hdt.of_prefix hsucc) he

/-- **When the handler of a directory is found.**  Let `u` be the longest
registered directory URI that encloses `q`.  The callback last registered on `u`
is returned exactly when `q` goes on behind `u` with an element that no
registered URI goes on with there. -/
theorem directory_routing (regs : List (Path × Option β)) (q u : Path)
    (hreg : ∀ r ∈ regs, Rooted r.1 ∧ r.2 ≠ none) (hq : Rooted q)
    (hnot : ∀ r ∈ regs, r.1.elements ≠ q.elements) (hu : LongestEnclosing regs u q) :
    (∃ cb, lastRegistered regs u = some (some cb) ∧
        (registerAll regs).getCbForDocUri q = .ok (some cb)) ↔
      ∃ e r, q.elements = dirOf u ++ e :: r ∧
        ∀ u' ∈ regs.map Prod.fst, ¬ dirOf u ++ [e] <+: u'.elements := by
  obtain ⟨hu, henc, hlong⟩ := hu
  obtain ⟨r₀, hr₀, rfl⟩ := List.mem_map.mp hu
  have hds := henc.elements_eq
  have hpre := henc.2
  generalize dirOf r₀.1 = ds at hds hpre hlong ⊢
  obtain ⟨heq, -, hprop⟩ := hq.elements_eq
  have hroot := (hreg r₀ hr₀).1
  -- the root comes first in `ds`
  obtain ⟨dt, rfl⟩ : ∃ dt, ds = ['/'] :: dt := by
    cases ds with
    | nil => rw [Rooted, hds] at hroot; exact absurd hroot (by decide)
    | cons d dt =>
      rw [Rooted, hds] at hroot
      exact ⟨dt, by rw [Option.some.inj hroot]⟩
  have hdir : r₀.1.elements.tail = dt ++ [['.']] := by rw [hds]; rfl
  have hdt : PrefixMap.Place (settings (tableCalls regs)) dt := by
    have hpl := place_of_registered hr₀ hroot rfl
    rw [hdir] at hpl
    exact hpl.of_prefix (List.prefix_append _ _)
  have hpre' : dt <+: q.elements.tail := by
    rw [heq] at hpre
    exact (List.cons_prefix_cons.mp hpre).2
  constructor
  · rintro ⟨cb, -, hget⟩
    obtain ⟨e, r, hes, he⟩ := stuck_of_directory hq hnot hdt hpre' hlong hget
    refine ⟨e, r, by rw [heq, hes, List.cons_append], fun u' hu' hc => he ?_⟩
    obtain ⟨r', hr', rfl⟩ := List.mem_map.mp hu'
    exact place_tableCalls.mpr (Or.inr ⟨r', hr', (hreg r' hr').1, hc⟩)
  · rintro ⟨e, r, hqe, hno⟩
    have hes : q.elements.tail = dt ++ e :: r := by rw [hqe]; rfl
    have he : ¬ PrefixMap.Place (settings (tableCalls regs)) (dt ++ [e]) := by
      rw [place_tableCalls]
      rintro (h | ⟨r', hr', -, h⟩)
      · exact absurd h (by simp)
      · exact hno r'.1 (List.mem_map.mpr ⟨r', hr', rfl⟩) h
    have hspell : (spell (dt ++ [['.']])).elements = r₀.1.elements := by
      have hprop' : ∀ x ∈ dt, Proper x := fun x hx => hprop x (hpre'.subset hx)
      rw [elements_spell (proper_concat hprop' proper_dot), hds, List.cons_append]
    obtain ⟨cb, hcb⟩ := lastRegistered_ne_none hr₀ (fun r hr => (hreg r hr).2)
    refine ⟨cb, hcb, ?_⟩
    rw [getCbForDocUri_stuck regs hq hes hdt he, lastRegistered_congr regs hspell, hcb]
    rfl

/-- The handler of `/a/` is found for `/a/x`, next to the URI `/a/b/c`. -/
theorem directory_routing_found :
    let regs : List (Path × Option Nat) := [(⟨"/a/".toList⟩, some 0), (⟨"/a/b/c".toList⟩, some 1)]
    ∃ cb, lastRegistered regs ⟨"/a/".toList⟩ = some (some cb) ∧
      (registerAll regs).getCbForDocUri ⟨"/a/x".toList⟩ = .ok (some cb) := by
  intro regs
  exact (directory_routing regs ⟨"/a/x".toList⟩ ⟨"/a/".toList⟩ (by decide) (by decide)
    (by decide) (by decide)).mpr ⟨['x'], [], by decide, by decide⟩

/-- It is not found for `/a/b/x`: the walk gets on to the node for `/a/b`, which
is there for the sake of `/a/b/c` alone. -/
theorem directory_routing_lost :
    ¬ ∀ (regs : List (Path × Option Nat)) (q u : Path), (∀ r ∈ regs, Rooted r.1 ∧ r.2 ≠ none) →
      Rooted q → (∀ r ∈ regs, r.1.elements ≠ q.elements) → LongestEnclosing regs u q →
      ∃ cb, lastRegistered regs u = some (some cb) ∧
        (registerAll regs).getCbForDocUri q = .ok (some cb) := by
  intro h
  obtain ⟨cb, -, hcb⟩ := h [(⟨"/a/".toList⟩, some 0), (⟨"/a/b/c".toList⟩, some 1)]
    ⟨"/a/b/x".toList⟩ ⟨"/a/".toList⟩ (by decide) (by decide) (by decide) (by decide)
  have hnone : none = some cb := Except.ok.inj hcb
  cases hnone

end Directories

/-! ### Directories that nothing is registered below -/

section LeafDirectories

/-- `q` goes on behind the directory `u`, and not with a dot. -/
def Below (u q : Path) : Prop :=
  trailingElementIsDir u = true ∧ ∃ e r, e ≠ ['.'] ∧ q.elements = dirOf u ++ e :: r

/-- No URI of the table goes on behind a directory of the table, other than with a dot. -/
def LeafDirectories (us : List Path) : Prop :=
  ∀ u ∈ us, trailingElementIsDir u = true → ∀ u' ∈ us,
    u'.elements.take (dirOf u).length = dirOf u →
      ∀ e ∈ u'.elements[(dirOf u).length]?, e = ['.']

instance (us : List Path) : Decidable (LeafDirectories us) :=
  inferInstanceAs (Decidable (∀ u ∈ us, trailingElementIsDir u = true → ∀ u' ∈ us,
    u'.elements.take (dirOf u).length = dirOf u →
      ∀ e ∈ u'.elements[(dirOf u).length]?, e = ['.']))

theorem LeafDirectories.mono {us vs : List Path} (h : LeafDirectories vs) (hsub : us ⊆ vs) :
    LeafDirectories us := fun u hu hd u' hu' => h u (hsub hu) hd u' (hsub hu')

theorem LeafDirectories.not_prefix {us : List Path} (h : LeafDirectories us) {u : Path}
    (hu : u ∈ us) (hd : trailingElementIsDir u = true) {e : List Char} (he : e ≠ ['.']) {u' : Path}
    (hu' : u' ∈ us) : ¬ dirOf u ++ [e] <+: u'.elements := by
  rintro ⟨s, hs⟩
  refine he (h u hu hd u' hu' ?_ e ?_)
  · rw [← hs, List.append_assoc, List.take_left]
  · rw [← hs, List.append_assoc, List.getElem?_append_right (Nat.le_refl _), Nat.sub_self]
    rfl

theorem Below.rooted {u q : Path} (h : Below u q) (hu : Rooted u) : Rooted q := by
  obtain ⟨hd, e, r, -, hq⟩ := h
  have hds := (Encloses.elements_eq (u := u) (q := u) ⟨hd, List.dropLast_prefix _⟩)
  rw [Rooted, hq]
  cases hdir : dirOf u with
  | nil =>
    rw [Rooted, hds, hdir] at hu
    exact absurd hu (by decide)
  | cons d ds =>
    rw [Rooted, hds, hdir] at hu
    exact hu

/-- **The whole of routing in a table without nested directories.**  What is found for a
URI was last registered on the URI itself, or on the directory it is below. -/
theorem leaf_routing (regs : List (Path × Option β)) (hreg : ∀ r ∈ regs, Rooted r.1)
    (hleaf : LeafDirectories (regs.map Prod.fst)) (q : Path) (cb : β) :
    (registerAll regs).getCbForDocUri q = .ok (some cb) ↔
      lastRegistered regs q = some (some cb) ∨
        ∃ u ∈ regs.map Prod.fst, Below u q ∧ lastRegistered regs u = some (some cb) := by
  have hrooted : ∀ {u : Path} {c : Option β}, lastRegistered regs u = some c → Rooted u := by
    intro u c hu
    obtain ⟨r, hr, heq⟩ := mem_of_lastRegistered hu
    rw [Rooted, ← heq]
    exact hreg r hr
  -- a URI below a directory is stuck there
  have hstuck : ∀ u ∈ regs.map Prod.fst, Below u q → Rooted q ∧ ∃ ds e r,
      q.elements.tail = ds ++ e :: r ∧ u.elements = ['/'] :: (ds ++ [['.']]) ∧
        PrefixMap.Place (settings (tableCalls regs)) ds ∧
        ¬ PrefixMap.Place (settings (tableCalls regs)) (ds ++ [e]) := by
    intro u hu hb
    obtain ⟨r₀, hr₀, rfl⟩ := List.mem_map.mp hu
    refine ⟨hb.rooted (hreg r₀ hr₀), ?_⟩
    obtain ⟨hd, e, r, he, hq⟩ := hb
    have hds := (Encloses.elements_eq (u := r₀.1) (q := r₀.1) ⟨hd, List.dropLast_prefix _⟩)
    obtain ⟨ds, hdir⟩ : ∃ ds, dirOf r₀.1 = ['/'] :: ds := by
      have hroot := hreg r₀ hr₀
      rw [Rooted, hds] at hroot
      cases hdir : dirOf r₀.1 with
      | nil => rw [hdir] at hroot; exact absurd hroot (by decide)
      | cons d ds => rw [hdir] at hroot; exact ⟨ds, by rw [Option.some.inj hroot]⟩
    refine ⟨ds, e, r, by rw [hq, hdir]; rfl, by rw [hds, hdir]; rfl, ?_, fun hpl => ?_⟩
    · have hpl := place_of_registered hr₀ (hreg r₀ hr₀) rfl
      rw [hds, hdir] at hpl
      exact hpl.of_prefix (List.prefix_append _ _)
    · rcases place_tableCalls.mp hpl with hnil | ⟨r', hr', -, hpre⟩
      · exact absurd hnil (by simp)
      · refine hleaf.not_prefix hu hd he (List.mem_map.mpr ⟨r', hr', rfl⟩) ?_
        rw [hdir]
        exact hpre
  constructor
  · intro hget
    have habs : q.isAbsolute = true := by
      by_contra habs
      rw [getCbForDocUri_not_absolute _ (by simpa using habs)] at hget
      cases hget
    by_cases hq : Rooted q
    · obtain ⟨heq, -, hprop⟩ := hq.elements_eq
      rcases PrefixMap.place_or_stop (settings (tableCalls regs)) q.elements.tail with
        hpl | ⟨ds, e, r, hes, hd, he⟩
      · rw [getCbForDocUri_place regs hq hpl, Except.ok.injEq] at hget
        exact .inl (Option.join_eq_some_iff.mp hget)
      · rw [getCbForDocUri_stuck regs hq hes hd he, Except.ok.injEq] at hget
        have hlast := Option.join_eq_some_iff.mp hget
        obtain ⟨x, hx, hxe⟩ := mem_of_lastRegistered hlast
        have hds : ∀ y ∈ ds, Proper y := fun y hy => hprop y (by rw [hes]; simp [hy])
        rw [elements_spell (proper_concat hds proper_dot)] at hxe
        have hxds : x.1.elements = (['/'] :: ds) ++ [['.']] := hxe
        obtain ⟨⟨hdir, -⟩, hdirOf⟩ := encloses_of_append (q := x.1) hxds ⟨[['.']], hxds.symm⟩
        refine .inr ⟨x.1, List.mem_map.mpr ⟨x, hx, rfl⟩, ⟨hdir, e, r, ?_, ?_⟩, ?_⟩
        · -- the directory itself is a place
          rintro rfl
          have hpl := place_of_registered hx (hreg x hx) rfl
          rw [hxe] at hpl
          exact he hpl
        · rw [hdirOf, heq, hes]
          rfl
        · rw [← hlast]
          refine lastRegistered_congr regs ?_
          rw [hxe, elements_spell (proper_concat hds proper_dot)]
    · rw [getCbForDocUri_not_rooted regs habs hq] at hget
      cases hget
  · rintro (hlast | ⟨u, hu, hb, hlast⟩)
    · obtain ⟨r, hr, heq⟩ := mem_of_lastRegistered hlast
      have hq := hrooted hlast
      rw [getCbForDocUri_place regs hq (place_of_registered hr hq heq), hlast]
      rfl
    · obtain ⟨hq, ds, e, r, hes, hue, hd, he⟩ := hstuck u hu hb
      obtain ⟨-, -, hprop⟩ := hq.elements_eq
      have hds : ∀ y ∈ ds, Proper y := fun y hy => hprop y (by rw [hes]; simp [hy])
      have hspell : (spell (ds ++ [['.']])).elements = u.elements := by
        rw [elements_spell (proper_concat hds proper_dot), hue]
      rw [getCbForDocUri_stuck regs hq hes hd he, lastRegistered_congr regs hspell, hlast]
      rfl

end LeafDirectories

end Opaleye.Http
