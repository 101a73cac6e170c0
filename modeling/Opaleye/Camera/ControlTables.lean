import Opaleye.Camera.Controls
import Opaleye.Lib.TransSys

/-!
# The tables of controls

`v4l2_util` keeps three tables of what `v4l2_probe_ctrl` found.  The controls and their
names are entered together, the menus in a second pass, and an error of the driver
between the two leaves menus without entries, which `get_property_description` looks
up without a test.

`consistent_probe_iff` says which answers of the driver leave the tables consistent.
-/

namespace Opaleye.Camera

open TransSys

/-! ### The readers -/

namespace Tables

/-- `get_ctrl_id_by_name` -/
def getCtrlIdByName (t : Tables) (name : List Char) : Option Nat := t.deviceCtrlByName.find name

/-- `get_ctrl_by_id` -/
def getCtrlById (t : Tables) (id : Nat) : Option ExtCtrl := t.deviceCtrl.find id

/-- `get_ctrl_by_name` -/
def getCtrlByName (t : Tables) (name : List Char) : Option ExtCtrl :=
  match t.getCtrlIdByName name with
  | none => none
  | some id => t.getCtrlById id

/-- The loop of `get_property_description`, without the document it puts together; `none` is a
dereference of `m_menu_entries.end()`. -/
def describeCtrls (menus : StdMap Nat (StdMap Int QueryMenu)) : List (Nat × ExtCtrl) → Option Bool
  | [] => some true
  | (_, ctrl) :: ctrls =>
    match ctrl.type with
    | .menu | .integerMenu =>
      match menus.find ctrl.id with
      | none => none
      | some _ => describeCtrls menus ctrls
    | .other _ => some false
    | _ => describeCtrls menus ctrls

/-- `get_property_description` -/
def getPropertyDescription (t : Tables) : Option Bool := describeCtrls t.menuEntries t.deviceCtrl.entries

end Tables

/-- The names lead to controls of that name, and the menus have entries. -/
structure Consistent (t : Tables) : Prop where
  names : ∀ name id, t.deviceCtrlByName.find name = some id →
    ∃ ctrl, t.deviceCtrl.find id = some ctrl ∧ ctrl.name = name
  menus : ∀ id ctrl, t.deviceCtrl.find id = some ctrl → ctrl.type.isMenu = true →
    t.menuEntries.find ctrl.id ≠ none

theorem Consistent.getCtrlByName {t : Tables} (h : Consistent t) {name : List Char}
    (hname : t.getCtrlIdByName name ≠ none) : ∃ ctrl, t.getCtrlByName name = some ctrl ∧ ctrl.name = name := by
  obtain ⟨id, hid⟩ := Option.ne_none_iff_exists'.mp hname
  obtain ⟨ctrl, hctrl, heq⟩ := h.names name id hid
  refine ⟨ctrl, ?_, heq⟩
  rw [Tables.getCtrlByName, hid]
  exact hctrl

/-- **No end iterator is dereferenced** when every menu has entries. -/
theorem describeCtrls_ne_none {menus : StdMap Nat (StdMap Int QueryMenu)} :
    ∀ ctrls : List (Nat × ExtCtrl), (∀ e ∈ ctrls, e.2.type.isMenu = true → menus.find e.2.id ≠ none) →
    Tables.describeCtrls menus ctrls ≠ none := by
  intro ctrls
  induction ctrls with
  | nil => intro _; exact nofun
  | cons e ctrls ih =>
    intro h
    obtain ⟨id, ctrl⟩ := e
    have hrest := ih (fun e he => h e (List.mem_cons_of_mem _ he))
    have hmenu := h (id, ctrl) List.mem_cons_self
    rw [Tables.describeCtrls]
    split
    · next htype =>
      obtain ⟨entries, hentries⟩ := Option.ne_none_iff_exists'.mp (hmenu (by rw [htype]; rfl))
      rw [hentries]
      exact hrest
    · next htype =>
      obtain ⟨entries, hentries⟩ := Option.ne_none_iff_exists'.mp (hmenu (by rw [htype]; rfl))
      rw [hentries]
      exact hrest
    · exact nofun
    · exact hrest

theorem Consistent.getPropertyDescription {t : Tables} (h : Consistent t) :
    t.getPropertyDescription ≠ none :=
  describeCtrls_ne_none _ (fun e he =>
    h.menus e.1 e.2 ((t.deviceCtrl.find_eq_some_iff e.1 e.2).mpr he))

/-! ### One probe -/

/-- The first control that is reported with a name has the name of the first with its id. -/
def Coherent (found : List ExtCtrl) : Prop :=
  ∀ name ctrl, found.find? (fun c => c.name = name) = some ctrl →
    ∃ first, found.find? (fun c => c.id = ctrl.id) = some first ∧ first.name = name

/-- No menu is the first control reported with its id. -/
def NoMenu (found : List ExtCtrl) : Prop :=
  ∀ id ctrl, found.find? (fun c => c.id = id) = some ctrl → ctrl.type.isMenu = false

/-- The driver names its controls coherently, and its report ends with `EINVAL` or before the first
menu. -/
def CleanProbe (ioctls : ProbeIoctls) (fuel : Nat) : Prop :=
  ioctls.queryCap = true → ∀ found stop, reports ioctls.queryExtCtrl fuel 0 cidBase = some (found, stop) →
    Coherent found ∧ (stop = .einval ∨ NoMenu found)

theorem menuPass_find {queryMenu : Nat → Nat → Nat → Option QueryMenu} {fuel : Nat} :
    ∀ (ctrls : List (Nat × ExtCtrl)) {n : Nat} {menus menus' : StdMap Nat (StdMap Int QueryMenu)},
    menuPass queryMenu fuel ctrls n menus = some menus' →
    (∀ e ∈ ctrls, e.2.type.isMenu = true → menus'.find e.2.id ≠ none) ∧
      ∀ id, menus.find id ≠ none → menus'.find id ≠ none := by
  intro ctrls
  induction ctrls with
  | nil =>
    intro n menus menus' h
    cases h
    exact ⟨nofun, fun _ hid => hid⟩
  | cons e ctrls ih =>
    intro n menus menus' h
    obtain ⟨key, ctrl⟩ := e
    rw [menuPass] at h
    split at h
    · obtain ⟨run, -, h⟩ := Option.bind_eq_some_iff.mp h
      obtain ⟨hctrls, hkeep⟩ := ih h
      have hself : menus'.find ctrl.id ≠ none := by
        refine hkeep ctrl.id ?_
        rw [StdMap.find_assign_self]
        exact nofun
      refine ⟨fun e he hmenu => ?_, fun id hid => ?_⟩
      · rcases List.mem_cons.mp he with rfl | he
        · exact hself
        · exact hctrls e he hmenu
      · by_cases heq : id = ctrl.id
        · rw [heq]
          exact hself
        · refine hkeep id ?_
          rw [StdMap.find_assign_of_ne _ _ heq]
          exact hid
    · next hno =>
      obtain ⟨hctrls, hkeep⟩ := ih h
      refine ⟨fun e he hmenu => ?_, hkeep⟩
      rcases List.mem_cons.mp he with rfl | he
      · exact absurd hmenu hno
      · exact hctrls e he hmenu

theorem probe_cases {ioctls : ProbeIoctls} {fuel : Nat} {t : Tables} {ret : Bool}
    (h : v4l2UtilProbeCtrl ioctls fuel = some (t, ret)) :
    (ioctls.queryCap = false ∧ t = .empty ∧ ret = false) ∨
    (∃ found stop, ioctls.queryCap = true ∧
      reports ioctls.queryExtCtrl fuel 0 cidBase = some (found, stop) ∧
      (stop = .other ∧ ret = false ∧ t = found.foldl Tables.add .empty ∨
        ∃ menus, stop = .einval ∧ ret = true ∧
          t = { found.foldl Tables.add .empty with menuEntries := menus } ∧
          menuPass ioctls.queryMenu fuel (found.foldl Tables.add .empty).deviceCtrl.entries 0 .empty
            = some menus)) := by
  rw [v4l2UtilProbeCtrl] at h
  split at h
  · next hcap =>
    cases h
    exact Or.inl ⟨hcap, rfl, rfl⟩
  · next hcap =>
    rw [Bool.not_eq_false] at hcap
    rw [queryLoop_eq] at h
    cases hreports : reports ioctls.queryExtCtrl fuel 0 cidBase with
    | none =>
      rw [hreports] at h
      cases h
    | some r =>
      obtain ⟨found, stop⟩ := r
      rw [hreports] at h
      refine Or.inr ⟨found, stop, hcap, rfl, ?_⟩
      cases stop with
      | other =>
        cases h
        exact Or.inl ⟨rfl, rfl, rfl⟩
      | einval =>
        obtain ⟨menus, hmenus, h⟩ := Option.bind_eq_some_iff.mp h
        cases h
        exact Or.inr ⟨menus, rfl, rfl, rfl, hmenus⟩

theorem names_iff_coherent (found : List ExtCtrl) :
    (∀ name id, (found.foldl Tables.add .empty).deviceCtrlByName.find name = some id →
      ∃ ctrl, (found.foldl Tables.add .empty).deviceCtrl.find id = some ctrl ∧ ctrl.name = name) ↔
      Coherent found := by
  simp only [find_deviceCtrlByName, find_deviceCtrl]
  constructor
  · intro h name ctrl hctrl
    exact h name ctrl.id (by rw [hctrl]; rfl)
  · intro h name id hid
    obtain ⟨ctrl, hctrl, rfl⟩ := Option.map_eq_some_iff.mp hid
    exact h name ctrl hctrl

theorem menus_iff_noMenu (found : List ExtCtrl) :
    (∀ id ctrl, (found.foldl Tables.add .empty).deviceCtrl.find id = some ctrl →
      ctrl.type.isMenu = true → (found.foldl Tables.add .empty).menuEntries.find ctrl.id ≠ none) ↔
      NoMenu found := by
  have hempty : (found.foldl Tables.add .empty).menuEntries = .empty := by
    rw [foldl_add]
    rfl
  simp only [find_deviceCtrl, hempty, StdMap.find_empty]
  constructor
  · intro h id ctrl hctrl
    by_contra hmenu
    exact h id ctrl hctrl (by simpa using hmenu) rfl
  · intro h id ctrl hctrl hmenu
    rw [h id ctrl hctrl] at hmenu
    cases hmenu

/-- **A probe leaves the tables consistent exactly when the driver's answers are clean.** -/
theorem consistent_probe_iff {ioctls : ProbeIoctls} {fuel : Nat} {t : Tables} {ret : Bool}
    (h : v4l2UtilProbeCtrl ioctls fuel = some (t, ret)) : Consistent t ↔ CleanProbe ioctls fuel := by
  rcases probe_cases h with ⟨hcap, rfl, -⟩ | ⟨found, stop, hcap, hreports, hstop⟩
  · refine iff_of_true ⟨nofun, nofun⟩ (fun htrue => ?_)
    rw [hcap] at htrue
    cases htrue
  have hclean : CleanProbe ioctls fuel ↔ Coherent found ∧ (stop = .einval ∨ NoMenu found) := by
    constructor
    · intro hclean
      exact hclean hcap found stop hreports
    · intro hfound _ found' stop' hreports'
      cases hreports.symm.trans hreports'
      exact hfound
  rw [hclean, ← names_iff_coherent]
  rcases hstop with ⟨rfl, -, rfl⟩ | ⟨menus, rfl, -, rfl, hmenus⟩
  · -- the menus were not looked at
    rw [or_iff_right (by decide), ← menus_iff_noMenu]
    exact ⟨fun hc => ⟨hc.names, hc.menus⟩, fun hc => ⟨hc.1, hc.2⟩⟩
  · constructor
    · intro hc
      exact ⟨hc.names, Or.inl rfl⟩
    · rintro ⟨hnames, -⟩
      refine ⟨hnames, fun id ctrl hctrl hmenu => ?_⟩
      have hmem := (StdMap.find_eq_some_iff _ id ctrl).mp hctrl
      exact (menuPass_find _ hmenus).1 (id, ctrl) hmem hmenu

/-- The result is the one that `Alvium_v4l2::open` goes by. -/
theorem probe_result {ioctls : ProbeIoctls} {fuel : Nat} {t : Tables} {ret : Bool} {found : List ExtCtrl}
    {stop : Errno} (h : v4l2UtilProbeCtrl ioctls fuel = some (t, ret))
    (hreports : reports ioctls.queryExtCtrl fuel 0 cidBase = some (found, stop)) :
    ret = v4l2ProbeCtrl ⟨ioctls.queryCap, found.map (fun c => UInt32.ofNat c.id), stop⟩ := by
  rcases probe_cases h with ⟨hcap, -, rfl⟩ | ⟨found', stop', hcap, hreports', hstop⟩
  · rw [hcap]
    rfl
  · cases hreports.symm.trans hreports'
    rw [hcap]
    rcases hstop with ⟨rfl, rfl, -⟩ | ⟨menus, rfl, rfl, -⟩
    · rfl
    · rfl

/-! ### Runs -/

/-- The calls of `v4l2_probe_ctrl` on one object. -/
def probeSys : TransSys Tables (ProbeIoctls × Nat) where
  init := fun t => t = .empty
  step := fun _ call => (v4l2UtilProbeCtrl call.1 call.2).map Prod.fst

/-- A probe with clean answers, whatever the tables were. -/
def CleanCall (_ : Tables) (call : ProbeIoctls × Nat) : Prop := CleanProbe call.1 call.2

/-- **After every probe of a run of clean ones the tables are consistent**, and the readers find what
they look for. -/
theorem tables_consistent (t : Tables) (h : Reach probeSys CleanCall t) :
    Consistent t ∧ t.getPropertyDescription ≠ none := by
  have hinv : Consistent t := by
    refine Reach.invariant (I := Consistent) ?_ ?_ h
    · rintro t rfl
      exact ⟨nofun, nofun⟩
    · intro t call t' _ hclean hstep
      obtain ⟨⟨t'', ret⟩, hprobe, rfl⟩ := Option.map_eq_some_iff.mp hstep
      exact (consistent_probe_iff hprobe).mpr hclean
  exact ⟨hinv, hinv.getPropertyDescription⟩

/-- A menu with two entries. -/
def powerLine : ExtCtrl := ⟨cidBase, .menu, "Power Line Frequency".toList, 0, 1, 1⟩

/-- The menu is reported, and then the query fails. -/
def powerLineIoctls (stop : Errno) : ProbeIoctls where
  queryCap := true
  queryExtCtrl := fun n _ => if n = 0 then .ok powerLine else .error stop
  queryMenu := fun _ id index => some ⟨id, index, "Disabled".toList⟩

theorem coherent_singleton (ctrl : ExtCtrl) : Coherent [ctrl] := by
  intro name c hc
  obtain rfl := List.mem_singleton.mp (List.mem_of_find?_eq_some hc)
  have hname : c.name = name := by simpa using List.find?_some hc
  exact ⟨c, List.find?_cons_of_pos (by simp), hname⟩

theorem cleanProbe_powerLine : CleanProbe (powerLineIoctls .einval) 4 := by
  intro _ found stop hreports
  have heq : reports (powerLineIoctls .einval).queryExtCtrl 4 0 cidBase = some ([powerLine], .einval) := rfl
  cases heq.symm.trans hreports
  exact ⟨coherent_singleton powerLine, Or.inl rfl⟩

theorem tables_consistent_powerLine :
    ∃ t, Reach probeSys CleanCall t ∧
      t.deviceCtrl.find cidBase = some powerLine ∧ Consistent t ∧ t.getPropertyDescription ≠ none := by
  have hinit : probeSys.init .empty := rfl
  obtain ⟨t, ht, hP⟩ := Reach.of_trace (C := CleanCall) [(powerLineIoctls .einval, 4)]
    (P := fun t : Tables => decide (t.deviceCtrl.find cidBase = some powerLine)) hinit
    ⟨cleanProbe_powerLine, trivial⟩ (by decide)
  exact ⟨t, ht, of_decide_eq_true hP, tables_consistent t ht⟩

/-- **The gap is reachable**: the next query fails with `EIO`, and the menu has no entries. -/
theorem tables_not_consistent :
    ∃ t, Reach probeSys Any t ∧ ¬ Consistent t ∧ t.getPropertyDescription = none := by
  have hinit : probeSys.init .empty := rfl
  obtain ⟨t, ht, hP⟩ := Reach.of_trace (C := Any) [(powerLineIoctls .other, 4)]
    (P := fun t : Tables => decide (t.deviceCtrl.find cidBase = some powerLine ∧
      (t.menuEntries.find cidBase).isNone = true ∧ t.getPropertyDescription = none))
    hinit (meets_any _ _) (by decide)
  obtain ⟨hctrl, hmenus, hdescription⟩ := of_decide_eq_true hP
  refine ⟨t, ht, fun hc => ?_, hdescription⟩
  exact hc.menus cidBase powerLine hctrl rfl (Option.isNone_iff_eq_none.mp hmenus)

end Opaleye.Camera
