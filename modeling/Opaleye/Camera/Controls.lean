import Opaleye.Camera.Device
import Opaleye.Lib.CInt
import Mathlib.Data.List.Lex
import Mathlib.Data.Char

/-!
# Probing the controls

`v4l2_util::v4l2_probe_ctrl` asks the driver for its controls and, for those that are
menus, for the entries.  The tables are cleared first; the controls are then entered one
by one, and the menus in a second pass over the table of controls.

The answers of the driver are arguments: the `n`-th `VIDIOC_QUERY_EXT_CTRL` for an id,
the `n`-th `VIDIOC_QUERYMENU` for an id and an index.  Neither loop need end, so both
have fuel; a run that is out of fuel is `none`.

* The first query is for the id `V4L2_CID_BASE` itself and the others are for the next
  control, so a device without a control of that id seems to have none
  (`walkComplete_iff`).
* The index of a menu is advanced by an unsigned step in 64 bits, which need not lead
  past the maximum (`menuVisits_iff`).
-/

namespace Opaleye.Camera

open CInt

/-! ### The driver -/

/-- `v4l2_ctrl_type` -/
inductive CtrlType
  | integer
  | boolean
  | menu
  | button
  | integer64
  | ctrlClass
  | string
  | bitmask
  | integerMenu
  | u8
  | u16
  | u32
  | other (value : Nat)
  deriving DecidableEq

/-- `is_menu_ctrl` -/
def CtrlType.isMenu : CtrlType → Bool
  | .menu | .integerMenu => true
  | _ => false

/-- `v4l2_query_ext_ctrl` -/
structure ExtCtrl where
  id : Nat
  type : CtrlType
  name : List Char
  minimum : Int
  maximum : Int
  step : Nat
  deriving DecidableEq

/-- `v4l2_querymenu`; `text` is the union of the name and the value. -/
structure QueryMenu where
  id : Nat
  index : Nat
  text : List Char
  deriving DecidableEq

/-- What the driver answers to one call of `v4l2_probe_ctrl`. -/
structure ProbeIoctls where
  queryCap : Bool
  queryExtCtrl : Nat → Nat → Except Errno ExtCtrl
  queryMenu : Nat → Nat → Nat → Option QueryMenu

/-! ### The tables -/

/-- `m_device_ctrl`, `m_device_ctrl_by_name` and `m_menu_entries` -/
structure Tables where
  deviceCtrl : StdMap Nat ExtCtrl
  deviceCtrlByName : StdMap (List Char) Nat
  menuEntries : StdMap Nat (StdMap Int QueryMenu)

def Tables.empty : Tables := ⟨.empty, .empty, .empty⟩

/-- One control is entered; what is there already stays. -/
def Tables.add (t : Tables) (ctrl : ExtCtrl) : Tables :=
  { t with
    deviceCtrl := t.deviceCtrl.emplace ctrl.id ctrl
    deviceCtrlByName := t.deviceCtrlByName.emplace ctrl.name ctrl.id }

/-- `V4L2_CID_BASE` -/
def cidBase : Nat := 0x00980900

/-- `V4L2_CTRL_FLAG_NEXT_CTRL` -/
def flagNextCtrl : Nat := 0x80000000

/-! ### The two loops -/

/-- The `do` loop, at the `n`-th query. -/
def queryLoop (query : Nat → Nat → Except Errno ExtCtrl) :
    (fuel n currentCtrlId : Nat) → Tables → Option (Tables × Errno)
  | 0, _, _, _ => none
  | fuel + 1, n, currentCtrlId, t =>
    match query n currentCtrlId with
    | .error e => some (t, e)
    | .ok ctrl => queryLoop query fuel (n + 1) (ctrl.id ||| flagNextCtrl) (t.add ctrl)

/-- What the loop over a menu leaves: the entries, how many queries were made so far, and the indices
it has visited. -/
structure MenuRun where
  entries : StdMap Int QueryMenu
  calls : Nat
  visited : List Int

/-- The `for` loop over the indices of a menu.  `i += step` is computed in `uint64_t`. -/
def menuLoop (queryMenu : Nat → Nat → Nat → Option QueryMenu) (ctrl : ExtCtrl) :
    (fuel n : Nat) → Int → StdMap Int QueryMenu → Option MenuRun
  | 0, _, _, _ => none
  | fuel + 1, n, i, entries =>
    if i ≤ ctrl.maximum then
      let entries :=
        match queryMenu n ctrl.id (toUnsigned 32 i).toNat with
        | none => entries
        | some menu => entries.emplace i menu
      (menuLoop queryMenu ctrl fuel (n + 1) (toSigned 64 (toUnsigned 64 (i + ctrl.step))) entries).map
        (fun run => { run with visited := i :: run.visited })
    else some ⟨entries, n, []⟩

/-- The pass over the controls. -/
def menuPass (queryMenu : Nat → Nat → Nat → Option QueryMenu) (fuel : Nat) :
    List (Nat × ExtCtrl) → Nat → StdMap Nat (StdMap Int QueryMenu) →
      Option (StdMap Nat (StdMap Int QueryMenu))
  | [], _, menus => some menus
  | (_, ctrl) :: ctrls, n, menus =>
    if ctrl.type.isMenu then do
      let run ← menuLoop queryMenu ctrl fuel n ctrl.minimum ((menus.find ctrl.id).getD .empty)
      menuPass queryMenu fuel ctrls run.calls (menus.assign ctrl.id run.entries)
    else menuPass queryMenu fuel ctrls n menus

/-- `v4l2_util::v4l2_probe_ctrl`; the tables of before are cleared. -/
def v4l2UtilProbeCtrl (ioctls : ProbeIoctls) (fuel : Nat) : Option (Tables × Bool) :=
  if ioctls.queryCap = false then some (.empty, false)
  else
    match queryLoop ioctls.queryExtCtrl fuel 0 cidBase .empty with
    | none => none
    | some (t, .other) => some (t, false)
    | some (t, .einval) => do
      let menus ← menuPass ioctls.queryMenu fuel t.deviceCtrl.entries 0 .empty
      some ({ t with menuEntries := menus }, true)

/-! ### What the driver reports -/

/-- The controls that the driver reports one after another, and how that ends. -/
def reports (query : Nat → Nat → Except Errno ExtCtrl) :
    (fuel n currentCtrlId : Nat) → Option (List ExtCtrl × Errno)
  | 0, _, _ => none
  | fuel + 1, n, currentCtrlId =>
    match query n currentCtrlId with
    | .error e => some ([], e)
    | .ok ctrl =>
      (reports query fuel (n + 1) (ctrl.id ||| flagNextCtrl)).map (fun r => (ctrl :: r.1, r.2))

/-- **The loop enters what is reported, in that order.** -/
theorem queryLoop_eq (query : Nat → Nat → Except Errno ExtCtrl) : ∀ (fuel n cur : Nat) (t : Tables),
    queryLoop query fuel n cur t
      = (reports query fuel n cur).map (fun r => (r.1.foldl Tables.add t, r.2)) := by
  intro fuel
  induction fuel with
  | zero => intro n cur t; rfl
  | succ fuel ih =>
    intro n cur t
    rw [queryLoop, reports]
    cases query n cur with
    | error e => rfl
    | ok ctrl =>
      dsimp only
      rw [ih, Option.map_map]
      rfl

theorem foldl_add (found : List ExtCtrl) : ∀ t : Tables, found.foldl Tables.add t =
    { t with
      deviceCtrl := found.foldl (fun m c => m.emplace c.id c) t.deviceCtrl
      deviceCtrlByName := found.foldl (fun m c => m.emplace c.name c.id) t.deviceCtrlByName } := by
  induction found with
  | nil => intro t; rfl
  | cons ctrl found ih =>
    intro t
    rw [List.foldl_cons, ih]
    rfl

theorem find_deviceCtrl (found : List ExtCtrl) (id : Nat) :
    (found.foldl Tables.add .empty).deviceCtrl.find id = found.find? (fun c => c.id = id) := by
  rw [foldl_add]
  show (found.foldl (fun m c => m.emplace c.id c) StdMap.empty).find id = _
  rw [StdMap.find_foldl_emplace (fun c : ExtCtrl => c.id) (fun c => c), StdMap.find_empty,
    Option.none_or, Option.map_id']

theorem find_deviceCtrlByName (found : List ExtCtrl) (name : List Char) :
    (found.foldl Tables.add .empty).deviceCtrlByName.find name
      = (found.find? (fun c => c.name = name)).map ExtCtrl.id := by
  rw [foldl_add]
  show (found.foldl (fun m c => m.emplace c.name c.id) StdMap.empty).find name = _
  rw [StdMap.find_foldl_emplace (fun c : ExtCtrl => c.name) ExtCtrl.id, StdMap.find_empty,
    Option.none_or]

/-! ### A device with controls -/

/-- `V4L2_CTRL_ID_MASK` -/
def ctrlIdMask : Nat := 0x0fffffff

/-- The controls of a device: their ids have no flags. -/
structure CtrlSet where
  ctrls : List ExtCtrl
  sorted : ctrls.Pairwise (fun a b => a.id < b.id)
  id_le : ∀ c ∈ ctrls, c.id ≤ ctrlIdMask

/-- `VIDIOC_QUERY_EXT_CTRL`: the control with the id or, with the flag, the next one. -/
def CtrlSet.query (d : CtrlSet) (id : Nat) : Except Errno ExtCtrl :=
  let found :=
    if id &&& flagNextCtrl ≠ 0 then d.ctrls.find? (fun c => id &&& ctrlIdMask < c.id)
    else d.ctrls.find? (fun c => c.id = id)
  match found with
  | none => .error .einval
  | some ctrl => .ok ctrl

/-- The loop ends, and then the tables have the controls of the device from `V4L2_CID_BASE` on. -/
def WalkComplete (d : CtrlSet) : Prop :=
  ∃ fuel t, queryLoop (fun _ => d.query) fuel 0 cidBase .empty = some (t, .einval) ∧
    (∀ id ctrl, t.deviceCtrl.find id = some ctrl ↔ ctrl ∈ d.ctrls ∧ ctrl.id = id ∧ cidBase ≤ id) ∧
    ∀ ctrl ∈ d.ctrls, cidBase ≤ ctrl.id → (t.deviceCtrlByName.find ctrl.name).isSome = true

theorem and_flag_ne_zero (id : Nat) : (id ||| flagNextCtrl) &&& flagNextCtrl ≠ 0 := by
  rw [Nat.and_or_distrib_right, Nat.and_self]
  intro h
  exact absurd (Nat.or_eq_zero_iff.mp h).2 (by decide)

theorem and_mask {id : Nat} (h : id ≤ ctrlIdMask) : (id ||| flagNextCtrl) &&& ctrlIdMask = id := by
  have hflag : flagNextCtrl &&& ctrlIdMask = 0 := by decide
  have hmask : ctrlIdMask = 2 ^ 28 - 1 := by decide
  rw [Nat.and_or_distrib_right, hflag, Nat.or_zero, hmask, Nat.and_two_pow_sub_one_eq_mod,
    Nat.mod_eq_of_lt (by omega)]

variable {d : CtrlSet}

theorem query_next {pre post : List ExtCtrl} {c : ExtCtrl} (h : d.ctrls = pre ++ c :: post) :
    d.query (c.id ||| flagNextCtrl) = match post.head? with
      | none => .error .einval
      | some e => .ok e := by
  have hc : c ∈ d.ctrls := h ▸ List.mem_append_right _ List.mem_cons_self
  have hs := d.sorted
  rw [h, List.pairwise_append, List.pairwise_cons] at hs
  obtain ⟨-, ⟨hpost, -⟩, hpre⟩ := hs
  have hnone : pre.find? (fun x => decide (c.id < x.id)) = none := by
    refine List.find?_eq_none.mpr (fun x hx => ?_)
    have := hpre x hx c List.mem_cons_self
    rw [decide_eq_true_eq]
    omega
  rw [CtrlSet.query, if_pos (and_flag_ne_zero _)]
  simp only [and_mask (d.id_le c hc)]
  rw [h, List.find?_append, hnone, Option.none_or, List.find?_cons_of_neg (by simp)]
  cases post with
  | nil => rfl
  | cons e post =>
    rw [List.find?_cons_of_pos (by simpa using hpost e List.mem_cons_self), List.head?_cons]

/-- **From one control on, all that follow are reported.** -/
theorem reports_next : ∀ (post pre : List ExtCtrl) (c : ExtCtrl) (n : Nat),
    d.ctrls = pre ++ c :: post →
    reports (fun _ => d.query) (post.length + 1) n (c.id ||| flagNextCtrl) = some (post, .einval) := by
  intro post
  induction post with
  | nil =>
    intro pre c n h
    rw [List.length_nil, reports, query_next h]
    rfl
  | cons e post ih =>
    intro pre c n h
    have h' : d.ctrls = (pre ++ [c]) ++ e :: post := by
      rw [h, List.append_assoc, List.singleton_append]
    rw [List.length_cons, reports, query_next h, List.head?_cons]
    dsimp only
    rw [ih (pre ++ [c]) e (n + 1) h']
    rfl

theorem query_base : d.query cidBase = match d.ctrls.find? (fun c => c.id = cidBase) with
    | none => .error .einval
    | some ctrl => .ok ctrl := by
  rw [CtrlSet.query, if_neg (by decide)]

theorem find?_id_eq_some_iff {l : List ExtCtrl} (hs : l.Pairwise (fun a b => a.id < b.id)) {id : Nat}
    {ctrl : ExtCtrl} : l.find? (fun c => c.id = id) = some ctrl ↔ ctrl ∈ l ∧ ctrl.id = id := by
  constructor
  · intro h
    exact ⟨List.mem_of_find?_eq_some h, by simpa using List.find?_some h⟩
  · induction l with
    | nil => rintro ⟨h, -⟩; cases h
    | cons c l ih =>
      obtain ⟨hc, hl⟩ := List.pairwise_cons.mp hs
      rintro ⟨hmem, hid⟩
      rcases List.mem_cons.mp hmem with rfl | hmem
      · exact List.find?_cons_of_pos (by simpa using hid)
      · have hlt := hc ctrl hmem
        rw [List.find?_cons_of_neg (by rw [decide_eq_true_eq]; omega)]
        exact ih hl ⟨hmem, hid⟩

theorem walkComplete_of_base {c : ExtCtrl} (hc : c ∈ d.ctrls) (hid : c.id = cidBase) : WalkComplete d := by
  obtain ⟨pre, post, h⟩ := List.append_of_mem hc
  have hs := d.sorted
  rw [h, List.pairwise_append] at hs
  obtain ⟨-, hsuffix, hpre⟩ := hs
  have hfind : d.ctrls.find? (fun c => c.id = cidBase) = some c :=
    (find?_id_eq_some_iff d.sorted).mpr ⟨hc, hid⟩
  have hreports : reports (fun _ => d.query) (post.length + 2) 0 cidBase = some (c :: post, .einval) := by
    rw [reports, query_base, hfind]
    dsimp only
    rw [reports_next post pre c 1 h]
    rfl
  -- the controls before it have smaller ids
  have hsuffix_iff : ∀ ctrl, ctrl ∈ c :: post ↔ ctrl ∈ d.ctrls ∧ cidBase ≤ ctrl.id := by
    intro ctrl
    rw [h, List.mem_append]
    constructor
    · intro hmem
      refine ⟨Or.inr hmem, ?_⟩
      rcases List.mem_cons.mp hmem with rfl | hmem
      · exact hid.ge
      · have := (List.pairwise_cons.mp hsuffix).1 ctrl hmem
        omega
    · rintro ⟨hmem | hmem, hle⟩
      · have := hpre ctrl hmem c List.mem_cons_self
        omega
      · exact hmem
  refine ⟨post.length + 2, (c :: post).foldl Tables.add .empty, ?_, ?_, ?_⟩
  · rw [queryLoop_eq, hreports]
    rfl
  · intro id ctrl
    rw [find_deviceCtrl, find?_id_eq_some_iff hsuffix, hsuffix_iff]
    constructor
    · rintro ⟨⟨hmem, hle⟩, rfl⟩
      exact ⟨hmem, rfl, hle⟩
    · rintro ⟨hmem, rfl, hle⟩
      exact ⟨⟨hmem, hle⟩, rfl⟩
  · intro ctrl hmem hle
    rw [find_deviceCtrlByName, Option.isSome_map, List.find?_isSome]
    exact ⟨ctrl, (hsuffix_iff ctrl).mpr ⟨hmem, hle⟩, by simp⟩

theorem queryLoop_of_no_base (h : ∀ c ∈ d.ctrls, c.id ≠ cidBase) (fuel : Nat) (t : Tables) :
    queryLoop (fun _ => d.query) (fuel + 1) 0 cidBase t = some (t, .einval) := by
  have hfind : d.ctrls.find? (fun c => c.id = cidBase) = none :=
    List.find?_eq_none.mpr (fun c hc => by simpa using h c hc)
  rw [queryLoop, query_base, hfind]

/-- **The walk is complete exactly for the devices with a control at `V4L2_CID_BASE`**, and for those
with none from there on. -/
theorem walkComplete_iff (d : CtrlSet) :
    WalkComplete d ↔ (∃ c ∈ d.ctrls, c.id = cidBase) ∨ ∀ c ∈ d.ctrls, c.id < cidBase := by
  by_cases hbase : ∃ c ∈ d.ctrls, c.id = cidBase
  · obtain ⟨c, hc, hid⟩ := hbase
    exact iff_of_true (walkComplete_of_base hc hid) (Or.inl ⟨c, hc, hid⟩)
  · have hne : ∀ c ∈ d.ctrls, c.id ≠ cidBase := fun c hc hid => hbase ⟨c, hc, hid⟩
    rw [or_iff_right hbase]
    constructor
    · rintro ⟨fuel, t, hloop, hctrls, -⟩ c hc
      cases fuel with
      | zero => cases hloop
      | succ fuel =>
        rw [queryLoop_of_no_base hne] at hloop
        cases hloop
        by_contra hle
        have hfound := (hctrls c.id c).mpr ⟨hc, rfl, by omega⟩
        cases hfound
    · intro hlt
      refine ⟨1, .empty, queryLoop_of_no_base hne 0 _, fun id ctrl => ?_, fun ctrl hctrl hle => ?_⟩
      · refine iff_of_false nofun ?_
        rintro ⟨hctrl, rfl, hle⟩
        exact absurd (hlt ctrl hctrl) (by omega)
      · exact absurd (hlt ctrl hctrl) (by omega)

/-- One control, `V4L2_CID_EXPOSURE`. -/
def exposureOnly : CtrlSet where
  ctrls := [⟨0x00980911, .integer, "Exposure".toList, 0, 100, 1⟩]
  sorted := List.pairwise_singleton _ _
  id_le := by decide

theorem exposureOnly_not_walkComplete :
    queryLoop (fun _ => exposureOnly.query) 1 0 cidBase .empty = some (.empty, .einval) ∧
      ¬ WalkComplete exposureOnly := by
  have hne : ∀ c ∈ exposureOnly.ctrls, c.id ≠ cidBase := by decide
  refine ⟨rfl, ?_⟩
  rintro ⟨fuel, t, hloop, hctrls, -⟩
  cases fuel with
  | zero => cases hloop
  | succ fuel =>
    rw [queryLoop_of_no_base hne] at hloop
    cases hloop
    have hfound := (hctrls 0x00980911 _).mpr ⟨List.mem_singleton_self _, rfl, by decide⟩
    cases hfound

/-! ### Menus -/

/-- The loop over a menu ends, it visits `minimum + k * step` up to the maximum, and no index
overflows. -/
def MenuVisits (queryMenu : Nat → Nat → Nat → Option QueryMenu) (ctrl : ExtCtrl) (n : Nat)
    (entries : StdMap Int QueryMenu) : Prop :=
  ∃ fuel run, menuLoop queryMenu ctrl fuel n ctrl.minimum entries = some run ∧
    (∀ i, i ∈ run.visited ↔ ∃ k : Nat, i = ctrl.minimum + k * ctrl.step ∧ i ≤ ctrl.maximum) ∧
    ∀ i ∈ run.visited, Fits 64 (i + ctrl.step)

section Menu

variable (queryMenu : Nat → Nat → Nat → Option QueryMenu) {ctrl : ExtCtrl}

theorem mul_step_nonneg (k step : Nat) : (0 : Int) ≤ k * step :=
  Int.mul_nonneg (Int.natCast_nonneg k) (Int.natCast_nonneg step)

theorem menuLoop_of_lt {i : Int} (h : ctrl.maximum < i) (fuel n : Nat) (entries : StdMap Int QueryMenu) :
    menuLoop queryMenu ctrl (fuel + 1) n i entries = some ⟨entries, n, []⟩ := by
  rw [menuLoop, if_neg (by omega)]

theorem menuLoop_of_le {i : Int} (h : i ≤ ctrl.maximum) (hfits : Fits 64 (i + ctrl.step)) (fuel n : Nat)
    (entries : StdMap Int QueryMenu) :
    ∃ entries', menuLoop queryMenu ctrl (fuel + 1) n i entries
      = (menuLoop queryMenu ctrl fuel (n + 1) (i + ctrl.step) entries').map
        (fun run => { run with visited := i :: run.visited }) := by
  rw [menuLoop, if_pos h, toSigned_toUnsigned hfits (by decide)]
  exact ⟨_, rfl⟩

/-- **The loop makes `m` turns** when `m` steps lead past the maximum and not past the type. -/
theorem menuLoop_visits : ∀ (m n : Nat) (i : Int) (entries : StdMap Int QueryMenu),
    -2 ^ 63 ≤ i → (∀ j : Nat, j < m → i + j * ctrl.step ≤ ctrl.maximum) →
    ctrl.maximum < i + m * ctrl.step → i + m * ctrl.step < 2 ^ 63 →
    ∃ run, menuLoop queryMenu ctrl (m + 1) n i entries = some run ∧
      run.visited = (List.range m).map (fun j : Nat => i + j * ctrl.step) := by
  intro m
  induction m with
  | zero =>
    intro n i entries _ _ hmax _
    rw [Int.natCast_zero, Int.zero_mul, Int.add_zero] at hmax
    exact ⟨_, menuLoop_of_lt queryMenu hmax 0 n entries, rfl⟩
  | succ m ih =>
    intro n i entries hlo hle hmax hhi
    have hsplit : i + ((m + 1 : Nat) : Int) * ctrl.step = i + ctrl.step + m * ctrl.step := by
      push_cast
      ring
    have hnonneg := mul_step_nonneg m ctrl.step
    rw [hsplit] at hmax hhi
    have hfirst : i ≤ ctrl.maximum := by
      have := hle 0 (Nat.succ_pos m)
      rw [Int.natCast_zero, Int.zero_mul] at this
      omega
    have hfits : Fits 64 (i + ctrl.step) := by
      rw [fits_64_iff]
      omega
    have hrest : ∀ j : Nat, j < m → i + ctrl.step + j * ctrl.step ≤ ctrl.maximum := by
      intro j hj
      have hnext := hle (j + 1) (Nat.succ_lt_succ hj)
      have heq : i + ((j + 1 : Nat) : Int) * ctrl.step = i + ctrl.step + j * ctrl.step := by
        push_cast
        ring
      rwa [heq] at hnext
    obtain ⟨entries', hloop⟩ := menuLoop_of_le queryMenu hfirst hfits (m + 1) n entries
    obtain ⟨run, hrun, hvisited⟩ :=
      ih (n + 1) (i + ctrl.step) entries' (by omega) hrest hmax hhi
    refine ⟨{ run with visited := i :: run.visited }, ?_, ?_⟩
    · rw [hloop, hrun]
      rfl
    · rw [List.range_succ_eq_map, List.map_cons, List.map_map, hvisited, List.cons.injEq]
      refine ⟨by rw [Int.natCast_zero, Int.zero_mul, Int.add_zero], List.map_congr_left (fun j _ => ?_)⟩
      show i + ctrl.step + j * ctrl.step = i + ((j + 1 : Nat) : Int) * ctrl.step
      push_cast
      ring

theorem menuLoop_zero_step (hstep : ctrl.step = 0) {i : Int} (hi : Fits 64 i) (hle : i ≤ ctrl.maximum) :
    ∀ (fuel n : Nat) (entries : StdMap Int QueryMenu),
    menuLoop queryMenu ctrl fuel n i entries = none := by
  intro fuel
  induction fuel with
  | zero => intro n entries; rfl
  | succ fuel ih =>
    intro n entries
    have hsame : i + (ctrl.step : Int) = i := by
      rw [hstep]
      omega
    obtain ⟨entries', hloop⟩ := menuLoop_of_le queryMenu hle (hsame.symm ▸ hi) fuel n entries
    rw [hloop, hsame, ih]
    rfl

theorem last_index {lo hi : Int} {step : Nat} (hstep : 0 < step) (h : lo ≤ hi) :
    ∃ m : Nat, (m : Int) = (hi - lo) / step + 1 ∧ hi < lo + m * step ∧
      ∀ j : Nat, j < m → lo + j * step ≤ hi := by
  have hpos : (0 : Int) < step := by omega
  have hquot : 0 ≤ (hi - lo) / (step : Int) := Int.ediv_nonneg (by omega) hpos.le
  obtain ⟨q, hq⟩ := Int.eq_ofNat_of_zero_le hquot
  refine ⟨q + 1, by rw [hq]; push_cast; rfl, ?_, fun j hj => ?_⟩
  · have := Int.lt_ediv_add_one_mul_self (hi - lo) hpos
    rw [hq] at this
    push_cast at this ⊢
    omega
  · have hle : (j : Int) ≤ (hi - lo) / step := by
      rw [hq]
      exact_mod_cast Nat.le_of_lt_succ hj
    have := (Int.le_ediv_iff_mul_le hpos).mp hle
    omega

variable {n : Nat} {entries : StdMap Int QueryMenu}

theorem menuVisits_of_lt (h : ctrl.maximum < ctrl.minimum) : MenuVisits queryMenu ctrl n entries := by
  refine ⟨1, _, menuLoop_of_lt queryMenu h 0 n entries, fun i => ?_, nofun⟩
  refine iff_of_false nofun ?_
  rintro ⟨k, rfl, hk⟩
  have := mul_step_nonneg k ctrl.step
  omega

theorem next_index_lt (hmin : Fits 64 ctrl.minimum) (hle : ctrl.minimum ≤ ctrl.maximum)
    (h : MenuVisits queryMenu ctrl n entries) :
    0 < ctrl.step ∧
      ctrl.minimum + ((ctrl.maximum - ctrl.minimum) / ctrl.step + 1) * ctrl.step < 2 ^ 63 := by
  obtain ⟨fuel, run, hrun, hvisited, hfits⟩ := h
  have hstep : 0 < ctrl.step := by
    by_contra hzero
    rw [menuLoop_zero_step queryMenu (by omega) hmin hle] at hrun
    cases hrun
  obtain ⟨m, hm, -, hbelow⟩ := last_index hstep hle
  have hquot : 0 ≤ (ctrl.maximum - ctrl.minimum) / (ctrl.step : Int) :=
    Int.ediv_nonneg (by omega) (by omega)
  obtain ⟨j, rfl⟩ : ∃ j, m = j + 1 := ⟨m - 1, by omega⟩
  have hlast := hbelow j (Nat.lt_succ_self j)
  have hfit := (fits_64_iff.mp (hfits _ ((hvisited _).mpr ⟨j, rfl, hlast⟩))).2
  refine ⟨hstep, ?_⟩
  rw [← hm]
  push_cast
  rw [Int.add_mul, Int.one_mul]
  omega

theorem menuVisits_of_next_lt (hmin : Fits 64 ctrl.minimum) (hle : ctrl.minimum ≤ ctrl.maximum)
    (hstep : 0 < ctrl.step)
    (hhi : ctrl.minimum + ((ctrl.maximum - ctrl.minimum) / ctrl.step + 1) * ctrl.step < 2 ^ 63) :
    MenuVisits queryMenu ctrl n entries := by
  have hlo := (fits_64_iff.mp hmin).1
  obtain ⟨m, hm, habove, hbelow⟩ := last_index hstep hle
  rw [← hm] at hhi
  obtain ⟨run, hrun, hvisited⟩ :=
    menuLoop_visits queryMenu m n ctrl.minimum entries (by omega) hbelow habove hhi
  have hmem : ∀ i, i ∈ run.visited ↔ ∃ j : Nat, j < m ∧ i = ctrl.minimum + j * ctrl.step := by
    intro i
    rw [hvisited, List.mem_map]
    constructor
    · rintro ⟨j, hj, rfl⟩
      exact ⟨j, List.mem_range.mp hj, rfl⟩
    · rintro ⟨j, hj, rfl⟩
      exact ⟨j, List.mem_range.mpr hj, rfl⟩
  refine ⟨m + 1, run, hrun, fun i => ?_, fun i hi => ?_⟩
  · rw [hmem]
    constructor
    · rintro ⟨j, hj, rfl⟩
      exact ⟨j, rfl, hbelow j hj⟩
    · rintro ⟨k, rfl, hk⟩
      refine ⟨k, ?_, rfl⟩
      by_contra hge
      have hmul : (m : Int) * ctrl.step ≤ k * ctrl.step :=
        Int.mul_le_mul_of_nonneg_right (by omega) (by omega)
      omega
  · obtain ⟨j, hj, rfl⟩ := (hmem i).mp hi
    have hmul : ((j : Int) + 1) * ctrl.step ≤ m * ctrl.step :=
      Int.mul_le_mul_of_nonneg_right (by omega) (by omega)
    have hnonneg := mul_step_nonneg j ctrl.step
    rw [Int.add_mul, Int.one_mul] at hmul
    rw [fits_64_iff]
    omega

/-- **A menu is visited exactly when it is empty, or the step is not zero and the index after the last
one is still a 64-bit value.** -/
theorem menuVisits_iff (ctrl : ExtCtrl) (n : Nat) (entries : StdMap Int QueryMenu)
    (hmin : Fits 64 ctrl.minimum) :
    MenuVisits queryMenu ctrl n entries ↔ ctrl.maximum < ctrl.minimum ∨
      0 < ctrl.step ∧
        ctrl.minimum + ((ctrl.maximum - ctrl.minimum) / ctrl.step + 1) * ctrl.step < 2 ^ 63 := by
  rcases lt_or_ge ctrl.maximum ctrl.minimum with hempty | hle
  · exact iff_of_true (menuVisits_of_lt queryMenu hempty) (Or.inl hempty)
  · rw [or_iff_right (by omega)]
    constructor
    · intro h
      exact next_index_lt queryMenu hmin hle h
    · rintro ⟨hstep, hhi⟩
      exact menuVisits_of_next_lt queryMenu hmin hle hstep hhi

end Menu

/-- A menu, as a driver may describe it. -/
def menuCtrl (minimum maximum : Int) (step : Nat) : ExtCtrl :=
  ⟨cidBase, .menu, "Menu".toList, minimum, maximum, step⟩

theorem menuVisits_four : MenuVisits (fun _ _ _ => none) (menuCtrl 0 3 1) 0 .empty :=
  (menuVisits_iff (fun _ _ _ => none) (menuCtrl 0 3 1) 0 .empty (by decide)).mpr (by decide)

/-- A menu with step zero is never left. -/
theorem menuVisits_not_zero_step :
    (∀ fuel, menuLoop (fun _ _ _ => none) (menuCtrl 0 3 0) fuel 0 0 .empty = none) ∧
      ¬ MenuVisits (fun _ _ _ => none) (menuCtrl 0 3 0) 0 .empty := by
  have hnone : ∀ fuel, menuLoop (fun _ _ _ => none) (menuCtrl 0 3 0) fuel 0 0 .empty = none :=
    fun fuel => menuLoop_zero_step _ rfl (by decide) (by decide) fuel 0 .empty
  refine ⟨hnone, ?_⟩
  rintro ⟨fuel, run, hrun, -⟩
  cases (hnone fuel).symm.trans hrun

end Opaleye.Camera
