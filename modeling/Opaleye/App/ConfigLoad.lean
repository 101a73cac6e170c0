import Opaleye.App.Config

/-!
# Loading a configuration into an object

`app_config_mgr` keeps one `app_config` and loads into it again and again, so
`app_config::deserialize` works on an object that has values already, and a load that
throws leaves some of them new and some of them old.  Here `deserialize` is the list of
its statements; each assigns something that is read from the tree, or it throws.

Every field is assigned or cleared on the way, but for `camera_configs`: cameras are
only ever added or replaced.  `load_same_iff` says that this is all that two loads of
one tree can disagree on, and `load_of_no_cameras` that `AppConfig.deserialize` is the
load into an object without cameras.
-/

namespace Opaleye.App

open AppConfig

/-- A statement of `deserialize`; `none` when it throws. -/
abbrev LoadStep := Option (AppConfig → AppConfig)

/-- The statements in order, up to the first that throws. -/
def runSteps : List LoadStep → AppConfig → AppConfig × Bool
  | [], c => (c, true)
  | none :: _, c => (c, false)
  | some f :: steps, c => runSteps steps (f c)

/-- An assignment of what `get` returns. -/
def assignStep {α : Type} (value : Option α) (set : α → AppConfig → AppConfig) : LoadStep :=
  value.map set

/-- `launch` of a subtree. -/
def getLaunch (tree : Tree) (p : String) : Option (List Char) :=
  (tree.getChild (path p)).bind (fun t => getString t (path "launch"))

/-- The `endpoint`s of a subtree. -/
def getEndpoints (tree : Tree) (p : String) : Option (List (List Char)) :=
  (tree.getChild (path p)).map (fun t => texts t "endpoint")

/-- `has_child` looks at `m_tree`, which is the tree by then. -/
def clockSteps (tree : Tree) : List LoadStep :=
  if hasChild tree (path "config.clock") then
    [assignStep (getString tree (path "config.clock.source")) (fun v c => { c with masterClock := v }),
      assignStep (getInt tree (path "config.clock.latency"))
        (fun v c => { c with masterClockLatency := v })]
  else
    [some (fun c => { c with masterClock := "system".toList }),
      some (fun c => { c with masterClockLatency := 500 })]

/-- `camera_configs[cfg.name] = cfg` -/
def cameraStep (tree : Tree) : LoadStep :=
  assignStep (CameraConfig.deserialize tree)
    (fun cfg c => { c with cameraConfigs := c.cameraConfigs.assign cfg.name cfg })

def camerasSteps (tree : Tree) : List LoadStep :=
  match tree.getChild (path "config.cameras") with
  | none => [none]
  | some cameras => cameras.children.map (fun cam => cameraStep cam.2)

def loadSteps (tree : Tree) : List LoadStep :=
  [some (fun c => { c with mTree := tree }),
    assignStep (getString tree (path "config.video_path")) (fun v c => { c with videoPath := v }),
    assignStep (getString tree (path "config.image_path")) (fun v c => { c with imagePath := v }),
    assignStep (getString tree (path "config.log_path")) (fun v c => { c with logPath := v }),
    assignStep (getString tree (path "config.h264_mode")) (fun v c => { c with h264Mode := v }),
    some (fun c => { c with nvpmodelMode := getIntD tree (path "config.nvpmodel.mode") 3 }),
    assignStep (getLaunch tree "config.sensors") (fun v c => { c with sensorsLaunch := v }),
    some (fun c => { c with zeromqEp := [] }),
    assignStep (getLaunch tree "config.zeromq") (fun v c => { c with zeromqLaunch := v }),
    assignStep (getEndpoints tree "config.zeromq") (fun v c => { c with zeromqEp := c.zeromqEp ++ v }),
    some (fun c => { c with zcmEp := [] }),
    assignStep (getLaunch tree "config.zcm") (fun v c => { c with zcmLaunch := v }),
    assignStep (getEndpoints tree "config.zcm") (fun v c => { c with zcmEp := c.zcmEp ++ v })] ++
  clockSteps tree ++ camerasSteps tree

/-- `app_config::deserialize` on any object, and whether it returned `true`. -/
def AppConfig.load (c : AppConfig) (tree : Tree) : AppConfig × Bool := runSteps (loadSteps tree) c

/-- `app_config::make_default` on any object. -/
def AppConfig.setDefault (c : AppConfig) : AppConfig :=
  { makeDefault with
    cameraConfigs := c.cameraConfigs.assign "cam0".toList
      ⟨"cam0".toList, "brio".toList, ⟨"cam0-pipeline".toList, "brio".toList, .node [] []⟩, .node [] []⟩
    mTree := c.mTree }

/-- A new `app_config`; its two numbers have no initializer. -/
def AppConfig.fresh (masterClockLatency nvpmodelMode : Int) : AppConfig where
  videoPath := []
  imagePath := []
  logPath := []
  h264Mode := []
  sensorsLaunch := []
  zeromqLaunch := []
  zeromqEp := []
  zcmLaunch := []
  zcmEp := []
  masterClock := []
  masterClockLatency := masterClockLatency
  cameraConfigs := .empty
  nvpmodelMode := nvpmodelMode
  mTree := .node [] []

/-- What changes an object. -/
inductive ConfigCall
  | makeDefault
  | deserialize (tree : Tree)

def AppConfig.call (c : AppConfig) : ConfigCall → AppConfig
  | .makeDefault => c.setDefault
  | .deserialize tree => (c.load tree).1

/-- An object after calls that returned, returned `false` or threw. -/
def AppConfig.calls (c : AppConfig) (calls : List ConfigCall) : AppConfig := calls.foldl .call c

/-! ### Running the statements -/

theorem runSteps_append : ∀ (steps steps' : List LoadStep) (c : AppConfig),
    runSteps (steps ++ steps') c =
      if (runSteps steps c).2 then runSteps steps' (runSteps steps c).1 else (runSteps steps c) := by
  intro steps
  induction steps with
  | nil => intro steps' c; rfl
  | cons step steps ih =>
    intro steps' c
    cases step with
    | none => rfl
    | some f => exact ih steps' (f c)

/-- **Whether a load succeeds does not depend on the object.** -/
theorem runSteps_ret_iff : ∀ (steps : List LoadStep) (c : AppConfig),
    (runSteps steps c).2 = true ↔ ∀ step ∈ steps, step ≠ none := by
  intro steps
  induction steps with
  | nil => intro c; simp [runSteps]
  | cons step steps ih =>
    intro c
    cases step with
    | none => simp [runSteps]
    | some f =>
      rw [runSteps, ih (f c)]
      simp

/-! ### Cameras -/

/-- Cameras are added or replaced one after another. -/
def overlay (cams : List CameraConfig) (m : StdMap (List Char) CameraConfig) :
    StdMap (List Char) CameraConfig :=
  cams.foldl (fun m cfg => m.assign cfg.name cfg) m

/-- The last camera of a name. -/
def lastNamed (cams : List CameraConfig) (k : List Char) : Option CameraConfig :=
  cams.reverse.find? (fun cfg => cfg.name = k)

theorem lastNamed_cons (cfg : CameraConfig) (cams : List CameraConfig) (k : List Char) :
    lastNamed (cfg :: cams) k = (lastNamed cams k).or (if cfg.name = k then some cfg else none) := by
  rw [lastNamed, lastNamed, List.reverse_cons, List.find?_append]
  by_cases h : cfg.name = k <;> simp [h]

theorem lastNamed_eq_none_iff (cams : List CameraConfig) (k : List Char) :
    lastNamed cams k = none ↔ k ∉ cams.map (fun cfg => cfg.name) := by
  rw [lastNamed, List.find?_eq_none]
  simp only [List.mem_reverse, decide_eq_true_eq, List.mem_map, not_exists, not_and]

theorem mem_of_lastNamed {cams : List CameraConfig} {k : List Char} {cfg : CameraConfig}
    (h : lastNamed cams k = some cfg) : cfg ∈ cams ∧ cfg.name = k := by
  rw [lastNamed] at h
  have hname := List.find?_some h
  exact ⟨List.mem_reverse.mp (List.mem_of_find?_eq_some h), of_decide_eq_true hname⟩

/-- **A camera that the tree has is the tree's, and every other is the object's.** -/
theorem find_overlay : ∀ (cams : List CameraConfig) (m : StdMap (List Char) CameraConfig)
    (k : List Char), (overlay cams m).find k = (lastNamed cams k).or (m.find k) := by
  intro cams
  induction cams with
  | nil => intro m k; rfl
  | cons cfg cams ih =>
    intro m k
    have hstep : overlay (cfg :: cams) m = overlay cams (m.assign cfg.name cfg) := rfl
    rw [hstep, ih, lastNamed_cons, StdMap.find_assign, Option.or_assoc]
    congr 1
    by_cases h : cfg.name = k
    · rw [if_pos h, if_pos h.symm]
      rfl
    · rw [if_neg h, if_neg (Ne.symm h)]
      rfl

theorem overlay_eq_iff (cams : List CameraConfig) (m m' : StdMap (List Char) CameraConfig) :
    overlay cams m = overlay cams m' ↔
      ∀ k, k ∉ cams.map (fun cfg => cfg.name) → m.find k = m'.find k := by
  constructor
  · intro h k hk
    have hfind : (overlay cams m).find k = (overlay cams m').find k := by rw [h]
    rw [find_overlay, find_overlay, (lastNamed_eq_none_iff cams k).mpr hk] at hfind
    exact hfind
  · intro h
    refine StdMap.ext_find (fun k => ?_)
    rw [find_overlay, find_overlay]
    cases hlast : lastNamed cams k with
    | none => exact h k ((lastNamed_eq_none_iff cams k).mp hlast)
    | some cfg => rfl

theorem deserializeCameras_eq_some_iff : ∀ (cs : List (List Char × Tree))
    (m m' : StdMap (List Char) CameraConfig), deserializeCameras cs m = some m' ↔
      ∃ cams, cs.mapM (fun cam => CameraConfig.deserialize cam.2) = some cams ∧
        m' = overlay cams m := by
  intro cs
  induction cs with
  | nil =>
    intro m m'
    simp [deserializeCameras, overlay, eq_comm]
  | cons cam cs ih =>
    intro m m'
    rw [deserializeCameras, List.mapM_cons]
    cases hcfg : CameraConfig.deserialize cam.2 with
    | none => simp
    | some cfg =>
      refine (ih (m.assign cfg.name cfg) m').trans ?_
      constructor
      · rintro ⟨cams, hcams, rfl⟩
        exact ⟨cfg :: cams, by simp [hcams], rfl⟩
      · rintro ⟨cams, hcams, rfl⟩
        simp only [Option.bind_eq_bind, Option.bind_some, Option.pure_def,
          Option.bind_eq_some_iff] at hcams
        obtain ⟨rest, hrest, hcons⟩ := hcams
        obtain rfl := Option.some.inj hcons
        exact ⟨rest, hrest, rfl⟩

theorem runSteps_cameras : ∀ (cs : List (List Char × Tree)) {cams : List CameraConfig}
    (c : AppConfig), cs.mapM (fun cam => CameraConfig.deserialize cam.2) = some cams →
    runSteps (cs.map (fun cam => cameraStep cam.2)) c =
      ({ c with cameraConfigs := overlay cams c.cameraConfigs }, true) := by
  intro cs
  induction cs with
  | nil =>
    intro cams c h
    obtain rfl := Option.some.inj h
    rfl
  | cons cam cs ih =>
    intro cams c h
    rw [List.mapM_cons] at h
    obtain ⟨cfg, hcfg, h⟩ := Option.bind_eq_some_iff.mp h
    obtain ⟨rest, hrest, h⟩ := Option.bind_eq_some_iff.mp h
    obtain rfl := Option.some.inj h
    rw [List.map_cons, cameraStep, hcfg]
    exact ih { c with cameraConfigs := c.cameraConfigs.assign cfg.name cfg } hrest

/-! ### What can be loaded -/

/-- The paths that a camera needs. -/
def cameraPaths : List String := ["name", "type", "pipeline.name", "pipeline.type"]

/-- The paths that a configuration needs, besides those of its cameras. -/
def configPaths : List String :=
  ["config.video_path", "config.image_path", "config.log_path", "config.h264_mode",
    "config.sensors.launch", "config.zeromq.launch", "config.zcm.launch"]

/-- A tree that can be loaded. -/
structure Readable (tree : Tree) : Prop where
  fields : ∀ p ∈ configPaths, hasChild tree (path p) = true
  clock : hasChild tree (path "config.clock") = true →
    hasChild tree (path "config.clock.source") = true ∧
      getInt tree (path "config.clock.latency") ≠ none
  cameras : ∃ cameras, tree.getChild (path "config.cameras") = some cameras ∧
    ∀ cam ∈ cameras.children, ∀ p ∈ cameraPaths, hasChild cam.2 (path p) = true

theorem getString_ne_none_iff {tree : Tree} {p : List (List Char)} :
    getString tree p ≠ none ↔ hasChild tree p = true := by
  rw [getString, hasChild]
  cases tree.getChild p <;> simp

theorem hasChild_append {tree : Tree} {p q : List (List Char)} :
    hasChild tree (p ++ q) = true ↔ ∃ t, tree.getChild p = some t ∧ hasChild t q = true := by
  rw [hasChild, Ptree.getChild_append]
  cases tree.getChild p with
  | none => simp
  | some t => simp [hasChild]

theorem camera_ne_none_iff {tree : Tree} : CameraConfig.deserialize tree ≠ none ↔
    ∀ p ∈ cameraPaths, hasChild tree (path p) = true := by
  have hname : path "pipeline.name" = path "pipeline" ++ path "name" := rfl
  have htype : path "pipeline.type" = path "pipeline" ++ path "type" := rfl
  simp only [cameraPaths, List.forall_mem_cons, List.not_mem_nil, false_imp_iff, implies_true,
    and_true, hname, htype, hasChild_append]
  simp only [← getString_ne_none_iff]
  rw [CameraConfig.deserialize]
  cases getString tree (path "name") with
  | none => simp
  | some name =>
    cases getString tree (path "type") with
    | none => simp
    | some type =>
      cases tree.getChild (path "pipeline") with
      | none => simp
      | some pipeline =>
        simp only [Option.bind_eq_bind, Option.bind_some, PipelineConfig.deserialize,
          Option.some.injEq, exists_eq_left']
        cases getString pipeline (path "name") with
        | none => simp
        | some pipelineName => cases getString pipeline (path "type") <;> simp

theorem getLaunch_ne_none_iff {tree : Tree} {p q : String}
    (h : path q = path p ++ path "launch") :
    getLaunch tree p ≠ none ↔ hasChild tree (path q) = true := by
  rw [h, hasChild_append, getLaunch]
  cases tree.getChild (path p) with
  | none => simp
  | some t => simp [getString_ne_none_iff]

theorem assignStep_ne_none {α : Type} {value : Option α} {set : α → AppConfig → AppConfig} :
    assignStep value set ≠ none ↔ value ≠ none := by
  cases value <;> simp [assignStep]

theorem getEndpoints_ne_none {tree : Tree} {p : String} (h : getLaunch tree p ≠ none) :
    getEndpoints tree p ≠ none := by
  rw [getLaunch] at h
  rw [getEndpoints]
  cases hp : tree.getChild (path p) with
  | none => rw [hp] at h; exact absurd rfl h
  | some t => simp

theorem clockSteps_ne_none_iff {tree : Tree} : (∀ step ∈ clockSteps tree, step ≠ none) ↔
    (hasChild tree (path "config.clock") = true →
      hasChild tree (path "config.clock.source") = true ∧
        getInt tree (path "config.clock.latency") ≠ none) := by
  rw [clockSteps]
  split
  · next h =>
    simp only [List.forall_mem_cons, List.not_mem_nil, false_imp_iff, implies_true, and_true,
      assignStep_ne_none, getString_ne_none_iff, h, forall_const]
  · next h => simp [h]

theorem camerasSteps_ne_none_iff {tree : Tree} : (∀ step ∈ camerasSteps tree, step ≠ none) ↔
    ∃ cameras, tree.getChild (path "config.cameras") = some cameras ∧
      ∀ cam ∈ cameras.children, ∀ p ∈ cameraPaths, hasChild cam.2 (path p) = true := by
  rw [camerasSteps]
  cases tree.getChild (path "config.cameras") with
  | none => simp
  | some cameras =>
    simp only [List.forall_mem_map, cameraStep, assignStep_ne_none, camera_ne_none_iff,
      Option.some.injEq, exists_eq_left']

/-- **A load succeeds exactly when the tree can be loaded.** -/
theorem load_ret_iff (c : AppConfig) (tree : Tree) : (c.load tree).2 = true ↔ Readable tree := by
  have hsensors : path "config.sensors.launch" = path "config.sensors" ++ path "launch" := rfl
  have hzeromq : path "config.zeromq.launch" = path "config.zeromq" ++ path "launch" := rfl
  have hzcm : path "config.zcm.launch" = path "config.zcm" ++ path "launch" := rfl
  rw [AppConfig.load, runSteps_ret_iff, loadSteps]
  simp only [List.forall_mem_append, clockSteps_ne_none_iff, camerasSteps_ne_none_iff,
    List.forall_mem_cons, List.not_mem_nil, false_imp_iff, implies_true, and_true,
    assignStep_ne_none, getString_ne_none_iff, ne_eq, reduceCtorEq, not_false_eq_true, true_and,
    getLaunch_ne_none_iff hsensors]
  constructor
  · rintro ⟨⟨⟨hvideo, himage, hlog, hmode, hs, hz, -, hc, -⟩, hclock⟩, hcams⟩
    refine ⟨?_, hclock, hcams⟩
    simp only [configPaths, List.forall_mem_cons, List.not_mem_nil, false_imp_iff, implies_true,
      and_true]
    exact ⟨hvideo, himage, hlog, hmode, hs, (getLaunch_ne_none_iff hzeromq).mp hz,
      (getLaunch_ne_none_iff hzcm).mp hc⟩
  · rintro ⟨hfields, hclock, hcams⟩
    simp only [configPaths, List.forall_mem_cons, List.not_mem_nil, false_imp_iff, implies_true,
      and_true] at hfields
    obtain ⟨hvideo, himage, hlog, hmode, hs, hz, hc⟩ := hfields
    have hz' := (getLaunch_ne_none_iff hzeromq).mpr hz
    have hc' := (getLaunch_ne_none_iff hzcm).mpr hc
    exact ⟨⟨⟨hvideo, himage, hlog, hmode, hs, hz', getEndpoints_ne_none hz', hc',
      getEndpoints_ne_none hc'⟩, hclock⟩, hcams⟩

/-! ### What is loaded -/

/-- Every field is what the tree says, but for the cameras, which are read one by one. -/
structure Reads (tree : Tree) (cfg : AppConfig) (cams : List CameraConfig) : Prop where
  videoPath : getString tree (path "config.video_path") = some cfg.videoPath
  imagePath : getString tree (path "config.image_path") = some cfg.imagePath
  logPath : getString tree (path "config.log_path") = some cfg.logPath
  h264Mode : getString tree (path "config.h264_mode") = some cfg.h264Mode
  nvpmodelMode : getIntD tree (path "config.nvpmodel.mode") 3 = cfg.nvpmodelMode
  sensorsLaunch : getLaunch tree "config.sensors" = some cfg.sensorsLaunch
  zeromqLaunch : getLaunch tree "config.zeromq" = some cfg.zeromqLaunch
  zeromqEp : getEndpoints tree "config.zeromq" = some cfg.zeromqEp
  zcmLaunch : getLaunch tree "config.zcm" = some cfg.zcmLaunch
  zcmEp : getEndpoints tree "config.zcm" = some cfg.zcmEp
  clock : deserializeClock tree = some (cfg.masterClock, cfg.masterClockLatency)
  cameras : ∃ cameras, tree.getChild (path "config.cameras") = some cameras ∧
    cameras.children.mapM (fun cam => CameraConfig.deserialize cam.2) = some cams
  mTree : cfg.mTree = tree

theorem runSteps_clock {tree : Tree} {source : List Char} {latency : Int}
    (h : deserializeClock tree = some (source, latency)) (c : AppConfig) :
    runSteps (clockSteps tree) c =
      ({ c with masterClock := source, masterClockLatency := latency }, true) := by
  rw [deserializeClock] at h
  rw [clockSteps]
  split at h
  · next hclock =>
    obtain ⟨source', hsource, h⟩ := Option.bind_eq_some_iff.mp h
    obtain ⟨latency', hlatency, h⟩ := Option.bind_eq_some_iff.mp h
    cases h
    rw [if_pos hclock, hsource, hlatency]
    rfl
  · next hclock =>
    cases h
    rw [if_neg hclock]
    rfl

/-- **A load assigns every field what the tree says, and lays the tree's cameras over those that
were there.** -/
theorem load_of_reads {tree : Tree} {cfg : AppConfig} {cams : List CameraConfig}
    (h : Reads tree cfg cams) (c : AppConfig) :
    c.load tree = ({ cfg with cameraConfigs := overlay cams c.cameraConfigs }, true) := by
  obtain ⟨cameras, hcameras, hcams⟩ := h.cameras
  have hsteps : camerasSteps tree = cameras.children.map (fun cam => cameraStep cam.2) := by
    rw [camerasSteps, hcameras]
  obtain ⟨videoPath, imagePath, logPath, h264Mode, sensorsLaunch, zeromqLaunch, zeromqEp, zcmLaunch,
    zcmEp, masterClock, masterClockLatency, cameraConfigs, nvpmodelMode, mTree⟩ := cfg
  obtain rfl : mTree = tree := h.mTree
  obtain rfl := h.nvpmodelMode
  rw [AppConfig.load, loadSteps, h.videoPath, h.imagePath, h.logPath, h.h264Mode, h.sensorsLaunch,
    h.zeromqLaunch, h.zeromqEp, h.zcmLaunch, h.zcmEp, runSteps_append, runSteps_append, hsteps]
  simp only [assignStep, Option.map_some, runSteps, if_true, runSteps_clock h.clock,
    runSteps_cameras _ _ hcams, List.nil_append]

theorem mapM_ne_none {α β : Type} {f : α → Option β} : ∀ {l : List α}, (∀ x ∈ l, f x ≠ none) →
    ∃ ys, l.mapM f = some ys := by
  intro l
  induction l with
  | nil => intro _; exact ⟨[], rfl⟩
  | cons x l ih =>
    intro h
    obtain ⟨y, hy⟩ := Option.ne_none_iff_exists'.mp (h x List.mem_cons_self)
    obtain ⟨ys, hys⟩ := ih (fun x hx => h x (List.mem_cons_of_mem _ hx))
    exact ⟨y :: ys, by rw [List.mapM_cons, hy, hys]; rfl⟩

theorem Readable.deserializeClock {tree : Tree} (h : Readable tree) :
    ∃ source latency, deserializeClock tree = some (source, latency) := by
  rw [AppConfig.deserializeClock]
  split
  · next hclock =>
    obtain ⟨hsource, hlatency⟩ := h.clock hclock
    obtain ⟨source, hsource⟩ := Option.ne_none_iff_exists'.mp (getString_ne_none_iff.mpr hsource)
    obtain ⟨latency, hlatency⟩ := Option.ne_none_iff_exists'.mp hlatency
    exact ⟨source, latency, by rw [hsource, hlatency]; rfl⟩
  · exact ⟨_, _, rfl⟩

theorem Readable.reads {tree : Tree} (h : Readable tree) : ∃ cfg cams, Reads tree cfg cams := by
  have hget : ∀ p ∈ configPaths, ∃ v, getString tree (path p) = some v := fun p hp =>
    Option.ne_none_iff_exists'.mp (getString_ne_none_iff.mpr (h.fields p hp))
  have hlaunch : ∀ p q : String, path q = path p ++ path "launch" → q ∈ configPaths →
      ∃ v, getLaunch tree p = some v := fun p q hq hmem =>
    Option.ne_none_iff_exists'.mp ((getLaunch_ne_none_iff hq).mpr (h.fields q hmem))
  have hep : ∀ p v, getLaunch tree p = some v → ∃ eps, getEndpoints tree p = some eps :=
    fun p v hv => Option.ne_none_iff_exists'.mp (getEndpoints_ne_none (by rw [hv]; simp))
  obtain ⟨video, hvideo⟩ := hget "config.video_path" (by decide)
  obtain ⟨image, himage⟩ := hget "config.image_path" (by decide)
  obtain ⟨log, hlog⟩ := hget "config.log_path" (by decide)
  obtain ⟨mode, hmode⟩ := hget "config.h264_mode" (by decide)
  obtain ⟨sensors, hsensors⟩ := hlaunch "config.sensors" "config.sensors.launch" rfl (by decide)
  obtain ⟨zeromq, hzeromq⟩ := hlaunch "config.zeromq" "config.zeromq.launch" rfl (by decide)
  obtain ⟨zeromqEp, hzeromqEp⟩ := hep _ _ hzeromq
  obtain ⟨zcm, hzcm⟩ := hlaunch "config.zcm" "config.zcm.launch" rfl (by decide)
  obtain ⟨zcmEp, hzcmEp⟩ := hep _ _ hzcm
  obtain ⟨source, latency, hclock⟩ := h.deserializeClock
  obtain ⟨cameras, hcameras, hall⟩ := h.cameras
  obtain ⟨cams, hcams⟩ := mapM_ne_none (f := fun cam => CameraConfig.deserialize cam.2)
    (fun cam hcam => camera_ne_none_iff.mpr (hall cam hcam))
  exact ⟨⟨video, image, log, mode, sensors, zeromq, zeromqEp, zcm, zcmEp, source, latency, .empty, _,
    tree⟩, cams, hvideo, himage, hlog, hmode, rfl, hsensors, hzeromq, hzeromqEp, hzcm, hzcmEp, hclock,
    ⟨cameras, hcameras, hcams⟩, rfl⟩

theorem reads_of_deserialize {tree : Tree} {cfg : AppConfig}
    (h : AppConfig.deserialize tree = some cfg) :
    ∃ cams, Reads tree cfg cams ∧ cfg.cameraConfigs = overlay cams .empty := by
  rw [AppConfig.deserialize] at h
  obtain ⟨video, hvideo, h⟩ := Option.bind_eq_some_iff.mp h
  obtain ⟨image, himage, h⟩ := Option.bind_eq_some_iff.mp h
  obtain ⟨log, hlog, h⟩ := Option.bind_eq_some_iff.mp h
  obtain ⟨mode, hmode, h⟩ := Option.bind_eq_some_iff.mp h
  obtain ⟨sensorsTree, hsensorsTree, h⟩ := Option.bind_eq_some_iff.mp h
  obtain ⟨sensors, hsensors, h⟩ := Option.bind_eq_some_iff.mp h
  obtain ⟨zmqTree, hzmqTree, h⟩ := Option.bind_eq_some_iff.mp h
  obtain ⟨zeromq, hzeromq, h⟩ := Option.bind_eq_some_iff.mp h
  obtain ⟨zcmTree, hzcmTree, h⟩ := Option.bind_eq_some_iff.mp h
  obtain ⟨zcm, hzcm, h⟩ := Option.bind_eq_some_iff.mp h
  obtain ⟨clock, hclock, h⟩ := Option.bind_eq_some_iff.mp h
  obtain ⟨cameras, hcameras, h⟩ := Option.bind_eq_some_iff.mp h
  obtain ⟨m, hm, h⟩ := Option.bind_eq_some_iff.mp h
  obtain ⟨cams, hcams, rfl⟩ := (deserializeCameras_eq_some_iff _ _ _).mp hm
  obtain rfl := Option.some.inj h
  refine ⟨cams, ⟨hvideo, himage, hlog, hmode, rfl, ?_, ?_, ?_, ?_, ?_, hclock,
    ⟨cameras, hcameras, hcams⟩, rfl⟩, rfl⟩
  · rw [getLaunch, hsensorsTree]
    exact hsensors
  · rw [getLaunch, hzmqTree]
    exact hzeromq
  · rw [getEndpoints, hzmqTree]
    rfl
  · rw [getLaunch, hzcmTree]
    exact hzcm
  · rw [getEndpoints, hzcmTree]
    rfl

theorem deserialize_of_reads {tree : Tree} {cfg : AppConfig} {cams : List CameraConfig}
    (h : Reads tree cfg cams) :
    AppConfig.deserialize tree = some { cfg with cameraConfigs := overlay cams .empty } := by
  obtain ⟨cameras, hcameras, hcams⟩ := h.cameras
  obtain ⟨sensorsTree, hsensorsTree, hsensors⟩ := Option.bind_eq_some_iff.mp h.sensorsLaunch
  obtain ⟨zmqTree, hzmqTree, hzeromq⟩ := Option.bind_eq_some_iff.mp h.zeromqLaunch
  obtain ⟨zcmTree, hzcmTree, hzcm⟩ := Option.bind_eq_some_iff.mp h.zcmLaunch
  have hzeromqEp : texts zmqTree "endpoint" = cfg.zeromqEp := by
    have hep := h.zeromqEp
    rw [getEndpoints, hzmqTree] at hep
    exact Option.some.inj hep
  have hzcmEp : texts zcmTree "endpoint" = cfg.zcmEp := by
    have hep := h.zcmEp
    rw [getEndpoints, hzcmTree] at hep
    exact Option.some.inj hep
  have hm := (deserializeCameras_eq_some_iff cameras.children .empty _).mpr ⟨cams, hcams, rfl⟩
  rw [AppConfig.deserialize, h.videoPath, h.imagePath, h.logPath, h.h264Mode, hsensorsTree, hzmqTree,
    hzcmTree, h.clock, hcameras]
  simp only [Option.bind_eq_bind, Option.bind_some, hsensors, hzeromq, hzcm, hm, hzeromqEp, hzcmEp,
    h.nvpmodelMode, h.mTree]

/-- **`AppConfig.deserialize` is the load into an object without cameras.** -/
theorem load_of_no_cameras (c : AppConfig) (h : c.cameraConfigs = .empty) (tree : Tree) :
    AppConfig.deserialize tree = if (c.load tree).2 then some (c.load tree).1 else none := by
  by_cases hread : Readable tree
  · obtain ⟨cfg, cams, hreads⟩ := hread.reads
    rw [deserialize_of_reads hreads, load_of_reads hreads, h]
    rfl
  · rw [if_neg (fun hret => hread ((load_ret_iff c tree).mp hret))]
    cases hd : AppConfig.deserialize tree with
    | none => rfl
    | some cfg =>
      obtain ⟨cams, hreads, -⟩ := reads_of_deserialize hd
      refine absurd ((load_ret_iff c tree).mp ?_) hread
      rw [load_of_reads hreads]

/-! ### Cameras stay -/

/-- No statement takes a camera away. -/
def KeepsCameras (f : AppConfig → AppConfig) : Prop :=
  ∀ c k, c.cameraConfigs.find k ≠ none → (f c).cameraConfigs.find k ≠ none

theorem find_assign_ne_none {m : StdMap (List Char) CameraConfig} {k : List Char}
    (h : m.find k ≠ none) (k' : List Char) (cfg : CameraConfig) :
    (m.assign k' cfg).find k ≠ none := by
  rw [StdMap.find_assign]
  split
  · simp
  · exact h

theorem keepsCameras_of_eq {f : AppConfig → AppConfig}
    (h : ∀ c, (f c).cameraConfigs = c.cameraConfigs) : KeepsCameras f := by
  intro c k hk
  rw [h]
  exact hk

theorem assignStep_keepsCameras {α : Type} {value : Option α} {set : α → AppConfig → AppConfig}
    (h : ∀ v c, (set v c).cameraConfigs = c.cameraConfigs) :
    ∀ f ∈ assignStep value set, KeepsCameras f := by
  intro f hf
  obtain ⟨v, -, rfl⟩ := Option.map_eq_some_iff.mp hf
  exact keepsCameras_of_eq (h v)

theorem cameraStep_keepsCameras (tree : Tree) : ∀ f ∈ cameraStep tree, KeepsCameras f := by
  intro f hf c k hk
  obtain ⟨cfg, -, rfl⟩ := Option.map_eq_some_iff.mp hf
  exact find_assign_ne_none hk cfg.name cfg

theorem clockSteps_keepsCameras (tree : Tree) :
    ∀ step ∈ clockSteps tree, ∀ f ∈ step, KeepsCameras f := by
  rw [clockSteps]
  split
  · simp only [List.forall_mem_cons, List.not_mem_nil, false_imp_iff, implies_true, and_true]
    exact ⟨assignStep_keepsCameras (fun _ _ => rfl), assignStep_keepsCameras (fun _ _ => rfl)⟩
  · simp only [List.forall_mem_cons, List.not_mem_nil, false_imp_iff, implies_true, and_true,
      Option.mem_def, Option.some.injEq, forall_eq']
    exact ⟨keepsCameras_of_eq (fun _ => rfl), keepsCameras_of_eq (fun _ => rfl)⟩

theorem camerasSteps_keepsCameras (tree : Tree) :
    ∀ step ∈ camerasSteps tree, ∀ f ∈ step, KeepsCameras f := by
  rw [camerasSteps]
  split
  · simp
  · intro step hstep
    obtain ⟨cam, -, rfl⟩ := List.mem_map.mp hstep
    exact cameraStep_keepsCameras cam.2

theorem loadSteps_keepsCameras (tree : Tree) :
    ∀ step ∈ loadSteps tree, ∀ f ∈ step, KeepsCameras f := by
  rw [loadSteps]
  simp only [List.forall_mem_append]
  refine ⟨⟨?_, clockSteps_keepsCameras tree⟩, camerasSteps_keepsCameras tree⟩
  simp only [List.forall_mem_cons, List.not_mem_nil, false_imp_iff, implies_true, and_true,
    Option.mem_some_iff, forall_eq']
  refine ⟨?_, ?_, ?_, ?_, ?_, ?_, ?_, ?_, ?_, ?_, ?_, ?_, ?_⟩
  all_goals first
    | exact keepsCameras_of_eq (fun _ => rfl)
    | exact assignStep_keepsCameras (fun _ _ => rfl)

theorem find_runSteps_ne_none {k : List Char} : ∀ {steps : List LoadStep} {c : AppConfig},
    (∀ step ∈ steps, ∀ f ∈ step, KeepsCameras f) → c.cameraConfigs.find k ≠ none →
    (runSteps steps c).1.cameraConfigs.find k ≠ none := by
  intro steps
  induction steps with
  | nil => intro c _ hk; exact hk
  | cons step steps ih =>
    intro c h hk
    cases step with
    | none => exact hk
    | some f =>
      exact ih (fun step hstep => h step (List.mem_cons_of_mem _ hstep))
        (h _ List.mem_cons_self f rfl c k hk)

theorem find_call_ne_none {c : AppConfig} {k : List Char} (call : ConfigCall)
    (h : c.cameraConfigs.find k ≠ none) : (c.call call).cameraConfigs.find k ≠ none := by
  cases call with
  | makeDefault => exact find_assign_ne_none h _ _
  | deserialize tree => exact find_runSteps_ne_none (loadSteps_keepsCameras tree) h

/-- **A camera that was loaded once stays in the object**, whatever is loaded after it. -/
theorem find_calls_ne_none {k : List Char} : ∀ (calls : List ConfigCall) {c : AppConfig},
    c.cameraConfigs.find k ≠ none → (c.calls calls).cameraConfigs.find k ≠ none := by
  intro calls
  induction calls with
  | nil => intro c h; exact h
  | cons call calls ih => intro c h; exact ih (find_call_ne_none call h)

/-! ### Two loads of one tree -/

/-- The names of the cameras in a tree. -/
def cameraNames (tree : Tree) : List (List Char) :=
  match tree.getChild (path "config.cameras") with
  | none => []
  | some cameras => cameras.children.filterMap (fun cam => getString cam.2 (path "name"))

theorem getString_name {tree : Tree} {cfg : CameraConfig}
    (h : CameraConfig.deserialize tree = some cfg) :
    getString tree (path "name") = some cfg.name := by
  rw [CameraConfig.deserialize] at h
  obtain ⟨name, hname, h⟩ := Option.bind_eq_some_iff.mp h
  iterate 3 obtain ⟨_, -, h⟩ := Option.bind_eq_some_iff.mp h
  obtain rfl := Option.some.inj h
  exact hname

theorem map_name_of_mapM : ∀ {cs : List (List Char × Tree)} {cams : List CameraConfig},
    cs.mapM (fun cam => CameraConfig.deserialize cam.2) = some cams →
    cs.filterMap (fun cam => getString cam.2 (path "name")) = cams.map (fun cfg => cfg.name) := by
  intro cs
  induction cs with
  | nil =>
    intro cams h
    obtain rfl := Option.some.inj h
    rfl
  | cons cam cs ih =>
    intro cams h
    rw [List.mapM_cons] at h
    obtain ⟨cfg, hcfg, h⟩ := Option.bind_eq_some_iff.mp h
    obtain ⟨rest, hrest, h⟩ := Option.bind_eq_some_iff.mp h
    obtain rfl := Option.some.inj h
    rw [List.filterMap_cons, getString_name hcfg, ih hrest]
    rfl

theorem Reads.cameraNames_eq {tree : Tree} {cfg : AppConfig} {cams : List CameraConfig}
    (h : Reads tree cfg cams) : cameraNames tree = cams.map (fun cfg => cfg.name) := by
  obtain ⟨cameras, hcameras, hcams⟩ := h.cameras
  rw [cameraNames, hcameras]
  exact map_name_of_mapM hcams

/-- A tree is loaded into both objects or into neither, and then they are equal. -/
def SameLoad (a b : AppConfig) (tree : Tree) : Prop :=
  (a.load tree).2 = (b.load tree).2 ∧
    ((a.load tree).2 = true → (a.load tree).1 = (b.load tree).1)

/-- **Two loads of a tree agree exactly when the objects had the same cameras, apart from those that
the tree has.** -/
theorem load_same_iff (a b : AppConfig) (tree : Tree) : SameLoad a b tree ↔
    (Readable tree → ∀ k, k ∉ cameraNames tree → a.cameraConfigs.find k = b.cameraConfigs.find k) := by
  have hret : (a.load tree).2 = (b.load tree).2 :=
    Bool.eq_iff_iff.mpr ((load_ret_iff a tree).trans (load_ret_iff b tree).symm)
  rw [SameLoad, and_iff_right hret, load_ret_iff]
  refine imp_congr_right (fun hread => ?_)
  obtain ⟨cfg, cams, hreads⟩ := hread.reads
  rw [load_of_reads hreads, load_of_reads hreads, hreads.cameraNames_eq, ← overlay_eq_iff]
  exact ⟨fun h => congrArg AppConfig.cameraConfigs h, fun h => by rw [h]⟩

/-- A tree with one camera. -/
def oneCameraTree (name : String) : Tree :=
  .node [] [("config".toList, .node []
    [("video_path".toList, .node "/mnt/video".toList []),
     ("image_path".toList, .node "/mnt/image".toList []),
     ("log_path".toList, .node "/mnt/log".toList []), ("h264_mode".toList, .node "nv".toList []),
     ("sensors".toList, .node [] [("launch".toList, .node "true".toList [])]),
     ("zeromq".toList, .node [] [("launch".toList, .node "true".toList [])]),
     ("zcm".toList, .node [] [("launch".toList, .node "true".toList [])]),
     ("cameras".toList, .node []
       [("camera".toList, .node []
         [("name".toList, .node name.toList []), ("type".toList, .node "imx219".toList []),
          ("pipeline".toList, .node []
            [("name".toList, .node "pipe".toList []),
             ("type".toList, .node "imx219".toList [])])])])])]

/-- A new object and one that had the default configuration differ in `cam0` after a tree without
it. -/
theorem load_differs_default : ¬ ∀ (latency latency' mode mode' : Int) (calls calls' : List ConfigCall)
    (tree : Tree), SameLoad ((AppConfig.fresh latency mode).calls calls)
      ((AppConfig.fresh latency' mode').calls calls') tree := by
  intro h
  obtain ⟨-, hsame⟩ := h 500 500 3 3 [] [.makeDefault] (oneCameraTree "cam1")
  have hcams := congrArg (fun c => (AppConfig.cameraConfigs c).find "cam0".toList)
    (hsame (by decide))
  have hkept := find_runSteps_ne_none (k := "cam0".toList)
    (loadSteps_keepsCameras (oneCameraTree "cam1"))
    (show ((AppConfig.fresh 500 3).setDefault).cameraConfigs.find "cam0".toList ≠ none by decide)
  exact hkept (hcams.symm.trans (by decide))

end Opaleye.App
