import Opaleye.App.OpaleyeApp

/-!
# Captures

What runs of `start_video_capture` and `stop_video_capture` do to the table after
`init`, for any configuration and any outcome of the calls they make.

* A capture of `c` listens to `"h264_ipsink_0"`, and so does every other: the
  builders give each camera's sink that name.  It is the camera's own name only
  when there is no other camera (`records_own_iff`).
* `start_video_capture(c)` asks only that `c` is a key, so a capture can be
  captured in turn.  Stopping the outer one first leaves the inner one without a
  key it could be stopped by; nothing else does (`captures_stoppable_iff`).
* The books are kept all the same (`capture_bookkeeping`): no camera is touched,
  the calls on each `c` that return true alternate, and `c + "/file0"` is there
  exactly between them.

All three rest on `CaptureInv`: the table is that of `init` and, besides,
recorders under keys that end in `"/file0"`.
-/

namespace Opaleye.App

open OpaleyeApp

/-! ### One call -/

/-- What a call on a capture can do to the table. -/
inductive Change (app : OpaleyeApp) : CaptureCall → OpaleyeApp → Ret → Prop
  | none {call : CaptureCall} {app' : OpaleyeApp} {ret : Ret}
      (hcloses : ∀ camera, call = .stop camera → ¬ app.Closes camera)
      (heq : app'.pipelines = app.pipelines) (hret : ret.IsNo) : Change app call app' ret
  | started {camera : List Char} {env : CaptureEnv} {app' : OpaleyeApp}
      (hc : app.pipelines.find camera ≠ none) (hk : app.pipelines.find (file0 camera) = none)
      (heq : app'.pipelines = app.pipelines.emplace (file0 camera) (some recorder)) :
      Change app (.start camera env) app' (.returned true)
  | stopped {camera : List Char} {app' : OpaleyeApp} (hcloses : app.Closes camera)
      (heq : app'.pipelines = app.pipelines.erase (file0 camera)) :
      Change app (.stop camera) app' (.returned true)

theorem change_call (app : OpaleyeApp) (call : CaptureCall) :
    Change app call (app.call call.op).1 (app.call call.op).2 := by
  cases call with
  | start camera env =>
    have houtcome := startVideoCapture_outcome camera env app
    show Change app _ (app.startVideoCapture camera env).1 (app.startVideoCapture camera env).2
    generalize app.startVideoCapture camera env = res at houtcome ⊢
    cases houtcome with
    | stays hopens hret => exact .none (fun c h => by cases h) rfl hret
    | drops hopens hworks hp hret => exact .none (fun c h => by cases h) rfl hret
    | stashes hopens hworks => exact .started hopens.1 hopens.2.1 rfl
  | stop camera =>
    have houtcome := stopVideoCapture_outcome camera app
    show Change app _ (app.stopVideoCapture camera).1 (app.stopVideoCapture camera).2
    generalize app.stopVideoCapture camera = res at houtcome ⊢
    cases houtcome with
    | stays hcloses hret =>
      refine .none (fun c h => ?_) rfl hret
      obtain rfl := CaptureCall.stop.inj h
      exact hcloses
    | erases hcloses hp => exact .stopped hcloses rfl

theorem find_of_change {app app' : OpaleyeApp} {call : CaptureCall} {ret : Ret}
    (h : Change app call app' ret) (k : List Char) :
    app'.pipelines.find k = app.pipelines.find k ∨
    (k = file0 call.camera ∧ app.pipelines.find k = none ∧
      app'.pipelines.find k = some (some recorder)) ∨
    (k = file0 call.camera ∧ app.Closes call.camera ∧ app'.pipelines.find k = none) := by
  cases h with
  | none hcloses heq hret => exact Or.inl (by rw [heq])
  | @started camera env app' hc hk heq =>
    rw [heq]
    by_cases hkey : k = file0 camera
    · refine Or.inr (Or.inl ⟨hkey, ?_⟩)
      rw [hkey, StdMap.find_emplace_self, hk, Option.getD_none]
      exact ⟨rfl, rfl⟩
    · exact Or.inl (StdMap.find_emplace_of_ne _ _ hkey)
  | @stopped camera app' hcloses heq =>
    rw [heq]
    by_cases hkey : k = file0 camera
    · refine Or.inr (Or.inr ⟨hkey, hcloses, ?_⟩)
      rw [hkey, StdMap.find_erase_self]
    · exact Or.inl (StdMap.find_erase_of_ne _ hkey)

theorem Change.find_of_ne {app app' : OpaleyeApp} {call : CaptureCall} {ret : Ret}
    (h : Change app call app' ret) {k : List Char} (hk : k ≠ file0 call.camera) :
    app'.pipelines.find k = app.pipelines.find k := by
  rcases find_of_change h k with heq | ⟨hkey, -⟩ | ⟨hkey, -⟩
  · exact heq
  · exact absurd hkey hk
  · exact absurd hkey hk

theorem Change.ne_crashed {app app' : OpaleyeApp} {call : CaptureCall} {ret : Ret}
    (h : Change app call app' ret) : ret ≠ .crashed := by
  cases h with
  | none hcloses heq hret => exact hret.2
  | started hc hk heq => decide
  | stopped hcloses heq => decide

theorem captures_step {r r' : Run} {call : CaptureCall} (h : captures.step r call = some r') :
    r'.crashed = false ∧ ∃ ret, r'.log = r.log ++ [(call.op, ret)] ∧ Change r.app call r'.app ret := by
  have h : sys.step r call.op = some r' := h
  obtain ⟨-, happ, hlog⟩ := sys_step h
  have hch := change_call r.app call
  refine ⟨(crashed_iff h).mpr hch.ne_crashed, _, hlog, ?_⟩
  rw [happ]
  exact hch

/-! ### The table during a run -/

/-- The entry of a capture. -/
def IsCapture (app : OpaleyeApp) (key : List Char) : Prop :=
  ∃ p, app.pipelines.find key = some (some p) ∧ p.isFilesink = true

theorem isCapture_iff (app : OpaleyeApp) (key : List Char) :
    IsCapture app key ↔ (app.pipelines.find key).join.any Pipeline.isFilesink = true := by
  rw [Option.any_eq_true]
  refine exists_congr (fun p => ?_)
  rw [Option.join_eq_some_iff]

instance (app : OpaleyeApp) (key : List Char) : Decidable (IsCapture app key) :=
  decidable_of_iff _ (isCapture_iff app key).symm

theorem isCapture_congr {app app' : OpaleyeApp} {key : List Char}
    (h : app'.pipelines.find key = app.pipelines.find key) :
    IsCapture app' key ↔ IsCapture app key := by
  rw [IsCapture, IsCapture, h]

theorem OpaleyeApp.CamerasOnly.not_isCapture {app : OpaleyeApp} (h : app.CamerasOnly)
    (key : List Char) : ¬ IsCapture app key := by
  rintro ⟨p, hp, hf⟩
  obtain ⟨q, hq, hinst⟩ := h key _ hp
  obtain rfl := Option.some.inj hq
  exact absurd (hinst.isFilesink.symm.trans hf) (by decide)

/-- The entries of `init` are all there, and the others are recorders. -/
structure CaptureInv (app₀ : OpaleyeApp) (r : Run) : Prop where
  cameras : app₀.CamerasOnly
  kept : ∀ k v, app₀.pipelines.find k = some v → r.app.pipelines.find k = some v
  others : ∀ k v, r.app.pipelines.find k = some v → app₀.pipelines.find k = some v ∨
    v = some recorder ∧ ∃ c, k = file0 c
  running : r.crashed = false

variable {app₀ : OpaleyeApp} {r r' : Run}

theorem captureInv_fresh (h : app₀.CamerasOnly) : CaptureInv app₀ (fresh app₀) :=
  ⟨h, fun _ _ hk => hk, fun _ _ hk => Or.inl hk, rfl⟩

theorem CaptureInv.recorder_of_isCapture (h : CaptureInv app₀ r) {k : List Char}
    (hk : IsCapture r.app k) :
    r.app.pipelines.find k = some (some recorder) ∧ ∃ c, k = file0 c := by
  obtain ⟨p, hp, hf⟩ := hk
  rcases h.others k _ hp with h0 | ⟨hv, hc⟩
  · exact absurd ⟨p, h0, hf⟩ (h.cameras.not_isCapture k)
  · exact ⟨by rw [hp, hv], hc⟩

theorem CaptureInv.closes_iff (h : CaptureInv app₀ r) (camera : List Char) :
    r.app.Closes camera ↔ r.app.pipelines.find camera ≠ none ∧ IsCapture r.app (file0 camera) := by
  refine ⟨fun hc => ?_, fun hc => ?_⟩
  · obtain ⟨hkey, p, hp, hf, -⟩ := hc
    exact ⟨hkey, p, hp, hf⟩
  · exact ⟨hc.1, recorder, (h.recorder_of_isCapture hc.2).1, rfl, rfl⟩

theorem CaptureInv.not_camera (h : CaptureInv app₀ r) {k : List Char}
    (hk : r.app.pipelines.find k = none ∨ IsCapture r.app k) : app₀.pipelines.find k = none := by
  cases h0 : app₀.pipelines.find k with
  | none => rfl
  | some v =>
    have hkept := h.kept k v h0
    rcases hk with hnone | ⟨p, hp, hf⟩
    · exact absurd (hnone.symm.trans hkept) (by simp)
    · have hv : v = some p := Option.some.inj (hkept.symm.trans hp)
      exact absurd ⟨p, hv ▸ h0, hf⟩ (h.cameras.not_isCapture k)

/-- **The invariant survives every call.** -/
theorem CaptureInv.step (h : CaptureInv app₀ r) {call : CaptureCall}
    (hst : captures.step r call = some r') : CaptureInv app₀ r' := by
  obtain ⟨hrun, ret, -, hch⟩ := captures_step hst
  refine ⟨h.cameras, fun k v h0 => ?_, fun k v hv => ?_, hrun⟩
  · have hkept := h.kept k v h0
    rcases find_of_change hch k with heq | ⟨-, hnone, -⟩ | ⟨hkey, hcloses, -⟩
    · rw [heq]
      exact hkept
    · exact absurd (hnone.symm.trans hkept) (by simp)
    · -- a camera is no capture, so it is not what was stopped
      have hcap := ((h.closes_iff _).mp hcloses).2
      have hnone := h.not_camera (Or.inr (hkey ▸ hcap))
      exact absurd (hnone.symm.trans h0) (by simp)
  · rcases find_of_change hch k with heq | ⟨hkey, -, hnew⟩ | ⟨-, -, hgone⟩
    · exact h.others k v (heq ▸ hv)
    · exact Or.inr ⟨(Option.some.inj (hnew.symm.trans hv)).symm, call.camera, hkey⟩
    · exact absurd (hgone.symm.trans hv) (by simp)

theorem captureInv_of_run {config : Option AppConfig} {env : InitEnv} {calls : List CaptureCall}
    (hrun : captures.run (fresh ((new config).init env).1) calls = some r) :
    CaptureInv ((new config).init env).1 r := by
  have halways : captures.Always (CaptureInv ((new config).init env).1)
      (fresh ((new config).init env).1) calls := by
    apply TransSys.always_of_step
    · intro s a s' h hst
      exact h.step hst
    · exact captureInv_fresh (camerasOnly_init config env)
  exact TransSys.always_last calls halways hrun

/-! ### Whom a capture records -/

/-- The capture of `c` listens to a name under which `c` publishes and no other
pipeline does. -/
def RecordsOwn (app : OpaleyeApp) (c : List Char) : Prop :=
  ∃ p q name, app.pipelines.find (file0 c) = some (some p) ∧ p.kind = .filesink (some name) ∧
    app.pipelines.find c = some (some q) ∧ name ∈ q.interpipeSinks ∧
    ∀ k q', app.pipelines.find k = some (some q') → name ∈ q'.interpipeSinks → k = c

/-- What publishes is what `init` installed, all of it under one name. -/
theorem CaptureInv.publishes_iff (h : CaptureInv app₀ r) (k : List Char) :
    (∃ q, r.app.pipelines.find k = some (some q) ∧ "h264_ipsink_0".toList ∈ q.interpipeSinks) ↔
      app₀.pipelines.find k ≠ none := by
  refine ⟨?_, fun h0 => ?_⟩
  · rintro ⟨q, hq, hmem⟩
    rcases h.others k _ hq with h0 | ⟨hv, -⟩
    · rw [h0]
      exact Option.some_ne_none _
    · rw [Option.some.inj hv] at hmem
      cases hmem
  · obtain ⟨v, hv⟩ := Option.ne_none_iff_exists'.mp h0
    obtain ⟨q, rfl, hinst⟩ := h.cameras k v hv
    exact ⟨q, h.kept k _ hv, by rw [hinst.interpipeSinks]; exact List.mem_singleton_self _⟩

theorem CaptureInv.recordsOwn_iff (h : CaptureInv app₀ r) {c : List Char}
    (hc : app₀.pipelines.find c ≠ none) (hk : IsCapture r.app (file0 c)) :
    RecordsOwn r.app c ↔ ∀ k, app₀.pipelines.find k ≠ none → k = c := by
  have hrec := (h.recorder_of_isCapture hk).1
  refine ⟨?_, fun honly => ?_⟩
  · rintro ⟨p, q, name, hp, hkind, -, -, honly⟩ k h0
    obtain rfl := Option.some.inj (Option.some.inj (hrec.symm.trans hp))
    obtain rfl := Option.some.inj (PipelineKind.filesink.inj hkind)
    obtain ⟨q', hq', hmem⟩ := (h.publishes_iff k).mpr h0
    exact honly k q' hq' hmem
  · obtain ⟨q, hq, hmem⟩ := (h.publishes_iff c).mpr hc
    exact ⟨recorder, q, _, hrec, rfl, hq, hmem,
      fun k q' hq' hmem' => honly k ((h.publishes_iff k).mp ⟨q', hq', hmem'⟩)⟩

theorem CaptureInv.recordsOwn_start (h : CaptureInv app₀ r) {c : List Char} {env : CaptureEnv}
    (hc : app₀.pipelines.find c ≠ none)
    (hstart : (r.app.startVideoCapture c env).2 = .returned true) :
    RecordsOwn (r.app.startVideoCapture c env).1 c ↔
      ∀ k, app₀.pipelines.find k ≠ none → k = c := by
  have hst : captures.step r (.start c env)
      = some ⟨(r.app.startVideoCapture c env).1,
          r.log ++ [(.startVideoCapture c env, (r.app.startVideoCapture c env).2)]⟩ := by
    change (if r.crashed then none else some _) = _
    rw [h.running]
    rfl
  have hcap : IsCapture (r.app.startVideoCapture c env).1 (file0 c) := by
    have houtcome := startVideoCapture_outcome c env r.app
    generalize r.app.startVideoCapture c env = res at houtcome hstart ⊢
    cases houtcome with
    | stays hopens hret => exact absurd hstart hret.1
    | drops hopens hworks hp hret => exact absurd hstart hret.1
    | stashes hopens hworks =>
      exact ⟨recorder, by rw [StdMap.find_emplace_self, hopens.2.1]; rfl, rfl⟩
  exact (h.step hst).recordsOwn_iff hc hcap

theorem length_eq_one_of_nodup {l : List (List Char)} (hl : l.Nodup) {c : List Char} (hc : c ∈ l) :
    (∀ k ∈ l, k = c) ↔ l.length = 1 := by
  refine ⟨fun h => ?_, fun h k hk => ?_⟩
  · rw [List.eq_replicate_of_mem h, List.nodup_replicate] at hl
    have hpos := List.length_pos_of_mem hc
    omega
  · obtain ⟨x, rfl⟩ := List.length_eq_one_iff.mp h
    rw [List.mem_singleton.mp hk, List.mem_singleton.mp hc]

/-- **A capture records its own camera exactly when there is no other camera**,
at any time after `init` and whatever happened to other captures. -/
theorem records_own_iff (config : Option AppConfig) (env : InitEnv) (calls : List CaptureCall)
    (r : Run) (c : List Char) (captureEnv : CaptureEnv)
    (hinit : ((new config).init env).2 = .returned true)
    (hnames : (pipeNames (config.getD .makeDefault)).Nodup)
    (hc : ((new config).init env).1.pipelines.find c ≠ none)
    (hrun : captures.run (fresh ((new config).init env).1) calls = some r)
    (hstart : (r.app.startVideoCapture c captureEnv).2 = .returned true) :
    RecordsOwn (r.app.startVideoCapture c captureEnv).1 c ↔
      (config.getD .makeDefault).cameraConfigs.entries.length = 1 := by
  have hlen : (config.getD .makeDefault).cameraConfigs.entries.length
      = (pipeNames (config.getD .makeDefault)).length := by rw [pipeNames, List.length_map]
  rw [(captureInv_of_run hrun).recordsOwn_start hc hstart, hlen,
    ← length_eq_one_of_nodup hnames ((init_keys hinit c).mp hc)]
  exact forall_congr' (fun k => by rw [init_keys hinit k])

/-- Everything goes well for the cameras and their captures. -/
def fineInit : InitEnv where
  clockInit := true
  waitForSync _ := true
  nvpmodel := .exited 0
  hw := triggerEnv
  gpio := Gpio.opaleyeGpioInit
  launches _ := true
  build _ := ⟨fun _ => .ok (), true⟩

def fineCapture : CaptureEnv := ⟨.ok true, .ok true, true, true, .ok (), .ok (), true⟩

theorem records_own_default : RecordsOwn
    (((new none).init fineInit).1.startVideoCapture "cam0-pipeline".toList fineCapture).1
    "cam0-pipeline".toList :=
  (records_own_iff none fineInit [] (fresh ((new none).init fineInit).1) "cam0-pipeline".toList
    fineCapture (by decide) (by decide) (by decide) rfl (by decide)).mpr (by decide)

/-- Two cameras, as in `config_dual_imx.xml`, with the sections that
`deserialize` asks for besides. -/
def dualTree (pipe0 pipe1 : String) : Tree :=
  .node [] [("config".toList, .node []
    [leaf "video_path" "/mnt/video/opaleye/video", leaf "image_path" "/mnt/video/opaleye/image",
     leaf "log_path" "/mnt/video/opaleye/log", leaf "h264_mode" "nv",
     ("sensors".toList, .node [] [leaf "launch" "false"]),
     ("zeromq".toList, .node [] [leaf "launch" "false"]),
     ("zcm".toList, .node [] [leaf "launch" "false"]),
     ("cameras".toList, .node []
       [("camera".toList, .node [] [leaf "name" "cam0", leaf "type" "imx219",
          ("properties".toList, .node [] [leaf "sensor-id" "0"]),
          ("pipeline".toList, .node [] [leaf "name" pipe0, leaf "type" "imx219"])]),
        ("camera".toList, .node [] [leaf "name" "cam1", leaf "type" "imx219",
          ("properties".toList, .node [] [leaf "sensor-id" "1"]),
          ("pipeline".toList, .node [] [leaf "name" pipe1, leaf "type" "imx219"])])])])]

/-- With both cameras publishing under one name, a capture of the first may
record the second. -/
theorem records_own_dual : ¬ ∀ (tree : Tree) (env : InitEnv) (c : List Char)
    (captureEnv : CaptureEnv), (AppConfig.deserialize tree).isSome = true →
    ((new (AppConfig.deserialize tree)).init env).2 = .returned true →
    (pipeNames ((AppConfig.deserialize tree).getD .makeDefault)).Nodup →
    ((new (AppConfig.deserialize tree)).init env).1.pipelines.find c ≠ none →
    (((new (AppConfig.deserialize tree)).init env).1.startVideoCapture c captureEnv).2
      = .returned true →
    RecordsOwn (((new (AppConfig.deserialize tree)).init env).1.startVideoCapture c captureEnv).1
      c := by
  intro h
  have hstart : (((new (AppConfig.deserialize (dualTree "pipe0" "pipe1"))).init
      fineInit).1.startVideoCapture "pipe0".toList fineCapture).2 = .returned true := by decide
  have hc : ((new (AppConfig.deserialize (dualTree "pipe0" "pipe1"))).init
      fineInit).1.pipelines.find "pipe0".toList ≠ none := by decide
  have hother : ((new (AppConfig.deserialize (dualTree "pipe0" "pipe1"))).init
      fineInit).1.pipelines.find "pipe1".toList ≠ none := by decide
  have hinv := captureInv_fresh
    (camerasOnly_init (AppConfig.deserialize (dualTree "pipe0" "pipe1")) fineInit)
  have hown := h (dualTree "pipe0" "pipe1") fineInit "pipe0".toList fineCapture (by decide)
    (by decide) (by decide) hc hstart
  exact absurd ((hinv.recordsOwn_start hc hstart).mp hown _ hother) (by decide)

/-! ### Every capture can be stopped -/

/-- A capture stands under `c + "/file0"` for a key `c`, and
`stop_video_capture(c)` stops it. -/
def Stoppable (app : OpaleyeApp) (key : List Char) : Prop :=
  ∃ c, key = file0 c ∧ app.pipelines.find c ≠ none ∧ (app.stopVideoCapture c).2 = .returned true

def AllStoppable (app : OpaleyeApp) : Prop := ∀ key, IsCapture app key → Stoppable app key

/-- The call does not stop a capture while there is a capture of it. -/
def KeepsParents (app : OpaleyeApp) (call : CaptureCall) : Prop :=
  ∀ c, call = .stop c → ¬ (app.pipelines.find c ≠ none ∧ IsCapture app (file0 c) ∧
    IsCapture app (file0 (file0 c)))

theorem file0_ne (c : List Char) : file0 c ≠ c := by
  intro h
  have hlen := congrArg List.length h
  rw [file0, List.length_append] at hlen
  have h6 : "/file0".toList.length = 6 := rfl
  omega

theorem CaptureInv.stoppable_iff (h : CaptureInv app₀ r) {c : List Char}
    (hk : IsCapture r.app (file0 c)) :
    Stoppable r.app (file0 c) ↔ r.app.pipelines.find c ≠ none := by
  refine ⟨?_, fun hc => ⟨c, rfl, hc, ?_⟩⟩
  · rintro ⟨d, heq, hd, -⟩
    rw [file0_injective heq]
    exact hd
  · have hcloses : r.app.Closes c := (h.closes_iff c).mpr ⟨hc, hk⟩
    have houtcome := stopVideoCapture_outcome c r.app
    generalize r.app.stopVideoCapture c = res at houtcome ⊢
    cases houtcome with
    | stays hno hret => exact absurd hcloses hno
    | erases _ hp => rfl

theorem CaptureInv.allStoppable_iff (h : CaptureInv app₀ r) : AllStoppable r.app ↔
    ∀ c, IsCapture r.app (file0 c) → r.app.pipelines.find c ≠ none := by
  refine ⟨fun hall c hk => (h.stoppable_iff hk).mp (hall _ hk), fun hall key hk => ?_⟩
  obtain ⟨-, c, rfl⟩ := h.recorder_of_isCapture hk
  exact (h.stoppable_iff hk).mpr (hall c hk)

/-- **One call keeps every capture stoppable exactly when it keeps parents.** -/
theorem allStoppable_step (h : CaptureInv app₀ r) (hP : AllStoppable r.app) {call : CaptureCall}
    (hst : captures.step r call = some r') : AllStoppable r'.app ↔ KeepsParents r.app call := by
  obtain ⟨-, ret, -, hch⟩ := captures_step hst
  have h' := h.step hst
  rw [h.allStoppable_iff] at hP
  rw [h'.allStoppable_iff]
  cases hch with
  | none hcloses heq hret =>
    refine iff_of_true (fun d hd => ?_) ?_
    · rw [heq]
      exact hP d ((isCapture_congr (by rw [heq])).mp hd)
    · rintro c rfl ⟨hc, hk, -⟩
      exact hcloses c rfl ((h.closes_iff c).mpr ⟨hc, hk⟩)
  | @started camera env app' hc hk heq =>
    refine iff_of_true (fun d hd => ?_) (fun c hcall => by cases hcall)
    have hd : r.app.pipelines.find d ≠ none := by
      by_cases hdc : d = camera
      · rw [hdc]
        exact hc
      · have hne : file0 d ≠ file0 camera := fun heq => hdc (file0_injective heq)
        exact hP d ((isCapture_congr (by rw [heq, StdMap.find_emplace_of_ne _ _ hne])).mp hd)
    have hne : d ≠ file0 camera := by
      rintro rfl
      exact hd hk
    rw [heq, StdMap.find_emplace_of_ne _ _ hne]
    exact hd
  | @stopped camera app' hcloses heq =>
    have hfound := (h.closes_iff camera).mp hcloses
    have herased : r'.app.pipelines.find (file0 camera) = none := by
      rw [heq, StdMap.find_erase_self]
    refine ⟨?_, fun hkeep d hd => ?_⟩
    · rintro hall c hcall ⟨-, -, hnested⟩
      obtain rfl := CaptureCall.stop.inj hcall
      -- the inner capture is still there, and its key's parent is not
      have hstill : r'.app.pipelines.find (file0 (file0 camera))
          = r.app.pipelines.find (file0 (file0 camera)) := by
        rw [heq, StdMap.find_erase_of_ne _ (file0_ne _)]
      exact hall _ ((isCapture_congr hstill).mpr hnested) herased
    · have hne : file0 d ≠ file0 camera := by
        intro hdc
        obtain ⟨p, hp, -⟩ := hd
        rw [hdc, herased] at hp
        cases hp
      have hd' : IsCapture r.app (file0 d) :=
        (isCapture_congr (by rw [heq, StdMap.find_erase_of_ne _ hne])).mp hd
      have hparent : d ≠ file0 camera := by
        rintro rfl
        exact hkeep camera rfl ⟨hfound.1, hfound.2, hd'⟩
      rw [heq, StdMap.find_erase_of_ne _ hparent]
      exact hP d hd'

theorem allStoppable_of_cameras (h : app₀.CamerasOnly) : AllStoppable app₀ :=
  fun key hk => absurd hk (h.not_isCapture key)

/-- **Every capture can be stopped throughout a run exactly when no call stops a
capture that is itself being captured.** -/
theorem captures_stoppable_iff (config : Option AppConfig) (env : InitEnv)
    (calls : List CaptureCall) :
    captures.Always (fun r => AllStoppable r.app) (fresh ((new config).init env).1) calls ↔
      captures.Meets (fun r call => KeepsParents r.app call) (fresh ((new config).init env).1)
        calls := by
  have h0 := camerasOnly_init config env
  apply TransSys.always_iff_meets (I := CaptureInv ((new config).init env).1)
  · intro s a s' hI hP hst
    exact ⟨fun _ => hI.step hst, allStoppable_step hI hP hst⟩
  · intro s a hI _ hst
    have hcr : s.crashed = true := sys_step_none hst
    exact absurd (hI.running.symm.trans hcr) (by decide)
  · exact captureInv_fresh h0
  · exact allStoppable_of_cameras h0

/-- A camera is captured, the capture is captured, and the camera's capture is
stopped. -/
def nestedCalls : List CaptureCall :=
  [.start "cam0-pipeline".toList fineCapture, .start "cam0-pipeline/file0".toList fineCapture,
   .stop "cam0-pipeline".toList]

/-- After that the inner capture is left over. -/
theorem captures_orphaned : ¬ ∀ (config : Option AppConfig) (env : InitEnv)
    (calls : List CaptureCall),
    captures.Always (fun r => AllStoppable r.app) (fresh ((new config).init env).1) calls := by
  intro h
  have hrun : (captures.run (fresh ((new none).init fineInit).1) nestedCalls).any (fun r =>
      decide (IsCapture r.app (file0 "cam0-pipeline/file0".toList))
        && (r.app.pipelines.find "cam0-pipeline/file0".toList).isNone) = true := by
    decide
  obtain ⟨r, hr, hleft⟩ := (Option.any_eq_true _ _).mp hrun
  rw [Bool.and_eq_true, decide_eq_true_eq, Option.isNone_iff_eq_none] at hleft
  obtain ⟨c, heq, hc, -⟩ := TransSys.always_last _ (h none fineInit nestedCalls) hr _ hleft.1
  rw [← file0_injective heq] at hc
  exact hc hleft.2

/-! ### The books -/

/-- A call on `c` that returned true: a start or a stop. -/
def trueCall (c : List Char) : Op × Ret → Option Bool
  | (.startVideoCapture camera _, .returned true) => if camera = c then some true else none
  | (.stopVideoCapture camera, .returned true) => if camera = c then some false else none
  | _ => none

/-- The calls on `c` that returned true, in order; a start is `true`. -/
def trueCalls (c : List Char) (log : List (Op × Ret)) : List Bool := log.filterMap (trueCall c)

/-- The list goes `b`, `!b`, `b` and so on. -/
def Alternates : Bool → List Bool → Prop
  | _, [] => True
  | b, x :: l => x = b ∧ Alternates (!b) l

theorem alternates_concat : ∀ (l : List Bool) (b x : Bool),
    Alternates b (l ++ [x]) ↔ Alternates b l ∧ x = !(l.getLast?.getD !b) := by
  intro l
  induction l with
  | nil => intro b x; simp [Alternates]
  | cons y l ih =>
    intro b x
    rw [List.cons_append, Alternates, Alternates, ih, and_assoc]
    refine and_congr_right (fun hy => and_congr_right (fun _ => ?_))
    cases l with
    | nil => rw [hy, List.getLast?_nil, List.getLast?_singleton, Option.getD_none, Option.getD_some,
        Bool.not_not]
    | cons z l => rw [List.getLast?_cons_cons, List.getLast?_cons, Option.getD_some, Option.getD_some]

/-- The books after `init` left `app₀`. -/
structure Books (app₀ : OpaleyeApp) (r : Run) : Prop where
  /-- No entry of `init` is removed or replaced. -/
  kept : ∀ k v, app₀.pipelines.find k = some v → r.app.pipelines.find k = some v
  /-- The calls that return true alternate, beginning with a start. -/
  alternates : ∀ c, Alternates true (trueCalls c r.log)
  /-- A capture is there exactly when the last of them was a start. -/
  present : ∀ c, IsCapture r.app (file0 c) ↔ (trueCalls c r.log).getLast? = some true
  /-- A call that does not return true leaves the table as it is. -/
  unchanged : ∀ call : CaptureCall, (r.app.call call.op).2 ≠ .returned true →
    (r.app.call call.op).1.pipelines = r.app.pipelines

theorem trueCalls_concat (c : List Char) (log : List (Op × Ret)) (x : Op × Ret) :
    trueCalls c (log ++ [x]) = trueCalls c log ++ (trueCall c x).toList := by
  rw [trueCalls, List.filterMap_append]
  rfl

theorem trueCall_of_isNo (c : List Char) (op : Op) {ret : Ret} (h : ret.IsNo) :
    trueCall c (op, ret) = none := by
  rw [trueCall]
  · intro camera env heq
    exact h.1 (Prod.mk.inj heq).2
  · intro camera heq
    exact h.1 (Prod.mk.inj heq).2

theorem trueCall_of_ne {c : List Char} {call : CaptureCall} (h : call.camera ≠ c) (ret : Ret) :
    trueCall c (call.op, ret) = none := by
  cases call with
  | start camera env =>
    cases ret with
    | returned b =>
      cases b with
      | true => exact if_neg h
      | false => rfl
    | _ => rfl
  | stop camera =>
    cases ret with
    | returned b =>
      cases b with
      | true => exact if_neg h
      | false => rfl
    | _ => rfl

theorem unchanged_call (app : OpaleyeApp) (call : CaptureCall)
    (h : (app.call call.op).2 ≠ .returned true) :
    (app.call call.op).1.pipelines = app.pipelines := by
  have hch := change_call app call
  generalize hres : app.call call.op = res at hch h ⊢
  obtain ⟨app', ret⟩ := res
  cases hch with
  | none hcloses heq hret => exact heq
  | started hc hk heq => exact absurd rfl h
  | stopped hcloses heq => exact absurd rfl h

theorem Books.turn {c : List Char} (h : Books app₀ r) (b : Bool)
    (hnow : IsCapture r.app (file0 c) ↔ b = false) :
    Alternates true (trueCalls c r.log ++ [b]) := by
  rw [alternates_concat]
  refine ⟨h.alternates c, ?_⟩
  have hp := (h.present c).symm.trans hnow
  cases hlast : (trueCalls c r.log).getLast? with
  | none =>
    rw [hlast] at hp
    cases b with
    | true => rfl
    | false => exact absurd (hp.mpr rfl) (by simp)
  | some x =>
    rw [hlast, Option.some.injEq] at hp
    cases b with
    | true =>
      cases x with
      | true => exact absurd (hp.mp rfl) (by decide)
      | false => rfl
    | false => rw [hp.mpr rfl]; rfl

/-- **The books are right after every call.** -/
theorem Books.step (h : Books app₀ r) (hI : CaptureInv app₀ r) {call : CaptureCall}
    (hst : captures.step r call = some r') : Books app₀ r' := by
  obtain ⟨-, ret, hlog, hch⟩ := captures_step hst
  have hboth : ∀ c, Alternates true (trueCalls c r'.log) ∧
      (IsCapture r'.app (file0 c) ↔ (trueCalls c r'.log).getLast? = some true) := by
    intro c
    rw [hlog, trueCalls_concat]
    by_cases hc : call.camera = c
    · subst hc
      cases hch with
      | none hcloses heq hret =>
        rw [trueCall_of_isNo _ _ hret, Option.toList_none, List.append_nil]
        exact ⟨h.alternates _, (isCapture_congr (by rw [heq])).trans (h.present _)⟩
      | @started camera env app' hkey hk heq =>
        have hno : ¬ IsCapture r.app (file0 camera) := by
          rintro ⟨p, hp, -⟩
          exact absurd (hk.symm.trans hp) (by simp)
        have hyes : IsCapture r'.app (file0 camera) :=
          ⟨recorder, by rw [heq, StdMap.find_emplace_self, hk]; rfl, rfl⟩
        have htrue : trueCall camera (CaptureCall.op (.start camera env), .returned true)
            = some true := if_pos rfl
        rw [CaptureCall.camera, htrue, Option.toList_some, List.getLast?_concat]
        exact ⟨h.turn true (iff_of_false hno (by decide)), iff_of_true hyes rfl⟩
      | @stopped camera app' hcloses heq =>
        have hyes := ((hI.closes_iff camera).mp hcloses).2
        have hno : ¬ IsCapture r'.app (file0 camera) := by
          rintro ⟨p, hp, -⟩
          rw [heq, StdMap.find_erase_self] at hp
          cases hp
        have htrue : trueCall camera (CaptureCall.op (.stop camera), .returned true)
            = some false := if_pos rfl
        rw [CaptureCall.camera, htrue, Option.toList_some, List.getLast?_concat]
        exact ⟨h.turn false (iff_of_true hyes rfl), iff_of_false hno (by decide)⟩
    · have hne : file0 c ≠ file0 call.camera := fun heq => hc (file0_injective heq).symm
      rw [trueCall_of_ne hc, Option.toList_none, List.append_nil]
      exact ⟨h.alternates c, (isCapture_congr (hch.find_of_ne hne)).trans (h.present c)⟩
  exact ⟨(hI.step hst).kept, fun c => (hboth c).1, fun c => (hboth c).2, unchanged_call r'.app⟩

theorem books_fresh (h : app₀.CamerasOnly) : Books app₀ (fresh app₀) := by
  refine ⟨fun _ _ hk => hk, fun c => trivial, fun c => iff_of_false ?_ (by simp [fresh, trueCalls]),
    unchanged_call app₀⟩
  exact h.not_isCapture (file0 c)

/-- **The books are right throughout every run of calls on captures.** -/
theorem capture_bookkeeping (config : Option AppConfig) (env : InitEnv) (calls : List CaptureCall) :
    captures.Always (Books ((new config).init env).1) (fresh ((new config).init env).1) calls := by
  have h0 := camerasOnly_init config env
  have hboth : captures.Always (fun r => CaptureInv ((new config).init env).1 r ∧
      Books ((new config).init env).1 r) (fresh ((new config).init env).1) calls := by
    apply TransSys.always_of_step
    · intro s a s' h hst
      exact ⟨h.1.step hst, h.2.step h.1 hst⟩
    · exact ⟨captureInv_fresh h0, books_fresh h0⟩
  exact TransSys.always_mono (fun s h => h.2) calls hboth

end Opaleye.App
