import Opaleye.App.HwTrigger
import Opaleye.App.Pipeline
import Opaleye.Lib.TransSys

/-!
# The application

`Opaleye_app`: the table of pipelines and the calls that read or change it.
Cameras and captures share the one table: `init` stashes the pipeline of each
camera under the name the configuration gives it, and a capture of `c` stands
under `c + "/file0"`.  An entry is a `shared_ptr`, so it may be null.

Every pipeline has one owner, an entry of the table or a local of the call that
makes it, and `dropped` lists the pipelines whose owner went away, as they were
then.  A call ends by returning, by throwing, or by dereferencing a null pointer,
which ends the process; so does destroying a pipeline whose thread is joinable,
but what becomes of the call then is not followed here.

A run is a sequence of calls, one at a time.  It keeps a log of them.
-/

namespace Opaleye.App

open Text Opaleye.Gpio

/-- What the calls work on. -/
structure OpaleyeApp where
  config : Option AppConfig
  pipelines : StdMap (List Char) (Option Pipeline)
  dropped : List Pipeline

/-- How a call ends. -/
inductive Ret
  | returned (b : Bool)
  | text (s : String)
  | fault (msg : String)
  | domainError (what : String)
  | threw
  | crashed
  deriving DecidableEq, Repr

def Ret.ofFailure : Failure → Ret
  | .refused => .returned false
  | .threw => .threw

/-- The call came to nothing. -/
def Ret.IsNo (ret : Ret) : Prop := ret ≠ .returned true ∧ ret ≠ .crashed

instance (ret : Ret) : Decidable ret.IsNo := inferInstanceAs (Decidable (_ ∧ _))

theorem Ret.isNo_ofFailure (f : Failure) : (Ret.ofFailure f).IsNo := by
  cases f <;> decide

namespace OpaleyeApp

/-- `Opaleye_app` before `init`. -/
def new (config : Option AppConfig) : OpaleyeApp := ⟨config, StdMap.empty, []⟩

/-- The last owner of a pipeline goes away. -/
def drop (app : OpaleyeApp) (p : Pipeline) : OpaleyeApp := { app with dropped := app.dropped ++ [p] }

/-- `m_pipelines.emplace(key, pipeline)`, after which the caller lets its own
pointer go. -/
def stash (app : OpaleyeApp) (key : List Char) (p : Pipeline) : OpaleyeApp :=
  if (app.pipelines.find key).isSome then app.drop p
  else { app with pipelines := app.pipelines.emplace key (some p) }

/-! ### `Opaleye_app::init` -/

/-- What `system` made of a command. -/
inductive SystemRet
  | failed
  | signaled
  | exited (status : Nat)
  deriving DecidableEq, Repr

/-- What `init` finds around it: the clock and its synchronisation, the command
that sets the power mode, the trigger module, and for each camera whether the
thread of its pipeline starts and how its builder's calls end. -/
structure InitEnv where
  clockInit : Bool
  waitForSync : Nat → Bool
  nvpmodel : SystemRet
  hw : HwEnv
  gpio : GpioState
  launches : List Char → Bool
  build : List Char → BuildEnv

/-- The master clock is there; a `ptp` clock has synchronised in one of sixty
tries. -/
def initClock (env : InitEnv) (config : AppConfig) : Bool :=
  if config.masterClock = "system".toList then env.clockInit
  else if config.masterClock = "ptp".toList then
    env.clockInit && (List.range 60).any env.waitForSync
  else false

def initNvpmodel (env : InitEnv) (config : AppConfig) : Bool :=
  if hasChild config.mTree (path "config.nvpmodel.mode") then
    match env.nvpmodel with
    | .failed => false
    | .signaled => false
    | .exited status => status = 0
  else true

/-- All of `init` before the loop over the cameras. -/
def initBefore (env : InitEnv) (config : AppConfig) : Bool :=
  initClock env config && initNvpmodel env config && (initHwTrigger env.hw config env.gpio).2

/-- The loop over the cameras. -/
def initCameras (env : InitEnv) : List (List Char × CameraConfig) → OpaleyeApp → OpaleyeApp × Ret
  | [], app => (app, .returned true)
  | cam :: cams, app =>
    match Pipeline.newGstreamer.init (env.launches cam.1) with
    | .error f => (app.drop .newGstreamer, .ofFailure f)
    | .ok pipeline =>
      match makePipeline (env.build cam.1) cam.2 with
      | .error f => (app.drop pipeline, .ofFailure f)
      | .ok parts =>
        initCameras env cams (app.stash cam.2.pipeline.name { pipeline with kind := .gstreamer parts })

/-- `Opaleye_app::init` -/
def init (env : InitEnv) (app : OpaleyeApp) : OpaleyeApp × Ret :=
  if app.pipelines.entries ≠ [] then (app, .returned false)
  else
    let config := app.config.getD .makeDefault
    let app := { app with config := some config }
    if initBefore env config = false then (app, .returned false)
    else initCameras env config.cameraConfigs.entries app

/-! ### Captures -/

/-- The key of a capture. -/
def file0 (camera : List Char) : List Char := camera ++ "/file0".toList

/-- What `start_video_capture` finds around it: the three questions about the
output directory, of which the first two may throw, whether the thread starts,
how the two elements are made, and whether the pipeline starts. -/
structure CaptureEnv where
  dirExists : Except Failure Bool
  isDirectory : Except Failure Bool
  createDirectories : Bool
  launches : Bool
  interpipeSrc : Except Failure Unit
  mux : Except Failure Unit
  starts : Bool

/-- The output directory is there, or it is made now. -/
def outVideoDir (env : CaptureEnv) : Except Failure Unit :=
  match env.dirExists with
  | .error f => .error f
  | .ok true =>
    match env.isDirectory with
    | .error f => .error f
    | .ok isDir => if isDir = false then .error .refused else .ok ()
  | .ok false => if env.createDirectories = false then .error .refused else .ok ()

/-- `gst_filesink_pipeline::init`: the pipeline as it is left, and how it ended. -/
def initFilesink (env : CaptureEnv) (p : Pipeline) : Pipeline × Except Failure Unit :=
  match p.init env.launches with
  | .error f => (p, .error f)
  | .ok p =>
    match env.interpipeSrc with
    | .error f => (p, .error f)
    | .ok _ => (p, env.mux)

/-- `Opaleye_app::start_video_capture` -/
def startVideoCapture (camera : List Char) (env : CaptureEnv) (app : OpaleyeApp) : OpaleyeApp × Ret :=
  if app.pipelines.find camera = none then (app, .returned false)
  else if app.pipelines.find (file0 camera) ≠ none then (app, .returned false)
  else
    match outVideoDir env with
    | .error f => (app, .ofFailure f)
    | .ok _ =>
      match initFilesink env .newFilesink with
      | (mkvPipe, .error f) => (app.drop mkvPipe, .ofFailure f)
      | (mkvPipe, .ok _) =>
        let mkvPipe := mkvPipe.setListenTo (some "h264_ipsink_0".toList)
        if env.starts = false then (app.drop mkvPipe, .returned false)
        else (app.stash (file0 camera) mkvPipe, .returned true)

/-- `Opaleye_app::stop_video_capture`, when the end-of-stream message arrives. -/
def stopVideoCapture (camera : List Char) (app : OpaleyeApp) : OpaleyeApp × Ret :=
  if app.pipelines.find camera = none then (app, .returned false)
  else
    match app.pipelines.find (file0 camera) with
    | none => (app, .returned false)
    | some none => (app, .returned false)
    | some (some mkvPipe) =>
      if mkvPipe.isFilesink = false then (app, .fault "Could not downcast element")
      else
        match (mkvPipe.setListenTo none).stop with
        | .error f => (app, .ofFailure f)
        | .ok mkvPipe =>
          ({ app with pipelines := app.pipelines.erase (file0 camera) }.drop mkvPipe, .returned true)

/-! ### Streams -/

/-- `start_rtp_stream` and `stop_rtp_stream` up to the call on the sink, which
returns `ret`. -/
def rtpStream (pipeName : List Char) (port : Int) (ret : Bool) (app : OpaleyeApp) : Ret :=
  if port < 0 ∨ port > 65535 then .domainError "port must be in [0, 65535]"
  else
    match app.pipelines.find pipeName with
    | none => .domainError "pipeline does not exist"
    | some none => .crashed
    | some (some p) =>
      match p.getElement "udp_0".toList with
      | some .rtpsink => .returned ret
      | _ => .fault "Could not downcast element"

/-- `Opaleye_app::start_rtp_stream` -/
def startRtpStream (pipeName : List Char) (port : Int) (addUdpClient : Bool) (app : OpaleyeApp) :
    OpaleyeApp × Ret := (app, rtpStream pipeName port addUdpClient app)

/-- `Opaleye_app::stop_rtp_stream` -/
def stopRtpStream (pipeName : List Char) (port : Int) (removeUdpClient : Bool) (app : OpaleyeApp) :
    OpaleyeApp × Ret := (app, rtpStream pipeName port removeUdpClient app)

/-! ### All pipelines -/

/-- `ret = ret && v.second->start()` for each entry: once one has not started,
the others are not touched. -/
def startEntries (starts : List Char → Bool) : List (List Char × Option Pipeline) → Bool → Ret
  | [], ret => .returned ret
  | e :: es, ret =>
    if ret = false then startEntries starts es false
    else
      match e.2 with
      | none => .crashed
      | some _ => startEntries starts es (starts e.1)

/-- `Opaleye_app::start` -/
def start (starts : List Char → Bool) (app : OpaleyeApp) : OpaleyeApp × Ret :=
  (app, startEntries starts app.pipelines.entries true)

/-- `v.second->stop()` and `v.second.reset()` for each entry.  `GST_app_base::stop`
returns true, so `ret` stays true and no entry is passed over. -/
def stopEntries : List (List Char × Option Pipeline) → OpaleyeApp → OpaleyeApp × Ret
  | [], app => (app, .returned true)
  | e :: es, app =>
    match e.2 with
    | none => (app, .crashed)
    | some p =>
      match p.stop with
      | .error f => (app, .ofFailure f)
      | .ok p => stopEntries es ({ app with pipelines := app.pipelines.assign e.1 none }.drop p)

/-- `Opaleye_app::stop` -/
def stop (app : OpaleyeApp) : OpaleyeApp × Ret := stopEntries app.pipelines.entries app

/-- `operator[]`: a null entry is made where there was none. -/
def entryAt (key : List Char) (app : OpaleyeApp) : OpaleyeApp :=
  { app with pipelines := app.pipelines.emplace key none }

/-- `Gst::StateChangeReturn` and `Gst::State`, as `get_state` gives them. -/
inductive StateChange
  | failure | success | async | noPreroll | unknown
  deriving DecidableEq, Repr

inductive GstState
  | voidPending | null | ready | paused | playing | unknown
  deriving DecidableEq, Repr

def StateChange.text : StateChange → String
  | .failure => "CHANGE_FAILURE"
  | .success => "CHANGE_SUCCESS"
  | .async => "CHANGE_ASYNC"
  | .noPreroll => "CHANGE_NO_PREROLL"
  | .unknown => "CHANGE_UNKNOWN"

def GstState.text : GstState → String
  | .voidPending => "VOID_PENDING"
  | .null => "NULL"
  | .ready => "READY"
  | .paused => "PAUSED"
  | .playing => "PLAYING"
  | .unknown => "UNKNOWN"

/-- `Opaleye_app::get_pipeline_status` -/
def getPipelineStatus (state : GstState) (change : StateChange) (app : OpaleyeApp) :
    OpaleyeApp × Ret :=
  let app := app.entryAt "pipe0".toList
  match app.pipelines.find "pipe0".toList with
  | some (some _) => (app, .text (state.text ++ "-" ++ change.text))
  | _ => (app, .crashed)

/-- `Opaleye_app::get_pipeline_graph` -/
def getPipelineGraph (app : OpaleyeApp) : OpaleyeApp × Ret :=
  (app, if app.pipelines.entries.any (fun e => e.2.isNone) then .crashed else .text "")

/-! ### Runs -/

/-- The calls, with what each finds around it. -/
inductive Op
  | init (env : InitEnv)
  | start (starts : List Char → Bool)
  | stop
  | startVideoCapture (camera : List Char) (env : CaptureEnv)
  | stopVideoCapture (camera : List Char)
  | startRtpStream (pipeName ipAddr : List Char) (port : Int) (addUdpClient : Bool)
  | stopRtpStream (pipeName ipAddr : List Char) (port : Int) (removeUdpClient : Bool)
  | getPipelineStatus (state : GstState) (change : StateChange)
  | getPipelineGraph

def call (app : OpaleyeApp) : Op → OpaleyeApp × Ret
  | .init env => app.init env
  | .start starts => app.start starts
  | .stop => app.stop
  | .startVideoCapture camera env => app.startVideoCapture camera env
  | .stopVideoCapture camera => app.stopVideoCapture camera
  | .startRtpStream pipeName _ port ret => app.startRtpStream pipeName port ret
  | .stopRtpStream pipeName _ port ret => app.stopRtpStream pipeName port ret
  | .getPipelineStatus state change => app.getPipelineStatus state change
  | .getPipelineGraph => app.getPipelineGraph

end OpaleyeApp

open OpaleyeApp

/-- Calls one after another, with what each returned. -/
structure Run where
  app : OpaleyeApp
  log : List (Op × Ret)

/-- A null pointer was dereferenced. -/
def Run.crashed (r : Run) : Bool := r.log.any (fun c => c.2 = .crashed)

/-- Nothing is called any more once the process is gone. -/
def sys : TransSys Run Op where
  init r := r.log = []
  step r op :=
    if r.crashed then none else some ⟨(r.app.call op).1, r.log ++ [(op, (r.app.call op).2)]⟩

/-- The calls on captures. -/
inductive CaptureCall
  | start (camera : List Char) (env : CaptureEnv)
  | stop (camera : List Char)

def CaptureCall.op : CaptureCall → Op
  | .start camera env => .startVideoCapture camera env
  | .stop camera => .stopVideoCapture camera

def CaptureCall.camera : CaptureCall → List Char
  | .start camera _ => camera
  | .stop camera => camera

/-- Runs of calls on captures alone. -/
def captures : TransSys Run CaptureCall := sys.comap CaptureCall.op

/-- A run that has not started. -/
def fresh (app : OpaleyeApp) : Run := ⟨app, []⟩

theorem sys_step {r r' : Run} {op : Op} (h : sys.step r op = some r') :
    r.crashed = false ∧ r'.app = (r.app.call op).1 ∧ r'.log = r.log ++ [(op, (r.app.call op).2)] := by
  change (if r.crashed then none else some _) = some r' at h
  split at h
  · cases h
  · next hcr =>
    obtain rfl := Option.some.inj h
    exact ⟨by simpa using hcr, rfl, rfl⟩

theorem sys_step_none {r : Run} {op : Op} (h : sys.step r op = none) : r.crashed = true := by
  change (if r.crashed then none else some _) = none at h
  split at h
  · next hcr => exact hcr
  · cases h

theorem crashed_iff {r r' : Run} {op : Op} (h : sys.step r op = some r') :
    r'.crashed = false ↔ (r.app.call op).2 ≠ .crashed := by
  obtain ⟨hrun, -, hlog⟩ := sys_step h
  rw [Run.crashed] at hrun ⊢
  rw [hlog, List.any_append, hrun, Bool.false_or, List.any_cons, List.any_nil, Bool.or_false]
  simp

/-! ### What the calls do -/

namespace OpaleyeApp

@[simp] theorem drop_pipelines (app : OpaleyeApp) (p : Pipeline) :
    (app.drop p).pipelines = app.pipelines := rfl

@[simp] theorem drop_dropped (app : OpaleyeApp) (p : Pipeline) :
    (app.drop p).dropped = app.dropped ++ [p] := rfl

theorem file0_injective {c d : List Char} (h : file0 c = file0 d) : c = d :=
  List.append_cancel_right h

/-- A pipeline as `start_video_capture` stashes it. -/
def recorder : Pipeline := ⟨.filesink (some "h264_ipsink_0".toList), true⟩

/-- The thread is launched first, so a failure after that leaves it joinable. -/
theorem initFilesink_eq (env : CaptureEnv) : ∃ res,
    initFilesink env .newFilesink = (⟨.filesink none, env.launches⟩, res) ∧
      (res = .ok () ↔ env.launches = true ∧ env.interpipeSrc = .ok () ∧ env.mux = .ok ()) := by
  rw [initFilesink, Pipeline.init]
  cases hl : env.launches with
  | false => exact ⟨_, rfl, by simp⟩
  | true =>
    cases hsrc : env.interpipeSrc with
    | error f => exact ⟨_, rfl, by simp⟩
    | ok u => exact ⟨_, rfl, by simp⟩

/-- The call gets as far as making a pipeline. -/
def Opens (app : OpaleyeApp) (camera : List Char) (env : CaptureEnv) : Prop :=
  app.pipelines.find camera ≠ none ∧ app.pipelines.find (file0 camera) = none ∧
    outVideoDir env = .ok ()

/-- The pipeline is made and starts. -/
def CaptureEnv.Works (env : CaptureEnv) : Prop :=
  env.launches = true ∧ env.interpipeSrc = .ok () ∧ env.mux = .ok () ∧ env.starts = true

/-- What `start_video_capture` can do. -/
inductive StartOutcome (app : OpaleyeApp) (camera : List Char) (env : CaptureEnv) :
    OpaleyeApp × Ret → Prop
  | stays {ret : Ret} (hopens : ¬ app.Opens camera env) (hret : ret.IsNo) :
      StartOutcome app camera env (app, ret)
  | drops {p : Pipeline} {ret : Ret} (hopens : app.Opens camera env) (hworks : ¬ env.Works)
      (hp : p.joinable = env.launches) (hret : ret.IsNo) :
      StartOutcome app camera env (app.drop p, ret)
  | stashes (hopens : app.Opens camera env) (hworks : env.Works) :
      StartOutcome app camera env
        ({ app with pipelines := app.pipelines.emplace (file0 camera) (some recorder) },
          .returned true)

theorem startVideoCapture_outcome (camera : List Char) (env : CaptureEnv) (app : OpaleyeApp) :
    StartOutcome app camera env (app.startVideoCapture camera env) := by
  rw [startVideoCapture]
  split
  · next hc => exact .stays (fun h => h.1 hc) (by decide)
  · next hc =>
    split
    · next hk => exact .stays (fun h => hk h.2.1) (by decide)
    · next hk =>
      have hk := not_not.mp hk
      cases hdir : outVideoDir env with
      | error f =>
        refine .stays (fun h => ?_) (Ret.isNo_ofFailure f)
        rw [h.2.2] at hdir
        cases hdir
      | ok u =>
        have hopens : app.Opens camera env := ⟨hc, hk, hdir⟩
        obtain ⟨res, hinit, hres⟩ := initFilesink_eq env
        dsimp only
        rw [hinit]
        cases res with
        | error f =>
          refine .drops hopens (fun h => ?_) rfl (Ret.isNo_ofFailure f)
          exact absurd (hres.mpr ⟨h.1, h.2.1, h.2.2.1⟩) (by simp)
        | ok u =>
          obtain ⟨hl, hsrc, hmux⟩ := hres.mp rfl
          dsimp only
          split
          · next hs =>
            exact .drops hopens (fun h => absurd (hs.symm.trans h.2.2.2) (by decide)) rfl (by decide)
          · next hs =>
            have hs : env.starts = true := by simpa using hs
            rw [stash, hk, hl]
            exact .stashes hopens ⟨hl, hsrc, hmux, hs⟩

/-- The call finds a capture it can stop. -/
def Closes (app : OpaleyeApp) (camera : List Char) : Prop :=
  app.pipelines.find camera ≠ none ∧ ∃ p, app.pipelines.find (file0 camera) = some (some p) ∧
    p.isFilesink = true ∧ p.joinable = true

/-- What `stop_video_capture` can do. -/
inductive StopOutcome (app : OpaleyeApp) (camera : List Char) : OpaleyeApp × Ret → Prop
  | stays {ret : Ret} (hcloses : ¬ app.Closes camera) (hret : ret.IsNo) :
      StopOutcome app camera (app, ret)
  | erases {p : Pipeline} (hcloses : app.Closes camera) (hp : p.joinable = false) :
      StopOutcome app camera
        ({ app with pipelines := app.pipelines.erase (file0 camera) }.drop p, .returned true)

theorem stopVideoCapture_outcome (camera : List Char) (app : OpaleyeApp) :
    StopOutcome app camera (app.stopVideoCapture camera) := by
  rw [stopVideoCapture]
  split
  · next hc => exact .stays (fun h => h.1 hc) (by decide)
  · next hc =>
    cases hk : app.pipelines.find (file0 camera) with
    | none =>
      refine .stays ?_ (by decide)
      rintro ⟨-, p, hp, -⟩
      exact absurd (hk.symm.trans hp) (by simp)
    | some v =>
      cases v with
      | none =>
        refine .stays ?_ (by decide)
        rintro ⟨-, p, hp, -⟩
        exact absurd (hk.symm.trans hp) (by simp)
      | some q =>
        have hq : ∀ p, app.pipelines.find (file0 camera) = some (some p) → p = q := by
          intro p hp
          exact Option.some.inj (Option.some.inj (hp.symm.trans hk))
        dsimp only
        split
        · next hf =>
          refine .stays ?_ (by decide)
          rintro ⟨-, p, hp, hfile, -⟩
          rw [hq p hp, hf] at hfile
          cases hfile
        · next hf =>
          have hf : q.isFilesink = true := by simpa using hf
          have hlisten : (q.setListenTo none).joinable = q.joinable := by
            rw [Pipeline.setListenTo]
            split <;> rfl
          rw [Pipeline.stop, hlisten]
          cases hj : q.joinable with
          | true => exact .erases ⟨hc, q, hk, hf, hj⟩ rfl
          | false =>
            refine .stays ?_ (by decide)
            rintro ⟨-, p, hp, -, hjoin⟩
            rw [hq p hp, hj] at hjoin
            cases hjoin

/-! ### What `init` installs -/

theorem find_stash (app : OpaleyeApp) (key : List Char) (p : Pipeline) (k : List Char) :
    (app.stash key p).pipelines.find k
      = if k = key then some ((app.pipelines.find key).getD (some p)) else app.pipelines.find k := by
  rw [stash]
  split
  · next hs =>
    obtain ⟨v, hv⟩ := Option.isSome_iff_exists.mp hs
    by_cases hk : k = key
    · rw [if_pos hk, hk, drop_pipelines, hv, Option.getD_some]
    · rw [if_neg hk, drop_pipelines]
  · by_cases hk : k = key
    · rw [if_pos hk, hk]
      exact StdMap.find_emplace_self _ _ _
    · rw [if_neg hk]
      exact StdMap.find_emplace_of_ne _ _ hk

/-- A pipeline as `init` stashes it. -/
structure Installed (p : Pipeline) : Prop where
  isFilesink : p.isFilesink = false
  joinable : p.joinable = true
  interpipeSinks : p.interpipeSinks = ["h264_ipsink_0".toList]

/-- Every entry is one of `init`. -/
def CamerasOnly (app : OpaleyeApp) : Prop :=
  ∀ k v, app.pipelines.find k = some v → ∃ p, v = some p ∧ Installed p

theorem CamerasOnly.stash {app : OpaleyeApp} (h : app.CamerasOnly) {p : Pipeline}
    (hp : Installed p) (key : List Char) : (app.stash key p).CamerasOnly := by
  intro k v hv
  rw [find_stash] at hv
  split at hv
  · cases hf : app.pipelines.find key with
    | none =>
      rw [hf, Option.getD_none] at hv
      exact ⟨p, (Option.some.inj hv).symm, hp⟩
    | some w =>
      rw [hf, Option.getD_some] at hv
      exact h key v (hf.trans hv)
  · exact h k v hv

theorem initCameras_cons (env : InitEnv) (cam : List Char × CameraConfig)
    (cams : List (List Char × CameraConfig)) (app : OpaleyeApp) :
    (∃ f, initCameras env (cam :: cams) app = (app.drop .newGstreamer, Ret.ofFailure f) ∧
      env.launches cam.1 = false) ∨
    (∃ p f, initCameras env (cam :: cams) app = (app.drop p, Ret.ofFailure f) ∧
      p.joinable = true ∧ env.launches cam.1 = true ∧
        makePipeline (env.build cam.1) cam.2 = .error f) ∨
    (∃ p parts, initCameras env (cam :: cams) app
        = initCameras env cams (app.stash cam.2.pipeline.name p) ∧
      Installed p ∧ env.launches cam.1 = true ∧
        makePipeline (env.build cam.1) cam.2 = .ok parts) := by
  rw [initCameras, Pipeline.init]
  cases hl : env.launches cam.1 with
  | false => exact Or.inl ⟨.threw, rfl, rfl⟩
  | true =>
    cases hm : makePipeline (env.build cam.1) cam.2 with
    | error f => exact Or.inr (Or.inl ⟨_, f, rfl, rfl, rfl, rfl⟩)
    | ok parts =>
      exact Or.inr (Or.inr ⟨_, parts, rfl, ⟨rfl, rfl, interpipeSinks_makePipeline hm⟩, rfl, rfl⟩)

theorem CamerasOnly.initCameras (env : InitEnv) : ∀ (cams : List (List Char × CameraConfig))
    {app : OpaleyeApp}, app.CamerasOnly → (initCameras env cams app).1.CamerasOnly := by
  intro cams
  induction cams with
  | nil => intro app h; exact h
  | cons cam cams ih =>
    intro app h
    rcases initCameras_cons env cam cams app with ⟨f, heq, -⟩ | ⟨p, f, heq, -⟩ | ⟨p, _, heq, hp, -⟩
    · rw [heq]; exact h
    · rw [heq]; exact h
    · rw [heq]; exact ih (h.stash hp _)

theorem camerasOnly_new (config : Option AppConfig) : (new config).CamerasOnly := by
  intro k v hv
  cases hv

/-- **`init` leaves the table as it is, or it starts from an empty one.** -/
theorem init_cases (env : InitEnv) (app : OpaleyeApp) :
    (¬ (app.pipelines.entries = [] ∧ initBefore env (app.config.getD .makeDefault) = true) ∧
      ∃ config, app.init env = ({ app with config := config }, .returned false)) ∨
    (app.pipelines.entries = [] ∧ initBefore env (app.config.getD .makeDefault) = true ∧
      app.init env = initCameras env (app.config.getD .makeDefault).cameraConfigs.entries
        { app with config := some (app.config.getD .makeDefault) }) := by
  rw [init]
  split
  · next he => exact Or.inl ⟨fun h => he h.1, app.config, rfl⟩
  · next he =>
    dsimp only
    split
    · next hb => exact Or.inl ⟨fun h => absurd (hb.symm.trans h.2) (by decide), _, rfl⟩
    · next hb => exact Or.inr ⟨not_not.mp he, by simpa using hb, rfl⟩

theorem camerasOnly_of_nil {app : OpaleyeApp} (h : app.pipelines.entries = [])
    (config : Option AppConfig) : { app with config := config }.CamerasOnly := by
  intro k v hv
  rw [StdMap.find_eq_some_iff, h] at hv
  cases hv

/-- **After `init`, whether it succeeded or not, the table has cameras only.** -/
theorem camerasOnly_init (config : Option AppConfig) (env : InitEnv) :
    ((new config).init env).1.CamerasOnly := by
  rcases init_cases env (new config) with ⟨-, config', heq⟩ | ⟨hnil, -, heq⟩
  · rw [heq]
    exact camerasOnly_of_nil rfl config'
  · rw [heq]
    exact (camerasOnly_of_nil hnil _).initCameras env _

/-- The pipeline names of a configuration, camera by camera. -/
def pipeNames (config : AppConfig) : List (List Char) :=
  config.cameraConfigs.entries.map (fun cam => cam.2.pipeline.name)

theorem initCameras_keys (env : InitEnv) : ∀ (cams : List (List Char × CameraConfig))
    {app : OpaleyeApp}, (initCameras env cams app).2 = .returned true → ∀ k,
    (initCameras env cams app).1.pipelines.find k ≠ none ↔
      app.pipelines.find k ≠ none ∨ k ∈ cams.map (fun cam => cam.2.pipeline.name) := by
  intro cams
  induction cams with
  | nil => intro app _ k; simp [initCameras]
  | cons cam cams ih =>
    intro app hret k
    rcases initCameras_cons env cam cams app with ⟨f, heq, -⟩ | ⟨p, f, heq, -⟩ | ⟨p, _, heq, hp, -⟩
    · rw [heq] at hret
      exact absurd hret (Ret.isNo_ofFailure f).1
    · rw [heq] at hret
      exact absurd hret (Ret.isNo_ofFailure f).1
    · rw [heq] at hret ⊢
      rw [ih hret k, find_stash, List.map_cons, List.mem_cons]
      by_cases hk : k = cam.2.pipeline.name
      · simp [hk]
      · simp [hk]

/-- **A successful `init` installs a pipeline under each name of the
configuration**, and nothing else. -/
theorem init_keys {config : Option AppConfig} {env : InitEnv}
    (h : ((new config).init env).2 = .returned true) (k : List Char) :
    ((new config).init env).1.pipelines.find k ≠ none ↔ k ∈ pipeNames (config.getD .makeDefault) := by
  rcases init_cases env (new config) with ⟨-, config', heq⟩ | ⟨-, -, heq⟩
  · rw [heq] at h
    cases h
  · rw [heq] at h ⊢
    rw [initCameras_keys env _ h k]
    simp [pipeNames, new]

end OpaleyeApp

end Opaleye.App
