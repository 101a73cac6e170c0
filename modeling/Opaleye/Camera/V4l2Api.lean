import Opaleye.Camera.ControlTables
import Opaleye.Camera.PipeInit

/-!
# Controls by id and by name

`libs/camera-pipes/pipeline/camera/GST_v4l2_api.cpp` sets the controls of a camera with
`VIDIOC_S_EXT_CTRLS`.  The ids of most are fixed; four controls of the Alvium cameras
have ids of their own, which are looked up by name in the tables of `m_v4l2_util`.

A `V4L2_alvium_pipe` has two `v4l2_util` objects for one device: the camera's, which
`Alvium_v4l2::open` probes, and the one inherited from `GST_v4l2_api`, which is given
the descriptor of the camera and nothing else.  So a control with a fixed id reaches the
device (`setById_reaches`), and one that is looked up never does, whatever the camera
has found (`named_not_reached`).
-/

namespace Opaleye.Camera

open TransSys

/-! ### `v4l2_util` -/

/-- `VIDIOC_S_EXT_CTRLS` for one control. -/
structure SetExtCtrls where
  fd : Option Nat
  id : Nat
  value : Int32
  deriving DecidableEq

/-- `v4l2_util`: the descriptor and the tables of controls. -/
structure V4l2Util where
  mV4l2Fd : Option Nat
  tables : Tables

namespace V4l2Util

/-- The constructor. -/
def new : V4l2Util := ⟨none, .empty⟩

def setFd (u : V4l2Util) (fd : Option Nat) : V4l2Util := { u with mV4l2Fd := fd }

/-- `v4l2_ctrl_set(id, int32_t)`: what it returns, and the ioctls that it issues.  `ok` is the outcome
of the ioctl. -/
def v4l2CtrlSet (u : V4l2Util) (ok : Bool) (id : Nat) (val : Int32) : Bool × List SetExtCtrls :=
  (ok, [⟨u.mV4l2Fd, id, val⟩])

/-- `v4l2_ctrl_set(id, bool)` -/
def v4l2CtrlSetBool (u : V4l2Util) (ok : Bool) (id : Nat) (val : Bool) : Bool × List SetExtCtrls :=
  u.v4l2CtrlSet ok id (if val then 1 else 0)

end V4l2Util

/-! ### `GST_v4l2_api` -/

/-- `V4L2_CID_CAMERA_CLASS_BASE` -/
def cidCameraClassBase : Nat := 0x009a0900

namespace GstV4l2Api

variable (u : V4l2Util) (ok : Bool)

/-- A control that is looked up by its name. -/
def setByName (name : String) (val : Int32) : Bool × List SetExtCtrls :=
  match u.tables.getCtrlIdByName name.toList with
  | none => (false, [])
  | some ctrlId => u.v4l2CtrlSet ok ctrlId val

/-- `V4L2_CID_BRIGHTNESS` -/
def setBrightness (val : Int32) : Bool × List SetExtCtrls := u.v4l2CtrlSet ok cidBase val

/-- `V4L2_CID_GAIN` -/
def setGain (val : Int32) : Bool × List SetExtCtrls := u.v4l2CtrlSet ok (cidBase + 19) val

/-- `V4L2_CID_AUTOGAIN` -/
def setGainAuto (val : Bool) : Bool × List SetExtCtrls := u.v4l2CtrlSetBool ok (cidBase + 18) val

/-- `V4L2_CID_EXPOSURE_AUTO` -/
def setExposureAuto (val : Int32) : Bool × List SetExtCtrls :=
  u.v4l2CtrlSet ok (cidCameraClassBase + 1) val

/-- `V4L2_CID_EXPOSURE_ABSOLUTE` -/
def setExposureAbsolute (val : Int32) : Bool × List SetExtCtrls :=
  u.v4l2CtrlSet ok (cidCameraClassBase + 2) val

def setExposureAutoMin (val : Int32) : Bool × List SetExtCtrls := setByName u ok "exposure_auto_min" val

def setExposureAutoMax (val : Int32) : Bool × List SetExtCtrls := setByName u ok "exposure_auto_max" val

def setGainAutoMin (val : Int32) : Bool × List SetExtCtrls := setByName u ok "gain_auto_min" val

def setGainAutoMax (val : Int32) : Bool × List SetExtCtrls := setByName u ok "gain_auto_max" val

/-- `V4L2_CID_FOCUS_ABSOLUTE` -/
def setFocusAbsolute (val : Int32) : Bool × List SetExtCtrls :=
  u.v4l2CtrlSet ok (cidCameraClassBase + 10) val

/-- `V4L2_CID_FOCUS_AUTO` -/
def setFocusAuto (val : Bool) : Bool × List SetExtCtrls :=
  u.v4l2CtrlSetBool ok (cidCameraClassBase + 12) val

/-- `Opaleye_app::set_camera_property_int`, once the camera is found. -/
def setCameraPropertyInt (propertyId : List Char) (value : Int32) : Bool × List SetExtCtrls :=
  if propertyId = "brightness".toList then setBrightness u ok value
  else if propertyId = "gain".toList then setGain u ok value
  else if propertyId = "gain_auto".toList then setGainAuto u ok (value != 0)
  else if propertyId = "exposure_auto".toList then setExposureAuto u ok value
  else if propertyId = "exposure_absolute".toList then setExposureAbsolute u ok value
  else if propertyId = "exposure_auto_min".toList then setExposureAutoMin u ok value
  else if propertyId = "exposure_auto_max".toList then setExposureAutoMax u ok value
  else if propertyId = "gain_auto_min".toList then setGainAutoMin u ok value
  else if propertyId = "gain_auto_max".toList then setGainAutoMax u ok value
  else if propertyId = "focus_absolute".toList then setFocusAbsolute u ok value
  else if propertyId = "focus_auto".toList then setFocusAuto u ok (value != 0)
  else (false, [])

end GstV4l2Api

/-- The controls that are looked up. -/
inductive NamedCtrl
  | exposureAutoMin
  | exposureAutoMax
  | gainAutoMin
  | gainAutoMax
  deriving DecidableEq, Repr

namespace NamedCtrl

def name : NamedCtrl → String
  | exposureAutoMin => "exposure_auto_min"
  | exposureAutoMax => "exposure_auto_max"
  | gainAutoMin => "gain_auto_min"
  | gainAutoMax => "gain_auto_max"

/-- The call for a control. -/
def set : NamedCtrl → V4l2Util → Bool → Int32 → Bool × List SetExtCtrls
  | exposureAutoMin => GstV4l2Api.setExposureAutoMin
  | exposureAutoMax => GstV4l2Api.setExposureAutoMax
  | gainAutoMin => GstV4l2Api.setGainAutoMin
  | gainAutoMax => GstV4l2Api.setGainAutoMax

end NamedCtrl

/-! ### The pipe -/

/-- What `init` meets: all that `PipeInit` has, and the probe of the camera with the tables it leaves. -/
structure ApiInitEnv where
  pipe : PipeInitEnv
  ioctls : ProbeIoctls
  fuel : Nat
  tables : Tables
  probed : v4l2UtilProbeCtrl ioctls fuel = some (tables, v4l2ProbeCtrl pipe.opening.probe)
  setGainAuto : Bool
  setExposureAuto : Bool

/-- The outcomes of `VIDIOC_STREAMOFF`, of the trigger's ioctls and of the camera's `close`. -/
structure ApiCloseEnv where
  streamoff : Bool
  trigger : Nat → Bool
  cam : CloseEnv

/-- `V4L2_alvium_pipe` with its `v4l2_util` and that of its camera, and how the last `init` was left
when no `close` came after it. -/
structure ApiPipe where
  pipe : AlviumPipe
  camUtil : V4l2Util
  mV4l2Util : V4l2Util
  left : Option Exit

namespace ApiPipe

/-- The constructor; `m_fourcc` has no value. -/
def new (fourcc : UInt32) (device : TriggerState) : ApiPipe :=
  ⟨⟨fourcc, ⟨[], device⟩, none⟩, .new, .new, none⟩

def setParams (p : ApiPipe) (fourcc : UInt32) (triggerMode : List Char) : ApiPipe :=
  { p with pipe := { p.pipe with
      mFourcc := fourcc
      trigger := { p.pipe.trigger with mTriggerMode := triggerMode } } }

def setTriggerMode (p : ApiPipe) (ok : Nat → Bool) (mode : List Char) : ApiPipe × Bool :=
  let r := p.pipe.trigger.setTriggerMode ok mode
  ({ p with pipe := { p.pipe with trigger := r.1 } }, r.2)

/-- The camera's `v4l2_util` after `Alvium_v4l2::open`, which probes the controls of a device that
passes its checks. -/
def openUtil (env : ApiInitEnv) : V4l2Util :=
  { V4l2Util.new.setFd env.pipe.opening.fd with
    tables := if env.pipe.opening.usable then env.tables else .empty }

/-- `init` gets to `m_v4l2_util.set_fd`. -/
def setsFd (p : ApiPipe) (env : ApiInitEnv) : Bool :=
  env.pipe.camera.2 != .threw &&
    (p.pipe.trigger.setTriggerMode env.pipe.trigger p.pipe.trigger.mTriggerMode).2

/-- `V4L2_alvium_pipe::init`, with the ioctls of its two calls by id; what these return is not looked
at. -/
def init (p : ApiPipe) (env : ApiInitEnv) : ApiPipe × Exit × List SetExtCtrls :=
  let r := p.pipe.init env.pipe
  let p' := { p with pipe := r.1, camUtil := openUtil env, left := some r.2 }
  if p.setsFd env then
    let u := p.mV4l2Util.setFd env.pipe.camera.1.mFd
    ({ p' with mV4l2Util := u }, r.2, (GstV4l2Api.setGainAuto u env.setGainAuto true).2
      ++ (GstV4l2Api.setExposureAuto u env.setExposureAuto 0).2)
  else (p', r.2, [])

/-- `V4L2_alvium_pipe::close`; a camera that does not close is kept. -/
def close (p : ApiPipe) (env : ApiCloseEnv) : ApiPipe × Bool :=
  match p.pipe.mCam with
  | none => ({ p with left := none }, true)
  | some cam =>
    let cam := { cam with driver := (stopStreaming cam.driver env.streamoff).1 }
    let trigger := { p.pipe.trigger with device := (p.pipe.trigger.device.setSwTrigger env.trigger).1 }
    let r := cam.close env.cam
    let p' := { p with left := none }
    if r.2.1 then
      ({ p' with pipe := { p.pipe with trigger := trigger, mCam := none }, camUtil := .new }, true)
    else ({ p' with pipe := { p.pipe with trigger := trigger, mCam := some r.1 } }, false)

/-- The descriptor of the camera. -/
def camFd (p : ApiPipe) : Option Nat := p.pipe.mCam.bind AlviumCam.mFd

end ApiPipe

inductive ApiCall
  | setParams (fourcc : UInt32) (triggerMode : List Char)
  | init (env : ApiInitEnv)
  | setTriggerMode (ok : Nat → Bool) (mode : List Char)
  | close (env : ApiCloseEnv)

/-- Calls on one pipe; setting a control changes the device and not the pipe. -/
def apiCalls : TransSys ApiPipe ApiCall where
  init := fun p => ∃ fourcc device, p = .new fourcc device
  step := fun p call =>
    match call with
    | .setParams fourcc triggerMode => some (p.setParams fourcc triggerMode)
    | .init env => some (p.init env).1
    | .setTriggerMode ok mode => some (p.setTriggerMode ok mode).1
    | .close env => some (p.close env).1

/-- The call for a control issues one ioctl, with that id and the value on the descriptor of the
camera, and returns its outcome. -/
def Reaches (p : ApiPipe) (n : NamedCtrl) (id : Nat) (ok : Bool) (val : Int32) : Prop :=
  n.set p.mV4l2Util ok val = (ok, [⟨p.camFd, id, val⟩])

/-! ### The two tables -/

/-- Nobody probes the pipe's own `v4l2_util`, and after an `init` it has the camera's descriptor. -/
structure ApiInv (p : ApiPipe) : Prop where
  tables : p.mV4l2Util.tables = .empty
  fd : p.left = some (.returned true) → p.mV4l2Util.mV4l2Fd = p.camFd

theorem setsFd_of_true {p : ApiPipe} {env : ApiInitEnv}
    (h : (p.pipe.init env.pipe).2 = .returned true) : p.setsFd env = true := by
  have hstarts := (init_true_iff p.pipe env.pipe).1.mp h
  obtain ⟨ok, hok⟩ := (brought_camera env.pipe).returned
  rw [ApiPipe.setsFd, hok, setTriggerMode_true_iff.mpr hstarts.trigger]
  rfl

theorem ApiInv.init {p : ApiPipe} (h : ApiInv p) (env : ApiInitEnv) : ApiInv (p.init env).1 := by
  rw [ApiPipe.init]
  by_cases hsets : p.setsFd env = true
  · rw [if_pos hsets]
    refine ⟨h.tables, fun hleft => ?_⟩
    have htrue : (p.pipe.init env.pipe).2 = .returned true := Option.some.inj hleft
    have hcam := (init_true_iff p.pipe env.pipe).2 htrue
    show env.pipe.camera.1.mFd = (p.pipe.init env.pipe).1.mCam.bind AlviumCam.mFd
    rw [hcam]
    rfl
  · rw [if_neg hsets]
    refine ⟨h.tables, fun hleft => ?_⟩
    exact absurd (setsFd_of_true (Option.some.inj hleft)) hsets

theorem ApiInv.close {p : ApiPipe} (h : ApiInv p) (env : ApiCloseEnv) : ApiInv (p.close env).1 := by
  rw [ApiPipe.close]
  split
  · exact ⟨h.tables, nofun⟩
  · dsimp only
    split
    · exact ⟨h.tables, nofun⟩
    · exact ⟨h.tables, nofun⟩

theorem apiInv_of_reach {p : ApiPipe} (h : Reach apiCalls Any p) : ApiInv p := by
  refine Reach.invariant (I := ApiInv) ?_ ?_ h
  · rintro p ⟨fourcc, device, rfl⟩
    exact ⟨rfl, nofun⟩
  · intro p call p' hp _ hstep
    cases call with
    | setParams fourcc triggerMode =>
      cases hstep
      exact ⟨hp.tables, hp.fd⟩
    | init env =>
      cases hstep
      exact hp.init env
    | setTriggerMode ok mode =>
      cases hstep
      exact ⟨hp.tables, hp.fd⟩
    | close env =>
      cases hstep
      exact hp.close env

/-! ### What reaches the device -/

theorem set_eq (n : NamedCtrl) (u : V4l2Util) (ok : Bool) (val : Int32) :
    n.set u ok val = GstV4l2Api.setByName u ok n.name val := by
  cases n with
  | exposureAutoMin => rfl
  | exposureAutoMax => rfl
  | gainAutoMin => rfl
  | gainAutoMax => rfl

/-- **A name that is in the table is set, and any other is refused.** -/
theorem setByName_eq_iff {u : V4l2Util} {ok : Bool} {name : String} {val : Int32} {fd : Option Nat}
    {id : Nat} : GstV4l2Api.setByName u ok name val = (ok, [⟨fd, id, val⟩]) ↔
      u.mV4l2Fd = fd ∧ u.tables.getCtrlIdByName name.toList = some id := by
  rw [GstV4l2Api.setByName]
  cases u.tables.getCtrlIdByName name.toList with
  | none => simp
  | some ctrlId => simp [V4l2Util.v4l2CtrlSet]

theorem setById_reaches {p : ApiPipe} (h : Reach apiCalls Any p)
    (hinit : p.left = some (.returned true)) (ok : Bool) (id : Nat) (val : Int32) :
    p.mV4l2Util.v4l2CtrlSet ok id val = (ok, [⟨p.camFd, id, val⟩]) := by
  rw [V4l2Util.v4l2CtrlSet, (apiInv_of_reach h).fd hinit]

/-- **A name is never found**: nobody probed the tables that the call looks in. -/
theorem set_refused {p : ApiPipe} (h : Reach apiCalls Any p) (n : NamedCtrl) (ok : Bool) (val : Int32) :
    n.set p.mV4l2Util ok val = (false, []) := by
  have hnone : p.mV4l2Util.tables.getCtrlIdByName n.name.toList = none := by
    rw [(apiInv_of_reach h).tables]
    rfl
  rw [set_eq, GstV4l2Api.setByName, hnone]

theorem setCameraPropertyInt_refused {p : ApiPipe} (h : Reach apiCalls Any p) (n : NamedCtrl) (ok : Bool)
    (value : Int32) :
    GstV4l2Api.setCameraPropertyInt p.mV4l2Util ok n.name.toList value = (false, []) := by
  rw [← set_refused h n ok value]
  cases n with
  | exposureAutoMin => rfl
  | exposureAutoMax => rfl
  | gainAutoMin => rfl
  | gainAutoMax => rfl

/-- **A control that is looked up never reaches the device**, although the camera has found it and the
same call with the camera's tables would set it. -/
theorem named_not_reached (p : ApiPipe) (h : Reach apiCalls Any p)
    (hinit : p.left = some (.returned true)) (n : NamedCtrl) (id : Nat)
    (hid : p.camUtil.tables.getCtrlIdByName n.name.toList = some id) (ok : Bool) (val : Int32) :
    n.set p.mV4l2Util ok val = (false, []) ∧ ¬ Reaches p n id ok val ∧
      n.set { p.mV4l2Util with tables := p.camUtil.tables } ok val = (ok, [⟨p.camFd, id, val⟩]) := by
  have hrefused := set_refused h n ok val
  refine ⟨hrefused, fun hreaches => ?_, ?_⟩
  · rw [Reaches, hrefused] at hreaches
    cases hreaches
  · rw [set_eq, setByName_eq_iff]
    exact ⟨(apiInv_of_reach h).fd hinit, hid⟩

/-- A camera with one control of each kind. -/
def alviumCtrls : List ExtCtrl :=
  [⟨cidBase, .integer, "brightness".toList, 0, 255, 1⟩,
    ⟨0x009a0928, .integer, "exposure_auto_min".toList, 0, 100000, 1⟩]

/-- Every step of `init` succeeds on it. -/
def alviumInitEnv : ApiInitEnv where
  pipe :=
    { bufferType := 0
      opening :=
        { fineOpen with probe := ⟨true, ⟨alviumCtrls.map (fun c => UInt32.ofNat c.id), .einval⟩⟩ }
      cam :=
        { getFmt := true
          setFmt := true
          getFmtAgain := true
          reqbufs := some 3
          querybuf := fun _ => true
          mmap := fun i => some (4096 * (i + 1))
          mmap_injective := fun i j addr hi hj => by grind }
      trigger := fun _ => true
      gst := .built
      launches := true
      qbuf := fun _ => true
      streamon := true }
  ioctls :=
    { queryCap := true
      queryExtCtrl := fun n _ =>
        match alviumCtrls[n]? with
        | some ctrl => .ok ctrl
        | none => .error .einval
      queryMenu := fun _ _ _ => none }
  fuel := 3
  tables := alviumCtrls.foldl Tables.add .empty
  probed := rfl
  setGainAuto := true
  setExposureAuto := true

/-- A pipe on that camera after its `init`. -/
def alviumPipe : ApiPipe :=
  (((ApiPipe.new 0 ⟨false, .software, .risingEdge⟩).setParams (v4l2Fourcc 'J' 'X' 'R' '0')
    "free".toList).init alviumInitEnv).1

theorem alviumPipe_reached : Reach apiCalls Any alviumPipe :=
  Reach.run [.setParams (v4l2Fourcc 'J' 'X' 'R' '0') "free".toList, .init alviumInitEnv]
    (.init ⟨0, ⟨false, .software, .risingEdge⟩, rfl⟩) (meets_any _ _) rfl

theorem alviumPipe_left : alviumPipe.left = some (.returned true) := by decide

theorem named_not_reached_alviumPipe :
    Reach apiCalls Any alviumPipe ∧ alviumPipe.left = some (.returned true) ∧
      alviumPipe.camUtil.tables.getCtrlIdByName NamedCtrl.exposureAutoMin.name.toList
        = some 0x009a0928 ∧
      ¬ Reaches alviumPipe .exposureAutoMin 0x009a0928 true 500 := by
  have hid : alviumPipe.camUtil.tables.getCtrlIdByName NamedCtrl.exposureAutoMin.name.toList
      = some 0x009a0928 := by decide
  obtain ⟨-, hreaches, -⟩ := named_not_reached alviumPipe alviumPipe_reached alviumPipe_left
    .exposureAutoMin 0x009a0928 hid true 500
  exact ⟨alviumPipe_reached, alviumPipe_left, hid, hreaches⟩

/-- **The device would have set the control**, and the call has failed without asking it. -/
theorem setExposureAutoMin_lost :
    ∃ p, Reach apiCalls Any p ∧ p.left = some (.returned true) ∧ p.camFd = some 5 ∧
      p.camUtil.tables.getCtrlIdByName "exposure_auto_min".toList = some 0x009a0928 ∧
      GstV4l2Api.setExposureAutoMin p.mV4l2Util true 500 = (false, []) ∧
      ¬ Reaches p .exposureAutoMin 0x009a0928 true 500 := by
  refine ⟨alviumPipe, alviumPipe_reached, alviumPipe_left, by decide, by decide, by decide, ?_⟩
  rw [Reaches]
  decide

end Opaleye.Camera
