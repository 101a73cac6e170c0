import Opaleye.Camera.AlviumV4l2

/-!
# The camera's trigger

`V4L2_alvium_pipe::set_trigger_mode` sets one of three modes on the camera and
then records its name in `m_trigger_mode`.  `Alvium_v4l2::set_free_trigger`,
`set_sw_trigger` and `set_hw_trigger` are one, two and three ioctls, each of which
changes one part of the device's trigger state; the first that fails ends the call,
and nothing is taken back.

A mode that was set agrees with its name (`agrees_setTriggerMode`).  A call that
fails half-way leaves the name of the mode before and a device that may be in none
of the three: `Unharmed` says when it is still in the same, and
`trigger_matches_iff` that the name matches the device exactly as long as all calls
do no harm.
-/

namespace Opaleye.Camera

/-! ### The device -/

/-- `Alvium_CSI::v4l2_trigger_source` -/
inductive TriggerSource
  | software
  | line0
  | line1
  | line2
  | line3
  deriving DecidableEq, Repr

/-- `Alvium_CSI::v4l2_trigger_activation` -/
inductive TriggerActivation
  | risingEdge
  | fallingEdge
  | anyEdge
  | levelHigh
  | levelLow
  deriving DecidableEq, Repr

/-- The trigger state of the device. -/
structure TriggerState where
  modeOn : Bool
  source : TriggerSource
  activation : TriggerActivation
  deriving DecidableEq, Repr

/-- `VIDIOC_TRIGGER_MODE_OFF`, `VIDIOC_TRIGGER_MODE_ON`, `VIDIOC_S_TRIGGER_SOURCE` and
`VIDIOC_S_TRIGGER_ACTIVATION` -/
inductive TriggerIoctl
  | modeOff
  | modeOn
  | setSource (source : TriggerSource)
  | setActivation (activation : TriggerActivation)

/-- What an ioctl does when it succeeds. -/
def TriggerState.apply (dev : TriggerState) : TriggerIoctl → TriggerState
  | .modeOff => { dev with modeOn := false }
  | .modeOn => { dev with modeOn := true }
  | .setSource source => { dev with source := source }
  | .setActivation activation => { dev with activation := activation }

/-- The ioctls of a call; `ok` has their outcomes, and the call returns at the first
that fails. -/
def TriggerState.issue (dev : TriggerState) (ok : Nat → Bool) :
    List TriggerIoctl → TriggerState × Bool
  | [] => (dev, true)
  | i :: rest => if ok 0 then (dev.apply i).issue (fun k => ok (k + 1)) rest else (dev, false)

/-- `Alvium_v4l2::set_free_trigger` -/
def TriggerState.setFreeTrigger (dev : TriggerState) (ok : Nat → Bool) : TriggerState × Bool :=
  dev.issue ok [.modeOff]

/-- `Alvium_v4l2::set_sw_trigger` -/
def TriggerState.setSwTrigger (dev : TriggerState) (ok : Nat → Bool) : TriggerState × Bool :=
  dev.issue ok [.modeOn, .setSource .software]

/-- `Alvium_v4l2::set_hw_trigger`: the software source is refused; every activation is
one of those accepted. -/
def TriggerState.setHwTrigger (dev : TriggerState) (ok : Nat → Bool) (src : TriggerSource)
    (act : TriggerActivation) : TriggerState × Bool :=
  match src with
  | .software => (dev, false)
  | .line0 | .line1 | .line2 | .line3 =>
    dev.issue ok [.modeOn, .setSource src, .setActivation act]

/-! ### `V4L2_alvium_pipe` -/

/-- `m_trigger_mode`, and the device. -/
structure Trigger where
  mTriggerMode : List Char
  device : TriggerState

/-- A mode is recorded when it was set. -/
def Trigger.record (t : Trigger) (mode : List Char) (r : TriggerState × Bool) : Trigger × Bool :=
  if r.2 then (⟨mode, r.1⟩, true) else ({ t with device := r.1 }, false)

/-- `set_trigger_mode` -/
def Trigger.setTriggerMode (t : Trigger) (ok : Nat → Bool) (mode : List Char) : Trigger × Bool :=
  if mode = "free".toList then t.record mode (t.device.setFreeTrigger ok)
  else if mode = "hw".toList then t.record mode (t.device.setHwTrigger ok .line0 .risingEdge)
  else if mode = "sw".toList then t.record mode (t.device.setSwTrigger ok)
  else (t, false)

/-- The part of the pipe that its properties change. -/
structure PropertyPipe where
  trigger : Trigger
  driver : Driver
  bufByIdx : List Nat

/-- The outcomes of the ioctls. -/
structure PropertyEnv where
  trigger : Nat → Bool
  qbuf : Nat → Bool
  streamon : Bool
  streamoff : Bool

namespace PropertyPipe

/-- `set_trigger_mode` -/
def setTriggerMode (p : PropertyPipe) (ok : Nat → Bool) (mode : List Char) : PropertyPipe × Bool :=
  let r := p.trigger.setTriggerMode ok mode
  ({ p with trigger := r.1 }, r.2)

/-- `set_camera_property` -/
def setCameraProperty (p : PropertyPipe) (env : PropertyEnv) (propertyId value : List Char) :
    PropertyPipe × Bool :=
  if propertyId = "streaming".toList then
    if value = "on".toList then
      let r := startStreaming p.driver env.qbuf env.streamon p.bufByIdx
      ({ p with driver := r.1 }, r.2)
    else if value = "off".toList then
      let r := stopStreaming p.driver env.streamoff
      ({ p with driver := r.1 }, r.2)
    else (p, false)
  else if propertyId = "trigger".toList then p.setTriggerMode env.trigger value
  else (p, false)

end PropertyPipe

inductive PropertyCall
  | setTriggerMode (mode : List Char) (ok : Nat → Bool)
  | setCameraProperty (propertyId value : List Char) (env : PropertyEnv)

def PropertyPipe.call (p : PropertyPipe) : PropertyCall → PropertyPipe × Bool
  | .setTriggerMode mode ok => p.setTriggerMode ok mode
  | .setCameraProperty propertyId value env => p.setCameraProperty env propertyId value

/-- A pipe, and the device before the last call with what that returned. -/
structure PropertyRun where
  pipe : PropertyPipe
  last : Option (TriggerState × Bool)

def propertyCalls : TransSys PropertyRun PropertyCall where
  init r := r.last = none
  step r call := some ⟨(r.pipe.call call).1, some (r.pipe.trigger.device, (r.pipe.call call).2)⟩

/-! ### What should hold -/

/-- The name that is recorded is that of the device's mode. -/
structure Agrees (t : Trigger) : Prop where
  free : t.mTriggerMode = "free".toList ↔ t.device.modeOn = false
  sw : t.mTriggerMode = "sw".toList → t.device.modeOn = true ∧ t.device.source = .software
  hw : t.mTriggerMode = "hw".toList →
    t.device.modeOn = true ∧ t.device.source = .line0 ∧ t.device.activation = .risingEdge

/-- The name matches the device, and a call that failed changed nothing there. -/
def Matches (r : PropertyRun) : Prop :=
  Agrees r.pipe.trigger ∧ ∀ before, r.last = some (before, false) → r.pipe.trigger.device = before

/-- What the ioctls that succeed before one fails would set is set already. -/
def Unharmed (dev : TriggerState) (ok : Nat → Bool) (mode : List Char) : Prop :=
  (mode = "sw".toList → ok 0 = true → ok 1 = false → dev.modeOn = true) ∧
    (mode = "hw".toList → ok 0 = true → ok 1 = false → dev.modeOn = true) ∧
    (mode = "hw".toList → ok 0 = true → ok 1 = true → ok 2 = false →
      dev.modeOn = true ∧ dev.source = .line0)

instance (dev : TriggerState) (ok : Nat → Bool) (mode : List Char) :
    Decidable (Unharmed dev ok mode) := inferInstanceAs (Decidable (_ ∧ _ ∧ _))

/-- The same for both calls that can set a mode. -/
def DoesNoHarm (r : PropertyRun) : PropertyCall → Prop
  | .setTriggerMode mode ok => Unharmed r.pipe.trigger.device ok mode
  | .setCameraProperty propertyId value env =>
    propertyId = "trigger".toList → Unharmed r.pipe.trigger.device env.trigger value

instance (r : PropertyRun) : ∀ call, Decidable (DoesNoHarm r call)
  | .setTriggerMode mode ok => inferInstanceAs (Decidable (Unharmed r.pipe.trigger.device ok mode))
  | .setCameraProperty propertyId value env =>
    inferInstanceAs (Decidable (propertyId = "trigger".toList → Unharmed _ env.trigger value))

/-! ### One call -/

section Call

variable {t : Trigger} {ok : Nat → Bool} {mode : List Char}

theorem setTriggerMode_free : t.setTriggerMode ok "free".toList =
    if ok 0 then (⟨"free".toList, { t.device with modeOn := false }⟩, true) else (t, false) := by
  rw [Trigger.setTriggerMode, if_pos rfl, TriggerState.setFreeTrigger, TriggerState.issue]
  split <;> rfl

theorem setTriggerMode_sw : t.setTriggerMode ok "sw".toList =
    if ok 0 then
      if ok 1 then (⟨"sw".toList, { t.device with modeOn := true, source := .software }⟩, true)
      else ({ t with device := { t.device with modeOn := true } }, false)
    else (t, false) := by
  rw [Trigger.setTriggerMode, if_neg (by decide), if_neg (by decide), if_pos rfl,
    TriggerState.setSwTrigger, TriggerState.issue, TriggerState.issue]
  split
  · split <;> rfl
  · rfl

theorem setTriggerMode_hw : t.setTriggerMode ok "hw".toList =
    if ok 0 then
      if ok 1 then
        if ok 2 then (⟨"hw".toList, ⟨true, .line0, .risingEdge⟩⟩, true)
        else ({ t with device := { t.device with modeOn := true, source := .line0 } }, false)
      else ({ t with device := { t.device with modeOn := true } }, false)
    else (t, false) := by
  rw [Trigger.setTriggerMode, if_neg (by decide), if_pos rfl, TriggerState.setHwTrigger,
    TriggerState.issue, TriggerState.issue, TriggerState.issue]
  split
  · split
    · split <;> rfl
    · rfl
  · rfl

theorem setTriggerMode_other (hfree : mode ≠ "free".toList) (hhw : mode ≠ "hw".toList)
    (hsw : mode ≠ "sw".toList) : t.setTriggerMode ok mode = (t, false) := by
  rw [Trigger.setTriggerMode, if_neg hfree, if_neg hhw, if_neg hsw]

theorem mode_cases (mode : List Char) : mode = "free".toList ∨ mode = "sw".toList ∨
    mode = "hw".toList ∨
      (mode ≠ "free".toList ∧ mode ≠ "hw".toList ∧ mode ≠ "sw".toList) := by
  tauto

theorem free_ne_sw : "free".toList ≠ "sw".toList := by decide

theorem free_ne_hw : "free".toList ≠ "hw".toList := by decide

theorem sw_ne_hw : "sw".toList ≠ "hw".toList := by decide

theorem agrees_setTriggerMode (h : (t.setTriggerMode ok mode).2 = true) :
    Agrees (t.setTriggerMode ok mode).1 := by
  rcases mode_cases mode with rfl | rfl | rfl | ⟨hfree, hhw, hsw⟩
  · rw [setTriggerMode_free] at h ⊢
    split at h
    · rw [if_pos ‹_›]
      exact ⟨iff_of_true rfl rfl, fun h => absurd h free_ne_sw, fun h => absurd h free_ne_hw⟩
    · cases h
  · rw [setTriggerMode_sw] at h ⊢
    split at h
    · split at h
      · rw [if_pos ‹_›, if_pos ‹_›]
        exact ⟨iff_of_false free_ne_sw.symm (by simp), fun _ => ⟨rfl, rfl⟩,
          fun h => absurd h sw_ne_hw⟩
      · cases h
    · cases h
  · rw [setTriggerMode_hw] at h ⊢
    split at h
    · split at h
      · split at h
        · rw [if_pos ‹_›, if_pos ‹_›, if_pos ‹_›]
          exact ⟨iff_of_false free_ne_hw.symm (by simp), fun h => absurd h sw_ne_hw.symm,
            fun _ => ⟨rfl, rfl, rfl⟩⟩
        · cases h
      · cases h
    · cases h
  · rw [setTriggerMode_other hfree hhw hsw] at h
    cases h

theorem unharmed_of_ne {dev : TriggerState} (hhw : mode ≠ "hw".toList) (hsw : mode ≠ "sw".toList) :
    Unharmed dev ok mode :=
  ⟨fun h => absurd h hsw, fun h => absurd h hhw, fun h => absurd h hhw⟩

theorem unharmed_sw_iff {dev : TriggerState} : Unharmed dev ok "sw".toList ↔
    (ok 0 = true → ok 1 = false → dev.modeOn = true) :=
  ⟨fun h => h.1 rfl, fun h => ⟨fun _ => h, fun h => absurd h sw_ne_hw, fun h => absurd h sw_ne_hw⟩⟩

theorem unharmed_hw_iff {dev : TriggerState} : Unharmed dev ok "hw".toList ↔
    (ok 0 = true → ok 1 = false → dev.modeOn = true) ∧
      (ok 0 = true → ok 1 = true → ok 2 = false → dev.modeOn = true ∧ dev.source = .line0) :=
  ⟨fun h => ⟨h.2.1 rfl, h.2.2 rfl⟩,
    fun h => ⟨fun h => absurd h sw_ne_hw.symm, fun _ => h.1, fun _ => h.2⟩⟩

theorem setModeOn_eq_iff {dev : TriggerState} :
    { dev with modeOn := true } = dev ↔ dev.modeOn = true := by
  constructor
  · intro h
    rw [← h]
  · intro h
    rw [← h]

theorem setSource_eq_iff {dev : TriggerState} {source : TriggerSource} :
    { dev with modeOn := true, source := source } = dev ↔
      dev.modeOn = true ∧ dev.source = source := by
  constructor
  · intro h
    rw [← h]
    exact ⟨rfl, rfl⟩
  · rintro ⟨hon, rfl⟩
    rw [← hon]

theorem setTriggerMode_sw_failed (h : (t.setTriggerMode ok "sw".toList).2 = false) :
    (t.setTriggerMode ok "sw".toList).1.mTriggerMode = t.mTriggerMode ∧
      ((t.setTriggerMode ok "sw".toList).1.device = t.device ↔
        Unharmed t.device ok "sw".toList) := by
  rw [setTriggerMode_sw] at h ⊢
  rw [unharmed_sw_iff]
  split at h
  · next h0 =>
    split at h
    · cases h
    · next h1 =>
      rw [if_pos h0, if_neg h1]
      refine ⟨rfl, setModeOn_eq_iff.trans ?_⟩
      rw [Bool.not_eq_true] at h1
      simp only [h0, h1, forall_const]
  · next h0 =>
    rw [if_neg h0]
    exact ⟨rfl, iff_of_true rfl (fun h => absurd h h0)⟩

theorem setTriggerMode_hw_failed (h : (t.setTriggerMode ok "hw".toList).2 = false) :
    (t.setTriggerMode ok "hw".toList).1.mTriggerMode = t.mTriggerMode ∧
      ((t.setTriggerMode ok "hw".toList).1.device = t.device ↔
        Unharmed t.device ok "hw".toList) := by
  rw [setTriggerMode_hw] at h ⊢
  rw [unharmed_hw_iff]
  split at h
  · next h0 =>
    split at h
    · next h1 =>
      split at h
      · cases h
      · next h2 =>
        rw [if_pos h0, if_pos h1, if_neg h2]
        refine ⟨rfl, setSource_eq_iff.trans ?_⟩
        rw [Bool.not_eq_true] at h2
        simp [h0, h1, h2]
    · next h1 =>
      rw [if_pos h0, if_neg h1]
      refine ⟨rfl, setModeOn_eq_iff.trans ?_⟩
      rw [Bool.not_eq_true] at h1
      simp [h0, h1]
  · next h0 =>
    rw [if_neg h0]
    exact ⟨rfl, iff_of_true rfl ⟨fun h => absurd h h0, fun h => absurd h h0⟩⟩

/-- **A call that fails leaves the name, and it leaves the device exactly when it does
no harm.** -/
theorem setTriggerMode_failed (h : (t.setTriggerMode ok mode).2 = false) :
    (t.setTriggerMode ok mode).1.mTriggerMode = t.mTriggerMode ∧
      ((t.setTriggerMode ok mode).1.device = t.device ↔ Unharmed t.device ok mode) := by
  rcases mode_cases mode with rfl | rfl | rfl | ⟨hfree, hhw, hsw⟩
  · rw [setTriggerMode_free] at h ⊢
    split at h
    · cases h
    · rw [if_neg ‹_›]
      exact ⟨rfl, iff_of_true rfl (unharmed_of_ne free_ne_hw free_ne_sw)⟩
  · exact setTriggerMode_sw_failed h
  · exact setTriggerMode_hw_failed h
  · rw [setTriggerMode_other hfree hhw hsw]
    exact ⟨rfl, iff_of_true rfl (unharmed_of_ne hhw hsw)⟩

theorem unharmed_of_succeeded (h : (t.setTriggerMode ok mode).2 = true) :
    Unharmed t.device ok mode := by
  rcases mode_cases mode with rfl | rfl | rfl | ⟨hfree, hhw, hsw⟩
  · exact unharmed_of_ne free_ne_hw free_ne_sw
  · rw [setTriggerMode_sw] at h
    rw [unharmed_sw_iff]
    intro h0 h1
    simp [h0, h1] at h
  · rw [setTriggerMode_hw] at h
    rw [unharmed_hw_iff]
    refine ⟨fun h0 h1 => ?_, fun h0 h1 h2 => ?_⟩
    · simp [h0, h1] at h
    · simp [h0, h1, h2] at h
  · exact unharmed_of_ne hhw hsw

end Call

/-! ### Runs -/

section Step

variable {r : PropertyRun} {p : PropertyPipe}

theorem trigger_setTriggerMode_iff (hr : Agrees p.trigger) (ok : Nat → Bool) (mode : List Char) :
    Matches ⟨(p.setTriggerMode ok mode).1, some (p.trigger.device, (p.setTriggerMode ok mode).2)⟩ ↔
      Unharmed p.trigger.device ok mode := by
  cases hret : (p.trigger.setTriggerMode ok mode).2 with
  | true =>
    refine iff_of_true ⟨agrees_setTriggerMode hret, ?_⟩ (unharmed_of_succeeded hret)
    intro before hlast
    have hfalse : (p.trigger.setTriggerMode ok mode).2 = false :=
      congrArg Prod.snd (Option.some.inj hlast)
    rw [hret] at hfalse
    cases hfalse
  | false =>
    obtain ⟨hname, hdev⟩ := setTriggerMode_failed hret
    rw [← hdev]
    constructor
    · rintro ⟨-, hlast⟩
      exact hlast _ (congrArg some (Prod.ext rfl hret))
    · intro hsame
      have htrigger : (p.trigger.setTriggerMode ok mode).1 = p.trigger := by
        rw [show (p.trigger.setTriggerMode ok mode).1 = ⟨_, _⟩ from rfl, hname, hsame]
      refine ⟨?_, ?_⟩
      · show Agrees (p.trigger.setTriggerMode ok mode).1
        rw [htrigger]
        exact hr
      · intro before hlast
        have hbefore : p.trigger.device = before := congrArg Prod.fst (Option.some.inj hlast)
        exact hsame.trans hbefore

theorem matches_of_trigger_eq {p' : PropertyPipe} (h : p'.trigger = p.trigger)
    (hr : Agrees p.trigger) (ret : Bool) : Matches ⟨p', some (p.trigger.device, ret)⟩ := by
  refine ⟨?_, ?_⟩
  · show Agrees p'.trigger
    rw [h]
    exact hr
  · intro before hlast
    have hbefore : p.trigger.device = before := congrArg Prod.fst (Option.some.inj hlast)
    show p'.trigger.device = before
    rw [h, hbefore]

theorem matches_step_iff (hr : Matches r) (call : PropertyCall) :
    Matches ⟨(r.pipe.call call).1, some (r.pipe.trigger.device, (r.pipe.call call).2)⟩ ↔
      DoesNoHarm r call := by
  cases call with
  | setTriggerMode mode ok => exact trigger_setTriggerMode_iff hr.1 ok mode
  | setCameraProperty propertyId value env =>
    by_cases htrigger : propertyId = "trigger".toList
    · subst htrigger
      have hcall : r.pipe.setCameraProperty env "trigger".toList value
          = r.pipe.setTriggerMode env.trigger value := by
        rw [PropertyPipe.setCameraProperty, if_neg (by decide), if_pos rfl]
      show Matches ⟨(r.pipe.setCameraProperty env "trigger".toList value).1, some (_,
        (r.pipe.setCameraProperty env "trigger".toList value).2)⟩ ↔ _
      rw [hcall, trigger_setTriggerMode_iff hr.1]
      exact ⟨fun h _ => h, fun h => h rfl⟩
    · refine iff_of_true (matches_of_trigger_eq ?_ hr.1 _) (fun h => absurd h htrigger)
      show (r.pipe.setCameraProperty env propertyId value).1.trigger = _
      unfold PropertyPipe.setCameraProperty
      split
      · split
        · rfl
        · split <;> rfl
      · rfl

end Step

/-- **After a mode was set, the name matches the device throughout exactly when no call
does harm.** -/
theorem trigger_matches_iff (p : PropertyPipe) (ok : Nat → Bool) (mode : List Char)
    (h : (p.setTriggerMode ok mode).2 = true) (calls : List PropertyCall) :
    propertyCalls.Always Matches ⟨(p.setTriggerMode ok mode).1, none⟩ calls ↔
      propertyCalls.Meets DoesNoHarm ⟨(p.setTriggerMode ok mode).1, none⟩ calls := by
  apply TransSys.always_iff_meets (I := fun _ => True)
  · intro r call r' _ hr hst
    obtain rfl := Option.some.inj hst
    exact ⟨fun _ => trivial, matches_step_iff hr call⟩
  · intro r call _ _ hst
    cases hst
  · trivial
  · exact ⟨agrees_setTriggerMode h, by rintro _ ⟨⟩⟩

/-- A camera before its first mode. -/
def untriggered : PropertyPipe :=
  ⟨⟨"free".toList, ⟨true, .line1, .anyEdge⟩⟩, ⟨[], false⟩, [0, 1]⟩

/-- From `hw` to `sw` the mode stays on, so the source may fail. -/
theorem trigger_matches_sw_failed :
    propertyCalls.Always Matches
      ⟨(untriggered.setTriggerMode (fun _ => true) "hw".toList).1, none⟩
      [.setTriggerMode "sw".toList (fun k => k != 1), .setTriggerMode "off".toList (fun _ => true),
        .setCameraProperty "trigger".toList "free".toList
          ⟨fun _ => true, fun _ => true, true, true⟩] :=
  (trigger_matches_iff untriggered (fun _ => true) "hw".toList (by decide) _).mpr (by decide)

/-- From `free` to `sw` it does not: the call fails, and the camera waits for a trigger
while the name says `free`. -/
theorem trigger_mismatch_sw_failed :
    (untriggered.setTriggerMode (fun _ => true) "free".toList).2 = true ∧
      ∃ r, propertyCalls.run
          ⟨(untriggered.setTriggerMode (fun _ => true) "free".toList).1, none⟩
          [.setTriggerMode "sw".toList (fun k => k != 1)] = some r ∧
        r.pipe.trigger.mTriggerMode = "free".toList ∧ r.pipe.trigger.device.modeOn = true ∧
        r.last = some (⟨false, .line1, .anyEdge⟩, false) ∧ ¬ Matches r := by
  refine ⟨by decide, _, rfl, by decide, by decide, by decide, ?_⟩
  rintro ⟨hagrees, -⟩
  exact absurd (hagrees.free.mp (by decide)) (by decide)

end Opaleye.Camera
