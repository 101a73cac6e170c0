import Opaleye.Camera.AlviumV4l2
import Opaleye.Lib.StdMap

/-!
# Opening and closing the camera

`Alvium_v4l2::open` gets a file descriptor, asks the device what it can do and
gives up if that is not enough; `close` frees the buffers and gives the descriptor
back.  The outcome of every system call is an argument of the model, and what is
opened and closed is recorded.

Most exits of `open` leave the descriptor to `close`, which returns early when the
device refuses to free its buffers, and the last exit does not call it.
`device_allOrNothing_iff` says that nothing else leaves a descriptor behind.
-/

namespace Opaleye.Camera

/-! ### `v4l2_util` -/

/-- `errno`, as far as the source tells it apart. -/
inductive Errno
  | einval
  | other
  deriving DecidableEq, Repr

/-- An ioctl that is repeated until it fails: what it finds, and how it fails. -/
structure Enumeration where
  found : List UInt32
  stop : Errno

/-- `enum_format_descs` -/
def enumFormatDescs (formats : Enumeration) : List UInt32 × Bool :=
  match formats.stop with
  | .einval => (formats.found, true)
  | .other => ([], false)

/-- `VIDIOC_QUERYCAP` and `VIDIOC_QUERY_EXT_CTRL` in `v4l2_probe_ctrl` -/
structure ProbeEnv where
  queryCap : Bool
  ctrls : Enumeration

/-- `v4l2_probe_ctrl`: an entry of a menu that is missing does no harm. -/
def v4l2ProbeCtrl (env : ProbeEnv) : Bool := env.queryCap && decide (env.ctrls.stop = .einval)

/-! ### `Alvium_v4l2` -/

/-- `v4l2_mmap_buffer` -/
structure MmapBuffer where
  index : Nat
  ptr : Nat
  deriving DecidableEq, Repr

/-- `Alvium_v4l2`, with the state of the driver.  `granted` is the count of the last
`VIDIOC_REQBUFS` that succeeded. -/
structure AlviumCam where
  mFd : Option Nat
  mBufferType : UInt32
  fmtDescs : List UInt32
  bufByIdx : StdMap Nat MmapBuffer
  bufByPtr : StdMap Nat MmapBuffer
  driver : Driver
  granted : Option Nat

/-- The constructor, which does not set `m_buffer_type`. -/
def AlviumCam.new (bufferType : UInt32) : AlviumCam :=
  ⟨none, bufferType, [], .empty, .empty, ⟨[], false⟩, none⟩

inductive FdEvent
  | opened (fd : Nat)
  | closed (fd : Nat)
  deriving DecidableEq, Repr

/-- `VIDIOC_STREAMOFF`, `VIDIOC_REQBUFS` and `::close` in `close` -/
structure CloseEnv where
  streamoff : Bool
  reqbufs : Bool
  closed : Bool

/-- `Alvium_v4l2::close` -/
def AlviumCam.close (cam : AlviumCam) (env : CloseEnv) : AlviumCam × Bool × List FdEvent :=
  match cam.mFd with
  | none => (cam, true, [])
  | some fd =>
    -- what `stop_streaming` returns is not looked at
    let cam := { cam with driver := (stopStreaming cam.driver env.streamoff).1 }
    let cam := { cam with bufByIdx := .empty, bufByPtr := .empty }
    if env.reqbufs = false then (cam, false, [])
    else ({ cam with granted := some 0, mFd := none }, env.closed, [.closed fd])

/-- `V4L2_CAP_VIDEO_CAPTURE`, which is also `V4L2_BUF_TYPE_VIDEO_CAPTURE` -/
def capVideoCapture : UInt32 := 0x00000001

/-- `V4L2_CAP_VIDEO_CAPTURE_MPLANE` -/
def capVideoCaptureMplane : UInt32 := 0x00001000

/-- `V4L2_CAP_STREAMING` -/
def capStreaming : UInt32 := 0x04000000

def hasCap (caps cap : UInt32) : Bool := caps &&& cap != 0

/-- The outcomes in `open`: of `::open`, of `VIDIOC_QUERYCAP` with the capabilities, of the
two scans, and of the `close` that some exits call. -/
structure OpenEnv where
  fd : Option Nat
  queryCap : Option UInt32
  formats : Enumeration
  probe : ProbeEnv
  cleanup : CloseEnv

def OpenEnv.events (env : OpenEnv) : List FdEvent :=
  match env.fd with
  | none => []
  | some fd => [.opened fd]

namespace AlviumCam

/-- An exit that calls `close`. -/
def giveUp (cam : AlviumCam) (env : OpenEnv) : AlviumCam × Bool × List FdEvent :=
  let r := cam.close env.cleanup
  (r.1, false, env.events ++ r.2.2)

/-- What comes after the checks. -/
def probe (cam : AlviumCam) (env : OpenEnv) (bufferType : UInt32) :
    AlviumCam × Bool × List FdEvent :=
  let cam := { cam with fmtDescs := (enumFormatDescs env.formats).1, mBufferType := bufferType }
  if v4l2ProbeCtrl env.probe = false then (cam, false, env.events)
  else (cam, cam.mFd.isSome, env.events)

/-- `Alvium_v4l2::open` -/
def openDevice (cam : AlviumCam) (env : OpenEnv) : AlviumCam × Bool × List FdEvent :=
  if cam.mFd.isSome then (cam, false, [])
  else
    let cam := { cam with mFd := env.fd }
    match env.queryCap with
    | none => cam.giveUp env
    | some caps =>
      if !hasCap caps capVideoCapture || hasCap caps capVideoCaptureMplane then cam.giveUp env
      else if !hasCap caps capStreaming then cam.giveUp env
      else if hasCap caps capVideoCapture then cam.probe env capVideoCapture
      else if hasCap caps capVideoCaptureMplane then cam.probe env capVideoCaptureMplane
      else (cam, false, env.events)

end AlviumCam

/-! ### Runs -/

inductive DeviceCall
  | openDevice (env : OpenEnv)
  | close (env : CloseEnv)

def AlviumCam.call (cam : AlviumCam) : DeviceCall → AlviumCam × Bool × List FdEvent
  | .openDevice env => cam.openDevice env
  | .close env => cam.close env

/-- A call: `m_fd` before it, what it returned, and the descriptors it opened and
closed. -/
structure DeviceReport where
  call : DeviceCall
  before : Option Nat
  ret : Bool
  events : List FdEvent

structure DeviceRun where
  cam : AlviumCam
  last : Option DeviceReport

def deviceCalls : TransSys DeviceRun DeviceCall where
  init r := ∃ bufferType, r = ⟨.new bufferType, none⟩
  step r call :=
    let res := r.cam.call call
    some ⟨res.1, some ⟨call, r.cam.mFd, res.2.1, res.2.2⟩⟩

/-- An `open` can succeed. -/
def CanOpen (cam : AlviumCam) : Prop := ∃ env, (cam.openDevice env).2.1 = true

/-- **All or nothing**: an `open` that fails has closed what it opened, and `close`
leaves no descriptor. -/
def AllOrNothing (r : DeviceRun) : Prop :=
  ∀ rep, r.last = some rep →
    match rep.call with
    | .openDevice _ => rep.ret = false → rep.before = none →
        r.cam.mFd = none ∧ CanOpen r.cam ∧ ∀ fd, .opened fd ∈ rep.events → .closed fd ∈ rep.events
    | .close _ => r.cam.mFd = none

/-- The device can capture and stream. -/
def OpenEnv.usable (env : OpenEnv) : Bool :=
  match env.queryCap with
  | none => false
  | some caps => hasCap caps capVideoCapture && !hasCap caps capVideoCaptureMplane &&
      hasCap caps capStreaming

/-- A descriptor that is given up can be: the buffers are freed, and a device that passes
the checks has its controls probed. -/
def GivesBack (r : DeviceRun) : DeviceCall → Prop
  | .openDevice env => r.cam.mFd = none → env.fd ≠ none →
      if env.usable then v4l2ProbeCtrl env.probe = true else env.cleanup.reqbufs = true
  | .close env => r.cam.mFd ≠ none → env.reqbufs = true

section Call

variable {cam : AlviumCam}

/-- The last two branches are for capabilities that the first check refuses. -/
theorem openDevice_of_closed (h : cam.mFd = none) (env : OpenEnv) :
    cam.openDevice env =
      if env.usable then { cam with mFd := env.fd }.probe env capVideoCapture
      else { cam with mFd := env.fd }.giveUp env := by
  rw [AlviumCam.openDevice, h, OpenEnv.usable]
  cases env.queryCap with
  | none => rfl
  | some caps =>
    rcases Bool.eq_false_or_eq_true (hasCap caps capVideoCapture) with hc | hc <;>
      rcases Bool.eq_false_or_eq_true (hasCap caps capVideoCaptureMplane) with hm | hm <;>
      rcases Bool.eq_false_or_eq_true (hasCap caps capStreaming) with hs | hs <;>
      simp [hc, hm, hs]

theorem close_of_closed (h : cam.mFd = none) (env : CloseEnv) :
    cam.close env = (cam, true, []) := by
  rw [AlviumCam.close, h]

theorem close_of_open {fd : Nat} (h : cam.mFd = some fd) (env : CloseEnv) :
    (cam.close env).1.mFd = (if env.reqbufs then none else some fd) ∧
      (cam.close env).2.2 = if env.reqbufs then [.closed fd] else [] := by
  rw [AlviumCam.close, h]
  cases env.reqbufs <;> exact ⟨rfl, rfl⟩

/-- Every outcome of `open` that succeeds. -/
def fineOpen : OpenEnv :=
  ⟨some 5, some 0x04000001, ⟨[0x30334C58], .einval⟩, ⟨true, ⟨[], .einval⟩⟩, ⟨true, true, true⟩⟩

theorem canOpen_of_closed (h : cam.mFd = none) : CanOpen cam := by
  refine ⟨fineOpen, ?_⟩
  rw [openDevice_of_closed h]
  rfl

theorem mFd_close_iff (env : CloseEnv) :
    (cam.close env).1.mFd = none ↔ (cam.mFd ≠ none → env.reqbufs = true) := by
  cases h : cam.mFd with
  | none =>
    rw [close_of_closed h]
    exact iff_of_true h (fun hne => absurd rfl hne)
  | some fd =>
    rw [(close_of_open h env).1]
    cases env.reqbufs <;> simp

theorem openDevice_some {fd : Nat} {env : OpenEnv} (h : cam.mFd = none) (hfd : env.fd = some fd) :
    ((cam.openDevice env).2.1 = false →
      (cam.openDevice env).1.mFd = none ∧ FdEvent.closed fd ∈ (cam.openDevice env).2.2) ↔
      if env.usable then v4l2ProbeCtrl env.probe = true else env.cleanup.reqbufs = true := by
  rw [openDevice_of_closed h]
  cases env.usable with
  | true =>
    rw [if_pos rfl, if_pos rfl, AlviumCam.probe, hfd]
    cases v4l2ProbeCtrl env.probe <;> simp
  | false =>
    rw [if_neg Bool.false_ne_true, if_neg Bool.false_ne_true, AlviumCam.giveUp]
    obtain ⟨hmFd, hevents⟩ := @close_of_open { cam with mFd := env.fd } fd hfd env.cleanup
    rw [hmFd, hevents, OpenEnv.events, hfd]
    cases env.cleanup.reqbufs <;> simp

theorem openDevice_none {env : OpenEnv} (h : cam.mFd = none) (hfd : env.fd = none) :
    (cam.openDevice env).1.mFd = none ∧ (cam.openDevice env).2.2 = [] := by
  rw [openDevice_of_closed h]
  split
  · rw [AlviumCam.probe, OpenEnv.events, hfd]
    split <;> exact ⟨rfl, rfl⟩
  · rw [AlviumCam.giveUp, close_of_closed hfd, OpenEnv.events, hfd]
    exact ⟨rfl, rfl⟩

theorem opened_not_mem_close (env : CloseEnv) (fd : Nat) :
    FdEvent.opened fd ∉ (cam.close env).2.2 := by
  cases h : cam.mFd with
  | none =>
    rw [close_of_closed h]
    exact List.not_mem_nil
  | some fd' =>
    rw [(close_of_open h env).2]
    cases env.reqbufs <;> simp

theorem eq_of_opened_mem {env : OpenEnv} (h : cam.mFd = none) {fd : Nat}
    (hfd : FdEvent.opened fd ∈ (cam.openDevice env).2.2) : env.fd = some fd := by
  have hevents : FdEvent.opened fd ∈ env.events := by
    rw [openDevice_of_closed h] at hfd
    split at hfd
    · rw [AlviumCam.probe] at hfd
      split at hfd <;> exact hfd
    · rw [AlviumCam.giveUp] at hfd
      rcases List.mem_append.mp hfd with hfd | hfd
      · exact hfd
      · exact absurd hfd (opened_not_mem_close _ _)
  rw [OpenEnv.events] at hevents
  cases henv : env.fd with
  | none => rw [henv] at hevents; cases hevents
  | some fd' =>
    rw [henv] at hevents
    obtain rfl := FdEvent.opened.inj (List.mem_singleton.mp hevents)
    rfl

theorem allOrNothing_open_iff (h : cam.mFd = none) (env : OpenEnv) :
    ((cam.openDevice env).2.1 = false → (cam.openDevice env).1.mFd = none ∧
        CanOpen (cam.openDevice env).1 ∧
        ∀ fd, .opened fd ∈ (cam.openDevice env).2.2 → .closed fd ∈ (cam.openDevice env).2.2) ↔
      (env.fd ≠ none →
        if env.usable then v4l2ProbeCtrl env.probe = true else env.cleanup.reqbufs = true) := by
  cases hfd : env.fd with
  | none =>
    obtain ⟨hnone, hevents⟩ := openDevice_none h hfd
    refine iff_of_true (fun _ => ⟨hnone, canOpen_of_closed hnone, fun fd hmem => ?_⟩)
      (fun hne => absurd rfl hne)
    rw [hevents] at hmem
    cases hmem
  | some fd =>
    rw [← openDevice_some h hfd]
    constructor
    · intro hall _ hret
      obtain ⟨hnone, -, hclosed⟩ := hall hret
      refine ⟨hnone, hclosed fd ?_⟩
      -- the descriptor is recorded on every path
      rw [openDevice_of_closed h]
      split
      · rw [AlviumCam.probe, OpenEnv.events, hfd]
        split <;> exact List.mem_singleton_self _
      · rw [AlviumCam.giveUp, OpenEnv.events, hfd]
        exact List.mem_append_left _ (List.mem_singleton_self _)
    · intro hgives hret
      obtain ⟨hnone, hclosed⟩ := hgives (by simp) hret
      refine ⟨hnone, canOpen_of_closed hnone, fun fd' hmem => ?_⟩
      obtain rfl : fd = fd' := Option.some.inj (hfd.symm.trans (eq_of_opened_mem h hmem))
      exact hclosed

end Call

/-- **One call is all or nothing exactly when it gives back what it gives up.** -/
theorem allOrNothing_step {r r' : DeviceRun} {call : DeviceCall}
    (hst : deviceCalls.step r call = some r') : AllOrNothing r' ↔ GivesBack r call := by
  obtain rfl := Option.some.inj hst
  have hreport : ∀ P : DeviceReport → Prop, ∀ rep, (∀ rep', some rep = some rep' → P rep') ↔ P rep :=
    fun P rep => ⟨fun h => h rep rfl, fun h rep' heq => Option.some.inj heq ▸ h⟩
  rw [AllOrNothing, hreport]
  cases call with
  | openDevice env =>
    show (_ → r.cam.mFd = none → _) ↔ (r.cam.mFd = none → _)
    cases h : r.cam.mFd with
    | none =>
      have hiff := allOrNothing_open_iff h env
      exact ⟨fun hall _ => hiff.mp (fun hret => hall hret rfl),
        fun hgives hret _ => hiff.mpr (hgives rfl) hret⟩
    | some fd => exact iff_of_true (fun _ hne => nomatch hne) (fun hne => nomatch hne)
  | close env => exact mFd_close_iff env

/-- **Every call of a run is all or nothing exactly when every call gives back what it gives
up.** -/
theorem device_allOrNothing_iff (bufferType : UInt32) (calls : List DeviceCall) :
    deviceCalls.Always AllOrNothing ⟨.new bufferType, none⟩ calls ↔
      deviceCalls.Meets GivesBack ⟨.new bufferType, none⟩ calls := by
  apply TransSys.always_iff_meets (I := fun _ => True)
  · intro r call r' _ _ hst
    exact ⟨fun _ => trivial, allOrNothing_step hst⟩
  · intro r call _ _ hst
    cases hst
  · trivial
  · rintro _ ⟨⟩

/-- The controls cannot be probed: `open` fails with its descriptor open, and every later `open`
fails with it.  `close` does the same when the device refuses to free its buffers. -/
theorem device_open_leaks :
    (∃ r, deviceCalls.run ⟨.new 0, none⟩
        [.openDevice { fineOpen with probe := ⟨true, ⟨[], .other⟩⟩ }] = some r ∧
      r.cam.mFd = some 5 ∧ (r.cam.openDevice fineOpen).2.1 = false ∧ ¬ AllOrNothing r) ∧
    ∃ r, deviceCalls.run ⟨.new 0, none⟩ [.openDevice fineOpen, .close ⟨true, false, true⟩] = some r ∧
      r.cam.mFd = some 5 ∧ ¬ AllOrNothing r := by
  refine ⟨⟨_, rfl, rfl, rfl, fun h => ?_⟩, ⟨_, rfl, rfl, fun h => ?_⟩⟩
  · cases (h _ rfl rfl rfl).1
  · cases h _ rfl

end Opaleye.Camera
