import Opaleye.Camera.Device
import Opaleye.Camera.Trigger
import Mathlib.Data.List.TakeWhile

/-!
# Bringing up the camera pipe

`V4L2_alvium_pipe::init` opens the camera, maps its buffers, sets the trigger,
builds the GStreamer elements and starts streaming.  `Alvium_v4l2::init` asks the
driver for buffers and maps them one by one, and a buffer that is mapped is
registered by its index and by its address.

A camera that could not be opened or whose buffers could not all be mapped is logged
and nothing else, so a pipe with some of the buffers can still start streaming:
`registered` has the buffers that are mapped before the first that is not, and
`init_complete_iff` says when these are all.
-/

namespace Opaleye.Camera

/-! ### `Alvium_v4l2::init` -/

/-- The outcomes of the ioctls and of `mmap`.  Two mappings never have the same address,
since none is taken down. -/
structure CamInitEnv where
  getFmt : Bool
  setFmt : Bool
  getFmtAgain : Bool
  reqbufs : Option Nat
  querybuf : Nat → Bool
  mmap : Nat → Option Nat
  mmap_injective : ∀ i j addr, mmap i = some addr → mmap j = some addr → i = j

/-- `V4L2_BUF_TYPE_VIDEO_CAPTURE` -/
def bufTypeVideoCapture : UInt32 := 1

/-- `V4L2_BUF_TYPE_VIDEO_CAPTURE_MPLANE` -/
def bufTypeVideoCaptureMplane : UInt32 := 9

namespace AlviumCam

/-- The two `insert`s at the end of the loop. -/
def register (cam : AlviumCam) (b : MmapBuffer) : AlviumCam :=
  { cam with bufByIdx := cam.bufByIdx.emplace b.index b, bufByPtr := cam.bufByPtr.emplace b.ptr b }

/-- The loop over the buffers; a buffer of several planes is refused with an exception. -/
def initBuffers (cam : AlviumCam) (env : CamInitEnv) : List Nat → AlviumCam × Exit
  | [] => (cam, .returned true)
  | i :: rest =>
    if env.querybuf i = false then (cam, .returned false)
    else if cam.mBufferType = bufTypeVideoCaptureMplane then (cam, .threw)
    else
      match env.mmap i with
      | none => (cam, .returned false)
      | some addr => (cam.register ⟨i, addr⟩).initBuffers env rest

/-- `Alvium_v4l2::init` -/
def init (cam : AlviumCam) (env : CamInitEnv) : AlviumCam × Exit :=
  if cam.fmtDescs.isEmpty then (cam, .returned false)
  else if env.getFmt = false then (cam, .returned false)
  else if cam.mBufferType ≠ bufTypeVideoCapture ∧ cam.mBufferType ≠ bufTypeVideoCaptureMplane then
    (cam, .returned false)
  else if env.setFmt = false then (cam, .returned false)
  else if env.getFmtAgain = false then (cam, .returned false)
  else
    match env.reqbufs with
    | none => (cam, .returned false)
    | some n =>
      let cam := { cam with granted := some n }
      if n = 0 then (cam, .returned false) else cam.initBuffers env (List.range n)

end AlviumCam

/-! ### `V4L2_alvium_pipe::init` -/

/-- `v4l2_fourcc` -/
def v4l2Fourcc (a b c d : Char) : UInt32 :=
  a.val ||| b.val <<< 8 ||| c.val <<< 16 ||| d.val <<< 24

/-- The formats that have caps and a frame callback. -/
def pixFmts : List UInt32 :=
  [v4l2Fourcc 'R' 'G' 'G' 'B', v4l2Fourcc 'J' 'X' 'R' '0', v4l2Fourcc 'J' 'X' 'R' '2',
    v4l2Fourcc 'G' 'R' 'E' 'Y', v4l2Fourcc 'J' 'X' 'Y' '0', v4l2Fourcc 'J' 'X' 'Y' '2',
    v4l2Fourcc 'X' 'R' '2' '4']

/-- How the GStreamer elements are built. -/
inductive GstBuild
  | built
  | failed
  | threw
  deriving DecidableEq, Repr

structure AlviumPipe where
  mFourcc : UInt32
  trigger : Trigger
  mCam : Option AlviumCam

structure PipeInitEnv where
  bufferType : UInt32
  opening : OpenEnv
  cam : CamInitEnv
  trigger : Nat → Bool
  gst : GstBuild
  launches : Bool
  qbuf : Nat → Bool
  streamon : Bool

/-- The second half of `init`: the trigger, the elements, the frame worker and the stream. -/
def AlviumPipe.start (p : AlviumPipe) (env : PipeInitEnv) (cam : AlviumCam) : AlviumPipe × Exit :=
  let t := p.trigger.setTriggerMode env.trigger p.trigger.mTriggerMode
  let p := { p with mCam := some cam, trigger := t.1 }
  if t.2 = false then (p, .returned false)
  else if p.mFourcc ∉ pixFmts then (p, .returned false)
  else
    match env.gst with
    | .failed => (p, .returned false)
    | .threw => (p, .threw)
    | .built =>
      if env.launches = false then (p, .threw)
      else
        let s := startStreaming cam.driver env.qbuf env.streamon cam.bufByIdx.keys
        ({ p with mCam := some { cam with driver := s.1 } }, .returned s.2)

/-- The camera after `open` and its own `init`, and how that is left. -/
def PipeInitEnv.camera (env : PipeInitEnv) : AlviumCam × Exit :=
  ((AlviumCam.new env.bufferType).openDevice env.opening).1.init env.cam

/-- `V4L2_alvium_pipe::init`; what `open` and the camera's `init` return is only logged. -/
def AlviumPipe.init (p : AlviumPipe) (env : PipeInitEnv) : AlviumPipe × Exit :=
  match env.camera.2 with
  | .threw => ({ p with mCam := some env.camera.1 }, .threw)
  | .returned _ => p.start env env.camera.1

/-! ### What should hold -/

/-- The camera is open and streaming, with all `n` buffers that were granted registered by
index and by address and queued. -/
structure Complete (cam : AlviumCam) (n : Nat) : Prop where
  device : cam.mFd ≠ none
  granted : cam.granted = some n
  byIdx : ∀ i, cam.bufByIdx.find i ≠ none ↔ i < n
  index : ∀ i b, cam.bufByIdx.find i = some b → b.index = i
  byPtr : ∀ addr b, cam.bufByPtr.find addr = some b ↔
    b.ptr = addr ∧ ∃ i, cam.bufByIdx.find i = some b
  queued : ∀ i, i < n → i ∈ cam.driver.queue
  streaming : cam.driver.streaming = true

/-- A pipe that reports success has a complete camera. -/
def CompleteWhenTrue (r : AlviumPipe × Exit) : Prop :=
  r.2 = .returned true → ∃ cam n, r.1.mCam = some cam ∧ Complete cam n

/-! ### The buffers -/

/-- The buffer is queried and mapped. -/
def CamInitEnv.maps (env : CamInitEnv) (i : Nat) : Bool := env.querybuf i && (env.mmap i).isSome

/-- The buffers of `l`, and no others, are registered. -/
structure Registered (env : CamInitEnv) (l : List Nat) (cam : AlviumCam) : Prop where
  byIdx : ∀ i b, cam.bufByIdx.find i = some b ↔ i ∈ l ∧ b.index = i ∧ env.mmap i = some b.ptr
  byPtr : ∀ addr b, cam.bufByPtr.find addr = some b ↔
    b.index ∈ l ∧ b.ptr = addr ∧ env.mmap b.index = some addr

section Buffers

variable {env : CamInitEnv} {cam : AlviumCam} {l : List Nat}

theorem registered_nil (hidx : cam.bufByIdx = .empty) (hptr : cam.bufByPtr = .empty) :
    Registered env [] cam := by
  constructor
  · intro i b
    rw [hidx, StdMap.find_empty]
    simp
  · intro addr b
    rw [hptr, StdMap.find_empty]
    simp

theorem Registered.byIdx_none (h : Registered env l cam) {i : Nat} (hi : i ∉ l) :
    cam.bufByIdx.find i = none := by
  cases hb : cam.bufByIdx.find i with
  | none => rfl
  | some b => exact absurd ((h.byIdx i b).mp hb).1 hi

theorem Registered.byPtr_none (h : Registered env l cam) {i addr : Nat} (hi : i ∉ l)
    (hmap : env.mmap i = some addr) : cam.bufByPtr.find addr = none := by
  cases hb : cam.bufByPtr.find addr with
  | none => rfl
  | some b =>
    obtain ⟨hmem, -, hmap'⟩ := (h.byPtr addr b).mp hb
    have hindex := env.mmap_injective _ _ _ hmap' hmap
    exact absurd (hindex ▸ hmem) hi

theorem Registered.register (h : Registered env l cam) {i addr : Nat} (hi : i ∉ l)
    (hmap : env.mmap i = some addr) : Registered env (l ++ [i]) (cam.register ⟨i, addr⟩) := by
  constructor
  · intro j b
    show (cam.bufByIdx.emplace i ⟨i, addr⟩).find j = some b ↔ _
    rw [StdMap.find_emplace, h.byIdx_none hi, List.mem_append, List.mem_singleton]
    by_cases hj : j = i
    · subst hj
      rw [if_pos rfl]
      constructor
      · rintro ⟨⟩
        exact ⟨.inr rfl, rfl, hmap⟩
      · rintro ⟨-, hindex, hb⟩
        rw [hmap] at hb
        obtain rfl := Option.some.inj hb
        obtain rfl := hindex
        rfl
    · rw [if_neg hj, h.byIdx]
      simp only [hj, or_false]
  · intro a b
    show (cam.bufByPtr.emplace addr ⟨i, addr⟩).find a = some b ↔ _
    rw [StdMap.find_emplace, h.byPtr_none hi hmap, List.mem_append, List.mem_singleton]
    by_cases ha : a = addr
    · subst ha
      rw [if_pos rfl]
      constructor
      · rintro ⟨⟩
        exact ⟨.inr rfl, rfl, hmap⟩
      · rintro ⟨-, hb, hmap'⟩
        have hindex := env.mmap_injective _ _ _ hmap' hmap
        obtain ⟨index, ptr⟩ := b
        obtain rfl : index = i := hindex
        obtain rfl : ptr = a := hb
        rfl
    · rw [if_neg ha, h.byPtr]
      constructor
      · rintro ⟨hmem, hb⟩
        exact ⟨.inl hmem, hb⟩
      · rintro ⟨hmem | hmem, hb, hmap'⟩
        · exact ⟨hmem, hb, hmap'⟩
        · rw [hmem, hmap] at hmap'
          exact absurd (Option.some.inj hmap').symm ha

/-- What the loop leaves, and what it does not touch. -/
structure AfterLoop (env : CamInitEnv) (l : List Nat) (cam cam' : AlviumCam) : Prop where
  registered : Registered env l cam'
  mFd : cam'.mFd = cam.mFd
  driver : cam'.driver = cam.driver
  granted : cam'.granted = cam.granted

/-- **The loop registers the buffers before the first that cannot be mapped.** -/
theorem initBuffers_spec (env : CamInitEnv) : ∀ (todo : List Nat) {before : List Nat}
    {cam : AlviumCam}, (before ++ todo).Nodup → Registered env before cam →
    cam.mBufferType = bufTypeVideoCapture →
    AfterLoop env (before ++ todo.takeWhile env.maps) cam (cam.initBuffers env todo).1 ∧
      ∃ ok, (cam.initBuffers env todo).2 = .returned ok := by
  intro todo
  induction todo with
  | nil =>
    intro before cam _ h _
    rw [List.takeWhile_nil, List.append_nil]
    exact ⟨⟨h, rfl, rfl, rfl⟩, true, rfl⟩
  | cons i rest ih =>
    intro before cam hnodup h htype
    have hstop : env.maps i = false → AfterLoop env (before ++ (i :: rest).takeWhile env.maps) cam cam := by
      intro hi
      rw [List.takeWhile_cons, hi, if_neg Bool.false_ne_true, List.append_nil]
      exact ⟨h, rfl, rfl, rfl⟩
    rw [AlviumCam.initBuffers]
    split
    · next hquery =>
      refine ⟨hstop ?_, false, rfl⟩
      rw [CamInitEnv.maps, hquery, Bool.false_and]
    · next hquery =>
      rw [htype, if_neg (by decide)]
      cases hmap : env.mmap i with
      | none =>
        refine ⟨hstop ?_, false, rfl⟩
        rw [CamInitEnv.maps, hmap, Option.isSome_none, Bool.and_false]
      | some addr =>
        have hmaps : env.maps i = true := by
          rw [CamInitEnv.maps, hmap, Option.isSome_some, Bool.and_true]
          exact Bool.eq_true_of_not_eq_false hquery
        have hi : i ∉ before := fun hmem =>
          List.nodup_append.mp hnodup |>.2.2 i hmem i List.mem_cons_self rfl
        have hassoc : before ++ i :: rest = before ++ [i] ++ rest := by simp
        rw [hassoc] at hnodup
        obtain ⟨hafter, hret⟩ := ih hnodup (h.register hi hmap) htype
        refine ⟨?_, hret⟩
        rw [List.takeWhile_cons, hmaps, if_pos rfl]
        rw [List.append_assoc, List.singleton_append] at hafter
        exact ⟨hafter.registered, hafter.mFd, hafter.driver, hafter.granted⟩

end Buffers

/-! ### Streaming -/

theorem startStreaming_spec (qok : Nat → Bool) (on : Bool) : ∀ (l : List Nat) {d : Driver},
    (d.queue ++ l).Nodup →
    ((startStreaming d qok on l).2 = true ↔ (∀ b ∈ l, qok b = true) ∧ on = true) ∧
      ((startStreaming d qok on l).2 = true →
        (startStreaming d qok on l).1 = ⟨d.queue ++ l, true⟩) := by
  intro l
  induction l with
  | nil =>
    intro d _
    rw [startStreaming, Driver.streamon]
    cases on <;> simp
  | cons b l ih =>
    intro d hnodup
    have hb : b ∉ d.queue := fun hmem =>
      (List.nodup_append.mp hnodup).2.2 b hmem b List.mem_cons_self rfl
    rw [startStreaming]
    cases hq : qok b with
    | false =>
      have hqbuf : d.qbuf b false = (d, false) := if_pos (.inr rfl)
      rw [hqbuf, if_neg Bool.false_ne_true]
      simp [hq]
    | true =>
      have hqbuf : d.qbuf b true = ({ d with queue := d.queue ++ [b] }, true) :=
        if_neg (by simp [hb])
      rw [hqbuf, if_pos rfl]
      have hassoc : d.queue ++ b :: l = d.queue ++ [b] ++ l := by simp
      rw [hassoc] at hnodup ⊢
      obtain ⟨hiff, heq⟩ := ih (d := { d with queue := d.queue ++ [b] }) hnodup
      refine ⟨?_, heq⟩
      rw [hiff]
      simp [hq]

/-! ### When the camera is complete -/

/-- Nothing fails before the buffers are asked for: the device passes the checks, has formats
and takes the one it is given. -/
def PipeInitEnv.reaches (env : PipeInitEnv) : Bool :=
  env.opening.usable && !(enumFormatDescs env.opening.formats).1.isEmpty && env.cam.getFmt &&
    env.cam.setFmt && env.cam.getFmtAgain

/-- The buffers that are mapped before one is not. -/
def PipeInitEnv.registered (env : PipeInitEnv) : List Nat :=
  if env.reaches then (List.range (env.cam.reqbufs.getD 0)).takeWhile env.cam.maps else []

/-- Every buffer of the driver is mapped. -/
def PipeInitEnv.Granted (env : PipeInitEnv) : Prop :=
  env.opening.fd ≠ none ∧ env.reaches = true ∧
    ∃ n, env.cam.reqbufs = some n ∧ ∀ i < n, env.cam.maps i = true

/-- The ioctls of a trigger mode all succeed. -/
def TriggerSet (mode : List Char) (ok : Nat → Bool) : Prop :=
  (mode = "free".toList ∧ ok 0 = true) ∨ (mode = "sw".toList ∧ ok 0 = true ∧ ok 1 = true) ∨
    (mode = "hw".toList ∧ ok 0 = true ∧ ok 1 = true ∧ ok 2 = true)

/-- Nothing fails that is tried after the buffers. -/
structure Starts (p : AlviumPipe) (env : PipeInitEnv) : Prop where
  trigger : TriggerSet p.trigger.mTriggerMode env.trigger
  fourcc : p.mFourcc ∈ pixFmts
  gst : env.gst = .built
  launches : env.launches = true
  queued : ∀ i ∈ env.registered, env.qbuf i = true
  streamon : env.streamon = true

theorem setTriggerMode_true_iff {t : Trigger} {ok : Nat → Bool} {mode : List Char} :
    (t.setTriggerMode ok mode).2 = true ↔ TriggerSet mode ok := by
  rcases mode_cases mode with rfl | rfl | rfl | ⟨hfree, hhw, hsw⟩
  · rw [setTriggerMode_free]
    cases h0 : ok 0 <;> simp [TriggerSet, h0]
  · rw [setTriggerMode_sw]
    cases h0 : ok 0 <;> cases h1 : ok 1 <;> simp [TriggerSet, h0, h1]
  · rw [setTriggerMode_hw]
    cases h0 : ok 0 <;> cases h1 : ok 1 <;> cases h2 : ok 2 <;> simp [TriggerSet, h0, h1, h2]
  · rw [setTriggerMode_other hfree hhw hsw]
    refine iff_of_false Bool.false_ne_true ?_
    rintro (⟨h, -⟩ | ⟨h, -⟩ | ⟨h, -⟩)
    · exact hfree h
    · exact hsw h
    · exact hhw h

section Camera

variable (env : PipeInitEnv)

/-- What `open` and `init` leave of the camera. -/
structure Brought (r : AlviumCam × Exit) : Prop where
  returned : ∃ ok, r.2 = .returned ok
  registered : Registered env.cam env.registered r.1
  driver : r.1.driver = ⟨[], false⟩
  granted : ∀ n, env.reaches = true → env.cam.reqbufs = some n →
    r.1.granted = some n ∧ r.1.mFd = env.opening.fd
  refused : env.reaches = false ∨ env.cam.reqbufs = none → r.1.mFd = none ∨ r.1.granted = none

theorem brought_of_refused {cam : AlviumCam} (hreaches : env.reaches = false)
    (hidx : cam.bufByIdx = .empty) (hptr : cam.bufByPtr = .empty)
    (hdriver : cam.driver = ⟨[], false⟩) (hgranted : cam.mFd = none ∨ cam.granted = none) :
    Brought env (cam, .returned false) where
  returned := ⟨false, rfl⟩
  registered := by
    rw [PipeInitEnv.registered, hreaches, if_neg Bool.false_ne_true]
    exact registered_nil hidx hptr
  driver := hdriver
  granted := by
    intro n h
    rw [hreaches] at h
    cases h
  refused := fun _ => hgranted

/-- A fresh camera is closed, or the device keeps its buffers and with them the descriptor. -/
theorem close_fresh (fd : Option Nat) (bufferType : UInt32) (cleanup : CloseEnv) :
    let cam := ({ AlviumCam.new bufferType with mFd := fd }.close cleanup).1
    cam.fmtDescs = [] ∧ cam.bufByIdx = .empty ∧ cam.bufByPtr = .empty ∧ cam.driver = ⟨[], false⟩ ∧
      (cam.mFd = none ∨ cam.granted = none) := by
  obtain ⟨streamoff, reqbufs, closed⟩ := cleanup
  cases fd with
  | none => exact ⟨rfl, rfl, rfl, rfl, .inl rfl⟩
  | some fd =>
    cases reqbufs <;> cases streamoff
    · exact ⟨rfl, rfl, rfl, rfl, .inr rfl⟩
    · exact ⟨rfl, rfl, rfl, rfl, .inr rfl⟩
    · exact ⟨rfl, rfl, rfl, rfl, .inl rfl⟩
    · exact ⟨rfl, rfl, rfl, rfl, .inl rfl⟩

theorem brought_of_not_usable (h : env.opening.usable = false) : Brought env env.camera := by
  have hreaches : env.reaches = false := by
    rw [PipeInitEnv.reaches, h]
    rfl
  have hopen : ((AlviumCam.new env.bufferType).openDevice env.opening).1
      = ({ AlviumCam.new env.bufferType with mFd := env.opening.fd }.close env.opening.cleanup).1 := by
    rw [openDevice_of_closed rfl, h]
    rfl
  obtain ⟨hfmt, hidx, hptr, hdriver, hgranted⟩ :=
    close_fresh env.opening.fd env.bufferType env.opening.cleanup
  rw [PipeInitEnv.camera, hopen, AlviumCam.init, hfmt]
  exact brought_of_refused env hreaches hidx hptr hdriver hgranted

/-- The camera that `open` makes of a device that passes the checks, whether its controls can be
probed or not. -/
def PipeInitEnv.openedCam : AlviumCam :=
  { AlviumCam.new capVideoCapture with
    mFd := env.opening.fd
    fmtDescs := (enumFormatDescs env.opening.formats).1 }

theorem camera_of_usable (h : env.opening.usable = true) :
    env.camera = env.openedCam.init env.cam := by
  rw [PipeInitEnv.camera, openDevice_of_closed rfl, h, if_pos rfl, AlviumCam.probe]
  split <;> rfl

theorem init_of_not_reaches (h : env.opening.usable = true) (hreaches : env.reaches = false) :
    env.openedCam.init env.cam = (env.openedCam, .returned false) := by
  have hfmt : env.openedCam.fmtDescs = (enumFormatDescs env.opening.formats).1 := rfl
  rw [PipeInitEnv.reaches, h] at hreaches
  unfold AlviumCam.init
  rw [hfmt]
  cases hdescs : (enumFormatDescs env.opening.formats).1.isEmpty
  · cases hget : env.cam.getFmt
    · rfl
    · cases hset : env.cam.setFmt
      · rfl
      · cases hagain : env.cam.getFmtAgain
        · rfl
        · rw [hdescs, hget, hset, hagain] at hreaches
          cases hreaches
  · rfl

theorem init_of_reaches (hreaches : env.reaches = true) :
    env.openedCam.init env.cam =
      match env.cam.reqbufs with
      | none => (env.openedCam, .returned false)
      | some n =>
        if n = 0 then ({ env.openedCam with granted := some n }, .returned false)
        else { env.openedCam with granted := some n }.initBuffers env.cam (List.range n) := by
  have hfmt : env.openedCam.fmtDescs = (enumFormatDescs env.opening.formats).1 := rfl
  have htype : env.openedCam.mBufferType = bufTypeVideoCapture := rfl
  simp only [PipeInitEnv.reaches, Bool.and_eq_true, Bool.not_eq_true'] at hreaches
  obtain ⟨⟨⟨⟨-, hdescs⟩, hget⟩, hset⟩, hagain⟩ := hreaches
  unfold AlviumCam.init
  rw [hfmt, hdescs, hget, hset, hagain, htype]
  rfl

theorem brought_of_usable (h : env.opening.usable = true) : Brought env env.camera := by
  rw [camera_of_usable env h]
  cases hreaches : env.reaches with
  | false =>
    rw [init_of_not_reaches env h hreaches]
    exact brought_of_refused env hreaches rfl rfl rfl (.inr rfl)
  | true =>
    rw [init_of_reaches env hreaches]
    cases hreq : env.cam.reqbufs with
    | none =>
      refine ⟨⟨false, rfl⟩, ?_, rfl, fun n _ hn => ?_, fun _ => .inr rfl⟩
      · rw [PipeInitEnv.registered, hreaches, if_pos rfl, hreq]
        exact registered_nil rfl rfl
      · rw [hreq] at hn
        cases hn
    | some n =>
      have hnot : ¬ (env.reaches = false ∨ env.cam.reqbufs = none) := by
        rw [hreaches, hreq]
        simp
      have hn : ∀ m, env.cam.reqbufs = some m → n = m :=
        fun m hm => Option.some.inj (hreq.symm.trans hm)
      have hregistered : env.registered = (List.range n).takeWhile env.cam.maps := by
        rw [PipeInitEnv.registered, hreaches, if_pos rfl, hreq]
        rfl
      dsimp only
      split
      · next hzero =>
        subst hzero
        refine ⟨⟨false, rfl⟩, ?_, rfl, fun m _ hm => ?_, fun h => absurd h hnot⟩
        · rw [hregistered]
          exact registered_nil rfl rfl
        · obtain rfl := hn m hm
          exact ⟨rfl, rfl⟩
      · obtain ⟨hafter, hret⟩ := @initBuffers_spec env.cam (List.range n) []
          { env.openedCam with granted := some n } List.nodup_range (registered_nil rfl rfl) rfl
        refine ⟨hret, ?_, hafter.driver, fun m _ hm => ?_, fun h => absurd h hnot⟩
        · rw [hregistered]
          exact hafter.registered
        · obtain rfl := hn m hm
          exact ⟨hafter.granted, hafter.mFd⟩

theorem brought_camera : Brought env env.camera := by
  cases h : env.opening.usable with
  | false => exact brought_of_not_usable env h
  | true => exact brought_of_usable env h

theorem maps_of_mem_registered {i : Nat} (h : i ∈ env.registered) : env.cam.maps i = true := by
  rw [PipeInitEnv.registered] at h
  split at h
  · exact List.mem_takeWhile_imp h
  · cases h

theorem mem_keys_camera_iff (i : Nat) :
    i ∈ env.camera.1.bufByIdx.keys ↔ i ∈ env.registered := by
  have hreg := (brought_camera env).registered
  rw [StdMap.mem_keys_iff, Option.ne_none_iff_exists']
  constructor
  · rintro ⟨b, hb⟩
    exact ((hreg.byIdx i b).mp hb).1
  · intro hmem
    have hmaps := maps_of_mem_registered env hmem
    rw [CamInitEnv.maps, Bool.and_eq_true, Option.isSome_iff_exists] at hmaps
    obtain ⟨-, addr, haddr⟩ := hmaps
    exact ⟨⟨i, addr⟩, (hreg.byIdx i _).mpr ⟨hmem, rfl, haddr⟩⟩

/-- The camera, streaming. -/
def PipeInitEnv.streamingCam : AlviumCam :=
  { env.camera.1 with driver := ⟨env.camera.1.bufByIdx.keys, true⟩ }

/-- **A camera that streams is complete exactly when every buffer was mapped.** -/
theorem complete_streamingCam_iff : (∃ n, Complete env.streamingCam n) ↔ env.Granted := by
  have hbr := brought_camera env
  constructor
  · rintro ⟨n, hdevice, hgranted, hidx, -, -, -, -⟩
    have hnot : ¬ (env.reaches = false ∨ env.cam.reqbufs = none) := by
      intro h
      rcases hbr.refused h with hnone | hnone
      · exact hdevice hnone
      · cases hnone.symm.trans hgranted
    rw [not_or, Bool.not_eq_false] at hnot
    obtain ⟨hreaches, hreq⟩ := hnot
    obtain ⟨m, hm⟩ := Option.ne_none_iff_exists'.mp hreq
    obtain ⟨hgranted', hmFd⟩ := hbr.granted m hreaches hm
    obtain rfl : m = n := Option.some.inj (hgranted'.symm.trans hgranted)
    refine ⟨fun hnone => hdevice (hmFd.trans hnone), hreaches, m, hm, fun i hi => ?_⟩
    have hfind := (hidx i).mpr hi
    exact maps_of_mem_registered env
      ((mem_keys_camera_iff env i).mp ((StdMap.mem_keys_iff _ _).mpr hfind))
  · rintro ⟨hfd, hreaches, n, hn, hmaps⟩
    have hregistered : env.registered = List.range n := by
      rw [PipeInitEnv.registered, hreaches, if_pos rfl, hn]
      exact List.takeWhile_eq_self_iff.mpr (fun i hi => hmaps i (List.mem_range.mp hi))
    have hkeys : ∀ i, i ∈ env.camera.1.bufByIdx.keys ↔ i < n := by
      intro i
      rw [mem_keys_camera_iff, hregistered, List.mem_range]
    obtain ⟨hgranted, hmFd⟩ := hbr.granted n hreaches hn
    refine ⟨n, fun hnone => hfd (hmFd.symm.trans hnone), hgranted, fun i => ?_, fun i b hb => ?_,
      fun addr b => ?_, fun i hi => (hkeys i).mpr hi, rfl⟩
    · exact (StdMap.mem_keys_iff _ _).symm.trans (hkeys i)
    · exact ((hbr.registered.byIdx i b).mp hb).2.1
    · refine (hbr.registered.byPtr addr b).trans ?_
      constructor
      · rintro ⟨hmem, hptr, hmap⟩
        exact ⟨hptr, b.index, (hbr.registered.byIdx _ b).mpr ⟨hmem, rfl, hptr ▸ hmap⟩⟩
      · rintro ⟨hptr, i, hb⟩
        obtain ⟨hmem, rfl, hmap⟩ := (hbr.registered.byIdx i b).mp hb
        exact ⟨hmem, hptr, hptr ▸ hmap⟩

theorem startStreaming_camera :
    ((startStreaming env.camera.1.driver env.qbuf env.streamon env.camera.1.bufByIdx.keys).2 = true ↔
        (∀ i ∈ env.registered, env.qbuf i = true) ∧ env.streamon = true) ∧
      ((startStreaming env.camera.1.driver env.qbuf env.streamon env.camera.1.bufByIdx.keys).2 = true →
        (startStreaming env.camera.1.driver env.qbuf env.streamon env.camera.1.bufByIdx.keys).1
          = ⟨env.camera.1.bufByIdx.keys, true⟩) := by
  have hspec := @startStreaming_spec env.qbuf env.streamon env.camera.1.bufByIdx.keys ⟨[], false⟩
    (StdMap.nodup_keys _)
  rw [(brought_camera env).driver]
  simp only [mem_keys_camera_iff env] at hspec
  exact hspec

end Camera

/-- **A pipe reports success exactly when nothing fails that is tried after the buffers.** -/
theorem init_true_iff (p : AlviumPipe) (env : PipeInitEnv) :
    ((p.init env).2 = .returned true ↔ Starts p env) ∧
      ((p.init env).2 = .returned true → (p.init env).1.mCam = some env.streamingCam) := by
  obtain ⟨hstart, hdriver⟩ := startStreaming_camera env
  obtain ⟨ok, hok⟩ := (brought_camera env).returned
  have htrigger := @setTriggerMode_true_iff p.trigger env.trigger p.trigger.mTriggerMode
  have hfail : ∀ {p' : AlviumPipe} {e : Exit}, e ≠ .returned true → ¬ Starts p env →
      ((p', e).2 = .returned true ↔ Starts p env) ∧
        ((p', e).2 = .returned true → (p', e).1.mCam = some env.streamingCam) :=
    fun he hs => ⟨iff_of_false he hs, fun hret => absurd hret he⟩
  rw [AlviumPipe.init, hok]
  dsimp only
  rw [AlviumPipe.start]
  -- every exit but the last returns `false` or throws
  by_cases ht : (p.trigger.setTriggerMode env.trigger p.trigger.mTriggerMode).2 = false
  · rw [if_pos ht]
    refine hfail (by simp) (fun hs => ?_)
    rw [htrigger.mpr hs.trigger] at ht
    cases ht
  · rw [if_neg ht]
    rw [Bool.not_eq_false] at ht
    by_cases hf : p.mFourcc ∈ pixFmts
    · rw [if_neg (not_not.mpr hf)]
      cases hgst : env.gst with
      | failed => exact hfail (by simp) (fun hs => nomatch hgst.symm.trans hs.gst)
      | threw => exact hfail (by simp) (fun hs => nomatch hgst.symm.trans hs.gst)
      | built =>
        cases hl : env.launches with
        | false => exact hfail (by simp) (fun hs => nomatch hl.symm.trans hs.launches)
        | true =>
          dsimp only
          rw [if_neg (by simp), Exit.returned.injEq, hstart]
          refine ⟨⟨fun h => ⟨htrigger.mp ht, hf, hgst, hl, h.1, h.2⟩,
            fun hs => ⟨hs.queued, hs.streamon⟩⟩, fun h => ?_⟩
          rw [hdriver (hstart.mpr h)]
          rfl
    · rw [if_pos hf]
      exact hfail (by simp) (fun hs => hf hs.fourcc)

/-- **A pipe that reports success is complete exactly when every buffer was mapped, or something
after the buffers failed.** -/
theorem init_complete_iff (p : AlviumPipe) (env : PipeInitEnv) :
    CompleteWhenTrue (p.init env) ↔ (Starts p env → env.Granted) := by
  obtain ⟨htrue, hcam⟩ := init_true_iff p env
  rw [CompleteWhenTrue, ← htrue]
  constructor
  · intro h hret
    obtain ⟨cam, n, hmCam, hcomplete⟩ := h hret
    obtain rfl := Option.some.inj (hmCam.symm.trans (hcam hret))
    exact (complete_streamingCam_iff env).mp ⟨n, hcomplete⟩
  · intro h hret
    obtain ⟨n, hcomplete⟩ := (complete_streamingCam_iff env).mpr (h hret)
    exact ⟨_, n, hcam hret, hcomplete⟩

/-- Three buffers are granted, and only the first can be mapped. -/
def oneMapped : CamInitEnv where
  getFmt := true
  setFmt := true
  getFmtAgain := true
  reqbufs := some 3
  querybuf _ := true
  mmap i := if i = 0 then some 4096 else none
  mmap_injective := by
    intro i j addr hi hj
    split at hi
    · split at hj
      · omega
      · cases hj
    · cases hi

/-- The pipe streams with one buffer of three and reports success. -/
theorem init_true_with_one_buffer :
    let p : AlviumPipe := ⟨v4l2Fourcc 'J' 'X' 'R' '0', ⟨"free".toList, ⟨false, .software, .risingEdge⟩⟩, none⟩
    let env : PipeInitEnv :=
      ⟨0, fineOpen, oneMapped, fun _ => true, .built, true, fun _ => true, true⟩
    (p.init env).2 = .returned true ∧ ¬ CompleteWhenTrue (p.init env) := by
  intro p env
  have hret : (p.init env).2 = .returned true := by decide
  refine ⟨hret, fun h => ?_⟩
  obtain ⟨cam, n, hcam, hcomplete⟩ := h hret
  obtain rfl := Option.some.inj hcam
  obtain rfl : 3 = n := Option.some.inj hcomplete.granted
  exact absurd ((hcomplete.byIdx 1).mpr (by omega)) (by decide)

end Opaleye.Camera
