import Opaleye.Lib.LockedThreads
import Opaleye.Camera.PipeInit

/-!
# Frames on the publish socket

The frame worker of every camera hands its frames to the callback that `V4L2_alvium_pipe::init`
chose for the pixel format.  The callback copies the frame into a new `m_frame_buffer` and passes it
to the lambda that `main` registered, which sends it with `zeromq_api_svr::send` as a message of
three parts: topic, metadata, payload.

Two kinds of mutex are involved.  `m_frame_buffer_mutex` belongs to a camera, and only its worker and
`set_framebuffer_callback` take it, so it is held or not by the place of the worker.
`m_pub_socket_mutex` belongs to the socket, which all cameras share.

`frames_published` says what a subscriber can rely on: the socket carries whole messages only, a
frame under its own metadata, and those of a camera are, in their order and each once, the frames
for which `send` returned `true`.
-/

namespace Opaleye.Stream

open LockedThreads
open Opaleye.Camera (pixFmts v4l2Fourcc)

/-! ### Messages of several parts -/

/-- A part of a message; `more` is `ZMQ_SNDMORE`. -/
structure Part where
  data : List Char
  more : Bool
  deriving DecidableEq, Repr

abbrev Wire := List Part

/-- The parts of a whole message. -/
def parts : List (List Char) → Wire
  | [] => []
  | msg :: msgs => ⟨msg, !msgs.isEmpty⟩ :: parts msgs

/-- The messages that are complete; `acc` has the parts before. -/
def messages : List (List Char) → Wire → List (List (List Char))
  | _, [] => []
  | acc, p :: w => if p.more then messages (acc ++ [p.data]) w else (acc ++ [p.data]) :: messages [] w

theorem messages_parts : ∀ (msgs acc : List (List Char)) (w : Wire), msgs ≠ [] →
    messages acc (parts msgs ++ w) = (acc ++ msgs) :: messages [] w := by
  intro msgs
  induction msgs with
  | nil => intro acc w h; exact absurd rfl h
  | cons msg msgs ih =>
    intro acc w _
    cases msgs with
    | nil => rfl
    | cons m ms =>
      show messages (acc ++ [msg]) (parts (m :: ms) ++ w) = _
      rw [ih _ _ (List.cons_ne_nil _ _), List.append_assoc]
      rfl

theorem messages_begun : ∀ (msgs acc : List (List Char)),
    messages acc (msgs.map (fun msg => ⟨msg, true⟩)) = [] := by
  intro msgs
  induction msgs with
  | nil => intro acc; rfl
  | cons msg msgs ih =>
    intro acc
    rw [List.map_cons, messages, if_pos rfl, ih]

/-- **What was put on the socket whole is received whole.** -/
theorem messages_log {log : List (List (List Char))} (h : ∀ msgs ∈ log, msgs ≠ [])
    (begun : List (List Char)) :
    messages [] (log.flatMap parts ++ begun.map (fun msg => ⟨msg, true⟩)) = log := by
  induction log with
  | nil => exact messages_begun begun []
  | cons msgs log ih =>
    rw [List.flatMap_cons, List.append_assoc,
      messages_parts _ _ _ (h msgs List.mem_cons_self), ih (fun m hm => h m (List.mem_cons_of_mem _ hm))]
    rfl

/-! ### The camera and the socket -/

/-- A frame that `wait_for_frame` lends: its metadata as `ptree_to_json_str` writes it, its bytes. -/
structure Frame where
  metaStr : List Char
  data : List Char
  deriving DecidableEq, Repr

/-- The callbacks `new_frame_cb_*`: those of RGGB, GREY and JXY0 only trace. -/
inductive NewFrameCb
  | trace
  | dispatch
  | pushAndDispatch
  deriving DecidableEq, Repr

/-- The end of `V4L2_alvium_pipe::init`, which chooses the worker's callback. -/
def newFrameCb (mFourcc : UInt32) : Option NewFrameCb :=
  if mFourcc = v4l2Fourcc 'R' 'G' 'G' 'B' then some .trace
  else if mFourcc = v4l2Fourcc 'J' 'X' 'R' '0' then some .dispatch
  else if mFourcc = v4l2Fourcc 'J' 'X' 'R' '2' then some .dispatch
  else if mFourcc = v4l2Fourcc 'G' 'R' 'E' 'Y' then some .trace
  else if mFourcc = v4l2Fourcc 'J' 'X' 'Y' '0' then some .trace
  else if mFourcc = v4l2Fourcc 'J' 'X' 'Y' '2' then some .dispatch
  else if mFourcc = v4l2Fourcc 'X' 'R' '2' '4' then some .pushAndDispatch
  else none

theorem newFrameCb_isSome_iff (mFourcc : UInt32) :
    (newFrameCb mFourcc).isSome = true ↔ mFourcc ∈ pixFmts := by
  simp only [pixFmts, List.mem_cons, List.not_mem_nil, or_false]
  rw [newFrameCb]
  split_ifs <;> simp_all

/-- Where the frame worker is.  From `caching` to `leaving` it holds `m_frame_buffer_mutex`, except
at `feeding`; at `sending` and `sent` it also holds `m_pub_socket_mutex`. -/
inductive FramePc
  | waiting
  | called (f : Frame)
  | built (f : Frame)
  | caching (f : Frame)
  | feeding (f : Frame)
  | dispatching (f : Frame)
  | calling (f : Frame) (msgs : List (List Char))
  | sending (f : Frame) (msgs : List (List Char))
  | sent
  | leaving
  deriving DecidableEq, Repr

def FramePc.ownsSocket : FramePc → Bool
  | .sending _ _ | .sent => true
  | _ => false

def FramePc.ownsBuffer : FramePc → Bool
  | .caching _ | .dispatching _ | .calling _ _ | .sending _ _ | .sent | .leaving => true
  | _ => false

theorem FramePc.ownsBuffer_of_ownsSocket {pc : FramePc} (h : pc.ownsSocket = true) :
    pc.ownsBuffer = true := by
  cases pc with
  | sending f msgs => rfl
  | sent => rfl
  | _ => cases h

/-- The frame the callback is at work on. -/
def FramePc.current : FramePc → List Frame
  | .called f | .built f | .caching f | .feeding f | .dispatching f | .calling f _ | .sending f _ => [f]
  | .waiting | .sent | .leaving => []

/-- A `V4L2_alvium_pipe` with its worker.  `main` registers a lambda that sends under `topic`; it is
known by that.  `lent` records the frames the worker was lent, `frames`
those the callback is through with, and whether `send` returned `true`. -/
structure Camera where
  topic : List Char
  mFourcc : UInt32
  mFrameBuffer : Option (List Char)
  mBufferDispatchCb : Option (List Char)
  pc : FramePc
  lent : List Frame
  frames : List (Frame × Bool)
  deriving DecidableEq, Repr

namespace Camera

def new (topic : List Char) (mFourcc : UInt32) : Camera :=
  ⟨topic, mFourcc, none, none, .waiting, [], []⟩

def goto (c : Camera) (pc : FramePc) : Camera := { c with pc := pc }

def lend (c : Camera) (f : Frame) : Camera := { c with pc := .called f, lent := c.lent ++ [f] }

/-- `m_frame_buffer = new_frame` -/
def cache (c : Camera) (f : Frame) : Camera := { c with mFrameBuffer := some f.data }

/-- The callback is through with a frame. -/
def finish (c : Camera) (pc : FramePc) (f : Frame) (funcRet : Bool) : Camera :=
  { c with pc := pc, frames := c.frames ++ [(f, funcRet)] }

/-- `set_framebuffer_callback` -/
def setFramebufferCallback (c : Camera) : Camera := { c with mBufferDispatchCb := some c.topic }

/-- The frames for which `send` returned `true`. -/
def published (c : Camera) : List Frame := (c.frames.filter Prod.snd).map Prod.fst

end Camera

/-- What `socket_t::send` makes of a part. -/
inductive Outcome
  | queued
  | nothing
  | threw
  deriving DecidableEq, Repr

inductive FrameInput
  | lend (f : Frame)
  | go
  | throws
  | part (o : Outcome)
  | register
  deriving DecidableEq, Repr

/-- One step of a camera: the socket is the shared state, `m_pub_socket_mutex` the mutex. -/
def cameraNext (l : FrameInput) (c : Camera) (w : Wire) : Move Camera Wire :=
  match l, c.pc with
  | .lend f, .waiting => if newFrameCb c.mFourcc = none then .blocked else .goto (c.lend f)
  | .throws, .called f => .goto (c.finish .waiting f false)
  | .go, .called f =>
    if newFrameCb c.mFourcc = some .trace then .goto (c.finish .waiting f false) else .goto (c.goto (.built f))
  | .go, .built f => .goto (c.goto (.caching f))
  | .go, .caching f =>
    if newFrameCb c.mFourcc = some .pushAndDispatch then .goto ((c.cache f).goto (.feeding f))
    else .goto ((c.cache f).goto (.dispatching f))
  | .go, .feeding f => .goto (c.goto (.dispatching f))
  | .go, .dispatching f =>
    match c.mBufferDispatchCb, c.mFrameBuffer with
    | some topic, some framePtr => .goto (c.goto (.calling f [topic, f.metaStr, framePtr]))
    | _, _ => .goto (c.finish .leaving f false)
  | .go, .calling f msgs => .lock (c.goto (.sending f msgs))
  | .part .queued, .sending f [msg] => .crit (c.finish .sent f true) (w ++ [⟨msg, false⟩])
  | .part .queued, .sending f (msg :: msgs) => .crit (c.goto (.sending f msgs)) (w ++ [⟨msg, true⟩])
  | .part _, .sending f _ => .crit (c.finish .sent f false) w
  | .go, .sent => .unlock (c.goto .leaving)
  | .go, .leaving => .goto (c.goto .waiting)
  | .register, _ => if c.pc.ownsBuffer then .blocked else .goto c.setFramebufferCallback
  | _, _ => .blocked

/-- The cameras that share the socket. -/
def publishers : LockedThreads Camera Wire FrameInput Empty where
  start := .new [] 0
  owns c := c.pc.ownsSocket
  next := cameraNext
  interrupt e _ := e.elim
  start_free := rfl
  next_owns := by
    intro l c w
    fun_cases cameraNext l c w
    case case19 hbuf =>
      have hfree : c.pc.ownsSocket = false := by
        by_contra h
        exact hbuf (FramePc.ownsBuffer_of_ownsSocket (Bool.eq_true_of_not_eq_false h))
      exact ⟨hfree, hfree⟩
    all_goals simp_all [FramePc.ownsSocket, Camera.goto, Camera.lend, Camera.cache, Camera.finish]

/-- The topic of the lambda that `main` registers for a camera. -/
def liveTopic (i : Nat) : List Char :=
  "/api/v1/cameras/cam".toList ++ Nat.toDigits 10 i ++ "/live/full".toList

/-- `send_multipart` queues all parts of a message or none: only the first may be refused. -/
def allOrNone (l : FrameInput) (c : Camera) (_ : Wire) : Bool :=
  match l, c.pc with
  | .part o, .sending _ msgs => o = .queued ∨ msgs.length = 3
  | _, _ => true

/-! ### What is on the socket -/

def Frame.message (topic : List Char) (f : Frame) : List (List Char) := [topic, f.metaStr, f.data]

/-- Messages of `log`, and the begin of one more.  `T` are the topics. -/
structure Logged (T : List Char → Prop) (w : Wire) (log : List (List (List Char)))
    (begun : List (List Char)) : Prop where
  wire : w = log.flatMap parts ++ begun.map (fun msg => ⟨msg, true⟩)
  whole : ∀ msgs ∈ log, ∃ topic f, T topic ∧ msgs = Frame.message topic f

variable {T : List Char → Prop} {w : Wire} {log : List (List (List Char))} {begun : List (List Char)}

theorem Logged.messages_eq (h : Logged T w log begun) : messages [] w = log := by
  rw [h.wire]
  refine messages_log (fun msgs hm => ?_) begun
  obtain ⟨topic, f, -, rfl⟩ := h.whole msgs hm
  exact List.cons_ne_nil _ _

theorem Logged.more (h : Logged T w log begun) (msg : List Char) :
    Logged T (w ++ [⟨msg, true⟩]) log (begun ++ [msg]) := by
  refine ⟨?_, h.whole⟩
  rw [h.wire, List.map_append, List.append_assoc]
  rfl

theorem parts_concat : ∀ (begun : List (List Char)) (msg : List Char),
    parts (begun ++ [msg]) = begun.map (fun msg => ⟨msg, true⟩) ++ [⟨msg, false⟩] := by
  intro begun
  induction begun with
  | nil => intro msg; rfl
  | cons m begun ih =>
    intro msg
    have hmore : (!(begun ++ [msg]).isEmpty) = true := by simp
    rw [List.cons_append, parts, ih, hmore]
    rfl

theorem Logged.last (h : Logged T w log begun) {topic msg : List Char} {f : Frame} (ht : T topic)
    (hf : begun ++ [msg] = f.message topic) :
    Logged T (w ++ [⟨msg, false⟩]) (log ++ [f.message topic]) [] := by
  refine ⟨?_, fun msgs hm => ?_⟩
  · rw [h.wire, List.flatMap_append, List.flatMap_singleton, ← hf, parts_concat, List.map_nil,
      List.append_nil, List.append_assoc]
  · rcases List.mem_append.mp hm with hm | hm
    · exact h.whole msgs hm
    · exact ⟨topic, f, ht, List.mem_singleton.mp hm⟩

/-- Nobody is sending. -/
def Quiet (T : List Char → Prop) (w : Wire) : Prop := ∃ log, Logged T w log []

/-- What is on the socket while a camera has `m_pub_socket_mutex`. -/
def Sending (T : List Char → Prop) (c : Camera) (w : Wire) : Prop :=
  match c.pc with
  | .sending f msgs => msgs ≠ [] ∧
    ∃ log begun, Logged T w log begun ∧ begun ++ msgs = f.message c.topic
  | _ => Quiet T w

theorem Sending.logged {T : List Char → Prop} {c : Camera} {w : Wire} (h : Sending T c w) :
    ∃ log begun, Logged T w log begun := by
  rw [Sending] at h
  split at h
  · obtain ⟨-, log, begun, hlog, -⟩ := h
    exact ⟨log, begun, hlog⟩
  · obtain ⟨log, hlog⟩ := h
    exact ⟨log, [], hlog⟩

/-- What a camera has at hand for a frame. -/
def Prepared (c : Camera) : Prop :=
  match c.pc with
  | .feeding f => c.mFrameBuffer = some f.data
  | .dispatching f => c.mFrameBuffer = some f.data
  | .calling f msgs => msgs = f.message c.topic
  | _ => True

/-- What a subscriber to one topic has. -/
def received (topic : List Char) (w : Wire) : List (List (List Char)) :=
  (messages [] w).filter (fun msgs => msgs.head? = some topic)

/-- What a camera knows of the socket: its frames are there. -/
structure OwnFrames (T : List Char → Prop) (c : Camera) (w : Wire) : Prop where
  topic : T c.topic
  registered : c.mBufferDispatchCb = none ∨ c.mBufferDispatchCb = some c.topic
  prepared : Prepared c
  delivered : received c.topic w = c.published.map (Frame.message c.topic)
  lent : c.lent = c.frames.map Prod.fst ++ c.pc.current

namespace Camera

theorem published_finish_false (c : Camera) (pc : FramePc) (f : Frame) :
    (c.finish pc f false).published = c.published := by
  rw [published, finish, List.filter_append]
  simp [published]

theorem published_finish_true (c : Camera) (pc : FramePc) (f : Frame) :
    (c.finish pc f true).published = c.published ++ [f] := by
  rw [published, finish, List.filter_append, List.map_append]
  rfl

end Camera

variable {c c' : Camera}

theorem OwnFrames.keep (h : OwnFrames T c w) (ht : c'.topic = c.topic)
    (hcb : c'.mBufferDispatchCb = c.mBufferDispatchCb) (hp : Prepared c')
    (hpub : c'.published = c.published) (hl : c'.lent = c'.frames.map Prod.fst ++ c'.pc.current) :
    OwnFrames T c' w :=
  ⟨ht ▸ h.topic, by rw [hcb, ht]; exact h.registered, hp, by rw [ht, hpub]; exact h.delivered, hl⟩

theorem OwnFrames.goto (h : OwnFrames T c w) {pc : FramePc} (hcur : pc.current = c.pc.current)
    (hp : Prepared (c.goto pc)) : OwnFrames T (c.goto pc) w :=
  h.keep rfl rfl hp rfl (hcur ▸ h.lent)

theorem OwnFrames.cache (h : OwnFrames T c w) {pc : FramePc} {f : Frame}
    (hcur : pc.current = c.pc.current) (hp : Prepared ((c.cache f).goto pc)) :
    OwnFrames T ((c.cache f).goto pc) w :=
  h.keep rfl rfl hp rfl (hcur ▸ h.lent)

theorem OwnFrames.setFramebufferCallback (h : OwnFrames T c w) :
    OwnFrames T c.setFramebufferCallback w :=
  ⟨h.topic, Or.inr rfl, h.prepared, h.delivered, h.lent⟩

theorem OwnFrames.finish (h : OwnFrames T c w) {pc : FramePc} {f : Frame} (hcur : c.pc.current = [f])
    (hpc : pc.current = []) (hp : Prepared (c.finish pc f false)) :
    OwnFrames T (c.finish pc f false) w := by
  refine h.keep rfl rfl hp (c.published_finish_false pc f) ?_
  show c.lent = (c.frames ++ [(f, false)]).map Prod.fst ++ pc.current
  rw [h.lent, hcur, hpc, List.map_append, List.append_nil]
  rfl

theorem received_message {w' : Wire} {f : Frame} {topic : List Char}
    (hw : messages [] w' = messages [] w ++ [f.message topic]) (t : List Char) :
    received t w' = if topic = t then received t w ++ [f.message topic] else received t w := by
  have hhead : (f.message topic).head? = some topic := rfl
  rw [received, hw, List.filter_append]
  by_cases ht : topic = t
  · rw [if_pos ht, List.filter_cons_of_pos (by rw [hhead, ht]; simp)]
    rfl
  · rw [if_neg ht, List.filter_cons_of_neg (by rw [hhead]; simpa using ht), List.filter_nil,
      List.append_nil]
    rfl

theorem OwnFrames.same {w' : Wire} (h : OwnFrames T c w) (hw : messages [] w' = messages [] w) :
    OwnFrames T c w' := by
  refine ⟨h.topic, h.registered, h.prepared, ?_, h.lent⟩
  rw [received, hw]
  exact h.delivered

theorem OwnFrames.other {w' : Wire} {f : Frame} {topic : List Char} (h : OwnFrames T c w)
    (hw : messages [] w' = messages [] w ++ [f.message topic]) (ht : c.topic ≠ topic) :
    OwnFrames T c w' := by
  refine ⟨h.topic, h.registered, h.prepared, ?_, h.lent⟩
  rw [received_message hw, if_neg (Ne.symm ht)]
  exact h.delivered

theorem OwnFrames.sent {w' : Wire} {f : Frame} (h : OwnFrames T c w)
    (hw : messages [] w' = messages [] w ++ [f.message c.topic]) (hcur : c.pc.current = [f]) :
    OwnFrames T (c.finish .sent f true) w' := by
  refine ⟨h.topic, h.registered, trivial, ?_, ?_⟩
  · show received c.topic w' = _
    rw [received_message hw, if_pos rfl, h.delivered, c.published_finish_true, List.map_append]
    rfl
  · show c.lent = (c.frames ++ [(f, true)]).map Prod.fst ++ []
    rw [h.lent, hcur, List.map_append, List.append_nil]
    rfl

/-! ### One step, and a whole run -/

/-- What a move keeps. -/
def CameraMove (T : List Char → Prop) (c : Camera) (w : Wire) : Move Camera Wire → Prop
  | .blocked => True
  | .goto q => OwnFrames T q w ∧ q.topic = c.topic
  | .lock q => (Quiet T w → Sending T q w) ∧ OwnFrames T q w ∧ q.topic = c.topic
  | .crit q w' => Sending T q w' ∧ OwnFrames T q w' ∧ q.topic = c.topic ∧
      ∀ r : Camera, r.topic ≠ c.topic → OwnFrames T r w → OwnFrames T r w'
  | .unlock q => Quiet T w ∧ OwnFrames T q w ∧ q.topic = c.topic

/-- **What is at hand for a frame, and on the socket, after a step.** -/
theorem camera_move (l : FrameInput) (hall : allOrNone l c w = true) (h : OwnFrames T c w)
    (hs : c.pc.ownsSocket = true → Sending T c w) : CameraMove T c w (cameraNext l c w) := by
  fun_cases cameraNext l c w with
  | case1 f hpc hcb => trivial
  | case2 f hpc hcb =>
    refine ⟨h.keep rfl rfl trivial rfl ?_, rfl⟩
    show c.lent ++ [f] = c.frames.map Prod.fst ++ [f]
    rw [h.lent, hpc]
    exact congrArg (· ++ [f]) (List.append_nil _)
  | case3 f hpc => exact ⟨h.finish (by rw [hpc]; rfl) rfl trivial, rfl⟩
  | case4 f hpc hcb => exact ⟨h.finish (by rw [hpc]; rfl) rfl trivial, rfl⟩
  | case5 f hpc hcb => exact ⟨h.goto (by rw [hpc]; rfl) trivial, rfl⟩
  | case6 f hpc => exact ⟨h.goto (by rw [hpc]; rfl) trivial, rfl⟩
  | case7 f hpc hcb => exact ⟨h.cache (by rw [hpc]; rfl) rfl, rfl⟩
  | case8 f hpc hcb => exact ⟨h.cache (by rw [hpc]; rfl) rfl, rfl⟩
  | case9 f hpc =>
    have hbuf : c.mFrameBuffer = some f.data := by
      have hp := h.prepared
      rwa [Prepared, hpc] at hp
    exact ⟨h.goto (by rw [hpc]; rfl) hbuf, rfl⟩
  | case10 f hpc topic framePtr hbuf hcb =>
    obtain rfl : topic = c.topic := by
      rcases h.registered with hnone | hsome
      · exact absurd (hcb.symm.trans hnone) (by simp)
      · exact Option.some.inj (hcb.symm.trans hsome)
    have hp := h.prepared
    rw [Prepared, hpc] at hp
    obtain rfl : framePtr = f.data := Option.some.inj (hbuf.symm.trans hp)
    exact ⟨h.goto (by rw [hpc]; rfl) rfl, rfl⟩
  | case11 f hpc hnone => exact ⟨h.finish (by rw [hpc]; rfl) rfl trivial, rfl⟩
  | case12 f msgs hpc =>
    have hmsgs : msgs = f.message c.topic := by
      have hp := h.prepared
      rwa [Prepared, hpc] at hp
    refine ⟨fun hquiet => ?_, h.goto (by rw [hpc]; rfl) trivial, rfl⟩
    obtain ⟨log, hlog⟩ := hquiet
    exact ⟨by rw [hmsgs]; exact List.cons_ne_nil _ _, log, [], hlog, hmsgs⟩
  | case13 f msg hpc =>
    have hsend := hs (by rw [hpc]; rfl)
    rw [Sending, hpc] at hsend
    obtain ⟨-, log, begun, hlog, hf⟩ := hsend
    have hlast := hlog.last h.topic hf
    have hw : messages [] (w ++ [⟨msg, false⟩]) = messages [] w ++ [f.message c.topic] := by
      rw [hlast.messages_eq, hlog.messages_eq]
    exact ⟨⟨_, hlast⟩, h.sent hw (by rw [hpc]; rfl), rfl, fun r hr hown => hown.other hw hr⟩
  | case14 f msg msgs hne hpc =>
    have hsend := hs (by rw [hpc]; rfl)
    rw [Sending, hpc] at hsend
    obtain ⟨-, log, begun, hlog, hf⟩ := hsend
    have hmore := hlog.more msg
    have hw : messages [] (w ++ [⟨msg, true⟩]) = messages [] w := by
      rw [hmore.messages_eq, hlog.messages_eq]
    refine ⟨⟨hne, log, begun ++ [msg], hmore, ?_⟩, ?_, rfl, fun r _ hown => hown.same hw⟩
    · rw [List.append_assoc]
      exact hf
    · exact OwnFrames.same (h.goto (by rw [hpc]; rfl) trivial) hw
  | case15 o f msgs hlast hmore hpc =>
    have hsend := hs (by rw [hpc]; rfl)
    rw [Sending, hpc] at hsend
    obtain ⟨hne, log, begun, hlog, hf⟩ := hsend
    -- nothing of the message was queued
    have hlen : msgs.length = 3 := by
      simp only [allOrNone, hpc, decide_eq_true_eq] at hall
      rcases hall with rfl | hlen
      · obtain ⟨msg, msgs, rfl⟩ := List.exists_cons_of_ne_nil hne
        exact absurd rfl (hmore msg msgs rfl)
      · exact hlen
    obtain rfl : begun = [] := by
      have hlen' := congrArg List.length hf
      rw [List.length_append, hlen] at hlen'
      exact List.eq_nil_of_length_eq_zero (Nat.add_eq_right.mp hlen')
    exact ⟨⟨log, hlog⟩, h.finish (by rw [hpc]; rfl) rfl trivial, rfl, fun r _ hown => hown⟩
  | case16 hpc =>
    have hsend := hs (by rw [hpc]; rfl)
    rw [Sending, hpc] at hsend
    exact ⟨hsend, h.goto (by rw [hpc]; rfl) trivial, rfl⟩
  | case17 hpc => exact ⟨h.goto (by rw [hpc]; rfl) trivial, rfl⟩
  | case18 hbuf => trivial
  | case19 hbuf => exact ⟨h.setFramebufferCallback, rfl⟩
  | case20 => trivial

theorem publishers_nameInv :
    publishers.NameInv (fun l c w => allOrNone l c w = true) (Quiet T) (Sending T) Camera.topic
      (OwnFrames T) where
  goto := by
    intro l c w q hall h hn
    have hmove := camera_move l hall h
      (fun ho => absurd ((owns_of_goto hn).1.symm.trans ho) (by simp))
    rwa [show cameraNext l c w = .goto q from hn] at hmove
  lock := by
    intro l c w q hall hquiet h hn
    have hmove := camera_move l hall h
      (fun ho => absurd ((owns_of_lock hn).1.symm.trans ho) (by simp))
    rw [show cameraNext l c w = .lock q from hn] at hmove
    exact ⟨hmove.1 hquiet, hmove.2⟩
  crit := by
    intro l c w q w' hall hs h hn
    have hmove := camera_move l hall h (fun _ => hs)
    rwa [show cameraNext l c w = .crit q w' from hn] at hmove
  unlock := by
    intro l c w q hall hs h hn
    have hmove := camera_move l hall h (fun _ => hs)
    rwa [show cameraNext l c w = .unlock q from hn] at hmove
  intr := by
    intro e
    cases e

theorem liveTopic_injective : Function.Injective liveTopic := by
  intro i j h
  have hdigits : Nat.toDigits 10 i = Nat.toDigits 10 j :=
    List.append_cancel_left (List.append_cancel_right h)
  calc i = Nat.ofDigitChars 10 (Nat.toDigits 10 i) 0 := Nat.ofDigitChars_ten_toDigits.symm
    _ = Nat.ofDigitChars 10 (Nat.toDigits 10 j) 0 := by rw [hdigits]
    _ = j := Nat.ofDigitChars_ten_toDigits

/-- The cameras before the first frame. -/
def freshCameras (mFourcc : Nat → UInt32) (i : Nat) : Camera := .new (liveTopic i) (mFourcc i)

/-- **Every frame is published whole, once and in its place.**  Whatever the cameras do meanwhile
and whenever `main` registers its lambdas, the socket carries whole messages of three parts, each of
them a frame of a camera under that camera's topic and the frame's own metadata.  A camera's messages
are, in order, exactly the frames for which `send` returned `true`, and its callback leaves out or
repeats no frame that it was lent.  `send_multipart` queues all parts of a message or none. -/
theorem frames_published (mFourcc : Nat → UInt32) (c : Config Camera Wire)
    (h : (publishers.sysFrom (freshCameras mFourcc) []).Reach
      (Meeting fun l c w => allOrNone l c w = true) c) :
    (∀ msgs ∈ messages [] c.shared, ∃ i, ∃ f ∈ (c.pc i).published, msgs = f.message (liveTopic i)) ∧
      ∀ i, received (liveTopic i) c.shared = (c.pc i).published.map (Frame.message (liveTopic i)) ∧
        (c.pc i).lent = (c.pc i).frames.map Prod.fst ++ (c.pc i).pc.current := by
  have hlog : Logged (fun topic => ∃ i, liveTopic i = topic) [] [] [] := ⟨rfl, by simp⟩
  have hown : ∀ i, OwnFrames (fun topic => ∃ i, liveTopic i = topic) (freshCameras mFourcc i) [] :=
    fun i => ⟨⟨i, rfl⟩, Or.inl rfl, trivial, rfl, rfl⟩
  have hapart := reach_named publishers_nameInv liveTopic_injective (fun _ => rfl) ⟨[], hlog⟩ hown h
  have hmine : ∀ i, received (liveTopic i) c.shared =
      (c.pc i).published.map (Frame.message (liveTopic i)) := by
    intro i
    have hdel := (hapart.mine i).delivered
    rwa [show (c.pc i).topic = liveTopic i from hapart.name_eq i] at hdel
  refine ⟨fun msgs hm => ?_, fun i => ⟨hmine i, (hapart.mine i).lent⟩⟩
  have hlogged : ∃ log begun, Logged (fun topic => ∃ i, liveTopic i = topic) c.shared log begun := by
    cases hmutex : c.mutex with
    | none =>
      obtain ⟨log, hquiet⟩ := hapart.free hmutex
      exact ⟨log, [], hquiet⟩
    | some i => exact (hapart.locked i hmutex).logged
  obtain ⟨log, begun, hlogged⟩ := hlogged
  rw [hlogged.messages_eq] at hm
  obtain ⟨topic, f, ⟨i, rfl⟩, rfl⟩ := hlogged.whole msgs hm
  have hmem : f.message (liveTopic i) ∈ received (liveTopic i) c.shared :=
    List.mem_filter.mpr ⟨by rwa [hlogged.messages_eq], by simp [Frame.message]⟩
  rw [hmine i] at hmem
  obtain ⟨f', hf', heq⟩ := List.mem_map.mp hmem
  exact ⟨i, f', hf', heq.symm⟩

/-- A JXR0 camera and XR24 cameras. -/
def rawAndBgr (i : Nat) : UInt32 :=
  if i = 0 then v4l2Fourcc 'J' 'X' 'R' '0' else v4l2Fourcc 'X' 'R' '2' '4'

def rawFrame : Frame := ⟨"m0".toList, "raw".toList⟩
def bgrFrame : Frame := ⟨"m1".toList, "bgr".toList⟩

/-- The second camera waits for the socket, and its frame is refused. -/
def waitAndRefuse : List (Act FrameInput Empty) :=
  [.thread 0 .register, .thread 0 (.lend rawFrame), .thread 0 .go, .thread 0 .go, .thread 1 .register,
    .thread 1 (.lend bgrFrame), .thread 1 .go, .thread 1 .go, .thread 1 .go, .thread 0 .go,
    .thread 0 .go, .thread 0 .go, .thread 0 (.part .queued), .thread 1 .go, .thread 1 .go,
    .thread 0 (.part .queued), .thread 0 (.part .queued), .thread 0 .go, .thread 1 .go,
    .thread 1 (.part .nothing), .thread 1 .go, .thread 0 .go, .thread 1 .go]

/-- One message, that of the first camera. -/
theorem frames_published_rawAndBgr :
    ∃ c, (publishers.sysFrom (freshCameras rawAndBgr) []).Reach
        (Meeting fun l c w => allOrNone l c w = true) c ∧
      messages [] c.shared = [rawFrame.message (liveTopic 0)] ∧
      (∀ msgs ∈ messages [] c.shared, ∃ i, ∃ f ∈ (c.pc i).published,
        msgs = f.message (liveTopic i)) ∧
      ∀ i, received (liveTopic i) c.shared = (c.pc i).published.map (Frame.message (liveTopic i)) ∧
        (c.pc i).lent = (c.pc i).frames.map Prod.fst ++ (c.pc i).pc.current := by
  have hmeets : (publishers.sysFrom (freshCameras rawAndBgr) []).Meets
      (Meeting fun l c w => allOrNone l c w = true) ⟨[], none, freshCameras rawAndBgr⟩ waitAndRefuse := by
    decide
  have hrun : ((publishers.sysFrom (freshCameras rawAndBgr) []).run
      ⟨[], none, freshCameras rawAndBgr⟩ waitAndRefuse).map (fun c => messages [] c.shared) =
      some [rawFrame.message (liveTopic 0)] := by
    decide
  obtain ⟨c, hc, hmessages⟩ := Option.map_eq_some_iff.mp hrun
  have hreach := TransSys.Reach.run waitAndRefuse (.init rfl) hmeets hc
  exact ⟨c, hreach, hmessages, frames_published rawAndBgr c hreach⟩

end Opaleye.Stream
