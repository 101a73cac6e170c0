import Opaleye.Lib.TransSys
import Mathlib.Data.List.Nodup

/-!
# The camera's buffers

`cameras/Alvium_v4l2.cpp` shares its mapped buffers with the V4L2 driver.
`start_streaming` queues all of them, `wait_for_frame` takes one out, lends it
to the frame callback and queues it again, `stop_streaming` gets all of them
back.

The first half has these as functions on the driver, with the outcome of every
ioctl as an argument.  The driver refuses to queue a buffer that is queued, and
forgets its queue at `STREAMOFF`.

The frame worker runs in a thread of its own, so the second half takes the
functions apart: `AlviumV4l2` is the state between two ioctls, with the worker
and the caller of `start_streaming` and `stop_streaming` each at some point of a
call.  `run_startStreaming` and `run_waitForFrame` put the steps together again.

An exception from the callback skips the step that queues the buffer, and a
`start_streaming` that fails half-way leaves the first half queued.
`buffers_conserved` says that nothing else loses or leaves a buffer.
-/

namespace Opaleye.Camera

/-! ### The driver -/

/-- The buffers queued in the driver, by index, and whether it is streaming. -/
structure Driver where
  queue : List Nat
  streaming : Bool
  deriving DecidableEq, Repr

namespace Driver

/-- `VIDIOC_QBUF`: `EINVAL` for a queued buffer; `ok` is `false` when it fails
for another reason. -/
def qbuf (d : Driver) (index : Nat) (ok : Bool) : Driver × Bool :=
  if index ∈ d.queue ∨ ok = false then (d, false)
  else ({ d with queue := d.queue ++ [index] }, true)

def streamon (d : Driver) (ok : Bool) : Driver × Bool :=
  if ok then ({ d with streaming := true }, true) else (d, false)

def streamoff (d : Driver) (ok : Bool) : Driver × Bool :=
  if ok then (⟨[], false⟩, true) else (d, false)

end Driver

/-- What `select` and `VIDIOC_DQBUF` yield. -/
inductive Frame
  | notReady
  | dqbufFails
  | dequeued (index : Nat)
  deriving DecidableEq, Repr

/-- How `wait_for_frame` is left. -/
inductive Exit
  | returned (ok : Bool)
  | threw
  deriving DecidableEq, Repr

/-! ### The functions -/

/-- `Alvium_v4l2::start_streaming`; `qok` and `on` are the outcomes of its
ioctls. -/
def startStreaming (d : Driver) (qok : Nat → Bool) (on : Bool) : List Nat → Driver × Bool
  | [] => d.streamon on
  | b :: bufByIdx =>
    let r := d.qbuf b (qok b)
    if r.2 then startStreaming r.1 qok on bufByIdx else (r.1, false)

/-- `Alvium_v4l2::stop_streaming` -/
def stopStreaming (d : Driver) (ok : Bool) : Driver × Bool := d.streamoff ok

/-- The end of `wait_for_frame`: the callback, and the `QBUF` after it.  That
one fails only for a queued buffer. -/
def returnFrame (d : Driver) (index : Nat) (cbThrows : Bool) : Driver × Exit :=
  if cbThrows then (d, .threw)
  else
    let r := d.qbuf index true
    (r.1, .returned r.2)

/-- `Alvium_v4l2::wait_for_frame` -/
def waitForFrame (bufByIdx : List Nat) (d : Driver) (frame : Frame) (cbThrows : Bool) :
    Driver × Exit :=
  match frame with
  | .notReady => (d, .returned true)
  | .dqbufFails => (d, .returned false)
  | .dequeued index =>
    let d := { d with queue := d.queue.erase index }
    if index ∈ bufByIdx then returnFrame d index cbThrows else (d, .returned false)

/-! ### The threads -/

/-- The frame worker: between two calls, or in the callback. -/
inductive Worker
  | idle
  | lent (index : Nat)
  deriving DecidableEq, Repr

/-- The caller of `start_streaming` and `stop_streaming`: between two calls, or
in a `start_streaming` that has still to queue `todo`.  `before` is the queue at
the start of the call, and `quiet` says that the worker has not touched it
since. -/
inductive Caller
  | idle
  | starting (todo before : List Nat) (quiet : Bool)
  deriving DecidableEq, Repr

/-- The camera between two ioctls. -/
structure AlviumV4l2 where
  bufByIdx : List Nat
  driver : Driver
  worker : Worker
  caller : Caller
  /-- What the last `start_streaming` returned. -/
  started : Option Bool
  deriving DecidableEq, Repr

inductive Act
  | startCall
  | startQbuf (ok : Bool)
  | startStreamon (ok : Bool)
  | stop (ok : Bool)
  | noFrame
  | dequeue (index : Nat)
  | cbReturns
  | cbThrows
  deriving DecidableEq, Repr

/-- The worker has changed the queue. -/
def Caller.disturbed : Caller → Caller
  | .idle => .idle
  | .starting todo before _ => .starting todo before false

def step (s : AlviumV4l2) : Act → Option AlviumV4l2
  | .startCall =>
    match s.caller with
    | .idle => some { s with caller := .starting s.bufByIdx s.driver.queue true, started := none }
    | .starting _ _ _ => none
  | .startQbuf ok =>
    match s.caller with
    | .starting (b :: todo) before quiet =>
      let r := s.driver.qbuf b ok
      if r.2 then some { s with driver := r.1, caller := .starting todo before quiet }
      else some { s with driver := r.1, caller := .idle, started := some false }
    | _ => none
  | .startStreamon ok =>
    match s.caller with
    | .starting [] _ _ =>
      let r := s.driver.streamon ok
      some { s with driver := r.1, caller := .idle, started := some r.2 }
    | _ => none
  | .stop ok =>
    match s.caller with
    | .idle => some { s with driver := (stopStreaming s.driver ok).1 }
    | .starting _ _ _ => none
  | .noFrame =>
    match s.worker with
    | .idle => some s
    | .lent _ => none
  | .dequeue index =>
    match s.worker with
    | .idle =>
      if index ∈ s.driver.queue then
        some { s with
          driver := { s.driver with queue := s.driver.queue.erase index }
          worker := if index ∈ s.bufByIdx then .lent index else .idle
          caller := s.caller.disturbed }
      else none
    | .lent _ => none
  | .cbReturns =>
    match s.worker with
    | .lent index =>
      some { s with
        driver := (s.driver.qbuf index true).1
        worker := .idle
        caller := s.caller.disturbed }
    | .idle => none
  | .cbThrows =>
    match s.worker with
    | .lent _ => some { s with worker := .idle }
    | .idle => none

/-- The buffers are mapped; nothing is queued, and nobody is in a call. -/
def sys : TransSys AlviumV4l2 Act where
  init s := s.bufByIdx.Nodup ∧ s.driver = ⟨[], false⟩ ∧ s.worker = .idle ∧ s.caller = .idle ∧
    s.started = none
  step := step

/-! ### What should hold -/

/-- While the device is streaming, every buffer is queued once or lent. -/
def Accounted (s : AlviumV4l2) : Prop :=
  s.driver.streaming = true →
    ∀ b ∈ s.bufByIdx, s.driver.queue.count b = 1 ∨ s.worker = .lent b

instance (s : AlviumV4l2) : Decidable (Accounted s) := inferInstanceAs (Decidable (_ → _))

/-- A step by which `wait_for_frame` is left, with or without an exception,
after a `DQBUF` that succeeded: the buffer is queued. -/
def HandedBack (s : AlviumV4l2) (a : Act) (s' : AlviumV4l2) : Prop :=
  ∀ b, s.worker = .lent b ∨ a = .dequeue b → s'.worker = .idle → b ∈ s'.driver.queue

/-- A step by which `start_streaming` returns `false`: the queue is the one
before the call, unless the worker has changed it. -/
def FailsClean (s s' : AlviumV4l2) : Prop :=
  ∀ todo before, s.caller = .starting todo before true → s'.caller = .idle →
    s'.started = some false → s'.driver.queue = before

/-- What should hold in a state, and of every step from it that meets `C`. -/
def Conserved (C : AlviumV4l2 → Act → Prop) (s : AlviumV4l2) : Prop :=
  Accounted s ∧ ∀ a s', C s a → step s a = some s' → HandedBack s a s' ∧ FailsClean s s'

/-- The callback does not throw, and an ioctl of `start_streaming` fails only as
the first of its call. -/
def Orderly (s : AlviumV4l2) : Act → Prop
  | .cbThrows => False
  | .startQbuf ok =>
    match s.caller with
    | .starting (b :: todo) _ _ => b ∈ s.driver.queue ∨ ok = false → b :: todo = s.bufByIdx
    | _ => True
  | .startStreamon ok => ok = false → s.bufByIdx = []
  | _ => True

instance : ∀ (s : AlviumV4l2) (a : Act), Decidable (Orderly s a)
  | _, .cbThrows => isFalse id
  | ⟨bufByIdx, d, _, .starting (b :: todo) _ _, _⟩, .startQbuf ok =>
    inferInstanceAs (Decidable (b ∈ d.queue ∨ ok = false → b :: todo = bufByIdx))
  | ⟨_, _, _, .starting [] _ _, _⟩, .startQbuf _ => isTrue trivial
  | ⟨_, _, _, .idle, _⟩, .startQbuf _ => isTrue trivial
  | s, .startStreamon ok => inferInstanceAs (Decidable (ok = false → s.bufByIdx = []))
  | _, .startCall => isTrue trivial
  | _, .stop _ => isTrue trivial
  | _, .noFrame => isTrue trivial
  | _, .dequeue _ => isTrue trivial
  | _, .cbReturns => isTrue trivial

/-! ### Whole calls -/

/-- The steps of a `start_streaming` that nobody disturbs. -/
def startSteps (qok : Nat → Bool) (on : Bool) (d : Driver) : List Nat → List Act
  | [] => [.startStreamon on]
  | b :: todo =>
    .startQbuf (qok b) ::
      if (d.qbuf b (qok b)).2 then startSteps qok on (d.qbuf b (qok b)).1 todo else []

theorem run_startSteps (qok : Nat → Bool) (on : Bool) : ∀ (todo before : List Nat) (quiet : Bool)
    (s : AlviumV4l2), s.caller = .starting todo before quiet →
    sys.run s (startSteps qok on s.driver todo)
      = some { s with
          driver := (startStreaming s.driver qok on todo).1
          caller := .idle
          started := some (startStreaming s.driver qok on todo).2 } := by
  intro todo
  induction todo with
  | nil =>
    intro before quiet s hc
    have hstep : sys.step s (.startStreamon on) = some { s with
        driver := (s.driver.streamon on).1, caller := .idle, started := some (s.driver.streamon on).2 } := by
      simp only [sys, step, hc]
    rw [startSteps, TransSys.run_cons, hstep]
    rfl
  | cons b todo ih =>
    intro before quiet s hc
    rw [startSteps, startStreaming, TransSys.run_cons]
    by_cases hq : (s.driver.qbuf b (qok b)).2 = true
    · have hstep : sys.step s (.startQbuf (qok b)) = some { s with
          driver := (s.driver.qbuf b (qok b)).1, caller := .starting todo before quiet } := by
        simp only [sys, step, hc, if_pos hq]
      rw [if_pos hq, if_pos hq, hstep]
      exact ih before quiet _ rfl
    · have hstep : sys.step s (.startQbuf (qok b)) = some { s with
          driver := (s.driver.qbuf b (qok b)).1, caller := .idle, started := some false } := by
        simp only [sys, step, hc, if_neg hq]
      rw [if_neg hq, if_neg hq, hstep]
      rfl

/-- **The steps of `start_streaming` are `start_streaming`.** -/
theorem run_startStreaming (s : AlviumV4l2) (qok : Nat → Bool) (on : Bool)
    (hc : s.caller = .idle) :
    sys.run s (.startCall :: startSteps qok on s.driver s.bufByIdx)
      = some { s with
          driver := (startStreaming s.driver qok on s.bufByIdx).1
          caller := .idle
          started := some (startStreaming s.driver qok on s.bufByIdx).2 } := by
  have hstep : sys.step s .startCall
      = some { s with caller := .starting s.bufByIdx s.driver.queue true, started := none } := by
    simp only [sys, step, hc]
  rw [TransSys.run_cons, hstep]
  exact run_startSteps qok on s.bufByIdx s.driver.queue true _ rfl

/-- The steps of a `wait_for_frame`. -/
def frameSteps (bufByIdx : List Nat) (cbThrows : Bool) : Frame → List Act
  | .notReady => [.noFrame]
  | .dqbufFails => [.noFrame]
  | .dequeued index =>
    .dequeue index ::
      if index ∈ bufByIdx then [if cbThrows then .cbThrows else .cbReturns] else []

/-- **The steps of `wait_for_frame` are `wait_for_frame`.** -/
theorem run_waitForFrame (s : AlviumV4l2) (frame : Frame) (cbThrows : Bool)
    (hw : s.worker = .idle) (hc : s.caller = .idle)
    (hq : ∀ index, frame = .dequeued index → index ∈ s.driver.queue) :
    sys.run s (frameSteps s.bufByIdx cbThrows frame)
      = some { s with driver := (waitForFrame s.bufByIdx s.driver frame cbThrows).1 } := by
  have hno : sys.run s [.noFrame] = some s := by
    have hstep : sys.step s .noFrame = some s := by simp only [sys, step, hw]
    rw [TransSys.run_cons, hstep]
    rfl
  cases frame with
  | notReady => exact hno
  | dqbufFails => exact hno
  | dequeued index =>
    have hmem := hq index rfl
    by_cases hb : index ∈ s.bufByIdx
    · cases cbThrows with
      | true =>
        simp [frameSteps, TransSys.run_cons, sys, step, hw, hc, hmem, hb, waitForFrame, returnFrame,
          Caller.disturbed]
      | false =>
        simp [frameSteps, TransSys.run_cons, sys, step, hw, hc, hmem, hb, waitForFrame, returnFrame,
          Caller.disturbed]
    · simp [frameSteps, TransSys.run_cons, sys, step, hw, hc, hmem, hb, waitForFrame,
        Caller.disturbed]

/-! ### What a step does -/

/-- **Everything a step can do**, with the outcomes of the ioctls told apart. -/
inductive StepTo (s : AlviumV4l2) : Act → AlviumV4l2 → Prop
  | startCall (hc : s.caller = .idle) : StepTo s .startCall
      { s with caller := .starting s.bufByIdx s.driver.queue true, started := none }
  | queued {ok : Bool} {b : Nat} {todo before : List Nat} {quiet : Bool}
      (hc : s.caller = .starting (b :: todo) before quiet) (hnew : b ∉ s.driver.queue) :
      StepTo s (.startQbuf ok)
        { s with
          driver := { s.driver with queue := s.driver.queue ++ [b] }
          caller := .starting todo before quiet }
  | refused {ok : Bool} {b : Nat} {todo before : List Nat} {quiet : Bool}
      (hc : s.caller = .starting (b :: todo) before quiet)
      (hwhy : b ∈ s.driver.queue ∨ ok = false) :
      StepTo s (.startQbuf ok) { s with caller := .idle, started := some false }
  | streamon {before : List Nat} {quiet : Bool} (hc : s.caller = .starting [] before quiet) :
      StepTo s (.startStreamon true)
        { s with
          driver := { s.driver with streaming := true }
          caller := .idle
          started := some true }
  | streamonFails {before : List Nat} {quiet : Bool} (hc : s.caller = .starting [] before quiet) :
      StepTo s (.startStreamon false) { s with caller := .idle, started := some false }
  | stop (hc : s.caller = .idle) : StepTo s (.stop true) { s with driver := ⟨[], false⟩ }
  | stopFails (hc : s.caller = .idle) : StepTo s (.stop false) s
  | noFrame : StepTo s .noFrame s
  | lend {k : Nat} (hw : s.worker = .idle) (hk : k ∈ s.driver.queue) (hb : k ∈ s.bufByIdx) :
      StepTo s (.dequeue k)
        { s with
          driver := { s.driver with queue := s.driver.queue.erase k }
          worker := .lent k
          caller := s.caller.disturbed }
  | stray {k : Nat} (hk : k ∈ s.driver.queue) (hb : k ∉ s.bufByIdx) :
      StepTo s (.dequeue k)
        { s with
          driver := { s.driver with queue := s.driver.queue.erase k }
          worker := .idle
          caller := s.caller.disturbed }
  | requeued {k : Nat} (hw : s.worker = .lent k) (hnew : k ∉ s.driver.queue) :
      StepTo s .cbReturns
        { s with
          driver := { s.driver with queue := s.driver.queue ++ [k] }
          worker := .idle
          caller := s.caller.disturbed }
  | stillQueued {k : Nat} (hw : s.worker = .lent k) (hk : k ∈ s.driver.queue) :
      StepTo s .cbReturns { s with worker := .idle, caller := s.caller.disturbed }
  | cbThrows : StepTo s .cbThrows { s with worker := .idle }

theorem step_cases {s s' : AlviumV4l2} {a : Act} (h : step s a = some s') : StepTo s a s' := by
  cases a with
  | startCall =>
    simp only [step] at h
    split at h
    · next hc => exact Option.some.inj h ▸ .startCall hc
    · exact absurd h (by simp)
  | startQbuf ok =>
    simp only [step] at h
    split at h
    · next b todo before quiet hc =>
      by_cases hq : b ∈ s.driver.queue ∨ ok = false
      · rw [Driver.qbuf, if_pos hq, if_neg (by simp)] at h
        exact Option.some.inj h ▸ .refused hc hq
      · rw [Driver.qbuf, if_neg hq, if_pos rfl] at h
        exact Option.some.inj h ▸ .queued hc (fun hb => hq (Or.inl hb))
    · exact absurd h (by simp)
  | startStreamon ok =>
    simp only [step] at h
    split at h
    · next before quiet hc =>
      cases ok with
      | true => exact Option.some.inj h ▸ .streamon hc
      | false => exact Option.some.inj h ▸ .streamonFails hc
    · exact absurd h (by simp)
  | stop ok =>
    simp only [step] at h
    split at h
    · next hc =>
      cases ok with
      | true => exact Option.some.inj h ▸ .stop hc
      | false => exact Option.some.inj h ▸ .stopFails hc
    · exact absurd h (by simp)
  | noFrame =>
    simp only [step] at h
    split at h
    · exact Option.some.inj h ▸ .noFrame
    · exact absurd h (by simp)
  | dequeue k =>
    simp only [step] at h
    split at h
    · next hw =>
      by_cases hk : k ∈ s.driver.queue
      · rw [if_pos hk] at h
        by_cases hb : k ∈ s.bufByIdx
        · rw [if_pos hb] at h
          exact Option.some.inj h ▸ .lend hw hk hb
        · rw [if_neg hb] at h
          exact Option.some.inj h ▸ .stray hk hb
      · rw [if_neg hk] at h
        exact absurd h (by simp)
    · exact absurd h (by simp)
  | cbReturns =>
    simp only [step] at h
    split at h
    · next k hw =>
      by_cases hk : k ∈ s.driver.queue
      · rw [Driver.qbuf, if_pos (Or.inl hk)] at h
        exact Option.some.inj h ▸ .stillQueued hw hk
      · rw [Driver.qbuf, if_neg (by simpa using hk)] at h
        exact Option.some.inj h ▸ .requeued hw hk
    · exact absurd h (by simp)
  | cbThrows =>
    simp only [step] at h
    split at h
    · exact Option.some.inj h ▸ .cbThrows
    · exact absurd h (by simp)

/-! ### The invariant -/

/-- A buffer is queued or lent. -/
def Held (s : AlviumV4l2) (b : Nat) : Prop := b ∈ s.driver.queue ∨ s.worker = .lent b

/-- **What every run without a throwing callback keeps.**  In a
`start_streaming` the buffers done are held, and before the first of them the
queue is as it was. -/
structure Inv (s : AlviumV4l2) : Prop where
  nodup : s.driver.queue.Nodup
  mapped : ∀ b ∈ s.driver.queue, b ∈ s.bufByIdx
  lent : ∀ b, s.worker = .lent b → b ∈ s.bufByIdx
  held : s.driver.streaming = true → ∀ b ∈ s.bufByIdx, Held s b
  todo : ∀ todo before quiet, s.caller = .starting todo before quiet →
    ∃ done, s.bufByIdx = done ++ todo ∧ ∀ b ∈ done, Held s b
  clean : ∀ before, s.caller = .starting s.bufByIdx before true → s.driver.queue = before

theorem disturbed_eq_starting {c : Caller} {todo before : List Nat} {quiet : Bool}
    (h : c.disturbed = .starting todo before quiet) :
    quiet = false ∧ ∃ q, c = .starting todo before q := by
  cases c with
  | idle => exact absurd h (by simp [Caller.disturbed])
  | starting t b q =>
    rw [Caller.disturbed, Caller.starting.injEq] at h
    obtain ⟨rfl, rfl, rfl⟩ := h
    exact ⟨rfl, q, rfl⟩

/-- The worker's steps: what is held stays held, and the caller sees that the
queue was touched. -/
theorem inv_of_worker {s s' : AlviumV4l2} (h : Inv s) (hb : s'.bufByIdx = s.bufByIdx)
    (hst : s'.driver.streaming = s.driver.streaming) (hcaller : s'.caller = s.caller.disturbed)
    (hnodup : s'.driver.queue.Nodup) (hmapped : ∀ b ∈ s'.driver.queue, b ∈ s.bufByIdx)
    (hlent : ∀ b, s'.worker = .lent b → b ∈ s.bufByIdx) (hheld : ∀ b, Held s b → Held s' b) :
    Inv s' := by
  refine ⟨hnodup, fun b hq => hb ▸ hmapped b hq, fun b hw => hb ▸ hlent b hw,
    fun hs b hm => ?_, ?_, ?_⟩
  · exact hheld b (h.held (hst ▸ hs) b (hb ▸ hm))
  · intro todo before quiet hc
    rw [hcaller] at hc
    obtain ⟨-, q, hq⟩ := disturbed_eq_starting hc
    obtain ⟨done, hdone, hall⟩ := h.todo todo before q hq
    exact ⟨done, hb ▸ hdone, fun b hd => hheld b (hall b hd)⟩
  · intro before hc
    rw [hcaller] at hc
    exact absurd (disturbed_eq_starting hc).1 (by simp)

theorem inv_of_idle {s s' : AlviumV4l2} (h : Inv s) (hb : s'.bufByIdx = s.bufByIdx)
    (hw : s'.worker = s.worker) (hc : s'.caller = .idle)
    (hqueue : s'.driver.queue = s.driver.queue ∨ s'.driver.queue = [])
    (hheld : s'.driver.streaming = true → ∀ b ∈ s.bufByIdx, Held s' b) : Inv s' := by
  refine ⟨?_, ?_, fun b hl => hb ▸ h.lent b (hw ▸ hl), fun hs b hm => hheld hs b (hb ▸ hm), ?_, ?_⟩
  · rcases hqueue with hq | hq
    · rw [hq]; exact h.nodup
    · rw [hq]; simp
  · intro b hm
    rcases hqueue with hq | hq
    · rw [hq] at hm; exact hb ▸ h.mapped b hm
    · rw [hq] at hm; exact absurd hm (by simp)
  · intro t bf q hc'
    rw [hc] at hc'
    exact absurd hc' (by simp)
  · intro bf hc'
    rw [hc] at hc'
    exact absurd hc' (by simp)

theorem queue_append {s : AlviumV4l2} (h : Inv s) {k : Nat} (hk : k ∈ s.bufByIdx)
    (hnew : k ∉ s.driver.queue) :
    (s.driver.queue ++ [k]).Nodup ∧ ∀ b ∈ s.driver.queue ++ [k], b ∈ s.bufByIdx := by
  refine ⟨List.nodup_append.mpr ⟨h.nodup, by simp, fun a ha b hb hab => hnew ?_⟩, fun b hb => ?_⟩
  · exact List.mem_singleton.mp hb ▸ hab ▸ ha
  · rcases List.mem_append.mp hb with hb | hb
    · exact h.mapped b hb
    · exact List.mem_singleton.mp hb ▸ hk

theorem inv_queued {s : AlviumV4l2} (h : Inv s) {b : Nat} {todo before : List Nat} {quiet : Bool}
    (hc : s.caller = .starting (b :: todo) before quiet) (hnew : b ∉ s.driver.queue) :
    Inv { s with
      driver := { s.driver with queue := s.driver.queue ++ [b] }
      caller := .starting todo before quiet } := by
  obtain ⟨done, hdone, hall⟩ := h.todo _ _ _ hc
  obtain ⟨hnodup, hmapped⟩ := queue_append h (by rw [hdone]; simp) hnew
  have hkeep : ∀ x, Held s x → x ∈ s.driver.queue ++ [b] ∨ s.worker = .lent x :=
    fun x hx => hx.imp (List.mem_append_left _) id
  refine ⟨hnodup, hmapped, h.lent, fun hs x hx => hkeep x (h.held hs x hx), ?_, ?_⟩
  · intro t bf q hc'
    rw [Caller.starting.injEq] at hc'
    obtain ⟨rfl, -, -⟩ := hc'
    refine ⟨done ++ [b], by rw [hdone]; simp, fun x hx => ?_⟩
    rcases List.mem_append.mp hx with hx | hx
    · exact hkeep x (hall x hx)
    · exact Or.inl (List.mem_append_right _ hx)
  · -- the call is past its first buffer
    intro bf hc'
    rw [Caller.starting.injEq] at hc'
    have hlen := congrArg List.length (hc'.1.trans hdone)
    simp only [List.length_append, List.length_cons] at hlen
    omega

/-- **Every step but a throwing callback keeps the invariant.** -/
theorem inv_step {s s' : AlviumV4l2} {a : Act} (h : Inv s) (ha : a ≠ .cbThrows)
    (hst : StepTo s a s') : Inv s' := by
  cases hst with
  | startCall hc =>
    refine ⟨h.nodup, h.mapped, h.lent, h.held, ?_, ?_⟩
    · intro t bf q hc'
      rw [Caller.starting.injEq] at hc'
      exact ⟨[], by rw [← hc'.1]; rfl, by simp⟩
    · intro bf hc'
      rw [Caller.starting.injEq] at hc'
      exact hc'.2.1
  | queued hc hnew => exact inv_queued h hc hnew
  | refused hc hwhy => exact inv_of_idle h rfl rfl rfl (Or.inl rfl) h.held
  | streamon hc =>
    -- by now every buffer was queued
    obtain ⟨done, hdone, hall⟩ := h.todo _ _ _ hc
    rw [List.append_nil] at hdone
    exact inv_of_idle h rfl rfl rfl (Or.inl rfl) (fun _ b hb => hall b (hdone ▸ hb))
  | streamonFails hc => exact inv_of_idle h rfl rfl rfl (Or.inl rfl) h.held
  | stop hc => exact inv_of_idle h rfl rfl hc (Or.inr rfl) (fun hs => absurd hs (by simp))
  | stopFails hc => exact h
  | noFrame => exact h
  | @lend k hw hk hb =>
    refine inv_of_worker h rfl rfl rfl (h.nodup.erase k)
      (fun b hm => h.mapped b (List.mem_of_mem_erase hm))
      (fun b hl => Worker.lent.inj hl ▸ hb) (fun b hheld => ?_)
    rcases hheld with hm | hl
    · by_cases hbk : b = k
      · exact Or.inr (by rw [hbk])
      · exact Or.inl ((List.mem_erase_of_ne hbk).mpr hm)
    · rw [hw] at hl
      exact absurd hl (by simp)
  | stray hk hb => exact absurd (h.mapped _ hk) hb
  | requeued hw hnew =>
    obtain ⟨hnodup, hmapped⟩ := queue_append h (h.lent _ hw) hnew
    refine inv_of_worker h rfl rfl rfl hnodup hmapped (fun b hl => absurd hl (by simp))
      (fun b hheld => Or.inl ?_)
    rcases hheld with hm | hl
    · exact List.mem_append_left _ hm
    · rw [hw, Worker.lent.injEq] at hl
      exact List.mem_append_right _ (List.mem_singleton.mpr hl.symm)
  | stillQueued hw hk =>
    refine inv_of_worker h rfl rfl rfl h.nodup h.mapped (fun b hl => absurd hl (by simp))
      (fun b hheld => Or.inl ?_)
    rcases hheld with hm | hl
    · exact hm
    · rw [hw, Worker.lent.injEq] at hl
      exact hl ▸ hk
  | cbThrows => exact absurd rfl ha

/-! ### What a step hands back -/

theorem handedBack_step {s s' : AlviumV4l2} {a : Act} (h : Inv s) (ha : a ≠ .cbThrows)
    (hst : StepTo s a s') : HandedBack s a s' := by
  intro b hb hidle
  cases hst with
  | lend hw hk hm => exact absurd hidle (by simp)
  | stray hk hm => exact absurd (h.mapped _ hk) hm
  | requeued hw hnew =>
    have hl := hw.symm.trans (hb.resolve_right (by simp))
    exact List.mem_append_right _ (List.mem_singleton.mpr (Worker.lent.inj hl).symm)
  | stillQueued hw hk =>
    have hl := hw.symm.trans (hb.resolve_right (by simp))
    exact Worker.lent.inj hl ▸ hk
  | cbThrows => exact absurd rfl ha
  -- the worker is in the callback before and after
  | _ => exact absurd ((hb.resolve_right (by simp)).symm.trans hidle) (by simp)

/-- Only an ioctl of its own ends a `start_streaming`. -/
theorem failsClean_step {s s' : AlviumV4l2} {a : Act} (h : Inv s) (ha : Orderly s a)
    (hst : StepTo s a s') : FailsClean s s' := by
  intro todo before hc hidle hfalse
  cases hst with
  | refused hc' hwhy =>
    simp only [Orderly, hc'] at ha
    rw [hc', ha hwhy, Caller.starting.injEq] at hc
    obtain ⟨-, rfl, rfl⟩ := hc
    exact h.clean _ (by rw [hc', ha hwhy])
  | streamonFails hc' =>
    rw [hc', ← ha rfl, Caller.starting.injEq] at hc
    obtain ⟨-, rfl, rfl⟩ := hc
    exact h.clean _ (by rw [hc', ha rfl])
  | streamon hc' => exact absurd hfalse (by simp)
  | queued hc' hnew => exact absurd hidle (by simp)
  | startCall hc' => exact absurd hidle (by simp)
  | stop hc' => exact absurd (hc.symm.trans hidle) (by simp)
  | stopFails hc' => exact absurd (hc.symm.trans hidle) (by simp)
  | noFrame => exact absurd (hc.symm.trans hidle) (by simp)
  | cbThrows => exact absurd ha (by simp [Orderly])
  | _ =>
    -- a step of the worker
    rw [hc] at hidle
    exact absurd hidle (by simp [Caller.disturbed])

/-- **Buffers are conserved**, in every run in which no callback throws and an
ioctl of `start_streaming` fails only before the call has queued anything. -/
theorem buffers_conserved (s : AlviumV4l2) (h : TransSys.Reach sys Orderly s) :
    Conserved Orderly s := by
  have hno : ∀ {s : AlviumV4l2} {a : Act}, Orderly s a → a ≠ .cbThrows := by
    rintro s a ha rfl
    exact ha
  have hinv : Inv s := by
    refine TransSys.Reach.invariant (I := Inv) (fun s hs => ?_)
      (fun s a s' hi hc hst => inv_step hi (hno hc) (step_cases hst)) h
    obtain ⟨-, hd, hw, hc, -⟩ := hs
    exact ⟨by simp [hd], by simp [hd], by simp [hw], by simp [hd], by simp [hc], by simp [hc]⟩
  refine ⟨fun hs b hb => ?_, fun a s' ha hst =>
    ⟨handedBack_step hinv (hno ha) (step_cases hst), failsClean_step hinv ha (step_cases hst)⟩⟩
  rcases hinv.held hs b hb with hq | hl
  · exact Or.inl (List.count_eq_one_of_mem hinv.nodup hq)
  · exact Or.inr hl

/-- Two buffers, mapped. -/
def opened : AlviumV4l2 := ⟨[0, 1], ⟨[], false⟩, .idle, .idle, none⟩

/-- One frame, with the device stopped and started again under the callback. -/
def restarted : List Act :=
  [.startCall, .startQbuf true, .startQbuf true, .startStreamon true, .dequeue 0, .stop true,
   .startCall, .startQbuf true, .startQbuf true, .startStreamon true, .cbReturns]

theorem buffers_conserved_restarted :
    ∃ s, sys.run opened restarted = some s ∧ s.driver = ⟨[0, 1], true⟩ ∧ Conserved Orderly s := by
  have hstart : TransSys.Reach sys Orderly opened := .init ⟨by decide, rfl, rfl, rfl, rfl⟩
  have hmeets : sys.Meets Orderly opened restarted := by decide
  exact ⟨_, rfl, rfl, buffers_conserved _ (TransSys.Reach.run restarted hstart hmeets rfl)⟩

/-- A callback that throws: its buffer is neither queued nor lent any more. -/
theorem buffers_lost : ¬ ∀ s, TransSys.Reach sys TransSys.Any s → Conserved TransSys.Any s := by
  intro h
  have hrun : ∃ s, sys.run opened [.startCall, .startQbuf true, .startQbuf true,
      .startStreamon true, .dequeue 0, .cbThrows] = some s ∧ ¬ Accounted s :=
    ⟨_, rfl, by decide⟩
  obtain ⟨s, hs, hlost⟩ := hrun
  have hstart : TransSys.Reach sys TransSys.Any opened := .init ⟨by decide, rfl, rfl, rfl, rfl⟩
  exact hlost (h s (TransSys.Reach.run _ hstart (TransSys.meets_any _ _) hs)).1

end Opaleye.Camera
