import Opaleye.Lib.CondVar

/-!
# The two events that are waited for

`stop_video_capture` waits for the end of the stream in
`gst_filesink_pipeline::wait_pipeline_eos`, which `GST_app_base::on_bus_message`
announces, and a `thread_base` waits in `wait_for_interruption` for
`interrupt`.  Both waiters use `cv.wait(lock, pred)` and both announcements
store an atomic flag and then call `notify_all`, without the mutex.

So both are a `CondVar`, and both can lose a wake-up: the announcement may be
made between the waiter's test and its block (`wakeup_lost`).
-/

namespace Opaleye.Util

open TransSys CondVar

/-! ### End of stream -/

/-- What `GST_app_base` shares with its waiters. -/
structure AppBaseFlags where
  mGotEos : Bool

/-- `on_bus_message` on a `GST_MESSAGE_EOS`; it ignores any other message. -/
def onBusMessage : List (NotifyOp AppBaseFlags) :=
  [.store (fun s => { s with mGotEos := true }), .notifyAll]

/-- `wait_pipeline_eos` against `on_bus_message`. -/
def waitPipelineEos : CondVar AppBaseFlags where
  pred := fun s => s.mGotEos
  notifier := onBusMessage

theorem waitPipelineEos_announces : waitPipelineEos.Announces := ⟨_, rfl, fun _ => rfl⟩

/-! ### Interruption -/

/-- What `thread_base` shares with its waiters. -/
structure ThreadBaseFlags where
  mKeepRunning : Bool

def isInterrupted (s : ThreadBaseFlags) : Bool := !s.mKeepRunning

def interrupt : List (NotifyOp ThreadBaseFlags) :=
  [.store (fun s => { s with mKeepRunning := false }), .notifyAll]

/-- `wait_for_interruption()` against `interrupt`. -/
def waitForInterruption : CondVar ThreadBaseFlags where
  pred := isInterrupted
  notifier := interrupt

theorem waitForInterruption_announces : waitForInterruption.Announces := ⟨_, rfl, fun _ => rfl⟩

/-! ### Wake-ups -/

/-- **No wake-up is lost when it is not made too early.**  For both events, any
number of waiters and of announcements in any order, and whatever the flag was
at first: in a run in which no `notify_all` is made while a waiter stands
between its failed test and its block, nobody is ever blocked with the flag set
and an announcement finished. -/
theorem wakeup (mGotEos mKeepRunning : Bool) (c : Config AppBaseFlags)
    (d : Config ThreadBaseFlags) :
    (Reach (waitPipelineEos.sys ⟨mGotEos⟩) NotifySeen c → ¬ waitPipelineEos.Lost c) ∧
    (Reach (waitForInterruption.sys ⟨mKeepRunning⟩) NotifySeen d →
      ¬ waitForInterruption.Lost d) :=
  ⟨fun h => no_lost waitPipelineEos_announces h, fun h => no_lost waitForInterruption_announces h⟩

/-- The waiter blocks, then the flag is stored and everybody notified. -/
def notifyAfterBlock : List Act := [.wait 0, .wait 0, .wait 0, .notify 0, .notify 0]

/-- The waiter has tested the flag; it is stored and everybody notified, and
then the waiter blocks. -/
def notifyBeforeBlock : List Act := [.wait 0, .wait 0, .notify 0, .notify 0, .wait 0]

/-- The waiter `0` is woken by the announcement `0`. -/
def woken {σ : Type} (c : Config σ) : Bool := decide (c.waiter 0 = .lock) && (c.todo 0).isEmpty

/-- The waiter `0` is blocked behind the announcement `0`. -/
def stuck {σ : Type} (V : CondVar σ) (c : Config σ) : Bool :=
  decide (c.waiter 0 = .blocked) && V.pred c.shared && (c.todo 0).isEmpty

theorem lost_of_stuck {σ : Type} {V : CondVar σ} {c : Config σ} (h : stuck V c = true) :
    V.Lost c := by
  simp only [stuck, Bool.and_eq_true, decide_eq_true_eq, List.isEmpty_iff] at h
  exact ⟨0, 0, h.1.1, h.1.2, h.2⟩

theorem notifySeen_wait {σ : Type} (c : Config σ) (i : Nat) : NotifySeen c (.wait i) := by
  intro n ops h
  cases h

theorem notifySeen_notify {σ : Type} {c : Config σ} {n : Nat} (h : ∀ i, c.waiter i ≠ .sleep) :
    NotifySeen c (.notify n) :=
  fun _ _ _ _ => h

theorem update_blocked_ne_sleep (w : Nat → WaitPc) (hw : ∀ i, i ≠ 0 → w i = .lock) (i : Nat) :
    Function.update w 0 .blocked i ≠ WaitPc.sleep := by
  by_cases hi : i = 0
  · rw [hi, Function.update_self]
    decide
  · rw [Function.update_of_ne hi, hw i hi]
    decide

theorem wakeup_woken :
    (∃ c, Reach (waitPipelineEos.sys ⟨false⟩) NotifySeen c ∧ woken c = true ∧
      ¬ waitPipelineEos.Lost c) ∧
    (∃ c, Reach (waitForInterruption.sys ⟨true⟩) NotifySeen c ∧ woken c = true ∧
      ¬ waitForInterruption.Lost c) := by
  have hw : ∀ i, Function.update (Function.update (Function.update (fun _ => WaitPc.lock) 0 .test)
      0 .sleep) 0 .blocked i ≠ WaitPc.sleep :=
    update_blocked_ne_sleep _ (fun i hi => by simp [hi])
  have heos : (waitPipelineEos.sys ⟨false⟩).Meets NotifySeen (waitPipelineEos.boot ⟨false⟩)
      notifyAfterBlock :=
    And.intro (notifySeen_wait _ 0) (And.intro (notifySeen_wait _ 0)
      (And.intro (notifySeen_wait _ 0) (And.intro (notifySeen_notify hw)
        (And.intro (notifySeen_notify hw) trivial))))
  have hint : (waitForInterruption.sys ⟨true⟩).Meets NotifySeen (waitForInterruption.boot ⟨true⟩)
      notifyAfterBlock :=
    And.intro (notifySeen_wait _ 0) (And.intro (notifySeen_wait _ 0)
      (And.intro (notifySeen_wait _ 0) (And.intro (notifySeen_notify hw)
        (And.intro (notifySeen_notify hw) trivial))))
  obtain ⟨c, hc, hwoken⟩ := Reach.of_trace _ (P := woken) rfl heos (by decide)
  obtain ⟨d, hd, hwoken'⟩ := Reach.of_trace _ (P := woken) rfl hint (by decide)
  exact ⟨⟨c, hc, hwoken, (wakeup false true c d).1 hc⟩,
    ⟨d, hd, hwoken', (wakeup false true c d).2 hd⟩⟩

/-- **The gap is reachable**, for both events: the waiter is left blocked
behind an announcement that has been made. -/
theorem wakeup_lost :
    (¬ ∀ c, Reach (waitPipelineEos.sys ⟨false⟩) Any c → ¬ waitPipelineEos.Lost c) ∧
    (¬ ∀ c, Reach (waitForInterruption.sys ⟨true⟩) Any c → ¬ waitForInterruption.Lost c) := by
  constructor
  · intro h
    obtain ⟨c, hc, hstuck⟩ := Reach.of_trace notifyBeforeBlock
      (T := waitPipelineEos.sys ⟨false⟩) (P := stuck waitPipelineEos) rfl (meets_any _ _) (by decide)
    exact h c hc (lost_of_stuck hstuck)
  · intro h
    obtain ⟨c, hc, hstuck⟩ := Reach.of_trace notifyBeforeBlock
      (T := waitForInterruption.sys ⟨true⟩) (P := stuck waitForInterruption) rfl (meets_any _ _) (by decide)
    exact h c hc (lost_of_stuck hstuck)

end Opaleye.Util
