import Opaleye.Gpio.Interlock
import Mathlib.Data.Int.ModEq
import Mathlib.Algebra.Ring.Parity
import Mathlib.Tactic.Linarith

/-!
# The waveform

After an off-to-on write two timers run freely.  Each callback re-arms its own
timer from whatever clock value it sees, and the two never look at each other.
This file shows that they keep one phase all the same.

* `Serviced`: callbacks at non-decreasing times, each on an expired timer.
  Then every expiry of the on timer is `start` modulo the period, and every
  expiry of the off timer `start + width` (`phase_serviceAll`).
* `InOrder`: besides, the timers are served in order of expiry, and each less
  than a period late.  Then the services alternate, and the `n`-th of each kind
  is for the `n`-th edge of its kind (`log_eq_beats`).

Both are about a first pulse whose end fits in a `ktime_t`; `waveform_wraps` is
one whose end does not.

The second part is an induction on the run with the number `k` of services so
far: `Beat start k` says where both expiries stand.  For even `k` the on timer
is next, by the width; for odd `k` the off timer, by the rest of the period.
-/

namespace Opaleye.Gpio

open LockedThreads

/-! ### Services -/

def Fire.isOn : Fire → Bool
  | .on _ => true
  | .off _ => false

/-- The timer it is not for. -/
def Fire.other : Fire → GpioState → Hrtimer
  | .on _, s => s.gpioOffTimer
  | .off _, s => s.gpioOnTimer

def serviceAll (s : GpioState) (es : List Fire) : GpioState := es.foldl service s

/-- Services at non-decreasing times from `clock` on, each of an armed timer at
or after its expiry. -/
def Serviced : Int → GpioState → List Fire → Prop
  | _, _, [] => True
  | clock, s, e :: es => clock ≤ e.now ∧ (e.timer s).armed = true ∧
      (e.timer s).expires ≤ e.now ∧ Serviced e.now (service s e) es

/-- Each service is of the timer that expires first, and less than one period
late. -/
def InOrder : GpioState → List Fire → Prop
  | _, [] => True
  | s, e :: es => (e.timer s).expires ≤ (e.other s).expires ∧
      e.now < (e.timer s).expires + s.period ∧ InOrder (service s e) es

/-- The services of a run: on or off, and the expiry each was for. -/
def log : GpioState → List Fire → List (Bool × Int)
  | _, [] => []
  | s, e :: es => (e.isOn, (e.timer s).expires) :: log (service s e) es

/-- **Services are interrupts of the trigger**, whatever its writers do. -/
theorem run_services : ∀ (es : List Fire) {clock : Int} (c : Config Pc GpioState),
    Serviced clock c.shared es →
    trigger.run c (es.map .interrupt) = some { c with shared := serviceAll c.shared es } := by
  intro es
  induction es with
  | nil => intro clock c _; rfl
  | cons e es ih =>
    intro clock c h
    obtain ⟨-, harmed, hx, hrest⟩ := h
    have hfire : fire e c.shared = some (service c.shared e) :=
      fire_eq_some.mpr ⟨harmed, hx, rfl⟩
    have hstep : trigger.step c (.interrupt e)
        = some { c with shared := service c.shared e } := by
      show (fire e c.shared).map _ = _
      rw [hfire]
      rfl
    rw [List.map_cons, TransSys.run_cons, hstep]
    exact ih _ hrest

@[simp] theorem service_period (s : GpioState) (e : Fire) : (service s e).period = s.period := by
  cases e <;> rfl

@[simp] theorem service_width (s : GpioState) (e : Fire) : (service s e).width = s.width := by
  cases e <;> rfl

theorem serviceAll_period : ∀ (es : List Fire) (s : GpioState),
    (serviceAll s es).period = s.period ∧ (serviceAll s es).width = s.width := by
  intro es
  induction es with
  | nil => intro s; exact ⟨rfl, rfl⟩
  | cons e es ih =>
    intro s
    obtain ⟨hp, hw⟩ := ih (service s e)
    exact ⟨hp.trans (service_period s e), hw.trans (service_width s e)⟩

/-! ### The phase -/

/-- A timer served late moves by whole intervals. -/
theorem hrtimerForwardNow_modEq (t : Hrtimer) (now interval : Int) :
    (hrtimerForwardNow t now interval).expires ≡ t.expires [ZMOD interval] := by
  rw [hrtimerForwardNow]
  split
  · rfl
  · exact Int.modEq_iff_dvd.mpr ⟨-((now - t.expires) / interval + 1), by ring⟩

theorem hrtimerForwardNow_expires {t : Hrtimer} {now interval : Int} (hx : t.expires ≤ now)
    (hlate : now < t.expires + interval) :
    (hrtimerForwardNow t now interval).expires = t.expires + interval := by
  have hdiv : (now - t.expires) / interval = 0 :=
    Int.ediv_eq_zero_of_lt (by omega) (by omega)
  rw [hrtimerForwardNow, if_neg (by omega)]
  simp [hdiv]

/-- Both expiries are in phase with a pulse that starts at `start`. -/
def Phase (start : Int) (s : GpioState) : Prop :=
  s.gpioOnTimer.expires ≡ start [ZMOD s.period] ∧
    s.gpioOffTimer.expires ≡ start + s.width [ZMOD s.period]

theorem phase_service {start : Int} {s : GpioState} (h : Phase start s) (e : Fire) :
    Phase start (service s e) := by
  cases e with
  | on now => exact ⟨(hrtimerForwardNow_modEq _ _ _).trans h.1, h.2⟩
  | off now => exact ⟨h.1, (hrtimerForwardNow_modEq _ _ _).trans h.2⟩

/-- **The phase is kept by every run of services.** -/
theorem phase_serviceAll {start : Int} : ∀ (es : List Fire) {s : GpioState}, Phase start s →
    Phase start (serviceAll s es) := by
  intro es
  induction es with
  | nil => intro s h; exact h
  | cons e es ih => intro s h; exact ih (phase_service h e)

/-! ### The beat -/

/-- Service number `k` of the intended waveform. -/
def beat (start width period : Int) (k : Nat) : Bool × Int :=
  if k % 2 = 0 then (true, start + (k / 2 : Nat) * period)
  else (false, start + width + (k / 2 : Nat) * period)

/-- Where both expiries stand after `k` services. -/
def Beat (start : Int) (k : Nat) (s : GpioState) : Prop :=
  s.gpioOnTimer.expires = start + ((k + 1) / 2 : Nat) * s.period ∧
    s.gpioOffTimer.expires = start + s.width + (k / 2 : Nat) * s.period

section OneService

variable {start : Int} {s : GpioState} {e : Fire}

/-- An on service is due, and an off service would be out of order. -/
theorem beat_service_even {n : Nat} (hw : 0 < s.width) (h : Beat start (2 * n) s)
    (hx : (e.timer s).expires ≤ e.now) (hfirst : (e.timer s).expires ≤ (e.other s).expires)
    (hlate : e.now < (e.timer s).expires + s.period) :
    (e.isOn, (e.timer s).expires) = beat start s.width s.period (2 * n) ∧
      Beat start (2 * n + 1) (service s e) := by
  obtain ⟨hon, hoff⟩ := h
  have h1 : (2 * n + 1) / 2 = n := by omega
  have h2 : 2 * n / 2 = n := by omega
  rw [h1] at hon
  rw [h2] at hoff
  cases e with
  | off now => simp only [Fire.timer, Fire.other] at hfirst; omega
  | on now =>
    have hnext : (hrtimerForwardNow s.gpioOnTimer now s.period).expires
        = s.gpioOnTimer.expires + s.period := hrtimerForwardNow_expires hx hlate
    refine ⟨by simp [beat, Fire.isOn, Fire.timer, hon, h2], ?_, ?_⟩
    · show (hrtimerForwardNow s.gpioOnTimer now s.period).expires
        = start + ((2 * n + 1 + 1) / 2 : Nat) * s.period
      rw [hnext, hon, show (2 * n + 1 + 1) / 2 = n + 1 by omega]
      push_cast
      ring
    · show s.gpioOffTimer.expires = start + s.width + ((2 * n + 1) / 2 : Nat) * s.period
      rw [hoff, h1]

/-- An off service is due, and an on service would be out of order. -/
theorem beat_service_odd {n : Nat} (hp : s.width < s.period) (h : Beat start (2 * n + 1) s)
    (hx : (e.timer s).expires ≤ e.now) (hfirst : (e.timer s).expires ≤ (e.other s).expires)
    (hlate : e.now < (e.timer s).expires + s.period) :
    (e.isOn, (e.timer s).expires) = beat start s.width s.period (2 * n + 1) ∧
      Beat start (2 * n + 1 + 1) (service s e) := by
  obtain ⟨hon, hoff⟩ := h
  have h1 : (2 * n + 1 + 1) / 2 = n + 1 := by omega
  have h2 : (2 * n + 1) / 2 = n := by omega
  rw [h1] at hon
  rw [h2] at hoff
  cases e with
  | on now =>
    simp only [Fire.timer, Fire.other] at hfirst
    push_cast at hon
    rw [hon, hoff] at hfirst
    linarith
  | off now =>
    have hnext : (hrtimerForwardNow s.gpioOffTimer now s.period).expires
        = s.gpioOffTimer.expires + s.period := hrtimerForwardNow_expires hx hlate
    refine ⟨by simp [beat, Fire.isOn, Fire.timer, hoff, h2], ?_, ?_⟩
    · show s.gpioOnTimer.expires = start + ((2 * n + 1 + 1 + 1) / 2 : Nat) * s.period
      rw [hon, show (2 * n + 1 + 1 + 1) / 2 = n + 1 by omega]
    · show (hrtimerForwardNow s.gpioOffTimer now s.period).expires
        = start + s.width + ((2 * n + 1 + 1) / 2 : Nat) * s.period
      rw [hnext, hoff, h1]
      push_cast
      ring

/-- **One service in order** is the next beat. -/
theorem beat_service {k : Nat} (hw : 0 < s.width) (hp : s.width < s.period) (h : Beat start k s)
    (hx : (e.timer s).expires ≤ e.now) (hfirst : (e.timer s).expires ≤ (e.other s).expires)
    (hlate : e.now < (e.timer s).expires + s.period) :
    (e.isOn, (e.timer s).expires) = beat start s.width s.period k ∧
      Beat start (k + 1) (service s e) := by
  rcases Nat.even_or_odd' k with ⟨n, rfl | rfl⟩
  · exact beat_service_even hw h hx hfirst hlate
  · exact beat_service_odd hp h hx hfirst hlate

end OneService

/-- **The run is the intended waveform.** -/
theorem log_eq_beats {start : Int} : ∀ (es : List Fire) (k : Nat) (clock : Int) {s : GpioState},
    0 < s.width → s.width < s.period → Beat start k s → Serviced clock s es → InOrder s es →
    log s es = (List.range es.length).map (fun j => beat start s.width s.period (k + j)) := by
  intro es
  induction es with
  | nil => intro k clock s _ _ _ _ _; rfl
  | cons e es ih =>
    intro k clock s hw hp hb hser hord
    obtain ⟨-, -, hx, hser'⟩ := hser
    obtain ⟨hfirst, hlate, hord'⟩ := hord
    obtain ⟨hhead, hb'⟩ := beat_service hw hp hb hx hfirst hlate
    have htail := ih (k + 1) e.now (by simpa using hw) (by simpa using hp) hb' hser' hord'
    rw [log, hhead, htail, List.length_cons, List.range_succ_eq_map, List.map_cons, List.map_map,
      Nat.add_zero, service_width, service_period]
    congr 1
    apply List.map_congr_left
    intro j _
    show beat _ _ _ (k + 1 + j) = beat _ _ _ (k + (j + 1))
    congr 1
    omega

/-- The expiries the on services were for. -/
def onExpiries (l : List (Bool × Int)) : List Int := (l.filter (fun p => p.1)).map Prod.snd

/-- The expiries the off services were for. -/
def offExpiries (l : List (Bool × Int)) : List Int := (l.filter (fun p => !p.1)).map Prod.snd

theorem beat_fst (start width period : Int) (k : Nat) :
    (beat start width period k).1 = decide (k % 2 = 0) := by
  by_cases hk : k % 2 = 0
  · simp [beat, hk]
  · simp [beat, hk]

theorem onExpiries_beats (start width period : Int) : ∀ m : Nat,
    onExpiries ((List.range m).map (beat start width period))
      = (List.range ((m + 1) / 2)).map (fun n : Nat => start + n * period) := by
  intro m
  induction m with
  | zero => rfl
  | succ m ih =>
    rw [onExpiries] at ih ⊢
    rw [List.range_succ, List.map_append, List.filter_append, List.map_append, ih]
    by_cases hm : m % 2 = 0
    · rw [show (m + 1 + 1) / 2 = (m + 1) / 2 + 1 by omega, List.range_succ, List.map_append]
      simp [beat, hm, show (m + 1) / 2 = m / 2 by omega]
    · rw [show (m + 1 + 1) / 2 = (m + 1) / 2 by omega]
      simp [beat, hm]

theorem offExpiries_beats (start width period : Int) : ∀ m : Nat,
    offExpiries ((List.range m).map (beat start width period))
      = (List.range (m / 2)).map (fun n : Nat => start + width + n * period) := by
  intro m
  induction m with
  | zero => rfl
  | succ m ih =>
    rw [offExpiries] at ih ⊢
    rw [List.range_succ, List.map_append, List.filter_append, List.map_append, ih]
    by_cases hm : m % 2 = 0
    · rw [show (m + 1) / 2 = m / 2 by omega]
      simp [beat, hm]
    · rw [show (m + 1) / 2 = m / 2 + 1 by omega, List.range_succ, List.map_append]
      simp [beat, hm]

/-! ### The start -/

/-- What the kernel's clock may show: no time before 1970 and none from
`KTIME_SEC_MAX` on, less the second up to the next whole one. -/
def RealClock (now : Int) : Prop := 0 ≤ now ∧ now < (ktimeSecMax - 1) * nsecPerSec

/-- Without a `t0` the first pulse starts on a whole second, a quarter of a
second away at least and one and a quarter at most. -/
theorem kt0On_of_zero {now : Int} {s : GpioState} (h0 : s.t0 = 0) (hnow : RealClock now) :
    kt0On now s % nsecPerSec = 0 ∧ now + 250000000 ≤ kt0On now s ∧
      kt0On now s < now + 1250000000 := by
  have hz : s.t0 = ktimeSet 0 0 := by rw [h0]; rfl
  have hone : ktimeSet 1 0 = nsecPerSec := rfl
  obtain ⟨hnow0, hnow1⟩ := hnow
  have hns : nsecPerSec = 1000000000 := rfl
  have hmax : ktimeSecMax = 9223372036 := rfl
  rw [hns, hmax] at hnow1
  rw [kt0On, if_pos hz, hone, hns]
  -- the clock in whole seconds and the rest
  obtain ⟨q, hq⟩ : ∃ q, now / 1000000000 = q := ⟨_, rfl⟩
  obtain ⟨r, hr⟩ : ∃ r, now % 1000000000 = r := ⟨_, rfl⟩
  rw [hq, hr]
  have hkt : ktimeSet (q + 1) 0 = (q + 1) * 1000000000 := by
    rw [ktimeSet_of_lt (by omega) (by omega) (by omega) (by decide), hns, Int.add_zero]
  have hclock : ktimeSet q r = now := by
    rw [ktimeSet_of_lt (by omega) (by omega) (by omega) (by omega), hns]
    omega
  have hdiff : ktimeSub ((q + 1) * 1000000000) now = (q + 1) * 1000000000 - now :=
    ktimeWrap_of_isKtime ⟨by simp only [ktimeMax]; omega, by simp only [ktimeMax]; omega⟩
  have hadd : ktimeAdd ((q + 1) * 1000000000) 1000000000 = (q + 1) * 1000000000 + 1000000000 :=
    ktimeWrap_of_isKtime ⟨by simp only [ktimeMax]; omega, by simp only [ktimeMax]; omega⟩
  simp only [hkt, hclock, hdiff, hadd]
  by_cases hd : ((q + 1) * 1000000000 - now) % 2 ^ 64 < 250 * 1000 * 1000
  · rw [if_pos hd]
    refine ⟨?_, ?_, ?_⟩ <;> omega
  · rw [if_neg hd]
    refine ⟨?_, ?_, ?_⟩ <;> omega

theorem kt0On_of_ne_zero {now : Int} {s : GpioState} (h0 : s.t0 ≠ 0) : kt0On now s = s.t0 := by
  have hz : ktimeSet 0 0 = 0 := rfl
  rw [kt0On, if_neg (by rw [hz]; exact h0)]

theorem enableAttrStore_off_on {now val : Int} {buf : List Char} {s : GpioState}
    (hoff : s.enabled = false) (hbuf : parseEnable buf = some val) (hval : val ≠ 0) :
    (opaleyeEnableAttrStore now buf s).1 =
      { s with
        gpioOnTimer := hrtimerStart s.gpioOnTimer (kt0On now s)
        gpioOffTimer := hrtimerStart s.gpioOffTimer (ktimeAdd (kt0On now s) s.width)
        enabled := true } := by
  have hedge : edgeOf s.enabled val = 2 := edgeOf_eq_two.mpr ⟨hoff, hval⟩
  rw [opaleyeEnableAttrStore, hbuf]
  simp only [hedge, switchEdge, decide_eq_true hval]

/-- **The waveform never drifts.**  After an off-to-on write the first pulse
starts at `t0`, or else at the whole second above.  When its end fits in a
`ktime_t`, both timers keep their phase whatever the services; and when they are
served in order and in time, the services alternate and the `n`-th of each kind
is for the `n`-th edge. -/
theorem waveform (now val : Int) (buf : List Char) (s : GpioState) (hoff : s.enabled = false)
    (hbuf : parseEnable buf = some val) (hval : val ≠ 0) (hw : 0 < s.width)
    (hp : s.width < s.period) :
    let s₁ := (opaleyeEnableAttrStore now buf s).1
    let start := s₁.gpioOnTimer.expires
    (s.t0 ≠ 0 → start = s.t0) ∧
    (s.t0 = 0 → RealClock now →
      start % nsecPerSec = 0 ∧ now + 250000000 ≤ start ∧ start < now + 1250000000) ∧
    (IsKtime (start + s.width) → ∀ es, Serviced now s₁ es →
      (serviceAll s₁ es).gpioOnTimer.expires ≡ start [ZMOD s.period] ∧
      (serviceAll s₁ es).gpioOffTimer.expires ≡ start + s.width [ZMOD s.period] ∧
      (InOrder s₁ es →
        (log s₁ es).map Prod.fst = (List.range es.length).map (fun k => decide (k % 2 = 0)) ∧
        onExpiries (log s₁ es)
          = (List.range ((es.length + 1) / 2)).map (fun n : Nat => start + n * s.period) ∧
        offExpiries (log s₁ es)
          = (List.range (es.length / 2)).map (fun n : Nat => start + s.width + n * s.period))) := by
  intro s₁ start
  have hs₁ : s₁ = _ := enableAttrStore_off_on hoff hbuf hval
  have hstart : start = kt0On now s := by simp only [start, hs₁, hrtimerStart_expires]
  have hper : s₁.period = s.period := by rw [hs₁]
  have hwid : s₁.width = s.width := by rw [hs₁]
  refine ⟨fun h0 => hstart.trans (kt0On_of_ne_zero h0),
    fun h0 hnow => hstart ▸ kt0On_of_zero h0 hnow, fun hfits es hser => ?_⟩
  have hoffx : s₁.gpioOffTimer.expires = start + s₁.width := by
    rw [hs₁, hrtimerStart_expires, ← hstart, ktimeAdd, ktimeWrap_of_isKtime hfits]
  have hphase : Phase start (serviceAll s₁ es) :=
    phase_serviceAll es ⟨Int.ModEq.refl _, by rw [hoffx]⟩
  obtain ⟨hpes, hwes⟩ := serviceAll_period es s₁
  rw [Phase, hpes, hwes, hper, hwid] at hphase
  refine ⟨hphase.1, hphase.2, fun hord => ?_⟩
  have hbeat : Beat start 0 s₁ := by
    refine ⟨?_, ?_⟩
    · simp [start]
    · simp [hoffx]
  have hlog := log_eq_beats es 0 now (by omega) (by omega) hbeat hser hord
  simp only [Nat.zero_add, hper, hwid] at hlog
  rw [hlog]
  refine ⟨?_, onExpiries_beats _ _ _ _, offExpiries_beats _ _ _ _⟩
  rw [List.map_map]
  exact List.map_congr_left (fun k _ => beat_fst _ _ _ k)

/-- The default settings, switched on at time zero: three services, the second
one 500 ns late. -/
theorem waveform_default :
    let s₁ := (opaleyeEnableAttrStore 0 ['1'] opaleyeGpioInit).1
    let es : List Fire := [.on 1000000000, .off 1100000500, .on 2000000000]
    Serviced 0 s₁ es ∧ InOrder s₁ es ∧ onExpiries (log s₁ es) = [1000000000, 2000000000] ∧
      offExpiries (log s₁ es) = [1100000000] := by
  intro s₁ es
  have hser : Serviced 0 s₁ es := by
    refine ⟨by decide, by decide, by decide, by decide, by decide, by decide, by decide,
      by decide, by decide, trivial⟩
  have hord : InOrder s₁ es :=
    ⟨by decide, by decide, by decide, by decide, by decide, by decide, trivial⟩
  obtain ⟨-, -, hrun⟩ := waveform 0 1 ['1'] opaleyeGpioInit rfl (by decide) (by decide)
    (by decide) (by decide)
  obtain ⟨-, -, hall⟩ := hrun ⟨by decide, by decide⟩ es hser
  obtain ⟨-, hon, hoff⟩ := hall hord
  exact ⟨hser, hord, hon.trans (by decide), hoff.trans (by decide)⟩

/-- The state after a `t0` at the end of time was written: `ktime_set` takes it
to `KTIME_MAX`. -/
def lastStart : GpioState :=
  (opaleyeTimerSettingsAttrStore "9223372036.0,1.0,0.1".toList opaleyeGpioInit).1

/-- **A pulse that ends past `KTIME_MAX`**: the sum wraps, and the off timer is
out of phase from the start. -/
theorem waveform_wraps :
    ¬ ∀ (now val : Int) (buf : List Char) (s : GpioState), RealClock now → s.enabled = false →
      parseEnable buf = some val → val ≠ 0 → 0 < s.width → s.width < s.period →
      ∀ es, Serviced now (opaleyeEnableAttrStore now buf s).1 es →
        (serviceAll (opaleyeEnableAttrStore now buf s).1 es).gpioOffTimer.expires
          ≡ (opaleyeEnableAttrStore now buf s).1.gpioOnTimer.expires + s.width
            [ZMOD s.period] := by
  intro h
  have hphase := h 0 1 ['1'] lastStart ⟨by decide, by decide⟩ (by decide) (by decide) (by decide)
    (by decide) (by decide) [] trivial
  exact absurd hphase (by decide)

end Opaleye.Gpio
