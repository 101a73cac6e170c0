import Opaleye.Gpio.Waveform
import Mathlib.Data.List.Induction

/-!
# The levels of the lines

`Gpio/Waveform.lean` says which edges the two timers make.  Here is what stands on the lines
between them.  At a time `T` at which both timers have been served as far as they were due
(`CaughtUp`), the lines are high when `T` is in a pulse and low when it is not, and that is a
question of `T` modulo the period (`levels_of_beats`).

The number `k` of services so far decides.  After an odd number the last one was an on service and
its pulse has not ended, after an even number the lines are as an off service left them, or as
they were before the first pulse.

Timers that are started with expiries in the past fire at once and move by as many periods as have
gone by (`nextInPhase`).  Then the next beat is the start of a pulse or the end of one whose
beginning was left out, and either way the lines follow the waveform (`levels_of_caughtUp`).
-/

namespace Opaleye.Gpio

/-- Both lines are at the level `v`. -/
def LinesAt (s : GpioState) (v : Bool) : Prop :=
  s.csiGpio cam0Pwdn = v ∧ s.csiGpio cam1Pwdn = v

/-- The services of `es` were made by `T`, and nothing else was due. -/
def CaughtUp (T : Int) (s : GpioState) (es : List Fire) : Prop :=
  (∀ e ∈ es, e.now ≤ T) ∧ T < (serviceAll s es).gpioOnTimer.expires ∧
    T < (serviceAll s es).gpioOffTimer.expires

/-- `T` is in a pulse of the waveform that starts at `start`. -/
def InPulse (start width period T : Int) : Prop := start ≤ T ∧ (T - start) % period < width

theorem linesAt_service (s : GpioState) (e : Fire) : LinesAt (service s e) e.isOn := by
  cases e with
  | on now => exact ⟨rfl, rfl⟩
  | off now => exact ⟨rfl, rfl⟩

theorem serviceAll_concat (s : GpioState) (es : List Fire) (e : Fire) :
    serviceAll s (es ++ [e]) = service (serviceAll s es) e := by
  rw [serviceAll, List.foldl_append]
  rfl

theorem serviced_of_append : ∀ (es fs : List Fire) {clock : Int} {s : GpioState},
    Serviced clock s (es ++ fs) →
    Serviced clock s es ∧ ∃ clock', Serviced clock' (serviceAll s es) fs := by
  intro es
  induction es with
  | nil => intro fs clock s h; exact ⟨trivial, clock, h⟩
  | cons e es ih =>
    intro fs clock s h
    obtain ⟨hclock, harmed, hx, hrest⟩ := h
    obtain ⟨hes, hfs⟩ := ih fs hrest
    exact ⟨⟨hclock, harmed, hx, hes⟩, hfs⟩

theorem inOrder_of_append : ∀ (es fs : List Fire) {s : GpioState}, InOrder s (es ++ fs) →
    InOrder s es ∧ InOrder (serviceAll s es) fs := by
  intro es
  induction es with
  | nil => intro fs s h; exact ⟨trivial, h⟩
  | cons e es ih =>
    intro fs s h
    obtain ⟨hfirst, hlate, hrest⟩ := h
    obtain ⟨hes, hfs⟩ := ih fs hrest
    exact ⟨⟨hfirst, hlate, hes⟩, hfs⟩

/-- **Where a run of services stands**: at the beat of its length, with the lines as the last
service left them, whose expiry was that beat's. -/
theorem beat_serviceAll {start clock : Int} {s : GpioState} (hw : 0 < s.width)
    (hp : s.width < s.period) (hb : Beat start 0 s) (es : List Fire) (hser : Serviced clock s es)
    (hord : InOrder s es) :
    Beat start es.length (serviceAll s es) ∧
      ∀ e ∈ es.getLast?, LinesAt (serviceAll s es) e.isOn ∧
        ∃ k, es.length = k + 1 ∧ (beat start s.width s.period k).1 = e.isOn ∧
          (beat start s.width s.period k).2 ≤ e.now := by
  induction es using List.reverseRecOn with
  | nil => exact ⟨hb, fun e he => by cases he⟩
  | append_singleton es e ih =>
    obtain ⟨hser, clock', -, -, hx, -⟩ := serviced_of_append es [e] hser
    obtain ⟨hord, hfirst, hlate, -⟩ := inOrder_of_append es [e] hord
    obtain ⟨hbeat, -⟩ := ih hser hord
    obtain ⟨hper, hwid⟩ := serviceAll_period es s
    obtain ⟨heq, hbeat'⟩ := beat_service (by rw [hwid]; exact hw) (by rw [hper, hwid]; exact hp)
      hbeat hx hfirst hlate
    rw [hper, hwid] at heq
    rw [serviceAll_concat, List.length_append, List.getLast?_concat]
    refine ⟨hbeat', fun f hf => ?_⟩
    obtain rfl := Option.some.inj hf
    refine ⟨linesAt_service _ e, es.length, rfl, ?_, ?_⟩
    · rw [← heq]
    · rw [← heq]
      exact hx

theorem inPulse_iff {start width period T : Int} (n : Nat) (hp : 0 < period)
    (h0 : start + n * period ≤ T) (h1 : T < start + n * period + period) :
    InPulse start width period T ↔ T < start + n * period + width := by
  have hn : 0 ≤ (n : Int) * period := Int.mul_nonneg (Int.natCast_nonneg n) (Int.le_of_lt hp)
  have hmod : (T - start) % period = T - start - n * period := by
    have hsplit : T - start = T - start - n * period + n * period := by omega
    rw [hsplit, Int.add_mul_emod_self_right, Int.emod_eq_of_lt (by omega) (by omega)]
    omega
  rw [InPulse, hmod]
  omega

/-- **The lines at a time.**  When the timers have been served in order, in time, and as far as
they were due at `T`, the lines are high at `T` exactly when `T` is in a pulse. -/
theorem levels_of_beats {start clock T : Int} {s : GpioState} (hw : 0 < s.width)
    (hp : s.width < s.period) (hb : Beat start 0 s) (hlow : LinesAt s false) {es : List Fire}
    (hser : Serviced clock s es) (hord : InOrder s es) (hT : CaughtUp T s es) :
    (InPulse start s.width s.period T ∧ LinesAt (serviceAll s es) true) ∨
      (¬ InPulse start s.width s.period T ∧ LinesAt (serviceAll s es) false) := by
  obtain ⟨hbeat, hlast⟩ := beat_serviceAll hw hp hb es hser hord
  obtain ⟨hnow, hon, hoff⟩ := hT
  obtain ⟨hper, hwid⟩ := serviceAll_period es s
  obtain ⟨hbon, hboff⟩ := hbeat
  rw [hper] at hbon hboff
  rw [hwid] at hboff
  rw [hbon] at hon
  rw [hboff] at hoff
  rcases List.eq_nil_or_concat es with rfl | ⟨es', e, rfl⟩
  · -- before the first pulse
    refine .inr ⟨fun hin => ?_, hlow⟩
    have hstart : T < start + ((0 + 1) / 2 : Nat) * s.period := hon
    simp only [Nat.reduceAdd, Nat.reduceDiv, Nat.cast_zero, zero_mul, add_zero] at hstart
    exact absurd hin.1 (by omega)
  · obtain ⟨hlines, k, hlen, hfst, hdue⟩ := hlast e (by rw [List.concat_eq_append, List.getLast?_concat]; rfl)
    have hTe : e.now ≤ T := hnow e (by simp)
    rw [hlen] at hon hoff
    rcases Nat.even_or_odd' k with ⟨n, rfl | rfl⟩
    · -- the pulse number `n` has begun
      have h1 : (2 * n + 1 + 1) / 2 = n + 1 := by omega
      have h2 : (2 * n + 1) / 2 = n := by omega
      have h3 : 2 * n / 2 = n := by omega
      have heven : 2 * n % 2 = 0 := by omega
      rw [h1] at hon
      rw [h2] at hoff
      rw [beat, if_pos heven, h3] at hdue hfst
      push_cast at hon
      rw [add_mul, one_mul] at hon
      rw [inPulse_iff n (by omega) (by dsimp only at hdue; omega) (by omega)]
      rw [← hfst] at hlines
      exact .inl ⟨by omega, hlines⟩
    · -- the pulse number `n` has ended
      have h1 : (2 * n + 1 + 1 + 1) / 2 = n + 1 := by omega
      have h3 : (2 * n + 1) / 2 = n := by omega
      have hodd : (2 * n + 1) % 2 ≠ 0 := by omega
      rw [h1] at hon
      rw [beat, if_neg hodd, h3] at hdue hfst
      push_cast at hon
      rw [add_mul, one_mul] at hon
      dsimp only at hdue
      rw [inPulse_iff n (by omega) (by omega) (by omega)]
      rw [← hfst] at hlines
      exact .inr ⟨by omega, hlines⟩

/-! ### Timers that are started late -/

/-- The first time after `now` that is in phase with `t0`. -/
def nextInPhase (t0 period now : Int) : Int := t0 + ((now - t0) / period + 1) * period

theorem nextInPhase_eq {t0 period now m : Int} (hp : 0 < period) (h0 : now < t0 + m * period)
    (h1 : t0 + m * period ≤ now + period) : nextInPhase t0 period now = t0 + m * period := by
  have hdiv : (now - t0) / period = m - 1 ∧ (now - t0) % period = now - t0 - (m - 1) * period := by
    refine (Int.ediv_emod_unique hp).mpr ⟨by ring, ?_, ?_⟩
    · rw [sub_mul]
      omega
    · rw [sub_mul]
      omega
  rw [nextInPhase, hdiv.1, sub_add_cancel]

theorem nextInPhase_bounds (t0 : Int) {period : Int} (hp : 0 < period) (now : Int) :
    now < nextInPhase t0 period now ∧ nextInPhase t0 period now ≤ now + period := by
  have hmod := Int.emod_add_mul_ediv (now - t0) period
  have h0 := Int.emod_nonneg (now - t0) (by omega : period ≠ 0)
  have h1 := Int.emod_lt_of_pos (now - t0) hp
  rw [nextInPhase, add_mul, one_mul, Int.mul_comm]
  omega

/-- **A timer served late, by however much, is in phase again.** -/
theorem hrtimerForwardNow_nextInPhase {t : Hrtimer} {now interval : Int} (hx : t.expires ≤ now) :
    (hrtimerForwardNow t now interval).expires = nextInPhase t.expires interval now := by
  rw [hrtimerForwardNow, if_neg (by omega), nextInPhase]

theorem beat_next {start : Int} {s : GpioState} (h : Beat (start - s.period) 2 s) :
    Beat start 0 s := by
  obtain ⟨hon, hoff⟩ := h
  refine ⟨?_, ?_⟩
  · rw [hon]
    norm_num
  · rw [hoff]
    norm_num
    ring

/-- Each timer has been served once, however late, the off timer before the next pulse starts.  Then
the next beat is the start of that pulse, or the end of the one before. -/
theorem beat_caughtUp {n1 n2 : Int} {s : GpioState} (hw : 0 < s.width) (hp : s.width < s.period)
    (hoff : s.gpioOffTimer.expires = s.gpioOnTimer.expires + s.width)
    (h1 : s.gpioOnTimer.expires ≤ n1) (h12 : n1 ≤ n2) (h2 : s.gpioOffTimer.expires ≤ n2)
    (hnext : n2 < nextInPhase s.gpioOnTimer.expires s.period n1) :
    Beat (nextInPhase s.gpioOnTimer.expires s.period n1) 0 (serviceAll s [.on n1, .off n2]) ∨
      Beat (nextInPhase s.gpioOnTimer.expires s.period n1 - s.period) 1
        (serviceAll s [.on n1, .off n2]) := by
  obtain ⟨hper, hwid⟩ := serviceAll_period [.on n1, .off n2] s
  have hon' : (serviceAll s [.on n1, .off n2]).gpioOnTimer.expires
      = nextInPhase s.gpioOnTimer.expires s.period n1 := hrtimerForwardNow_nextInPhase h1
  have hoff' : (serviceAll s [.on n1, .off n2]).gpioOffTimer.expires
      = nextInPhase s.gpioOffTimer.expires s.period n2 := hrtimerForwardNow_nextInPhase h2
  obtain ⟨-, hle⟩ := nextInPhase_bounds s.gpioOnTimer.expires (by omega : 0 < s.period) n1
  -- the next pulse is the one number `m`
  obtain ⟨m, hm⟩ : ∃ m, nextInPhase s.gpioOnTimer.expires s.period n1
      = s.gpioOnTimer.expires + m * s.period := ⟨_, rfl⟩
  rw [hm] at hon' hle hnext ⊢
  rw [hoff] at hoff'
  by_cases hin : n2 < s.gpioOnTimer.expires + s.width + (m - 1) * s.period
  · -- the off timer was served before the end of the pulse before that
    rw [nextInPhase_eq (by omega) hin (by rw [sub_mul]; omega)] at hoff'
    refine .inr ⟨?_, ?_⟩
    · rw [hon', hper]
      norm_num
    · rw [hoff', hwid]
      norm_num
      ring
  · rw [sub_mul] at hin
    rw [nextInPhase_eq (m := m) (by omega) (by omega) (by omega)] at hoff'
    refine .inl ⟨?_, ?_⟩
    · rw [hon']
      norm_num
    · rw [hoff', hwid]
      norm_num
      ring

/-- **The lines once both timers have caught up.**  The pulse before the next one is over for the
lines whether its end was still to be served or not. -/
theorem levels_of_caughtUp {start clock T : Int} {s : GpioState} (hw : 0 < s.width)
    (hp : s.width < s.period) (hb : Beat start 0 s ∨ Beat (start - s.period) 1 s)
    (hlow : LinesAt s false) {es : List Fire} (hser : Serviced clock s es) (hord : InOrder s es)
    (hT : CaughtUp T s es) :
    (InPulse start s.width s.period T ∧ LinesAt (serviceAll s es) true) ∨
      (¬ InPulse start s.width s.period T ∧ LinesAt (serviceAll s es) false) := by
  rcases hb with hb | hb
  · exact levels_of_beats hw hp hb hlow hser hord hT
  · cases es with
    | nil =>
      refine .inr ⟨fun hin => ?_, hlow⟩
      have hoff : s.gpioOffTimer.expires = start - s.period + s.width + (1 / 2 : Nat) * s.period :=
        hb.2
      have hlt : T < s.gpioOffTimer.expires := hT.2.2
      norm_num at hoff
      have hge := hin.1
      omega
    | cons e es =>
      -- what comes first is the end of that pulse
      obtain ⟨-, -, hx, hser⟩ := hser
      obtain ⟨hfirst, hlate, hord⟩ := hord
      obtain ⟨heq, hb⟩ := beat_service_odd (n := 0) hp hb hx hfirst hlate
      have hoff : e.isOn = false := congrArg Prod.fst heq
      have hlow' : LinesAt (service s e) false := hoff ▸ linesAt_service s e
      have hT' : CaughtUp T (service s e) es :=
        ⟨fun f hf => hT.1 f (List.mem_cons_of_mem _ hf), hT.2⟩
      have hlevels := levels_of_beats (s := service s e) (by simpa using hw) (by simpa using hp)
        (beat_next (by simpa using hb)) hlow' hser hord hT'
      rw [service_period, service_width] at hlevels
      exact hlevels

end Opaleye.Gpio
