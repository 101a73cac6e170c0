import Opaleye.App.HwTrigger
import Opaleye.Gpio.Levels

/-!
# From the configuration to the lines

The whole way of a trigger: counts of microseconds in the configuration, the `hw_trigger` block of
`Opaleye_app::init`, the two sysfs files, the state of the module, its two timers, and the levels
of the camera lines.  `trigger_lines` says what stands on the lines at any time after `init`.

A key that is missing has its default.  What is taken for granted are counts that fit an `int`
(`hwTrigger_iff` says what happens to the others), a clock that does not near the end of `ktime_t`,
and timer services in order and in time.

An `int` of microseconds ends 36 minutes after the epoch, so by a clock that is right a `t0` that is
not zero is in the past.  The timers then catch up with their first expiries, by however many
periods; from the next time in phase with `t0` on the lines are what they would have been.
-/

namespace Opaleye.App

open Text Opaleye.Gpio

theorem switchEdge_csiGpio (edge : Nat) (now : Int) (s : GpioState) :
    (switchEdge edge now s).csiGpio = s.csiGpio := by
  unfold switchEdge
  split
  · rfl
  · rfl
  · rfl

/-- The tree has the decimal count `n` at the path, or nothing there and `n` is the default. -/
def CountD (t : Tree) (p : List (List Char)) (defaultValue n : Nat) : Prop :=
  Count t p n ∨ (hasChild t p = false ∧ n = defaultValue)

theorem getIntD_of_countD {t : Tree} {p : List (List Char)} {d n : Nat} (h : CountD t p d n)
    (hn : n < 2 ^ 31) : getIntD t p d = n := by
  rcases h with hcount | ⟨hnone, rfl⟩
  · rw [getIntD_of_count hcount, if_pos hn]
  · rw [hasChild, Option.isSome_eq_false_iff, Option.isNone_iff_eq_none] at hnone
    rw [getIntD, getInt, hnone]
    rfl

theorem linesAt_disable {now : Int} {s : GpioState} {v : Bool} (h : LinesAt s v) :
    LinesAt (disable now s).1 v := by
  have hparse : parseEnable "0\n".toList = some 0 := by decide
  rw [disable, opaleyeEnableAttrStore, hparse, LinesAt]
  dsimp only
  rw [switchEdge_csiGpio]
  exact h

theorem beat_enable {now : Int} {s : GpioState} (hoff : s.enabled = false)
    (hfits : IsKtime (kt0On now s + s.width)) :
    (enable now s).1.period = s.period ∧ (enable now s).1.width = s.width ∧
      (∀ v, LinesAt s v → LinesAt (enable now s).1 v) ∧ Beat (kt0On now s) 0 (enable now s).1 := by
  have hon : (enable now s).1 = _ :=
    enableAttrStore_off_on hoff (by decide : parseEnable "1\n".toList = some 1) (by decide)
  rw [hon]
  refine ⟨rfl, rfl, fun v h => h, ?_, ?_⟩
  · simp
  · rw [hrtimerStart_expires, ktimeAdd, ktimeWrap_of_isKtime hfits]
    simp

/-- The configuration has a trigger: counts of microseconds that fit an `int`, or the defaults, a
width inside the period, and an `enable` that reads true. -/
structure Triggers (env : HwEnv) (config : AppConfig) (t0 period width : Nat) : Prop where
  child : hasChild config.mTree (path "config.hw_trigger") = true
  t0Count : CountD config.mTree (path "config.hw_trigger.t0") 0 t0
  periodCount : CountD config.mTree (path "config.hw_trigger.period") 1000000 period
  widthCount : CountD config.mTree (path "config.hw_trigger.width") 50000 width
  ints : t0 < 2 ^ 31 ∧ period < 2 ^ 31
  pulse : 0 < width ∧ width < period
  enables : getBoolD env.toBool config.mTree (path "config.hw_trigger.enable") false = true

section OneTrigger

variable {env : HwEnv} {config : AppConfig} {s : GpioState} {t0 period width : Nat}

theorem Triggers.switchedOn (h : Triggers env config t0 period width)
    (hpast : (initHwTrigger env config s).2 = true) :
    (initHwTrigger env config s).1 = (enable env.later { (disable env.now s).1 with
      t0 := microseconds t0, period := microseconds period, width := microseconds width }).1 := by
  obtain ⟨ht0, hperiod⟩ := h.ints
  obtain ⟨hpos, hlt⟩ := h.pulse
  have ht0D := getIntD_of_countD h.t0Count ht0
  have hperiodD := getIntD_of_countD h.periodCount hperiod
  have hwidthD := getIntD_of_countD h.widthCount (by omega)
  push_cast at ht0D hperiodD hwidthD
  rw [initHwTrigger_eq h.child hpast, ht0D, hperiodD, hwidthD, h.enables,
    configure_settable (settable_microseconds (by omega) (by omega))
      (settable_microseconds (by omega) (by omega)) (settable_microseconds (by omega) (by omega))
      (disable_enabled env.now s)]
  rfl

/-- **Past the block the timers wait for the first beat**, the lines as they were. -/
theorem Triggers.beat (h : Triggers env config t0 period width)
    (hclock : 0 ≤ env.later ∧ env.later < 9000000000 * nsecPerSec) (hlow : LinesAt s false)
    (hpast : (initHwTrigger env config s).2 = true) :
    (initHwTrigger env config s).1.period = microseconds period ∧
      (initHwTrigger env config s).1.width = microseconds width ∧
      LinesAt (initHwTrigger env config s).1 false ∧
      ∃ start : Int, Beat start 0 (initHwTrigger env config s).1 ∧
        (t0 ≠ 0 → start = microseconds t0) ∧
        (t0 = 0 → start % nsecPerSec = 0 ∧ env.later + 250000000 ≤ start ∧
          start < env.later + 1250000000) := by
  rw [h.switchedOn hpast]
  obtain ⟨ht0, hperiod⟩ := h.ints
  obtain ⟨hpos, hlt⟩ := h.pulse
  have hdoff := disable_enabled env.now s
  have hdlow : LinesAt (disable env.now s).1 false := linesAt_disable hlow
  generalize (disable env.now s).1 = d at hdoff hdlow
  -- the state that is switched on
  obtain ⟨set, hset⟩ : ∃ set : GpioState, set = { d with
    t0 := microseconds t0, period := microseconds period, width := microseconds width } :=
    ⟨_, rfl⟩
  rw [← hset]
  have hoff : set.enabled = false := by rw [hset]; exact hdoff
  have hdark : LinesAt set false := by rw [hset]; exact hdlow
  have hst0 : set.t0 = microseconds t0 := by rw [hset]
  have hsp : set.period = microseconds period := by rw [hset]
  have hsw : set.width = microseconds width := by rw [hset]
  have hns : nsecPerSec = 1000000000 := rfl
  have hmax : ktimeSecMax = 9223372036 := rfl
  have hkmax : ktimeMax = 9223372036854775807 := rfl
  have hstart : (t0 ≠ 0 → kt0On env.later set = microseconds t0) ∧
      (t0 = 0 → kt0On env.later set % nsecPerSec = 0 ∧
        env.later + 250000000 ≤ kt0On env.later set ∧
        kt0On env.later set < env.later + 1250000000) := by
    refine ⟨fun hne => ?_, fun heq => ?_⟩
    · rw [kt0On_of_ne_zero, hst0]
      rw [hst0, microseconds]
      omega
    · refine kt0On_of_zero ?_ ⟨hclock.1, ?_⟩
      · rw [hst0, heq]
        rfl
      · rw [hmax, hns]
        rw [hns] at hclock
        omega
  have hfits : IsKtime (kt0On env.later set + set.width) := by
    rw [hsw, microseconds, IsKtime, hkmax]
    rw [hns] at hclock hstart
    rcases Nat.eq_zero_or_pos t0 with heq | hne
    · have hz := hstart.2 heq
      omega
    · have hz := hstart.1 (by omega)
      rw [hz, microseconds]
      omega
  obtain ⟨hper, hwid, hlines, hbeat⟩ := beat_enable hoff hfits
  exact ⟨hper.trans hsp, hwid.trans hsw, hlines false hdark, kt0On env.later set, hbeat, hstart⟩

end OneTrigger

/-- **From the configuration to the camera lines.**  Let the configuration have a trigger, the lines
be low, and `init` get past the block.

When `t0` is zero or not in the past, the first pulse starts at `t0`, or without one at a whole
second up to one and a quarter seconds away; and whenever the timers have been served in order, in
time and as far as they were due, both lines are high in a pulse and low outside.

When `t0` is in the past its expiry is served late.  Once the on timer and then the off timer have
been served, by however many periods late and before the next time in phase with `t0`, the same is
true with a first pulse then. -/
theorem trigger_lines (env : HwEnv) (config : AppConfig) (s : GpioState) (t0 period width : Nat)
    (hconfig : Triggers env config t0 period width)
    (hclock : 0 ≤ env.later ∧ env.later < 9000000000 * nsecPerSec)
    (hlow : LinesAt s false) (hpast : (initHwTrigger env config s).2 = true) :
    let s₁ := (initHwTrigger env config s).1
    (t0 = 0 ∨ env.later ≤ microseconds t0 → ∃ start : Int,
      (t0 ≠ 0 → start = microseconds t0) ∧
      (t0 = 0 → start % nsecPerSec = 0 ∧ env.later + 250000000 ≤ start ∧
        start < env.later + 1250000000) ∧
      ∀ (es : List Fire) (T : Int), Serviced env.later s₁ es → InOrder s₁ es → CaughtUp T s₁ es →
        (InPulse start (microseconds width) (microseconds period) T ∧
            LinesAt (serviceAll s₁ es) true) ∨
          (¬ InPulse start (microseconds width) (microseconds period) T ∧
            LinesAt (serviceAll s₁ es) false)) ∧
    (t0 ≠ 0 ∧ microseconds t0 < env.later → ∀ (n1 n2 : Int) (es : List Fire) (T : Int),
      let start := nextInPhase (microseconds t0) (microseconds period) n1
      let s₂ := serviceAll s₁ [.on n1, .off n2]
      Serviced env.later s₁ (.on n1 :: .off n2 :: es) → n2 < start → InOrder s₂ es →
        CaughtUp T s₂ es →
        (InPulse start (microseconds width) (microseconds period) T ∧
            LinesAt (serviceAll s₂ es) true) ∨
          (¬ InPulse start (microseconds width) (microseconds period) T ∧
            LinesAt (serviceAll s₂ es) false)) := by
  intro s₁
  obtain ⟨hper₁, hwid₁, hdark, start, hbeat, hstart⟩ := hconfig.beat hclock hlow hpast
  obtain ⟨hpos, hlt⟩ := hconfig.pulse
  have hw : 0 < s₁.width := by rw [hwid₁, microseconds]; omega
  have hp : s₁.width < s₁.period := by rw [hwid₁, hper₁, microseconds, microseconds]; omega
  refine ⟨fun _ => ⟨start, hstart.1, hstart.2, fun es T hser hord hT => ?_⟩, ?_⟩
  · have hlevels := levels_of_beats hw hp hbeat hdark hser hord hT
    rwa [hper₁, hwid₁] at hlevels
  · intro ht0 n1 n2 es T start' s₂ hser hnext hord hT
    obtain ⟨hon, hoff⟩ := hbeat
    rw [hstart.1 ht0.1] at hon hoff
    norm_num at hon hoff
    obtain ⟨-, -, h1, h12, -, h2, hser⟩ := hser
    have hcaught := beat_caughtUp hw hp (by rw [hoff, hon]) h1 h12 h2 (by rw [hon, hper₁]; exact hnext)
    obtain ⟨hper₂, hwid₂⟩ := serviceAll_period [.on n1, .off n2] s₁
    rw [hon, hper₁] at hcaught
    have hlevels := levels_of_caughtUp (s := s₂) (by rw [hwid₂]; exact hw)
      (by rw [hper₂, hwid₂]; exact hp) (by rw [hper₂, hper₁]; exact hcaught)
      (linesAt_service _ (.off n2)) hser hord hT
    rwa [hper₂, hwid₂, hper₁, hwid₁] at hlevels

/-- A pulse in every second from 1.5 s on, of 50 ms, which is the default. -/
def pulseConfig : AppConfig := { AppConfig.makeDefault with
  mTree := .node [] [("config".toList, .node [] [("hw_trigger".toList, .node []
    [leaf "t0" "1500000", leaf "period" "1000000", leaf "enable" "true"])])] }

/-- The trigger is switched on at `later`. -/
def pulseEnv (later : Int) : HwEnv := ⟨true, true, 0, later, fun d => some (d == "true".toList)⟩

/-- Switched on at 0 s, the lines are high at 1.52 s, and switched on at 10.3 s, at 10.52 s. -/
theorem trigger_lines_pulse :
    LinesAt (serviceAll (initHwTrigger (pulseEnv 0) pulseConfig opaleyeGpioInit).1
      [.on 1500000100]) true ∧
    LinesAt (serviceAll (serviceAll (initHwTrigger (pulseEnv 10300000000) pulseConfig
      opaleyeGpioInit).1 [.on 10300000100, .off 10300000200]) [.on 10500000100]) true := by
  have h0 : Count pulseConfig.mTree (path "config.hw_trigger.t0") 1500000 :=
    count_of_text "1500000" rfl (by decide) (by decide) (by decide)
  have hp : Count pulseConfig.mTree (path "config.hw_trigger.period") 1000000 :=
    count_of_text "1000000" rfl (by decide) (by decide) (by decide)
  have hconfig : ∀ later, Triggers (pulseEnv later) pulseConfig 1500000 1000000 50000 := fun _ =>
    ⟨by decide, .inl h0, .inl hp, .inr ⟨by decide, rfl⟩, by decide, by decide, rfl⟩
  constructor
  · obtain ⟨start, hstart, -, hall⟩ := (trigger_lines (pulseEnv 0) pulseConfig opaleyeGpioInit
      1500000 1000000 50000 (hconfig 0) (by decide) ⟨rfl, rfl⟩ (by decide)).1 (.inr (by decide))
    have hs : start = microseconds 1500000 := hstart (by decide)
    rcases hall [.on 1500000100] 1520000000 ⟨by decide, by decide, by decide, trivial⟩
      ⟨by decide, by decide, trivial⟩ ⟨by decide, by decide, by decide⟩ with h | h
    · exact h.2
    · refine absurd ?_ h.1
      rw [hs]
      exact ⟨by decide, by decide⟩
  · have hall := (trigger_lines (pulseEnv 10300000000) pulseConfig opaleyeGpioInit
      1500000 1000000 50000 (hconfig 10300000000) (by decide) ⟨rfl, rfl⟩ (by decide)).2
      ⟨by decide, by decide⟩ 10300000100 10300000200 [.on 10500000100] 10520000000
      ⟨by decide, by decide, by decide, by decide, by decide, by decide, by decide, by decide,
        by decide, trivial⟩
      (by decide) ⟨by decide, by decide, trivial⟩ ⟨by decide, by decide, by decide⟩
    rcases hall with h | h
    · exact h.2
    · exact absurd ⟨by decide, by decide⟩ h.1

end Opaleye.App
