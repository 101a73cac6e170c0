import Opaleye.Gpio.State
import Opaleye.Lib.LockedThreads

/-!
# The trigger interlock

`Gpio/State.lean` has the store handlers as functions.  Here they are taken
apart into the atomic steps of the code, so that any number of writers of
`enable` and `timer_settings` can be interleaved with each other and with the
timer callbacks (`trigger`).  `run_enableAttrStore` and
`run_timerSettingsAttrStore` say that a writer nobody disturbs does what the
function says.

The interlock is that the timers run exactly while `enabled` is set
(`Synced`), and that no setting changes while one of them runs.
`opaleye_enable_attr_store` reads `enabled` into `edge` before it takes the
mutex, so when it gets there the edge may be out of date.  `interlock` says
when that does no harm: a writer whose edge is 0 or 3, who therefore leaves
the timers alone, must find `enabled` at the value it is about to store
(`EdgeFresh`).  `interlock_race` is the run where it does not.
-/

namespace Opaleye.Gpio

open LockedThreads

/-! ### The atomic steps of the handlers -/

/-- Where a writer stands. -/
inductive Pc
  | idle
  -- `opaleye_enable_attr_store`
  | enParse (buf : List Char)
  | enEdge (val : Int)
  | enLock (val : Int) (edge : Nat)
  | enSwitch (val : Int) (edge : Nat)
  | enCancelOff (val : Int)
  | enStartOff (val : Int) (kt0On : Int)
  | enStore (val : Int)
  | enUnlock
  -- `opaleye_timer_settings_attr_store`
  | tsParse (buf : List Char)
  | tsLock (v : Int × Int × Int)
  | tsTest (v : Int × Int × Int)
  | tsStore (v : Int × Int × Int)
  | tsUnlock
  deriving DecidableEq, Repr

def Pc.owns : Pc → Bool
  | .enSwitch _ _ | .enCancelOff _ | .enStartOff _ _ | .enStore _ | .enUnlock => true
  | .tsTest _ | .tsStore _ | .tsUnlock => true
  | _ => false

/-- A write to one of the two files, or the next step of a handler, which may
read the clock. -/
inductive Input
  | writeEnable (buf : List Char)
  | writeTimerSettings (buf : List Char)
  | run (now : Int)

/-- An expired timer calls back. -/
inductive Fire
  | on (now : Int)
  | off (now : Int)

def Fire.now : Fire → Int
  | .on now => now
  | .off now => now

/-- The timer a callback is for. -/
def Fire.timer : Fire → GpioState → Hrtimer
  | .on _, s => s.gpioOnTimer
  | .off _, s => s.gpioOffTimer

/-- The callback itself. -/
def service (s : GpioState) : Fire → GpioState
  | .on now => opaleyeGpioOnTimerCb now s
  | .off now => opaleyeGpioOffTimerCb now s

def next : Input → Pc → GpioState → Move Pc GpioState
  | .writeEnable buf, .idle, _ => .goto (.enParse buf)
  | .writeTimerSettings buf, .idle, _ => .goto (.tsParse buf)
  | .run _, .enParse buf, _ =>
    match parseEnable buf with
    | none => .goto .idle
    | some val => .goto (.enEdge val)
  -- the unlocked read of `enabled`
  | .run _, .enEdge val, s => .goto (.enLock val (edgeOf s.enabled val))
  | .run _, .enLock val edge, _ => .lock (.enSwitch val edge)
  | .run now, .enSwitch val edge, s =>
    match edge with
    | 1 => .crit (.enCancelOff val) { s with gpioOnTimer := hrtimerCancel s.gpioOnTimer }
    | 2 => .crit (.enStartOff val (kt0On now s))
        { s with gpioOnTimer := hrtimerStart s.gpioOnTimer (kt0On now s) }
    | _ => .crit (.enStore val) s
  | .run _, .enCancelOff val, s =>
    .crit (.enStore val) { s with gpioOffTimer := hrtimerCancel s.gpioOffTimer }
  | .run _, .enStartOff val kt, s =>
    .crit (.enStore val) { s with gpioOffTimer := hrtimerStart s.gpioOffTimer (ktimeAdd kt s.width) }
  | .run _, .enStore val, s => .crit .enUnlock { s with enabled := decide (val ≠ 0) }
  | .run _, .enUnlock, _ => .unlock .idle
  | .run _, .tsParse buf, _ =>
    match parseTimerSettings buf with
    | none => .goto .idle
    | some v => .goto (.tsLock v)
  | .run _, .tsLock v, _ => .lock (.tsTest v)
  | .run _, .tsTest v, s => if s.enabled then .crit .tsUnlock s else .crit (.tsStore v) s
  | .run _, .tsStore v, s =>
    .crit .tsUnlock { s with t0 := v.1, period := v.2.1, width := v.2.2 }
  | .run _, .tsUnlock, _ => .unlock .idle
  | _, _, _ => .blocked

/-- A callback runs when its timer is armed and has expired. -/
def fire (e : Fire) (s : GpioState) : Option GpioState :=
  if (e.timer s).armed = true ∧ (e.timer s).expires ≤ e.now then some (service s e) else none

theorem fire_eq_some {e : Fire} {s s' : GpioState} :
    fire e s = some s' ↔
      (e.timer s).armed = true ∧ (e.timer s).expires ≤ e.now ∧ service s e = s' := by
  rw [fire]
  by_cases h : (e.timer s).armed = true ∧ (e.timer s).expires ≤ e.now
  · rw [if_pos h, Option.some.injEq]
    exact ⟨fun hs => ⟨h.1, h.2, hs⟩, fun hs => hs.2.2⟩
  · rw [if_neg h]
    exact ⟨fun hs => absurd hs (by simp), fun hs => absurd ⟨hs.1, hs.2.1⟩ h⟩

/-- The writers of the two files, with `g_gpio_state_mutex`. -/
def writers : LockedThreads Pc GpioState Input Fire where
  start := .idle
  owns := Pc.owns
  next := next
  interrupt := fire
  start_free := rfl
  next_owns := by
    intro l p st
    fun_cases next l p st
    all_goals first | exact ⟨rfl, rfl⟩ | exact trivial

/-- The module after loading, and its writers. -/
def trigger : TransSys (Config Pc GpioState) (Act Input Fire) := writers.sys opaleyeGpioInit

/-! ### What a step of a handler does -/

/-- The steps under the mutex. -/
inductive CritStep : Pc → GpioState → Pc → GpioState → Prop
  | cancelOn {val : Int} {s : GpioState} : CritStep (.enSwitch val 1) s (.enCancelOff val)
      { s with gpioOnTimer := hrtimerCancel s.gpioOnTimer }
  | startOn {val : Int} {s : GpioState} (now : Int) : CritStep (.enSwitch val 2) s
      (.enStartOff val (kt0On now s))
      { s with gpioOnTimer := hrtimerStart s.gpioOnTimer (kt0On now s) }
  | keep {val : Int} {edge : Nat} {s : GpioState} (h1 : edge ≠ 1) (h2 : edge ≠ 2) :
      CritStep (.enSwitch val edge) s (.enStore val) s
  | cancelOff {val : Int} {s : GpioState} : CritStep (.enCancelOff val) s (.enStore val)
      { s with gpioOffTimer := hrtimerCancel s.gpioOffTimer }
  | startOff {val kt : Int} {s : GpioState} : CritStep (.enStartOff val kt) s (.enStore val)
      { s with gpioOffTimer := hrtimerStart s.gpioOffTimer (ktimeAdd kt s.width) }
  | store {val : Int} {s : GpioState} : CritStep (.enStore val) s .enUnlock
      { s with enabled := decide (val ≠ 0) }
  | refuse {v : Int × Int × Int} {s : GpioState} (h : s.enabled = true) :
      CritStep (.tsTest v) s .tsUnlock s
  | accept {v : Int × Int × Int} {s : GpioState} (h : s.enabled = false) :
      CritStep (.tsTest v) s (.tsStore v) s
  | settings {v : Int × Int × Int} {s : GpioState} : CritStep (.tsStore v) s .tsUnlock
      { s with t0 := v.1, period := v.2.1, width := v.2.2 }

/-- The steps without the mutex.  Only `edge` reads the state block. -/
inductive GotoStep : Pc → GpioState → Pc → Prop
  | enterEnable {s : GpioState} (buf : List Char) : GotoStep .idle s (.enParse buf)
  | badEnable {s : GpioState} {buf : List Char} : GotoStep (.enParse buf) s .idle
  | parsedEnable {s : GpioState} {buf : List Char} (val : Int) :
      GotoStep (.enParse buf) s (.enEdge val)
  | edge {s : GpioState} (val : Int) :
      GotoStep (.enEdge val) s (.enLock val (edgeOf s.enabled val))
  | enterSettings {s : GpioState} (buf : List Char) : GotoStep .idle s (.tsParse buf)
  | badSettings {s : GpioState} {buf : List Char} : GotoStep (.tsParse buf) s .idle
  | parsedSettings {s : GpioState} {buf : List Char} (v : Int × Int × Int) :
      GotoStep (.tsParse buf) s (.tsLock v)

section next

variable {l : Input} {p q : Pc} {s s' : GpioState}

theorem next_crit (h : next l p s = .crit q s') : (∃ now, l = .run now) ∧ CritStep p s q s' := by
  revert h
  fun_cases next l p s
  all_goals
    intro h
    cases h
  all_goals
    refine ⟨⟨_, rfl⟩, ?_⟩
    first
    | exact .cancelOn | exact .startOn _ | exact .keep ‹_› ‹_› | exact .cancelOff
    | exact .startOff | exact .store | exact .refuse ‹_›
    | exact .accept (Bool.eq_false_iff.mpr ‹_›) | exact .settings

theorem next_goto (h : next l p s = .goto q) : GotoStep p s q := by
  revert h
  fun_cases next l p s
  all_goals
    intro h
    cases h
  all_goals constructor

theorem next_lock (h : next l p s = .lock q) :
    (∃ now val edge, l = .run now ∧ p = .enLock val edge ∧ q = .enSwitch val edge) ∨
      ∃ v, p = .tsLock v ∧ q = .tsTest v := by
  revert h
  fun_cases next l p s
  all_goals
    intro h
    cases h
  case case6 => exact Or.inl ⟨_, _, _, rfl, rfl, rfl⟩
  case case16 => exact Or.inr ⟨_, rfl, rfl⟩

theorem next_unlock (h : next l p s = .unlock q) :
    (p = .enUnlock ∨ p = .tsUnlock) ∧ q = .idle := by
  revert h
  fun_cases next l p s
  all_goals
    intro h
    cases h
  all_goals simp

end next

/-! ### The invariant -/

/-- The timers run exactly while the trigger is enabled. -/
def Synced (s : GpioState) : Prop :=
  s.gpioOnTimer.armed = s.enabled ∧ s.gpioOffTimer.armed = s.enabled

/-- What holds of the state block at each place that has the mutex. -/
def Locked : Pc → GpioState → Prop
  | .enSwitch val edge, s => Synced s ∧ (edge = 1 → val = 0) ∧ (edge = 2 → val ≠ 0) ∧
      (edge ≠ 1 → edge ≠ 2 → s.enabled = decide (val ≠ 0))
  | .enCancelOff val, s => val = 0 ∧ s.gpioOnTimer.armed = false
  | .enStartOff val _, s => val ≠ 0 ∧ s.gpioOnTimer.armed = true
  | .enStore val, s =>
    s.gpioOnTimer.armed = decide (val ≠ 0) ∧ s.gpioOffTimer.armed = decide (val ≠ 0)
  | .tsStore _, s => Synced s ∧ s.enabled = false
  | _, s => Synced s

/-- The edge a writer brings to the mutex is that of its value and some value
of `enabled`. -/
def EdgeOk : Pc → Prop
  | .enLock val edge => ∃ b, edge = edgeOf b val
  | _ => True

/-- **The condition under which the unlocked read does no harm**: a writer that
is going to leave the timers alone finds `enabled` at the value it stores. -/
def EdgeFresh : Input → Pc → GpioState → Prop
  | .run _, .enLock val edge, s => edge = 0 ∨ edge = 3 → s.enabled = decide (val ≠ 0)
  | _, _, _ => True

instance decidableEdgeFresh : ∀ l p s, Decidable (EdgeFresh l p s) := by
  intro l p s
  unfold EdgeFresh
  split <;> infer_instance

theorem edgeOf_eq_one {b : Bool} {val : Int} : edgeOf b val = 1 ↔ b = true ∧ val = 0 := by
  by_cases hv : val = 0 <;> cases b <;> simp [edgeOf, hv]

theorem edgeOf_eq_two {b : Bool} {val : Int} : edgeOf b val = 2 ↔ b = false ∧ val ≠ 0 := by
  by_cases hv : val = 0 <;> cases b <;> simp [edgeOf, hv]

theorem edgeOf_other {b : Bool} {val : Int} (h1 : edgeOf b val ≠ 1) (h2 : edgeOf b val ≠ 2) :
    (edgeOf b val = 0 ∨ edgeOf b val = 3) ∧ b = decide (val ≠ 0) := by
  by_cases hv : val = 0 <;> cases b <;> simp_all [edgeOf]

theorem fire_frame {e : Fire} {s s' : GpioState} (h : fire e s = some s') :
    s'.gpioOnTimer.armed = s.gpioOnTimer.armed ∧ s'.gpioOffTimer.armed = s.gpioOffTimer.armed ∧
      s'.enabled = s.enabled ∧ s'.t0 = s.t0 ∧ s'.period = s.period ∧ s'.width = s.width := by
  obtain ⟨-, -, rfl⟩ := fire_eq_some.mp h
  cases e with
  | on now => exact ⟨hrtimerForwardNow_armed _ _ _, rfl, rfl, rfl, rfl, rfl⟩
  | off now => exact ⟨rfl, hrtimerForwardNow_armed _ _ _, rfl, rfl, rfl, rfl⟩

theorem synced_fire {e : Fire} {s s' : GpioState} (hs : Synced s) (h : fire e s = some s') :
    Synced s' := by
  obtain ⟨hon, hoff, hen, -⟩ := fire_frame h
  rw [Synced, hon, hoff, hen]
  exact hs

theorem locked_fire {e : Fire} {p : Pc} {s s' : GpioState} (hl : Locked p s)
    (h : fire e s = some s') : Locked p s' := by
  obtain ⟨hon, hoff, hen, -⟩ := fire_frame h
  cases p <;> simp only [Locked, Synced, hon, hoff, hen] at hl ⊢ <;> exact hl

/-- **The handlers keep the interlock**, as long as the edges are fresh. -/
theorem lockInv : writers.LockInv EdgeFresh Synced Locked EdgeOk where
  start := trivial
  goto := by
    intro l p st q _ _ h
    cases next_goto h with
    | edge val => exact ⟨_, rfl⟩
    | _ => exact trivial
  lock := by
    intro l p st q hc hp hfree h
    rcases next_lock h with ⟨now, val, edge, rfl, rfl, rfl⟩ | ⟨v, rfl, rfl⟩
    · obtain ⟨b, rfl⟩ := hp
      exact ⟨hfree, fun h1 => (edgeOf_eq_one.mp h1).2, fun h2 => (edgeOf_eq_two.mp h2).2,
        fun h1 h2 => hc (edgeOf_other h1 h2).1⟩
    · exact hfree
  crit := by
    intro l p st q st' _ hl h
    cases (next_crit h).2 with
    | cancelOn => exact ⟨hl.2.1 rfl, rfl⟩
    | startOn now => exact ⟨hl.2.2.1 rfl, rfl⟩
    | keep h1 h2 =>
      have he := hl.2.2.2 h1 h2
      exact ⟨hl.1.1.trans he, hl.1.2.trans he⟩
    | cancelOff =>
      obtain ⟨rfl, hon⟩ := hl
      exact ⟨hon, rfl⟩
    | startOff =>
      obtain ⟨hv, hon⟩ := hl
      simp [Locked, hon, hv]
    | store => exact hl
    | refuse _ => exact hl
    | accept hen => exact ⟨hl, hen⟩
    | settings => exact hl.1
  unlock := by
    intro l p st q _ hl h
    obtain ⟨rfl | rfl, rfl⟩ := next_unlock h
    · exact ⟨hl, trivial⟩
    · exact ⟨hl, trivial⟩
  intr_free := synced_fire
  intr_locked := locked_fire

/-! ### The interlock -/

/-- With the mutex free, both timers are armed exactly when `enabled` is set. -/
def Interlocked (c : Config Pc GpioState) : Prop := c.mutex = none → Synced c.shared

/-- While a timer is armed the settings stay. -/
def SettingsKept (s s' : GpioState) : Prop :=
  s.gpioOnTimer.armed = true ∨ s.gpioOffTimer.armed = true →
    s'.t0 = s.t0 ∧ s'.period = s.period ∧ s'.width = s.width

/-- A step under the mutex changes the settings only when both timers are off. -/
theorem settingsKept_crit {p q : Pc} {s s' : GpioState} (hl : Locked p s)
    (h : CritStep p s q s') : SettingsKept s s' := by
  cases h with
  | settings =>
    obtain ⟨⟨hon, hoff⟩, hen⟩ := hl
    rintro (h | h)
    · rw [hon, hen] at h; simp at h
    · rw [hoff, hen] at h; simp at h
  | _ => exact fun _ => ⟨rfl, rfl, rfl⟩

/-- **The interlock holds in every run whose edges are fresh**: with any number
of writers, any values written and any interleaving. -/
theorem interlock {c : Config Pc GpioState} (h : trigger.Reach (Meeting EdgeFresh) c) :
    Interlocked c ∧ ∀ a c', Meeting EdgeFresh c a → trigger.step c a = some c' →
      SettingsKept c.shared c'.shared := by
  have hg := reach_locked lockInv (⟨rfl, rfl⟩ : Synced opaleyeGpioInit) h
  refine ⟨hg.free, fun a c' _ hs => ?_⟩
  rcases writers.step_cases hs with ⟨i, l, q, rfl, hn, rfl⟩ | ⟨i, l, q, rfl, hn, -, rfl⟩ |
    ⟨i, l, q, st, rfl, hn, rfl⟩ | ⟨i, l, q, rfl, hn, rfl⟩ | ⟨e, st, rfl, hi, rfl⟩
  · exact fun _ => ⟨rfl, rfl, rfl⟩
  · exact fun _ => ⟨rfl, rfl, rfl⟩
  · have hown := (owns_of_crit hn).1
    exact settingsKept_crit (hg.locked i ((hg.excl i).mp hown)) (next_crit hn).2
  · exact fun _ => ⟨rfl, rfl, rfl⟩
  · intro _
    obtain ⟨-, -, -, h0, hp, hw⟩ := fire_frame hi
    exact ⟨h0, hp, hw⟩

/-- What a trace leaves: the holder of the mutex, `enabled` and the timers. -/
def outcome (as : List (Act Input Fire)) : Option (Option Nat × Bool × Bool × Bool) :=
  (trigger.run (writers.boot opaleyeGpioInit) as).map fun c =>
    (c.mutex, c.shared.enabled, c.shared.gpioOnTimer.armed, c.shared.gpioOffTimer.armed)

theorem exists_of_outcome {as : List (Act Input Fire)} {m : Option Nat} {en on off : Bool}
    (h : outcome as = some (m, en, on, off)) :
    ∃ c, trigger.run (writers.boot opaleyeGpioInit) as = some c ∧ c.mutex = m ∧
      c.shared.enabled = en ∧ c.shared.gpioOnTimer.armed = on ∧
      c.shared.gpioOffTimer.armed = off := by
  obtain ⟨c, hc, ho⟩ := Option.map_eq_some_iff.mp h
  simp only [Prod.mk.injEq] at ho
  exact ⟨c, hc, ho⟩

/-- Two writers enable at once.  Both bring the edge 2 to the mutex, the second
one after the trigger is on. -/
def enableTwiceTrace : List (Act Input Fire) :=
  [.thread 0 (.writeEnable "1".toList), .thread 1 (.writeEnable "1".toList),
   .thread 1 (.run 0), .thread 1 (.run 0)] ++
  List.replicate 7 (.thread 0 (.run 0)) ++ List.replicate 5 (.thread 1 (.run 0))

theorem interlock_enableTwice : ∃ c, trigger.Reach (Meeting EdgeFresh) c ∧ c.mutex = none ∧
    c.shared.enabled = true ∧ Synced c.shared := by
  have hout : outcome enableTwiceTrace = some (none, true, true, true) := by decide
  obtain ⟨c, hrun, hm, hen, -⟩ := exists_of_outcome hout
  have hreach : trigger.Reach (Meeting EdgeFresh) c :=
    TransSys.Reach.run enableTwiceTrace (.init rfl) (by decide) hrun
  exact ⟨c, hreach, hm, hen, (interlock hreach).1 hm⟩

/-- Writer 0 enables while writer 1 disables.  Writer 1 forms its edge before
writer 0 has the mutex, finds nothing to do, and clears `enabled` under the
running timers. -/
def raceTrace : List (Act Input Fire) :=
  [.thread 0 (.writeEnable "1".toList), .thread 1 (.writeEnable "0".toList),
   .thread 1 (.run 0), .thread 1 (.run 0)] ++
  List.replicate 7 (.thread 0 (.run 0)) ++ List.replicate 4 (.thread 1 (.run 0))

/-- **A stale edge breaks the interlock**: the mutex is free, `enabled` is
false, and both timers run. -/
theorem interlock_race : ¬ ∀ c, trigger.Reach TransSys.Any c →
    Interlocked c ∧ ∀ a c', trigger.step c a = some c' → SettingsKept c.shared c'.shared := by
  intro h
  have hout : outcome raceTrace = some (none, false, true, true) := by decide
  obtain ⟨c, hrun, hm, hen, hon, -⟩ := exists_of_outcome hout
  have hreach : trigger.Reach TransSys.Any c :=
    TransSys.Reach.run raceTrace (.init rfl) (TransSys.meets_any _ _) hrun
  have hsync := ((h c hreach).1 hm).1
  rw [hon, hen] at hsync
  simp at hsync

/-! ### A writer that nobody disturbs -/

/-- The steps of one `enable` write. -/
def enableSteps (i : Nat) (now : Int) (buf : List Char) (s : GpioState) : List (Act Input Fire) :=
  .thread i (.writeEnable buf) :: List.replicate
    (match parseEnable buf with
      | none => 1
      | some val => if edgeOf s.enabled val = 1 ∨ edgeOf s.enabled val = 2 then 7 else 6)
    (.thread i (.run now))

/-- **Its steps amount to the handler as a function.** -/
theorem run_enableAttrStore (c : Config Pc GpioState) {i : Nat} (now : Int) (buf : List Char)
    (hi : c.pc i = .idle) (hm : c.mutex = none) :
    trigger.run c (enableSteps i now buf c.shared)
      = some { c with shared := (opaleyeEnableAttrStore now buf c.shared).1 } := by
  obtain ⟨s, m, pc⟩ := c
  simp only at hi hm
  subst hm
  have hback : pc = Function.update pc i Pc.idle := by rw [← hi, Function.update_eq_self]
  rw [hback, enableSteps, opaleyeEnableAttrStore, trigger, run_thread]
  simp only [writers, next]
  cases hp : parseEnable buf with
  | none => simp only [List.replicate, run_thread, next, hp, TransSys.run_nil]
  | some val =>
    by_cases hv : val = 0 <;> cases hen : s.enabled <;>
    simp [edgeOf, hv, hen, List.replicate, run_thread, next, hp, switchEdge]

/-- The steps of one `timer_settings` write. -/
def timerSettingsSteps (i : Nat) (buf : List Char) (s : GpioState) : List (Act Input Fire) :=
  .thread i (.writeTimerSettings buf) :: List.replicate
    (match parseTimerSettings buf with
      | none => 1
      | some _ => if s.enabled then 4 else 5)
    (.thread i (.run 0))

theorem run_timerSettingsAttrStore (c : Config Pc GpioState) {i : Nat} (buf : List Char)
    (hi : c.pc i = .idle) (hm : c.mutex = none) :
    trigger.run c (timerSettingsSteps i buf c.shared)
      = some { c with shared := (opaleyeTimerSettingsAttrStore buf c.shared).1 } := by
  obtain ⟨s, m, pc⟩ := c
  simp only at hi hm
  subst hm
  have hback : pc = Function.update pc i Pc.idle := by rw [← hi, Function.update_eq_self]
  rw [hback, timerSettingsSteps, opaleyeTimerSettingsAttrStore, trigger, run_thread]
  simp only [writers, next]
  cases hp : parseTimerSettings buf with
  | none => simp only [List.replicate, run_thread, next, hp, TransSys.run_nil]
  | some v =>
    cases hen : s.enabled <;>
    simp [hen, List.replicate, run_thread, next, hp, storeSettings]

end Opaleye.Gpio
