import Opaleye.Gpio.Interlock

/-!
# The trigger lines while the trigger is off

The two lines move only in the timer callbacks, and the handler that turns the
trigger off only cancels the timers.  So a line keeps the level it had when the
second timer, the one that would have ended the pulse, was cancelled.

The runs here are those of one writer, with timer callbacks at any time, also
in the middle of a handler.  `lines_idle` says that the lines are low whenever
the trigger is off and no handler runs, provided they are low each time the off
timer is cancelled (`LowAtCancel`).  `lines_stuck` is a run where they are not:
the disable write lands inside a pulse.

With one writer an edge is never stale, which is what `Alone₀` records at the
two places between the read of `enabled` and the switch.
-/

namespace Opaleye.Gpio

open LockedThreads

/-- Both trigger lines are low. -/
def LinesLow (s : GpioState) : Prop := s.csiGpio cam0Pwdn = false ∧ s.csiGpio cam1Pwdn = false

instance decidableLinesLow (s : GpioState) : Decidable (LinesLow s) :=
  inferInstanceAs (Decidable (_ ∧ _))

/-- The next step cancels the timer that ends the pulse. -/
def Pc.cancelsOff : Pc → Bool
  | .enCancelOff _ => true
  | _ => false

/-- The lines are low when that timer is cancelled. -/
def LowAtCancel (_ : Input) (p : Pc) (s : GpioState) : Prop := p.cancelsOff = true → LinesLow s

instance decidableLowAtCancel (l : Input) (p : Pc) (s : GpioState) :
    Decidable (LowAtCancel l p s) :=
  inferInstanceAs (Decidable (p.cancelsOff = true → LinesLow s))

/-- With both timers off the lines are low. -/
def Dark (s : GpioState) : Prop :=
  s.gpioOnTimer.armed = false → s.gpioOffTimer.armed = false → LinesLow s

/-- What holds of the state block at each place of a writer that runs alone. -/
def Alone₀ : Pc → GpioState → Prop
  | .enLock val edge, s | .enSwitch val edge, s =>
    Synced s ∧ Dark s ∧ edge = edgeOf s.enabled val
  | .enCancelOff val, s => val = 0 ∧ s.gpioOnTimer.armed = false ∧ s.gpioOffTimer.armed = true
  | .enStartOff val _, s => val ≠ 0 ∧ s.gpioOnTimer.armed = true
  | .enStore val, s => s.gpioOnTimer.armed = decide (val ≠ 0) ∧
      s.gpioOffTimer.armed = decide (val ≠ 0) ∧ Dark s
  | .tsStore _, s => Synced s ∧ Dark s ∧ s.enabled = false
  | _, s => Synced s ∧ Dark s

theorem armed_of_fire {e : Fire} {s s' : GpioState} (h : fire e s = some s') :
    s.gpioOnTimer.armed = true ∨ s.gpioOffTimer.armed = true := by
  obtain ⟨ha, -, -⟩ := fire_eq_some.mp h
  cases e with
  | on now => exact Or.inl ha
  | off now => exact Or.inr ha

theorem dark_fire {e : Fire} {s s' : GpioState} (h : fire e s = some s') : Dark s' := by
  obtain ⟨hon, hoff, -⟩ := fire_frame h
  intro h1 h2
  rw [hon] at h1
  rw [hoff] at h2
  rcases armed_of_fire h with ha | ha
  · rw [ha] at h1; simp at h1
  · rw [ha] at h2; simp at h2

theorem alone₀_fire {e : Fire} {p : Pc} {s s' : GpioState} (hp : Alone₀ p s)
    (h : fire e s = some s') : Alone₀ p s' := by
  have hd := dark_fire h
  obtain ⟨hon, hoff, hen, -⟩ := fire_frame h
  cases p <;> simp only [Alone₀, Synced, hon, hoff, hen] at hp ⊢ <;> tauto

/-- **One writer keeps `Alone₀`**, as long as the lines are low at each cancel. -/
theorem aloneInv : writers.AloneInv LowAtCancel Alone₀ where
  goto := by
    intro l p st q _ hp h
    cases next_goto h with
    | edge val => exact ⟨hp.1, hp.2, rfl⟩
    | _ => exact hp
  lock := by
    intro l p st q _ hp h
    rcases next_lock h with ⟨now, val, edge, rfl, rfl, rfl⟩ | ⟨v, rfl, rfl⟩
    · exact hp
    · exact hp
  crit := by
    intro l p st q st' hc hp h
    obtain ⟨⟨now, rfl⟩, hstep⟩ := next_crit h
    cases hstep with
    | cancelOn =>
      obtain ⟨⟨-, hoff⟩, -, hedge⟩ := hp
      obtain ⟨hen, hv⟩ := edgeOf_eq_one.mp hedge.symm
      exact ⟨hv, rfl, hoff.trans hen⟩
    | startOn =>
      obtain ⟨-, -, hedge⟩ := hp
      exact ⟨(edgeOf_eq_two.mp hedge.symm).2, rfl⟩
    | keep h1 h2 =>
      obtain ⟨⟨hon, hoff⟩, hd, rfl⟩ := hp
      have he := (edgeOf_other h1 h2).2
      exact ⟨hon.trans he, hoff.trans he, hd⟩
    | cancelOff =>
      obtain ⟨rfl, hon, -⟩ := hp
      exact ⟨hon, rfl, fun _ _ => hc rfl⟩
    | startOff =>
      obtain ⟨hv, hon⟩ := hp
      refine ⟨by simp [hon, hv], by simp [hv], fun h1 => ?_⟩
      simp [hon] at h1
    | store =>
      obtain ⟨hon, hoff, hd⟩ := hp
      exact ⟨⟨hon, hoff⟩, hd⟩
    | refuse _ => exact hp
    | accept hen => exact ⟨hp.1, hp.2, hen⟩
    | settings => exact ⟨hp.1, hp.2.1⟩
  unlock := by
    intro l p st q _ hp h
    obtain ⟨rfl | rfl, rfl⟩ := next_unlock h
    · exact hp
    · exact hp
  intr := alone₀_fire

/-- No store handler is running. -/
def NoHandler (c : Config Pc GpioState) : Prop := ∀ i, c.pc i = .idle

/-- **The lines are low while the trigger is off**, in every run of one writer
in which they are low whenever the off timer is cancelled. -/
theorem lines_idle {c : Config Pc GpioState} (h : trigger.Reach (Alone 0 LowAtCancel) c)
    (hoff : c.shared.enabled = false) (hidle : NoHandler c) : LinesLow c.shared := by
  have hinv := reach_alone aloneInv (⟨⟨rfl, rfl⟩, fun _ _ => ⟨rfl, rfl⟩⟩ :
    Alone₀ .idle opaleyeGpioInit) h
  rw [hidle 0] at hinv
  obtain ⟨⟨hon, hoff'⟩, hd⟩ := hinv
  exact hd (hon.trans hoff) (hoff'.trans hoff)

/-! ### A pulse that ends, and one that does not -/

/-- The trigger is enabled at second 0, so the first pulse starts at second 1;
the given callbacks run, and the trigger is disabled at time `stop`. -/
def pulseTrace (fires : List Fire) (stop : Int) : List (Act Input Fire) :=
  .thread 0 (.writeEnable "1".toList) :: List.replicate 7 (.thread 0 (.run 0)) ++
  fires.map .interrupt ++
  .thread 0 (.writeEnable "0".toList) :: List.replicate 7 (.thread 0 (.run stop))

/-- What a trace leaves: the place of writer 0, `enabled` and the lines. -/
def lineOutcome (as : List (Act Input Fire)) : Option (Pc × Bool × Bool × Bool) :=
  (trigger.run (writers.boot opaleyeGpioInit) as).map fun c =>
    (c.pc 0, c.shared.enabled, c.shared.csiGpio cam0Pwdn, c.shared.csiGpio cam1Pwdn)

theorem exists_of_lineOutcome {C : Input → Pc → GpioState → Prop}
    {as : List (Act Input Fire)} {en l₀ l₁ : Bool}
    (hm : trigger.Meets (Alone 0 C) (writers.boot opaleyeGpioInit) as)
    (h : lineOutcome as = some (.idle, en, l₀, l₁)) :
    ∃ c, trigger.Reach (Alone 0 C) c ∧ NoHandler c ∧ c.shared.enabled = en ∧
      c.shared.csiGpio cam0Pwdn = l₀ ∧ c.shared.csiGpio cam1Pwdn = l₁ := by
  obtain ⟨c, hc, ho⟩ := Option.map_eq_some_iff.mp h
  simp only [Prod.mk.injEq] at ho
  have hreach : trigger.Reach (Alone 0 C) c := TransSys.Reach.run as (.init rfl) hm hc
  refine ⟨c, hreach, fun i => ?_, ho.2⟩
  by_cases hi : i = 0
  · rw [hi]; exact ho.1
  · exact pc_of_alone hi hreach

theorem lines_idle_after_pulse : ∃ c, trigger.Reach (Alone 0 LowAtCancel) c ∧
    c.shared.enabled = false ∧ NoHandler c ∧ LinesLow c.shared := by
  have hmeets : trigger.Meets (Alone 0 LowAtCancel) (writers.boot opaleyeGpioInit)
      (pulseTrace [.on 1000000000, .off 1100000000] 1200000000) := by decide
  have hout : lineOutcome (pulseTrace [.on 1000000000, .off 1100000000] 1200000000)
      = some (.idle, false, false, false) := by decide
  obtain ⟨c, hreach, hidle, hoff, -⟩ := exists_of_lineOutcome hmeets hout
  exact ⟨c, hreach, hoff, hidle, lines_idle hreach hoff hidle⟩

/-- **A disable write inside a pulse leaves the lines high.** -/
theorem lines_stuck : ¬ ∀ c, trigger.Reach (Alone 0 fun _ _ _ => True) c →
    c.shared.enabled = false → NoHandler c → LinesLow c.shared := by
  intro h
  have hmeets : trigger.Meets (Alone 0 fun _ _ _ => True) (writers.boot opaleyeGpioInit)
      (pulseTrace [.on 1000000000] 1050000000) := by decide
  have hout : lineOutcome (pulseTrace [.on 1000000000] 1050000000) = some (.idle, false, true, true) := by
    decide
  obtain ⟨c, hreach, hidle, hoff, hhigh, -⟩ := exists_of_lineOutcome hmeets hout
  have hlow := (h c hreach hoff hidle).1
  rw [hhigh] at hlow
  simp at hlow

end Opaleye.Gpio
