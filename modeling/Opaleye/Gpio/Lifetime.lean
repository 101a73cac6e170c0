import Opaleye.Gpio.Module

/-!
# Loading and unloading the trigger module

`lifetime` says what keeps the handlers on a live, initialised block and the
timers off a freed one: nobody opens a file before `g_gpio_state` is set, no
write starts a timer that the thread has cancelled, and the thread is entered
before it is asked to stop.  The code ensures none of the three, and
`lifetime_broken` has a run against each of the first two.

The invariant is in two halves, `Loading` for as long as `opaleye_gpio_init` runs
and `Loaded` from then on.
-/

namespace Opaleye.Gpio

open LockedThreads

namespace Module

/-! ### What holds along a life -/

/-- No handler runs on a block that is null, freed or half initialised. -/
def HandlersSafe (w : Module) : Prop :=
  ∀ i, w.sysfs.pc i ≠ .idle → w.gGpioState = true ∧ w.mem = .live ∧
    w.onTimerReady = true ∧ w.offTimerReady = true

/-- No timer is armed on a freed block. -/
def TimersDead (w : Module) : Prop :=
  w.mem = .freed →
    w.sysfs.shared.gpioOnTimer.armed = false ∧ w.sysfs.shared.gpioOffTimer.armed = false

end Module

/-- The next step is `hrtimer_start` on the on timer. -/
def HandlerPc.armsOn : HandlerPc → Bool
  | .store (.enSwitch _ edge) => edge = 2
  | _ => false

/-- The next step is `hrtimer_start` on the off timer. -/
def HandlerPc.armsOff : HandlerPc → Bool
  | .store (.enStartOff _ _) => true
  | _ => false

def MainPc.cancelledOn : MainPc → Bool
  | .cancelOff | .put | .drain | .exited => true
  | _ => false

def MainPc.cancelledOff : MainPc → Bool
  | .put | .drain | .exited => true
  | _ => false

/-- `opaleye_gpio_init` has the block. -/
def InitPc.holds : InitPc → Bool
  | .kzalloc | .failed => false
  | _ => true

/-- `opaleye_gpio_init` has initialised both timers. -/
def InitPc.ready : InitPc → Bool
  | .runMain | .publish | .done => true
  | _ => false

/-- `opaleye_gpio_exit` has not freed the block. -/
def ExitPc.holds : ExitPc → Bool
  | .idle | .stop | .wait | .free => true
  | _ => false

/-- `opaleye_gpio_exit` has waited for the thread. -/
def ExitPc.joined : ExitPc → Bool
  | .free | .clear | .done => true
  | _ => false

namespace Module

/-- **The order the code relies on**: no file is opened before `g_gpio_state`
is set, no write arms a timer that the thread has cancelled, and the thread is
entered before it is asked to stop. -/
def InOrder (w : Module) : Act → Prop
  | .handler i l => (l.opens.isSome = true → w.gGpioState = true) ∧
      ((w.sysfs.pc i).armsOn = true → w.main.cancelledOn = false) ∧
      ((w.sysfs.pc i).armsOff = true → w.main.cancelledOff = false)
  | .main => w.main = .created → w.shouldStop = false
  | _ => True

instance (w : Module) : ∀ a, Decidable (InOrder w a)
  | .handler i l => inferInstanceAs (Decidable ((l.opens.isSome = true → w.gGpioState = true) ∧
      ((w.sysfs.pc i).armsOn = true → w.main.cancelledOn = false) ∧
      ((w.sysfs.pc i).armsOff = true → w.main.cancelledOff = false)))
  | .main => inferInstanceAs (Decidable (w.main = .created → w.shouldStop = false))
  | .init _ => isTrue trivial
  | .kthreadErr => isTrue trivial
  | .exit => isTrue trivial
  | .fire _ => isTrue trivial

/-- While `opaleye_gpio_init` runs, nobody else does, but for the thread at
the very end. -/
structure Loading (w : Module) : Prop where
  init : w.init ≠ .done
  pointer : w.gGpioState = false
  shouldStop : w.shouldStop = false
  exit : w.exit = .idle
  main : w.main = .none ∨ w.init = .publish ∧ (w.main = .created ∨ w.main = .loop)
  memory : w.init.holds = true → w.mem = .live
  onReady : w.init = .initOffTimer ∨ w.init.ready = true → w.onTimerReady = true
  offReady : w.init.ready = true → w.offTimerReady = true
  active : w.active = []
  timers : w.sysfs.shared.gpioOnTimer.armed = false ∧ w.sysfs.shared.gpioOffTimer.armed = false

/-- Afterwards the thread removes the files, then waits for the handlers, then
lets `opaleye_gpio_exit` free the block. -/
structure Loaded (w : Module) : Prop where
  init : w.init = .done
  ready : w.onTimerReady = true ∧ w.offTimerReady = true
  block : w.exit.holds = true → w.gGpioState = true ∧ w.mem = .live
  joined : w.exit.joined = true → w.main = .exited
  removed : w.main = .drain ∨ w.main = .exited →
    w.enableFile = false ∧ w.timerSettingsFile = false
  active : w.active ≠ [] → w.main ≠ .exited
  armedOn : w.sysfs.shared.gpioOnTimer.armed = true → w.main.cancelledOn = false
  armedOff : w.sysfs.shared.gpioOffTimer.armed = true → w.main.cancelledOff = false

/-- `active` has the handlers that run, and the module is loading or loaded. -/
structure Inv (w : Module) : Prop where
  running : ∀ i, i ∈ w.active ↔ w.sysfs.pc i ≠ .idle
  phase : Loading w ∨ Loaded w

variable {w w' : Module}

theorem Loading.main_none (hL : Loading w) (h : w.init ≠ .publish) : w.main = .none :=
  hL.main.resolve_right (fun hm => h hm.1)

theorem Loading.goto (hL : Loading w) (hw : w.main = .none) {q : InitPc} (hq : q ≠ .done)
    (hmem : q.holds = true → w.mem = .live)
    (hon : q = .initOffTimer ∨ q.ready = true → w.onTimerReady = true)
    (hoff : q.ready = true → w.offTimerReady = true) : Loading { w with init := q } :=
  ⟨hq, hL.pointer, hL.shouldStop, hL.exit, Or.inl hw, hmem, hon, hoff, hL.active, hL.timers⟩

theorem Loading.goto_unready (hL : Loading w) (hw : w.main = .none) (hmem : w.mem = .live)
    {q : InitPc} (hq : q ≠ .done) (hoff : q ≠ .initOffTimer) (hr : q.ready = false) :
    Loading { w with init := q } :=
  hL.goto hw hq (fun _ => hmem) (fun h => h.elim (fun he => absurd he hoff) (fun he => by simp [hr] at he))
    (fun h => by simp [hr] at h)

theorem Loading.goto_put (hL : Loading w) (hw : w.main = .none) (hmem : w.mem = .live) :
    Loading { w with init := .put } :=
  hL.goto_unready hw hmem (by decide) (by decide) rfl

theorem Loading.write (hL : Loading w) {f : GpioState → GpioState}
    (hf : (f w.sysfs.shared).gpioOnTimer.armed = false ∧
      (f w.sysfs.shared).gpioOffTimer.armed = false) : Loading (w.write f) :=
  ⟨hL.init, hL.pointer, hL.shouldStop, hL.exit, hL.main, hL.memory, hL.onReady, hL.offReady,
    hL.active, hf⟩

theorem Loading.files (hL : Loading w) (a b : Bool) :
    Loading { w with enableFile := a, timerSettingsFile := b } :=
  ⟨hL.init, hL.pointer, hL.shouldStop, hL.exit, hL.main, hL.memory, hL.onReady, hL.offReady,
    hL.active, hL.timers⟩

theorem Loading.published (hL : Loading w) (hmem : w.mem = .live) (hon : w.onTimerReady = true)
    (hoff : w.offTimerReady = true) : Loaded { w with init := .done, gGpioState := true } := by
  have hmain : w.main ≠ .drain ∧ w.main ≠ .exited := by
    rcases hL.main with hm | ⟨-, hm | hm⟩
    · rw [hm]; decide
    · rw [hm]; decide
    · rw [hm]; decide
  refine ⟨rfl, ⟨hon, hoff⟩, fun _ => ⟨rfl, hmem⟩, fun hj => ?_, fun hr => ?_, fun ha => ?_,
    fun ha => ?_, fun ha => ?_⟩
  · have hexit : w.exit.joined = true := hj
    rw [hL.exit] at hexit
    cases hexit
  · exact absurd hr (not_or.mpr hmain)
  · exact absurd hL.active ha
  · exact absurd (hL.timers.1.symm.trans ha) (by decide)
  · exact absurd (hL.timers.2.symm.trans ha) (by decide)

theorem Loading.initStep {ok : Bool} (hL : Loading w) (h : w.initStep ok = some w') :
    Loading w' ∨ Loaded w' := by
  have hmain : w.init ≠ .publish → w.main = .none := hL.main_none
  have hmem := hL.memory
  have hon := hL.onReady
  have hoff := hL.offReady
  rw [Module.initStep] at h
  cases hpc : w.init with
  | kzalloc =>
    rw [hpc] at h hmain
    have hlive : Loading { w with mem := .live } :=
      ⟨hL.init, hL.pointer, hL.shouldStop, hL.exit, hL.main, fun _ => rfl, hL.onReady,
        hL.offReady, hL.active, hL.timers⟩
    cases ok with
    | false =>
      obtain rfl := Option.some.inj h
      exact Or.inl (hL.goto (hmain (by decide)) (by decide) (fun hh => by simp [InitPc.holds] at hh)
        (fun hh => by simp [InitPc.ready] at hh) (fun hh => by simp [InitPc.ready] at hh))
    | true =>
      obtain rfl := Option.some.inj h
      exact Or.inl (hlive.goto_unready (q := .requestCsi) (hmain (by decide)) rfl (by decide) (by decide) rfl)
  | requestCsi | requestHdr | createKobj =>
    rw [hpc] at h hmain hmem
    obtain rfl := Option.some.inj h
    exact Or.inl (hL.goto_unready (hmain (by decide)) (hmem rfl) (by cases ok <;> decide)
      (by cases ok <;> decide) (by cases ok <;> rfl))
  | createEnable =>
    rw [hpc] at h hmain hmem
    cases ok with
    | false =>
      obtain rfl := Option.some.inj h
      exact Or.inl (hL.goto_put (hmain (by decide)) (hmem rfl))
    | true =>
      obtain rfl := Option.some.inj h
      exact Or.inl ((hL.files true w.timerSettingsFile).goto_unready (q := .createTimerSettings)
        (hmain (by decide)) (hmem rfl) (by decide) (by decide) rfl)
  | createTimerSettings =>
    rw [hpc] at h hmain hmem
    cases ok with
    | false =>
      obtain rfl := Option.some.inj h
      exact Or.inl (hL.goto_put (hmain (by decide)) (hmem rfl))
    | true =>
      obtain rfl := Option.some.inj h
      exact Or.inl ((hL.files w.enableFile true).goto_unready (q := .setT0)
        (hmain (by decide)) (hmem rfl) (by decide) (by decide) rfl)
  | setT0 | setWidth | setPeriod =>
    rw [hpc] at h hmain hmem
    obtain rfl := Option.some.inj h
    exact Or.inl ((hL.write hL.timers).goto_unready (hmain (by decide)) (hmem rfl)
      (by simp) (by simp) rfl)
  | initOnTimer =>
    rw [hpc] at h hmain hmem
    obtain rfl := Option.some.inj h
    exact Or.inl ⟨by simp, hL.pointer, hL.shouldStop, hL.exit, Or.inl (hmain (by decide)),
      fun _ => hmem rfl, fun _ => rfl, fun hh => by simp [InitPc.ready] at hh, hL.active,
      rfl, hL.timers.2⟩
  | initOffTimer =>
    rw [hpc] at h hmain hmem hon
    obtain rfl := Option.some.inj h
    exact Or.inl ⟨by simp, hL.pointer, hL.shouldStop, hL.exit, Or.inl (hmain (by decide)),
      fun _ => hmem rfl, fun _ => hon (Or.inl rfl), fun _ => rfl, hL.active, hL.timers.1, rfl⟩
  | runMain =>
    rw [hpc] at h hmain hmem hon hoff
    cases ok with
    | false =>
      obtain rfl := Option.some.inj h
      exact Or.inl (hL.goto_put (hmain (by decide)) (hmem rfl))
    | true =>
      obtain rfl := Option.some.inj h
      exact Or.inl ⟨by simp, hL.pointer, hL.shouldStop, hL.exit, Or.inr ⟨rfl, Or.inl rfl⟩,
        fun _ => hmem rfl, fun _ => hon (Or.inr rfl), fun _ => hoff rfl, hL.active, hL.timers⟩
  | publish =>
    rw [hpc] at h hmem hon hoff
    obtain rfl := Option.some.inj h
    exact Or.inr (hL.published (hmem rfl) (hon (Or.inr rfl)) (hoff rfl))
  | put =>
    rw [hpc] at h hmain hmem
    obtain rfl := Option.some.inj h
    exact Or.inl ((hL.files false false).goto_unready (q := .drain) (hmain (by decide)) (hmem rfl)
      (by decide) (by decide) rfl)
  | drain =>
    rw [hpc] at h hmain hmem
    simp only [if_pos hL.active] at h
    obtain rfl := Option.some.inj h
    exact Or.inl (hL.goto_unready (q := .free) (hmain (by decide)) (hmem rfl) (by decide)
      (by decide) rfl)
  | free =>
    rw [hpc] at h hmain
    obtain rfl := Option.some.inj h
    exact Or.inl ⟨by simp, hL.pointer, hL.shouldStop, hL.exit, Or.inl (hmain (by decide)),
      fun hh => by simp [InitPc.holds] at hh, fun hh => by simp [InitPc.ready] at hh,
      fun hh => by simp [InitPc.ready] at hh, hL.active, hL.timers⟩
  | done => exact absurd hpc hL.init
  | failed => rw [hpc] at h; cases h

theorem Loading.kthreadErr (hL : Loading w) (h : w.kthreadErr = some w') : Loading w' := by
  rw [Module.kthreadErr] at h
  by_cases hpc : w.init = .runMain
  · rw [if_pos hpc] at h
    obtain rfl := Option.some.inj h
    have hm := hL.main_none (by rw [hpc]; decide)
    have hr : w.init.ready = true := by rw [hpc]; rfl
    exact hL.goto hm (by decide) (fun _ => hL.memory (by rw [hpc]; rfl))
      (fun _ => hL.onReady (Or.inr hr)) (fun _ => hL.offReady hr)
  · rw [if_neg hpc] at h
    cases h

theorem Loading.mainStep (hL : Loading w) (h : w.mainStep = some w') : Loading w' := by
  rw [Module.mainStep] at h
  rcases hL.main with hm | ⟨hpub, hm | hm⟩
  · rw [hm] at h
    cases h
  all_goals
    simp only [hm, hL.shouldStop, Bool.false_eq_true, if_false] at h
    obtain rfl := Option.some.inj h
    exact ⟨hL.init, hL.pointer, rfl, hL.exit, Or.inr ⟨hpub, Or.inr rfl⟩, hL.memory,
      hL.onReady, hL.offReady, hL.active, hL.timers⟩

theorem Loaded.write (hL : Loaded w) {f : GpioState → GpioState}
    (hon : (f w.sysfs.shared).gpioOnTimer.armed = true → w.sysfs.shared.gpioOnTimer.armed = true)
    (hoff : (f w.sysfs.shared).gpioOffTimer.armed = true →
      w.sysfs.shared.gpioOffTimer.armed = true) : Loaded (w.write f) :=
  ⟨hL.init, hL.ready, hL.block, hL.joined, hL.removed, hL.active, fun h => hL.armedOn (hon h),
    fun h => hL.armedOff (hoff h)⟩

theorem Loaded.goto (hL : Loaded w) (hm : w.main ≠ .exited) {q : MainPc}
    (hfiles : q = .drain ∨ q = .exited → w.enableFile = false ∧ w.timerSettingsFile = false)
    (hactive : w.active ≠ [] → q ≠ .exited)
    (hon : w.sysfs.shared.gpioOnTimer.armed = true → q.cancelledOn = false)
    (hoff : w.sysfs.shared.gpioOffTimer.armed = true → q.cancelledOff = false) :
    Loaded { w with main := q } :=
  ⟨hL.init, hL.ready, hL.block, fun hj => absurd (hL.joined hj) hm, hfiles, hactive, hon, hoff⟩

theorem Loaded.goto_busy (hL : Loaded w) (hm : w.main ≠ .exited) {q : MainPc}
    (hq : q ≠ .drain ∧ q ≠ .exited)
    (hon : w.sysfs.shared.gpioOnTimer.armed = true → q.cancelledOn = false)
    (hoff : w.sysfs.shared.gpioOffTimer.armed = true → q.cancelledOff = false) :
    Loaded { w with main := q } :=
  hL.goto hm (fun h => absurd h (not_or.mpr hq)) (fun _ => hq.2) hon hoff

theorem Loaded.mainStep (hL : Loaded w) (hc : InOrder w .main) (h : w.mainStep = some w') :
    Loaded w' := by
  have hon := hL.armedOn
  have hoff := hL.armedOff
  rw [Module.mainStep] at h
  cases hm : w.main with
  | none => rw [hm] at h; cases h
  | created =>
    simp only [hm, if_neg (by rw [hc hm]; decide : ¬ w.shouldStop = true)] at h
    obtain rfl := Option.some.inj h
    exact hL.goto_busy (q := .loop) (by rw [hm]; decide) (by decide) (fun _ => rfl) (fun _ => rfl)
  | loop =>
    rw [hm] at h
    obtain rfl := Option.some.inj h
    exact hL.goto_busy (by rw [hm]; decide) (by cases w.shouldStop <;> decide)
      (fun _ => by cases w.shouldStop <;> rfl) (fun _ => by cases w.shouldStop <;> rfl)
  | cancelOn =>
    rw [hm] at h
    obtain rfl := Option.some.inj h
    have hw : Loaded (w.write (fun s => { s with gpioOnTimer := hrtimerCancel s.gpioOnTimer })) :=
      hL.write (fun ha => by simp [hrtimerCancel] at ha) id
    exact hw.goto_busy (q := .cancelOff) (by show w.main ≠ _; rw [hm]; decide) (by decide)
      (fun ha => by simp [Module.write, hrtimerCancel] at ha) (fun _ => rfl)
  | cancelOff =>
    rw [hm] at h
    obtain rfl := Option.some.inj h
    have hw : Loaded (w.write (fun s => { s with gpioOffTimer := hrtimerCancel s.gpioOffTimer })) :=
      hL.write id (fun ha => by simp [hrtimerCancel] at ha)
    exact hw.goto_busy (q := .put) (by show w.main ≠ _; rw [hm]; decide) (by decide)
      (fun ha => absurd (hon ha) (by rw [hm]; decide))
      (fun ha => by simp [Module.write, hrtimerCancel] at ha)
  | put =>
    rw [hm] at h
    obtain rfl := Option.some.inj h
    have hw : Loaded w.removeFiles := ⟨hL.init, hL.ready, hL.block, hL.joined,
      fun _ => ⟨rfl, rfl⟩, hL.active, hL.armedOn, hL.armedOff⟩
    exact hw.goto (by show w.main ≠ _; rw [hm]; decide) (fun _ => ⟨rfl, rfl⟩)
      (fun _ => by decide) (fun ha => absurd (hon ha) (by rw [hm]; decide))
      (fun ha => absurd (hoff ha) (by rw [hm]; decide))
  | drain =>
    rw [hm] at h
    by_cases ha : w.active = []
    · simp only [if_pos ha] at h
      obtain rfl := Option.some.inj h
      exact hL.goto (by rw [hm]; decide) (fun _ => hL.removed (Or.inl hm)) (fun hne => absurd ha hne)
        (fun ha => absurd (hon ha) (by rw [hm]; decide))
        (fun ha => absurd (hoff ha) (by rw [hm]; decide))
    · simp only [if_neg ha] at h
      cases h
  | exited => rw [hm] at h; cases h

/-- The block is freed behind the thread, and the pointer cleared behind the
block. -/
theorem Loaded.exitStep (hL : Loaded w) (h : w.exitStep = some w') : Loaded w' := by
  have hblock := hL.block
  have hjoined := hL.joined
  rw [Module.exitStep] at h
  cases hx : w.exit with
  | idle =>
    rw [hx] at hblock
    simp only [hx, if_pos hL.init, (hblock rfl).1, if_true] at h
    obtain rfl := Option.some.inj h
    exact ⟨hL.init, hL.ready, fun _ => ⟨rfl, (hblock rfl).2⟩, fun hj => (by cases hj), hL.removed,
      hL.active, hL.armedOn, hL.armedOff⟩
  | stop =>
    rw [hx] at h hblock
    by_cases hm : w.main = .none
    · simp only [if_pos hm] at h
      cases h
    · simp only [if_neg hm] at h
      obtain rfl := Option.some.inj h
      exact ⟨hL.init, hL.ready, fun _ => hblock rfl, fun hj => (by cases hj), hL.removed,
        hL.active, hL.armedOn, hL.armedOff⟩
  | wait =>
    rw [hx] at h hblock
    by_cases hm : w.main = .exited
    · simp only [if_pos hm] at h
      obtain rfl := Option.some.inj h
      exact ⟨hL.init, hL.ready, fun _ => hblock rfl, fun _ => hm, hL.removed,
        hL.active, hL.armedOn, hL.armedOff⟩
    · simp only [if_neg hm] at h
      cases h
  | free =>
    rw [hx] at hblock hjoined
    simp only [hx, (hblock rfl).1, if_true] at h
    obtain rfl := Option.some.inj h
    exact ⟨hL.init, hL.ready, fun hh => (by cases hh), fun _ => hjoined rfl, hL.removed,
      hL.active, hL.armedOn, hL.armedOff⟩
  | clear =>
    rw [hx] at h hjoined
    obtain rfl := Option.some.inj h
    exact ⟨hL.init, hL.ready, fun hh => (by cases hh), fun _ => hjoined rfl, hL.removed,
      hL.active, hL.armedOn, hL.armedOff⟩
  | done => rw [hx] at h; cases h

/-! ### The handlers -/

theorem opens_run (l : Access) (h : l.opens = none) : ∃ now, l = .run now := by
  cases l with
  | run now => exact ⟨now, rfl⟩
  | _ => cases h

theorem step_idle {c c' : Config HandlerPc GpioState} {i : Nat} {l : Access} (hl : l.opens = none)
    (h : handlers.step c (.thread i l) = some c') : c.pc i ≠ .idle := by
  intro hidle
  obtain ⟨now, rfl⟩ := opens_run l hl
  have hb : handlers.next (.run now) (c.pc i) c.shared = .blocked := by
    rw [hidle]
    rfl
  simp [LockedThreads.step, hb] at h

theorem Inv.openFile {i : Nat} {l : Access} {f : File} {c : Config HandlerPc GpioState}
    (hI : Inv w) (hg : w.gGpioState = true) (hl : l.opens = some f) (hf : w.has f = true)
    (hs : handlers.step w.sysfs (.thread i l) = some c) :
    Inv { w with sysfs := c, active := i :: w.active } := by
  obtain ⟨hidle, hbusy⟩ := pc_of_open hl hs
  have hL : Loaded w := hI.phase.resolve_left (fun hL => by simp [hL.pointer] at hg)
  have harmed := armed_of_step hs
  have hmain : w.main ≠ .drain ∧ w.main ≠ .exited := by
    refine not_or.mp (fun hm => ?_)
    obtain ⟨he, ht⟩ := hL.removed hm
    cases f with
    | enable => exact absurd (he.symm.trans hf) (by decide)
    | timerSettings => exact absurd (ht.symm.trans hf) (by decide)
  constructor
  · intro j
    by_cases hj : j = i
    · rw [hj]
      simp [hbusy]
    · show j ∈ i :: w.active ↔ c.pc j ≠ .idle
      rw [handlers.pc_of_step_ne hs hj, ← hI.running j]
      simp [hj]
  · refine Or.inr ⟨hL.init, hL.ready, hL.block, hL.joined, hL.removed, fun _ => hmain.2,
      fun ha => ?_, fun ha => ?_⟩
    · rcases harmed.1 ha with ha | ⟨val, hpc⟩
      · exact hL.armedOn ha
      · exact absurd (hidle.symm.trans hpc) (by simp [HandlerPc.idle])
    · rcases harmed.2 ha with ha | ⟨val, kt, hpc⟩
      · exact hL.armedOff ha
      · exact absurd (hidle.symm.trans hpc) (by simp [HandlerPc.idle])

theorem Inv.goOn {i : Nat} {l : Access} {c : Config HandlerPc GpioState} (hI : Inv w)
    (hl : l.opens = none) (hc : InOrder w (.handler i l))
    (hs : handlers.step w.sysfs (.thread i l) = some c) :
    Inv { w with
      sysfs := c
      active := if c.pc i = .idle then w.active.filter (· ≠ i) else w.active } := by
  have hi : i ∈ w.active := (hI.running i).mpr (step_idle hl hs)
  have hL : Loaded w := hI.phase.resolve_left (fun hL => by simp [hL.active] at hi)
  have hne : w.active ≠ [] := List.ne_nil_of_mem hi
  have harmed := armed_of_step hs
  obtain ⟨-, hon, hoff⟩ := hc
  constructor
  · intro j
    show j ∈ (if c.pc i = .idle then w.active.filter (· ≠ i) else w.active) ↔ c.pc j ≠ .idle
    by_cases hj : j = i
    · subst hj
      by_cases hdone : c.pc j = .idle
      · simp [hdone]
      · simp [hdone, hi]
    · rw [handlers.pc_of_step_ne hs hj, ← hI.running j]
      split
      · simp [hj]
      · rfl
  · refine Or.inr ⟨hL.init, hL.ready, hL.block, hL.joined, hL.removed,
      fun _ => hL.active hne, fun ha => ?_, fun ha => ?_⟩
    · rcases harmed.1 ha with ha | ⟨val, hpc⟩
      · exact hL.armedOn ha
      · exact hon (by rw [hpc]; rfl)
    · rcases harmed.2 ha with ha | ⟨val, kt, hpc⟩
      · exact hL.armedOff ha
      · exact hoff (by rw [hpc]; rfl)

theorem Inv.handlerStep {i : Nat} {l : Access} (hI : Inv w) (hc : InOrder w (.handler i l))
    (h : w.handlerStep i l = some w') : Inv w' := by
  rw [Module.handlerStep] at h
  cases hl : l.opens with
  | some f =>
    simp only [hl] at h
    split at h
    · next hf =>
      obtain ⟨c, hs, rfl⟩ := Option.map_eq_some_iff.mp h
      exact hI.openFile (hc.1 (by rw [hl]; rfl)) hl hf hs
    · cases h
  | none =>
    simp only [hl] at h
    split at h
    · cases h
    · obtain ⟨c, hs, rfl⟩ := Option.map_eq_some_iff.mp h
      exact hI.goOn hl hc hs

theorem Inv.fireStep {e : Fire} (hI : Inv w) (h : w.fireStep e = some w') : Inv w' := by
  rw [Module.fireStep] at h
  split at h
  · obtain ⟨c, hs, rfl⟩ := Option.map_eq_some_iff.mp h
    obtain ⟨st, hst, rfl⟩ := Option.map_eq_some_iff.mp hs
    obtain ⟨hon, hoff, -⟩ := fire_frame hst
    refine ⟨hI.running, hI.phase.imp (fun hL => ?_) (fun hL => ?_)⟩
    · exact hL.write (f := fun _ => st) ⟨hon.trans hL.timers.1, hoff.trans hL.timers.2⟩
    · exact hL.write (f := fun _ => st) (fun ha => hon ▸ ha) (fun ha => hoff ▸ ha)
  · cases h

/-! ### The result -/

theorem initStep_frame {ok : Bool} (h : w.initStep ok = some w') :
    w'.active = w.active ∧ w'.sysfs.pc = w.sysfs.pc := by
  rw [Module.initStep] at h
  cases hpc : w.init with
  | drain =>
    rw [hpc] at h
    obtain ⟨-, h⟩ := Option.ite_none_right_eq_some.mp h
    obtain rfl := Option.some.inj h
    exact ⟨rfl, rfl⟩
  | done => rw [hpc] at h; cases h
  | failed => rw [hpc] at h; cases h
  | _ =>
    rw [hpc] at h
    cases ok with
    | false => obtain rfl := Option.some.inj h; exact ⟨rfl, rfl⟩
    | true => obtain rfl := Option.some.inj h; exact ⟨rfl, rfl⟩

theorem mainStep_frame (h : w.mainStep = some w') :
    w'.active = w.active ∧ w'.sysfs.pc = w.sysfs.pc := by
  rw [Module.mainStep] at h
  cases hm : w.main with
  | drain =>
    rw [hm] at h
    obtain ⟨-, h⟩ := Option.ite_none_right_eq_some.mp h
    obtain rfl := Option.some.inj h
    exact ⟨rfl, rfl⟩
  | none => rw [hm] at h; cases h
  | exited => rw [hm] at h; cases h
  | _ =>
    rw [hm] at h
    obtain rfl := Option.some.inj h
    exact ⟨rfl, rfl⟩

theorem exitStep_frame (h : w.exitStep = some w') :
    w'.active = w.active ∧ w'.sysfs.pc = w.sysfs.pc := by
  rw [Module.exitStep] at h
  cases hx : w.exit with
  | stop =>
    rw [hx] at h
    obtain ⟨-, h⟩ := Option.ite_none_left_eq_some.mp h
    obtain rfl := Option.some.inj h
    exact ⟨rfl, rfl⟩
  | done => rw [hx] at h; cases h
  | clear =>
    rw [hx] at h
    obtain rfl := Option.some.inj h
    exact ⟨rfl, rfl⟩
  | free =>
    rw [hx] at h
    obtain rfl := Option.some.inj h
    split <;> exact ⟨rfl, rfl⟩
  | _ =>
    rw [hx] at h
    obtain ⟨-, h⟩ := Option.ite_none_right_eq_some.mp h
    obtain rfl := Option.some.inj h
    exact ⟨rfl, rfl⟩

/-- **The invariant holds along every life in order.** -/
theorem inv_of_reach (h : life.Reach InOrder w) : Inv w := by
  refine h.invariant ?_ ?_
  · rintro w rfl
    refine ⟨fun i => ?_, Or.inl ?_⟩
    · simp [insmod, boot, handlers]
    · exact ⟨by decide, rfl, rfl, rfl, Or.inl rfl, fun hh => (by cases hh),
        fun hh => (by simp [insmod, InitPc.ready] at hh), fun hh => (by cases hh), rfl, rfl, rfl⟩
  · intro w a w' hI hc hs
    have hrun : w'.active = w.active ∧ w'.sysfs.pc = w.sysfs.pc →
        ∀ i, i ∈ w'.active ↔ w'.sysfs.pc i ≠ .idle := by
      rintro ⟨ha, hpc⟩ i
      rw [ha, hpc]
      exact hI.running i
    cases a with
    | init ok =>
      have hs : w.initStep ok = some w' := hs
      refine ⟨hrun (initStep_frame hs), ?_⟩
      rcases hI.phase with hL | hL
      · exact hL.initStep hs
      · simp [Module.initStep, hL.init] at hs
    | kthreadErr =>
      have hs : w.kthreadErr = some w' := hs
      obtain ⟨hpc, hsome⟩ := Option.ite_none_right_eq_some.mp hs
      obtain rfl := Option.some.inj hsome
      refine ⟨hI.running, Or.inl ?_⟩
      rcases hI.phase with hL | hL
      · exact hL.kthreadErr hs
      · exact absurd (hL.init.symm.trans hpc) (by decide)
    | main =>
      have hs : w.mainStep = some w' := hs
      exact ⟨hrun (mainStep_frame hs), hI.phase.imp (fun hL => hL.mainStep hs)
        (fun hL => hL.mainStep hc hs)⟩
    | exit =>
      have hs : w.exitStep = some w' := hs
      refine ⟨hrun (exitStep_frame hs), Or.inr ?_⟩
      rcases hI.phase with hL | hL
      · simp [Module.exitStep, hL.exit, hL.init] at hs
      · exact hL.exitStep hs
    | handler i l => exact hI.handlerStep hc hs
    | fire e => exact hI.fireStep hs

/-- **The lifetime of the module.**  In every life in order, a handler runs only
while `g_gpio_state` points to a live block whose timers are initialised, and
no timer is armed once the block is freed. -/
theorem lifetime (h : life.Reach InOrder w) : HandlersSafe w ∧ TimersDead w := by
  obtain ⟨hrun, hphase⟩ := inv_of_reach h
  rcases hphase with hL | hL
  · refine ⟨fun i hi => ?_, fun _ => hL.timers⟩
    have hi := (hrun i).mpr hi
    rw [hL.active] at hi
    cases hi
  · have hblock : w.main ≠ .exited → w.gGpioState = true ∧ w.mem = .live := by
      intro hm
      apply hL.block
      have hj : ¬ w.exit.joined = true := fun hj => hm (hL.joined hj)
      cases hx : w.exit <;> simp_all [ExitPc.holds, ExitPc.joined]
    refine ⟨fun i hi => ?_, fun hfreed => ?_⟩
    · have hm := hL.active (List.ne_nil_of_mem ((hrun i).mpr hi))
      exact ⟨(hblock hm).1, (hblock hm).2, hL.ready⟩
    · have hm : w.main = .exited := by
        by_contra hm
        rw [(hblock hm).2] at hfreed
        cases hfreed
      refine ⟨Bool.eq_false_iff.mpr (fun ha => ?_), Bool.eq_false_iff.mpr (fun ha => ?_)⟩
      · exact absurd (hL.armedOn ha) (by rw [hm]; decide)
      · exact absurd (hL.armedOff ha) (by rw [hm]; decide)

/-- Loading, up to the thread at its loop. -/
def load : List Act := List.replicate 13 (.init true) ++ [.main]

/-- Handler `0` writes `"1"` to `enable`. -/
def switchOn : List Act :=
  .handler 0 (.writeEnable "1\n".toList) :: List.replicate 7 (.handler 0 (.run 0))

/-- The trigger is switched on, then the module is unloaded. -/
theorem lifetime_unloaded : ∃ w, life.Reach InOrder w ∧ w.mem = .freed ∧ w.sysfs.shared.enabled = true ∧
    HandlersSafe w ∧ TimersDead w := by
  obtain ⟨w, hw, hp⟩ := TransSys.Reach.of_trace
    (load ++ switchOn ++ [.exit, .exit, .main, .main, .main, .main, .main, .exit, .exit])
    (T := life) (C := InOrder) (P := fun w => w.mem = .freed && w.sysfs.shared.enabled) rfl (by decide) (by decide)
  simp only [Bool.and_eq_true, decide_eq_true_eq] at hp
  exact ⟨w, hw, hp.1, hp.2, lifetime hw⟩

/-- **The code does not keep the order.**  `enable` is read as soon as its file
is there, and the pointer is null.  And `enable` is written between the
thread's `hrtimer_cancel` and its `kobject_put`, and the block is freed with
the timers running. -/
theorem lifetime_broken : (¬ ∀ w, life.Reach TransSys.Any w → HandlersSafe w) ∧
    (¬ ∀ w, life.Reach TransSys.Any w → TimersDead w) := by
  constructor
  · intro h
    obtain ⟨w, hw, hp⟩ := TransSys.Reach.of_trace
      (List.replicate 5 (.init true) ++ [.handler 0 .readEnable])
      (T := life) (P := fun w => decide (w.sysfs.pc 0 ≠ .idle) && !w.gGpioState) rfl
      (TransSys.meets_any _ _) (by decide)
    simp only [Bool.and_eq_true, decide_eq_true_eq, Bool.not_eq_true'] at hp
    have hg := (h w hw 0 hp.1).1
    exact absurd (hp.2.symm.trans hg) (by decide)
  · intro h
    obtain ⟨w, hw, hp⟩ := TransSys.Reach.of_trace
      (load ++ [.exit, .exit, .main, .main, .main] ++ switchOn ++ [.main, .main, .exit, .exit])
      (T := life) (P := fun w => w.mem = .freed && w.sysfs.shared.gpioOnTimer.armed) rfl
      (TransSys.meets_any _ _) (by decide)
    simp only [Bool.and_eq_true, decide_eq_true_eq] at hp
    have ha := (h w hw hp.1).1
    exact absurd (hp.2.symm.trans ha) (by decide)

end Module

end Opaleye.Gpio
