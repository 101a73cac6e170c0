import Opaleye.Gpio.Interlock

/-!
# The trigger module and its sysfs files

`opaleye_gpio_init` allocates the state block, publishes the two sysfs files,
initialises the timers, starts the kernel thread and, last of all, sets
`g_gpio_state`.  `opaleye_gpio_exit` stops the thread and frees the block.  The
thread, `opaleye_gpio_main`, cancels the timers and removes the files before it
returns.  All three run against any number of handlers of the sysfs files.

The kernel gives two things.  A handler starts only while its file is there,
and `kobject_put` takes the files away and then waits until the handlers that
have started are done (`active` is the list of them).  A thread that is asked
to stop before it has begun does not enter its function at all.
-/

namespace Opaleye.Gpio

open LockedThreads

/-! ### The sysfs handlers -/

/-- Where a handler stands.  `store` has the places of the two store
handlers. -/
inductive HandlerPc
  -- `opaleye_enable_attr_show`
  | enableShow
  -- `opaleye_timer_settings_attr_show`
  | settingsShow
  | settingsRead
  | settingsUnlock
  | store (p : Pc)
  deriving DecidableEq, Repr

namespace HandlerPc

def idle : HandlerPc := .store .idle

def owns : HandlerPc → Bool
  | .settingsRead | .settingsUnlock => true
  | .store p => p.owns
  | _ => false

/-- The next step dereferences `g_gpio_state`. -/
def derefs : HandlerPc → Bool
  | .enableShow | .settingsRead => true
  | .store (.enEdge _) | .store (.enSwitch _ _) | .store (.enCancelOff _)
  | .store (.enStartOff _ _) | .store (.enStore _) => true
  | .store (.tsTest _) | .store (.tsStore _) => true
  | _ => false

end HandlerPc

/-- The two files below `/sys/kernel/opaleye`. -/
inductive File
  | enable
  | timerSettings
  deriving DecidableEq, Repr

/-- A file is read or written, or a handler goes on. -/
inductive Access
  | readEnable
  | readTimerSettings
  | writeEnable (buf : List Char)
  | writeTimerSettings (buf : List Char)
  | run (now : Int)

/-- The file that an access opens. -/
def Access.opens : Access → Option File
  | .readEnable | .writeEnable _ => some .enable
  | .readTimerSettings | .writeTimerSettings _ => some .timerSettings
  | .run _ => none

def handlerNext : Access → HandlerPc → GpioState → Move HandlerPc GpioState
  | .readEnable, .store .idle, _ => .goto .enableShow
  | .run _, .enableShow, _ => .goto .idle
  | .readTimerSettings, .store .idle, _ => .goto .settingsShow
  | .run _, .settingsShow, _ => .lock .settingsRead
  | .run _, .settingsRead, s => .crit .settingsUnlock s
  | .run _, .settingsUnlock, _ => .unlock .idle
  | .writeEnable buf, .store p, s => (next (.writeEnable buf) p s).map .store
  | .writeTimerSettings buf, .store p, s => (next (.writeTimerSettings buf) p s).map .store
  | .run now, .store p, s => (next (.run now) p s).map .store
  | _, _, _ => .blocked

/-- The handlers of the two files, with `g_gpio_state_mutex`. -/
def handlers : LockedThreads HandlerPc GpioState Access Fire where
  start := .idle
  owns := HandlerPc.owns
  next := handlerNext
  interrupt := fire
  start_free := rfl
  next_owns := by
    intro l p st
    fun_cases handlerNext l p st
    -- a store handler: as for the writers alone
    case case7 | case8 | case9 =>
      generalize hn : next _ _ _ = m
      cases m with
      | blocked => trivial
      | goto q => exact owns_of_goto (P := writers) hn
      | lock q => exact owns_of_lock (P := writers) hn
      | crit q s => exact owns_of_crit (P := writers) hn
      | unlock q => exact owns_of_unlock (P := writers) hn
    all_goals first | exact ⟨rfl, rfl⟩ | exact trivial

section next

variable {l : Access} {p q : HandlerPc} {s s' : GpioState}

theorem handlerNext_idle {f : File} (hl : l.opens = some f) :
    ∃ q, handlerNext l .idle s = .goto q ∧ q ≠ .idle := by
  cases l with
  | readEnable => exact ⟨.enableShow, rfl, by decide⟩
  | readTimerSettings => exact ⟨.settingsShow, rfl, by decide⟩
  | writeEnable buf => exact ⟨.store (.enParse buf), rfl, by simp [HandlerPc.idle]⟩
  | writeTimerSettings buf => exact ⟨.store (.tsParse buf), rfl, by simp [HandlerPc.idle]⟩
  | run now => exact absurd hl (by simp [Access.opens])

theorem handlerNext_open {f : File} (hl : l.opens = some f) (hp : p ≠ .idle) :
    handlerNext l p s = .blocked := by
  cases p with
  | store p =>
    cases p with
    | idle => exact absurd rfl hp
    | _ =>
      cases l with
      | run now => exact absurd hl (by simp [Access.opens])
      | _ => rfl
  | _ =>
    cases l with
    | run now => exact absurd hl (by simp [Access.opens])
    | _ => rfl

theorem handlerNext_crit (h : handlerNext l p s = .crit q s') :
    s' = s ∨ ∃ p' q', p = .store p' ∧ CritStep p' s q' s' := by
  revert h
  fun_cases handlerNext l p s
  case case7 | case8 | case9 =>
    generalize hn : next _ _ _ = m
    intro h
    cases m with
    | crit q' st =>
      obtain ⟨rfl, rfl⟩ := Move.crit.inj h
      exact Or.inr ⟨_, q', rfl, (next_crit hn).2⟩
    | _ => cases h
  all_goals
    intro h
    cases h
  exact Or.inl rfl

end next

theorem CritStep.armedOn {p q : Pc} {s s' : GpioState} (h : CritStep p s q s')
    (ha : s'.gpioOnTimer.armed = true) : s.gpioOnTimer.armed = true ∨ ∃ val, p = .enSwitch val 2 := by
  cases h with
  | cancelOn => simp [hrtimerCancel] at ha
  | startOn now => exact Or.inr ⟨_, rfl⟩
  | _ => exact Or.inl ha

theorem CritStep.armedOff {p q : Pc} {s s' : GpioState} (h : CritStep p s q s')
    (ha : s'.gpioOffTimer.armed = true) :
    s.gpioOffTimer.armed = true ∨ ∃ val kt, p = .enStartOff val kt := by
  cases h with
  | cancelOff => simp [hrtimerCancel] at ha
  | startOff => exact Or.inr ⟨_, _, rfl⟩
  | _ => exact Or.inl ha

/-- **What a handler's step does to the timers**: the on timer is armed by the
write that switches on, the off timer right behind it. -/
theorem armed_of_step {c c' : Config HandlerPc GpioState} {i : Nat} {l : Access}
    (h : handlers.step c (.thread i l) = some c') :
    (c'.shared.gpioOnTimer.armed = true → c.shared.gpioOnTimer.armed = true ∨
      ∃ val, c.pc i = .store (.enSwitch val 2)) ∧
    (c'.shared.gpioOffTimer.armed = true → c.shared.gpioOffTimer.armed = true ∨
      ∃ val kt, c.pc i = .store (.enStartOff val kt)) := by
  rcases handlers.step_cases h with ⟨j, m, q, ha, -, rfl⟩ | ⟨j, m, q, ha, -, -, rfl⟩ |
    ⟨j, m, q, st, ha, hn, rfl⟩ | ⟨j, m, q, ha, -, rfl⟩ | ⟨e, st, ha, -, rfl⟩
  · exact ⟨Or.inl, Or.inl⟩
  · exact ⟨Or.inl, Or.inl⟩
  · obtain ⟨rfl, rfl⟩ := Act.thread.inj ha
    rcases handlerNext_crit hn with rfl | ⟨p, q', hp, hcrit⟩
    · exact ⟨Or.inl, Or.inl⟩
    · rw [hp]
      refine ⟨fun hon => ?_, fun hoff => ?_⟩
      · exact (hcrit.armedOn hon).imp id (fun ⟨val, hv⟩ => ⟨val, by rw [hv]⟩)
      · exact (hcrit.armedOff hoff).imp id (fun ⟨val, kt, hv⟩ => ⟨val, kt, by rw [hv]⟩)
  · exact ⟨Or.inl, Or.inl⟩
  · cases ha

theorem pc_of_open {c c' : Config HandlerPc GpioState} {i : Nat} {l : Access} {f : File}
    (hl : l.opens = some f) (h : handlers.step c (.thread i l) = some c') :
    c.pc i = .idle ∧ c'.pc i ≠ .idle := by
  have hidle : c.pc i = .idle := by
    by_contra hne
    simp [LockedThreads.step, handlers, handlerNext_open hl hne] at h
  obtain ⟨q, hq, hne⟩ := handlerNext_idle (s := c.shared) hl
  have hstep := handlers.step_goto (c := c) (i := i) (by rw [hidle]; exact hq)
  obtain rfl : c.goto i q = c' := Option.some.inj (hstep.symm.trans h)
  rw [Config.goto_pc_self]
  exact ⟨hidle, hne⟩

/-! ### The module -/

/-- The steps of `opaleye_gpio_init`; `put`, `drain` and `free` are its failing
branches. -/
inductive InitPc
  | kzalloc
  | requestCsi
  | requestHdr
  | createKobj
  | createEnable
  | createTimerSettings
  | setT0
  | setWidth
  | setPeriod
  | initOnTimer
  | initOffTimer
  | runMain
  | publish
  | put
  | drain
  | free
  | done
  | failed
  deriving DecidableEq, Repr

/-- The thread that runs `opaleye_gpio_main`; `created` is the place before
the kernel enters the function. -/
inductive MainPc
  | none
  | created
  | loop
  | cancelOn
  | cancelOff
  | put
  | drain
  | exited
  deriving DecidableEq, Repr

/-- The steps of `opaleye_gpio_exit`. -/
inductive ExitPc
  | idle
  | stop
  | wait
  | free
  | clear
  | done
  deriving DecidableEq, Repr

/-- The memory of the state block. -/
inductive Mem
  | none
  | live
  | freed
  deriving DecidableEq, Repr

/-- The module and the kernel's view of it.  `gGpioState` says whether the
global pointer is set; it only ever points to the one block. -/
structure Module where
  init : InitPc
  main : MainPc
  exit : ExitPc
  mem : Mem
  onTimerReady : Bool
  offTimerReady : Bool
  gGpioState : Bool
  shouldStop : Bool
  enableFile : Bool
  timerSettingsFile : Bool
  active : List Nat
  sysfs : Config HandlerPc GpioState

/-- The block as `kzalloc` returns it. -/
def zeroed : GpioState := ⟨⟨false, 0⟩, ⟨false, 0⟩, fun _ => false, false, 0, 0, 0⟩

namespace Module

def insmod : Module where
  init := .kzalloc
  main := .none
  exit := .idle
  mem := .none
  onTimerReady := false
  offTimerReady := false
  gGpioState := false
  shouldStop := false
  enableFile := false
  timerSettingsFile := false
  active := []
  sysfs := handlers.boot zeroed

def has (w : Module) : File → Bool
  | .enable => w.enableFile
  | .timerSettings => w.timerSettingsFile

/-- A store to the block. -/
def write (w : Module) (f : GpioState → GpioState) : Module :=
  { w with sysfs := { w.sysfs with shared := f w.sysfs.shared } }

/-- The first half of `kobject_put`: nobody gets in any more. -/
def removeFiles (w : Module) : Module :=
  { w with enableFile := false, timerSettingsFile := false }

/-- One step of `opaleye_gpio_init`; `ok` is what the kernel function called
there says. -/
def initStep (ok : Bool) (w : Module) : Option Module :=
  match w.init with
  | .kzalloc => some (if ok then { w with init := .requestCsi, mem := .live }
      else { w with init := .failed })
  | .requestCsi => some { w with init := if ok then .requestHdr else .free }
  | .requestHdr => some { w with init := if ok then .createKobj else .free }
  | .createKobj => some { w with init := if ok then .createEnable else .free }
  | .createEnable => some (if ok then { w with init := .createTimerSettings, enableFile := true }
      else { w with init := .put })
  | .createTimerSettings => some (if ok then { w with init := .setT0, timerSettingsFile := true }
      else { w with init := .put })
  | .setT0 => some { w.write (fun s => { s with t0 := ktimeSet 0 0 }) with init := .setWidth }
  | .setWidth => some { w.write (fun s => { s with width := ktimeSet 0 (100 * 1000 * 1000) }) with
      init := .setPeriod }
  | .setPeriod => some { w.write (fun s => { s with period := ktimeSet 1 0 }) with
      init := .initOnTimer }
  | .initOnTimer => some { w.write (fun s => { s with gpioOnTimer := ⟨false, 0⟩ }) with
      init := .initOffTimer, onTimerReady := true }
  | .initOffTimer => some { w.write (fun s => { s with gpioOffTimer := ⟨false, 0⟩ }) with
      init := .runMain, offTimerReady := true }
  | .runMain => some (if ok then { w with init := .publish, main := .created }
      else { w with init := .put })
  | .publish => some { w with init := .done, gGpioState := true }
  | .put => some { w.removeFiles with init := .drain }
  | .drain => if w.active = [] then some { w with init := .free } else none
  | .free => some { w with init := .failed, mem := .freed }
  | .done => none
  | .failed => none

/-- `kthread_run` returns an error pointer, which `opaleye_gpio_init` takes for
a thread. -/
def kthreadErr (w : Module) : Option Module :=
  if w.init = .runMain then some { w with init := .publish } else none

/-- One step of the thread. -/
def mainStep (w : Module) : Option Module :=
  match w.main with
  | .none => none
  | .created => some { w with main := if w.shouldStop then .exited else .loop }
  | .loop => some { w with main := if w.shouldStop then .cancelOn else .loop }
  | .cancelOn => some { w.write (fun s => { s with gpioOnTimer := hrtimerCancel s.gpioOnTimer }) with
      main := .cancelOff }
  | .cancelOff => some
      { w.write (fun s => { s with gpioOffTimer := hrtimerCancel s.gpioOffTimer }) with main := .put }
  | .put => some { w.removeFiles with main := .drain }
  | .drain => if w.active = [] then some { w with main := .exited } else none
  | .exited => none

/-- One step of `opaleye_gpio_exit`, which the kernel calls only when
`opaleye_gpio_init` has succeeded.  `kthread_stop` does not survive an error
pointer. -/
def exitStep (w : Module) : Option Module :=
  match w.exit with
  | .idle =>
    if w.init = .done then some { w with exit := if w.gGpioState then .stop else .done } else none
  | .stop => if w.main = .none then none else some { w with exit := .wait, shouldStop := true }
  | .wait => if w.main = .exited then some { w with exit := .free } else none
  | .free => some (if w.gGpioState then { w with exit := .clear, mem := .freed }
      else { w with exit := .done })
  | .clear => some { w with exit := .done, gGpioState := false }
  | .done => none

/-- A file is opened, if it is there, or a handler goes on.  It cannot go on
through a pointer that is null or dangling. -/
def handlerStep (i : Nat) (l : Access) (w : Module) : Option Module :=
  match l.opens with
  | some f =>
    if w.has f then
      (handlers.step w.sysfs (.thread i l)).map (fun c => { w with sysfs := c, active := i :: w.active })
    else none
  | none =>
    if (w.sysfs.pc i).derefs && !(w.gGpioState && w.mem = .live) then none
    else (handlers.step w.sysfs (.thread i l)).map (fun c => { w with
      sysfs := c
      active := if c.pc i = .idle then w.active.filter (· ≠ i) else w.active })

/-- A timer of the block calls back. -/
def fireStep (e : Fire) (w : Module) : Option Module :=
  if w.mem = .live then
    (handlers.step w.sysfs (.interrupt e)).map (fun c => { w with sysfs := c })
  else none

inductive Act
  | init (ok : Bool)
  | kthreadErr
  | main
  | exit
  | handler (i : Nat) (l : Access)
  | fire (e : Fire)

def step (w : Module) : Act → Option Module
  | .init ok => w.initStep ok
  | .kthreadErr => w.kthreadErr
  | .main => w.mainStep
  | .exit => w.exitStep
  | .handler i l => w.handlerStep i l
  | .fire e => w.fireStep e

/-- One life of the module, from loading on. -/
def life : TransSys Module Act where
  init := fun w => w = insmod
  step := step

/-- Loading leaves the block that `opaleyeGpioInit` describes. -/
example : (life.run insmod (List.replicate 13 (.init true))).map (fun w => w.sysfs.shared)
    = some opaleyeGpioInit := rfl

end Module

end Opaleye.Gpio
