import Opaleye.Lib.Text
import Mathlib.Logic.Function.Basic

/-!
# The trigger module: its state and its handlers

`modules/opaleye_gpio/opaleye_gpio_main.c` drives the camera trigger lines from
two kernel timers.  This file has the module's state block, the two timer
callbacks and the two sysfs store handlers, each as one function on the state.
`Gpio/Interlock.lean` takes the handlers apart into their atomic steps.

Times (`ktime_t`) are signed counts of nanoseconds in 64 bits: `ktime_set`
saturates, and sums and differences wrap.  `hrtimerForwardNow` is the documented
one: it adds the least positive multiple of the interval that takes the expiry
past `now`, and does nothing to a timer that has not expired.

A handler gets the text written to its file, without the terminating zero.
Both return the number of bytes they were given, whatever they did.
-/

namespace Opaleye.Gpio

open Text

/-! ### Times and timers -/

def nsecPerSec : Int := 1000000000

def ktimeMax : Int := 9223372036854775807

def ktimeSecMax : Int := 9223372036

/-- The times a `ktime_t` holds. -/
def IsKtime (x : Int) : Prop := -ktimeMax - 1 ≤ x ∧ x ≤ ktimeMax

def ktimeWrap (x : Int) : Int := Int.bmod x (2 ^ 64)

theorem ktimeWrap_of_isKtime {x : Int} (h : IsKtime x) : ktimeWrap x = x := by
  simp only [IsKtime, ktimeMax] at h
  exact Int.bmod_eq_of_le_mul_two (by omega) (by omega)

def ktimeSet (secs nsecs : Int) : Int :=
  if ktimeSecMax ≤ secs then ktimeMax else ktimeWrap (secs * nsecPerSec + nsecs)

def ktimeAdd (a b : Int) : Int := ktimeWrap (a + b)

def ktimeSub (a b : Int) : Int := ktimeWrap (a - b)

theorem ktimeSet_of_lt {secs nsecs : Int} (h0 : 0 ≤ secs) (h : secs < ktimeSecMax)
    (hn0 : 0 ≤ nsecs) (hn : nsecs < nsecPerSec) :
    ktimeSet secs nsecs = secs * nsecPerSec + nsecs := by
  rw [ktimeSet, if_neg (by omega)]
  simp only [ktimeSecMax, nsecPerSec] at h hn ⊢
  exact ktimeWrap_of_isKtime ⟨by simp only [ktimeMax]; omega, by simp only [ktimeMax]; omega⟩

/-- `struct hrtimer`: whether it is enqueued, and when it expires. -/
structure Hrtimer where
  armed : Bool
  expires : Int
  deriving DecidableEq, Repr

/-- `hrtimer_start` in absolute mode. -/
def hrtimerStart (_ : Hrtimer) (tim : Int) : Hrtimer := ⟨true, tim⟩

/-- `hrtimer_cancel`: it returns after a running callback has finished. -/
def hrtimerCancel (t : Hrtimer) : Hrtimer := { t with armed := false }

def hrtimerForwardNow (t : Hrtimer) (now interval : Int) : Hrtimer :=
  if now < t.expires then t
  else { t with expires := t.expires + ((now - t.expires) / interval + 1) * interval }

@[simp] theorem hrtimerStart_armed (t : Hrtimer) (tim : Int) :
    (hrtimerStart t tim).armed = true := rfl

@[simp] theorem hrtimerStart_expires (t : Hrtimer) (tim : Int) :
    (hrtimerStart t tim).expires = tim := rfl

@[simp] theorem hrtimerForwardNow_armed (t : Hrtimer) (now interval : Int) :
    (hrtimerForwardNow t now interval).armed = t.armed := by
  rw [hrtimerForwardNow]
  split <;> rfl

/-! ### The state block -/

/-- `opaleye_gpio_state_t`.  `csiGpio` holds the levels of the four CSI lines. -/
structure GpioState where
  gpioOnTimer : Hrtimer
  gpioOffTimer : Hrtimer
  csiGpio : Fin 4 → Bool
  enabled : Bool
  t0 : Int
  period : Int
  width : Int

/-- `csi_gpio[0]`, CAM0_PWDN -/
def cam0Pwdn : Fin 4 := 0

/-- `csi_gpio[1]`, CAM1_PWDN -/
def cam1Pwdn : Fin 4 := 1

/-- The state `opaleye_gpio_init` leaves: lines low, timers initialised but not
started, one pulse of 100 ms in every second. -/
def opaleyeGpioInit : GpioState where
  gpioOnTimer := ⟨false, 0⟩
  gpioOffTimer := ⟨false, 0⟩
  csiGpio := fun _ => false
  enabled := false
  t0 := ktimeSet 0 0
  period := ktimeSet 1 0
  width := ktimeSet 0 (100 * 1000 * 1000)

def gpioSetValue (s : GpioState) (line : Fin 4) (value : Bool) : GpioState :=
  { s with csiGpio := Function.update s.csiGpio line value }

/-- `opaleye_gpio_on_timer_cb`, run at time `now`. -/
def opaleyeGpioOnTimerCb (now : Int) (s : GpioState) : GpioState :=
  let s := { s with gpioOnTimer := hrtimerForwardNow s.gpioOnTimer now s.period }
  gpioSetValue (gpioSetValue s cam0Pwdn true) cam1Pwdn true

/-- `opaleye_gpio_off_timer_cb`, run at time `now`. -/
def opaleyeGpioOffTimerCb (now : Int) (s : GpioState) : GpioState :=
  let s := { s with gpioOffTimer := hrtimerForwardNow s.gpioOffTimer now s.period }
  gpioSetValue (gpioSetValue s cam0Pwdn false) cam1Pwdn false

/-! ### `enable` -/

/-- `sscanf(buf, "%d", &val)` of `opaleye_enable_attr_store`. -/
def parseEnable (buf : List Char) : Option Int := (sscanf [.conv (readSigned 32)] buf).head?

/-- Bit 0 is the old value of `enabled`, bit 1 the one asked for. -/
def edgeOf (enabled : Bool) (val : Int) : Nat :=
  (if enabled then 1 <<< 0 else 0) ||| (if val ≠ 0 then 1 <<< 1 else 0)

/-- The start of the first pulse: `t0`, or when `t0` is zero the next whole
second, and the one after it if that is less than 250 ms away. -/
def kt0On (now : Int) (s : GpioState) : Int :=
  if s.t0 = ktimeSet 0 0 then
    let tvSec := now / nsecPerSec
    let tvNsec := now % nsecPerSec
    let kt := ktimeSet (tvSec + 1) 0
    let diff := ktimeSub kt (ktimeSet tvSec tvNsec)
    -- `250*1000*1000ULL` makes the comparison an unsigned one
    if diff % 2 ^ 64 < 250 * 1000 * 1000 then ktimeAdd kt (ktimeSet 1 0) else kt
  else s.t0

/-- The `switch(edge)` of `opaleye_enable_attr_store`. -/
def switchEdge (edge : Nat) (now : Int) (s : GpioState) : GpioState :=
  match edge with
  | 1 =>
    { s with
      gpioOnTimer := hrtimerCancel s.gpioOnTimer
      gpioOffTimer := hrtimerCancel s.gpioOffTimer }
  | 2 =>
    { s with
      gpioOnTimer := hrtimerStart s.gpioOnTimer (kt0On now s)
      gpioOffTimer := hrtimerStart s.gpioOffTimer (ktimeAdd (kt0On now s) s.width) }
  | _ => s

/-- `opaleye_enable_attr_store`, with nobody else writing meanwhile. -/
def opaleyeEnableAttrStore (now : Int) (buf : List Char) (s : GpioState) : GpioState × Nat :=
  match parseEnable buf with
  | none => (s, buf.length)
  | some val =>
    ({ switchEdge (edgeOf s.enabled val) now s with enabled := decide (val ≠ 0) }, buf.length)

/-! ### `timer_settings` -/

def charToNum (c : Char) : Int := (c.toNat : Int) - ('0'.toNat : Int)

def nsstrToNsLoop : List Char → Int → Int → Int
  | [], accum, _ => accum
  | c :: ptr, accum, mul => nsstrToNsLoop ptr (accum + charToNum c * mul) (mul.tdiv 10)

def nsstrToNs (buf : List Char) : Int := nsstrToNsLoop buf 0 100000000

/-- What one conversion of the settings format yields. -/
inductive Field
  | sec (n : Int)
  | nsecStr (s : List Char)
  deriving DecidableEq, Repr

/-- `%ld` -/
def secDirective : Directive Field :=
  .conv (fun s => (readSigned 64 s).map (fun p => (.sec p.1, p.2)))

/-- `%9[0123456789]` -/
def nsecDirective : Directive Field :=
  .conv (fun s => (readSet 9 Char.isDigit s).map (fun p => (.nsecStr p.1, p.2)))

/-- `"%ld.%9[0123456789],%ld.%9[0123456789],%ld.%9[0123456789]"` -/
def timerSettingsFormat : List (Directive Field) :=
  [secDirective, .lit '.', nsecDirective, .lit ',',
   secDirective, .lit '.', nsecDirective, .lit ',',
   secDirective, .lit '.', nsecDirective]

/-- The three times of a line with all six conversions. -/
def parseTimerSettings (buf : List Char) : Option (Int × Int × Int) :=
  match sscanf timerSettingsFormat buf with
  | [.sec t0Sec, .nsecStr t0NsecStr, .sec periodSec, .nsecStr periodNsecStr,
     .sec widthSec, .nsecStr widthNsecStr] =>
    some (ktimeSet t0Sec (nsstrToNs t0NsecStr), ktimeSet periodSec (nsstrToNs periodNsecStr),
      ktimeSet widthSec (nsstrToNs widthNsecStr))
  | _ => none

/-- The guarded assignment of `opaleye_timer_settings_attr_store`. -/
def storeSettings (v : Int × Int × Int) (s : GpioState) : GpioState :=
  if s.enabled then s else { s with t0 := v.1, period := v.2.1, width := v.2.2 }

/-- `opaleye_timer_settings_attr_store`, with nobody else writing meanwhile. -/
def opaleyeTimerSettingsAttrStore (buf : List Char) (s : GpioState) : GpioState × Nat :=
  match parseTimerSettings buf with
  | none => (s, buf.length)
  | some v => (storeSettings v s, buf.length)

end Opaleye.Gpio
