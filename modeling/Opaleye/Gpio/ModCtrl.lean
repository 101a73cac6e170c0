import Opaleye.Gpio.State
import Opaleye.Util.ChronoUtil
import Mathlib.Data.Rat.Floor

/-!
# The line between user space and the trigger module

`opaleye/Opaleye_gpio_mod_ctrl.cpp` writes text to the module's sysfs files.
`configureText` is the line `configure` prints, and this file shows that the
kernel reads from it the three durations it was printed from
(`parseTimerSettings_configureText`), for any durations `ktime_set` can hold.

The encoder splits a duration into seconds and nanoseconds and prints the
nanoseconds on nine places.  The decoder bounds the same field to nine digits,
so it stops exactly at the comma, and weighs the digits from `10 ^ 8` down:
`nsstrToNsLoop_pow` says that this is the number the digits name.
The loop itself would take any number of digits: it reads them as a decimal
fraction and drops what is less than a nanosecond (`nsstrToNs_floor`).

The other direction of the boundary carries nothing: the store handler returns
the bytes it was given, taken or not, so `configure` cannot tell a refused line
from a stored one (`refusal_reported_iff`).
-/

namespace Opaleye.Gpio

open Text Opaleye.Util

/-- One `%ld.%09ld` of the settings line. -/
def timespecText (ts : Timespec) : List Char :=
  printInt ts.tvSec ++ '.' :: printIntPad 9 ts.tvNsec

/-- The line written by `Opaleye_gpio_mod_ctrl::configure`. -/
def configureText (t0 period width : Int) : List Char :=
  timespecText (chronoToTimespec t0) ++ ',' :: (timespecText (chronoToTimespec period) ++
    ',' :: (timespecText (chronoToTimespec width) ++ ['\n']))

/-- `Opaleye_gpio_mod_ctrl::configure` on the module's sysfs file: `dprintf`
hands the line to the store handler and reports what the handler returns. -/
def configure (t0 period width : Int) (s : GpioState) : GpioState × Bool :=
  let ret := opaleyeTimerSettingsAttrStore (configureText t0 period width) s
  (ret.1, decide (0 < ret.2))

/-- `Opaleye_gpio_mod_ctrl::enable`, at time `now`. -/
def enable (now : Int) (s : GpioState) : GpioState × Bool :=
  let ret := opaleyeEnableAttrStore now "1\n".toList s
  (ret.1, decide (0 < ret.2))

/-- `Opaleye_gpio_mod_ctrl::disable`, at time `now`. -/
def disable (now : Int) (s : GpioState) : GpioState × Bool :=
  let ret := opaleyeEnableAttrStore now "0\n".toList s
  (ret.1, decide (0 < ret.2))

/-- `Opaleye_gpio_mod_ctrl::set_enable` -/
def setEnable (now : Int) (en : Bool) (s : GpioState) : GpioState × Bool :=
  if en then enable now s else disable now s

/-! ### The digit weights -/

theorem charToNum_eq {c : Char} (h : c.isDigit = true) :
    charToNum c = ((c.toNat - '0'.toNat : Nat) : Int) := by
  have hc := (Char.isDigit_iff_toNat.mp h).1
  rw [charToNum]
  omega

theorem pow_succ_tdiv (m : Nat) : (10 ^ (m + 1) : Int).tdiv 10 = 10 ^ m := by
  rw [pow_succ, Int.mul_tdiv_cancel _ (by decide)]

/-- **The loop reads its digits as a number**, scaled to the weight of the
first of them. -/
theorem nsstrToNsLoop_pow : ∀ (ds : List Char) (m : Nat) (accum : Int),
    (∀ c ∈ ds, c.isDigit = true) → ds.length ≤ m + 1 →
    nsstrToNsLoop ds accum (10 ^ m)
      = accum + (Nat.ofDigitChars 10 ds 0 * 10 ^ (m + 1 - ds.length) : Nat) := by
  intro ds
  induction ds with
  | nil => intro m accum _ _; simp [nsstrToNsLoop]
  | cons c ds ih =>
    intro m accum hd hlen
    have hc := charToNum_eq (hd c (by simp))
    rw [List.length_cons] at hlen
    cases m with
    | zero =>
      -- the last weight: `mul / 10` is zero, and so is the rest of the text
      obtain rfl : ds = [] := List.eq_nil_of_length_eq_zero (by omega)
      simp [nsstrToNsLoop, hc, Nat.ofDigitChars_cons]
    | succ m =>
      have hexp : m + 1 + 1 - (ds.length + 1) = m + 1 - ds.length := by omega
      have hpow : (10 ^ ds.length * 10 ^ (m + 1 - ds.length) : Int) = 10 ^ (m + 1) := by
        rw [← pow_add]
        congr 1
        omega
      have hds : Nat.ofDigitChars 10 ds (c.toNat - '0'.toNat)
          = 10 ^ ds.length * (c.toNat - '0'.toNat) + Nat.ofDigitChars 10 ds 0 :=
        Nat.ofDigitChars_eq_ofDigitChars_zero
      rw [nsstrToNsLoop, pow_succ_tdiv, ih m _ (fun x hx => hd x (by simp [hx])) (by omega), hc,
        Nat.ofDigitChars_cons, Nat.mul_zero, Nat.zero_add, hds, List.length_cons, hexp, ← hpow]
      push_cast
      ring

theorem nsstrToNs_padDigits {n : Nat} (hn : n < 10 ^ 9) : nsstrToNs (padDigits 9 n) = n := by
  have hlen := length_padDigits (by decide : 0 < 9) hn
  have hloop := nsstrToNsLoop_pow (padDigits 9 n) 8 0 isDigit_of_mem_padDigits (by omega)
  rw [hlen, ofDigitChars_padDigits] at hloop
  rw [nsstrToNs]
  simpa using hloop

/-! ### Digits of any length -/

/-- The number `0.s`. -/
def fraction : List Char → ℚ
  | [] => 0
  | c :: s => (charToNum c + fraction s) / 10

namespace Checked

/-- The loop of `nsstr_to_ns` with a `long int` of `w` bits. -/
def nsstrToNsLoop (w : Nat) : List Char → Int → Int → Option Int
  | [], accum, _ => some accum
  | c :: ptr, accum, mul => do
    let term ← CInt.mul w (charToNum c) mul
    let accum ← CInt.add w accum term
    let mul ← CInt.div w mul 10
    nsstrToNsLoop w ptr accum mul

def nsstrToNs (w : Nat) (buf : List Char) : Option Int := nsstrToNsLoop w buf 0 100000000

end Checked

theorem charToNum_bounds {c : Char} (h : c.isDigit = true) : 0 ≤ charToNum c ∧ charToNum c ≤ 9 := by
  obtain ⟨hlo, hhi⟩ := Char.isDigit_iff_toNat.mp h
  have hnine : '9'.toNat = '0'.toNat + 9 := rfl
  rw [charToNum]
  omega

theorem fraction_bounds : ∀ {s : List Char}, (∀ c ∈ s, c.isDigit = true) →
    0 ≤ fraction s ∧ fraction s < 1 := by
  intro s
  induction s with
  | nil =>
    intro _
    rw [fraction]
    norm_num
  | cons c s ih =>
    intro h
    obtain ⟨hlo, hhi⟩ := charToNum_bounds (h c List.mem_cons_self)
    obtain ⟨h0, h1⟩ := ih (fun x hx => h x (List.mem_cons_of_mem c hx))
    have hlo' : (0 : ℚ) ≤ charToNum c := by exact_mod_cast hlo
    have hhi' : (charToNum c : ℚ) ≤ 9 := by exact_mod_cast hhi
    rw [fraction]
    constructor
    · linarith
    · linarith

theorem fraction_append_zeros (n : Nat) : ∀ s : List Char,
    fraction (s ++ List.replicate n '0') = fraction s := by
  intro s
  induction s with
  | nil =>
    induction n with
    | zero => rfl
    | succ n ih =>
      have hcons : fraction ('0' :: List.replicate n '0')
          = (charToNum '0' + fraction (List.replicate n '0')) / 10 := rfl
      have hzero : charToNum '0' = 0 := rfl
      rw [List.nil_append] at ih
      rw [List.nil_append, List.replicate_succ, hcons, ih, hzero, fraction]
      norm_num
  | cons c s ih => rw [List.cons_append, fraction, ih, fraction]

theorem nsstrToNsLoop_zero (accum : Int) : ∀ s : List Char, nsstrToNsLoop s accum 0 = accum := by
  intro s
  induction s with
  | nil => rfl
  | cons c s ih => rw [nsstrToNsLoop, Int.mul_zero, Int.add_zero, Int.zero_tdiv, ih]

/-- **The loop is the integer part of the fraction at its weight**: a digit that is read is worth as
much there, and the rest is a fraction at the next weight. -/
theorem nsstrToNsLoop_floor : ∀ (s : List Char) (m : Nat) (accum : Int),
    (∀ c ∈ s, c.isDigit = true) →
    nsstrToNsLoop s accum (10 ^ m) = accum + ⌊fraction s * 10 ^ (m + 1)⌋ := by
  intro s
  induction s with
  | nil =>
    intro m accum _
    rw [nsstrToNsLoop, fraction, zero_mul, Int.floor_zero, Int.add_zero]
  | cons c s ih =>
    intro m accum h
    have hs : ∀ x ∈ s, x.isDigit = true := fun x hx => h x (List.mem_cons_of_mem c hx)
    have hsplit : fraction (c :: s) * 10 ^ (m + 1)
        = ((charToNum c * 10 ^ m : Int) : ℚ) + fraction s * 10 ^ m := by
      rw [fraction, pow_succ]
      push_cast
      ring
    rw [nsstrToNsLoop, hsplit, Int.floor_intCast_add]
    cases m with
    | zero =>
      -- the last digit that counts: the rest is less than one
      obtain ⟨h0, h1⟩ := fraction_bounds hs
      have hrest : ⌊fraction s * 10 ^ 0⌋ = 0 := by
        rw [pow_zero, mul_one, Int.floor_eq_zero_iff]
        exact ⟨h0, h1⟩
      have hweight : (10 ^ 0 : Int).tdiv 10 = 0 := by decide
      rw [hrest, hweight, nsstrToNsLoop_zero, Int.add_zero]
    | succ m => rw [pow_succ_tdiv, ih m _ hs, Int.add_assoc]

theorem nsstrToNsLoop_take : ∀ (s : List Char) (m : Nat) (accum : Int),
    nsstrToNsLoop (s.take (m + 1)) accum (10 ^ m) = nsstrToNsLoop s accum (10 ^ m) := by
  intro s
  induction s with
  | nil =>
    intro m accum
    rw [List.take_nil]
  | cons c s ih =>
    intro m accum
    rw [List.take_succ_cons, nsstrToNsLoop, nsstrToNsLoop]
    cases m with
    | zero =>
      have hweight : (10 ^ 0 : Int).tdiv 10 = 0 := by decide
      rw [hweight, nsstrToNsLoop_zero, nsstrToNsLoop_zero]
    | succ m => rw [pow_succ_tdiv, ih m]

theorem Checked.nsstrToNsLoop_zero {w : Nat} {accum : Int} (hacc : CInt.Fits w accum) :
    ∀ s : List Char, Checked.nsstrToNsLoop w s accum 0 = some accum := by
  have hzero : CInt.Fits w 0 := by
    rw [CInt.Fits]
    have := pow_pos (by norm_num : (0 : Int) < 2) (w - 1)
    omega
  intro s
  induction s with
  | nil => rfl
  | cons c s ih =>
    have hmul : CInt.mul w (charToNum c) 0 = some 0 := by
      rw [CInt.mul, Int.mul_zero]
      exact if_pos hzero
    have hadd : CInt.add w accum 0 = some accum := by
      rw [CInt.add, Int.add_zero]
      exact if_pos hacc
    have hdiv : CInt.div w 0 10 = some 0 := by
      rw [CInt.div, if_neg (by decide), Int.zero_tdiv]
      exact if_pos hzero
    rw [Checked.nsstrToNsLoop, CInt.bind_of_eq_some hmul, CInt.bind_of_eq_some hadd,
      CInt.bind_of_eq_some hdiv, ih]

/-- **Nothing overflows**: what the digits that are left can add is less than ten times the weight, and
with that the sum stays below `10 ^ 9`. -/
theorem Checked.nsstrToNsLoop_eq {w : Nat} (hw : (10 ^ 9 : Int) ≤ 2 ^ (w - 1)) :
    ∀ (s : List Char) (m : Nat) (accum : Int), (∀ c ∈ s, c.isDigit = true) → 0 ≤ accum →
    accum + 10 ^ (m + 1) ≤ 10 ^ 9 →
    Checked.nsstrToNsLoop w s accum (10 ^ m) = some (Gpio.nsstrToNsLoop s accum (10 ^ m)) := by
  have hfits : ∀ x : Int, 0 ≤ x → x < 10 ^ 9 → CInt.Fits w x := by
    intro x h0 h1
    rw [CInt.Fits]
    omega
  intro s
  induction s with
  | nil => intro m accum _ _ _; rfl
  | cons c s ih =>
    intro m accum h h0 hle
    have hs : ∀ x ∈ s, x.isDigit = true := fun x hx => h x (List.mem_cons_of_mem c hx)
    obtain ⟨hlo, hhi⟩ := charToNum_bounds (h c List.mem_cons_self)
    have hpow : (0 : Int) < 10 ^ m := pow_pos (by norm_num) m
    have hterm : 0 ≤ charToNum c * 10 ^ m := mul_nonneg hlo hpow.le
    have hterm' : charToNum c * 10 ^ m ≤ 9 * 10 ^ m := mul_le_mul_of_nonneg_right hhi hpow.le
    rw [pow_succ] at hle
    have hmul := CInt.mul_of_fits (hfits (charToNum c * 10 ^ m) hterm (by omega))
    have hadd := CInt.add_of_fits (hfits (accum + charToNum c * 10 ^ m) (by omega) (by omega))
    rw [Checked.nsstrToNsLoop, CInt.bind_of_eq_some hmul, CInt.bind_of_eq_some hadd,
      Gpio.nsstrToNsLoop]
    cases m with
    | zero =>
      have hweight : CInt.div w (10 ^ 0) 10 = some 0 := by
        rw [CInt.div, if_neg (by decide), CInt.signed]
        exact if_pos (hfits 0 (by omega) (by omega))
      have hweight' : (10 ^ 0 : Int).tdiv 10 = 0 := by decide
      rw [CInt.bind_of_eq_some hweight, hweight', Gpio.nsstrToNsLoop_zero]
      exact Checked.nsstrToNsLoop_zero (hfits _ (by omega) (by omega)) s
    | succ m =>
      have hweight : CInt.div w (10 ^ (m + 1)) 10 = some (10 ^ m) := by
        have hpos : (0 : Int) < 10 ^ m := pow_pos (by norm_num) m
        have hfit : CInt.Fits w ((10 ^ (m + 1) : Int).tdiv 10) := by
          rw [pow_succ_tdiv]
          rw [pow_succ] at hle
          exact hfits _ hpos.le (by omega)
        rw [CInt.div_of_fits hfit (by decide), pow_succ_tdiv]
      rw [CInt.bind_of_eq_some hweight, pow_succ_tdiv]
      exact ih m _ hs (by omega) (by omega)

/-- **`nsstr_to_ns` reads a decimal fraction**: the nanoseconds of `0.s`, cut after the ninth digit,
with nothing that overflows a `long int`. -/
theorem nsstrToNs_floor (w : Nat) (hw : 32 ≤ w) (s : List Char) (h : ∀ c ∈ s, c.isDigit = true) :
    nsstrToNs s = ⌊fraction s * 10 ^ 9⌋ ∧ (0 ≤ nsstrToNs s ∧ nsstrToNs s < 10 ^ 9) ∧
      Checked.nsstrToNs w s = some (nsstrToNs s) ∧
      (∀ n, nsstrToNs (s ++ List.replicate n '0') = nsstrToNs s) ∧
      nsstrToNs (s.take 9) = nsstrToNs s := by
  have hfloor : ∀ t : List Char, (∀ c ∈ t, c.isDigit = true) →
      nsstrToNs t = ⌊fraction t * 10 ^ 9⌋ := by
    intro t ht
    have hloop := nsstrToNsLoop_floor t 8 0 ht
    rwa [Int.zero_add] at hloop
  obtain ⟨h0, h1⟩ := fraction_bounds h
  refine ⟨hfloor s h, ⟨?_, ?_⟩, ?_, fun n => ?_, nsstrToNsLoop_take s 8 0⟩
  · rw [hfloor s h, Int.floor_nonneg]
    linarith
  · rw [hfloor s h, Int.floor_lt]
    push_cast
    linarith
  · have hpow : (2 : Int) ^ 31 ≤ 2 ^ (w - 1) := pow_le_pow_right₀ (by norm_num) (by omega)
    exact Checked.nsstrToNsLoop_eq (le_trans (by norm_num) hpow) s 8 0 h le_rfl (by norm_num)
  · have hzeros : ∀ c ∈ s ++ List.replicate n '0', c.isDigit = true := by
      intro c hc
      rcases List.mem_append.mp hc with hc | hc
      · exact h c hc
      · rw [List.eq_of_mem_replicate hc]
        decide
    rw [hfloor _ hzeros, hfloor s h, fraction_append_zeros]

/-- Eleven digits, of which nine count. -/
theorem nsstrToNs_floor_eleven :
    Checked.nsstrToNs 64 "12345678987".toList = some 123456789 ∧
      nsstrToNs "12345678987".toList = ⌊fraction "12345678987".toList * 10 ^ 9⌋ :=
  have h := nsstrToNs_floor 64 (by decide) "12345678987".toList (List.all_eq_true.mp rfl)
  ⟨h.2.2.1, h.1⟩

/-! ### One field of the line -/

theorem timespecText_natCast (n : Nat) :
    timespecText (chronoToTimespec (n : Int))
      = Nat.toDigits 10 (n / 1000000000) ++ '.' :: padDigits 9 (n % 1000000000) := by
  rw [chronoToTimespec_natCast, timespecText, printInt_natCast, printIntPad_natCast]

/-- **A printed duration is scanned as its seconds and its nine digits**, and
the scan goes on right behind it. -/
theorem sscanf_timespecText {n : Nat} (hn : n < 9223372036 * 10 ^ 9)
    (fmt : List (Directive Field)) (rest : List Char) :
    sscanf (secDirective :: .lit '.' :: nsecDirective :: fmt)
        (timespecText (chronoToTimespec (n : Int)) ++ rest)
      = .sec ((n / 1000000000 : Nat) : Int) :: .nsecStr (padDigits 9 (n % 1000000000))
          :: sscanf fmt rest := by
  have hmod : n % 1000000000 < 10 ^ 9 := by omega
  have hlen := length_padDigits (by decide : 0 < 9) hmod
  have hsec : ∀ r, readSigned 64 (Nat.toDigits 10 (n / 1000000000) ++ '.' :: r)
      = some (((n / 1000000000 : Nat) : Int), '.' :: r) := by
    intro r
    exact readSigned_toDigits (by omega) (headNot_cons (by decide) r)
  have hnsec : readSet 9 Char.isDigit (padDigits 9 (n % 1000000000) ++ rest)
      = some (padDigits 9 (n % 1000000000), rest) :=
    readSet_append isDigit_of_mem_padDigits (padDigits_ne_nil _ _) (by omega) (Or.inl hlen)
  rw [timespecText_natCast, List.append_assoc, List.cons_append, secDirective, nsecDirective,
    sscanf_conv (by rw [hsec]; rfl), sscanf_lit_cons, sscanf_conv (by rw [hnsec]; rfl)]

/-! ### The whole line -/

/-- A duration that `ktime_set` holds exactly: non-negative and below
`KTIME_SEC_MAX` seconds. -/
def Settable (d : Int) : Prop := 0 ≤ d ∧ d < ktimeSecMax * nsecPerSec

theorem Settable.exists_nat {d : Int} (h : Settable d) :
    ∃ n : Nat, d = n ∧ n < 9223372036 * 10 ^ 9 := by
  obtain ⟨h0, h1⟩ := h
  simp only [ktimeSecMax, nsecPerSec] at h1
  exact ⟨d.toNat, by omega, by omega⟩

theorem ktimeSet_split {n : Nat} (hn : n < 9223372036 * 10 ^ 9) :
    ktimeSet ((n / 1000000000 : Nat) : Int) (nsstrToNs (padDigits 9 (n % 1000000000))) = n := by
  have hmod : n % 1000000000 < 10 ^ 9 := by omega
  rw [nsstrToNs_padDigits hmod, ktimeSet_of_lt (by omega) (by simp only [ktimeSecMax]; omega)
    (by omega) (by simp only [nsecPerSec]; omega), nsecPerSec]
  omega

theorem sscanf_configureText {a b c : Nat} (ha : a < 9223372036 * 10 ^ 9)
    (hb : b < 9223372036 * 10 ^ 9) (hc : c < 9223372036 * 10 ^ 9) :
    sscanf timerSettingsFormat (configureText a b c)
      = [.sec ((a / 1000000000 : Nat) : Int), .nsecStr (padDigits 9 (a % 1000000000)),
         .sec ((b / 1000000000 : Nat) : Int), .nsecStr (padDigits 9 (b % 1000000000)),
         .sec ((c / 1000000000 : Nat) : Int), .nsecStr (padDigits 9 (c % 1000000000))] := by
  rw [timerSettingsFormat, configureText, sscanf_timespecText ha, sscanf_lit_cons,
    sscanf_timespecText hb, sscanf_lit_cons, sscanf_timespecText hc, sscanf_nil]

theorem parseTimerSettings_configureText {t0 period width : Int} (h0 : Settable t0)
    (hp : Settable period) (hw : Settable width) :
    parseTimerSettings (configureText t0 period width) = some (t0, period, width) := by
  obtain ⟨a, rfl, ha⟩ := h0.exists_nat
  obtain ⟨b, rfl, hb⟩ := hp.exists_nat
  obtain ⟨c, rfl, hc⟩ := hw.exists_nat
  rw [parseTimerSettings, sscanf_configureText ha hb hc]
  simp only
  rw [ktimeSet_split ha, ktimeSet_split hb, ktimeSet_split hc]

/-- **`configure` reports success whatever the handler did**: both ways out of
the handler return the number of bytes written, and the line is not empty. -/
theorem configure_ret (t0 period width : Int) (s : GpioState) :
    (configure t0 period width s).2 = true := by
  have hlen : 0 < (configureText t0 period width).length := by
    simp only [configureText, List.length_append, List.length_cons]
    omega
  rw [configure, opaleyeTimerSettingsAttrStore]
  cases parseTimerSettings (configureText t0 period width) with
  | none => exact decide_eq_true hlen
  | some v => exact decide_eq_true hlen

theorem configure_settable {t0 period width : Int} {s : GpioState} (h0 : Settable t0)
    (hp : Settable period) (hw : Settable width) (hoff : s.enabled = false) :
    configure t0 period width s
      = ({ s with t0 := t0, period := period, width := width }, true) := by
  refine Prod.ext ?_ (configure_ret t0 period width s)
  rw [configure, opaleyeTimerSettingsAttrStore, parseTimerSettings_configureText h0 hp hw]
  simp only [storeSettings, hoff, Bool.false_eq_true, if_false]

/-- **Trigger settings cross the boundary exactly.**  With the trigger off, the
line `configure` writes gives all six conversions, and the three times the
kernel stores are the three durations; nothing else changes, and `configure`
reports success. -/
theorem configure_exact (t0 period width : Int) (s : GpioState) (h0 : Settable t0)
    (hp : Settable period) (hw : Settable width) (hoff : s.enabled = false) :
    (sscanf timerSettingsFormat (configureText t0 period width)).length = 6 ∧
      configure t0 period width s
        = ({ s with t0 := t0, period := period, width := width }, true) := by
  constructor
  · obtain ⟨a, rfl, ha⟩ := h0.exists_nat
    obtain ⟨b, rfl, hb⟩ := hp.exists_nat
    obtain ⟨c, rfl, hc⟩ := hw.exists_nat
    rw [sscanf_configureText ha hb hc]
    rfl
  · exact configure_settable h0 hp hw hoff

/-- A start at 1.5 s, one pulse of 100 ms in every second. -/
theorem configure_exact_loaded :
    configureText 1500000000 1000000000 100000000
        = "1.500000000,1.000000000,0.100000000\n".toList ∧
      configure 1500000000 1000000000 100000000 opaleyeGpioInit
        = ({ opaleyeGpioInit with t0 := 1500000000, period := 1000000000, width := 100000000 },
          true) :=
  ⟨by decide, (configure_exact 1500000000 1000000000 100000000 opaleyeGpioInit
    ⟨by decide, by decide⟩ ⟨by decide, by decide⟩ ⟨by decide, by decide⟩ rfl).2⟩

/-! ### Switching on and off -/

theorem opaleyeEnableAttrStore_settings (now : Int) (buf : List Char) (s : GpioState) :
    (opaleyeEnableAttrStore now buf s).1.t0 = s.t0 ∧
      (opaleyeEnableAttrStore now buf s).1.period = s.period ∧
      (opaleyeEnableAttrStore now buf s).1.width = s.width := by
  rw [opaleyeEnableAttrStore]
  cases parseEnable buf with
  | none => exact ⟨rfl, rfl, rfl⟩
  | some val =>
    simp only [switchEdge]
    split <;> exact ⟨rfl, rfl, rfl⟩

theorem setEnable_settings (now : Int) (en : Bool) (s : GpioState) :
    (setEnable now en s).1.t0 = s.t0 ∧ (setEnable now en s).1.period = s.period ∧
      (setEnable now en s).1.width = s.width := by
  cases en with
  | false => exact opaleyeEnableAttrStore_settings now _ s
  | true => exact opaleyeEnableAttrStore_settings now _ s

theorem disable_enabled (now : Int) (s : GpioState) : (disable now s).1.enabled = false := by
  have hparse : parseEnable "0\n".toList = some 0 := by decide
  rw [disable, opaleyeEnableAttrStore, hparse]
  rfl

/-! ### Refused lines -/

/-- The store handler does not take the line: fewer than six conversions, or
the trigger is enabled. -/
def Refused (buf : List Char) (s : GpioState) : Prop :=
  (sscanf timerSettingsFormat buf).length < 6 ∨ s.enabled = true

/-- The nanoseconds of the duration are printed without a sign: it is not
negative, or it is a whole number of seconds. -/
def Unsigned (d : Int) : Prop := 0 ≤ d ∨ 1000000000 ∣ d

theorem length_sscanf_of_unsigned {d : Int} (h : Unsigned d) (fmt : List (Directive Field))
    (rest : List Char) :
    (sscanf (secDirective :: .lit '.' :: nsecDirective :: fmt)
      (timespecText (chronoToTimespec d) ++ rest)).length = (sscanf fmt rest).length + 2 := by
  have h0 := chronoToTimespec_nsec_nonneg h
  have h1 := chronoToTimespec_nsec_lt d
  obtain ⟨n, hn⟩ := Int.eq_ofNat_of_zero_le h0
  have hlen := length_padDigits (by decide : 0 < 9) (by omega : n < 10 ^ 9)
  have hnsec : readSet 9 Char.isDigit (padDigits 9 n ++ rest) = some (padDigits 9 n, rest) :=
    readSet_append isDigit_of_mem_padDigits (padDigits_ne_nil _ _) (by omega) (Or.inl hlen)
  have hsec := readSigned_printInt 64 (chronoToTimespec d).tvSec
    (headNot_cons (by decide : Char.isDigit '.' = false) (padDigits 9 n ++ rest))
  rw [timespecText, hn, printIntPad_natCast, List.append_assoc, List.cons_append, secDirective,
    nsecDirective, sscanf_conv (by rw [hsec]; rfl), sscanf_lit_cons,
    sscanf_conv (by rw [hnsec]; rfl), List.length_cons, List.length_cons]

/-- **A sign inside the fraction stops the scan**: only the seconds are
converted. -/
theorem length_sscanf_of_not_unsigned {d : Int} (h : ¬ Unsigned d)
    (fmt : List (Directive Field)) (rest : List Char) :
    (sscanf (secDirective :: .lit '.' :: nsecDirective :: fmt)
      (timespecText (chronoToTimespec d) ++ rest)).length = 1 := by
  obtain ⟨hneg, hdvd⟩ := not_or.mp h
  have hn := chronoToTimespec_nsec_neg (not_le.mp hneg) hdvd
  have hsec := fun r => readSigned_printInt 64 (chronoToTimespec d).tvSec
    (headNot_cons (by decide : Char.isDigit '.' = false) r)
  rw [timespecText, printIntPad, if_pos hn, List.append_assoc, List.cons_append, List.cons_append,
    secDirective, nsecDirective, sscanf_conv (by rw [hsec]; rfl), sscanf_lit_cons, sscanf,
    readSet_eq_none (by decide)]
  rfl

theorem length_sscanf_configureText (t0 period width : Int) :
    (sscanf timerSettingsFormat (configureText t0 period width)).length = 6 ↔
      Unsigned t0 ∧ Unsigned period ∧ Unsigned width := by
  rw [timerSettingsFormat, configureText]
  by_cases h0 : Unsigned t0
  · rw [length_sscanf_of_unsigned h0, sscanf_lit_cons]
    by_cases hp : Unsigned period
    · rw [length_sscanf_of_unsigned hp, sscanf_lit_cons]
      by_cases hw : Unsigned width
      · rw [length_sscanf_of_unsigned hw, sscanf_nil]
        simp [h0, hp, hw]
      · rw [length_sscanf_of_not_unsigned hw]
        simp [hw]
    · rw [length_sscanf_of_not_unsigned hp]
      simp [hp]
  · rw [length_sscanf_of_not_unsigned h0]
    simp [h0]

theorem refused_configureText (t0 period width : Int) (s : GpioState) :
    Refused (configureText t0 period width) s ↔
      ¬ (Unsigned t0 ∧ Unsigned period ∧ Unsigned width ∧ s.enabled = false) := by
  have hlt : (sscanf timerSettingsFormat (configureText t0 period width)).length < 6 ↔
      ¬ (Unsigned t0 ∧ Unsigned period ∧ Unsigned width) := by
    rw [← length_sscanf_configureText]
    have h6 : (sscanf timerSettingsFormat (configureText t0 period width)).length ≤ 6 :=
      length_sscanf_le timerSettingsFormat (configureText t0 period width)
    omega
  rw [Refused, hlt]
  cases s.enabled <;> simp

/-- **A refused configuration is never reported.**  A refusal would have to
come back as `false`; this is so exactly when there is nothing to refuse: the
trigger is off and no duration is a negative one with a fraction of a
second. -/
theorem refusal_reported_iff (t0 period width : Int) (s : GpioState) :
    (Refused (configureText t0 period width) s → (configure t0 period width s).2 = false) ↔
      Unsigned t0 ∧ Unsigned period ∧ Unsigned width ∧ s.enabled = false := by
  rw [configure_ret, refused_configureText]
  simp

/-- The default settings written again while the trigger runs. -/
theorem refusal_unreported :
    ¬ ∀ (s : GpioState) (t0 period width : Int), IsKtime t0 → IsKtime period → IsKtime width →
      Refused (configureText t0 period width) s → (configure t0 period width s).2 = false := by
  intro h
  have hs : ((opaleyeEnableAttrStore 0 "1\n".toList opaleyeGpioInit).1).enabled = true := by decide
  have hc := h (opaleyeEnableAttrStore 0 "1\n".toList opaleyeGpioInit).1 0 1000000000 100000000
    ⟨by decide, by decide⟩ ⟨by decide, by decide⟩ ⟨by decide, by decide⟩ (Or.inr hs)
  rw [configure_ret] at hc
  exact absurd hc (by decide)

end Opaleye.Gpio
