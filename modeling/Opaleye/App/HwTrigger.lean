import Opaleye.App.Config
import Opaleye.Gpio.ModCtrl

/-!
# From the configuration to the kernel's trigger

The `hw_trigger` block of `Opaleye_app::init` reads three counts of
microseconds from the configuration and hands them to the kernel.  They pass
three representations: the text of the configuration becomes an `int`, the
`int` a duration in nanoseconds, and the duration a text again, which the
kernel scans.

The last two are exact (`configure_settable`).  The first is not.  A count that
is no `int` does not convert, and `get<int>` then returns the default, without
a sign of it.  So a count arrives exactly when it is below `2 ^ 31`
(`hwTrigger_iff`); a start time given as microseconds since the epoch is not
(`hwTrigger_epoch`).
-/

namespace Opaleye.App

open Text Opaleye.Gpio

/-- What the block finds around it: whether the module is there and its files
can be opened, the time at its two writes to `enable`, and how boost reads a
`bool`. -/
structure HwEnv where
  isLoaded : Bool
  opens : Bool
  now : Int
  later : Int
  toBool : List Char → Option Bool

/-- `get<bool>(path, default)` -/
def getBoolD (toBool : List Char → Option Bool) (t : Tree) (p : List (List Char))
    (defaultValue : Bool) : Bool :=
  ((t.getChild p).bind (fun c => toBool c.data)).getD defaultValue

/-- `std::chrono::microseconds`, as nanoseconds. -/
def microseconds (n : Int) : Int := n * 1000

/-- The `hw_trigger` block of `Opaleye_app::init`: the kernel's state after it,
and whether `init` goes on. -/
def initHwTrigger (env : HwEnv) (config : AppConfig) (s : GpioState) : GpioState × Bool :=
  if hasChild config.mTree (path "config.hw_trigger") then
    if env.isLoaded = false then (s, false)
    else if env.opens = false then (s, false)
    else
      let off := disable env.now s
      if off.2 = false then off
      else
        let t0 := microseconds (getIntD config.mTree (path "config.hw_trigger.t0") 0)
        let period := microseconds (getIntD config.mTree (path "config.hw_trigger.period") 1000000)
        let width := microseconds (getIntD config.mTree (path "config.hw_trigger.width") 50000)
        let set := configure t0 period width off.1
        if set.2 = false then set
        else setEnable env.later
          (getBoolD env.toBool config.mTree (path "config.hw_trigger.enable") false) set.1
  else (s, true)

/-- The tree has the decimal count `n` at the path, and `n` microseconds are
below the kernel's limit. -/
def Count (t : Tree) (p : List (List Char)) (n : Nat) : Prop :=
  ∃ ds, getString t p = some ds ∧ (∀ c ∈ ds, c.isDigit = true) ∧ ds ≠ [] ∧
    Nat.ofDigitChars 10 ds 0 = n ∧ n * 1000 < 9223372036 * 10 ^ 9

/-- **A count that is no `int` is replaced by the default.** -/
theorem getIntD_of_count {t : Tree} {p : List (List Char)} {n : Nat} (h : Count t p n) (d : Int) :
    getIntD t p d = if n < 2 ^ 31 then (n : Int) else d := by
  obtain ⟨ds, hds, hdigit, hne, rfl, -⟩ := h
  obtain ⟨c, hc, rfl⟩ := Option.map_eq_some_iff.mp hds
  rw [getIntD, getInt, hc, Option.bind_some, streamInt_digits hdigit hne]
  split <;> rfl

theorem hasChild_of_count {t : Tree} {p q : List (List Char)} {n : Nat} (h : Count t (p ++ q) n) :
    hasChild t p = true := by
  obtain ⟨ds, hds, -⟩ := h
  obtain ⟨c, hc, -⟩ := Option.map_eq_some_iff.mp hds
  exact Ptree.getChild_of_append hc

theorem initHwTrigger_eq {env : HwEnv} {config : AppConfig} {s : GpioState}
    (hchild : hasChild config.mTree (path "config.hw_trigger") = true)
    (hpast : (initHwTrigger env config s).2 = true) :
    (initHwTrigger env config s).1 = (setEnable env.later
      (getBoolD env.toBool config.mTree (path "config.hw_trigger.enable") false) (configure
        (microseconds (getIntD config.mTree (path "config.hw_trigger.t0") 0))
        (microseconds (getIntD config.mTree (path "config.hw_trigger.period") 1000000))
        (microseconds (getIntD config.mTree (path "config.hw_trigger.width") 50000))
        (disable env.now s).1).1).1 := by
  rw [initHwTrigger, if_pos hchild] at hpast ⊢
  by_cases hl : env.isLoaded = false
  · rw [if_pos hl] at hpast
    cases hpast
  · rw [if_neg hl] at hpast ⊢
    by_cases ho : env.opens = false
    · rw [if_pos ho] at hpast
      cases hpast
    · rw [if_neg ho] at hpast ⊢
      by_cases hd : (disable env.now s).2 = false
      · simp only [hd, if_true] at hpast
        exact absurd hpast (by decide)
      · simp only [if_neg hd, configure_ret, Bool.true_eq_false, if_false]

theorem initHwTrigger_past {env : HwEnv} {config : AppConfig} {s : GpioState}
    (hchild : hasChild config.mTree (path "config.hw_trigger") = true)
    (hpast : (initHwTrigger env config s).2 = true) :
    ∃ off en, off.enabled = false ∧ (initHwTrigger env config s).1
      = (setEnable env.later en (configure
          (microseconds (getIntD config.mTree (path "config.hw_trigger.t0") 0))
          (microseconds (getIntD config.mTree (path "config.hw_trigger.period") 1000000))
          (microseconds (getIntD config.mTree (path "config.hw_trigger.width") 50000)) off).1).1 :=
  ⟨_, _, disable_enabled env.now s, initHwTrigger_eq hchild hpast⟩

theorem settable_microseconds {n : Int} (h0 : 0 ≤ n) (h : n < 2 ^ 31) :
    Settable (microseconds n) := by
  rw [microseconds]
  refine ⟨by omega, ?_⟩
  simp only [ktimeSecMax, nsecPerSec]
  omega

/-- **Which counts reach the kernel.**  Whatever the kernel's state before, when
`init` gets past the block with decimal counts for the start, the period and
the width, the kernel has those three times if and only if all three counts
fit an `int`. -/
theorem hwTrigger_iff (env : HwEnv) (config : AppConfig) (s : GpioState) (t0 period width : Nat)
    (h0 : Count config.mTree (path "config.hw_trigger.t0") t0)
    (hp : Count config.mTree (path "config.hw_trigger.period") period)
    (hw : Count config.mTree (path "config.hw_trigger.width") width)
    (hpast : (initHwTrigger env config s).2 = true) :
    ((initHwTrigger env config s).1.t0 = microseconds t0 ∧
      (initHwTrigger env config s).1.period = microseconds period ∧
      (initHwTrigger env config s).1.width = microseconds width) ↔
    t0 < 2 ^ 31 ∧ period < 2 ^ 31 ∧ width < 2 ^ 31 := by
  have hpath : path "config.hw_trigger.t0" = path "config.hw_trigger" ++ ["t0".toList] := by decide
  have hchild := hasChild_of_count (hpath ▸ h0)
  obtain ⟨off, en, hoff, heq⟩ := initHwTrigger_past hchild hpast
  obtain ⟨ht0, hperiod, hwidth⟩ := setEnable_settings env.later en (configure
    (microseconds (getIntD config.mTree (path "config.hw_trigger.t0") 0))
    (microseconds (getIntD config.mTree (path "config.hw_trigger.period") 1000000))
    (microseconds (getIntD config.mTree (path "config.hw_trigger.width") 50000)) off).1
  rw [heq, ht0, hperiod, hwidth, getIntD_of_count h0, getIntD_of_count hp, getIntD_of_count hw]
  -- whichever value is used, it is one the kernel holds
  have hrange : ∀ (n : Nat) (d : Int), 0 ≤ d → d < 2 ^ 31 →
      Settable (microseconds (if n < 2 ^ 31 then (n : Int) else d)) := by
    intro n d hd0 hd
    split
    · exact settable_microseconds (by omega) (by omega)
    · exact settable_microseconds hd0 hd
  rw [configure_settable (hrange t0 0 (by decide) (by decide))
    (hrange period 1000000 (by decide) (by decide)) (hrange width 50000 (by decide) (by decide)) hoff]
  have hsame : ∀ (n : Nat) (d : Int), d < 2 ^ 31 →
      (microseconds (if n < 2 ^ 31 then (n : Int) else d) = microseconds n ↔ n < 2 ^ 31) := by
    intro n d hd
    simp only [microseconds]
    split
    · next h => exact ⟨fun _ => h, fun _ => rfl⟩
    · next h => exact ⟨fun he => absurd he (by omega), fun hn => absurd hn h⟩
  exact and_congr (hsame t0 0 (by decide)) (and_congr (hsame period 1000000 (by decide))
    (hsame width 50000 (by decide)))

/-- A key with a text and nothing below. -/
def leaf (k d : String) : List Char × Tree := (k.toList, .node d.toList [])

/-- A configuration without cameras that starts its trigger at `t0`, every
second, for 50 ms. -/
def triggerTree (t0 : String) : Tree :=
  .node [] [("config".toList, .node []
    [leaf "video_path" "/mnt/video", leaf "image_path" "/mnt/image", leaf "log_path" "/mnt/log",
     leaf "h264_mode" "nv",
     ("sensors".toList, .node [] [leaf "launch" "false"]),
     ("zeromq".toList, .node [] [leaf "launch" "false"]),
     ("zcm".toList, .node [] [leaf "launch" "false"]),
     ("hw_trigger".toList, .node []
       [leaf "t0" t0, leaf "period" "1000000", leaf "width" "50000"]),
     ("cameras".toList, .node [] [])])]

def triggerEnv : HwEnv := ⟨true, true, 0, 0, fun _ => none⟩

theorem count_of_text {t : Tree} {p : List (List Char)} (s : String)
    (h : getString t p = some s.toList) (hdigit : s.toList.all Char.isDigit = true)
    (hne : s.toList ≠ []) (hlt : Nat.ofDigitChars 10 s.toList 0 * 1000 < 9223372036 * 10 ^ 9) :
    Count t p (Nat.ofDigitChars 10 s.toList 0) :=
  ⟨s.toList, h, List.all_eq_true.mp hdigit, hne, rfl, hlt⟩

theorem triggerTree_accepted (t0 : String) :
    (AppConfig.deserialize (triggerTree t0)).isSome = true := rfl

theorem count_triggerTree_period (t0 : String) :
    Count (triggerTree t0) (path "config.hw_trigger.period") 1000000 :=
  count_of_text "1000000" rfl (by decide) (by decide) (by decide)

theorem count_triggerTree_width (t0 : String) :
    Count (triggerTree t0) (path "config.hw_trigger.width") 50000 :=
  count_of_text "50000" rfl (by decide) (by decide) (by decide)

/-- A start at 1.5 s reaches the kernel. -/
theorem hwTrigger_iff_started : ∃ config, AppConfig.deserialize (triggerTree "1500000") = some config ∧
    (initHwTrigger triggerEnv config opaleyeGpioInit).1.t0 = 1500000000 := by
  obtain ⟨config, hc⟩ := Option.isSome_iff_exists.mp (triggerTree_accepted "1500000")
  have hm := AppConfig.deserialize_mTree hc
  have h0 : Count (triggerTree "1500000") (path "config.hw_trigger.t0") 1500000 :=
    count_of_text "1500000" (by decide) (by decide) (by decide) (by decide)
  have hp := count_triggerTree_period "1500000"
  have hw := count_triggerTree_width "1500000"
  rw [← hm] at h0 hp hw
  have hpast : (initHwTrigger triggerEnv config opaleyeGpioInit).2 = true := by
    rw [initHwTrigger, hm]
    decide
  exact ⟨config, hc, ((hwTrigger_iff triggerEnv config opaleyeGpioInit 1500000 1000000 50000
    h0 hp hw hpast).mpr (by decide)).1⟩

/-- **A start given as microseconds since the epoch is lost**: the kernel gets
`t0 = 0` for it, which means the next whole second. -/
theorem hwTrigger_epoch : ¬ ∀ (tree : Tree) (config : AppConfig) (env : HwEnv) (s : GpioState)
    (t0 period width : Nat), AppConfig.deserialize tree = some config →
    Count tree (path "config.hw_trigger.t0") t0 →
    Count tree (path "config.hw_trigger.period") period →
    Count tree (path "config.hw_trigger.width") width → s.enabled = false →
    (initHwTrigger env config s).2 = true →
    (initHwTrigger env config s).1.t0 = microseconds t0 ∧
      (initHwTrigger env config s).1.period = microseconds period ∧
      (initHwTrigger env config s).1.width = microseconds width := by
  intro h
  obtain ⟨config, hc⟩ := Option.isSome_iff_exists.mp (triggerTree_accepted "1700000000000000")
  have hm := AppConfig.deserialize_mTree hc
  have h0 : Count (triggerTree "1700000000000000") (path "config.hw_trigger.t0") 1700000000000000 :=
    count_of_text "1700000000000000" (by decide) (by decide) (by decide) (by decide)
  have hp := count_triggerTree_period "1700000000000000"
  have hw := count_triggerTree_width "1700000000000000"
  have hpast : (initHwTrigger triggerEnv config opaleyeGpioInit).2 = true := by
    rw [initHwTrigger, hm]
    decide
  have ht0 : (initHwTrigger triggerEnv config opaleyeGpioInit).1.t0 = 0 := by
    rw [initHwTrigger, hm]
    decide
  have hkernel := h (triggerTree "1700000000000000") config triggerEnv opaleyeGpioInit
    1700000000000000 1000000 50000 hc h0 hp hw rfl hpast
  rw [ht0] at hkernel
  exact absurd hkernel.1 (by decide)

end Opaleye.App
