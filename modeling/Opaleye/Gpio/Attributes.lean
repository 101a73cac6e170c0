import Opaleye.Gpio.Interlock
import Opaleye.Gpio.ModCtrl
import Opaleye.Lib.History

/-!
# Reading the module's files

`opaleye_timer_settings_attr_show` prints the three times of the state block.  It converts a
`ktime_t` with `ktime_to_timespec`, which rounds the seconds down, so the nanoseconds it prints are
never negative: where the store handler adds the nanoseconds to negative seconds, the show handler
takes them off again.

The first half is about the text.  It shows the times exactly (`showTimerSettings_injective`), and
the numbers it shows, written back on one line, are the settings again unless a time lies in the last
second before `KTIME_MAX` (`shown_stored_iff`).

The second half is about readers and writers at once.  The store handler assigns the three times one
after another, the show handler converts them one after another, and both hold
`g_gpio_state_mutex` meanwhile.  `shown_whole` says that a reader is shown the settings of one write,
and of one that was in force while it read.
-/

namespace Opaleye.Gpio

open Text Opaleye.Util LockedThreads History

/-! ### The text -/

/-- `ktime_to_timespec` -/
def ktimeToTimespec (kt : Int) : Timespec := ⟨kt / nsecPerSec, kt % nsecPerSec⟩

/-- `opaleye_enable_attr_show` -/
def opaleyeEnableAttrShow (s : GpioState) : List Char :=
  "enabled: ".toList ++ printInt (if s.enabled then 1 else 0) ++ ['\n']

/-- The times of the state block. -/
def GpioState.settings (s : GpioState) : Int × Int × Int := (s.t0, s.period, s.width)

/-- The `sprintf` of `opaleye_timer_settings_attr_show`. -/
def settingsText (v : Int × Int × Int) : List Char :=
  "t0: ".toList ++ (timespecText (ktimeToTimespec v.1) ++ ("\nperiod: ".toList ++
    (timespecText (ktimeToTimespec v.2.1) ++ ("\nwidth: ".toList ++
      (timespecText (ktimeToTimespec v.2.2) ++ ['\n'])))))

/-- `opaleye_timer_settings_attr_show`, with nobody writing meanwhile. -/
def opaleyeTimerSettingsAttrShow (s : GpioState) : List Char := settingsText s.settings

/-- The numbers it shows, on one line as the store handler wants them. -/
def settingsLine (v : Int × Int × Int) : List Char :=
  timespecText (ktimeToTimespec v.1) ++ ',' :: (timespecText (ktimeToTimespec v.2.1) ++
    ',' :: (timespecText (ktimeToTimespec v.2.2) ++ ['\n']))

theorem timespecText_ktime (kt : Int) :
    timespecText (ktimeToTimespec kt) =
      printInt (kt / nsecPerSec) ++ '.' :: padDigits 9 (kt % nsecPerSec).toNat := by
  have hn : kt % nsecPerSec = ((kt % nsecPerSec).toNat : Int) := by
    rw [nsecPerSec]
    omega
  rw [timespecText, ktimeToTimespec]
  show printInt (kt / nsecPerSec) ++ '.' :: printIntPad 9 (kt % nsecPerSec) = _
  rw [hn, printIntPad_natCast, Int.toNat_natCast]

theorem ktime_sec_bounds {kt : Int} (h : IsKtime kt) :
    -ktimeSecMax - 1 ≤ kt / nsecPerSec ∧ kt / nsecPerSec ≤ ktimeSecMax := by
  obtain ⟨hlo, hhi⟩ := h
  rw [ktimeMax] at hlo hhi
  rw [ktimeSecMax, nsecPerSec]
  omega

/-- **A shown time is scanned as its seconds and its nine digits.** -/
theorem sscanf_ktimeText {kt : Int} (h : IsKtime kt) (fmt : List (Directive Field))
    (rest : List Char) :
    sscanf (secDirective :: .lit '.' :: nsecDirective :: fmt)
        (timespecText (ktimeToTimespec kt) ++ rest) =
      .sec (kt / nsecPerSec) :: .nsecStr (padDigits 9 (kt % nsecPerSec).toNat) ::
        sscanf fmt rest := by
  obtain ⟨hlo, hhi⟩ := ktime_sec_bounds h
  have hns : (kt % nsecPerSec).toNat < 10 ^ 9 := by
    rw [nsecPerSec]
    omega
  have hlen := length_padDigits (by decide : 0 < 9) hns
  have hfit : Int.bmod (kt / nsecPerSec) (2 ^ 64) = kt / nsecPerSec := by
    rw [ktimeSecMax] at hlo hhi
    exact Int.bmod_eq_of_le_mul_two (by omega) (by omega)
  have hsec : ∀ r, readSigned 64 (printInt (kt / nsecPerSec) ++ '.' :: r) =
      some (kt / nsecPerSec, '.' :: r) := by
    intro r
    rw [readSigned_printInt 64 _ (headNot_cons (by decide) r), hfit]
  have hnsec : readSet 9 Char.isDigit (padDigits 9 (kt % nsecPerSec).toNat ++ rest) =
      some (padDigits 9 (kt % nsecPerSec).toNat, rest) :=
    readSet_append isDigit_of_mem_padDigits (padDigits_ne_nil _ _) (by omega) (Or.inl hlen)
  rw [timespecText_ktime, List.append_assoc, List.cons_append, secDirective, nsecDirective,
    sscanf_conv (by rw [hsec]; rfl), sscanf_lit_cons, sscanf_conv (by rw [hnsec]; rfl)]

/-- The times of a state block fit in a `ktime_t`. -/
def IsKtimes (v : Int × Int × Int) : Prop := IsKtime v.1 ∧ IsKtime v.2.1 ∧ IsKtime v.2.2

/-- Two times of one second are equal when their nine digits are. -/
theorem ktime_eq_of_shown {kt kt' : Int} (hsec : kt / nsecPerSec = kt' / nsecPerSec)
    (hnsec : padDigits 9 (kt % nsecPerSec).toNat = padDigits 9 (kt' % nsecPerSec).toNat) :
    kt = kt' := by
  have hmod := padDigits_injective 9 hnsec
  rw [nsecPerSec] at hsec hmod
  omega

/-- The text as a scan for six numbers takes it apart. -/
def shownFormat : List (Directive Field) :=
  lits "t0: ".toList ++ (secDirective :: .lit '.' :: nsecDirective ::
    (lits "\nperiod: ".toList ++ (secDirective :: .lit '.' :: nsecDirective ::
      (lits "\nwidth: ".toList ++ [secDirective, .lit '.', nsecDirective]))))

theorem sscanf_settingsText {t0 period width : Int} (h0 : IsKtime t0) (hp : IsKtime period)
    (hw : IsKtime width) :
    sscanf shownFormat (settingsText (t0, period, width)) =
      [.sec (t0 / nsecPerSec), .nsecStr (padDigits 9 (t0 % nsecPerSec).toNat),
       .sec (period / nsecPerSec), .nsecStr (padDigits 9 (period % nsecPerSec).toNat),
       .sec (width / nsecPerSec), .nsecStr (padDigits 9 (width % nsecPerSec).toNat)] := by
  rw [settingsText, shownFormat, sscanf_lits_append, sscanf_ktimeText h0, sscanf_lits_append,
    sscanf_ktimeText hp, sscanf_lits_append, sscanf_ktimeText hw, sscanf_nil]

/-- **Different settings are never shown alike.** -/
theorem settingsText_injective {v v' : Int × Int × Int} (hv : IsKtimes v) (hv' : IsKtimes v')
    (h : settingsText v = settingsText v') : v = v' := by
  obtain ⟨t0, period, width⟩ := v
  obtain ⟨t0', period', width'⟩ := v'
  have heq := congrArg (sscanf shownFormat) h
  rw [sscanf_settingsText hv.1 hv.2.1 hv.2.2, sscanf_settingsText hv'.1 hv'.2.1 hv'.2.2] at heq
  simp only [List.cons.injEq, Field.sec.injEq, Field.nsecStr.injEq, and_true] at heq
  obtain ⟨hs0, hn0, hsp, hnp, hsw, hnw⟩ := heq
  rw [ktime_eq_of_shown hs0 hn0, ktime_eq_of_shown hsp hnp, ktime_eq_of_shown hsw hnw]

/-! ### Writing it back -/

/-- A time that is not in the last second before `KTIME_MAX`, or is that. -/
def Restorable (kt : Int) : Prop := kt < ktimeSecMax * nsecPerSec ∨ kt = ktimeMax

/-- What the store handler makes of a shown time. -/
def restored (kt : Int) : Int := ktimeSet (kt / nsecPerSec) (kt % nsecPerSec)

theorem restored_eq_iff {kt : Int} (h : IsKtime kt) : restored kt = kt ↔ Restorable kt := by
  have hsplit : kt / nsecPerSec * nsecPerSec + kt % nsecPerSec = kt := by
    rw [Int.mul_comm]
    exact Int.mul_ediv_add_emod kt nsecPerSec
  rw [restored, ktimeSet, hsplit, ktimeWrap_of_isKtime h, Restorable]
  rw [IsKtime, ktimeMax] at h
  by_cases hmax : ktimeSecMax ≤ kt / nsecPerSec
  · rw [if_pos hmax]
    rw [ktimeSecMax, nsecPerSec] at hmax ⊢
    rw [ktimeMax]
    omega
  · rw [if_neg hmax]
    rw [ktimeSecMax, nsecPerSec] at hmax ⊢
    rw [ktimeMax]
    omega

theorem parseTimerSettings_settingsLine {v : Int × Int × Int} (hv : IsKtimes v) :
    parseTimerSettings (settingsLine v) = some (restored v.1, restored v.2.1, restored v.2.2) := by
  obtain ⟨t0, period, width⟩ := v
  obtain ⟨h0, hp, hw⟩ := hv
  have hns : ∀ kt : Int, nsstrToNs (padDigits 9 (kt % nsecPerSec).toNat) = kt % nsecPerSec := by
    intro kt
    rw [nsecPerSec, nsstrToNs_padDigits (by omega)]
    omega
  rw [parseTimerSettings, timerSettingsFormat, settingsLine, sscanf_ktimeText h0, sscanf_lit_cons,
    sscanf_ktimeText hp, sscanf_lit_cons, sscanf_ktimeText hw, sscanf_nil]
  simp only [hns]
  rfl

/-- **The settings shown are the settings stored.**  With the trigger off, writing the shown numbers
back on one line changes nothing if and only if no time lies in the last second before `KTIME_MAX`
other than that.  Different settings are never shown alike, and the text that a file shows is not
taken when it is written to that file. -/
theorem shown_stored_iff (s : GpioState) (hs : IsKtimes s.settings) (hoff : s.enabled = false) :
    ((opaleyeTimerSettingsAttrStore (settingsLine s.settings) s).1 = s ↔
      Restorable s.t0 ∧ Restorable s.period ∧ Restorable s.width) ∧
    (∀ s' : GpioState, IsKtimes s'.settings →
      opaleyeTimerSettingsAttrShow s' = opaleyeTimerSettingsAttrShow s → s'.settings = s.settings) ∧
    ∀ s' : GpioState,
      (opaleyeTimerSettingsAttrStore (opaleyeTimerSettingsAttrShow s) s').1 = s' ∧
        ∀ now, (opaleyeEnableAttrStore now (opaleyeEnableAttrShow s) s').1 = s' := by
  refine ⟨?_, fun s' hs' h => settingsText_injective hs' hs h, fun s' => ⟨?_, fun now => ?_⟩⟩
  · rw [opaleyeTimerSettingsAttrStore, parseTimerSettings_settingsLine hs]
    simp only [storeSettings, hoff, Bool.false_eq_true, if_false]
    have h0 : restored s.t0 = s.t0 ↔ Restorable s.t0 := restored_eq_iff hs.1
    have hp : restored s.period = s.period ↔ Restorable s.period := restored_eq_iff hs.2.1
    have hw : restored s.width = s.width ↔ Restorable s.width := restored_eq_iff hs.2.2
    rw [← h0, ← hp, ← hw]
    constructor
    · intro h
      exact ⟨congrArg GpioState.t0 h, congrArg GpioState.period h, congrArg GpioState.width h⟩
    · rintro ⟨ht0, hperiod, hwidth⟩
      simp only [GpioState.settings]
      rw [ht0, hperiod, hwidth, ← hoff]
  · have hnone : parseTimerSettings (opaleyeTimerSettingsAttrShow s) = none := rfl
    rw [opaleyeTimerSettingsAttrStore, hnone]
  · have hnone : parseEnable (opaleyeEnableAttrShow s) = none := rfl
    rw [opaleyeEnableAttrStore, hnone]

/-- A start before 1970: the nanoseconds are added to the negative seconds, and shown so. -/
def earlyStart : GpioState :=
  (opaleyeTimerSettingsAttrStore "-5.5,1.0,0.1".toList opaleyeGpioInit).1

theorem shown_stored_iff_early :
    opaleyeTimerSettingsAttrShow earlyStart =
        "t0: -5.500000000\nperiod: 1.000000000\nwidth: 0.100000000\n".toList ∧
      (opaleyeTimerSettingsAttrStore (settingsLine earlyStart.settings) earlyStart).1 = earlyStart :=
  ⟨by decide, (shown_stored_iff earlyStart
    ⟨⟨by decide, by decide⟩, ⟨by decide, by decide⟩, ⟨by decide, by decide⟩⟩ rfl).1.mpr
    ⟨Or.inl (by decide), Or.inl (by decide), Or.inl (by decide)⟩⟩

theorem configure_shown {t0 period width : Int} {s : GpioState} (h0 : Settable t0)
    (hp : Settable period) (hw : Settable width) (hoff : s.enabled = false) :
    settingsLine (configure t0 period width s).1.settings = configureText t0 period width := by
  have hts : ∀ d, Settable d → ktimeToTimespec d = chronoToTimespec d := by
    intro d hd
    obtain ⟨n, rfl, -⟩ := hd.exists_nat
    rw [chronoToTimespec_natCast]
    rfl
  rw [configure_settable h0 hp hw hoff]
  show settingsLine (t0, period, width) = _
  rw [settingsLine, configureText, hts t0 h0, hts period hp, hts width hw]

/-! ### Readers and writers -/

/-- Where a user of the two files is: in a store handler, or in
`opaleye_timer_settings_attr_show`.  The places `tsPeriod` and `tsWidth` lie between the assignments
of the store handler.  `since` is the number of writes that were there when the file was read. -/
inductive AttrPc
  | store (p : Pc)
  | tsPeriod (v : Int × Int × Int)
  | tsWidth (v : Int × Int × Int)
  | showLock (since : Nat)
  | showT0 (since : Nat)
  | showPeriod (since : Nat) (t0 : Int)
  | showWidth (since : Nat) (t0 period : Int)
  | showUnlock (since : Nat) (v : Int × Int × Int)
  | showPrint (since : Nat) (v : Int × Int × Int)
  | shown (since : Nat) (buf : List Char)
  deriving DecidableEq, Repr

def AttrPc.owns : AttrPc → Bool
  | .store p => p.owns
  | .tsPeriod _ | .tsWidth _ | .showT0 _ | .showPeriod _ _ | .showWidth _ _ _ | .showUnlock _ _ => true
  | .showLock _ | .showPrint _ _ | .shown _ _ => false

/-- The state block, with a record of the settings that were stored. -/
structure AttrFiles where
  state : GpioState
  stored : List (Int × Int × Int)

inductive AttrInput
  | store (l : Input)
  | show
  | go

def attrNext : AttrInput → AttrPc → AttrFiles → Move AttrPc AttrFiles
  -- the three assignments
  | .go, .store (.tsStore v), s => .crit (.tsPeriod v) { s with state := { s.state with t0 := v.1 } }
  | .go, .tsPeriod v, s => .crit (.tsWidth v) { s with state := { s.state with period := v.2.1 } }
  | .go, .tsWidth v, s => .crit (.store .tsUnlock)
      { state := { s.state with width := v.2.2 }, stored := s.stored ++ [v] }
  | .store _, .store (.tsStore _), _ => .blocked
  | .store l, .store p, s =>
    ((next l p s.state).map AttrPc.store).mapShared (fun st => { s with state := st })
  | .show, .store .idle, s => .goto (.showLock s.stored.length)
  | .go, .showLock since, _ => .lock (.showT0 since)
  | .go, .showT0 since, s => .crit (.showPeriod since s.state.t0) s
  | .go, .showPeriod since t0, s => .crit (.showWidth since t0 s.state.period) s
  | .go, .showWidth since t0 period, s => .crit (.showUnlock since (t0, period, s.state.width)) s
  | .go, .showUnlock since v, _ => .unlock (.showPrint since v)
  | .go, .showPrint since v, _ => .goto (.shown since (settingsText v))
  | .go, .shown _ _, _ => .goto (.store .idle)
  | _, _, _ => .blocked

/-- The users of the module's files. -/
def attrUsers : LockedThreads AttrPc AttrFiles AttrInput Fire where
  start := .store .idle
  owns := AttrPc.owns
  next := attrNext
  interrupt e s := (fire e s.state).map (fun st => { s with state := st })
  start_free := rfl
  next_owns := by
    intro l p s
    fun_cases attrNext l p s
    case case5 l p hne =>
      have ho := writers.next_owns l p s.state
      cases hn : writers.next l p s.state
      all_goals
        rw [hn] at ho
        rw [show next l p s.state = _ from hn]
        exact ho
    all_goals first | exact ⟨rfl, rfl⟩ | exact trivial

/-! ### What a reader is shown -/

/-- The settings stored last; before the first write there are those of `opaleye_gpio_init`. -/
def AttrFiles.latest (s : AttrFiles) : Int × Int × Int := s.stored.getLastD opaleyeGpioInit.settings

/-- Nobody is between two assignments. -/
def AttrFiles.Whole (s : AttrFiles) : Prop := s.state.settings = s.latest

/-- What the state block holds while a user has the mutex. -/
def AttrHeld : AttrPc → AttrFiles → Prop
  | .tsPeriod v, s => s.state.t0 = v.1
  | .tsWidth v, s => s.state.t0 = v.1 ∧ s.state.period = v.2.1
  | .showPeriod _ t0, s => s.Whole ∧ t0 = s.state.t0
  | .showWidth _ t0 period, s => s.Whole ∧ t0 = s.state.t0 ∧ period = s.state.period
  | _, s => s.Whole

/-- What a reader knows. -/
def AttrSeen : AttrPc → AttrFiles → Prop
  | .showLock since, s => since ≤ s.stored.length
  | .showT0 since, s => since ≤ s.stored.length
  | .showPeriod since _, s => since ≤ s.stored.length
  | .showWidth since _ _, s => since ≤ s.stored.length
  | .showUnlock since v, s => SeenSince opaleyeGpioInit.settings s.stored since v
  | .showPrint since v, s => SeenSince opaleyeGpioInit.settings s.stored since v
  | .shown since buf, s =>
    ∃ v, SeenSince opaleyeGpioInit.settings s.stored since v ∧ buf = settingsText v
  | _, _ => True

theorem AttrSeen.append {p : AttrPc} {s s' : AttrFiles} (h : AttrSeen p s)
    {new : List (Int × Int × Int)} (hs : s'.stored = s.stored ++ new) : AttrSeen p s' := by
  have hle : s.stored.length ≤ s'.stored.length := by
    rw [hs, List.length_append]
    omega
  have hseen : ∀ {since v}, SeenSince opaleyeGpioInit.settings s.stored since v →
      SeenSince opaleyeGpioInit.settings s'.stored since v := by
    intro since v hv
    rw [hs]
    exact hv.append new
  cases p with
  | showLock since => exact Nat.le_trans h hle
  | showT0 since => exact Nat.le_trans h hle
  | showPeriod since t0 => exact Nat.le_trans h hle
  | showWidth since t0 period => exact Nat.le_trans h hle
  | showUnlock since v => exact hseen h
  | showPrint since v => exact hseen h
  | shown since buf =>
    obtain ⟨v, hv, hbuf⟩ := h
    exact ⟨v, hseen hv, hbuf⟩
  | _ => trivial

/-- Only the assignments change the settings. -/
theorem settings_crit {p q : Pc} {s s' : GpioState} (h : CritStep p s q s')
    (hp : ∀ v, p ≠ .tsStore v) : s'.settings = s.settings := by
  cases h with
  | settings => exact absurd rfl (hp _)
  | _ => rfl

/-- What a move leaves in the state block. -/
def AttrHeldMove (s : AttrFiles) : Move AttrPc AttrFiles → Prop
  | .blocked => True
  | .goto _ => True
  | .lock q => s.Whole → AttrHeld q s
  | .crit q s' => AttrHeld q s'
  | .unlock _ => s.Whole

/-- What a reader knows where a move leads to. -/
def AttrSeenMove (s : AttrFiles) : Move AttrPc AttrFiles → Prop
  | .blocked => True
  | .goto q => AttrSeen q s
  | .lock q => AttrSeen q s
  | .crit q s' => AttrSeen q s' ∧ ∃ new, s'.stored = s.stored ++ new
  | .unlock q => AttrSeen q s

variable {p : AttrPc} {s : AttrFiles}

theorem attrHeld_store (l : Input) {p : Pc} (hp : ∀ v, p ≠ .tsStore v)
    (hl : p.owns = true → s.Whole) :
    AttrHeldMove s (((next l p s.state).map AttrPc.store).mapShared
      (fun st => { s with state := st })) := by
  cases hn : next l p s.state with
  | blocked => trivial
  | goto q => trivial
  | lock q => exact fun hfree => hfree
  | crit q st =>
    have hown : p.owns = true := (owns_of_crit (P := writers) hn).1
    have hkeep : st.settings = s.state.settings := settings_crit (next_crit hn).2 hp
    exact hkeep.trans (hl hown)
  | unlock q => exact hl (owns_of_unlock (P := writers) hn).1

/-- **What the state block holds after a step.** -/
theorem attr_held (l : AttrInput) (hl : p.owns = true → AttrHeld p s) :
    AttrHeldMove s (attrNext l p s) := by
  fun_cases attrNext l p s with
  | case1 v => exact (rfl : v.1 = v.1)
  | case2 v => exact ⟨hl rfl, rfl⟩
  | case3 v =>
    obtain ⟨h0, hp⟩ := hl rfl
    show (s.state.t0, s.state.period, v.2.2) = (s.stored ++ [v]).getLastD _
    rw [List.getLastD_concat, h0, hp]
  | case4 => trivial
  | case5 l p =>
    rename_i hne
    exact attrHeld_store l hne hl
  | case6 => trivial
  | case7 since => exact fun hfree => hfree
  | case8 since => exact ⟨hl rfl, rfl⟩
  | case9 since t0 =>
    obtain ⟨hw, h0⟩ := hl rfl
    exact ⟨hw, h0, rfl⟩
  | case10 since t0 period => exact (hl rfl).1
  | case11 since v => exact hl rfl
  | case12 since v => trivial
  | case13 => trivial
  | case14 => trivial

/-- **What a reader knows after a step.** -/
theorem attr_seen (l : AttrInput) (hs : AttrSeen p s) (hl : p.owns = true → AttrHeld p s) :
    AttrSeenMove s (attrNext l p s) := by
  have hsame : ∃ new, s.stored = s.stored ++ new := ⟨[], (List.append_nil _).symm⟩
  fun_cases attrNext l p s with
  | case1 v => exact ⟨trivial, hsame⟩
  | case2 v => exact ⟨trivial, hsame⟩
  | case3 v => exact ⟨trivial, [v], rfl⟩
  | case4 => trivial
  | case5 l p =>
    cases next l p s.state with
    | crit q st => exact ⟨trivial, hsame⟩
    | _ => trivial
  | case6 => exact Nat.le_refl _
  | case7 since => exact hs
  | case8 since => exact ⟨hs, hsame⟩
  | case9 since t0 => exact ⟨hs, hsame⟩
  | case10 since t0 period =>
    obtain ⟨hw, rfl, rfl⟩ := hl rfl
    refine ⟨?_, hsame⟩
    -- the three values are those of one write
    show SeenSince _ _ since s.state.settings
    rw [hw]
    exact seenSince_latest hs
  | case11 since v => exact hs
  | case12 since v => exact ⟨v, hs, rfl⟩
  | case13 => trivial
  | case14 => trivial

theorem attr_fire {e : Fire} {s s' : AttrFiles} (h : attrUsers.interrupt e s = some s') :
    s'.state.t0 = s.state.t0 ∧ s'.state.period = s.state.period ∧ s'.state.width = s.state.width ∧
      s'.stored = s.stored := by
  obtain ⟨st, hst, rfl⟩ := Option.map_eq_some_iff.mp h
  obtain ⟨-, -, -, h0, hp, hw⟩ := fire_frame hst
  exact ⟨h0, hp, hw, rfl⟩

theorem whole_fire {e : Fire} {s s' : AttrFiles} (hw : s.Whole)
    (h : attrUsers.interrupt e s = some s') : s'.Whole := by
  obtain ⟨h0, hp, hwid, hstored⟩ := attr_fire h
  rw [AttrFiles.Whole, GpioState.settings, AttrFiles.latest, h0, hp, hwid, hstored]
  exact hw

theorem attrHeld_fire {e : Fire} {p : AttrPc} {s s' : AttrFiles} (hl : AttrHeld p s)
    (h : attrUsers.interrupt e s = some s') : AttrHeld p s' := by
  obtain ⟨h0, hp, -, -⟩ := attr_fire h
  cases p with
  | tsPeriod v => exact h0.trans hl
  | tsWidth v => exact ⟨h0.trans hl.1, hp.trans hl.2⟩
  | showPeriod since t0 => exact ⟨whole_fire hl.1 h, hl.2.trans h0.symm⟩
  | showWidth since t0 period =>
    exact ⟨whole_fire hl.1 h, hl.2.1.trans h0.symm, hl.2.2.trans hp.symm⟩
  | _ => exact whole_fire hl h

theorem attrUsers_lockInv :
    attrUsers.LockInv (fun _ _ _ => True) AttrFiles.Whole AttrHeld (fun _ => True) where
  start := trivial
  goto := by
    intro l p s q _ _ _
    trivial
  lock := by
    intro l p s q _ _ hfree hn
    have hmove := attr_held (s := s) l
      (fun ho => absurd ((owns_of_lock hn).1.symm.trans ho) (by simp))
    rw [show attrNext l p s = .lock q from hn] at hmove
    exact hmove hfree
  crit := by
    intro l p s q s' _ hp hn
    have hmove := attr_held l (fun _ => hp)
    rwa [show attrNext l p s = .crit q s' from hn] at hmove
  unlock := by
    intro l p s q _ hp hn
    have hmove := attr_held l (fun _ => hp)
    rw [show attrNext l p s = .unlock q from hn] at hmove
    exact ⟨hmove, trivial⟩
  intr_free := whole_fire
  intr_locked := attrHeld_fire

theorem attrUsers_seenInv : attrUsers.SeenInv (fun _ _ _ => True) AttrHeld AttrSeen where
  start := fun _ => trivial
  goto := by
    intro l p s q _ hk hn
    have hmove := attr_seen l hk (fun ho => absurd ((owns_of_goto hn).1.symm.trans ho) (by simp))
    rwa [show attrNext l p s = .goto q from hn] at hmove
  lock := by
    intro l p s q _ hk hn
    have hmove := attr_seen l hk (fun ho => absurd ((owns_of_lock hn).1.symm.trans ho) (by simp))
    rwa [show attrNext l p s = .lock q from hn] at hmove
  crit := by
    intro l p s q s' _ hp hk hn
    have hmove := attr_seen l hk (fun _ => hp)
    rw [show attrNext l p s = .crit q s' from hn] at hmove
    obtain ⟨hq, new, hnew⟩ := hmove
    exact ⟨hq, fun r hr => hr.append hnew⟩
  unlock := by
    intro l p s q _ hp hk hn
    have hmove := attr_seen l hk (fun _ => hp)
    rwa [show attrNext l p s = .unlock q from hn] at hmove
  intr := by
    intro e s s' r hfire hr
    obtain ⟨-, -, -, hstored⟩ := attr_fire hfire
    exact hr.append (hstored.trans (List.append_nil _).symm)

/-- The module after loading, and the users of its files. -/
def attrFiles : TransSys (Config AttrPc AttrFiles) (Act AttrInput Fire) :=
  attrUsers.sys ⟨opaleyeGpioInit, []⟩

/-- **A reader is shown one write.**  Whatever writers, readers and timers do meanwhile, what
`timer_settings` shows is the text of the settings of a single write (or of those the module starts
with), and of one that was in force at some time between the call of the show handler and its
return. -/
theorem shown_whole (c : Config AttrPc AttrFiles) (h : attrFiles.Reach TransSys.Any c) (i : Nat)
    (since : Nat) (buf : List Char) (hpc : c.pc i = .shown since buf) :
    ∃ v, SeenSince opaleyeGpioInit.settings c.shared.stored since v ∧ buf = settingsText v := by
  have hmeet : attrFiles.Reach (Meeting fun _ _ _ => True) c := by
    refine h.mono (fun c a _ => ?_)
    cases a with
    | thread i l => trivial
    | interrupt e => trivial
  have hseen := reach_seen attrUsers_lockInv attrUsers_seenInv
    (rfl : AttrFiles.Whole ⟨opaleyeGpioInit, []⟩) hmeet i
  rw [hpc] at hseen
  exact hseen

def AttrPc.answer : AttrPc → Option (Nat × List Char)
  | .shown since buf => some (since, buf)
  | _ => none

/-- A reader opens the file while a writer is between two assignments. -/
def readWhileWritten : List (Act AttrInput Fire) :=
  [.thread 0 (.store (.writeTimerSettings "2.0,1.0,0.5".toList)), .thread 0 (.store (.run 0)),
    .thread 0 (.store (.run 0)), .thread 0 (.store (.run 0)), .thread 0 .go, .thread 1 .show,
    .thread 0 .go, .thread 0 .go, .thread 0 (.store (.run 0)), .thread 1 .go, .thread 1 .go,
    .thread 1 .go, .thread 1 .go, .thread 1 .go, .thread 1 .go]

/-- It is shown the three new times. -/
theorem shown_whole_written : ∃ c, attrFiles.Reach TransSys.Any c ∧ ∃ since buf,
    c.pc 1 = .shown since buf ∧
      buf = "t0: 2.000000000\nperiod: 1.000000000\nwidth: 0.500000000\n".toList ∧
      ∃ v, SeenSince opaleyeGpioInit.settings c.shared.stored since v ∧ buf = settingsText v := by
  have hrun : (attrFiles.run (attrUsers.boot ⟨opaleyeGpioInit, []⟩) readWhileWritten).map
      (fun c => (c.pc 1).answer) =
      some (some (0, "t0: 2.000000000\nperiod: 1.000000000\nwidth: 0.500000000\n".toList)) := by
    decide
  obtain ⟨c, hc, hanswer⟩ := Option.map_eq_some_iff.mp hrun
  have hreach := TransSys.Reach.run readWhileWritten (.init rfl) (TransSys.meets_any _ _) hc
  cases hpc : c.pc 1 with
  | shown since buf =>
    rw [hpc] at hanswer
    obtain ⟨-, rfl⟩ := Prod.mk.inj (Option.some.inj hanswer)
    exact ⟨c, hreach, since, _, hpc, rfl, shown_whole c hreach 1 since _ hpc⟩
  | _ =>
    rw [hpc] at hanswer
    cases hanswer

end Opaleye.Gpio
