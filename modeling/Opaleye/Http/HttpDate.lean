import Opaleye.Http.Handlers
import Opaleye.Lib.CInt
import Opaleye.Lib.Calendar

/-!
# Dates in responses

`http_util::time_to_httpdate` prints the fields of `gmtime_r` for a `Last-Modified`
header.  The header takes an IMF-fixdate, in which every field has its width: two
digits for the day, four for the year.  The source prints the day with `%d`.

`gmtime` has the fields of the Gregorian calendar and `imfFixdate` is the date that
is meant; `parseFixdate` reads one back, so that it is the date of no other time
(`parseFixdate_imfFixdate`).  The source prints it from the tenth of a month on.
-/

namespace Opaleye.Http

open Text Calendar

/-! ### The calendar -/

/-- The day of a time, from 1 January 1970. -/
def dayOf (t : Int) : Int := t / 86400

/-- The seconds of its day that have passed. -/
def secondOfDay (t : Int) : Nat := (t % 86400).toNat

/-- 1 January 1970 was a Thursday. -/
def weekday (day : Int) : Fin 7 := ⟨((day + 4) % 7).toNat, by omega⟩

/-- `gmtime_r`; it fails when the year is no `int`. -/
def gmtime (t : Int) : Option Tm :=
  let date := civil (dayOf t)
  if CInt.Fits 32 (date.year - 1900) then
    some
      { wday := weekday (dayOf t)
        mday := date.day
        mon := date.month
        year := date.year - 1900
        hour := (secondOfDay t / 3600 : Nat)
        min := (secondOfDay t % 3600 / 60 : Nat)
        sec := (secondOfDay t % 60 : Nat) }
  else none

/-! ### The format -/

def dayNames : List String := ["Sun", "Mon", "Tue", "Wed", "Thu", "Fri", "Sat"]

def monthNames : List String :=
  ["Jan", "Feb", "Mar", "Apr", "May", "Jun", "Jul", "Aug", "Sep", "Oct", "Nov", "Dec"]

/-- The IMF-fixdate of a time. -/
def imfFixdate (t : Int) : List Char :=
  let date := civil (dayOf t)
  (dayNames.getD (weekday (dayOf t)) "").toList ++ (", ".toList ++ (padDigits 2 date.day ++ (" ".toList
    ++ ((monthNames.getD date.month "").toList ++ (" ".toList ++ (padDigits 4 date.year.toNat ++ (" ".toList
    ++ (padDigits 2 (secondOfDay t / 3600) ++ (":".toList ++ (padDigits 2 (secondOfDay t % 3600 / 60)
    ++ (":".toList ++ (padDigits 2 (secondOfDay t % 60) ++ " GMT".toList))))))))))))

/-- The same, to be read. -/
def fixdateFormat : List (Directive Nat) :=
  .conv (readWord 3 dayNames) :: (lits ", ".toList ++ .conv (readFixed 2) :: (lits " ".toList
    ++ .conv (readWord 3 monthNames) :: (lits " ".toList ++ .conv (readFixed 4) :: (lits " ".toList
    ++ .conv (readFixed 2) :: (lits ":".toList ++ .conv (readFixed 2) :: (lits ":".toList
    ++ .conv (readFixed 2) :: lits " GMT".toList))))))

/-- The time of a date and a time of day, when there are such and the weekday is right. -/
def timegm (wday day mon year hour min sec : Nat) : Option Int :=
  if h : mon < 12 ∧ 1 ≤ day ∧ day ≤ (monthLengths year).getD mon 0 then
    let number := dayNumber ⟨year, ⟨mon, h.1⟩, day, h.2.1, h.2.2⟩
    if hour < 24 ∧ min < 60 ∧ sec < 60 ∧ (weekday number).val = wday then
      some (number * 86400 + hour * 3600 + min * 60 + sec)
    else none
  else none

/-- The time of an IMF-fixdate. -/
def parseFixdate (s : List Char) : Option Int :=
  match scanAll fixdateFormat s with
  | some [wday, day, mon, year, hour, min, sec] => timegm wday day mon year hour min sec
  | _ => none

/-! ### Reading it back -/

theorem readWord_dayNames (d : Fin 7) (rest : List Char) :
    readWord 3 dayNames ((dayNames.getD d "").toList ++ rest) = some (d.val, rest) := by
  match d with
  | 0 | 1 | 2 | 3 | 4 | 5 | 6 => rfl

theorem readWord_monthNames (m : Fin 12) (rest : List Char) :
    readWord 3 monthNames ((monthNames.getD m "").toList ++ rest) = some (m.val, rest) := by
  match m with
  | 0 | 1 | 2 | 3 | 4 | 5 | 6 | 7 | 8 | 9 | 10 | 11 => rfl

theorem secondOfDay_lt (t : Int) : secondOfDay t < 86400 := by
  rw [secondOfDay]
  omega

theorem dayOf_add_secondOfDay (t : Int) : dayOf t * 86400 + secondOfDay t = t := by
  rw [dayOf, secondOfDay]
  omega

variable {t : Int}

theorem timegm_date (date : Date) {year : Nat} (hy : date.year = year) (wday hour min sec : Nat) :
    timegm wday date.day date.month year hour min sec =
      if hour < 24 ∧ min < 60 ∧ sec < 60 ∧ (weekday (dayNumber date)).val = wday then
        some (dayNumber date * 86400 + hour * 3600 + min * 60 + sec)
      else none := by
  obtain ⟨y, month, day, hpos, hle⟩ := date
  subst hy
  rw [timegm, dif_pos ⟨month.isLt, hpos, hle⟩]

theorem timegm_civil (hy : 0 ≤ (civil (dayOf t)).year) :
    timegm (weekday (dayOf t)) (civil (dayOf t)).day (civil (dayOf t)).month
      (civil (dayOf t)).year.toNat (secondOfDay t / 3600) (secondOfDay t % 3600 / 60)
      (secondOfDay t % 60) = some t := by
  have hlt := secondOfDay_lt t
  have ht := dayOf_add_secondOfDay t
  rw [timegm_date _ (by omega), dayNumber_civil, if_pos ⟨by omega, by omega, by omega, rfl⟩,
    Option.some.injEq]
  omega

/-- **An IMF-fixdate is the date of its time.** -/
theorem parseFixdate_imfFixdate (hlo : 0 ≤ (civil (dayOf t)).year)
    (hhi : (civil (dayOf t)).year ≤ 9999) : parseFixdate (imfFixdate t) = some t := by
  have hday := (civil (dayOf t)).day_le_31
  have hsec := secondOfDay_lt t
  have hscan : scanAll fixdateFormat (imfFixdate t)
      = some [(weekday (dayOf t)).val, (civil (dayOf t)).day, (civil (dayOf t)).month.val,
        (civil (dayOf t)).year.toNat, secondOfDay t / 3600, secondOfDay t % 3600 / 60,
        secondOfDay t % 60] := by
    rw [fixdateFormat, imfFixdate]
    rw [scanAll_conv (readWord_dayNames _ _), scanAll_lits_append,
      scanAll_conv (readFixed_padDigits (by decide) (by omega) _), scanAll_lits_append,
      scanAll_conv (readWord_monthNames _ _), scanAll_lits_append,
      scanAll_conv (readFixed_padDigits (by decide) (by omega) _), scanAll_lits_append,
      scanAll_conv (readFixed_padDigits (by decide) (by omega) _), scanAll_lits_append,
      scanAll_conv (readFixed_padDigits (by decide) (by omega) _), scanAll_lits_append,
      scanAll_conv (readFixed_padDigits (by decide) (by omega) _), scanAll_lits]
    rfl
  rw [parseFixdate, hscan]
  exact timegm_civil hlo

/-! ### What the source prints -/

/-- A time of a year of four digits. -/
def FourDigitYear (t : Int) : Prop := 1000 ≤ (civil (dayOf t)).year ∧ (civil (dayOf t)).year ≤ 9999

instance (t : Int) : Decidable (FourDigitYear t) := inferInstanceAs (Decidable (_ ∧ _))

/-- `time_to_httpdate` succeeds with the IMF-fixdate, and that is read back. -/
def WritesFixdate (t : Int) : Prop :=
  ∃ str, timeToHttpdate (gmtime t) = some str ∧ str = imfFixdate t ∧ parseFixdate str = some t

theorem dayStr_eq (d : Fin 7) : dayStr d = dayNames.getD d "" := by
  match d with
  | 0 | 1 | 2 | 3 | 4 | 5 | 6 => rfl

theorem monthStr_eq (m : Fin 12) : monthStr m = monthNames.getD m "" := by
  match m with
  | 0 | 1 | 2 | 3 | 4 | 5 | 6 | 7 | 8 | 9 | 10 | 11 => rfl

theorem length_dayName (d : Fin 7) : (dayNames.getD d "").toList.length = 3 := by
  match d with
  | 0 | 1 | 2 | 3 | 4 | 5 | 6 => rfl

theorem length_monthName (m : Fin 12) : (monthNames.getD m "").toList.length = 3 := by
  match m with
  | 0 | 1 | 2 | 3 | 4 | 5 | 6 | 7 | 8 | 9 | 10 | 11 => rfl

/-- What follows the day. -/
def afterDay (t : Int) : List Char :=
  " ".toList ++ ((monthNames.getD (civil (dayOf t)).month "").toList ++ (" ".toList
    ++ (padDigits 4 (civil (dayOf t)).year.toNat ++ (" ".toList ++ (padDigits 2 (secondOfDay t / 3600)
    ++ (":".toList ++ (padDigits 2 (secondOfDay t % 3600 / 60) ++ (":".toList
    ++ (padDigits 2 (secondOfDay t % 60) ++ " GMT".toList)))))))))

theorem imfFixdate_eq (t : Int) : imfFixdate t = (dayNames.getD (weekday (dayOf t)) "").toList
    ++ (", ".toList ++ (padDigits 2 (civil (dayOf t)).day ++ afterDay t)) := rfl

theorem length_imfFixdate (h : FourDigitYear t) : (imfFixdate t).length = 29 := by
  have hday := (civil (dayOf t)).day_le_31
  have hsec := secondOfDay_lt t
  have hyear := h.2
  rw [imfFixdate_eq, afterDay]
  simp only [List.length_append, length_dayName, length_monthName]
  rw [length_padDigits (by decide) (by omega), length_padDigits (by decide) (by omega),
    length_padDigits (by decide) (by omega), length_padDigits (by decide) (by omega),
    length_padDigits (by decide) (by omega)]
  rfl

/-- **The source differs in the day alone**: a year of four digits needs no padding. -/
theorem timeToHttpdate_gmtime (h : FourDigitYear t) :
    ∃ tm, gmtime t = some tm ∧ httpDate tm = (dayNames.getD (weekday (dayOf t)) "").toList
      ++ (", ".toList ++ (Nat.toDigits 10 (civil (dayOf t)).day ++ afterDay t)) := by
  obtain ⟨hlo, hhi⟩ := h
  have hfits : CInt.Fits 32 ((civil (dayOf t)).year - 1900) := by
    rw [CInt.Fits]
    omega
  refine ⟨_, if_pos hfits, ?_⟩
  have hyear : printInt ((civil (dayOf t)).year - 1900 + 1900) = padDigits 4 (civil (dayOf t)).year.toNat := by
    obtain ⟨y, hy⟩ := Int.eq_ofNat_of_zero_le (show 0 ≤ (civil (dayOf t)).year by omega)
    rw [Int.sub_add_cancel, hy, Int.toNat_natCast]
    show printInt (y : Int) = _
    rw [printInt_natCast, toDigits_eq_padDigits_iff (by decide)]
    omega
  unfold httpDate afterDay
  dsimp only
  simp only [hyear, printInt_natCast, printIntPad_natCast, dayStr_eq, monthStr_eq, List.append_assoc]

/-- **The date is an IMF-fixdate exactly from the tenth of a month on.** -/
theorem writesFixdate_iff (t : Int) (h : FourDigitYear t) :
    WritesFixdate t ↔ 10 ≤ (civil (dayOf t)).day := by
  obtain ⟨tm, htm, hdate⟩ := timeToHttpdate_gmtime h
  have hpad := toDigits_eq_padDigits_iff (n := (civil (dayOf t)).day) (show 0 < 1 by decide)
  rw [pow_one] at hpad
  rw [← hpad]
  constructor
  · rintro ⟨str, hstr, rfl, -⟩
    rw [htm, timeToHttpdate] at hstr
    split at hstr
    · rw [Option.some.injEq, hdate, imfFixdate_eq] at hstr
      exact List.append_cancel_right (List.append_cancel_left (List.append_cancel_left hstr))
    · cases hstr
  · intro hday
    have heq : httpDate tm = imfFixdate t := by
      rw [hdate, hday, imfFixdate_eq]
    refine ⟨imfFixdate t, ?_, rfl, parseFixdate_imfFixdate (le_trans (by decide) h.1) h.2⟩
    rw [htm, timeToHttpdate, heq, if_pos (by rw [length_imfFixdate h]; decide)]

/-- 14 November 2023, 22:13:20. -/
theorem writesFixdate_november : WritesFixdate 1700000000 :=
  (writesFixdate_iff 1700000000 (by decide)).mpr (by decide)

/-- 6 November 1994, 08:49:37. -/
theorem not_writesFixdate :
    timeToHttpdate (gmtime 784111777) = some "Sun, 6 Nov 1994 08:49:37 GMT".toList ∧
      imfFixdate 784111777 = "Sun, 06 Nov 1994 08:49:37 GMT".toList ∧
      FourDigitYear 784111777 ∧ ¬ WritesFixdate 784111777 := by
  have hprinted : timeToHttpdate (gmtime 784111777) = some "Sun, 6 Nov 1994 08:49:37 GMT".toList := by
    decide
  have hmeant : imfFixdate 784111777 = "Sun, 06 Nov 1994 08:49:37 GMT".toList := by decide
  refine ⟨hprinted, hmeant, by decide, ?_⟩
  rintro ⟨str, hstr, heq, -⟩
  rw [hprinted, Option.some.injEq] at hstr
  rw [← hstr, hmeant] at heq
  exact absurd heq (by decide)

end Opaleye.Http
