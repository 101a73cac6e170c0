import Mathlib.Algebra.BigOperators.Group.List.Basic
import Mathlib.Data.Int.ModEq

/-!
# The Gregorian calendar

Days are counted from 1 January 1970, years go on before the year 1 with the
same rule for leap years.  A date is a year, a month from 0 and a day from 1,
and it carries the proof that the month has that day.

`dayNumber` counts the days before a date, `civil` finds the date of a day: the
year from the mean length of a year, which is off by one at most (`yearOf_spec`),
and the month by walking over the lengths of the months (`locate_spec`).
`dayNumber_civil` says that this is the date.
-/

namespace Calendar

def isLeap (y : Int) : Bool := y % 4 == 0 && (y % 100 != 0 || y % 400 == 0)

def monthLengths (y : Int) : List Nat :=
  [31, if isLeap y then 29 else 28, 31, 30, 31, 30, 31, 31, 30, 31, 30, 31]

/-- The days before the first of January, from the year 1 on. -/
def daysBeforeYear (y : Int) : Int := 365 * (y - 1) + (y - 1) / 4 - (y - 1) / 100 + (y - 1) / 400

/-- The day 0 is 1 January 1970. -/
def epochDay : Int := 719162

structure Date where
  year : Int
  month : Fin 12
  day : Nat
  day_pos : 1 ≤ day
  day_le : day ≤ (monthLengths year).getD month 0

def dayNumber (d : Date) : Int :=
  daysBeforeYear d.year + ((monthLengths d.year).take d.month).sum + (d.day - 1 : Int) - epochDay

/-! ### Years -/

theorem sum_monthLengths (y : Int) : (monthLengths y).sum = if isLeap y then 366 else 365 := by
  rw [monthLengths]
  cases isLeap y <;> rfl

theorem daysBeforeYear_succ (y : Int) :
    daysBeforeYear (y + 1) = daysBeforeYear y + (monthLengths y).sum := by
  rw [sum_monthLengths, daysBeforeYear, daysBeforeYear]
  have hleap : isLeap y = true ↔ y % 4 = 0 ∧ (y % 100 ≠ 0 ∨ y % 400 = 0) := by
    simp [isLeap]
  by_cases h : isLeap y = true
  · rw [if_pos h]
    rw [hleap] at h
    omega
  · rw [if_neg h]
    rw [hleap] at h
    omega

/-- The year of a day, from the mean length of a year: 146097 days in 400 years. -/
def yearOf (n : Int) : Int :=
  let y := 400 * n / 146097 + 1
  if n < daysBeforeYear y then y - 1 else if daysBeforeYear (y + 1) ≤ n then y + 1 else y

/-- **The estimate is off by one year at most.** -/
theorem yearOf_spec (n : Int) : daysBeforeYear (yearOf n) ≤ n ∧ n < daysBeforeYear (yearOf n + 1) := by
  rw [yearOf]
  generalize hk : 400 * n / 146097 = k
  split
  · next h =>
    simp only [daysBeforeYear] at h ⊢
    omega
  · next h =>
    split
    · next h' =>
      simp only [daysBeforeYear] at h' ⊢
      omega
    · next h' => omega

/-! ### Months -/

/-- Which of some intervals, put one after another, a number is in, and where. -/
def locate : List Nat → Nat → Nat × Nat
  | [], n => (0, n)
  | len :: lens, n => if n < len then (0, n) else ((locate lens (n - len)).1 + 1, (locate lens (n - len)).2)

theorem locate_spec : ∀ (lens : List Nat) {n : Nat}, n < lens.sum →
    (locate lens n).1 < lens.length ∧ (locate lens n).2 < lens.getD (locate lens n).1 0 ∧
      (lens.take (locate lens n).1).sum + (locate lens n).2 = n := by
  intro lens
  induction lens with
  | nil =>
    intro n h
    exact absurd h (Nat.not_lt_zero n)
  | cons len lens ih =>
    intro n h
    rw [List.sum_cons] at h
    rw [locate]
    split
    · next hlt => exact ⟨Nat.succ_pos _, hlt, Nat.zero_add n⟩
    · next hge =>
      obtain ⟨hm, hd, hsum⟩ := ih (n := n - len) (by omega)
      refine ⟨Nat.succ_lt_succ hm, hd, ?_⟩
      rw [List.take_succ_cons, List.sum_cons]
      omega

/-! ### Dates -/

theorem dayOfYear_lt (n : Int) :
    (n - daysBeforeYear (yearOf n)).toNat < (monthLengths (yearOf n)).sum := by
  obtain ⟨hlo, hhi⟩ := yearOf_spec n
  rw [daysBeforeYear_succ] at hhi
  omega

/-- The date of a day. -/
def civil (n : Int) : Date :=
  let year := yearOf (n + epochDay)
  let place := locate (monthLengths year) (n + epochDay - daysBeforeYear year).toNat
  have h := locate_spec _ (dayOfYear_lt (n + epochDay))
  { year := year
    month := ⟨place.1, h.1⟩
    day := place.2 + 1
    day_pos := Nat.succ_pos _
    day_le := h.2.1 }

/-- **The date of a day has the number of that day.** -/
theorem dayNumber_civil (n : Int) : dayNumber (civil n) = n := by
  have hlo := (yearOf_spec (n + epochDay)).1
  have hsum := (locate_spec _ (dayOfYear_lt (n + epochDay))).2.2
  simp only [dayNumber, civil]
  omega

theorem Date.day_le_31 (d : Date) : d.day ≤ 31 := by
  have hall : ∀ (leap : Bool) (m : Fin 12),
      [31, if leap then 29 else 28, 31, 30, 31, 30, 31, 31, 30, 31, 30, 31].getD m 0 ≤ 31 := by
    decide
  exact le_trans d.day_le (hall (isLeap d.year) d.month)

end Calendar
