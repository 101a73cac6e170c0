import Opaleye.Lib.CInt
import Mathlib.Data.Int.ModEq

/-!
# Durations and `timespec`

`libs/opaleye-util/chrono_util.cpp`.  A duration is an integer of nanoseconds,
and `duration_cast` to seconds rounds toward zero, so the nanoseconds of a
negative duration are negative too.

`Checked` has the functions in 64 bits: `none` is a signed overflow.  The
conversions never overflow and recombine exactly (`join_split`), but they do not
normalise; `timespec_add_chrono` does, with one correction, because the
remainder it adds has the sign of the seconds it adds (`split_sign`).
-/

namespace Opaleye.Util

structure Timespec where
  tvSec : Int
  tvNsec : Int
  deriving DecidableEq, Repr

def chronoToTimespec (c : Int) : Timespec :=
  let sec := c.tdiv 1000000000
  ⟨sec, c - sec * 1000000000⟩

theorem chronoToTimespec_natCast (n : Nat) :
    chronoToTimespec (n : Int) = ⟨((n / 1000000000 : Nat) : Int), ((n % 1000000000 : Nat) : Int)⟩ := by
  have hdiv : (n : Int).tdiv 1000000000 = ((n / 1000000000 : Nat) : Int) := rfl
  rw [chronoToTimespec, hdiv, Timespec.mk.injEq]
  refine ⟨rfl, ?_⟩
  omega

theorem chronoToTimespec_nsec (c : Int) : (chronoToTimespec c).tvNsec = c.tmod 1000000000 := by
  have h := Int.mul_tdiv_add_tmod c 1000000000
  show c - c.tdiv 1000000000 * 1000000000 = c.tmod 1000000000
  omega

/-- **The nanoseconds are negative** for a negative duration that is not a
whole number of seconds. -/
theorem chronoToTimespec_nsec_neg {c : Int} (h0 : c < 0) (hd : ¬ 1000000000 ∣ c) :
    (chronoToTimespec c).tvNsec < 0 := by
  have hne : c.tmod 1000000000 ≠ 0 := fun h => hd (Int.dvd_of_tmod_eq_zero h)
  have hle : 0 ≤ (-c).tmod 1000000000 := Int.tmod_nonneg _ (by omega)
  rw [Int.neg_tmod] at hle
  rw [chronoToTimespec_nsec]
  omega

theorem chronoToTimespec_nsec_nonneg {c : Int} (h : 0 ≤ c ∨ 1000000000 ∣ c) :
    0 ≤ (chronoToTimespec c).tvNsec := by
  rw [chronoToTimespec_nsec]
  rcases h with h0 | hd
  · exact Int.tmod_nonneg _ h0
  · rw [Int.tmod_eq_zero_of_dvd hd]

theorem chronoToTimespec_nsec_lt (c : Int) : (chronoToTimespec c).tvNsec < 1000000000 := by
  rw [chronoToTimespec_nsec]
  exact Int.tmod_lt_of_pos c (by decide)

/-! ### In 64 bits -/

structure Timeval where
  tvSec : Int
  tvUsec : Int
  deriving DecidableEq, Repr

namespace Checked

open CInt

/-- `duration_cast` to seconds, and the rest in `unit`s of a second. -/
def split (unit c : Int) : Option (Int × Int) := do
  let sec ← div 64 c unit
  let secUnits ← mul 64 sec unit
  let rest ← sub 64 c secUnits
  some (sec, rest)

/-- `std::chrono::seconds(sec) + rest` -/
def join (unit sec rest : Int) : Option Int := do
  let secUnits ← mul 64 sec unit
  add 64 secUnits rest

def chronoToTimeval (c : Int) : Option Timeval := do
  let (sec, rest) ← split 1000000 c
  some ⟨sec, rest⟩

def timevalToChrono (tv : Timeval) : Option Int := join 1000000 tv.tvSec tv.tvUsec

def chronoToTimespec (c : Int) : Option Timespec := do
  let (sec, rest) ← split 1000000000 c
  some ⟨sec, rest⟩

def timespecToChrono (tv : Timespec) : Option Int := join 1000000000 tv.tvSec tv.tvNsec

def timespecAddChrono (ts : Timespec) (c : Int) : Option Timespec := do
  let sec ← div 64 c 1000000000
  let tvSec ← add 64 ts.tvSec sec
  let secUnits ← mul 64 sec 1000000000
  let rest ← sub 64 c secUnits
  let tvNsec ← add 64 ts.tvNsec rest
  if tvNsec > 999999999 then do
    let tvNsec ← sub 64 tvNsec 1000000000
    let tvSec ← add 64 tvSec 1
    some ⟨tvSec, tvNsec⟩
  else if tvNsec < 0 then do
    let tvNsec ← add 64 tvNsec 1000000000
    let tvSec ← sub 64 tvSec 1
    some ⟨tvSec, tvNsec⟩
  else some ⟨tvSec, tvNsec⟩

/-! ### Splitting and joining -/

section Split

variable {unit c : Int}

/-- The seconds are toward zero: seconds and rest have the sign of the duration. -/
theorem split_sign (hu : 0 < unit) (c : Int) :
    c.tdiv unit * unit + c.tmod unit = c ∧ |c.tmod unit| < unit ∧
      (0 ≤ c → 0 ≤ c.tdiv unit ∧ 0 ≤ c.tmod unit) ∧
      (c ≤ 0 → c.tdiv unit ≤ 0 ∧ c.tmod unit ≤ 0) := by
  refine ⟨Int.tdiv_mul_add_tmod c unit, ?_, fun h => ?_, fun h => ?_⟩
  · have habs := Int.natAbs_tmod c unit
    have hlt := Nat.mod_lt c.natAbs (Int.natAbs_pos.mpr hu.ne')
    rw [Int.abs_eq_natAbs, habs]
    omega
  · exact ⟨Int.tdiv_nonneg h hu.le, Int.tmod_nonneg _ h⟩
  · have hdiv := Int.tdiv_nonneg (Int.neg_nonneg_of_nonpos h) hu.le
    have hmod := Int.tmod_nonneg unit (Int.neg_nonneg_of_nonpos h)
    rw [Int.neg_tdiv] at hdiv
    rw [Int.neg_tmod] at hmod
    exact ⟨by omega, by omega⟩

theorem fits_between {x : Int} (hc : Fits 64 c) (hpos : 0 ≤ c → 0 ≤ x ∧ x ≤ c)
    (hneg : c ≤ 0 → c ≤ x ∧ x ≤ 0) : Fits 64 x := by
  rw [fits_64_iff] at hc ⊢
  rcases le_total 0 c with h | h
  · have := hpos h
    omega
  · have := hneg h
    omega

theorem fits_parts (hu : 0 < unit) (hc : Fits 64 c) :
    Fits 64 (c.tdiv unit) ∧ Fits 64 (c.tdiv unit * unit) ∧ Fits 64 (c.tmod unit) := by
  obtain ⟨hsum, -, hpos, hneg⟩ := split_sign hu c
  have hle : ∀ q : Int, 0 ≤ q → q ≤ q * unit := fun q hq => le_mul_of_one_le_right hq hu
  have hup : 0 ≤ c → 0 ≤ c.tdiv unit ∧ c.tdiv unit ≤ c.tdiv unit * unit ∧ 0 ≤ c.tmod unit :=
    fun h => ⟨(hpos h).1, hle _ (hpos h).1, (hpos h).2⟩
  have hdown : c ≤ 0 → c.tdiv unit ≤ 0 ∧ c.tdiv unit * unit ≤ c.tdiv unit ∧ c.tmod unit ≤ 0 := by
    intro h
    have hq := hle (-(c.tdiv unit)) (by have := hneg h; omega)
    rw [Int.neg_mul] at hq
    exact ⟨(hneg h).1, by omega, (hneg h).2⟩
  refine ⟨fits_between hc (fun h => ?_) (fun h => ?_), fits_between hc (fun h => ?_) (fun h => ?_),
    fits_between hc (fun h => ?_) (fun h => ?_)⟩
  all_goals first
    | have := hup h; omega
    | have := hdown h; omega

/-- **Splitting does not overflow.** -/
theorem split_eq (hu : 0 < unit) (hc : Fits 64 c) :
    split unit c = some (c.tdiv unit, c.tmod unit) := by
  obtain ⟨hsec, hunits, hrest⟩ := fits_parts hu hc
  have hmod : c - c.tdiv unit * unit = c.tmod unit := by
    have := Int.tdiv_mul_add_tmod c unit
    omega
  rw [split, div_of_fits hsec hu.ne', Option.bind_eq_bind, Option.bind_some, mul_of_fits hunits,
    Option.bind_some, sub_of_fits (hmod ▸ hrest), hmod]
  rfl

/-- **What was split is joined again**, at the ends of the range too. -/
theorem join_split (hu : 0 < unit) (hc : Fits 64 c) :
    join unit (c.tdiv unit) (c.tmod unit) = some c := by
  obtain ⟨-, hunits, -⟩ := fits_parts hu hc
  have hsum : c.tdiv unit * unit + c.tmod unit = c := Int.tdiv_mul_add_tmod c unit
  rw [join, mul_of_fits hunits, Option.bind_eq_bind, Option.bind_some,
    add_of_fits (hsum.symm ▸ hc), hsum]

theorem rest_normal_iff (hu : 0 < unit) (c : Int) :
    0 ≤ c.tmod unit ∧ c.tmod unit < unit ↔ 0 ≤ c ∨ unit ∣ c := by
  obtain ⟨-, habs, hpos, hneg⟩ := split_sign hu c
  have hlt := (abs_lt.mp habs).2
  constructor
  · rintro ⟨h0, -⟩
    rcases le_total 0 c with h | h
    · exact Or.inl h
    · have := (hneg h).2
      exact Or.inr (Int.dvd_of_tmod_eq_zero (by omega))
  · rintro (h | h)
    · exact ⟨(hpos h).2, hlt⟩
    · rw [Int.tmod_eq_zero_of_dvd h]
      exact ⟨le_refl 0, hu⟩

end Split

/-! ### The conversions -/

theorem chronoToTimespec_eq {c : Int} (hc : Fits 64 c) :
    chronoToTimespec c = some (Util.chronoToTimespec c) := by
  have hmod : c - c.tdiv 1000000000 * 1000000000 = c.tmod 1000000000 := by
    have := Int.tdiv_mul_add_tmod c 1000000000
    omega
  rw [chronoToTimespec, split_eq (by decide) hc, Util.chronoToTimespec, hmod]
  rfl

/-- A duration is converted to a normal `timespec` and back, without an overflow. -/
def TimespecInvertible (c : Int) : Prop :=
  ∃ ts, chronoToTimespec c = some ts ∧ (0 ≤ ts.tvNsec ∧ ts.tvNsec < 1000000000) ∧
    timespecToChrono ts = some c

/-- The same for microseconds and `timeval`. -/
def TimevalInvertible (c : Int) : Prop :=
  ∃ tv, chronoToTimeval c = some tv ∧ (0 ≤ tv.tvUsec ∧ tv.tvUsec < 1000000) ∧
    timevalToChrono tv = some c

theorem timespecInvertible_iff {c : Int} (hc : Fits 64 c) :
    TimespecInvertible c ↔ 0 ≤ c ∨ 1000000000 ∣ c := by
  have hunit : (0 : Int) < 1000000000 := by decide
  have hconv : chronoToTimespec c = some ⟨c.tdiv 1000000000, c.tmod 1000000000⟩ := by
    rw [chronoToTimespec, split_eq hunit hc]
    rfl
  rw [← rest_normal_iff hunit c]
  constructor
  · rintro ⟨ts, hts, hnormal, -⟩
    obtain rfl := Option.some.inj (hconv.symm.trans hts)
    exact hnormal
  · intro hnormal
    exact ⟨_, hconv, hnormal, join_split hunit hc⟩

theorem timevalInvertible_iff {c : Int} (hc : Fits 64 c) :
    TimevalInvertible c ↔ 0 ≤ c ∨ 1000000 ∣ c := by
  have hunit : (0 : Int) < 1000000 := by decide
  have hconv : chronoToTimeval c = some ⟨c.tdiv 1000000, c.tmod 1000000⟩ := by
    rw [chronoToTimeval, split_eq hunit hc]
    rfl
  rw [← rest_normal_iff hunit c]
  constructor
  · rintro ⟨tv, htv, hnormal, -⟩
    obtain rfl := Option.some.inj (hconv.symm.trans htv)
    exact hnormal
  · intro hnormal
    exact ⟨_, hconv, hnormal, join_split hunit hc⟩

/-- **A duration is converted to a normal value exactly when it is not negative or a whole number of
seconds.**  The sign of the rest is all that goes wrong: by `split_eq` and `join_split` nothing overflows
and every duration comes back. -/
theorem conversions_invertible_iff (c : Int) (hc : Fits 64 c) :
    (TimespecInvertible c ↔ 0 ≤ c ∨ 1000000000 ∣ c) ∧
      (TimevalInvertible c ↔ 0 ≤ c ∨ 1000000 ∣ c) :=
  ⟨timespecInvertible_iff hc, timevalInvertible_iff hc⟩

theorem conversions_invertible_min : ¬ TimespecInvertible (-9223372036854775808) ∧
    ¬ TimevalInvertible (-9223372036854775808) ∧ TimespecInvertible 9223372036854775807 := by
  obtain ⟨hns, hus⟩ := conversions_invertible_iff (-9223372036854775808) (by decide)
  obtain ⟨hmax, -⟩ := conversions_invertible_iff 9223372036854775807 (by decide)
  exact ⟨fun h => absurd (hns.mp h) (by decide), fun h => absurd (hus.mp h) (by decide),
    hmax.mpr (by decide)⟩

/-- Half a second before the epoch has `tv_nsec = -500000000`. -/
theorem conversion_not_normal : chronoToTimespec (-500000000) = some ⟨0, -500000000⟩ ∧
    ¬ ∀ c, Fits 64 c → TimespecInvertible c ∧ TimevalInvertible c := by
  refine ⟨by decide, fun h => ?_⟩
  obtain ⟨⟨ts, hts, hnormal, -⟩, -⟩ := h (-500000000) (by decide)
  have hconv : chronoToTimespec (-500000000) = some ⟨0, -500000000⟩ := by decide
  obtain rfl := Option.some.inj (hconv.symm.trans hts)
  exact absurd hnormal.1 (by decide)

/-! ### Adding -/

/-- A `timespec` in normal form. -/
structure Normal (ts : Timespec) : Prop where
  sec : Fits 64 ts.tvSec
  nsec : 0 ≤ ts.tvNsec ∧ ts.tvNsec < 1000000000

/-- The nanoseconds of a `timespec`. -/
def total (ts : Timespec) : Int := ts.tvSec * 1000000000 + ts.tvNsec

theorem Normal.ext {ts ts' : Timespec} (h : Normal ts) (h' : Normal ts') (heq : total ts = total ts') :
    ts = ts' := by
  obtain ⟨sec, nsec⟩ := ts
  obtain ⟨sec', nsec'⟩ := ts'
  have hn := h.nsec
  have hn' := h'.nsec
  simp only [total] at heq hn hn'
  rw [Timespec.mk.injEq]
  omega

section Add

variable {ts : Timespec} {c : Int}

/-- The seconds of the sum. -/
def sumSec (ts : Timespec) (c : Int) : Int := (total ts + c) / 1000000000

/-- **One correction suffices, and nothing overflows on the way.**  The seconds of the duration and its
rest have one sign, so the seconds before the correction lie between those of `ts` and of the sum. -/
theorem timespecAddChrono_spec (hts : Normal ts) (hc : Fits 64 c) (hsum : Fits 64 (sumSec ts c)) :
    ∃ r, timespecAddChrono ts c = some r ∧ Normal r ∧ total r = total ts + c := by
  have hunit : (0 : Int) < 1000000000 := by decide
  obtain ⟨hsec, hunits, hrest⟩ := fits_parts hunit hc
  obtain ⟨heq, habs, hpos, hneg⟩ := split_sign hunit c
  have hmod : c - c.tdiv 1000000000 * 1000000000 = c.tmod 1000000000 := by omega
  obtain ⟨hlo, hhi⟩ := abs_lt.mp habs
  obtain ⟨hn0, hn1⟩ := hts.nsec
  have htsec := fits_64_iff.mp hts.sec
  have hout := fits_64_iff.mp hsum
  simp only [sumSec, total] at hout
  have hadd : Fits 64 (ts.tvSec + c.tdiv 1000000000) := by
    rw [fits_64_iff]
    rcases le_total 0 c with h | h
    · have := hpos h
      omega
    · have := hneg h
      omega
  have hnsec : Fits 64 (ts.tvNsec + c.tmod 1000000000) := by
    rw [fits_64_iff]
    omega
  rw [timespecAddChrono, bind_of_eq_some (div_of_fits hsec (by decide)),
    bind_of_eq_some (add_of_fits hadd), bind_of_eq_some (mul_of_fits hunits),
    bind_of_eq_some (sub_of_fits (hmod ▸ hrest)), hmod, bind_of_eq_some (add_of_fits hnsec)]
  split
  · next hbig =>
    have hs : Fits 64 (ts.tvSec + c.tdiv 1000000000 + 1) := by
      rw [fits_64_iff]
      omega
    have hns : Fits 64 (ts.tvNsec + c.tmod 1000000000 - 1000000000) := by
      rw [fits_64_iff]
      omega
    rw [bind_of_eq_some (sub_of_fits hns), bind_of_eq_some (add_of_fits hs)]
    refine ⟨_, rfl, ⟨hs, ?_⟩, ?_⟩
    · dsimp only
      omega
    · simp only [total]
      omega
  · next hbig =>
    split
    · next hsmall =>
      have hs : Fits 64 (ts.tvSec + c.tdiv 1000000000 - 1) := by
        rw [fits_64_iff]
        omega
      have hns : Fits 64 (ts.tvNsec + c.tmod 1000000000 + 1000000000) := by
        rw [fits_64_iff]
        omega
      rw [bind_of_eq_some (add_of_fits hns), bind_of_eq_some (sub_of_fits hs)]
      refine ⟨_, rfl, ⟨hs, ?_⟩, ?_⟩
      · dsimp only
        omega
      · simp only [total]
        omega
    · next hsmall =>
      refine ⟨_, rfl, ⟨hadd, ?_⟩, ?_⟩
      · dsimp only
        omega
      · simp only [total]
        omega

theorem timespecAddChrono_eq {r : Timespec} (hts : Normal ts) (hc : Fits 64 c) (hr : Normal r)
    (heq : total r = total ts + c) : timespecAddChrono ts c = some r := by
  have hsum : sumSec ts c = r.tvSec := by
    have hn := hr.nsec
    rw [sumSec, ← heq, total]
    omega
  obtain ⟨r', hr', hnormal, htotal⟩ := timespecAddChrono_spec hts hc (hsum ▸ hr.sec)
  rw [hr', hnormal.ext hr (htotal.trans heq.symm)]

end Add

/-- **Adding a duration is exact and normal**, adding two is adding their sum, and adding a duration and
its opposite changes nothing. -/
theorem timespecAddChrono_exact (ts : Timespec) (hts : Normal ts) :
    (∀ c, Fits 64 c → Fits 64 (sumSec ts c) →
      ∃ r, timespecAddChrono ts c = some r ∧ (0 ≤ r.tvNsec ∧ r.tvNsec < 1000000000) ∧
        r.tvSec * 1000000000 + r.tvNsec = ts.tvSec * 1000000000 + ts.tvNsec + c) ∧
    (∀ a b, Fits 64 a → Fits 64 b → Fits 64 (a + b) → Fits 64 (sumSec ts a) →
      Fits 64 (sumSec ts (a + b)) →
      (timespecAddChrono ts a).bind (fun r => timespecAddChrono r b) = timespecAddChrono ts (a + b)) ∧
    ∀ c, Fits 64 c → Fits 64 (-c) → Fits 64 (sumSec ts c) →
      (timespecAddChrono ts c).bind (fun r => timespecAddChrono r (-c)) = some ts := by
  refine ⟨fun c hc hsum => ?_, fun a b ha hb hab hsum hsum' => ?_, fun c hc hneg hsum => ?_⟩
  · obtain ⟨r, hr, hnormal, htotal⟩ := timespecAddChrono_spec hts hc hsum
    exact ⟨r, hr, hnormal.nsec, htotal⟩
  · obtain ⟨r, hr, hnormal, htotal⟩ := timespecAddChrono_spec hts ha hsum
    obtain ⟨r', hr', hnormal', htotal'⟩ := timespecAddChrono_spec hts hab hsum'
    rw [hr, hr', Option.bind_some]
    exact timespecAddChrono_eq hnormal hb hnormal' (by omega)
  · obtain ⟨r, hr, hnormal, htotal⟩ := timespecAddChrono_spec hts hc hsum
    rw [hr, Option.bind_some]
    exact timespecAddChrono_eq hnormal hneg hts (by omega)

/-- Just before the epoch, back and forth across it. -/
theorem timespecAddChrono_exact_epoch :
    (timespecAddChrono ⟨-1, 999999999⟩ 2).bind (fun r => timespecAddChrono r (-2))
      = some ⟨-1, 999999999⟩ :=
  (timespecAddChrono_exact ⟨-1, 999999999⟩ ⟨by decide, by decide⟩).2.2 2 (by decide) (by decide)
    (by decide)

end Checked

end Opaleye.Util
