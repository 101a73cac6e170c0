import Opaleye.Lib.CInt
import Mathlib.Data.Rat.Floor
import Mathlib.Tactic.Linarith
import Mathlib.Tactic.NormNum

/-!
# The pressure sensor

`libs/sensors/MS5837-30BA.cpp`: `sample` reads two 24-bit words from the sensor
and `calc_pressure` makes a pressure and a temperature of them, with six 16-bit
calibration words.

`calcPressure` follows the types of the source.  All of it is signed arithmetic
but for one quotient: `dT * c6` is divided by `1ULL << 23`, so it is taken modulo
`2 ^ 64` first and the quotient is rounded down, not toward zero; the multiple of
`2 ^ 41` that a negative product brings along is lost again when the sum becomes
an `int32_t` (`calcTemp_eq`).

`exactPressure` has the same formulas without types.  `calcPressure_eq` says that
nothing is lost between the two, for every word and every calibration.
-/

namespace Opaleye.Sensors.MS5837

open CInt

/-! ### Sampling -/

/-- The three bytes of a conversion, most significant first. -/
structure Reading where
  b0 : UInt8
  b1 : UInt8
  b2 : UInt8

def Reading.word (r : Reading) : UInt32 :=
  r.b0.toUInt32 <<< 16 ||| r.b1.toUInt32 <<< 8 ||| r.b2.toUInt32

/-- `MS5837_30BA::sample`: a command and a read for each of the two words. -/
def sample (writeD1 : Bool) (readD1 : Option Reading) (writeD2 : Bool) (readD2 : Option Reading) :
    Option (UInt32 × UInt32) :=
  if writeD1 = false then none
  else
    match readD1 with
    | none => none
    | some d1 =>
      if writeD2 = false then none
      else
        match readD2 with
        | none => none
        | some d2 => some (d1.word, d2.word)

/-! ### `calc_pressure` -/

/-- `CAL_DATA`, without the checksum. -/
structure CalData where
  c1 : UInt16
  c2 : UInt16
  c3 : UInt16
  c4 : UInt16
  c5 : UInt16
  c6 : UInt16

/-- `RESULT` -/
structure Result where
  p1Mbar : Int
  temp1CdegC : Int
  p2Mbar : Int
  temp2DegC : Int

/-- The value of an unsigned word. -/
def val16 (c : UInt16) : Int := c.toNat

def val32 (d : UInt32) : Int := d.toNat

/-- `dT` -/
def calcDT (d2 : UInt32) (data : CalData) : Option Int := do
  let tref ← mul 32 (val16 data.c5) 256
  sub 32 (toSigned 32 (val32 d2)) tref

/-- `TEMP`: the product becomes unsigned before it is divided. -/
def calcTemp (dT : Int) (data : CalData) : Option Int := do
  let prod ← mul 64 dT (val16 data.c6)
  let quot := toUnsigned 64 prod / 2 ^ 23
  some (toSigned 32 (toUnsigned 64 (2000 + quot)))

/-- `base * scale + slope * dT / d`, in 64 bits. -/
def calcLine (base scale slope d dT : Int) : Option Int := do
  let offset ← mul 64 base scale
  let prod ← mul 64 slope dT
  let quot ← div 64 prod d
  add 64 offset quot

/-- `OFF` -/
def calcOff (dT : Int) (data : CalData) : Option Int :=
  calcLine (val16 data.c2) (2 ^ 16) (val16 data.c4) (2 ^ 7) dT

/-- `SENS` -/
def calcSens (dT : Int) (data : CalData) : Option Int :=
  calcLine (val16 data.c1) (2 ^ 15) (val16 data.c3) (2 ^ 8) dT

/-- `(d1 * sens / 2^21 - off) / 2^13`, in 64 bits. -/
def calcP (d1 : UInt32) (sens off : Int) : Option Int := do
  let prod ← mul 64 (val32 d1) sens
  let quot ← div 64 prod (2 ^ 21)
  let diff ← sub 64 quot off
  div 64 diff (2 ^ 13)

/-- `k * x * x`, in 64 bits. -/
def calcSquare (k x : Int) : Option Int := do
  let prod ← mul 64 k x
  mul 64 prod x

/-- `k * x * x / d`, in 64 bits. -/
def calcSquareDiv (k x d : Int) : Option Int := do
  let square ← calcSquare k x
  div 64 square d

/-- `Ti`, `OFFi` and `SENSi`. -/
structure Compensation where
  ti : Int
  offi : Int
  sensi : Int
  deriving DecidableEq

/-- The branch for low temperatures. -/
def calcLow (dT temp : Int) : Option Compensation := do
  let ti ← calcSquareDiv 3 dT (2 ^ 33)
  let diff ← sub 64 temp 2000
  let offi ← calcSquareDiv 3 diff (2 ^ 1)
  let sensi ← calcSquareDiv 5 diff (2 ^ 3)
  let degrees ← div 64 temp 100
  if degrees < -15 then
    let sum ← add 64 temp 1500
    let offVery ← calcSquare 7 sum
    let offi ← add 64 offi offVery
    let sensVery ← calcSquare 4 sum
    let sensi ← add 64 sensi sensVery
    some ⟨ti, offi, sensi⟩
  else some ⟨ti, offi, sensi⟩

/-- The branch for high temperatures. -/
def calcHigh (dT temp : Int) : Option Compensation := do
  let ti ← calcSquareDiv 2 dT (2 ^ 37)
  let diff ← sub 64 temp 2000
  let offi ← calcSquareDiv 1 diff (2 ^ 4)
  some ⟨ti, offi, 0⟩

/-- The second-order terms. -/
def calcCompensation (dT temp : Int) : Option Compensation := do
  let degrees ← div 64 temp 100
  if degrees < 20 then calcLow dT temp else calcHigh dT temp

/-- `P2` and `TEMP2` -/
def calcSecond (d1 : UInt32) (temp off sens : Int) (comp : Compensation) : Option (Int × Int) := do
  let off2 ← sub 64 off comp.offi
  let sens2 ← sub 64 sens comp.sensi
  let diff ← sub 64 temp comp.ti
  let temp2 ← div 64 diff 100
  let p ← calcP d1 sens2 off2
  let p2 ← div 64 p 10
  some (toSigned 32 p2, toSigned 32 temp2)

/-- `MS5837_30BA::calc_pressure`; `none` when a signed operation overflows. -/
def calcPressure (d1 d2 : UInt32) (data : CalData) : Option Result := do
  let dT ← calcDT d2 data
  let temp ← calcTemp dT data
  let off ← calcOff dT data
  let sens ← calcSens dT data
  let p1 ← calcP d1 sens off
  let comp ← calcCompensation dT temp
  let second ← calcSecond d1 temp off sens comp
  some ⟨toSigned 32 p1, temp, second.1, second.2⟩

/-! ### Without types -/

def exactDT (d2 : UInt32) (data : CalData) : Int := val32 d2 - val16 data.c5 * 256

/-- The one quotient that is rounded down. -/
def exactTemp (dT : Int) (data : CalData) : Int := 2000 + (dT * val16 data.c6).fdiv (2 ^ 23)

def exactLine (base scale slope d dT : Int) : Int := base * scale + (slope * dT).tdiv d

def exactOff (dT : Int) (data : CalData) : Int :=
  exactLine (val16 data.c2) (2 ^ 16) (val16 data.c4) (2 ^ 7) dT

def exactSens (dT : Int) (data : CalData) : Int :=
  exactLine (val16 data.c1) (2 ^ 15) (val16 data.c3) (2 ^ 8) dT

def exactP (d1 : UInt32) (sens off : Int) : Int :=
  ((val32 d1 * sens).tdiv (2 ^ 21) - off).tdiv (2 ^ 13)

def exactLow (dT temp : Int) : Compensation :=
  let comp : Compensation :=
    ⟨(3 * dT * dT).tdiv (2 ^ 33), (3 * (temp - 2000) * (temp - 2000)).tdiv (2 ^ 1),
      (5 * (temp - 2000) * (temp - 2000)).tdiv (2 ^ 3)⟩
  if temp.tdiv 100 < -15 then
    { comp with
      offi := comp.offi + 7 * (temp + 1500) * (temp + 1500)
      sensi := comp.sensi + 4 * (temp + 1500) * (temp + 1500) }
  else comp

def exactHigh (dT temp : Int) : Compensation :=
  ⟨(2 * dT * dT).tdiv (2 ^ 37), (1 * (temp - 2000) * (temp - 2000)).tdiv (2 ^ 4), 0⟩

def exactCompensation (dT temp : Int) : Compensation :=
  if temp.tdiv 100 < 20 then exactLow dT temp else exactHigh dT temp

def exactSecond (d1 : UInt32) (temp off sens : Int) (comp : Compensation) : Int × Int :=
  ((exactP d1 (sens - comp.sensi) (off - comp.offi)).tdiv 10, (temp - comp.ti).tdiv 100)

/-- The formulas of `calc_pressure` in unbounded integers. -/
def exactPressure (d1 d2 : UInt32) (data : CalData) : Result :=
  let dT := exactDT d2 data
  let temp := exactTemp dT data
  let off := exactOff dT data
  let sens := exactSens dT data
  let second := exactSecond d1 temp off sens (exactCompensation dT temp)
  ⟨exactP d1 sens off, temp, second.1, second.2⟩

/-! ### Nothing is lost -/

theorem abs_val16_le (c : UInt16) : |val16 c| ≤ 2 ^ 16 := by
  have h := c.toNat_lt
  rw [val16, abs_of_nonneg (Int.natCast_nonneg _)]
  omega

variable {d1 d2 : UInt32} {data : CalData} {dT temp sens off : Int}

theorem abs_val32_le (h : d1.toNat < 2 ^ 24) : |val32 d1| ≤ 2 ^ 24 := by
  rw [val32, abs_of_nonneg (Int.natCast_nonneg _)]
  omega

theorem abs_exactDT_le (h : d2.toNat < 2 ^ 24) : |exactDT d2 data| ≤ 2 ^ 24 := by
  have h5 := data.c5.toNat_lt
  rw [exactDT, val32, val16, abs_le]
  omega

theorem calcDT_eq (h : d2.toNat < 2 ^ 24) : calcDT d2 data = some (exactDT d2 data) := by
  have h5 := abs_mul_le (abs_val16_le data.c5) (le_refl |(256 : Int)|)
  have hmul : mul 32 (val16 data.c5) 256 = some (val16 data.c5 * 256) :=
    mul_of_abs_le h5 (by norm_num)
  have hd2 : toSigned 32 (val32 d2) = val32 d2 :=
    toSigned_of_abs_le (abs_val32_le h) (by norm_num) (by norm_num)
  rw [calcDT, hmul, hd2]
  exact sub_of_abs_le (abs_exactDT_le h) (by norm_num)

theorem abs_exactTemp_le (h : |dT| ≤ 2 ^ 24) : |exactTemp dT data - 2000| ≤ 2 ^ 17 := by
  have hprod := abs_le.mp (abs_mul_le h (abs_val16_le data.c6))
  rw [exactTemp, Int.fdiv_eq_ediv_of_nonneg _ (by norm_num), abs_le]
  generalize dT * val16 data.c6 = prod at hprod ⊢
  omega

/-- **The unsigned quotient is the one rounded down.** -/
theorem calcTemp_eq (h : |dT| ≤ 2 ^ 24) : calcTemp dT data = some (exactTemp dT data) := by
  have hprod := abs_mul_le h (abs_val16_le data.c6)
  have hmul : mul 64 dT (val16 data.c6) = some (dT * val16 data.c6) :=
    mul_of_abs_le hprod (by norm_num)
  have htemp : |exactTemp dT data - 2000| ≤ 2 ^ 17 := abs_exactTemp_le h
  rw [calcTemp, hmul]
  show some _ = _
  congr 1
  rw [exactTemp, Int.fdiv_eq_ediv_of_nonneg _ (by norm_num)] at htemp ⊢
  generalize dT * val16 data.c6 = prod at hprod htemp ⊢
  obtain ⟨hlo, hhi⟩ := abs_le.mp hprod
  rcases le_or_gt 0 prod with hpos | hneg
  · have hsum : toUnsigned 64 (2000 + toUnsigned 64 prod / 2 ^ 23) = 2000 + prod / 2 ^ 23 := by
      rw [toUnsigned, toUnsigned]
      omega
    rw [hsum]
    exact toSigned_of_abs_le (b := 2 ^ 18) (by rw [abs_le] at htemp ⊢; omega) (by norm_num)
      (by norm_num)
  · -- the product is `2 ^ 64` too large, so the sum is `2 ^ 41` too large
    have hsum : toUnsigned 64 (2000 + toUnsigned 64 prod / 2 ^ 23)
        = 2000 + prod / 2 ^ 23 + 2 ^ 32 * 2 ^ 9 := by
      rw [toUnsigned, toUnsigned]
      omega
    rw [hsum, toSigned_add_mul]
    exact toSigned_of_abs_le (b := 2 ^ 18) (by rw [abs_le] at htemp ⊢; omega) (by norm_num)
      (by norm_num)

theorem calcLine_eq {base scale slope d : Int} (hbase : |base| ≤ 2 ^ 16) (hscale : |scale| ≤ 2 ^ 16)
    (hslope : |slope| ≤ 2 ^ 16) (hd : 2 ^ 7 ≤ d) (h : |dT| ≤ 2 ^ 24) :
    calcLine base scale slope d dT = some (exactLine base scale slope d dT) ∧
      |exactLine base scale slope d dT| ≤ 2 ^ 34 := by
  have hoffset := abs_mul_le hbase hscale
  have hprod := abs_mul_le hslope h
  have hquot : |(slope * dT).tdiv d| ≤ 2 ^ 33 :=
    abs_tdiv_le (by omega) (le_trans hprod (by omega))
  have hsum : |base * scale + (slope * dT).tdiv d| ≤ 2 ^ 34 :=
    le_trans (abs_add_le _ _) (by omega)
  have hmul : mul 64 base scale = some (base * scale) := mul_of_abs_le hoffset (by norm_num)
  have hmul' : mul 64 slope dT = some (slope * dT) := mul_of_abs_le hprod (by norm_num)
  have hdiv : div 64 (slope * dT) d = some ((slope * dT).tdiv d) :=
    div_of_abs_le hquot (by norm_num) (by omega)
  refine ⟨?_, hsum⟩
  rw [calcLine, hmul, hmul']
  show (div 64 (slope * dT) d).bind _ = _
  rw [hdiv]
  exact add_of_abs_le hsum (by norm_num)

theorem calcOff_eq (h : |dT| ≤ 2 ^ 24) :
    calcOff dT data = some (exactOff dT data) ∧ |exactOff dT data| ≤ 2 ^ 34 :=
  calcLine_eq (abs_val16_le _) (by norm_num) (abs_val16_le _) (by norm_num) h

theorem calcSens_eq (h : |dT| ≤ 2 ^ 24) :
    calcSens dT data = some (exactSens dT data) ∧ |exactSens dT data| ≤ 2 ^ 34 :=
  calcLine_eq (abs_val16_le _) (by norm_num) (abs_val16_le _) (by norm_num) h

theorem calcP_eq (h1 : d1.toNat < 2 ^ 24) (hs : |sens| ≤ 2 ^ 37) (ho : |off| ≤ 2 ^ 39) :
    calcP d1 sens off = some (exactP d1 sens off) ∧ |exactP d1 sens off| ≤ 2 ^ 28 := by
  have hprod := abs_mul_le (abs_val32_le h1) hs
  have hquot : |(val32 d1 * sens).tdiv (2 ^ 21)| ≤ 2 ^ 40 :=
    abs_tdiv_le (by norm_num) (le_trans hprod (by norm_num))
  have hdiff : |(val32 d1 * sens).tdiv (2 ^ 21) - off| ≤ 2 ^ 41 :=
    le_trans (abs_sub _ _) (by omega)
  have hp : |exactP d1 sens off| ≤ 2 ^ 28 :=
    abs_tdiv_le (by norm_num) (le_trans hdiff (by norm_num))
  have hmul : mul 64 (val32 d1) sens = some (val32 d1 * sens) := mul_of_abs_le hprod (by norm_num)
  have hdiv : div 64 (val32 d1 * sens) (2 ^ 21) = some ((val32 d1 * sens).tdiv (2 ^ 21)) :=
    div_of_abs_le hquot (by norm_num) (by norm_num)
  have hsub : sub 64 ((val32 d1 * sens).tdiv (2 ^ 21)) off
      = some ((val32 d1 * sens).tdiv (2 ^ 21) - off) := sub_of_abs_le hdiff (by norm_num)
  refine ⟨?_, hp⟩
  rw [calcP, hmul]
  show (div 64 (val32 d1 * sens) (2 ^ 21)).bind _ = _
  rw [hdiv]
  show (sub 64 ((val32 d1 * sens).tdiv (2 ^ 21)) off).bind _ = _
  rw [hsub]
  exact div_of_abs_le hp (by norm_num) (by norm_num)

theorem abs_square_le {k x a b : Int} (hk : |k| ≤ b) (hx : |x| ≤ a) : |k * x * x| ≤ b * a * a :=
  abs_mul_le (abs_mul_le hk hx) hx

theorem calcSquare_eq {k x : Int} (hk : |k| ≤ 2 ^ 3) (hx : |x| ≤ 2 ^ 24) :
    calcSquare k x = some (k * x * x) := by
  have hmul : mul 64 k x = some (k * x) := mul_of_abs_le (abs_mul_le hk hx) (by norm_num)
  rw [calcSquare, hmul]
  exact mul_of_abs_le (abs_square_le hk hx) (by norm_num)

theorem calcSquareDiv_eq {k x a b d : Int} (hk : |k| ≤ 2 ^ 3) (hx : |x| ≤ a) (ha : a ≤ 2 ^ 24)
    (hd : 0 < d) (hb : 2 ^ 3 * a * a ≤ b * d) (hb' : b < 2 ^ 63) :
    calcSquareDiv k x d = some ((k * x * x).tdiv d) := by
  rw [calcSquareDiv, calcSquare_eq hk (le_trans hx ha)]
  exact div_of_abs_le (abs_tdiv_le hd (le_trans (abs_square_le hk hx) hb)) hb' hd.ne'

theorem calcDegrees_eq (ht : |temp - 2000| ≤ 2 ^ 17) : div 64 temp 100 = some (temp.tdiv 100) := by
  have habs : |temp| ≤ 2 ^ 18 * 100 := by
    rw [abs_le] at ht ⊢
    omega
  exact div_of_abs_le (abs_tdiv_le (by norm_num) habs) (by norm_num) (by norm_num)

theorem calcHigh_eq (h : |dT| ≤ 2 ^ 24) (ht : |temp - 2000| ≤ 2 ^ 17) :
    calcHigh dT temp = some (exactHigh dT temp) := by
  have hti : calcSquareDiv 2 dT (2 ^ 37) = some ((2 * dT * dT).tdiv (2 ^ 37)) :=
    calcSquareDiv_eq (b := 2 ^ 14) (by norm_num) h (by norm_num) (by norm_num) (by norm_num)
      (by norm_num)
  have hdiff : sub 64 temp 2000 = some (temp - 2000) := sub_of_abs_le ht (by norm_num)
  have hoffi : calcSquareDiv 1 (temp - 2000) (2 ^ 4)
      = some ((1 * (temp - 2000) * (temp - 2000)).tdiv (2 ^ 4)) :=
    calcSquareDiv_eq (b := 2 ^ 33) (by norm_num) ht (by norm_num) (by norm_num) (by norm_num)
      (by norm_num)
  simp only [calcHigh, hti, hdiff, hoffi, Option.bind_eq_bind, Option.bind_some]
  rfl

/-- What the second-order terms can be. -/
structure Bounded (comp : Compensation) : Prop where
  ti : |comp.ti| ≤ 2 ^ 17
  offi : |comp.offi| ≤ 2 ^ 38
  sensi : |comp.sensi| ≤ 2 ^ 37 - 2 ^ 34

theorem bounded_exactHigh (h : |dT| ≤ 2 ^ 24) (ht : |temp - 2000| ≤ 2 ^ 17) :
    Bounded (exactHigh dT temp) where
  ti := abs_tdiv_le (by norm_num) (le_trans (abs_square_le (le_refl |(2 : Int)|) h) (by norm_num))
  offi := abs_tdiv_le (by norm_num)
    (le_trans (abs_square_le (le_refl |(1 : Int)|) ht) (by norm_num))
  sensi := by norm_num [exactHigh]

theorem abs_sum_le (ht : |temp - 2000| ≤ 2 ^ 17) : |temp + 1500| ≤ 2 ^ 17 + 3500 := by
  rw [abs_le] at ht ⊢
  omega

theorem bounded_exactLow (h : |dT| ≤ 2 ^ 24) (ht : |temp - 2000| ≤ 2 ^ 17) :
    Bounded (exactLow dT temp) := by
  have hti : |(3 * dT * dT).tdiv (2 ^ 33)| ≤ 2 ^ 17 :=
    abs_tdiv_le (by norm_num) (le_trans (abs_square_le (le_refl |(3 : Int)|) h) (by norm_num))
  have hoffi : |(3 * (temp - 2000) * (temp - 2000)).tdiv (2 ^ 1)| ≤ 3 * 2 ^ 33 :=
    abs_tdiv_le (by norm_num) (le_trans (abs_square_le (le_refl |(3 : Int)|) ht) (by norm_num))
  have hsensi : |(5 * (temp - 2000) * (temp - 2000)).tdiv (2 ^ 3)| ≤ 5 * 2 ^ 31 :=
    abs_tdiv_le (by norm_num) (le_trans (abs_square_le (le_refl |(5 : Int)|) ht) (by norm_num))
  have hoffVery : |7 * (temp + 1500) * (temp + 1500)| ≤ 7 * (2 ^ 17 + 3500) * (2 ^ 17 + 3500) :=
    abs_square_le (by norm_num) (abs_sum_le ht)
  have hsensVery : |4 * (temp + 1500) * (temp + 1500)| ≤ 4 * (2 ^ 17 + 3500) * (2 ^ 17 + 3500) :=
    abs_square_le (by norm_num) (abs_sum_le ht)
  rw [exactLow]
  dsimp only
  split
  · exact ⟨hti, le_trans (abs_add_le _ _) (by omega), le_trans (abs_add_le _ _) (by omega)⟩
  · exact ⟨hti, by dsimp only; omega, by dsimp only; omega⟩

theorem calcLow_eq (h : |dT| ≤ 2 ^ 24) (ht : |temp - 2000| ≤ 2 ^ 17) :
    calcLow dT temp = some (exactLow dT temp) := by
  have hbound := bounded_exactLow h ht
  have hti : calcSquareDiv 3 dT (2 ^ 33) = some ((3 * dT * dT).tdiv (2 ^ 33)) :=
    calcSquareDiv_eq (b := 2 ^ 18) (by norm_num) h (by norm_num) (by norm_num) (by norm_num)
      (by norm_num)
  have hdiff : sub 64 temp 2000 = some (temp - 2000) := sub_of_abs_le ht (by norm_num)
  have hoffi : calcSquareDiv 3 (temp - 2000) (2 ^ 1)
      = some ((3 * (temp - 2000) * (temp - 2000)).tdiv (2 ^ 1)) :=
    calcSquareDiv_eq (b := 2 ^ 36) (by norm_num) ht (by norm_num) (by norm_num) (by norm_num)
      (by norm_num)
  have hsensi : calcSquareDiv 5 (temp - 2000) (2 ^ 3)
      = some ((5 * (temp - 2000) * (temp - 2000)).tdiv (2 ^ 3)) :=
    calcSquareDiv_eq (b := 2 ^ 34) (by norm_num) ht (by norm_num) (by norm_num) (by norm_num)
      (by norm_num)
  simp only [calcLow, hti, hdiff, hoffi, hsensi, calcDegrees_eq ht, Option.bind_eq_bind,
    Option.bind_some]
  rw [exactLow] at hbound ⊢
  dsimp only at hbound ⊢
  split
  · next hvery =>
    rw [if_pos hvery] at hbound
    have hsum : add 64 temp 1500 = some (temp + 1500) :=
      add_of_abs_le (abs_sum_le ht) (by norm_num)
    have hle : |temp + 1500| ≤ 2 ^ 24 := le_trans (abs_sum_le ht) (by norm_num)
    have hadd := add_of_abs_le (w := 64) hbound.offi (by norm_num)
    have hadd' := add_of_abs_le (w := 64) (le_trans hbound.sensi (by norm_num : _ ≤ (2 ^ 37 : Int)))
      (by norm_num)
    simp only [hsum, calcSquare_eq (by norm_num : |(7 : Int)| ≤ 2 ^ 3) hle,
      calcSquare_eq (by norm_num : |(4 : Int)| ≤ 2 ^ 3) hle, hadd, hadd', Option.bind_some]
  · rfl

theorem calcCompensation_eq (h : |dT| ≤ 2 ^ 24) (ht : |temp - 2000| ≤ 2 ^ 17) :
    calcCompensation dT temp = some (exactCompensation dT temp) ∧
      Bounded (exactCompensation dT temp) := by
  rw [calcCompensation, exactCompensation, calcDegrees_eq ht]
  simp only [Option.bind_eq_bind, Option.bind_some]
  split
  · exact ⟨calcLow_eq h ht, bounded_exactLow h ht⟩
  · exact ⟨calcHigh_eq h ht, bounded_exactHigh h ht⟩

/-- The two results fit in 32 bits, so nothing is lost when they are stored. -/
theorem calcSecond_eq {comp : Compensation} (h1 : d1.toNat < 2 ^ 24) (ht : |temp - 2000| ≤ 2 ^ 17)
    (ho : |off| ≤ 2 ^ 34) (hs : |sens| ≤ 2 ^ 34) (hc : Bounded comp) :
    calcSecond d1 temp off sens comp = some (exactSecond d1 temp off sens comp) ∧
      |(exactSecond d1 temp off sens comp).1| ≤ 2 ^ 28 ∧
      |(exactSecond d1 temp off sens comp).2| ≤ 2 ^ 28 := by
  have htemp : |temp| ≤ 2 ^ 18 := by
    rw [abs_le] at ht ⊢
    omega
  have hoffi := hc.offi
  have hsensi := hc.sensi
  have hti := hc.ti
  have hoff2 : |off - comp.offi| ≤ 2 ^ 39 := le_trans (abs_sub _ _) (by omega)
  have hsens2 : |sens - comp.sensi| ≤ 2 ^ 37 := le_trans (abs_sub _ _) (by omega)
  have hdiff : |temp - comp.ti| ≤ 2 ^ 19 := le_trans (abs_sub _ _) (by omega)
  have htemp2 : |(temp - comp.ti).tdiv 100| ≤ 2 ^ 28 :=
    abs_tdiv_le (by norm_num) (le_trans hdiff (by norm_num))
  obtain ⟨hcalcP, hp⟩ := calcP_eq h1 hsens2 hoff2
  have hp2 : |(exactP d1 (sens - comp.sensi) (off - comp.offi)).tdiv 10| ≤ 2 ^ 28 :=
    abs_tdiv_le (by norm_num) (le_trans hp (by norm_num))
  refine ⟨?_, hp2, htemp2⟩
  rw [calcSecond, bind_of_eq_some (sub_of_abs_le hoff2 (by norm_num)),
    bind_of_eq_some (sub_of_abs_le hsens2 (by norm_num)),
    bind_of_eq_some (sub_of_abs_le hdiff (by norm_num)),
    bind_of_eq_some (div_of_abs_le htemp2 (by norm_num) (by norm_num)), bind_of_eq_some hcalcP,
    bind_of_eq_some (div_of_abs_le hp2 (by norm_num) (by norm_num)),
    toSigned_of_abs_le hp2 (by norm_num) (by norm_num),
    toSigned_of_abs_le htemp2 (by norm_num) (by norm_num)]
  rfl

/-- **`calc_pressure` stays inside its types and loses nothing.** -/
theorem calcPressure_eq (data : CalData) (h1 : d1.toNat < 2 ^ 24) (h2 : d2.toNat < 2 ^ 24) :
    calcPressure d1 d2 data = some (exactPressure d1 d2 data) ∧
      |(exactPressure d1 d2 data).p1Mbar| ≤ 2 ^ 28 ∧
      |(exactPressure d1 d2 data).temp1CdegC| ≤ 2 ^ 28 ∧
      |(exactPressure d1 d2 data).p2Mbar| ≤ 2 ^ 28 ∧
      |(exactPressure d1 d2 data).temp2DegC| ≤ 2 ^ 28 := by
  have hdT : |exactDT d2 data| ≤ 2 ^ 24 := abs_exactDT_le h2
  have htemp : |exactTemp (exactDT d2 data) data - 2000| ≤ 2 ^ 17 := abs_exactTemp_le hdT
  have hoff : calcOff (exactDT d2 data) data = some _ ∧ _ := calcOff_eq hdT
  have hsens : calcSens (exactDT d2 data) data = some _ ∧ _ := calcSens_eq hdT
  have hcomp := calcCompensation_eq hdT htemp
  have hp1 := calcP_eq h1 (le_trans hsens.2 (by norm_num)) (le_trans hoff.2 (by norm_num))
  have hsecond := calcSecond_eq h1 htemp hoff.2 hsens.2 hcomp.2
  refine ⟨?_, hp1.2, ?_, hsecond.2⟩
  · rw [calcPressure, bind_of_eq_some (calcDT_eq h2), bind_of_eq_some (calcTemp_eq hdT),
      bind_of_eq_some hoff.1, bind_of_eq_some hsens.1, bind_of_eq_some hp1.1,
      bind_of_eq_some hcomp.1, bind_of_eq_some hsecond.1,
      toSigned_of_abs_le hp1.2 (by norm_num) (by norm_num)]
    rfl
  · show |exactTemp (exactDT d2 data) data| ≤ 2 ^ 28
    rw [abs_le] at htemp ⊢
    omega

theorem Reading.word_lt (r : Reading) : r.word.toNat < 2 ^ 24 := by
  have h0 := r.b0.toNat_lt
  have h1 := r.b1.toNat_lt
  have h2 := r.b2.toNat_lt
  rw [Reading.word, UInt32.toNat_or, UInt32.toNat_or]
  refine Nat.or_lt_two_pow (Nat.or_lt_two_pow ?_ ?_) ?_
  · rw [UInt32.toNat_shiftLeft, UInt8.toNat_toUInt32]
    simp [Nat.shiftLeft_eq]
    omega
  · rw [UInt32.toNat_shiftLeft, UInt8.toNat_toUInt32]
    simp [Nat.shiftLeft_eq]
    omega
  · rw [UInt8.toNat_toUInt32]
    omega

theorem sample_lt {writeD1 writeD2 : Bool} {readD1 readD2 : Option Reading}
    (h : sample writeD1 readD1 writeD2 readD2 = some (d1, d2)) :
    d1.toNat < 2 ^ 24 ∧ d2.toNat < 2 ^ 24 := by
  unfold sample at h
  split at h
  · cases h
  split at h
  · cases h
  split at h
  · cases h
  split at h
  · cases h
  cases h
  exact ⟨Reading.word_lt _, Reading.word_lt _⟩

theorem exactTemp_eq_floor (dT : Int) (data : CalData) :
    exactTemp dT data = 2000 + ⌊((dT * val16 data.c6 : Int) : ℚ) / 2 ^ 23⌋ := by
  have h := Rat.floor_intCast_div_natCast (dT * val16 data.c6) (2 ^ 23)
  rw [Nat.cast_pow, Nat.cast_pow, Nat.cast_ofNat, Nat.cast_ofNat] at h
  rw [exactTemp, Int.fdiv_eq_ediv_of_nonneg _ (by norm_num), h]

/-- **The four results are those of the formulas**, the temperature with its
quotient rounded down and all others toward zero, and they fit in 32 bits. -/
theorem calcPressure_exact (d1 d2 : UInt32) (data : CalData) (h1 : d1.toNat < 2 ^ 24)
    (h2 : d2.toNat < 2 ^ 24) :
    ∃ r, calcPressure d1 d2 data = some r ∧ r = exactPressure d1 d2 data ∧
      r.temp1CdegC = 2000 + ⌊((exactDT d2 data * val16 data.c6 : Int) : ℚ) / 2 ^ 23⌋ ∧
      Fits 32 r.p1Mbar ∧ Fits 32 r.temp1CdegC ∧ Fits 32 r.p2Mbar ∧ Fits 32 r.temp2DegC := by
  obtain ⟨heq, hp1, htemp1, hp2, htemp2⟩ := calcPressure_eq data h1 h2
  refine ⟨_, heq, rfl, exactTemp_eq_floor _ _, ?_, ?_, ?_, ?_⟩
  · exact fits_of_abs_le hp1 (by norm_num)
  · exact fits_of_abs_le htemp1 (by norm_num)
  · exact fits_of_abs_le hp2 (by norm_num)
  · exact fits_of_abs_le htemp2 (by norm_num)

theorem calcPressure_exact_datasheet :
    ∃ r, calcPressure 4958179 6815414 ⟨34982, 36352, 20328, 22354, 26646, 26146⟩ = some r ∧
      r.p1Mbar = 39998 ∧ r.temp1CdegC = 1981 := by
  obtain ⟨r, hr, heq, -⟩ := calcPressure_exact 4958179 6815414
    ⟨34982, 36352, 20328, 22354, 26646, 26146⟩ (by decide) (by decide)
  refine ⟨r, hr, ?_⟩
  rw [heq]
  decide

/-! ### Accuracy -/

/-- `base * scale + slope * dT / d`, not rounded. -/
def idealLine (base scale slope d dT : Int) : ℚ := base * scale + slope * dT / d

/-- The pressure without any rounding. -/
def idealP1 (d1 d2 : UInt32) (data : CalData) : ℚ :=
  let dT := exactDT d2 data
  let sens := idealLine (val16 data.c1) (2 ^ 15) (val16 data.c3) (2 ^ 8) dT
  let off := idealLine (val16 data.c2) (2 ^ 16) (val16 data.c4) (2 ^ 7) dT
  (val32 d1 * sens / 2 ^ 21 - off) / 2 ^ 13

theorem abs_exactLine_sub_lt (base scale slope dT : Int) {d : Int} (hd : 0 < d) :
    |(exactLine base scale slope d dT : ℚ) - idealLine base scale slope d dT| < 1 := by
  have h := abs_tdiv_sub_lt (slope * dT) hd
  rw [Int.cast_mul] at h
  rw [exactLine, idealLine, Int.cast_add, Int.cast_mul, add_sub_add_left_eq_sub]
  exact h

/-- The two quotients of a pressure, and the error its sensitivity and offset bring
along: the first is scaled by `d1 / 2 ^ 21`, which is below 8. -/
theorem abs_exactP_sub_lt (h1 : d1.toNat < 2 ^ 24) {sensQ offQ : ℚ} (hs : |(sens : ℚ) - sensQ| < 1)
    (ho : |(off : ℚ) - offQ| < 1) :
    |(exactP d1 sens off : ℚ) - (val32 d1 * sensQ / 2 ^ 21 - offQ) / 2 ^ 13| < 101 / 100 := by
  have hd1 : (0 : ℚ) ≤ val32 d1 ∧ (val32 d1 : ℚ) ≤ 2 ^ 24 := by
    have h := abs_val32_le h1
    rw [val32, abs_of_nonneg (Int.natCast_nonneg _)] at h
    rw [val32]
    exact ⟨by exact_mod_cast Nat.zero_le _, by exact_mod_cast h⟩
  have hinner := abs_lt.mp (abs_tdiv_sub_lt (val32 d1 * sens) (d := 2 ^ 21) (by norm_num))
  have houter := abs_lt.mp (abs_tdiv_sub_lt ((val32 d1 * sens).tdiv (2 ^ 21) - off) (d := 2 ^ 13)
    (by norm_num))
  have hscaled : |(val32 d1 : ℚ) * (sens - sensQ)| ≤ 2 ^ 24 := by
    rw [abs_mul, abs_of_nonneg hd1.1]
    calc (val32 d1 : ℚ) * |(sens : ℚ) - sensQ| ≤ 2 ^ 24 * 1 :=
          mul_le_mul hd1.2 hs.le (abs_nonneg _) (by norm_num)
      _ = 2 ^ 24 := mul_one _
  rw [exactP]
  push_cast at hinner houter ⊢
  generalize ((((val32 d1 * sens).tdiv 2097152 - off).tdiv 8192 : Int) : ℚ) = p at houter ⊢
  generalize (((val32 d1 * sens).tdiv 2097152 : Int) : ℚ) = q at hinner houter
  rw [abs_le, mul_sub] at hscaled
  rw [abs_lt] at hs ho ⊢
  constructor <;> linarith

/-- `SENS`, as computed. -/
def computedSens (d2 : UInt32) (data : CalData) : Option Int := do
  let dT ← calcDT d2 data
  calcSens dT data

/-- `SENS2`, as computed. -/
def computedSens2 (d2 : UInt32) (data : CalData) : Option Int := do
  let dT ← calcDT d2 data
  let temp ← calcTemp dT data
  let sens ← calcSens dT data
  let comp ← calcCompensation dT temp
  sub 64 sens comp.sensi

theorem computedSens_eq (h2 : d2.toNat < 2 ^ 24) :
    computedSens d2 data = some (exactSens (exactDT d2 data) data) := by
  rw [computedSens, bind_of_eq_some (calcDT_eq h2)]
  exact (calcSens_eq (abs_exactDT_le h2)).1

theorem computedSens2_eq (h2 : d2.toNat < 2 ^ 24) :
    computedSens2 d2 data = some (exactSens (exactDT d2 data) data -
      (exactCompensation (exactDT d2 data) (exactTemp (exactDT d2 data) data)).sensi) := by
  have hdT : |exactDT d2 data| ≤ 2 ^ 24 := abs_exactDT_le h2
  have hsens : calcSens (exactDT d2 data) data = some _ ∧ _ := calcSens_eq hdT
  have htemp : |exactTemp (exactDT d2 data) data - 2000| ≤ 2 ^ 17 := abs_exactTemp_le hdT
  have hcomp := calcCompensation_eq hdT htemp
  have hsensi := hcomp.2.sensi
  have hsens' := hsens.2
  rw [computedSens2, bind_of_eq_some (calcDT_eq h2), bind_of_eq_some (calcTemp_eq hdT),
    bind_of_eq_some hsens.1, bind_of_eq_some hcomp.1]
  exact sub_of_abs_le (b := 2 ^ 37) (le_trans (abs_sub _ _) (by omega)) (by norm_num)

/-- A quotient that truncates toward zero is monotone on both sides of zero. -/
theorem exactP_mono {d1' : UInt32} (h : d1.toNat ≤ d1'.toNat) (hs : 0 ≤ sens) :
    exactP d1 sens off ≤ exactP d1' sens off := by
  have hval : val32 d1 ≤ val32 d1' := by
    rw [val32, val32]
    omega
  have hprod : val32 d1 * sens ≤ val32 d1' * sens := Int.mul_le_mul_of_nonneg_right hval hs
  have hquot := Int.tdiv_le_tdiv (c := 2 ^ 21) (by norm_num) hprod
  exact Int.tdiv_le_tdiv (by norm_num) (Int.sub_le_sub_right hquot off)

/-- **The pressure is accurate, and it does not fall when the word of the pressure
rises**, the first-order one while `SENS` is not negative and the second-order one
while `SENS2` is not. -/
theorem calcPressure_accurate_and_mono (d2 : UInt32) (data : CalData) (h2 : d2.toNat < 2 ^ 24) :
    (∀ d1 : UInt32, d1.toNat < 2 ^ 24 → ∃ r, calcPressure d1 d2 data = some r ∧
      |(r.p1Mbar : ℚ) - idealP1 d1 d2 data| < 101 / 100) ∧
    (∀ d1 d1' : UInt32, d1.toNat ≤ d1'.toNat → d1'.toNat < 2 ^ 24 →
      ∃ r r', calcPressure d1 d2 data = some r ∧ calcPressure d1' d2 data = some r' ∧
        (∀ sens, computedSens d2 data = some sens → 0 ≤ sens → r.p1Mbar ≤ r'.p1Mbar) ∧
        (∀ sens2, computedSens2 d2 data = some sens2 → 0 ≤ sens2 → r.p2Mbar ≤ r'.p2Mbar)) := by
  constructor
  · intro d1 h1
    refine ⟨_, (calcPressure_eq data h1 h2).1, ?_⟩
    have hs := abs_exactLine_sub_lt (val16 data.c1) (2 ^ 15) (val16 data.c3) (exactDT d2 data)
      (d := 2 ^ 8) (by norm_num)
    have ho := abs_exactLine_sub_lt (val16 data.c2) (2 ^ 16) (val16 data.c4) (exactDT d2 data)
      (d := 2 ^ 7) (by norm_num)
    exact abs_exactP_sub_lt h1 hs ho
  · intro d1 d1' hle h1'
    refine ⟨_, _, (calcPressure_eq data (lt_of_le_of_lt hle h1') h2).1,
      (calcPressure_eq data h1' h2).1, ?_, ?_⟩
    · intro sens hsens hpos
      rw [computedSens_eq h2] at hsens
      cases hsens
      exact exactP_mono hle hpos
    · intro sens2 hsens2 hpos
      rw [computedSens2_eq h2] at hsens2
      cases hsens2
      exact Int.tdiv_le_tdiv (by norm_num) (exactP_mono hle hpos)

theorem calcPressure_accurate_and_mono_datasheet :
    ∃ r r',
      calcPressure 4958179 6815414 ⟨34982, 36352, 20328, 22354, 26646, 26146⟩ = some r ∧
      calcPressure 4958180 6815414 ⟨34982, 36352, 20328, 22354, 26646, 26146⟩ = some r' ∧
      r.p1Mbar ≤ r'.p1Mbar ∧ r.p2Mbar ≤ r'.p2Mbar := by
  obtain ⟨-, hmono⟩ := calcPressure_accurate_and_mono 6815414
    ⟨34982, 36352, 20328, 22354, 26646, 26146⟩ (by decide)
  obtain ⟨r, r', hr, hr', hp1, hp2⟩ := hmono 4958179 4958180 (by decide) (by decide)
  exact ⟨r, r', hr, hr', hp1 1145816756 (by decide) (by decide),
    hp2 1145816531 (by decide) (by decide)⟩

/-! ### The second-order terms -/

/-- The terms that are added below -15 °C. -/
def veryLow (temp k : Int) : Int := if temp < -1500 then k * (temp + 1500) ^ 2 else 0

/-- The formula that `calc_pressure` transcribes, with its thresholds at 20 °C and
-15 °C. -/
def piecewise (dT temp : Int) : Compensation :=
  if temp < 2000 then
    ⟨(3 * dT ^ 2).tdiv (2 ^ 33), (3 * (temp - 2000) ^ 2).tdiv 2 + veryLow temp 7,
      (5 * (temp - 2000) ^ 2).tdiv 8 + veryLow temp 4⟩
  else ⟨(2 * dT ^ 2).tdiv (2 ^ 37), ((temp - 2000) ^ 2).tdiv 16, 0⟩

/-- `Ti`, `OFFi` and `SENSi`, as computed. -/
def computedCompensation (d2 : UInt32) (data : CalData) : Option Compensation := do
  let dT ← calcDT d2 data
  let temp ← calcTemp dT data
  calcCompensation dT temp

theorem computedCompensation_eq (h2 : d2.toNat < 2 ^ 24) :
    computedCompensation d2 data
      = some (exactCompensation (exactDT d2 data) (exactTemp (exactDT d2 data) data)) := by
  have hdT : |exactDT d2 data| ≤ 2 ^ 24 := abs_exactDT_le h2
  rw [computedCompensation, bind_of_eq_some (calcDT_eq h2), bind_of_eq_some (calcTemp_eq hdT)]
  exact (calcCompensation_eq hdT (abs_exactTemp_le hdT)).1

/-- The upper threshold is where the formula has it. -/
theorem tdiv_lt_twenty_iff (temp : Int) : temp.tdiv 100 < 20 ↔ temp < 2000 := by
  rw [Int.tdiv_eq_ediv, Int.sign_eq_one_of_pos (by norm_num)]
  split <;> omega

/-- The lower one is a degree too low: `TEMP / 100` is -15 from -1500 down to -1599. -/
theorem tdiv_lt_neg_fifteen_iff (temp : Int) : temp.tdiv 100 < -15 ↔ temp ≤ -1600 := by
  rw [Int.tdiv_eq_ediv, Int.sign_eq_one_of_pos (by norm_num)]
  split <;> omega

theorem exactHigh_eq_piecewise (dT : Int) (h : 2000 ≤ temp) :
    exactHigh dT temp = piecewise dT temp := by
  rw [exactHigh, piecewise, if_neg (by omega)]
  congr 2 <;> ring

/-- Where the two thresholds disagree, the code adds nothing and the formula a
square that is not zero. -/
theorem exactLow_eq_piecewise_iff (dT : Int) (h : temp < 2000) :
    exactLow dT temp = piecewise dT temp ↔ temp ≤ -1600 ∨ -1500 ≤ temp := by
  have hsq : ∀ k x : Int, k * x * x = k * x ^ 2 := by
    intro k x
    ring
  rw [piecewise, if_pos h, exactLow]
  simp only [tdiv_lt_neg_fifteen_iff, hsq, veryLow, pow_one]
  rcases le_or_gt temp (-1600) with hlow | hlow
  · rw [if_pos hlow, if_pos (by omega), if_pos (by omega)]
    simp only [hlow, true_or, iff_true]
    rfl
  · rw [if_neg (by omega)]
    rcases le_or_gt (-1500) temp with hmid | hmid
    · rw [if_neg (by omega), if_neg (by omega)]
      simp only [hmid, or_true, iff_true, add_zero]
      rfl
    · rw [if_pos hmid, if_pos hmid]
      have hpos : 0 < 7 * (temp + 1500) ^ 2 := by
        have hne : temp + 1500 ≠ 0 := by omega
        positivity
      constructor
      · intro heq
        have hoffi := congrArg Compensation.offi heq
        dsimp only at hoffi
        have : 7 * (temp + 1500) ^ 2 = 0 := by
          simpa using hoffi
        omega
      · omega

theorem exactCompensation_eq_piecewise_iff (dT temp : Int) :
    exactCompensation dT temp = piecewise dT temp ↔ temp ≤ -1600 ∨ -1500 ≤ temp := by
  rw [exactCompensation]
  split
  · next h => exact exactLow_eq_piecewise_iff dT ((tdiv_lt_twenty_iff temp).mp h)
  · next h =>
    rw [tdiv_lt_twenty_iff, not_lt] at h
    exact iff_of_true (exactHigh_eq_piecewise dT h) (by omega)

/-- **The terms are those of the formula, but for the temperatures between the two
lower thresholds.**  The condition is on `(D2 - C5 * 2^8) * C6`, in units of
`2 ^ 23` below 20 °C. -/
theorem computedCompensation_eq_piecewise_iff (d2 : UInt32) (data : CalData)
    (h2 : d2.toNat < 2 ^ 24) :
    computedCompensation d2 data
        = some (piecewise (exactDT d2 data) (exactTemp (exactDT d2 data) data)) ↔
      (val32 d2 - val16 data.c5 * 2 ^ 8) * val16 data.c6 < -3599 * 2 ^ 23 ∨
        -3500 * 2 ^ 23 ≤ (val32 d2 - val16 data.c5 * 2 ^ 8) * val16 data.c6 := by
  rw [computedCompensation_eq h2, Option.some.injEq, exactCompensation_eq_piecewise_iff, exactTemp,
    Int.fdiv_eq_ediv_of_nonneg _ (by norm_num)]
  show _ ↔ exactDT d2 data * val16 data.c6 < _ ∨ _ ≤ exactDT d2 data * val16 data.c6
  generalize exactDT d2 data * val16 data.c6 = prod
  omega

theorem computedCompensation_eq_piecewise_datasheet :
    computedCompensation 6815414 ⟨34982, 36352, 20328, 22354, 26646, 26146⟩
      = some (piecewise (exactDT 6815414 ⟨34982, 36352, 20328, 22354, 26646, 26146⟩)
        (exactTemp (exactDT 6815414 ⟨34982, 36352, 20328, 22354, 26646, 26146⟩)
          ⟨34982, 36352, 20328, 22354, 26646, 26146⟩)) :=
  (computedCompensation_eq_piecewise_iff 6815414 ⟨34982, 36352, 20328, 22354, 26646, 26146⟩
    (by decide)).mpr (by decide)

/-- At -15.50 °C the terms for very low temperatures are missing. -/
theorem computedCompensation_ne_piecewise_below_minus_fifteen :
    exactTemp (exactDT 5682500 ⟨34982, 36352, 20328, 22354, 26646, 26146⟩)
        ⟨34982, 36352, 20328, 22354, 26646, 26146⟩ = -1550 ∧
      computedCompensation 5682500 ⟨34982, 36352, 20328, 22354, 26646, 26146⟩
        ≠ some (piecewise (exactDT 5682500 ⟨34982, 36352, 20328, 22354, 26646, 26146⟩) (-1550)) := by
  decide

/-! ### The two pressures -/

/-- The first pressure before its last division, in the words of the inputs. -/
def scaledP1 (d1 d2 : UInt32) (data : CalData) : Int :=
  let dT := val32 d2 - val16 data.c5 * 2 ^ 8
  (val32 d1 * (val16 data.c1 * 2 ^ 15 + (val16 data.c3 * dT).tdiv (2 ^ 8))).tdiv (2 ^ 21)
    - (val16 data.c2 * 2 ^ 16 + (val16 data.c4 * dT).tdiv (2 ^ 7))

/-- Without a correction the two pressures of a result are equal. -/
def PressuresAgree (d1 d2 : UInt32) (data : CalData) : Prop :=
  ∃ r comp, calcPressure d1 d2 data = some r ∧ computedCompensation d2 data = some comp ∧
    (comp.offi = 0 → comp.sensi = 0 → r.p1Mbar = r.p2Mbar)

theorem exactLow_offi_pos (dT : Int) (h : temp < 2000) : 0 < (exactLow dT temp).offi := by
  have hsq : 1 ≤ (temp - 2000) * (temp - 2000) := by nlinarith
  have hbase : 0 < (3 * (temp - 2000) * (temp - 2000)).tdiv (2 ^ 1) := by
    rw [mul_assoc, Int.tdiv_eq_ediv_of_nonneg (by omega)]
    omega
  rw [exactLow]
  split
  · have hvery : 0 ≤ 7 * (temp + 1500) * (temp + 1500) := by nlinarith [sq_nonneg (temp + 1500)]
    dsimp only
    omega
  · exact hbase

theorem exactHigh_offi_eq_zero_iff (dT : Int) (h : 2000 ≤ temp) :
    (exactHigh dT temp).offi = 0 ↔ temp < 2004 := by
  obtain ⟨x, hx⟩ : ∃ x, temp - 2000 = x := ⟨_, rfl⟩
  have hsq : 0 ≤ 1 * x * x := by nlinarith
  rw [exactHigh, hx]
  dsimp only
  rw [Int.tdiv_eq_ediv_of_nonneg hsq]
  constructor
  · intro hzero
    have hlt : 1 * x * x < 16 := by omega
    have : x < 4 := by nlinarith
    omega
  · intro hlt
    have : 1 * x * x < 16 := by nlinarith
    omega

/-- The corrections vanish from 20.00 °C to 20.03 °C. -/
theorem exactCompensation_vanishes_iff (dT temp : Int) :
    (exactCompensation dT temp).offi = 0 ∧ (exactCompensation dT temp).sensi = 0 ↔
      2000 ≤ temp ∧ temp < 2004 := by
  rw [exactCompensation]
  split
  · next h =>
    rw [tdiv_lt_twenty_iff] at h
    have hpos := exactLow_offi_pos dT h
    constructor
    · rintro ⟨hzero, -⟩
      omega
    · omega
  · next h =>
    rw [tdiv_lt_twenty_iff, not_lt] at h
    rw [exactHigh_offi_eq_zero_iff dT h]
    exact ⟨fun hzero => ⟨h, hzero.1⟩, fun hlt => ⟨hlt.2, rfl⟩⟩

theorem eq_tdiv_ten_iff (x : Int) : x = x.tdiv 10 ↔ x = 0 := by
  rw [Int.tdiv_eq_ediv, Int.sign_eq_one_of_pos (by norm_num)]
  split <;> omega

theorem tdiv_eq_zero_iff_abs_lt (x : Int) : x.tdiv (2 ^ 13) = 0 ↔ |x| < 2 ^ 13 := by
  rw [abs_lt, Int.tdiv_eq_ediv, Int.sign_eq_one_of_pos (by norm_num)]
  split <;> omega

/-- **The second pressure is a tenth of the first where nothing is corrected**, so the two agree only
where both are zero. -/
theorem pressuresAgree_iff (d1 d2 : UInt32) (data : CalData) (h1 : d1.toNat < 2 ^ 24)
    (h2 : d2.toNat < 2 ^ 24) :
    PressuresAgree d1 d2 data ↔
      (0 ≤ (val32 d2 - val16 data.c5 * 2 ^ 8) * val16 data.c6 →
        (val32 d2 - val16 data.c5 * 2 ^ 8) * val16 data.c6 < 4 * 2 ^ 23 →
        |scaledP1 d1 d2 data| < 2 ^ 13) := by
  have hpressure := (calcPressure_eq data h1 h2).1
  have hcomp : computedCompensation d2 data = some _ := computedCompensation_eq h2
  have hvanish := exactCompensation_vanishes_iff (exactDT d2 data) (exactTemp (exactDT d2 data) data)
  have htemp : 2000 ≤ exactTemp (exactDT d2 data) data ∧ exactTemp (exactDT d2 data) data < 2004 ↔
      0 ≤ exactDT d2 data * val16 data.c6 ∧ exactDT d2 data * val16 data.c6 < 4 * 2 ^ 23 := by
    rw [exactTemp, Int.fdiv_eq_ediv_of_nonneg _ (by norm_num)]
    generalize exactDT d2 data * val16 data.c6 = prod
    omega
  have hp1 : (exactPressure d1 d2 data).p1Mbar = (scaledP1 d1 d2 data).tdiv (2 ^ 13) := rfl
  rw [← and_imp]
  show _ ↔ (0 ≤ exactDT d2 data * val16 data.c6 ∧ exactDT d2 data * val16 data.c6 < 4 * 2 ^ 23 → _)
  rw [← htemp, ← hvanish]
  -- where nothing is corrected the second pressure is computed of the same two terms
  have hagree : (exactCompensation (exactDT d2 data) (exactTemp (exactDT d2 data) data)).offi = 0 →
      (exactCompensation (exactDT d2 data) (exactTemp (exactDT d2 data) data)).sensi = 0 →
      ((exactPressure d1 d2 data).p1Mbar = (exactPressure d1 d2 data).p2Mbar ↔
        |scaledP1 d1 d2 data| < 2 ^ 13) := by
    intro hoffi hsensi
    have hp2 : (exactPressure d1 d2 data).p2Mbar = ((exactPressure d1 d2 data).p1Mbar).tdiv 10 := by
      simp only [exactPressure, exactSecond, hoffi, hsensi, sub_zero]
    rw [hp2, eq_tdiv_ten_iff, hp1, tdiv_eq_zero_iff_abs_lt]
  constructor
  · rintro ⟨r, comp, hr, hc, heq⟩ ⟨hoffi, hsensi⟩
    obtain rfl := Option.some.inj (hpressure.symm.trans hr)
    obtain rfl := Option.some.inj (hcomp.symm.trans hc)
    exact (hagree hoffi hsensi).mp (heq hoffi hsensi)
  · intro hsmall
    exact ⟨_, _, hpressure, hcomp, fun hoffi hsensi =>
      (hagree hoffi hsensi).mpr (hsmall ⟨hoffi, hsensi⟩)⟩

/-- At 19.81 °C there is a correction; at 20.00 °C there is none, and both pressures of a vacuum are
zero. -/
theorem pressuresAgree_datasheet :
    PressuresAgree 4958179 6815414 ⟨34982, 36352, 20328, 22354, 26646, 26146⟩ ∧
      PressuresAgree 4358566 6821376 ⟨34982, 36352, 20328, 22354, 26646, 26146⟩ :=
  ⟨(pressuresAgree_iff 4958179 6815414 ⟨34982, 36352, 20328, 22354, 26646, 26146⟩ (by decide)
      (by decide)).mpr (by decide),
    (pressuresAgree_iff 4358566 6821376 ⟨34982, 36352, 20328, 22354, 26646, 26146⟩ (by decide)
      (by decide)).mpr (by decide)⟩

/-- At 20.00 °C nothing is corrected, and the pressures are 40007 and 4000. -/
theorem not_pressuresAgree_at_twenty :
    computedCompensation 6821376 ⟨34982, 36352, 20328, 22354, 26646, 26146⟩ = some ⟨0, 0, 0⟩ ∧
      (∃ r, calcPressure 4958179 6821376 ⟨34982, 36352, 20328, 22354, 26646, 26146⟩ = some r ∧
        r.p1Mbar = 40007 ∧ r.p2Mbar = 4000) ∧
      ¬ PressuresAgree 4958179 6821376 ⟨34982, 36352, 20328, 22354, 26646, 26146⟩ := by
  have hcomp : computedCompensation 6821376 ⟨34982, 36352, 20328, 22354, 26646, 26146⟩
      = some ⟨0, 0, 0⟩ := by decide
  have hpressure : calcPressure 4958179 6821376 ⟨34982, 36352, 20328, 22354, 26646, 26146⟩ = some _ :=
    (calcPressure_eq ⟨34982, 36352, 20328, 22354, 26646, 26146⟩ (by decide) (by decide)).1
  have hp1 : (exactPressure 4958179 6821376 ⟨34982, 36352, 20328, 22354, 26646, 26146⟩).p1Mbar
      = 40007 := by decide
  have hp2 : (exactPressure 4958179 6821376 ⟨34982, 36352, 20328, 22354, 26646, 26146⟩).p2Mbar
      = 4000 := by decide
  refine ⟨hcomp, ⟨_, hpressure, hp1, hp2⟩, ?_⟩
  rintro ⟨r, comp, hr, hc, heq⟩
  obtain rfl := Option.some.inj (hpressure.symm.trans hr)
  obtain rfl := Option.some.inj (hcomp.symm.trans hc)
  have hsame := heq rfl rfl
  rw [hp1, hp2] at hsame
  exact absurd hsame (by decide)

end Opaleye.Sensors.MS5837
