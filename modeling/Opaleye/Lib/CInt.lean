import Mathlib.Algebra.Order.Field.Basic
import Mathlib.Algebra.Order.Ring.Abs
import Mathlib.Data.Rat.Cast.Order
import Mathlib.Tactic.FieldSimp
import Mathlib.Tactic.Ring

/-!
# Integer arithmetic in C

The value of an expression of integer type is an `Int`.  A signed operation whose
result does not fit its type is undefined, so it is `none` here, and a program
that is `some` has stayed inside its types.  Unsigned operations and conversions
never fail: they reduce modulo `2 ^ w`, and a conversion to a signed type takes
the representative between `-2 ^ (w - 1)` and `2 ^ (w - 1)`, as gcc and clang do.

A division truncates toward zero, which costs less than one unit
(`abs_tdiv_sub_lt`).
-/

namespace CInt

/-- The values of a signed type of `w` bits. -/
def Fits (w : Nat) (x : Int) : Prop := -2 ^ (w - 1) ≤ x ∧ x < 2 ^ (w - 1)

instance (w : Nat) (x : Int) : Decidable (Fits w x) := inferInstanceAs (Decidable (_ ∧ _))

theorem fits_of_abs_le {w : Nat} {x b : Int} (h : |x| ≤ b) (hb : b < 2 ^ (w - 1)) : Fits w x := by
  obtain ⟨hlo, hhi⟩ := abs_le.mp h
  exact ⟨by omega, by omega⟩

theorem fits_64_iff {x : Int} :
    Fits 64 x ↔ -9223372036854775808 ≤ x ∧ x < 9223372036854775808 := by
  rw [Fits]
  norm_num

/-! ### Signed operations -/

/-- The result of a signed operation. -/
def signed (w : Nat) (x : Int) : Option Int := if Fits w x then some x else none

def add (w : Nat) (x y : Int) : Option Int := signed w (x + y)

def sub (w : Nat) (x y : Int) : Option Int := signed w (x - y)

def mul (w : Nat) (x y : Int) : Option Int := signed w (x * y)

def div (w : Nat) (x y : Int) : Option Int := if y = 0 then none else signed w (x.tdiv y)

theorem bind_of_eq_some {α β : Type} {r : Option α} {x : α} (h : r = some x)
    (f : α → Option β) : (r >>= f) = f x := by
  rw [h]
  rfl

variable {w : Nat} {x y b : Int}

theorem add_of_fits (h : Fits w (x + y)) : add w x y = some (x + y) := if_pos h

theorem sub_of_fits (h : Fits w (x - y)) : sub w x y = some (x - y) := if_pos h

theorem mul_of_fits (h : Fits w (x * y)) : mul w x y = some (x * y) := if_pos h

theorem div_of_fits (h : Fits w (x.tdiv y)) (hy : y ≠ 0) : div w x y = some (x.tdiv y) := by
  rw [div, if_neg hy, signed, if_pos h]

theorem signed_of_abs_le (h : |x| ≤ b) (hb : b < 2 ^ (w - 1)) : signed w x = some x :=
  if_pos (fits_of_abs_le h hb)

theorem add_of_abs_le (h : |x + y| ≤ b) (hb : b < 2 ^ (w - 1)) : add w x y = some (x + y) :=
  signed_of_abs_le h hb

theorem sub_of_abs_le (h : |x - y| ≤ b) (hb : b < 2 ^ (w - 1)) : sub w x y = some (x - y) :=
  signed_of_abs_le h hb

theorem mul_of_abs_le (h : |x * y| ≤ b) (hb : b < 2 ^ (w - 1)) : mul w x y = some (x * y) :=
  signed_of_abs_le h hb

theorem div_of_abs_le (h : |x.tdiv y| ≤ b) (hb : b < 2 ^ (w - 1)) (hy : y ≠ 0) :
    div w x y = some (x.tdiv y) := by
  rw [div, if_neg hy, signed_of_abs_le h hb]

/-! ### Conversions -/

/-- Conversion to an unsigned type. -/
def toUnsigned (w : Nat) (x : Int) : Int := x % 2 ^ w

/-- Conversion to a signed type. -/
def toSigned (w : Nat) (x : Int) : Int := Int.bmod x (2 ^ w)

theorem toSigned_of_fits (h : Fits w x) (hw : 0 < w) : toSigned w x = x := by
  obtain ⟨hlo, hhi⟩ := h
  have hpow : (2 : Nat) ^ w = 2 * 2 ^ (w - 1) := by
    rw [← Nat.pow_succ', Nat.succ_eq_add_one, Nat.sub_add_cancel hw]
  have hcast : ((2 ^ (w - 1) : Nat) : Int) = 2 ^ (w - 1) := by push_cast; rfl
  rw [toSigned, Int.bmod_eq_of_le]
  · rw [hpow]; omega
  · rw [hpow]; omega

theorem toSigned_of_abs_le (h : |x| ≤ b) (hb : b < 2 ^ (w - 1)) (hw : 0 < w) :
    toSigned w x = x :=
  toSigned_of_fits (fits_of_abs_le h hb) hw

theorem toSigned_toUnsigned (h : Fits w x) (hw : 0 < w) : toSigned w (toUnsigned w x) = x := by
  have hcast : (2 : Int) ^ w = ((2 ^ w : Nat) : Int) := by push_cast; rfl
  rw [toUnsigned, hcast, toSigned, Int.emod_bmod]
  exact toSigned_of_fits h hw

theorem toSigned_add_mul (w : Nat) (x k : Int) : toSigned w (x + 2 ^ w * k) = toSigned w x := by
  have hcast : (2 : Int) ^ w = ((2 ^ w : Nat) : Int) := by push_cast; rfl
  rw [toSigned, toSigned, hcast, Int.add_mul_bmod_self_left]

/-! ### Bounds -/

theorem abs_mul_le {a c : Int} (hx : |x| ≤ a) (hy : |y| ≤ c) : |x * y| ≤ a * c := by
  rw [abs_mul]
  exact mul_le_mul hx hy (abs_nonneg y) (le_trans (abs_nonneg x) hx)

theorem abs_tdiv_le {d : Int} (hd : 0 < d) (h : |x| ≤ b * d) : |x.tdiv d| ≤ b := by
  have hmul : x.tdiv d * d + x.tmod d = x := Int.tdiv_mul_add_tmod x d
  obtain ⟨hlo, hhi⟩ := abs_le.mp h
  rw [abs_le]
  rcases le_total 0 x with hx | hx
  · have hr := Int.tmod_nonneg d hx
    have hq := Int.tdiv_nonneg hx hd.le
    have hle : x.tdiv d * d ≤ b * d := by omega
    have hb := le_of_mul_le_mul_right hle hd
    omega
  · have hr : x.tmod d ≤ 0 := by
      have := Int.tmod_nonneg d (Int.neg_nonneg_of_nonpos hx)
      rw [Int.neg_tmod] at this
      omega
    have hq : x.tdiv d ≤ 0 := by
      have := Int.tdiv_nonneg (Int.neg_nonneg_of_nonpos hx) hd.le
      rw [Int.neg_tdiv] at this
      omega
    have hle : -b * d ≤ x.tdiv d * d := by rw [Int.neg_mul]; omega
    have hb := le_of_mul_le_mul_right hle hd
    omega

/-- **Truncation costs less than one unit.** -/
theorem abs_tdiv_sub_lt (x : Int) {d : Int} (hd : 0 < d) :
    |((x.tdiv d : Int) : ℚ) - x / d| < 1 := by
  have hd' : (0 : ℚ) < d := by exact_mod_cast hd
  have hmod : |x.tmod d| < d := by
    have h := Int.natAbs_tmod x d
    have hlt := Nat.mod_lt x.natAbs (Int.natAbs_pos.mpr hd.ne')
    rw [Int.abs_eq_natAbs, h]
    omega
  have hsplit : ((x.tdiv d : Int) : ℚ) - x / d = -(x.tmod d / d) := by
    have hmul : x.tdiv d * d + x.tmod d = x := Int.tdiv_mul_add_tmod x d
    have hx : (x : ℚ) = x.tdiv d * d + x.tmod d := by exact_mod_cast hmul.symm
    rw [hx]
    field_simp
    ring
  rw [hsplit, abs_neg, abs_div, abs_of_pos hd', div_lt_one hd']
  exact_mod_cast hmod

end CInt
