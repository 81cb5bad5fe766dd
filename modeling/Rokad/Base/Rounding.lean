import Mathlib.Data.Rat.Floor
import Mathlib.Data.Int.Log
import Mathlib.Tactic

/-!
# Rounding of decimals

Rounding half away from zero: to the integers (`halfAway`), hence to the scale of a
fixed-point column, and to a number of significant digits (`toPrecision`, the working
precision of a decimal library).

The two roundings compose badly: a value rounded first to `p` digits and then to
a column's scale can land one unit away from the value rounded once. It cannot
when the value is `ClearOfTie`: further from the middle of two neighbours than the
first rounding moves it. `ClearOfTie.halfAway_eq` is that statement, and the laws
for adding and subtracting whole units follow from it.
-/

namespace Rokad.Base

/-! ### To the integers -/

/-- The nearest integer, a tie going away from zero. -/
def halfAway (x : ℚ) : ℤ :=
  if 0 ≤ x then ⌊x + 1 / 2⌋ else -⌊-x + 1 / 2⌋

theorem abs_sub_halfAway_le (x : ℚ) : |x - halfAway x| ≤ 1 / 2 := by
  unfold halfAway
  split
  · have lower := Int.floor_le (x + 1 / 2)
    have upper := Int.lt_floor_add_one (x + 1 / 2)
    rw [abs_le]
    constructor <;> linarith
  · have lower := Int.floor_le (-x + 1 / 2)
    have upper := Int.lt_floor_add_one (-x + 1 / 2)
    push_cast
    rw [abs_le]
    constructor <;> linarith

/-- An integer nearer than one half is the rounded value: the converse of
`abs_sub_halfAway_le`, away from ties. -/
theorem halfAway_eq_of_abs_lt {x : ℚ} {n : ℤ} (near : |x - n| < 1 / 2) : halfAway x = n := by
  have rounded := abs_sub_halfAway_le x
  have apart : |(halfAway x : ℚ) - n| < 1 := by
    calc |(halfAway x : ℚ) - n| = |(x - n) - (x - halfAway x)| := by ring_nf
      _ ≤ |x - n| + |x - halfAway x| := abs_sub _ _
      _ < 1 := by linarith
  have same : |halfAway x - n| < 1 := by exact_mod_cast apart
  have zero := Int.abs_lt_one_iff.mp same
  omega

@[simp] theorem halfAway_intCast (n : ℤ) : halfAway n = n :=
  halfAway_eq_of_abs_lt (by simp)

@[simp] theorem halfAway_zero : halfAway 0 = 0 := halfAway_intCast 0

theorem halfAway_mono {x y : ℚ} (le : x ≤ y) : halfAway x ≤ halfAway y := by
  unfold halfAway
  by_cases hx : 0 ≤ x
  · rw [if_pos hx, if_pos (hx.trans le)]
    exact Int.floor_mono (by linarith)
  · rw [if_neg hx]
    push Not at hx
    have nonpos : -⌊-x + 1 / 2⌋ ≤ 0 := by
      have : 0 ≤ ⌊-x + 1 / 2⌋ := Int.floor_nonneg.mpr (by linarith)
      omega
    by_cases hy : 0 ≤ y
    · rw [if_pos hy]
      exact nonpos.trans (Int.floor_nonneg.mpr (by linarith))
    · rw [if_neg hy]
      have : ⌊-y + 1 / 2⌋ ≤ ⌊-x + 1 / 2⌋ := Int.floor_mono (by linarith)
      omega

theorem le_halfAway {n : ℤ} {x : ℚ} (le : n ≤ x) : n ≤ halfAway x := by
  simpa using halfAway_mono le

theorem halfAway_le {n : ℤ} {x : ℚ} (le : x ≤ n) : halfAway x ≤ n := by
  simpa using halfAway_mono le

/-! ### Values away from a tie -/

/-- `x` is more than `ε` away from the middle of two neighbouring integers. -/
def ClearOfTie (ε x : ℚ) : Prop := |x - halfAway x| + ε < 1 / 2
deriving Decidable

theorem clearOfTie_intCast {ε : ℚ} (small : ε < 1 / 2) (n : ℤ) : ClearOfTie ε n := by
  simpa [ClearOfTie] using small

section

variable {ε x : ℚ} (clear : ClearOfTie ε x)
include clear

/-- A disturbance of at most `ε` does not change the rounding of a value that is
clear of a tie by `ε`. -/
theorem ClearOfTie.halfAway_eq {y : ℚ} (near : |y - x| ≤ ε) :
    halfAway y = halfAway x := by
  apply halfAway_eq_of_abs_lt
  calc |y - halfAway x| = |(y - x) + (x - halfAway x)| := by ring_nf
    _ ≤ |y - x| + |x - halfAway x| := abs_add_le _ _
    _ < 1 / 2 := by unfold ClearOfTie at clear; linarith

theorem ClearOfTie.halfAway_int_add (nonneg : 0 ≤ ε) (n : ℤ) :
    halfAway (n + x) = n + halfAway x := by
  apply halfAway_eq_of_abs_lt
  have : ((n : ℚ) + x) - ((n + halfAway x : ℤ) : ℚ) = x - halfAway x := by push_cast; ring
  rw [this]
  unfold ClearOfTie at clear
  linarith

theorem ClearOfTie.halfAway_int_sub (nonneg : 0 ≤ ε) (n : ℤ) :
    halfAway (n - x) = n - halfAway x := by
  apply halfAway_eq_of_abs_lt
  have : ((n : ℚ) - x) - ((n - halfAway x : ℤ) : ℚ) = -(x - halfAway x) := by push_cast; ring
  rw [this, abs_neg]
  unfold ClearOfTie at clear
  linarith

theorem ClearOfTie.int_add (nonneg : 0 ≤ ε) (n : ℤ) :
    ClearOfTie ε (n + x) := by
  have shift := clear.halfAway_int_add nonneg n
  unfold ClearOfTie at clear ⊢
  rw [shift]
  have : ((n : ℚ) + x) - ((n + halfAway x : ℤ) : ℚ) = x - halfAway x := by push_cast; ring
  rwa [this]

theorem ClearOfTie.int_sub (nonneg : 0 ≤ ε) (n : ℤ) :
    ClearOfTie ε (n - x) := by
  have shift := clear.halfAway_int_sub nonneg n
  unfold ClearOfTie at clear ⊢
  rw [shift]
  have : ((n : ℚ) - x) - ((n - halfAway x : ℤ) : ℚ) = -(x - halfAway x) := by push_cast; ring
  rwa [this, abs_neg]

end

/-! ### To a precision -/

/-- The weight of the last of `p` significant digits of `x`. -/
def lastDigit (p : ℕ) (x : ℚ) : ℚ := 10 ^ (Int.log 10 |x| - p + 1)

/-- `x` rounded to `p` significant decimal digits. -/
def toPrecision (p : ℕ) (x : ℚ) : ℚ := halfAway (x / lastDigit p x) * lastDigit p x

theorem lastDigit_pos (p : ℕ) (x : ℚ) : 0 < lastDigit p x := by
  unfold lastDigit; positivity

/-- The last of `p` digits of a value below `10 ^ k` weighs at most `10 ^ (k - p)`. -/
theorem lastDigit_le {p : ℕ} {x : ℚ} {k : ℤ} (nonzero : x ≠ 0) (below : |x| < 10 ^ k) :
    lastDigit p x ≤ 10 ^ (k - p) := by
  have log_lt : Int.log 10 |x| < k :=
    (Int.lt_zpow_iff_log_lt (b := 10) (by norm_num) (abs_pos.mpr nonzero)).mp
      (by exact_mod_cast below)
  unfold lastDigit
  exact zpow_le_zpow_right₀ (by norm_num) (by omega)

theorem abs_toPrecision_sub_le {p : ℕ} {x : ℚ} {k : ℤ} (below : |x| < 10 ^ k) :
    |toPrecision p x - x| ≤ 10 ^ (k - p) / 2 := by
  by_cases zero : x = 0
  · subst zero
    simp only [toPrecision, zero_div, halfAway_zero, Int.cast_zero, zero_mul, sub_zero, abs_zero]
    positivity
  · have pos := lastDigit_pos p x
    have unit := lastDigit_le (p := p) zero below
    have rounded := abs_sub_halfAway_le (x / lastDigit p x)
    have scaled : toPrecision p x - x =
        -(x / lastDigit p x - halfAway (x / lastDigit p x)) * lastDigit p x := by
      unfold toPrecision
      field_simp
      ring
    rw [scaled, abs_mul, abs_neg, abs_of_pos pos]
    nlinarith

/-- The last of `p` digits divides every place that is kept. -/
theorem lastDigit_dvd {p d : ℕ} {x : ℚ} {k : ℤ} (nonzero : x ≠ 0) (below : |x| < 10 ^ k)
    (places : k + d ≤ p) : ∃ m : ℤ, (m : ℚ) * lastDigit p x = 1 / 10 ^ d := by
  have log_lt : Int.log 10 |x| < k :=
    (Int.lt_zpow_iff_log_lt (b := 10) (by norm_num) (abs_pos.mpr nonzero)).mp
      (by exact_mod_cast below)
  obtain ⟨m, hm⟩ : ∃ m : ℕ, (Int.log 10 |x| - p + 1) + m = -(d : ℤ) :=
    ⟨(-(d : ℤ) - (Int.log 10 |x| - p + 1)).toNat, by omega⟩
  refine ⟨10 ^ m, ?_⟩
  unfold lastDigit
  calc ((10 ^ m : ℤ) : ℚ) * 10 ^ (Int.log 10 |x| - p + 1)
      = 10 ^ ((Int.log 10 |x| - p + 1) + (m : ℤ)) := by
        rw [zpow_add₀ (by norm_num) (Int.log 10 |x| - p + 1) m, zpow_natCast]
        push_cast
        exact mul_comm _ _
    _ = 1 / 10 ^ d := by rw [hm, zpow_neg, zpow_natCast, one_div]

section

variable {p d : ℕ} {x : ℚ} {n k : ℤ}

theorem mul_lastDigit (nonzero : x ≠ 0) (below : |x| < 10 ^ k) (places : k + d ≤ p) (n : ℤ) :
    ∃ m : ℤ, (n : ℚ) / 10 ^ d = m * lastDigit p x := by
  obtain ⟨m, hm⟩ := lastDigit_dvd (p := p) (d := d) nonzero below places
  refine ⟨n * m, ?_⟩
  push_cast
  rw [mul_assoc, hm, mul_one_div]

/-- Rounding to `p` digits does not move a value across a whole number of a place
that is kept. -/
theorem le_toPrecision (below : |x| < 10 ^ k) (places : k + d ≤ p) (le : (n : ℚ) / 10 ^ d ≤ x) :
    (n : ℚ) / 10 ^ d ≤ toPrecision p x := by
  by_cases zero : x = 0
  · subst zero
    simpa [toPrecision] using le
  obtain ⟨m, whole⟩ := mul_lastDigit zero below places n
  have pos := lastDigit_pos p x
  rw [whole] at le ⊢
  have grid := le_halfAway ((le_div_iff₀ pos).mpr le)
  exact mul_le_mul_of_nonneg_right (by exact_mod_cast grid) pos.le

theorem toPrecision_le (below : |x| < 10 ^ k) (places : k + d ≤ p) (le : x ≤ (n : ℚ) / 10 ^ d) :
    toPrecision p x ≤ (n : ℚ) / 10 ^ d := by
  by_cases zero : x = 0
  · subst zero
    simpa [toPrecision] using le
  obtain ⟨m, whole⟩ := mul_lastDigit zero below places n
  have pos := lastDigit_pos p x
  rw [whole] at le ⊢
  have grid := halfAway_le ((div_le_iff₀ pos).mpr le)
  exact mul_le_mul_of_nonneg_right (by exact_mod_cast grid) pos.le

end

/-- A value with `d` places keeps its value in a precision that has room for them. -/
theorem toPrecision_eq_self {p d : ℕ} {n k : ℤ} (below : |(n : ℚ) / 10 ^ d| < 10 ^ k)
    (places : k + d ≤ p) : toPrecision p ((n : ℚ) / 10 ^ d) = (n : ℚ) / 10 ^ d :=
  le_antisymm (toPrecision_le below places le_rfl) (le_toPrecision below places le_rfl)

theorem toPrecision_nonneg {p : ℕ} {x : ℚ} (nonneg : 0 ≤ x) : 0 ≤ toPrecision p x := by
  have pos := lastDigit_pos p x
  have digits : 0 ≤ halfAway (x / lastDigit p x) := le_halfAway (by simpa using by positivity)
  exact mul_nonneg (by exact_mod_cast digits) pos.le

theorem toPrecision_nonpos {p : ℕ} {x : ℚ} (nonpos : x ≤ 0) : toPrecision p x ≤ 0 := by
  have pos := lastDigit_pos p x
  have digits : halfAway (x / lastDigit p x) ≤ 0 :=
    halfAway_le (by simpa using div_nonpos_of_nonpos_of_nonneg nonpos pos.le)
  exact mul_nonpos_of_nonpos_of_nonneg (by exact_mod_cast digits) pos.le

end Rokad.Base
