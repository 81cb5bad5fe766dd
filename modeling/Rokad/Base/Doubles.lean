import Rokad.Base.Text

/-!
# Arithmetic of doubles

Rounding to a double keeps the order (`toDouble_mono`), so a computation that is monotone on the
real numbers and rounds after each operation is monotone on doubles. `Exact x` says that `x` is
itself a double: an operation whose real result is exact does not round, and what is computed is a
double again (`exact_of_toDouble`). Whole numbers up to
`2 ^ 53` are doubles, and are stored in whole columns as they are (`toDouble_intCast`,
`toDecimal_intCast`). A sum whose parts on the way are all doubles does not round
(`AddsExactly`).
-/

namespace Rokad.Base

/-- `x` is a double. -/
def Exact (x : ℚ) : Prop := toDouble x = .finite x
deriving Decidable

/-- `Math.floor(x)` -/
def Number.floor : Number → Number
  | .finite x => .finite ⌊x⌋
  | x => x

theorem Number.nonneg_of_max {x : Number} {a : ℚ} (isMax : (Number.finite 0).max x = .finite a) :
    0 ≤ a := by
  unfold Number.max at isMax
  split at isMax
  · cases isMax
  · split at isMax
    · rename_i above
      rw [isMax] at above
      exact (of_decide_eq_true above).le
    · exact (Number.finite.inj isMax).le

/-! ### To an integer -/

theorem floor_le_halfEven (x : ℚ) : ⌊x⌋ ≤ halfEven x := by
  unfold halfEven
  dsimp only
  split_ifs <;> omega

theorem halfEven_le_floor_add_one (x : ℚ) : halfEven x ≤ ⌊x⌋ + 1 := by
  unfold halfEven
  dsimp only
  split_ifs <;> omega

@[simp] theorem halfEven_intCast (n : ℤ) : halfEven n = n := by
  simp [halfEven]

theorem halfEven_nonneg {x : ℚ} (nonneg : 0 ≤ x) : 0 ≤ halfEven x :=
  (Int.floor_nonneg.mpr nonneg).trans (floor_le_halfEven x)

theorem halfEven_mono {x y : ℚ} (le : x ≤ y) : halfEven x ≤ halfEven y := by
  rcases (Int.floor_mono le).lt_or_eq with below | same
  · calc halfEven x ≤ ⌊x⌋ + 1 := halfEven_le_floor_add_one x
      _ ≤ ⌊y⌋ := below
      _ ≤ halfEven y := floor_le_halfEven y
  · unfold halfEven
    rw [same]
    dsimp only
    split_ifs <;> first | omega | linarith

/-! ### To a double -/

/-- What `toDouble` rounds to before it looks at the size. -/
def rounded (x : ℚ) : ℚ := halfEven (x / ulp x) * ulp x

theorem toDouble_finite {x a : ℚ} (finite : toDouble x = .finite a) : a = rounded x := by
  unfold toDouble at finite
  dsimp only at finite
  split at finite
  · cases finite
  · exact (Number.finite.inj finite).symm

theorem ulp_pos (x : ℚ) : 0 < ulp x := zpow_pos (by norm_num) _

theorem rounded_nonneg {x : ℚ} (nonneg : 0 ≤ x) : 0 ≤ rounded x :=
  mul_nonneg (Int.cast_nonneg (halfEven_nonneg (div_nonneg nonneg (ulp_pos x).le))) (ulp_pos x).le

@[simp] theorem rounded_zero : rounded 0 = 0 := by
  have zero : halfEven 0 = 0 := by exact_mod_cast halfEven_intCast 0
  simp [rounded, zero]

/-- Rounding within one binade, and across two: a power of two lies between them. -/
theorem rounded_mono {x y : ℚ} (nonneg : 0 ≤ x) (le : x ≤ y) : rounded x ≤ rounded y := by
  rcases nonneg.lt_or_eq with pos | rfl
  swap
  · simpa using rounded_nonneg le
  have posY : 0 < y := pos.trans_le le
  by_cases same : ulp x = ulp y
  · unfold rounded
    rw [same]
    exact mul_le_mul_of_nonneg_right
      (Int.cast_le.mpr (halfEven_mono (div_le_div_of_nonneg_right le (ulp_pos y).le)))
      (ulp_pos y).le
  · have logs : Int.log 2 x ≤ Int.log 2 y := Int.log_mono_right pos le
    have ulpX : ulp x = 2 ^ max (Int.log 2 x - 52) (-1074) := by rw [ulp, abs_of_pos pos]
    have ulpY : ulp y = 2 ^ max (Int.log 2 y - 52) (-1074) := by rw [ulp, abs_of_pos posY]
    -- the exponents differ, so that of `y` is its own
    have differ : max (Int.log 2 x - 52) (-1074) ≠ max (Int.log 2 y - 52) (-1074) :=
      fun h => same (by rw [ulpX, ulpY, h])
    obtain ⟨n, exponent⟩ : ∃ n : ℕ, Int.log 2 y = max (Int.log 2 x - 52) (-1074) + n :=
      ⟨(Int.log 2 y - max (Int.log 2 x - 52) (-1074)).toNat, by omega⟩
    have ulpY' : ulp y = 2 ^ (Int.log 2 y - 52) := by
      rw [ulpY]
      congr 1
      omega
    have below : x ≤ 2 ^ Int.log 2 y := by
      refine (Int.lt_zpow_succ_log_self (b := 2) (by norm_num) x).le.trans ?_
      exact zpow_le_zpow_right₀ (by norm_num) (by omega)
    have above : (2 : ℚ) ^ Int.log 2 y ≤ y := by
      simpa using Int.zpow_log_le_self (b := 2) (by norm_num) posY
    calc rounded x ≤ 2 ^ Int.log 2 y := by
          have whole : (2 : ℚ) ^ Int.log 2 y / ulp x = ((2 ^ n : ℤ) : ℚ) := by
            rw [exponent, ulpX, zpow_add₀ (by norm_num), mul_div_cancel_left₀ _ (by positivity)]
            norm_cast
          have le_whole := halfEven_mono (div_le_div_of_nonneg_right below (ulp_pos x).le)
          rw [whole, halfEven_intCast] at le_whole
          calc rounded x ≤ ((2 ^ n : ℤ) : ℚ) * ulp x :=
                mul_le_mul_of_nonneg_right (Int.cast_le.mpr le_whole) (ulp_pos x).le
            _ = 2 ^ Int.log 2 y := by rw [← whole, div_mul_cancel₀ _ (ulp_pos x).ne']
      _ ≤ rounded y := by
          have whole : (2 : ℚ) ^ Int.log 2 y / ulp y = ((2 ^ 52 : ℤ) : ℚ) := by
            rw [ulpY', ← zpow_sub₀ (by norm_num)]
            norm_num
          have le_whole := halfEven_mono (div_le_div_of_nonneg_right above (ulp_pos y).le)
          rw [whole, halfEven_intCast] at le_whole
          calc (2 : ℚ) ^ Int.log 2 y = ((2 ^ 52 : ℤ) : ℚ) * ulp y := by
                rw [← whole, div_mul_cancel₀ _ (ulp_pos y).ne']
            _ ≤ rounded y := mul_le_mul_of_nonneg_right (Int.cast_le.mpr le_whole) (ulp_pos y).le

theorem toDouble_mono {x y a b : ℚ} (nonneg : 0 ≤ x) (le : x ≤ y) (ofX : toDouble x = .finite a)
    (ofY : toDouble y = .finite b) : a ≤ b := by
  rw [toDouble_finite ofX, toDouble_finite ofY]
  exact rounded_mono nonneg le

/-! ### Exact results -/

/-- Up to `2 ^ 53` units of a power of two there is no rounding. -/
theorem rounded_dyadic_lt {m e : ℤ} (small : |m| < 2 ^ 53) (low : -1074 ≤ e) :
    rounded (m * 2 ^ e) = m * 2 ^ e := by
  by_cases zero : m = 0
  · subst zero
    simp
  have nonzero : (m : ℚ) * 2 ^ e ≠ 0 := mul_ne_zero (by exact_mod_cast zero) (by positivity)
  have bound : |(m : ℚ) * 2 ^ e| < 2 ^ (53 + e) := by
    rw [abs_mul, abs_of_pos (show (0 : ℚ) < 2 ^ e by positivity), zpow_add₀ (by norm_num)]
    have cast : |(m : ℚ)| < 2 ^ (53 : ℤ) := by exact_mod_cast small
    exact mul_lt_mul_of_pos_right cast (by positivity)
  have log : Int.log 2 |(m : ℚ) * 2 ^ e| < 53 + e :=
    (Int.lt_zpow_iff_log_lt (b := 2) (by norm_num) (abs_pos.mpr nonzero)).mp
      (by exact_mod_cast bound)
  obtain ⟨n, exponent⟩ : ∃ n : ℕ, e = max (Int.log 2 |(m : ℚ) * 2 ^ e| - 52) (-1074) + n :=
    ⟨(e - max (Int.log 2 |(m : ℚ) * 2 ^ e| - 52) (-1074)).toNat, by omega⟩
  have units : (m : ℚ) * 2 ^ e / ulp (m * 2 ^ e) = ((m * 2 ^ n : ℤ) : ℚ) := by
    unfold ulp
    generalize max (Int.log 2 |(m : ℚ) * 2 ^ e| - 52) (-1074) = k at exponent ⊢
    rw [exponent, zpow_add₀ (by norm_num), div_eq_iff (by positivity)]
    push_cast
    rw [zpow_natCast]
    ring
  unfold rounded
  rw [units, halfEven_intCast, ← units, div_mul_cancel₀ _ (ulp_pos _).ne']

theorem rounded_dyadic {m e : ℤ} (small : |m| ≤ 2 ^ 53) (low : -1074 ≤ e) :
    rounded (m * 2 ^ e) = m * 2 ^ e := by
  by_cases less : |m| < 2 ^ 53
  · exact rounded_dyadic_lt less low
  · -- twice as many units of the half
    obtain ⟨half, twice, bound⟩ : ∃ half, m = half * 2 ∧ |half| < 2 ^ 53 := by
      rcases eq_or_eq_neg_of_abs_eq (le_antisymm small (not_lt.mp less)) with rfl | rfl
      · exact ⟨2 ^ 52, by norm_num, by norm_num⟩
      · exact ⟨-2 ^ 52, by norm_num, by norm_num⟩
    have shift : (m : ℚ) * 2 ^ e = half * 2 ^ (e + 1) := by
      rw [zpow_add₀ (by norm_num), twice]
      push_cast
      ring
    rw [shift]
    exact rounded_dyadic_lt bound (by omega)

theorem toDouble_of_rounded {x : ℚ} (same : rounded x = x) (small : |x| < 2 ^ 1024) :
    toDouble x = .finite x := by
  unfold toDouble
  dsimp only
  change (if 2 ^ 1024 ≤ |rounded x| then _ else Number.finite (rounded x)) = _
  rw [same, if_neg (not_le.mpr small)]

/-- Whole numbers and halves of them are doubles. -/
theorem toDouble_half {m : ℤ} (small : |m| ≤ 2 ^ 53) : toDouble (m / 2) = .finite (m / 2) := by
  have half : (m : ℚ) / 2 = m * 2 ^ (-1 : ℤ) := by
    rw [zpow_neg_one, div_eq_mul_inv]
  have cast : |(m : ℚ)| ≤ 2 ^ 53 := by exact_mod_cast small
  refine toDouble_of_rounded ?_ ?_
  · rw [half]
    exact rounded_dyadic small (by norm_num)
  · rw [abs_div, abs_of_pos (show (0 : ℚ) < 2 by norm_num)]
    calc |(m : ℚ)| / 2 ≤ |(m : ℚ)| := half_le_self (abs_nonneg _)
      _ ≤ 2 ^ 53 := cast
      _ < 2 ^ 1024 := pow_lt_pow_right₀ (by norm_num) (by norm_num)

theorem toDouble_intCast {n : ℤ} (small : |n| ≤ 2 ^ 53) : toDouble n = .finite n := by
  have cast : |(n : ℚ)| ≤ 2 ^ 53 := by exact_mod_cast small
  refine toDouble_of_rounded ?_ (cast.trans_lt (pow_lt_pow_right₀ (by norm_num) (by norm_num)))
  simpa using rounded_dyadic (e := 0) small (by norm_num)

/-- A double is not below a power of two that its real number is not below. -/
theorem two_pow_le_of_toDouble {x a : ℚ} {n : ℕ} (le : 2 ^ n ≤ x)
    (finite : toDouble x = .finite a) :
    2 ^ n ≤ a := by
  rw [toDouble_finite finite]
  have exact' : rounded (((1 : ℤ) : ℚ) * 2 ^ (n : ℤ)) = (1 : ℤ) * 2 ^ (n : ℤ) :=
    rounded_dyadic (by norm_num) (by omega)
  rw [Int.cast_one, one_mul, zpow_natCast] at exact'
  calc (2 : ℚ) ^ n = rounded (2 ^ n) := exact'.symm
    _ ≤ rounded x := rounded_mono (by positivity) le

/-! ### The decimal of a whole number -/

theorem toPrecision_of_le {n : ℤ} {k : ℕ} (digits : Int.log 10 |(n : ℚ)| < k) :
    toPrecision k n = n := by
  obtain ⟨d, exponent⟩ : ∃ d : ℕ, Int.log 10 |(n : ℚ)| - k + 1 = -(d : ℤ) :=
    ⟨(-(Int.log 10 |(n : ℚ)| - k + 1)).toNat, by omega⟩
  have digit : lastDigit k n = (10 ^ d)⁻¹ := by
    rw [lastDigit, exponent, zpow_neg, zpow_natCast]
  have whole : (n : ℚ) / lastDigit k n = ((n * 10 ^ d : ℤ) : ℚ) := by
    rw [digit, div_inv_eq_mul]
    push_cast
    rfl
  rw [toPrecision, whole, halfAway_intCast, ← whole, div_mul_cancel₀ _ (lastDigit_pos _ _).ne']

/-- With fewer digits a whole number of at most fifteen is still a whole number that is a double. -/
theorem toPrecision_whole {n : ℤ} {k : ℕ} (small : |n| < 10 ^ 15) (pos : 0 < k) :
    ∃ p : ℤ, toPrecision k n = p ∧ |p| ≤ 2 ^ 53 := by
  by_cases zero : n = 0
  · subst zero
    exact ⟨0, by simp [toPrecision], by norm_num⟩
  have nonzero : |(n : ℚ)| ≠ 0 := by simpa using zero
  have positive : 0 < |(n : ℚ)| := lt_of_le_of_ne (abs_nonneg _) nonzero.symm
  have log : Int.log 10 |(n : ℚ)| < 15 :=
    (Int.lt_zpow_iff_log_lt (b := 10) (by norm_num) positive).mp (by exact_mod_cast small)
  by_cases digits : Int.log 10 |(n : ℚ)| < k
  · refine ⟨n, toPrecision_of_le digits, ?_⟩
    have : (10 : ℤ) ^ 15 ≤ 2 ^ 53 := by norm_num
    omega
  · obtain ⟨d, exponent, few⟩ : ∃ d : ℕ, Int.log 10 |(n : ℚ)| - k + 1 = d ∧ d ≤ 14 :=
      ⟨(Int.log 10 |(n : ℚ)| - k + 1).toNat, by omega, by omega⟩
    have digit : lastDigit k n = ((10 ^ d : ℤ) : ℚ) := by
      rw [lastDigit, exponent, zpow_natCast]
      push_cast
      rfl
    refine ⟨halfAway (n / lastDigit k n) * 10 ^ d, ?_, ?_⟩
    · rw [toPrecision, Int.cast_mul, digit]
    · have scaled : |(n : ℚ)| / lastDigit k n ≤ ((10 ^ (15 - d) : ℤ) : ℚ) := by
        rw [digit, div_le_iff₀ (by positivity)]
        norm_cast
        rw [← pow_add, show 15 - d + d = 15 by omega]
        exact small.le
      have bounds := abs_le.mp ((abs_div (n : ℚ) _).trans_le
        ((abs_of_pos (lastDigit_pos k n)).symm ▸ scaled))
      have upper := halfAway_le bounds.2
      have lower := le_halfAway (n := -10 ^ (15 - d)) (by
        push_cast at bounds ⊢
        exact bounds.1)
      have inRange : |halfAway (n / lastDigit k n)| ≤ 10 ^ (15 - d) := abs_le.mpr ⟨lower, upper⟩
      rw [abs_mul, abs_of_pos (show (0 : ℤ) < 10 ^ d by positivity)]
      calc |halfAway (n / lastDigit k n)| * 10 ^ d ≤ 10 ^ (15 - d) * 10 ^ d :=
            mul_le_mul_of_nonneg_right inRange (by positivity)
        _ = 10 ^ 15 := by rw [← pow_add, show 15 - d + d = 15 by omega]
        _ ≤ 2 ^ 53 := by norm_num

/-- A whole number of at most fifteen digits prints as it is. -/
theorem toDecimal_intCast {n : ℤ} (small : |n| < 10 ^ 15) :
    (Number.finite n).toDecimal = some (n : ℚ) := by
  unfold Number.toDecimal
  dsimp only
  split_ifs with zero
  · rw [zero]
  · have positive : 0 < |(n : ℚ)| := abs_pos.mpr zero
    have log : Int.log 10 |(n : ℚ)| < 15 :=
      (Int.lt_zpow_iff_log_lt (b := 10) (by norm_num) positive).mp (by exact_mod_cast small)
    unfold shortestDecimal shortestDigits
    cases found : (List.range' 1 16).find? fun k => toDouble (toPrecision k n) = .finite n with
    | none => rw [Option.getD_none, toPrecision_of_le (by omega)]
    | some k =>
      have reads := List.find?_some found
      rw [decide_eq_true_eq] at reads
      have range := List.mem_range'_1.mp (List.mem_of_find?_eq_some found)
      obtain ⟨p, whole, bound⟩ := toPrecision_whole small (show 0 < k by omega)
      rw [whole, toDouble_intCast bound] at reads
      rw [Option.getD_some, whole, Number.finite.inj reads]

theorem shortestDigits_pos (x : ℚ) : 0 < shortestDigits x := by
  unfold shortestDigits
  cases found : (List.range' 1 16).find? fun k => toDouble (toPrecision k x) = .finite x with
  | none => decide
  | some k =>
    have range := List.mem_range'_1.mp (List.mem_of_find?_eq_some found)
    rw [Option.getD_some]
    omega

/-- A number of more digits is not written with fewer. -/
theorem pow_le_toPrecision {x : ℚ} {k n : ℕ} (pos : 0 < k) (le : 10 ^ n ≤ x) :
    10 ^ n ≤ toPrecision k x := by
  have positive : 0 < x := lt_of_lt_of_le (by positivity) le
  have log : (n : ℤ) ≤ Int.log 10 x := by
    refine (Int.zpow_le_iff_le_log (b := 10) (by norm_num) positive).mp ?_
    rw [zpow_natCast]
    exact_mod_cast le
  obtain ⟨d, digits⟩ : ∃ d : ℕ, k = d + 1 := ⟨k - 1, by omega⟩
  have whole : ((10 ^ d : ℤ) : ℚ) * lastDigit k x = 10 ^ Int.log 10 x := by
    rw [lastDigit, abs_of_pos positive, digits]
    push_cast
    rw [← zpow_natCast, ← zpow_add₀ (by norm_num)]
    congr 1
    ring
  have below : ((10 ^ d : ℤ) : ℚ) ≤ x / lastDigit k x := by
    rw [le_div_iff₀ (lastDigit_pos k x), whole]
    exact_mod_cast Int.zpow_log_le_self (b := 10) (by norm_num) positive
  calc (10 : ℚ) ^ n ≤ 10 ^ Int.log 10 x := by
        rw [← zpow_natCast]
        exact zpow_le_zpow_right₀ (by norm_num) log
    _ = ((10 ^ d : ℤ) : ℚ) * lastDigit k x := whole.symm
    _ ≤ toPrecision k x :=
        mul_le_mul_of_nonneg_right (Int.cast_le.mpr (le_halfAway below)) (lastDigit_pos k x).le

theorem pow_le_toDecimal {x a : ℚ} {n : ℕ} (le : 10 ^ n ≤ x)
    (decimal : (Number.finite x).toDecimal = some a) : 10 ^ n ≤ a := by
  have positive : 0 < x := lt_of_lt_of_le (by positivity) le
  simp only [Number.toDecimal, if_neg positive.ne', Option.some.injEq] at decimal
  rw [← decimal]
  exact pow_le_toPrecision (shortestDigits_pos x) le

/-! ### Signs -/

theorem toDouble_ne_nan (a : ℚ) : toDouble a ≠ .nan := by
  unfold toDouble
  dsimp only
  split_ifs <;> simp

theorem halfEven_neg (x : ℚ) : halfEven (-x) = -halfEven x := by
  obtain ⟨k, f, low, high, rfl⟩ : ∃ (k : ℤ) (f : ℚ), 0 ≤ f ∧ f < 1 ∧ x = k + f :=
    ⟨⌊x⌋, Int.fract x, Int.fract_nonneg x, Int.fract_lt_one x, (Int.floor_add_fract x).symm⟩
  have below : ⌊(k : ℚ) + f⌋ = k := by
    rw [Int.floor_intCast_add, Int.floor_eq_zero_iff.mpr ⟨low, high⟩, add_zero]
  unfold halfEven
  dsimp only
  rw [below]
  by_cases whole : f = 0
  · subst whole
    have floor : ⌊-((k : ℚ) + 0)⌋ = -k := by
      rw [add_zero, ← Int.cast_neg, Int.floor_intCast]
    rw [floor]
    have exact' : -((k : ℚ) + 0) - ((-k : ℤ) : ℚ) < 1 / 2 := by push_cast; norm_num
    have exact'' : (k : ℚ) + 0 - k < 1 / 2 := by norm_num
    rw [if_pos exact', if_pos exact'']
  · have positive : 0 < f := lt_of_le_of_ne low (Ne.symm whole)
    have floor : ⌊-((k : ℚ) + f)⌋ = -k - 1 := by
      rw [Int.floor_eq_iff]
      push_cast
      constructor <;> linarith
    have rest : -((k : ℚ) + f) - ((-k - 1 : ℤ) : ℚ) = 1 - f := by push_cast; ring
    rw [floor, rest, show (k : ℚ) + f - k = f by ring]
    split_ifs <;> first | omega | (exfalso; linarith)

theorem ulp_neg (x : ℚ) : ulp (-x) = ulp x := by
  unfold ulp
  rw [abs_neg]

theorem toDouble_neg (x : ℚ) : toDouble (-x) = (toDouble x).neg := by
  have same : halfEven (-x / ulp (-x)) * ulp (-x) = -(halfEven (x / ulp x) * ulp x) := by
    rw [ulp_neg, neg_div, halfEven_neg]
    push_cast
    ring
  unfold toDouble
  dsimp only
  rw [same, abs_neg]
  split_ifs with far
  · have nonzero : x ≠ 0 := by
      rintro rfl
      rw [zero_div] at far
      have none : halfEven 0 = 0 := by exact_mod_cast halfEven_intCast 0
      rw [none, Int.cast_zero, zero_mul, abs_zero] at far
      exact absurd far (not_le.mpr (by positivity))
    rcases lt_or_gt_of_ne nonzero with less | more
    · simp [Number.neg, less, less.le]
    · simp [Number.neg, more, not_lt.mpr more.le]
  · simp [Number.neg]

theorem Number.minus_add (x y : Number) : (x.add y).neg = x.neg.add y.neg := by
  cases x with
  | nan => cases y <;> rfl
  | infinity s =>
    cases y with
    | nan => rfl
    | infinity t => cases s <;> cases t <;> rfl
    | finite b => rfl
  | finite a =>
    cases y with
    | nan => rfl
    | infinity t => rfl
    | finite b =>
      change (toDouble (a + b)).neg = toDouble (-a + -b)
      rw [← toDouble_neg, neg_add]

theorem Number.abs_minus (x : Number) : x.neg.abs = x.abs := by
  cases x with
  | nan => rfl
  | infinity s => rfl
  | finite a => exact congrArg Number.finite (abs_neg a)

/-- A whole number of at least one is a double of at least one. -/
theorem pos_toDouble {z : ℤ} (positive : 0 < z) : Number.lt (.finite 0) (toDouble z) = true := by
  cases double : toDouble z with
  | nan =>
    unfold toDouble at double
    dsimp only at double
    split_ifs at double
  | infinity s =>
    unfold toDouble at double
    dsimp only at double
    split_ifs at double
    have sign : decide ((z : ℚ) < 0) = s := Number.infinity.inj double
    rw [← sign, decide_eq_false (by push Not; exact_mod_cast positive.le)]
    rfl
  | finite a =>
    have one : (2 : ℚ) ^ 0 ≤ a :=
      two_pow_le_of_toDouble (by rw [pow_zero]; exact_mod_cast positive) double
    exact decide_eq_true (by linarith)

/-! ### Sums without rounding -/

/-- Each sum on the way is a double. -/
def AddsExactly (amounts : List ℚ) : Prop := ∀ before, before <+: amounts → Exact before.sum

instance (amounts : List ℚ) : Decidable (AddsExactly amounts) :=
  decidable_of_iff (∀ before ∈ amounts.inits, Exact before.sum) (by
    simp [AddsExactly])

theorem addsExactly_append {amounts : List ℚ} {a : ℚ} (adds : AddsExactly (amounts ++ [a])) :
    AddsExactly amounts ∧ Exact (amounts.sum + a) := by
  refine ⟨fun before pre => adds before (pre.trans (List.prefix_append _ _)), ?_⟩
  have all := adds _ List.prefix_rfl
  rwa [List.sum_append, List.sum_singleton] at all

/-- What is added without rounding is the sum. -/
theorem foldl_add_of_addsExactly {amounts : List ℚ} (adds : AddsExactly amounts) :
    amounts.foldl (fun (sum : Number) a => sum.add (.finite a)) (.finite 0) =
      .finite amounts.sum := by
  induction amounts using List.reverseRecOn with
  | nil => rfl
  | append_singleton amounts a ih =>
    obtain ⟨first, last⟩ := addsExactly_append adds
    rw [List.foldl_append, ih first, List.sum_append, List.sum_singleton]
    exact last

/-! ### What is computed is a double -/

theorem abs_div_ulp_le (x : ℚ) : |x / ulp x| ≤ 2 ^ 53 := by
  rcases eq_or_ne x 0 with rfl | nonzero
  · simp
  rw [abs_div, abs_of_pos (ulp_pos x), div_le_iff₀ (ulp_pos x)]
  have above := (Int.lt_zpow_succ_log_self (b := 2) (by norm_num) |x|).le
  have spacing : (2 : ℚ) ^ (Int.log 2 |x| - 52) ≤ ulp x :=
    zpow_le_zpow_right₀ (by norm_num) (le_max_left _ _)
  calc |x| ≤ (2 : ℚ) ^ (Int.log 2 |x| + 1) := by exact_mod_cast above
    _ = 2 ^ 53 * (2 : ℚ) ^ (Int.log 2 |x| - 52) := by
        rw [← zpow_natCast, ← zpow_add₀ (by norm_num)]
        congr 1
        push_cast
        ring
    _ ≤ 2 ^ 53 * ulp x := by gcongr

theorem abs_halfEven_le {x : ℚ} {n : ℤ} (bound : |x| ≤ n) : |halfEven x| ≤ n := by
  obtain ⟨low, high⟩ := abs_le.mp bound
  rw [abs_le]
  constructor
  · have mono := halfEven_mono low
    rwa [← Int.cast_neg, halfEven_intCast] at mono
  · have mono := halfEven_mono high
    rwa [halfEven_intCast] at mono

/-- What is rounded is a double. -/
theorem rounded_rounded (x : ℚ) : rounded (rounded x) = rounded x := by
  have bound : |halfEven (x / ulp x)| ≤ 2 ^ 53 :=
    abs_halfEven_le (by exact_mod_cast abs_div_ulp_le x)
  exact rounded_dyadic bound (le_max_right _ _)

theorem exact_of_toDouble {x a : ℚ} (finite : toDouble x = .finite a) : Exact a := by
  have isRounded := toDouble_finite finite
  refine toDouble_of_rounded (by rw [isRounded, rounded_rounded]) ?_
  rw [isRounded]
  unfold toDouble at finite
  dsimp only at finite
  split at finite
  · cases finite
  · rename_i small
    exact not_le.mp small

/-! ### The order of numbers from zero up -/

namespace Number

/-- `x ≤ y`, and neither is negative. -/
def AtMost : Number → Number → Prop
  | .finite a, .finite b => 0 ≤ a ∧ a ≤ b
  | .finite a, .infinity false => 0 ≤ a
  | .infinity false, .infinity false => True
  | _, _ => False

instance : DecidableRel AtMost := fun x y => by
  unfold AtMost
  split <;> infer_instance

theorem atMost_toDouble {x y : ℚ} (nonneg : 0 ≤ x) (le : x ≤ y) :
    (toDouble x).AtMost (toDouble y) := by
  have mono := rounded_mono nonneg le
  have positive := rounded_nonneg nonneg
  have signX : ¬ x < 0 := not_lt.mpr nonneg
  have signY : ¬ y < 0 := not_lt.mpr (nonneg.trans le)
  have ofX : toDouble x = if 2 ^ 1024 ≤ |rounded x| then .infinity (x < 0)
      else .finite (rounded x) := rfl
  have ofY : toDouble y = if 2 ^ 1024 ≤ |rounded y| then .infinity (y < 0)
      else .finite (rounded y) := rfl
  rw [abs_of_nonneg positive] at ofX
  rw [abs_of_nonneg (positive.trans mono)] at ofY
  rw [ofX, ofY]
  split <;> split
  · simp [AtMost, signX, signY]
  · rename_i large small
    exact absurd (large.trans mono) small
  · simpa [AtMost, signY] using positive
  · exact ⟨positive, mono⟩

theorem toDouble_atMost_infinity {x : ℚ} (nonneg : 0 ≤ x) :
    (toDouble x).AtMost (.infinity false) := by
  have positive := rounded_nonneg nonneg
  have sign : ¬ x < 0 := not_lt.mpr nonneg
  unfold toDouble
  dsimp only
  split
  · simp [AtMost, sign]
  · exact positive

variable {x y : Number}

section

variable (le : x.AtMost y)
include le

theorem AtMost.cases :
    (∃ a b, x = .finite a ∧ y = .finite b ∧ 0 ≤ a ∧ a ≤ b) ∨
      (∃ a, x = .finite a ∧ y = .infinity false ∧ 0 ≤ a) ∨
      (x = .infinity false ∧ y = .infinity false) := by
  unfold AtMost at le
  split at le
  · exact .inl ⟨_, _, rfl, rfl, le⟩
  · exact .inr (.inl ⟨_, rfl, rfl, le⟩)
  · exact .inr (.inr ⟨rfl, rfl⟩)
  · exact le.elim

theorem AtMost.add {s t : ℚ} (nonneg : 0 ≤ s) (more : s ≤ t) :
    (x.add (.finite s)).AtMost (y.add (.finite t)) := by
  rcases le.cases with ⟨a, b, rfl, rfl, positive, le⟩ | ⟨a, rfl, rfl, positive⟩ | ⟨rfl, rfl⟩
  · exact atMost_toDouble (add_nonneg positive nonneg) (add_le_add le more)
  · exact toDouble_atMost_infinity (add_nonneg positive nonneg)
  · trivial

theorem AtMost.add_right (double : ∀ a, x = .finite a → Exact a) {t : ℚ}
    (nonneg : 0 ≤ t) : x.AtMost (y.add (.finite t)) := by
  cases x with
  | finite a =>
    have same : (finite a).add (.finite 0) = .finite a := by
      show toDouble (a + 0) = .finite a
      rw [add_zero]
      exact double a rfl
    rw [← same]
    exact le.add le_rfl nonneg
  | infinity negative =>
    rcases le.cases with ⟨_, _, is, -⟩ | ⟨_, is, -⟩ | ⟨is, rfl⟩
    · cases is
    · cases is
    · rw [is]
      trivial
  | nan => exact le.elim

theorem AtMost.div {d : ℚ} (positive : 0 < d) :
    (x.div (.finite d)).AtMost (y.div (.finite d)) := by
  have sign : ¬ d < 0 := not_lt.mpr positive.le
  have infinite : (infinity false).div (.finite d) = .infinity false := by
    simp [Number.div, sign]
  have finite (a : ℚ) : (Number.finite a).div (.finite d) = toDouble (a / d) := by
    simp [Number.div, positive.ne']
  rcases le.cases with ⟨a, b, rfl, rfl, nonneg, le⟩ | ⟨a, rfl, rfl, nonneg⟩ | ⟨rfl, rfl⟩
  · rw [finite, finite]
    exact atMost_toDouble (div_nonneg nonneg positive.le) (by gcongr)
  · rw [finite, infinite]
    exact toDouble_atMost_infinity (div_nonneg nonneg positive.le)
  · rw [infinite]
    trivial

theorem AtMost.mul {d : ℚ} (positive : 0 < d) :
    (x.mul (.finite d)).AtMost (y.mul (.finite d)) := by
  have sign : ¬ d < 0 := not_lt.mpr positive.le
  have infinite : (infinity false).mul (.finite d) = .infinity false := by
    simp [Number.mul, sign, positive.ne']
  rcases le.cases with ⟨a, b, rfl, rfl, nonneg, le⟩ | ⟨a, rfl, rfl, nonneg⟩ | ⟨rfl, rfl⟩
  · exact atMost_toDouble (mul_nonneg nonneg positive.le) (by gcongr)
  · rw [infinite]
    exact toDouble_atMost_infinity (mul_nonneg nonneg positive.le)
  · rw [infinite]
    trivial

theorem AtMost.round : x.round.AtMost y.round := by
  have nearest {a : ℚ} (nonneg : 0 ≤ a) : (0 : ℚ) ≤ ⌊a + 1 / 2⌋ := by
    exact_mod_cast Int.floor_nonneg.mpr (by linarith : 0 ≤ a + 1 / 2)
  rcases le.cases with ⟨a, b, rfl, rfl, nonneg, le⟩ | ⟨a, rfl, rfl, nonneg⟩ | ⟨rfl, rfl⟩
  · refine ⟨nearest nonneg, ?_⟩
    have mono : ⌊a + 1 / 2⌋ ≤ ⌊b + 1 / 2⌋ := Int.floor_mono (by gcongr)
    exact_mod_cast mono
  · exact nearest nonneg
  · trivial

theorem AtMost.not_lt : y.lt x = false := by
  rcases le.cases with ⟨a, b, rfl, rfl, nonneg, le⟩ | ⟨a, rfl, rfl, nonneg⟩ | ⟨rfl, rfl⟩
  · exact decide_eq_false (le.not_gt)
  · rfl
  · rfl

theorem AtMost.toFixed2 : x.toFixed2.AtMost y.toFixed2 := by
  have cents {a : ℚ} (nonneg : 0 ≤ a) : (0 : ℚ) ≤ halfAway (a * 100) / 100 := by
    have whole : (0 : ℤ) ≤ halfAway (a * 100) := le_halfAway (by push_cast; positivity)
    positivity
  rcases le.cases with ⟨a, b, rfl, rfl, nonneg, le⟩ | ⟨a, rfl, rfl, nonneg⟩ | ⟨rfl, rfl⟩
  · refine atMost_toDouble (cents nonneg) ?_
    have mono : halfAway (a * 100) ≤ halfAway (b * 100) := halfAway_mono (by gcongr)
    gcongr
  · exact toDouble_atMost_infinity (cents nonneg)
  · trivial

end

end Number

/-! ### Sums in whole steps -/

/-- A whole number of steps of `2 ^ -k`. -/
def InSteps (k : ℕ) (x : ℚ) : Prop := ∃ n : ℕ, x = n * 2 ^ (-k : ℤ)

/-- As many steps as are counted without a gap. -/
def stepBound (k : ℕ) : ℚ := 2 ^ 53 * 2 ^ (-k : ℤ)

section

variable {k : ℕ} {x y : ℚ}

theorem inSteps_zero : InSteps k 0 := ⟨0, by simp⟩

theorem InSteps.nonneg (steps : InSteps k x) : 0 ≤ x := by
  obtain ⟨n, rfl⟩ := steps
  positivity

theorem InSteps.add (left : InSteps k x) (right : InSteps k y) : InSteps k (x + y) := by
  obtain ⟨n, rfl⟩ := left
  obtain ⟨m, rfl⟩ := right
  exact ⟨n + m, by push_cast; ring⟩

theorem InSteps.sum {amounts : List ℚ} (steps : ∀ a ∈ amounts, InSteps k a) : InSteps k amounts.sum := by
  induction amounts with
  | nil => exact inSteps_zero
  | cons a amounts ih =>
    rw [List.forall_mem_cons] at steps
    rw [List.sum_cons]
    exact steps.1.add (ih steps.2)

theorem InSteps.exact (fine : k ≤ 1074) (steps : InSteps k x) (small : x ≤ stepBound k) : Exact x := by
  obtain ⟨n, rfl⟩ := steps
  have positive : (0 : ℚ) < 2 ^ (-k : ℤ) := by positivity
  have count : n ≤ 2 ^ 53 := by
    have le := le_of_mul_le_mul_right small positive
    exact_mod_cast le
  have step : (2 : ℚ) ^ (-k : ℤ) ≤ 1 := zpow_le_one_of_nonpos₀ (by norm_num) (by simp)
  refine toDouble_of_rounded ?_ ?_
  · exact_mod_cast rounded_dyadic (m := n) (e := -k) (by simpa using (by exact_mod_cast count))
      (by omega)
  · rw [abs_of_nonneg (by positivity)]
    calc (n : ℚ) * 2 ^ (-k : ℤ) ≤ 2 ^ 53 * 1 := by
          gcongr
          exact_mod_cast count
      _ < 2 ^ 1024 := by
          rw [mul_one]
          exact pow_lt_pow_right₀ (by norm_num) (by norm_num)

/-- **A sum in whole steps.** It is exact as far as the steps are counted, and once it has come
further it does not come back. -/
theorem foldl_add_of_steps (fine : k ≤ 1074) (amounts : List ℚ)
    (steps : ∀ a ∈ amounts, InSteps k a) :
    amounts.sum ≤ stepBound k ∧
        amounts.foldl (fun (sum : Number) a => sum.add (.finite a)) (.finite 0) =
          .finite amounts.sum ∨
      stepBound k < amounts.sum ∧ (Number.finite (stepBound k)).AtMost
        (amounts.foldl (fun (sum : Number) a => sum.add (.finite a)) (.finite 0)) := by
  have bound : InSteps k (stepBound k) := ⟨2 ^ 53, by push_cast; rfl⟩
  induction amounts using List.reverseRecOn with
  | nil => exact .inl ⟨bound.nonneg, rfl⟩
  | append_singleton amounts a ih =>
    have before : ∀ b ∈ amounts, InSteps k b := fun b mem => steps b (List.mem_append_left _ mem)
    have last : InSteps k a := steps a (by simp)
    rw [List.foldl_append, List.sum_append, List.sum_singleton, List.foldl_cons, List.foldl_nil]
    rcases ih before with ⟨-, total⟩ | ⟨far, total⟩
    · rw [total]
      have next := (InSteps.sum before).add last
      by_cases small : amounts.sum + a ≤ stepBound k
      · exact .inl ⟨small, next.exact fine small⟩
      · have above := not_le.mp small
        refine .inr ⟨above, ?_⟩
        rw [← bound.exact fine le_rfl]
        exact Number.atMost_toDouble bound.nonneg above.le
    · refine .inr ⟨far.trans_le (le_add_of_nonneg_right last.nonneg), ?_⟩
      refine total.add_right (fun b isB => ?_) last.nonneg
      cases isB
      exact bound.exact fine le_rfl

end

/-!
## A computation and its arithmetic

A computation on numbers is written once, over an `Arithmetic`; that of the host is `doubles`.
-/

/-- The operations of a computation. A number of a column is one that the arithmetic has; a literal
is the one nearest to it. -/
structure Arithmetic (N : Type) where
  (column literal : ℚ → N)
  (add mul div : N → N → N)
  (round toFixed2 : N → N)
  isPos : N → Bool

namespace Arithmetic

def doubles : Arithmetic Number where
  column := .finite
  literal := toDouble
  add := Number.add
  mul := Number.mul
  div := Number.div
  round := Number.round
  toFixed2 := Number.toFixed2
  isPos := (Number.finite 0).lt

variable {N : Type} (A : Arithmetic N)

/-- `xs.reduce((a, b) => a + b, 0)` -/
def sum (xs : List N) : N := xs.foldl A.add (A.literal 0)

def mean (xs : List N) : N := A.div (A.sum xs) (A.column xs.length)

end Arithmetic

end Rokad.Base
