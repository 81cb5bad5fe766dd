import Rokad.Base.Doubles
import Rokad.Payroll.Books

/-!
# Amounts in whole tomans

The amounts of a calculation are computed with doubles. What can be stored in its column was
computed exactly (`calculation_exact`): the sessions at their rate, in whole tomans, and the base
salary.
-/

namespace Rokad.Payroll

open Rokad.Base Rokad.Common

/-! ### Columns -/

namespace Toman

theorem abs_lt (m : Toman) : |m.tomans| < 10 ^ 15 := by
  have fits := m.fits
  rw [Int.abs_eq_natAbs]
  omega

@[ext] theorem ext {m m' : Toman} (same : m.tomans = m'.tomans) : m = m' := by
  cases m
  cases m'
  cases same
  rfl

theorem toNumber_eq (m : Toman) : m.toNumber = .finite m.tomans :=
  toDouble_intCast ((abs_lt m).le.trans (by norm_num))

end Toman

theorem column_intCast {n : ℤ} (small : |n| < 10 ^ 15) :
    ∃ m : Toman, column (.finite n) = .ok m ∧ m.tomans = n := by
  have fits : (halfAway (n : ℚ)).natAbs < 10 ^ 15 := by
    rw [halfAway_intCast]
    rw [Int.abs_eq_natAbs] at small
    omega
  refine ⟨⟨halfAway n, fits⟩, ?_, halfAway_intCast n⟩
  simp only [column, toDecimal_intCast small, Option.bind_some, Toman.store, dif_pos fits, orFail]

/-- What a column holds is stored again as it is. -/
theorem column_toNumber (m : Toman) : column m.toNumber = .ok m := by
  obtain ⟨m', stored, same⟩ := column_intCast m.abs_lt
  rw [m.toNumber_eq, stored, Toman.ext same]

/-- A number that is far from fitting, if it is finite. -/
def Large (x : Number) : Prop := ∀ v, x = .finite v → 2 ^ 51 ≤ v

theorem Large.not_stored {x : Number} (large : Large x) (m : Toman) : column x ≠ .ok m := by
  intro stored
  simp only [column, orFail_eq_ok, Option.bind_eq_some_iff] at stored
  obtain ⟨a, decimal, inColumn⟩ := stored
  cases x with
  | nan => cases decimal
  | infinity negative => cases decimal
  | finite v =>
    have above : (10 : ℚ) ^ 15 ≤ a :=
      pow_le_toDecimal (le_trans (by norm_num) (large v rfl)) decimal
    have rounded : 10 ^ 15 ≤ halfAway a := le_halfAway (by exact_mod_cast above)
    unfold Toman.store at inColumn
    split_ifs at inColumn with fits
    omega

/-- A whole number in its column is the number itself. -/
theorem column_whole {n : ℤ} {m : Toman} (nonneg : 0 ≤ n) (stored : column (.finite n) = .ok m) :
    m.tomans = n ∧ n < 10 ^ 15 := by
  by_cases small : |n| < 10 ^ 15
  · obtain ⟨m', stored', same⟩ := column_intCast small
    rw [stored] at stored'
    cases stored'
    rw [abs_of_nonneg nonneg] at small
    exact ⟨same, small⟩
  · simp only [column, orFail_eq_ok, Option.bind_eq_some_iff] at stored
    obtain ⟨a, decimal, inColumn⟩ := stored
    rw [abs_of_nonneg nonneg, not_lt] at small
    have above : (10 : ℚ) ^ 15 ≤ a := pow_le_toDecimal (by exact_mod_cast small) decimal
    have rounded : 10 ^ 15 ≤ halfAway a := le_halfAway (by exact_mod_cast above)
    unfold Toman.store at inColumn
    split_ifs at inColumn with fits
    omega

/-! ### Doubles that are exact or large -/

theorem large_toDouble {x : ℚ} (le : 2 ^ 51 ≤ x) : Large (toDouble x) :=
  fun _ finite => two_pow_le_of_toDouble le finite

theorem Large.mul {x : Number} (large : Large x) {r : ℚ} (le : 1 ≤ r) :
    Large (x.mul (.finite r)) := by
  cases x with
  | nan => intro v finite; cases finite
  | infinity negative =>
    intro v finite
    unfold Number.mul at finite
    dsimp only at finite
    split_ifs at finite
  | finite a =>
    have above := large a rfl
    exact large_toDouble (le_trans above (le_mul_of_one_le_right (by linarith) le))

theorem Large.add {x : Number} (large : Large x) {b : ℚ} (nonneg : 0 ≤ b) :
    Large (x.add (.finite b)) := by
  cases x with
  | nan => intro v finite; cases finite
  | infinity negative => intro v finite; cases finite
  | finite a =>
    have above := large a rfl
    exact large_toDouble (by linarith)

theorem Large.round {x : Number} (large : Large x) : Large x.round := by
  cases x with
  | nan => intro v finite; cases finite
  | infinity negative => intro v finite; cases finite
  | finite a =>
    intro v finite
    cases finite
    have above := large a rfl
    have floor : (2 ^ 51 : ℤ) ≤ ⌊a + 1 / 2⌋ := Int.le_floor.mpr (by push_cast; linarith)
    exact_mod_cast floor

theorem Large.toFixed2 {x : Number} (large : Large x) : Large x.toFixed2 := by
  cases x with
  | nan => intro v finite; cases finite
  | infinity negative => intro v finite; cases finite
  | finite a =>
    have above := large a rfl
    have cents : ((2 ^ 51 * 100 : ℤ)) ≤ halfAway (a * 100) :=
      le_halfAway (by push_cast; linarith)
    refine large_toDouble ?_
    rw [le_div_iff₀ (by norm_num)]
    exact_mod_cast cents

/-- A half of a whole number is a double, or so large that it does not matter. -/
theorem toDouble_half_or_large {m : ℤ} (nonneg : 0 ≤ m) :
    toDouble (m / 2) = .finite (m / 2) ∨ Large (toDouble (m / 2)) := by
  by_cases small : |m| ≤ 2 ^ 53
  · exact .inl (toDouble_half small)
  · rw [abs_of_nonneg nonneg, not_le] at small
    refine .inr (large_toDouble ?_)
    have cast : (2 : ℚ) ^ 53 < m := by exact_mod_cast small
    linarith

theorem toDouble_whole_or_large {m : ℤ} (nonneg : 0 ≤ m) :
    toDouble m = .finite m ∨ Large (toDouble m) := by
  have half := toDouble_half_or_large (m := 2 * m) (by omega)
  have same : ((2 * m : ℤ) : ℚ) / 2 = m := by push_cast; ring
  rwa [same] at half

/-! ### A contract -/

namespace TeacherContract

/-- What the request for a contract demands of its amounts. -/
structure Priced (c : TeacherContract) : Prop where
  rate : 0 ≤ c.rateAmount.tomans
  base : ∀ b ∈ c.baseSalary, 0 ≤ b.tomans

/-- The base salary of a contract. -/
def base (c : TeacherContract) : ℤ := c.baseSalary.elim 0 Toman.tomans

/-- What a number of sessions earns. -/
def teaching (c : TeacherContract) (sessions : ℕ) : ℤ :=
  match c.rateType with
  | .perSession => sessions * c.rateAmount.tomans
  | .hourly => (3 * (sessions * c.rateAmount.tomans) + 1) / 2

theorem Priced.base_nonneg {c : TeacherContract} (priced : c.Priced) : 0 ≤ c.base := by
  unfold TeacherContract.base
  cases salary : c.baseSalary with
  | none => exact le_rfl
  | some b => exact priced.base b salary

theorem Priced.teaching_nonneg {c : TeacherContract} (priced : c.Priced) (sessions : ℕ) :
    0 ≤ c.teaching sessions := by
  have product : 0 ≤ (sessions : ℤ) * c.rateAmount.tomans :=
    mul_nonneg (Int.natCast_nonneg _) priced.rate
  unfold teaching
  split
  · exact product
  · omega

theorem baseSalary_eq (c : TeacherContract) (sessions : ℕ) :
    (calculation c sessions).baseSalary = .finite c.base := by
  have base : c.baseSalary.elim (.finite 0) Toman.toNumber = .finite c.base := by
    unfold TeacherContract.base
    cases c.baseSalary with
    | none => rfl
    | some b => exact b.toNumber_eq
  unfold calculation
  split
  · exact base
  · exact base

/-- An amount by the session is exact, or too large for its column. -/
theorem perSession_exact {n : ℕ} {r b : ℤ} (rate : 0 ≤ r) (base : 0 ≤ b) {m : Toman}
    (stored : column (((toDouble n).mul (.finite r)).add (.finite b)) = .ok m) :
    ((toDouble n).mul (.finite r)).add (.finite b) = .finite ((n * r + b : ℤ) : ℚ) := by
  by_cases free : r = 0
  · subst free
    rw [Int.cast_zero] at stored ⊢
    cases times : toDouble n with
    | nan => rw [times] at stored; cases stored
    | infinity negative => rw [times] at stored; cases stored
    | finite a =>
      rw [times] at stored
      have zero : (Number.finite a).mul (.finite 0) = .finite 0 := by
        have none : toDouble ((0 : ℤ) : ℚ) = .finite ((0 : ℤ) : ℚ) :=
          toDouble_intCast (by norm_num)
        simpa [Number.mul] using none
      rw [zero] at stored ⊢
      have sum : (0 : ℚ) + b = ((b : ℤ) : ℚ) := zero_add _
      rcases toDouble_whole_or_large base with exact' | large
      · simp only [Number.add, sum, exact', mul_zero, zero_add]
      · refine absurd ?_ (large.not_stored m)
        simpa only [Number.add, sum] using stored
  · have positive : (1 : ℚ) ≤ r := by exact_mod_cast (show 1 ≤ r by omega)
    have baseCast : (0 : ℚ) ≤ b := by exact_mod_cast base
    rcases toDouble_whole_or_large (Int.natCast_nonneg n) with exact' | large
    swap
    · exact absurd stored (((large.mul positive).add baseCast).not_stored m)
    rw [Int.cast_natCast] at exact'
    rw [exact'] at stored ⊢
    have product : (n : ℚ) * r = ((n * r : ℤ) : ℚ) := by push_cast; rfl
    have sum : ((n * r : ℤ) : ℚ) + b = ((n * r + b : ℤ) : ℚ) := by push_cast; rfl
    have nonneg : 0 ≤ (n : ℤ) * r := mul_nonneg (Int.natCast_nonneg n) rate
    rcases toDouble_whole_or_large nonneg with exact' | large
    swap
    · refine absurd stored (Large.not_stored (Large.add ?_ baseCast) m)
      simpa only [Number.mul, product] using large
    simp only [Number.mul, product, exact', Number.add, sum] at stored ⊢
    rcases toDouble_whole_or_large (add_nonneg nonneg base) with exact' | large
    · exact exact'
    · exact absurd stored (large.not_stored m)

/-- The hours of a number of sessions, with two decimals. -/
theorem hours_exact_or_large (n : ℕ) :
    ((toDouble n).mul (.finite (3 / 2))).toFixed2 = .finite (((3 * n : ℤ) : ℚ) / 2) ∨
      Large ((toDouble n).mul (.finite (3 / 2))).toFixed2 := by
  have half : (n : ℚ) * (3 / 2) = ((3 * n : ℤ) : ℚ) / 2 := by push_cast; ring
  rcases toDouble_whole_or_large (Int.natCast_nonneg n) with exact' | large
  swap
  · exact .inr (large.mul (by norm_num)).toFixed2
  rw [Int.cast_natCast] at exact'
  simp only [exact', Number.mul, half]
  rcases toDouble_half_or_large (m := 3 * n) (by omega) with exact' | large
  swap
  · exact .inr large.toFixed2
  have cents : ((3 * n : ℤ) : ℚ) / 2 * 100 = ((150 * n : ℤ) : ℚ) := by push_cast; ring
  have back : ((150 * n : ℤ) : ℚ) / 100 = ((3 * n : ℤ) : ℚ) / 2 := by push_cast; ring
  refine .inl ?_
  rw [exact', Number.toFixed2, cents, halfAway_intCast, back, exact']

theorem floor_half_add (k b : ℤ) : ⌊((k + 2 * b : ℤ) : ℚ) / 2 + 1 / 2⌋ = (k + 1) / 2 + b := by
  have same : ((k + 2 * b : ℤ) : ℚ) / 2 + 1 / 2 = ((k + 1 : ℤ) : ℚ) / (2 : ℤ) + (b : ℤ) := by
    push_cast
    ring
  rw [same, Int.floor_add_intCast]
  congr 1
  exact_mod_cast Rat.floor_intCast_div_natCast (k + 1) 2

/-- An amount by the hour is exact, or too large for its column. -/
theorem hourly_exact {n : ℕ} {r b : ℤ} (rate : 0 ≤ r) (base : 0 ≤ b) {m : Toman}
    (stored : column (((((toDouble n).mul (.finite (3 / 2))).toFixed2.mul (.finite r)).add
      (.finite b)).round) = .ok m) :
    ((((toDouble n).mul (.finite (3 / 2))).toFixed2.mul (.finite r)).add (.finite b)).round =
      .finite ((((3 * (n * r) + 1) / 2 + b : ℤ) : ℚ)) := by
  have baseCast : (0 : ℚ) ≤ b := by exact_mod_cast base
  have wholeBase : (0 : ℚ) + b = (b : ℚ) := zero_add _
  by_cases free : r = 0
  · subst free
    rw [Int.cast_zero] at stored ⊢
    generalize ((toDouble n).mul (.finite (3 / 2))).toFixed2 = hours at stored ⊢
    cases hours with
    | nan => cases stored
    | infinity negative => cases stored
    | finite a =>
      have zero : (Number.finite a).mul (.finite 0) = .finite 0 := by
        have none : toDouble ((0 : ℤ) : ℚ) = .finite ((0 : ℤ) : ℚ) :=
          toDouble_intCast (by norm_num)
        simpa [Number.mul] using none
      rw [zero] at stored ⊢
      simp only [Number.add, wholeBase] at stored ⊢
      rcases toDouble_whole_or_large base with exact' | large
      swap
      · exact absurd stored (large.round.not_stored m)
      have floor := floor_half_add 0 b
      have same : ((0 + 2 * b : ℤ) : ℚ) / 2 = b := by push_cast; ring
      rw [same] at floor
      simp only [exact', Number.round, floor, mul_zero]
  · have positive : (1 : ℚ) ≤ r := by exact_mod_cast (show 1 ≤ r by omega)
    rcases hours_exact_or_large n with exact' | large
    swap
    · exact absurd stored (((large.mul positive).add baseCast).round.not_stored m)
    rw [exact'] at stored ⊢
    have product : ((3 * n : ℤ) : ℚ) / 2 * r = ((3 * (n * r) : ℤ) : ℚ) / 2 := by push_cast; ring
    have sum : ((3 * (n * r) : ℤ) : ℚ) / 2 + b = ((3 * (n * r) + 2 * b : ℤ) : ℚ) / 2 := by
      push_cast
      ring
    have nonneg : 0 ≤ 3 * ((n : ℤ) * r) :=
      mul_nonneg (by norm_num) (mul_nonneg (Int.natCast_nonneg n) rate)
    rcases toDouble_half_or_large nonneg with exact' | large
    swap
    · refine absurd stored (Large.not_stored (Large.round (Large.add ?_ baseCast)) m)
      simpa only [Number.mul, product] using large
    simp only [Number.mul, product, exact', Number.add, sum] at stored ⊢
    rcases toDouble_half_or_large (m := 3 * (n * r) + 2 * b) (by omega) with exact' | large
    · simp only [exact', Number.round, floor_half_add]
    · exact absurd stored (large.round.not_stored m)

/-- An amount that can be stored was computed exactly. -/
theorem calculation_exact {c : TeacherContract} (priced : c.Priced) {sessions : ℕ} {m : Toman}
    (stored : column (calculation c sessions).calculatedAmount = .ok m) :
    (calculation c sessions).calculatedAmount = .finite ((c.teaching sessions + c.base : ℤ) : ℚ) ∧
      m.tomans = c.teaching sessions + c.base ∧ c.teaching sessions + c.base < 10 ^ 15 := by
  have value : (calculation c sessions).calculatedAmount =
      .finite ((c.teaching sessions + c.base : ℤ) : ℚ) := by
    have salary := c.baseSalary_eq sessions
    unfold calculation teaching at *
    cases kind : c.rateType with
    | perSession =>
      simp only [kind] at stored salary ⊢
      rw [salary, Toman.toNumber_eq] at stored ⊢
      exact perSession_exact priced.rate priced.base_nonneg stored
    | hourly =>
      simp only [kind] at stored salary ⊢
      rw [salary, Toman.toNumber_eq] at stored ⊢
      exact hourly_exact priced.rate priced.base_nonneg stored
  rw [value] at stored
  exact ⟨value, column_whole
    (add_nonneg (priced.teaching_nonneg sessions) priced.base_nonneg) stored⟩

/-- The title of what the sessions earn. -/
def teachingTitle (c : TeacherContract) (units : Number) : String :=
  "حق‌التدریس " ++ units.toString ++ (match c.rateType with
      | .perSession => " جلسه تدریس رسمی"
      | .hourly => " ساعت تدریس رسمی")

/-- What the sessions are counted in. -/
def units (c : TeacherContract) (sessions : ℕ) : Number :=
  (calculation c sessions).sourceHours.getD (toDouble (calculation c sessions).sessionCount)

/-- The items of a contract: its base salary and what the sessions earn, unless there is none. -/
def lines (c : TeacherContract) (sessions month : ℕ) (base teaching : Toman) : List Line :=
  (if 0 < base.tomans then
    [{ type := .baseSalary
       title := "حقوق ثابت پایه ماهیانه (" ++ monthName month ++ ")"
       amount := base }] else []) ++
  (if 0 < teaching.tomans then
    [{ type := .hourlyTeaching
       title := c.teachingTitle (c.units sessions)
       amount := teaching
       multiplierOrHours := some (c.units sessions) }] else [])

theorem toDouble_sub {a b : ℤ} (first : 0 ≤ a) (second : 0 ≤ b) (small : a + b < 10 ^ 15) :
    (Number.finite ((a + b : ℤ) : ℚ)).sub (.finite (b : ℚ)) = .finite (a : ℚ) := by
  have same : ((a + b : ℤ) : ℚ) + -(b : ℚ) = (a : ℚ) := by push_cast; ring
  simp only [Number.sub, Number.neg, Number.add, same]
  refine toDouble_intCast ?_
  rw [abs_of_nonneg first]
  have : (10 : ℤ) ^ 15 ≤ 2 ^ 53 := by norm_num
  omega

theorem lt_finite (n : ℤ) : Number.lt (.finite 0) (.finite n) = decide (0 < n) := by
  simp only [Number.lt, Int.cast_pos]

theorem linesOf_two {p q : Prop} [Decidable p] [Decidable q] {draft draft' : ItemDraft}
    {line line' : Line} (first : lineOf draft = some line) (second : lineOf draft' = some line') :
    linesOf ((if p then [draft] else []) ++ (if q then [draft'] else [])) =
      some ((if p then [line] else []) ++ (if q then [line'] else [])) := by
  split_ifs <;> simp [linesOf, first, second]

/-- The items of a contract whose amount can be stored. -/
theorem linesOf_teachingItems {c : TeacherContract} (priced : c.Priced) {sessions : ℕ} {m : Toman}
    (stored : column (calculation c sessions).calculatedAmount = .ok m) (month : ℕ) :
    ∃ base teaching : Toman, base.tomans = c.base ∧ teaching.tomans = c.teaching sessions ∧
      linesOf (teachingItems c month (calculation c sessions)) =
        some (c.lines sessions month base teaching) := by
  obtain ⟨exact', -, small⟩ := calculation_exact priced stored
  have base := priced.base_nonneg
  have teaching := priced.teaching_nonneg sessions
  obtain ⟨b, storedBase, isBase⟩ := column_intCast
    (show |c.base| < 10 ^ 15 by rw [abs_of_nonneg base]; omega)
  obtain ⟨t, storedTeaching, isTeaching⟩ := column_intCast
    (show |c.teaching sessions| < 10 ^ 15 by rw [abs_of_nonneg teaching]; omega)
  refine ⟨b, t, isBase, isTeaching, ?_⟩
  unfold teachingItems TeacherContract.lines
  simp only [exact', baseSalary_eq, toDouble_sub teaching base small, lt_finite, isBase, isTeaching,
    decide_eq_true_eq]
  refine linesOf_two ?_ ?_
  · rw [lineOf, storedBase]
    rfl
  · rw [lineOf, storedTeaching]
    rfl

end TeacherContract

/-! ### A sheet -/

/-- The line of an adjustment. -/
def PayrollAdjustment.line (adj : PayrollAdjustment) : Line :=
  { type := .adjustment
    title := "تعدیلات و اصلاحات معوقه: " ++ adj.reason
    amount := adj.amount }

theorem linesOf_pending (pending : List PayrollAdjustment) :
    linesOf (pending.map (·.draft)) = some (pending.map (·.line)) := by
  induction pending with
  | nil => rfl
  | cons adj pending ih =>
    have line : lineOf adj.draft = some adj.line := by
      rw [lineOf, show adj.draft.amount = adj.amount.toNumber from rfl, column_toNumber]
      rfl
    rw [List.map_cons, linesOf, line, ih]
    rfl

/-- What the adjustments come to. -/
def totalAdjustment (pending : List PayrollAdjustment) : Number :=
  pending.foldl (fun sum adj => sum.add adj.amount.toNumber) (.finite 0)

/-- The sheet of a contract says what its sessions and its base salary come to. -/
structure Tells (c : TeacherContract) (sessions month : ℕ) (pending : List PayrollAdjustment)
    (sheet : Sheet) : Prop where
  calculated : sheet.calculatedAmount.tomans = c.teaching sessions + c.base
  final : column ((Number.finite 0).max
    ((Number.finite ((c.teaching sessions + c.base : ℤ) : ℚ)).add (totalAdjustment pending))) =
      .ok sheet.finalAmount
  lines : ∃ base teaching : Toman, base.tomans = c.base ∧ teaching.tomans = c.teaching sessions ∧
    sheet.lines = c.lines sessions month base teaching ++ pending.map (·.line)
  gross : sheet.grossPay = sheet.finalAmount
  deductions : sheet.totalDeductions = 0
  net : sheet.netPay = sheet.finalAmount
  draft : sheet.status = .draft

theorem tells_of_calculatedSheet {c : TeacherContract} (priced : c.Priced) {sessions month : ℕ}
    {pending : List PayrollAdjustment} {sheet : Sheet}
    (written : calculatedSheet c sessions month pending = some sheet) :
    Tells c sessions month pending sheet := by
  unfold calculatedSheet at written
  cases columns : slipColumns (calculation c sessions) pending with
  | error e =>
    simp only [columns, Except.toOption, Option.bind_eq_bind, Option.bind_none, reduceCtorEq]
      at written
  | ok cols =>
    have ⟨calculated, stored, final, inColumn, hours⟩ :
        ∃ calculated, column (calculation c sessions).calculatedAmount = .ok calculated ∧
          ∃ final, column ((Number.finite 0).max ((calculation c sessions).calculatedAmount.add
            (totalAdjustment pending))) = .ok final ∧
              cols.calculatedAmount = calculated ∧ cols.finalAmount = final := by
      unfold slipColumns at columns
      simp only [bind_eq_ok] at columns
      obtain ⟨calculated, stored, final, inColumn, rest⟩ := columns
      refine ⟨calculated, stored, final, inColumn, ?_⟩
      split at rest
      · simp only [pure_eq_ok] at rest
        rw [← rest]
        exact ⟨rfl, rfl⟩
      · simp only [do_eq_ok] at rest
        obtain ⟨hours, -, rfl⟩ := rest
        exact ⟨rfl, rfl⟩
    obtain ⟨rfl, rfl⟩ := hours
    obtain ⟨exact', same, -⟩ := c.calculation_exact priced stored
    obtain ⟨base, teaching, isBase, isTeaching, lines⟩ :=
      c.linesOf_teachingItems priced stored month
    simp only [columns, Except.toOption, linesOf_append, lines, linesOf_pending,
      Option.bind_eq_bind, Option.bind_some, Option.map_some, Option.some.injEq] at written
    rw [exact'] at inColumn
    subst written
    exact ⟨same, inColumn, ⟨base, teaching, isBase, isTeaching, rfl⟩, rfl, rfl, rfl, rfl⟩

end Rokad.Payroll
