import Rokad.Base.Rounding

/-!
# Money

The amounts of the finance module exist twice: as decimals of twenty significant
digits while a request computes with them, and as `Decimal(15, 2)` columns once
they are stored. A `Money` is a column value; `Money.store` is what the database
does to a decimal it is given, and `columnValue` the value it keeps.

Between column values the arithmetic is exact (`minus_coe`, `add_coe`). A request
amount may have more places than the column. `RoundsCleanly` is the condition under
which rounding the new balance gives the same as subtracting the rounded amount
(`store_finalBalance`, `columnValue_add`).
-/

namespace Rokad.Finance

open Rokad.Base

/-! ### Columns -/

/-- A value of a `Decimal(15, 2)` column. -/
structure Money where
  hundredths : ℤ
  fits : hundredths.natAbs < 10 ^ 15
deriving DecidableEq

namespace Money

@[ext] theorem ext {a b : Money} (same : a.hundredths = b.hundredths) : a = b := by
  cases a; cases b; cases same; rfl

/-- The decimal a column value denotes. -/
@[coe] def value (m : Money) : ℚ := m.hundredths / 100

instance : Coe Money ℚ := ⟨value⟩

instance : Zero Money := ⟨⟨0, by decide⟩⟩

@[simp] theorem coe_zero : ((0 : Money) : ℚ) = 0 := by
  simp [value, show (0 : Money).hundredths = 0 from rfl]

end Money

def inHundredths (a : ℚ) : ℤ := halfAway (a * 100)

/-- The value a `Decimal(15, 2)` column keeps of a decimal. -/
def columnValue (a : ℚ) : ℚ := inHundredths a / 100

/-- Writing a decimal to a column; a value with more than thirteen places before the
point is out of range. -/
def Money.store (a : ℚ) : Option Money :=
  if fits : (inHundredths a).natAbs < 10 ^ 15 then some ⟨inHundredths a, fits⟩ else none

@[simp] theorem inHundredths_coe (m : Money) : inHundredths m = m.hundredths := by
  unfold inHundredths Money.value
  rw [div_mul_cancel₀ _ (by norm_num), halfAway_intCast]

@[simp] theorem columnValue_coe (m : Money) : columnValue m = m := by
  rw [columnValue, inHundredths_coe, Money.value]

@[simp] theorem Money.store_coe (m : Money) : Money.store m = some m := by
  unfold Money.store
  rw [dif_pos (by rw [inHundredths_coe]; exact m.fits)]
  exact congrArg some (Money.ext (inHundredths_coe m))

theorem Money.store_spec {a : ℚ} {m : Money} (stored : Money.store a = some m) :
    (m : ℚ) = columnValue a := by
  unfold Money.store at stored
  split at stored
  · cases stored
    rfl
  · cases stored

theorem columnValue_mono {a b : ℚ} (le : a ≤ b) : columnValue a ≤ columnValue b := by
  have : (inHundredths a : ℚ) ≤ inHundredths b := by
    exact_mod_cast halfAway_mono (by linarith)
  unfold columnValue
  linarith

@[simp] theorem columnValue_zero : columnValue 0 = 0 := by
  simp [columnValue, inHundredths]

theorem columnValue_le {a : ℚ} {m : Money} (le : a ≤ m) : columnValue a ≤ m := by
  simpa using columnValue_mono le

theorem le_columnValue {a : ℚ} {m : Money} (le : m ≤ a) : m ≤ columnValue a := by
  simpa using columnValue_mono le

/-- Any whole number of thousands of hundredths is reached from below. -/
theorem columnValue_pos {a : ℚ} (le : 1 ≤ a) : 0 < columnValue a := by
  have hundred : (100 : ℤ) ≤ inHundredths a := le_halfAway (by push_cast; linarith)
  have : (100 : ℚ) ≤ inHundredths a := by exact_mod_cast hundred
  unfold columnValue
  linarith

theorem Money.abs_coe_lt (m : Money) : |(m : ℚ)| < 10 ^ 13 := by
  have fits : |m.hundredths| < 10 ^ 15 := by
    have := m.fits
    rw [Int.abs_eq_natAbs]
    exact_mod_cast this
  have cast : |(m.hundredths : ℚ)| < 10 ^ 15 := by exact_mod_cast fits
  unfold value
  rw [abs_div, abs_of_pos (show (0 : ℚ) < 100 by norm_num), div_lt_iff₀ (by norm_num)]
  linarith

theorem abs_sub_columnValue_le (a : ℚ) : |a - columnValue a| ≤ 1 / 200 := by
  have rounded := abs_sub_halfAway_le (a * 100)
  have scaled : a - columnValue a = (a * 100 - halfAway (a * 100)) / 100 := by
    unfold columnValue inHundredths
    ring
  rw [scaled, abs_div, abs_of_pos (show (0 : ℚ) < 100 by norm_num), div_le_iff₀ (by norm_num)]
  linarith

/-- What a column accepted was below `10 ^ 13` up to rounding. -/
theorem abs_le_of_store {a : ℚ} {m : Money} (stored : Money.store a = some m) :
    |a| ≤ 10 ^ 13 + 1 := by
  have kept := m.abs_coe_lt
  have near := abs_sub_columnValue_le a
  rw [Money.store_spec stored] at kept
  calc |a| = |(a - columnValue a) + columnValue a| := by rw [sub_add_cancel]
    _ ≤ |a - columnValue a| + |columnValue a| := abs_add_le _ _
    _ ≤ 10 ^ 13 + 1 := by linarith

theorem columnValue_eq {a : ℚ} {m : Money} (near : |a - m| < 1 / 200) : columnValue a = m := by
  have scaled : a * 100 - m.hundredths = (a - m) * 100 := by
    unfold Money.value
    ring
  have rounded : halfAway (a * 100) = m.hundredths := by
    refine halfAway_eq_of_abs_lt ?_
    rw [scaled, abs_mul, abs_of_pos (show (0 : ℚ) < 100 by norm_num)]
    linarith
  rw [columnValue, inHundredths, rounded, Money.value]

/-! ### Decimal arithmetic -/

namespace Decimal

/-- `a.minus(b)` -/
def minus (a b : ℚ) : ℚ := toPrecision 20 (a - b)

/-- `a.add(b)` -/
def add (a b : ℚ) : ℚ := toPrecision 20 (a + b)

/-- `a.times(b)` -/
def times (a b : ℚ) : ℚ := toPrecision 20 (a * b)

end Decimal

open Decimal

/-- Twenty digits keep the hundredths of every value in reach of the columns. -/
theorem toPrecision_hundredths (n : ℤ) (below : |(n : ℚ) / 10 ^ 2| < 10 ^ (14 : ℤ)) :
    toPrecision 20 ((n : ℚ) / 10 ^ 2) = n / 10 ^ 2 :=
  toPrecision_eq_self below (by norm_num)

theorem minus_coe (a b : Money) : minus a b = a - b := by
  have bound : |((a : ℚ) - b)| < 10 ^ (14 : ℤ) := by
    have ha := a.abs_coe_lt
    have hb := b.abs_coe_lt
    have := abs_sub (a : ℚ) b
    norm_num at *
    linarith
  have grid : (a : ℚ) - b = ((a.hundredths - b.hundredths : ℤ) : ℚ) / 10 ^ 2 := by
    unfold Money.value
    push_cast
    ring
  unfold minus
  rw [grid] at bound ⊢
  exact toPrecision_hundredths _ bound

theorem add_coe (a b : Money) : add a b = a + b := by
  have bound : |((a : ℚ) + b)| < 10 ^ (14 : ℤ) := by
    have ha := a.abs_coe_lt
    have hb := b.abs_coe_lt
    have := abs_add_le (a : ℚ) b
    norm_num at *
    linarith
  have grid : (a : ℚ) + b = ((a.hundredths + b.hundredths : ℤ) : ℚ) / 10 ^ 2 := by
    unfold Money.value
    push_cast
    ring
  unfold add
  rw [grid] at bound ⊢
  exact toPrecision_hundredths _ bound

section

variable {paid s : Money} {a : ℚ}

theorem abs_coe_add_lt (paid : Money) (stored : Money.store a = some s) :
    |(paid : ℚ) + a| < 10 ^ (14 : ℤ) := by
  have hp := paid.abs_coe_lt
  have ha := abs_le_of_store stored
  have := abs_add_le (paid : ℚ) a
  norm_num at *
  linarith

/-- A column value that the sum reaches, it still reaches in twenty digits. -/
theorem coe_le_add {m : Money} (stored : Money.store a = some s) (le : (m : ℚ) ≤ paid + a) :
    (m : ℚ) ≤ add paid a := by
  have bound := abs_coe_add_lt paid stored
  unfold Money.value at le ⊢
  rw [show (100 : ℚ) = 10 ^ 2 by norm_num] at le ⊢
  exact le_toPrecision bound (by norm_num) le

theorem abs_add_sub_le (paid : Money) (stored : Money.store a = some s) :
    |add paid a - (paid + a)| ≤ 5 / 10 ^ 7 := by
  have near := abs_toPrecision_sub_le (p := 20) (abs_coe_add_lt paid stored)
  unfold add
  norm_num at near ⊢
  linarith

end

/-- The difference of two column values is stored as it is. -/
theorem store_minus_coe {a b m : Money} (stored : Money.store (minus a b) = some m) :
    (m : ℚ) = a - b := by
  have hundredths : ((a : ℚ) - b) * 100 = ((a.hundredths - b.hundredths : ℤ) : ℚ) := by
    unfold Money.value
    push_cast
    ring
  rw [Money.store_spec stored, minus_coe, columnValue, inHundredths, hundredths, halfAway_intCast]
  unfold Money.value
  push_cast
  ring

/-! ### Amounts that round cleanly -/

/-- The amount is further from the middle of two hundredths than twenty digits can
move it. -/
def RoundsCleanly (a : ℚ) : Prop := ClearOfTie (5 / 10 ^ 5) (a * 100)
deriving Decidable

theorem roundsCleanly_coe (m : Money) : RoundsCleanly m := by
  unfold RoundsCleanly Money.value
  rw [div_mul_cancel₀ _ (by norm_num)]
  exact clearOfTie_intCast (by norm_num) _

section

variable {a : ℚ} {s : Money}

/-- Storing `balance - a` keeps what subtracting the stored amount gives. -/
theorem columnValue_minus (balance : Money) (stored : Money.store a = some s)
    (clean : RoundsCleanly a) : columnValue (minus balance a) = balance - s := by
  have bound : |(balance : ℚ) - a| < 10 ^ (14 : ℤ) := by
    have hb := balance.abs_coe_lt
    have ha := abs_le_of_store stored
    have := abs_sub (balance : ℚ) a
    norm_num at *
    linarith
  have near := abs_toPrecision_sub_le (p := 20) bound
  have disturbed : |minus balance a * 100 - (balance.hundredths - a * 100)| ≤ 5 / 10 ^ 5 := by
    have scaled : minus balance a * 100 - (balance.hundredths - a * 100) =
        (toPrecision 20 ((balance : ℚ) - a) - ((balance : ℚ) - a)) * 100 := by
      unfold minus Money.value
      ring
    rw [scaled, abs_mul, abs_of_pos (show (0 : ℚ) < 100 by norm_num)]
    norm_num at near ⊢
    linarith
  have shifted := clean.int_sub (by norm_num) balance.hundredths
  have rounded := shifted.halfAway_eq disturbed
  rw [ClearOfTie.halfAway_int_sub clean (by norm_num)] at rounded
  rw [Money.store_spec stored]
  unfold columnValue inHundredths
  rw [rounded]
  unfold Money.value
  push_cast
  ring

theorem columnValue_add (paid : Money) (stored : Money.store a = some s)
    (clean : RoundsCleanly a) : columnValue (add paid a) = paid + s := by
  have near := abs_add_sub_le paid stored
  have disturbed : |add paid a * 100 - (paid.hundredths + a * 100)| ≤ 5 / 10 ^ 5 := by
    have scaled : add paid a * 100 - (paid.hundredths + a * 100) =
        (add paid a - (paid + a)) * 100 := by
      unfold Money.value
      ring
    rw [scaled, abs_mul, abs_of_pos (show (0 : ℚ) < 100 by norm_num)]
    linarith
  have shifted := clean.int_add (by norm_num) paid.hundredths
  have rounded := shifted.halfAway_eq disturbed
  rw [ClearOfTie.halfAway_int_add clean (by norm_num)] at rounded
  rw [Money.store_spec stored]
  unfold columnValue inHundredths
  rw [rounded]
  unfold Money.value
  push_cast
  ring

end

/-! ### The balance after a payment -/

/-- `newBalance.lessThan(0) ? new Prisma.Decimal(0) : newBalance` -/
def finalBalance (currentBalance amount : ℚ) : ℚ :=
  if minus currentBalance amount < 0 then 0 else minus currentBalance amount

/-- Between column values the clamp is the only thing that can lose money. -/
theorem finalBalance_coe (balance s : Money) : finalBalance balance s = max 0 ((balance : ℚ) - s) := by
  unfold finalBalance
  rw [minus_coe]
  split
  · rename_i negative
    exact (max_eq_left negative.le).symm
  · rename_i nonneg
    exact (max_eq_right (not_lt.mp nonneg)).symm

theorem minus_nonneg {balance : Money} {a : ℚ} (le : a ≤ balance) : 0 ≤ minus balance a :=
  toPrecision_nonneg (by linarith)

theorem minus_nonpos {balance : Money} {a : ℚ} (le : balance ≤ a) : minus balance a ≤ 0 :=
  toPrecision_nonpos (by linarith)

/-- The stored balance after a payment is the balance less the stored amount, or zero. -/
theorem store_finalBalance {balance s final : Money} {a : ℚ} (stored : Money.store a = some s)
    (clean : RoundsCleanly a) (written : Money.store (finalBalance balance a) = some final) :
    (final : ℚ) = max 0 ((balance : ℚ) - s) := by
  have rounded := columnValue_minus balance stored clean
  rw [Money.store_spec written]
  by_cases le : a ≤ balance
  · have covered : (s : ℚ) ≤ balance := by
      rw [Money.store_spec stored]
      exact columnValue_le le
    rw [finalBalance, if_neg (not_lt.mpr (minus_nonneg le)), rounded, max_eq_right (by linarith)]
  · push Not at le
    have exceeded : (balance : ℚ) ≤ s := by
      rw [Money.store_spec stored]
      exact le_columnValue le.le
    have nonpos := minus_nonpos le.le
    have zero : finalBalance balance a = 0 := by
      unfold finalBalance
      split
      · rfl
      · rename_i h
        exact le_antisymm nonpos (not_lt.mp h)
    rw [zero, columnValue_zero, max_eq_left (by linarith)]

end Rokad.Finance
