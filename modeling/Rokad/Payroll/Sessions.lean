import Rokad.Common.DayOrder
import Rokad.Payroll.Calculation

/-!
# One month for every session

A session that was taught should be paid in one month, that of its day. The query of a month takes
the days written in the Jalali calendar from the first to the last of the month, and those written
in the Gregorian one from the text of the instant at which the month begins in Tehran, which in UTC
is the evening before. So the last day of a month, written in the Gregorian calendar, is counted
twice (`not_counted_once`); every other session is counted once (`counted_once_iff`).
-/

namespace Rokad.Payroll

open Rokad.Base Rokad.Common

/-! ### What is counted -/

/-- The calendar a day is written in. -/
inductive Calendar where
  | jalali | gregorian

/-- The text is the `jd`th day of the month, in one calendar or the other. -/
inductive Names (jalaali : Jalaali) (month : CalculateMonthlyPayrollDto) (jd : ℕ) :
    Calendar → String → Prop
  | jalali : Names jalaali month jd .jalali (dateText (month.year, month.month, jd))
  | gregorian (date : ℤ × ℤ × ℤ) (civil : IsCivil date)
      (same : daysFromCivil date.1 date.2.1 date.2.2 = jalaali.day month.year month.month jd) :
      Names jalaali month jd .gregorian (dateText date)

/-- The query of the month takes the row. -/
def Counted (jalaali : Jalaali) (month : CalculateMonthlyPayrollDto) (row : TeacherAttendance) :
    Prop :=
  ∃ range, monthRange jalaali month.year month.month = .ok range ∧
    countSessions { attendance := [row] } row.tenantId range (some row.teacherId) = 1

instance (jalaali : Jalaali) (month : CalculateMonthlyPayrollDto) (row : TeacherAttendance) :
    Decidable (Counted jalaali month row) :=
  match found : monthRange jalaali month.year month.month with
  | .ok range =>
    decidable_of_iff
      (countSessions { attendance := [row] } row.tenantId range (some row.teacherId) = 1)
      (by simp only [Counted, found, Except.ok.injEq, exists_eq_left'])
  | .error e => isFalse (by simp [Counted, found])

/-- Months since that of the year 0. -/
def CalculateMonthlyPayrollDto.index (month : CalculateMonthlyPayrollDto) : ℕ :=
  12 * month.year + (month.month - 1)

/-- The last day of a month after which another one is paid. -/
def EndsMonth (jalaali : Jalaali) (month : CalculateMonthlyPayrollDto) (jd : ℕ) : Prop :=
  jd = jalaali.jalaaliMonthLength month.year month.month ∧ ¬ (month.year = 1450 ∧ month.month = 12)

section

variable {jalaali : Jalaali} (correct : ∀ jy, 1400 ≤ jy → jy ≤ 1450 → jalaali.Counts jy)
include correct

/-! ### The bounds of a month -/

/-- The instant of a date that is written plainly. -/
theorem jalaliToGregorianDate_dateText {jy jm jd : ℕ} (year : 1400 ≤ jy ∧ jy ≤ 1450)
    (valid : jalaali.isValidJalaaliDate jy jm jd = true) (timeOfDay : TimeOfDay) :
    jalaliToGregorianDate jalaali (dateText (jy, jm, jd)) timeOfDay = .ok
      (match timeOfDay with
        | .start => (jalaali.day jy jm jd - 1) * 86400000 + ((20 * 60 + 30) * 60) * 1000
        | .end => jalaali.day jy jm jd * 86400000 + (((20 * 60 + 29) * 60 + 59) * 1000 + 999)
        | .noon => jalaali.day jy jm jd * 86400000 + ((8 * 60 + 30) * 60) * 1000) := by
  have counts := correct jy year.1 year.2
  obtain ⟨month, first, last⟩ := (counts.valid jm jd).mp valid
  have length := counts.monthLength jm month
  obtain ⟨normal, parts⟩ : normalizePersianDigits (dateText (jy, jm, jd)) = dateText (jy, jm, jd) ∧
      matchDate (dateText (jy, jm, jd)) = some (jy, jm, jd) :=
    matchDate_dateText ⟨by omega, by omega⟩ month ⟨first, by omega⟩
  have good : isValidJalaliDate jalaali (dateText (jy, jm, jd)) = true := by
    unfold isValidJalaliDate
    rw [normal, parts]
    simp only [valid, Bool.and_true, Bool.and_eq_true, Bool.not_eq_true', Bool.or_eq_false_iff,
      decide_eq_false_iff_not]
    omega
  have dayBefore (y m d : ℤ) : daysFromCivil y m (d - 1) = daysFromCivil y m d - 1 := by
    rw [← daysFromCivil_first, ← daysFromCivil_first y m d]
    ring
  unfold jalaliToGregorianDate
  simp only [normal, parts, good, if_true]
  cases timeOfDay with
  | start => simp only [dateUTC_eq, dayBefore, Jalaali.day]
  | noon => simp only [dateUTC_eq, Jalaali.day]
  | «end» => simp only [dateUTC_eq, Jalaali.day]

theorem monthRange_eq (month : CalculateMonthlyPayrollDto) :
    monthRange jalaali month.year month.month = .ok
      { startStr := dateText (month.year, month.month, 1)
        endStr := dateText (month.year, month.month,
          jalaali.jalaaliMonthLength month.year month.month)
        gStartDate := (jalaali.day month.year month.month 1 - 1) * 86400000 +
          ((20 * 60 + 30) * 60) * 1000
        gEndDate := jalaali.day month.year month.month
          (jalaali.jalaaliMonthLength month.year month.month) * 86400000 +
            (((20 * 60 + 29) * 60 + 59) * 1000 + 999) } := by
  have counts := correct month.year month.year_range.1 month.year_range.2
  have first := jalaliToGregorianDate_dateText correct month.year_range
    (counts.first month.month_range) .start
  have last := jalaliToGregorianDate_dateText correct month.year_range
    (counts.last month.month_range) .end
  rw [Nat.cast_one] at first
  have one : "-" ++ pad2 1 = "-01" := by decide
  have startStr : toString month.year ++ "-" ++ pad2 month.month ++ "-01" =
      dateText (month.year, month.month, 1) := by
    rw [← one, ← String.append_assoc]
    rfl
  have endStr : toString month.year ++ "-" ++ pad2 month.month ++ "-" ++
      pad2 (jalaali.jalaaliMonthLength month.year month.month) = dateText (month.year, month.month,
          jalaali.jalaaliMonthLength month.year month.month) := rfl
  unfold monthRange
  simp only [startStr, endStr, first, last, Except.mapError, bind, Except.bind, pure, Except.pure]

/-! ### Months in order -/

variable (jalaali) in
/-- The first day of a month; months are counted from that of the year 0. -/
def firstDay (index : ℕ) : ℤ := jalaali.day (index / 12) (index % 12 + 1) 1

variable (jalaali) in
def lastDay (index : ℕ) : ℤ :=
  jalaali.day (index / 12) (index % 12 + 1)
    (jalaali.jalaaliMonthLength (index / 12) (index % 12 + 1))

/-- A month that is paid. -/
def Paid (index : ℕ) : Prop := 12 * 1400 ≤ index ∧ index < 12 * 1451

theorem firstDay_le_lastDay {index : ℕ} (paid : Paid index) :
    firstDay jalaali index ≤ lastDay jalaali index := by
  obtain ⟨low, high⟩ := paid
  have counts := correct (index / 12) (by omega) (by omega)
  have month : 1 ≤ index % 12 + 1 ∧ index % 12 + 1 ≤ 12 := by omega
  have length := counts.monthLength _ month
  unfold firstDay lastDay
  rw [counts.day_eq (counts.last month)]
  omega

/-- A month begins on the day after the one before it ends. -/
theorem firstDay_succ {index : ℕ} (paid : Paid index) :
    firstDay jalaali (index + 1) = lastDay jalaali index + 1 := by
  obtain ⟨low, high⟩ := paid
  have counts := correct (index / 12) (by omega) (by omega)
  unfold firstDay lastDay
  by_cases esfand : index % 12 + 1 = 12
  · have year : (index + 1) / 12 = index / 12 + 1 := by omega
    have month : (index + 1) % 12 + 1 = 1 := by omega
    rw [year, month, counts.nextYear, esfand]
  · have year : (index + 1) / 12 = index / 12 := by omega
    have month : (index + 1) % 12 + 1 = index % 12 + 1 + 1 := by omega
    rw [year, month, counts.nextMonth _ (by omega)]

theorem lastDay_lt_firstDay {i j : ℕ} (less : i < j) (paid : Paid i) (paid' : Paid j) :
    lastDay jalaali i < firstDay jalaali j := by
  induction j, less using Nat.le_induction with
  | base =>
    rw [firstDay_succ correct paid]
    omega
  | succ j less ih =>
    have here : Paid j := ⟨by unfold Paid at paid; omega, by unfold Paid at paid'; omega⟩
    rw [firstDay_succ correct here]
    have before := ih here
    have days := firstDay_le_lastDay correct here
    omega

omit correct in
theorem index_div_mod (month : CalculateMonthlyPayrollDto) :
    month.index / 12 = month.year ∧ month.index % 12 + 1 = month.month := by
  have range := month.month_range
  unfold CalculateMonthlyPayrollDto.index
  omega

omit correct in
theorem index_paid (month : CalculateMonthlyPayrollDto) : Paid month.index := by
  have years := month.year_range
  have months := month.month_range
  unfold Paid CalculateMonthlyPayrollDto.index
  omega

omit correct in
theorem eq_of_index_eq {month month' : CalculateMonthlyPayrollDto}
    (same : month.index = month'.index) : month = month' := by
  obtain ⟨year, inYear⟩ := index_div_mod month
  obtain ⟨year', inYear'⟩ := index_div_mod month'
  have years : month.year = month'.year := by rw [← year, same, year']
  have months : month.month = month'.month := by rw [← inYear, same, inYear']
  cases month
  cases month'
  cases years
  cases months
  rfl

/-! ### The years of the days -/

omit correct in
theorem year_le_of_le {days days' : ℤ} (le : days ≤ days') :
    (civilFromDays days).1 ≤ (civilFromDays days').1 := by
  have keys : ¬ dateKey (civilFromDays days') < dateKey (civilFromDays days) :=
    mt dateKey_lt_iff.mp (not_lt.mpr le)
  have spec := civilFromDays_spec days
  have spec' := civilFromDays_spec days'
  unfold dateKey at keys
  omega

section

variable {month : CalculateMonthlyPayrollDto} {jd : ℕ}
  (valid : jalaali.isValidJalaaliDate month.year month.month jd = true)
include valid

/-- A paid day has a Gregorian date of this century. -/
theorem civil_of_paid :
    2021 ≤ (civilFromDays (jalaali.day month.year month.month jd)).1 ∧
      (civilFromDays (jalaali.day month.year month.month jd)).1 ≤ 2072 := by
  have years := month.year_range
  have counts := correct month.year years.1 years.2
  rw [counts.civilFromDays_day valid]
  have civil := (counts.civil _ _ valid).2
  omega

/-- So has the day before. -/
theorem civil_before_paid :
    2020 ≤ (civilFromDays (jalaali.day month.year month.month jd - 1)).1 ∧
      (civilFromDays (jalaali.day month.year month.month jd - 1)).1 ≤ 2072 := by
  obtain ⟨low, high⟩ := civil_of_paid correct valid
  generalize jalaali.day month.year month.month jd = day at *
  have newYear : (civilFromDays (daysFromCivil 2020 12 31)).1 = 2020 := by decide
  have late : daysFromCivil 2020 12 31 ≤ day - 1 := by
    by_contra early
    have before := year_le_of_le (show day ≤ daysFromCivil 2020 12 31 by omega)
    omega
  have after := year_le_of_le late
  have before := year_le_of_le (show day - 1 ≤ day by omega)
  omega

end

/-! ### What the query takes -/

omit correct in
theorem countSessions_eq_one {row : TeacherAttendance} (present : row.status = .present)
    (range : MonthRange) :
    countSessions { attendance := [row] } row.tenantId range (some row.teacherId) = 1 ↔
      (¬ row.date < range.startStr ∧ ¬ range.endStr < row.date) ∨
        (¬ row.date < range.gStartDateStr ∧ ¬ range.gEndDateStr < row.date) := by
  rw [countSessions, List.countP_singleton]
  simp only [present, true_and, decide_eq_true_eq]
  split_ifs with taken
  · exact iff_of_true rfl taken
  · exact iff_of_false (by decide) taken

omit correct in
theorem isoDate_at {day millis : ℤ} (inDay : 0 ≤ millis ∧ millis < 86400000) :
    isoDate (day * 86400000 + millis) = dateText (civilFromDays day) := by
  have here : (day * 86400000 + millis) / 86400000 = day := by omega
  rw [isoDate, here]
  rfl

/-- A row is counted when its text lies between those of the first and the last of the month, or
those of the evening before and the last. -/
theorem counted_iff {month : CalculateMonthlyPayrollDto} {row : TeacherAttendance}
    (present : row.status = .present) :
    Counted jalaali month row ↔ (¬ row.date < dateText (month.year, month.month, 1) ∧
        ¬ dateText (month.year, month.month,
          jalaali.jalaaliMonthLength month.year month.month) < row.date) ∨
      (¬ row.date < dateText (civilFromDays (jalaali.day month.year month.month 1 - 1)) ∧
        ¬ dateText (civilFromDays (jalaali.day month.year month.month
          (jalaali.jalaaliMonthLength month.year month.month))) < row.date) := by
  unfold Counted
  simp only [monthRange_eq correct month, Except.ok.injEq, exists_eq_left']
  rw [countSessions_eq_one present]
  unfold MonthRange.gStartDateStr MonthRange.gEndDateStr
  dsimp only
  rw [isoDate_at (by decide), isoDate_at (by decide)]

omit correct in
theorem fourDigits_of_bounds {y : ℤ} (low : 1400 ≤ y) (high : y ≤ 2072) : FourDigits y :=
  ⟨by omega, by omega⟩

variable {month month' : CalculateMonthlyPayrollDto} {row : TeacherAttendance} {jd : ℕ}
  (present : row.status = .present)
  (valid : jalaali.isValidJalaaliDate month.year month.month jd = true)

include present valid in
/-- A day that is written in the Jalali calendar is counted in its month alone. -/
theorem counted_jalali
    (text : row.date = dateText (month.year, month.month, jd)) :
    Counted jalaali month' row ↔ month' = month := by
  have years := month.year_range
  have years' := month'.year_range
  have months := month.month_range
  have months' := month'.month_range
  have counts := correct month.year years.1 years.2
  have counts' := correct month'.year years'.1 years'.2
  obtain ⟨-, first, last⟩ := (counts.valid _ _).mp valid
  have length := counts.monthLength _ months
  have length' := counts'.monthLength _ months'
  have before := civil_before_paid correct (counts'.first months')
  have ranged {y m d : ℕ} (month : 1 ≤ m ∧ m ≤ 12) (inMonth : 1 ≤ d ∧ d ≤ 31) :
      Ranged (y, m, d) := by
    unfold Ranged
    dsimp only
    omega
  have year : FourDigits month.year := fourDigits_of_bounds (by omega) (by omega)
  have year' : FourDigits month'.year := fourDigits_of_bounds (by omega) (by omega)
  have day : Ranged ((month.year : ℤ), (month.month : ℤ), (jd : ℤ)) :=
    ranged months ⟨first, by omega⟩
  have firstDay : Ranged ((month'.year : ℤ), (month'.month : ℤ), 1) :=
    ranged (d := 1) months' (by decide)
  rw [counted_iff correct present, text, dateText_lt_iff day firstDay year year',
    dateText_lt_iff (ranged months' ⟨by omega, by omega⟩) day year' year,
    dateText_lt_iff day (ranged_civilFromDays (by omega)) year
      (fourDigits_of_bounds (by omega) (by omega))]
  have late : dateKey ((month.year : ℤ), (month.month : ℤ), (jd : ℤ)) <
      dateKey (civilFromDays (jalaali.day month'.year month'.month 1 - 1)) := by
    have spec := civilFromDays_spec (jalaali.day month'.year month'.month 1 - 1)
    unfold dateKey
    dsimp only
    omega
  simp only [late, not_true_eq_false, false_and, or_false]
  simp only [dateKey]
  constructor
  · rintro ⟨after, until'⟩
    apply eq_of_index_eq
    unfold CalculateMonthlyPayrollDto.index
    omega
  · rintro rfl
    omega

include present valid in
/-- A day that is written in the Gregorian calendar is counted in each month whose first day is not
later than the next day. -/
theorem counted_gregorian
    (text : row.date = dateText (civilFromDays (jalaali.day month.year month.month jd))) :
    Counted jalaali month' row ↔
      jalaali.day month'.year month'.month 1 ≤ jalaali.day month.year month.month jd + 1 ∧
        jalaali.day month.year month.month jd ≤ jalaali.day month'.year month'.month
          (jalaali.jalaaliMonthLength month'.year month'.month) := by
  have years' := month'.year_range
  have months' := month'.month_range
  have counts' := correct month'.year years'.1 years'.2
  have length' := counts'.monthLength _ months'
  have here := civil_of_paid correct valid
  have before := civil_before_paid correct (counts'.first months')
  have final := civil_of_paid correct (counts'.last months')
  have year : FourDigits (civilFromDays (jalaali.day month.year month.month jd)).1 :=
    fourDigits_of_bounds (by omega) (by omega)
  rw [counted_iff correct present, text,
    dateText_civil_lt_iff year (fourDigits_of_bounds (by omega) (by omega)),
    dateText_civil_lt_iff (fourDigits_of_bounds (by omega) (by omega)) year]
  have early : dateText (month'.year, month'.month,
      jalaali.jalaaliMonthLength month'.year month'.month) <
        dateText (civilFromDays (jalaali.day month.year month.month jd)) := by
    have ranged : Ranged ((month'.year : ℤ), (month'.month : ℤ),
        (jalaali.jalaaliMonthLength month'.year month'.month : ℤ)) := by
      unfold Ranged
      dsimp only
      omega
    rw [dateText_lt_iff ranged (ranged_civilFromDays (by omega))
      (fourDigits_of_bounds (by omega) (by omega)) year]
    have spec := civilFromDays_spec (jalaali.day month.year month.month jd)
    unfold dateKey
    dsimp only
    omega
  simp only [early, not_true_eq_false, and_false, false_or]
  omega

/-! ### The law -/

omit correct in
theorem firstDay_index (month : CalculateMonthlyPayrollDto) :
    firstDay jalaali month.index = jalaali.day month.year month.month 1 := by
  rw [firstDay, (index_div_mod month).1, (index_div_mod month).2]

omit correct in
theorem lastDay_index (month : CalculateMonthlyPayrollDto) :
    lastDay jalaali month.index = jalaali.day month.year month.month
      (jalaali.jalaaliMonthLength month.year month.month) := by
  rw [lastDay, (index_div_mod month).1, (index_div_mod month).2]

include present valid in
/-- A day is counted in the month after its own exactly when it is the last of its own. -/
theorem counted_gregorian_iff
    (text : row.date = dateText (civilFromDays (jalaali.day month.year month.month jd))) :
    Counted jalaali month' row ↔ month' = month ∨
      month'.index = month.index + 1 ∧ jd = jalaali.jalaaliMonthLength month.year month.month := by
  have counts := correct month.year month.year_range.1 month.year_range.2
  obtain ⟨inYear, first, last⟩ := (counts.valid _ _).mp valid
  have day := counts.day_eq valid
  have lastDay := counts.day_eq (counts.last month.month_range)
  rw [← firstDay_index] at day
  rw [← firstDay_index, ← lastDay_index] at lastDay
  rw [counted_gregorian correct present valid text, ← firstDay_index, ← lastDay_index, day]
  have paid := index_paid month
  have paid' := index_paid month'
  rcases lt_trichotomy month'.index month.index with earlier | same | later
  · have apart := lastDay_lt_firstDay correct earlier paid' paid
    refine iff_of_false (by omega) ?_
    rintro (rfl | ⟨next, -⟩)
    · omega
    · omega
  · have inMonth := firstDay_le_lastDay correct paid
    rw [same]
    exact iff_of_true (by omega) (.inl (eq_of_index_eq same))
  · have next : firstDay jalaali (month.index + 1) = Payroll.lastDay jalaali month.index + 1 :=
      firstDay_succ correct paid
    by_cases following : month'.index = month.index + 1
    · have inMonth := firstDay_le_lastDay correct paid'
      rw [following, next] at inMonth
      rw [following, next]
      constructor
      · intro taken
        exact .inr ⟨rfl, by omega⟩
      · rintro (rfl | ⟨-, rfl⟩)
        · omega
        · omega
    · have between : Paid (month.index + 1) := by
        unfold Paid at paid paid' ⊢
        omega
      have apart := lastDay_lt_firstDay correct (show month.index + 1 < month'.index by omega)
        between paid'
      have inMonth := firstDay_le_lastDay correct between
      refine iff_of_false (by omega) ?_
      rintro (rfl | ⟨next, -⟩)
      · omega
      · omega

/-- A day is counted in its month alone unless it is written in the Gregorian calendar and ends the
month. -/
theorem counted_once_iff {month : CalculateMonthlyPayrollDto} {jd : ℕ} {calendar : Calendar}
    {row : TeacherAttendance} (present : row.status = .present)
    (valid : jalaali.isValidJalaaliDate month.year month.month jd = true)
    (names : Names jalaali month jd calendar row.date) :
    (∀ month', Counted jalaali month' row ↔ month' = month) ↔
      ¬ (calendar = .gregorian ∧ EndsMonth jalaali month jd) := by
  generalize written : row.date = text at names
  cases names with
  | jalali =>
    simp only [reduceCtorEq, false_and, not_false_eq_true, iff_true]
    exact fun month' => counted_jalali correct present valid written
  | gregorian date civil same =>
    have text : row.date = dateText (civilFromDays (jalaali.day month.year month.month jd)) := by
      rw [written, ← same, civil]
    simp only [true_and, counted_gregorian_iff correct present valid text]
    obtain ⟨year, inYear⟩ := index_div_mod month
    have paid := index_paid month
    constructor
    · rintro once ⟨last, following⟩
      have next : Paid (month.index + 1) := by
        unfold Paid CalculateMonthlyPayrollDto.index at *
        omega
      let after : CalculateMonthlyPayrollDto :=
        { year := (month.index + 1) / 12
          month := (month.index + 1) % 12 + 1
          year_range := by unfold Paid at next; omega
          month_range := by omega }
      have index : after.index = month.index + 1 := by
        change 12 * ((month.index + 1) / 12) + ((month.index + 1) % 12 + 1 - 1) = _
        omega
      have same := (once after).mp (.inr ⟨index, last⟩)
      rw [same] at index
      omega
    · intro inside month'
      refine ⟨?_, .inl⟩
      rintro (here | ⟨next, last⟩)
      · exact here
      · refine absurd ⟨last, fun final => ?_⟩ inside
        have paid' := index_paid month'
        unfold Paid CalculateMonthlyPayrollDto.index at *
        omega

end

/-! ### The calendar of this age -/

namespace Solar

/-- Eight years of thirty-three have a day more. -/
def leaps (jy : ℕ) : ℕ := (8 * jy + 21) / 33

def monthLength (jy jm : ℕ) : ℕ :=
  if jm ≤ 6 then 31 else if jm ≤ 11 then 30 else if leaps jy < leaps (jy + 1) then 30 else 29

def number (jy jm jd : ℕ) : ℤ :=
  daysFromCivil 2025 3 21 + 365 * ((jy : ℤ) - 1404) + ((leaps jy : ℤ) - leaps 1404) +
    (if jm ≤ 6 then 31 * ((jm : ℤ) - 1) else 186 + 30 * ((jm : ℤ) - 7)) + ((jd : ℤ) - 1)

/-- The calendar from 1210 to 1634. -/
def jalaali : Jalaali where
  jalaaliMonthLength := monthLength
  isValidJalaaliDate jy jm jd := (1 ≤ jm && jm ≤ 12) && (1 ≤ jd && jd ≤ monthLength jy jm)
  toGregorian jy jm jd := civilFromDays (number jy jm jd)

theorem day_eq (jy jm jd : ℕ) : jalaali.day jy jm jd = number jy jm jd :=
  (civilFromDays_spec _).2.2

theorem valid_iff (jy jm jd : ℕ) : jalaali.isValidJalaaliDate jy jm jd = true ↔
    (1 ≤ jm ∧ jm ≤ 12) ∧ 1 ≤ jd ∧ jd ≤ monthLength jy jm := by
  simp only [jalaali, Bool.and_eq_true, decide_eq_true_eq]

/-- A year lies in the two Gregorian years from 621 later on. -/
theorem number_bounds {jy jm jd : ℕ} (low : 1400 ≤ jy) (high : jy ≤ 1450)
    (valid : jalaali.isValidJalaaliDate jy jm jd = true) :
    daysBefore (12 * (jy + 620) + 10) ≤ number jy jm jd + 719468 ∧
      number jy jm jd + 719468 < daysBefore (12 * (jy + 622) + 10) := by
  obtain ⟨month, first, last⟩ := (valid_iff jy jm jd).mp valid
  have base : daysFromCivil 2025 3 21 = 20168 := by decide
  have start : leaps 1404 = 341 := by decide
  have years (y : ℤ) : (12 * y + 10) / 12 = y ∧ (12 * y + 10) % 12 = 10 := by omega
  obtain ⟨inYear, here⟩ : ∃ inYear : ℕ, inYear ≤ 365 ∧
      number jy jm jd = 20168 + 365 * ((jy : ℤ) - 1404) + ((leaps jy : ℤ) - 341) + inYear := by
    unfold number
    unfold monthLength at last
    rw [base, start]
    split_ifs at last ⊢
    · exact ⟨31 * (jm - 1) + (jd - 1), by omega, by omega⟩
    · exact ⟨186 + 30 * (jm - 7) + (jd - 1), by omega, by omega⟩
    · exact ⟨186 + 30 * (jm - 7) + (jd - 1), by omega, by omega⟩
    · exact ⟨186 + 30 * (jm - 7) + (jd - 1), by omega, by omega⟩
  unfold daysBefore
  rw [(years _).1, (years _).2, (years _).1, (years _).2, here.2]
  unfold leaps
  clear years base start
  constructor
  · omega
  · omega

theorem counts {jy : ℕ} (low : 1400 ≤ jy) (high : jy ≤ 1450) : jalaali.Counts jy where
  monthLength jm month := by
    change 29 ≤ monthLength jy jm ∧ monthLength jy jm ≤ 31
    unfold monthLength
    split_ifs <;> omega
  valid jm jd := valid_iff jy jm jd
  civil jm jd valid := by
    obtain ⟨early, late⟩ := number_bounds low high valid
    have after := daysBefore_le_iff.mp early
    have before := daysBefore_le_iff.not.mp (not_le.mpr late)
    have spec := civilFromDays_spec (number jy jm jd)
    refine ⟨congrArg civilFromDays spec.2.2, ?_⟩
    change jy + 621 ≤ (civilFromDays (number jy jm jd)).1 ∧
      (civilFromDays (number jy jm jd)).1 ≤ jy + 622
    omega
  nextDay jm jd first valid := by
    rw [day_eq, day_eq, number, number]
    push_cast
    ring
  nextMonth jm month := by
    rw [day_eq, day_eq]
    change number jy (jm + 1) 1 = number jy jm (monthLength jy jm) + 1
    unfold number monthLength
    split_ifs <;> push_cast <;> omega
  nextYear := by
    rw [day_eq, day_eq]
    change number (jy + 1) 1 1 = number jy 12 (monthLength jy 12) + 1
    have step : leaps jy ≤ leaps (jy + 1) ∧ leaps (jy + 1) ≤ leaps jy + 1 := by
      unfold leaps
      omega
    unfold number monthLength
    split_ifs <;> push_cast <;> omega

/-- A month, with the session of its last day but one and that of its last. -/
def mehr : CalculateMonthlyPayrollDto := School.monthOf 7

def aban : CalculateMonthlyPayrollDto := School.monthOf 8

def session : TeacherAttendance := { tenantId := 1, teacherId := 1, date := "2025-10-21" }

def lastSession : TeacherAttendance := { tenantId := 1, teacherId := 1, date := "2025-10-22" }

end Solar

theorem counted_once_iff_mehr :
    (∀ month', Counted Solar.jalaali month' Solar.session ↔ month' = Solar.mehr) ↔
      ¬ (Calendar.gregorian = .gregorian ∧ EndsMonth Solar.jalaali Solar.mehr 29) :=
  counted_once_iff (fun _ => Solar.counts) rfl (by decide +kernel)
    (.gregorian (2025, 10, 21) (by decide +kernel) (by decide +kernel))

/-- The session of the last day of Mehr is paid in Mehr and in Aban. -/
theorem not_counted_once : Names Solar.jalaali Solar.mehr 30 .gregorian Solar.lastSession.date ∧
    Solar.lastSession.status = .present ∧ Counted Solar.jalaali Solar.mehr Solar.lastSession ∧
      ¬ ∀ month', Counted Solar.jalaali month' Solar.lastSession ↔ month' = Solar.mehr := by
  refine ⟨.gregorian (2025, 10, 22) (by decide +kernel) (by decide +kernel), rfl,
    by decide +kernel, fun once => ?_⟩
  have aban := (once Solar.aban).mp (by decide +kernel)
  exact absurd aban (by decide)

end Rokad.Payroll
