import Rokad.Common.Jalali
import Mathlib.Order.SuccPred.Basic

/-!
# The order of days

Days are in the order of their dates, and dates with four digits for the year in the order of their
texts (`dateText_lt_iff`, `dateText_civil_lt_iff`). A date that is written plainly is read as it
was written (`matchDate_dateText`).
-/

namespace Rokad.Common

open Rokad.Base

/-! ### Texts of one length -/

section

variable {as bs xs ys : List Char}

/-- What begins the text decides, unless it is the same. -/
theorem append_lt_append_iff (length : as.length = bs.length) :
    as ++ xs < bs ++ ys ↔ as < bs ∨ as = bs ∧ xs < ys := by
  induction as generalizing bs with
  | nil =>
    cases bs with
    | nil => simp
    | cons b bs => simp at length
  | cons a as ih =>
    cases bs with
    | nil => simp at length
    | cons b bs =>
      have rest : as.length = bs.length := by simpa using length
      simp only [List.cons_append, List.cons_lt_cons_iff, ih rest, List.cons.injEq]
      tauto

end

theorem toDigits_lt_toDigits_iff {m n : ℕ}
    (length : (Nat.toDigits 10 m).length = (Nat.toDigits 10 n).length) :
    Nat.toDigits 10 m < Nat.toDigits 10 n ↔ m < n := by
  induction m using Nat.strong_induction_on generalizing n with
  | _ m ih =>
    have digit : ∀ c < 10, ∀ d < 10, ([c.digitChar] < [d.digitChar] ↔ c < d) ∧
      (Nat.digitChar c = Nat.digitChar d ↔ c = d) := by decide
    by_cases single : m < 10
    · have single' : n < 10 := by
        by_contra long
        rw [Nat.toDigits_of_lt_base single, Nat.toDigits_of_base_le (by decide) (by omega)]
          at length
        simp at length
      rw [Nat.toDigits_of_lt_base single, Nat.toDigits_of_lt_base single']
      exact (digit m single n single').1
    · have long : 10 ≤ n := by
        by_contra single'
        rw [Nat.toDigits_of_lt_base (n := n) (by omega),
          Nat.toDigits_of_base_le (by decide) (by omega)] at length
        simp at length
      rw [Nat.toDigits_of_base_le (n := m) (by decide) (by omega),
        Nat.toDigits_of_base_le (by decide) long] at length ⊢
      have heads : (Nat.toDigits 10 (m / 10)).length = (Nat.toDigits 10 (n / 10)).length := by
        simpa using length
      rw [append_lt_append_iff heads, ih (m / 10) (by omega) heads,
        (digit _ (Nat.mod_lt m (by decide)) _ (Nat.mod_lt n (by decide))).1]
      constructor
      · rintro (less | ⟨same, less⟩)
        · omega
        · have quotients : m / 10 = n / 10 := by
            have values := congrArg (Nat.ofDigitChars 10 · 0) same
            simpa [Nat.ofDigitChars_toDigits] using values
          omega
      · intro less
        by_cases same : m / 10 = n / 10
        · exact .inr ⟨congrArg _ same, by omega⟩
        · exact .inl (by omega)

theorem pad2_lt_iff {m n : ℤ} (left : 1 ≤ m ∧ m ≤ 31) (right : 1 ≤ n ∧ n ≤ 31) :
    (pad2 m).toList < (pad2 n).toList ↔ m < n := by
  have all : ∀ a < 32, ∀ b < 32, (pad2 (a : ℕ)).toList < (pad2 (b : ℕ)).toList ↔ a < b := by
    decide +kernel
  have naturals := all m.toNat (by omega) n.toNat (by omega)
  rw [Int.toNat_of_nonneg (by omega), Int.toNat_of_nonneg (by omega)] at naturals
  rw [naturals]
  omega

/-- A year of four digits. -/
def FourDigits (y : ℤ) : Prop := 1000 ≤ y ∧ y ≤ 9999

theorem FourDigits.length {y : ℤ} (year : FourDigits y) : (toString y).toList.length = 4 := by
  obtain ⟨low, high⟩ := year
  obtain ⟨n, rfl⟩ := Int.eq_ofNat_of_zero_le (show 0 ≤ y by omega)
  change (Nat.repr n).toList.length = 4
  rw [Nat.toList_repr]
  have most := (Nat.length_toDigits_le_iff (b := 10) (n := n) (k := 4) (by decide)
    (by decide)).mpr (by omega)
  have least := mt (Nat.length_toDigits_le_iff (b := 10) (n := n) (k := 3) (by decide)
    (by decide)).mp (by omega)
  omega

theorem FourDigits.lt_iff {y y' : ℤ} (year : FourDigits y) (year' : FourDigits y') :
    (toString y).toList < (toString y').toList ↔ y < y' := by
  have length := year.length.trans year'.length.symm
  obtain ⟨n, rfl⟩ := Int.eq_ofNat_of_zero_le (le_trans (by decide) year.1)
  obtain ⟨n', rfl⟩ := Int.eq_ofNat_of_zero_le (le_trans (by decide) year'.1)
  change (Nat.repr n).toList.length = (Nat.repr n').toList.length at length
  change (Nat.repr n).toList < (Nat.repr n').toList ↔ _
  rw [Nat.toList_repr, Nat.toList_repr] at length ⊢
  rw [toDigits_lt_toDigits_iff length]
  exact Int.ofNat_lt.symm

/-! ### Dates -/

/-- A date as a number that is in the order of the dates. -/
def dateKey (date : ℤ × ℤ × ℤ) : ℤ := 32 * (12 * date.1 + date.2.1) + date.2.2

/-- Dates are in the order of their texts. -/
theorem dateText_lt_iff {date date' : ℤ × ℤ × ℤ} (ranged : Ranged date) (ranged' : Ranged date')
    (year : FourDigits date.1) (year' : FourDigits date'.1) :
    dateText date < dateText date' ↔ dateKey date < dateKey date' := by
  obtain ⟨-, month, inMonth⟩ := ranged
  obtain ⟨-, month', inMonth'⟩ := ranged'
  have dash : "-".toList = ['-'] := by decide
  change (dateText date).toList < (dateText date').toList ↔ _
  simp only [dateText, String.toList_append, dash, List.append_assoc]
  rw [append_lt_append_iff (year.length.trans year'.length.symm), append_lt_append_iff rfl,
    append_lt_append_iff ((length_pad2 ⟨month.1, by omega⟩).trans
      (length_pad2 ⟨month'.1, by omega⟩).symm), append_lt_append_iff rfl, year.lt_iff year',
    pad2_lt_iff ⟨month.1, by omega⟩ ⟨month'.1, by omega⟩, pad2_lt_iff inMonth inMonth']
  have years : (toString date.1).toList = (toString date'.1).toList ↔ date.1 = date'.1 := by
    refine ⟨fun same => ?_, fun same => by rw [same]⟩
    have notLess := mt (year.lt_iff year').mpr (by rw [same]; exact List.lt_irrefl _)
    have notMore := mt (year'.lt_iff year).mpr (by rw [same]; exact List.lt_irrefl _)
    omega
  have months : (pad2 date.2.1).toList = (pad2 date'.2.1).toList ↔ date.2.1 = date'.2.1 :=
    ⟨fun same => pad2_inj ⟨month.1, by omega⟩ ⟨month'.1, by omega⟩ (String.ext same),
      fun same => by rw [same]⟩
  simp only [years, months, List.lt_irrefl, true_and, false_or, dateKey]
  omega

/-! ### Days -/

/-- The days before a month; months are counted from March of the year 0. -/
def daysBefore (month : ℤ) : ℤ :=
  365 * (month / 12) + month / 12 / 4 - month / 12 / 100 + month / 12 / 400 +
    (153 * (month % 12) + 2) / 5

theorem daysFromCivil_eq {y m d : ℤ} (month : 1 ≤ m ∧ m ≤ 12) :
    daysFromCivil y m d = daysBefore (12 * y + m - 3) + d - 719469 := by
  unfold daysFromCivil daysBefore
  dsimp only
  by_cases early : m ≤ 2
  · have year : (12 * y + m - 3) / 12 = y - 1 := by omega
    have inYear : (12 * y + m - 3) % 12 = m + 9 := by omega
    rw [if_pos early, if_neg (by omega), year, inYear]
    omega
  · have year : (12 * y + m - 3) / 12 = y := by omega
    have inYear : (12 * y + m - 3) % 12 = m - 3 := by omega
    rw [if_neg early, if_pos (by omega), year, inYear]
    omega

theorem daysBefore_strictMono : StrictMono daysBefore := by
  refine strictMono_int_of_lt_succ fun month => ?_
  unfold daysBefore
  by_cases last : month % 12 = 11
  · have next : (month + 1) / 12 = month / 12 + 1 := by omega
    have first : (month + 1) % 12 = 0 := by omega
    rw [next, first, last]
    omega
  · have same : (month + 1) / 12 = month / 12 := by omega
    have next : (month + 1) % 12 = month % 12 + 1 := by omega
    rw [same, next]
    omega

theorem daysBefore_era {year mp era : ℤ} (inYear : 0 ≤ mp ∧ mp ≤ 11) :
    daysBefore (12 * (year + era * 400) + mp) =
      era * 146097 + 365 * year + year / 4 - year / 100 + year / 400 + (153 * mp + 2) / 5 := by
  have years : (12 * (year + era * 400) + mp) / 12 = year + era * 400 := by omega
  have months : (12 * (year + era * 400) + mp) % 12 = mp := by omega
  rw [daysBefore, years, months]
  omega

/-- A day is in the month of its date. -/
theorem lt_daysBefore_next (days : ℤ) : days + 719468 <
      daysBefore (12 * (civilFromDays days).1 + (civilFromDays days).2.1 - 3 + 1) := by
  obtain ⟨year, rest, same, inEra, inYear, here, next⟩ :=
    yearOfEra_spec (show 0 ≤ (days + 719468) % 146097 by omega) (by omega)
  unfold civilFromDays
  simp only [same]
  have left : (days + 719468) % 146097 - (365 * year + year / 4 - year / 100) = rest := by omega
  rw [left]
  obtain ⟨mp, month, low, high⟩ : ∃ mp, (5 * rest + 2) / 153 = mp ∧ 0 ≤ mp ∧ mp ≤ 11 :=
    ⟨_, rfl, by omega, by omega⟩
  rw [month]
  obtain ⟨era, inEras⟩ : ∃ era, (days + 719468) / 146097 = era := ⟨_, rfl⟩
  rw [inEras]
  have index : 12 * (if (if mp < 10 then mp + 3 else mp - 9) ≤ 2 then year + era * 400 + 1
      else year + era * 400) + (if mp < 10 then mp + 3 else mp - 9) - 3 + 1 =
        12 * (year + era * 400) + mp + 1 := by
    split_ifs <;> omega
  have days' : days + 719468 = era * 146097 + (365 * year + year / 4 - year / 100 + rest) := by
    omega
  rw [index, days']
  clear index days' same left
  by_cases last : mp = 11
  · have first : 12 * (year + era * 400) + mp + 1 = 12 * (year + 1 + era * 400) + 0 := by omega
    rw [first, daysBefore_era (by omega)]
    omega
  · have century : year / 400 = 0 := by omega
    rw [add_assoc, daysBefore_era (by omega), century]
    omega

/-- A day is in a month or after it when its date is. -/
theorem daysBefore_le_iff {days month : ℤ} : daysBefore month ≤ days + 719468 ↔
      month ≤ 12 * (civilFromDays days).1 + (civilFromDays days).2.1 - 3 := by
  constructor
  · intro after
    have next := daysBefore_strictMono.lt_iff_lt.mp (after.trans_lt (lt_daysBefore_next days))
    omega
  · intro le
    have before := daysBefore_strictMono.monotone le
    obtain ⟨inYear, inMonth, same⟩ := civilFromDays_spec days
    rw [daysFromCivil_eq inYear] at same
    omega

/-- Days are in the order of their dates. -/
theorem dateKey_lt_iff {days days' : ℤ} :
    dateKey (civilFromDays days) < dateKey (civilFromDays days') ↔ days < days' := by
  have ordered {days days' : ℤ} (less : days < days') :
      dateKey (civilFromDays days) < dateKey (civilFromDays days') := by
    obtain ⟨month, inMonth, same⟩ := civilFromDays_spec days
    obtain ⟨month', inMonth', same'⟩ := civilFromDays_spec days'
    rw [daysFromCivil_eq month] at same
    rw [daysFromCivil_eq month'] at same'
    have months := daysBefore_le_iff.mp
      (show daysBefore (12 * (civilFromDays days).1 + (civilFromDays days).2.1 - 3) ≤
        days' + 719468 by omega)
    generalize civilFromDays days = date at *
    generalize civilFromDays days' = date' at *
    unfold dateKey
    by_cases sameMonth : 12 * date.1 + date.2.1 - 3 = 12 * date'.1 + date'.2.1 - 3
    · rw [sameMonth] at same
      omega
    · omega
  refine ⟨fun less => ?_, ordered⟩
  by_contra notLess
  rcases Int.lt_or_eq_of_le (not_lt.mp notLess) with more | rfl
  · have := ordered more
    omega
  · omega

theorem ranged_civilFromDays {days : ℤ} (year : 0 ≤ (civilFromDays days).1) :
    Ranged (civilFromDays days) :=
  ⟨year, (civilFromDays_spec days).1, (civilFromDays_spec days).2.1⟩

/-- Days are in the order of the texts of their dates. -/
theorem dateText_civil_lt_iff {days days' : ℤ} (year : FourDigits (civilFromDays days).1)
    (year' : FourDigits (civilFromDays days').1) :
    dateText (civilFromDays days) < dateText (civilFromDays days') ↔ days < days' := by
  rw [dateText_lt_iff (ranged_civilFromDays (le_trans (by decide) year.1))
    (ranged_civilFromDays (le_trans (by decide) year'.1)) year year', dateKey_lt_iff]

/-! ### Plain texts -/

/-- A text of Latin digits and dashes is normalized. -/
theorem normalizePersianDigits_of_plain {s : String}
    (plain : ∀ c ∈ s.toList, c.isDigit = true ∨ c = '-') : normalizePersianDigits s = s := by
  refine normalizePersianDigits_eq_self fun c mem => ?_
  rcases plain c mem with digit | rfl
  · rw [Char.isDigit, Bool.and_eq_true, decide_eq_true_eq, decide_eq_true_eq] at digit
    have low : 48 ≤ c.toNat := digit.1
    have high : c.toNat ≤ 57 := digit.2
    refine ⟨by omega, ?_⟩
    unfold isSpace
    interval_cases c.toNat <;> decide
  · decide

theorem digitsValue_toString (n : ℕ) : digitsValue (toString n).toList = n := by
  change digitsValue (Nat.repr n).toList = n
  rw [Nat.toList_repr, digitsValue]
  exact (Nat.ofDigitChars_toDigits (by decide) (by decide))

theorem pad2_spec {n : ℕ} (inMonth : 1 ≤ n ∧ n ≤ 31) :
    shortNumber (pad2 n).toList = some n ∧ (pad2 n).toList.all Char.isDigit = true := by
  obtain ⟨low, high⟩ := inMonth
  interval_cases n <;> decide +kernel

theorem isDigit_toString (n : ℕ) : (toString n).toList.all Char.isDigit = true := by
  rw [List.all_eq_true, show toString n = Nat.repr n from rfl, Nat.toList_repr]
  exact fun c mem => Nat.isDigit_of_mem_toDigits (by decide) (by decide) mem

/-- A date that is written plainly is read as it was written. -/
theorem matchDate_dateText {jy jm jd : ℕ} (year : FourDigits jy) (month : 1 ≤ jm ∧ jm ≤ 12)
    (inMonth : 1 ≤ jd ∧ jd ≤ 31) :
    normalizePersianDigits (dateText (jy, jm, jd)) = dateText (jy, jm, jd) ∧
      matchDate (dateText (jy, jm, jd)) = some (jy, jm, jd) := by
  have dash : "-".toList = ['-'] := by decide
  have years := isDigit_toString jy
  have length : (toString jy).toList.length = 4 := year.length
  obtain ⟨readMonth, months⟩ := pad2_spec (n := jm) ⟨month.1, by omega⟩
  obtain ⟨readDay, days⟩ := pad2_spec inMonth
  have letters : (dateText (jy, jm, jd)).toList =
      (toString jy).toList ++ '-' :: ((pad2 jm).toList ++ '-' :: (pad2 jd).toList) := by
    simp only [dateText, String.toList_append, dash, List.append_assoc, List.singleton_append]
    rfl
  constructor
  · apply normalizePersianDigits_of_plain
    intro c mem
    rw [letters] at mem
    simp only [List.mem_append, List.mem_cons] at mem
    rw [List.all_eq_true] at years months days
    rcases mem with mem | rfl | mem | rfl | mem
    · exact .inl (years c mem)
    · exact .inr rfl
    · exact .inl (months c mem)
    · exact .inr rfl
    · exact .inl (days c mem)
  · have single {l : List Char} (digits : l.all Char.isDigit = true) :
        ∀ c ∈ l, (decide (c = '-') || decide (c = '/')) = false := by
      rw [List.all_eq_true] at digits
      intro c mem
      have digit := digits c mem
      rw [Bool.or_eq_false_iff, decide_eq_false_iff_not, decide_eq_false_iff_not]
      constructor
      · rintro rfl
        exact absurd digit (by decide)
      · rintro rfl
        exact absurd digit (by decide)
    unfold matchDate
    rw [letters, List.splitOnP_append_cons_of_forall_mem (single years) _ (by decide),
      List.splitOnP_append_cons_of_forall_mem (single months) _ (by decide),
      List.splitOnP_eq_singleton (single days)]
    dsimp only
    rw [readMonth, readDay]
    simp only [Option.filter_some, month, inMonth, length, years, and_self, decide_true, if_true,
      digitsValue_toString, bind, Option.bind]

/-! ### Jalali months -/

/-- The day of a Jalali date, since 1970-01-01. -/
def Jalaali.day (jalaali : Jalaali) (jy jm jd : ℕ) : ℤ :=
  let date := jalaali.toGregorian jy jm jd
  daysFromCivil date.1 date.2.1 date.2.2

/-- What the package promises of a year: its days are those of its months, which follow one
another, and it begins in March. -/
structure Jalaali.Counts (jalaali : Jalaali) (jy : ℕ) : Prop where
  monthLength : ∀ jm, 1 ≤ jm ∧ jm ≤ 12 →
    29 ≤ jalaali.jalaaliMonthLength jy jm ∧ jalaali.jalaaliMonthLength jy jm ≤ 31
  valid : ∀ jm jd, jalaali.isValidJalaaliDate jy jm jd = true ↔
    (1 ≤ jm ∧ jm ≤ 12) ∧ 1 ≤ jd ∧ jd ≤ jalaali.jalaaliMonthLength jy jm
  civil : ∀ jm jd, jalaali.isValidJalaaliDate jy jm jd = true →
    IsCivil (jalaali.toGregorian jy jm jd) ∧ jy + 621 ≤ (jalaali.toGregorian jy jm jd).1 ∧
      (jalaali.toGregorian jy jm jd).1 ≤ jy + 622
  nextDay : ∀ jm jd, 1 ≤ jd → jalaali.isValidJalaaliDate jy jm (jd + 1) = true →
    jalaali.day jy jm (jd + 1) = jalaali.day jy jm jd + 1
  nextMonth : ∀ jm, 1 ≤ jm ∧ jm < 12 → jalaali.day jy (jm + 1) 1 =
    jalaali.day jy jm (jalaali.jalaaliMonthLength jy jm) + 1
  nextYear : jalaali.day (jy + 1) 1 1 = jalaali.day jy 12 (jalaali.jalaaliMonthLength jy 12) + 1

section

variable {jalaali : Jalaali} {jy jm jd : ℕ} (counts : jalaali.Counts jy)
include counts

theorem Jalaali.Counts.day_eq (valid : jalaali.isValidJalaaliDate jy jm jd = true) :
    jalaali.day jy jm jd = jalaali.day jy jm 1 + (jd - 1) := by
  obtain ⟨month, first, last⟩ := (counts.valid jm jd).mp valid
  induction jd, first using Nat.le_induction with
  | base => simp
  | succ jd first ih =>
    have before := (counts.valid jm jd).mpr ⟨month, first, by omega⟩
    rw [counts.nextDay jm jd first valid, ih before (by omega)]
    push_cast
    ring

theorem Jalaali.Counts.first
    (month : 1 ≤ jm ∧ jm ≤ 12) : jalaali.isValidJalaaliDate jy jm 1 = true :=
  (counts.valid jm 1).mpr ⟨month, le_rfl, le_trans (by decide) (counts.monthLength jm month).1⟩

theorem Jalaali.Counts.last (month : 1 ≤ jm ∧ jm ≤ 12) :
    jalaali.isValidJalaaliDate jy jm (jalaali.jalaaliMonthLength jy jm) = true :=
  (counts.valid jm _).mpr ⟨month, le_trans (by decide) (counts.monthLength jm month).1, le_rfl⟩

/-- The date of a Jalali day is the one it is converted to. -/
theorem Jalaali.Counts.civilFromDays_day (valid : jalaali.isValidJalaaliDate jy jm jd = true) :
    civilFromDays (jalaali.day jy jm jd) = jalaali.toGregorian jy jm jd :=
  (counts.civil jm jd valid).1

end

end Rokad.Common
