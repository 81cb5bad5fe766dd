import Rokad.Base.Text

/-!
# Jalali dates

`jalali.util`: digits of any script, and the instant a Jalali date stands for. The
calendar itself is the package `jalaali-js`, a parameter here. The host's `Date` counts
milliseconds from 1970 in the Gregorian calendar: `daysFromCivil` and `civilFromDays`.
-/

namespace Rokad.Common

open Rokad.Base

/-- Milliseconds since the epoch. -/
abbrev Instant := ℤ

/-! ### Gregorian days -/

/-- Days since 1970-01-01; years are counted from March, in eras of 400. -/
def daysFromCivil (y m d : ℤ) : ℤ :=
  let y := if m ≤ 2 then y - 1 else y
  let yearOfEra := y % 400
  let dayOfYear := (153 * (if 2 < m then m - 3 else m + 9) + 2) / 5 + d - 1
  let dayOfEra := yearOfEra * 365 + yearOfEra / 4 - yearOfEra / 100 + dayOfYear
  y / 400 * 146097 + dayOfEra - 719468

/-- The year, month and day of a day since 1970-01-01. -/
def civilFromDays (days : ℤ) : ℤ × ℤ × ℤ :=
  let z := days + 719468
  let dayOfEra := z % 146097
  let yearOfEra := (dayOfEra - dayOfEra / 1460 + dayOfEra / 36524 - dayOfEra / 146096) / 365
  let dayOfYear := dayOfEra - (365 * yearOfEra + yearOfEra / 4 - yearOfEra / 100)
  let mp := (5 * dayOfYear + 2) / 153
  let d := dayOfYear - (153 * mp + 2) / 5 + 1
  let m := if mp < 10 then mp + 3 else mp - 9
  let y := yearOfEra + z / 146097 * 400
  (if m ≤ 2 then y + 1 else y, m, d)

/-- A day of an era is one of a century of it, of four years of that, and of a year of those. -/
theorem exists_dayOfEra {day : ℤ} (first : 0 ≤ day) (last : day < 146097) :
    ∃ k q p r : ℤ, (0 ≤ k ∧ k ≤ 3) ∧ (0 ≤ q ∧ q ≤ 24) ∧ (0 ≤ p ∧ p ≤ 3) ∧ (0 ≤ r ∧ r ≤ 365) ∧
      (r = 365 → p = 3) ∧ (k < 3 → q = 24 → p = 3 → r < 365) ∧
      day = 36524 * k + 1461 * q + 365 * p + r := by
  obtain ⟨k, s, century, inCentury, here⟩ : ∃ k s : ℤ, (0 ≤ k ∧ k ≤ 3) ∧
      (0 ≤ s ∧ s ≤ 36524 ∧ (k < 3 → s < 36524)) ∧ day = 36524 * k + s := by
    by_cases early : day < 109572
    · exact ⟨day / 36524, day % 36524, by omega, by omega, by omega⟩
    · exact ⟨3, day - 109572, by omega, by omega, by omega⟩
  obtain ⟨q, t, quad, inQuad, there⟩ : ∃ q t : ℤ, (0 ≤ q ∧ q ≤ 24) ∧ (0 ≤ t ∧ t ≤ 1460) ∧
      s = 1461 * q + t :=
    ⟨s / 1461, s % 1461, by omega, by omega, by omega⟩
  by_cases early : t < 1095
  · exact ⟨k, q, t / 365, t % 365, century, quad, by omega, by omega, by omega, by omega, by omega⟩
  · exact ⟨k, q, 3, t - 1095, century, quad, by omega, by omega, by omega, by omega, by omega⟩

/-- The year of a day of an era, the day of that year, and the end of it. -/
theorem yearOfEra_spec {day : ℤ} (first : 0 ≤ day) (last : day < 146097) :
    ∃ year rest : ℤ, (day - day / 1460 + day / 36524 - day / 146096) / 365 = year ∧
      (0 ≤ year ∧ year < 400) ∧ (0 ≤ rest ∧ rest ≤ 365) ∧
      day = 365 * year + year / 4 - year / 100 + rest ∧
      day < 365 * (year + 1) + (year + 1) / 4 - (year + 1) / 100 + (year + 1) / 400 := by
  obtain ⟨k, q, p, r, century, quad, inQuad, inYear, leap, common, here⟩ :=
    exists_dayOfEra first last
  have centuries : day / 36524 - day / 146096 = k := by
    by_cases end' : k = 3 ∧ q = 24 ∧ p = 3 ∧ r = 365
    · omega
    · have before : day / 146096 = 0 := by omega
      have within : day / 36524 = k := by omega
      omega
  obtain ⟨x, quads, early, late⟩ : ∃ x, day / 1460 = 25 * k + q + x ∧ (r = 0 → x = 0) ∧
      (0 ≤ x ∧ x ≤ 1 ∧ (r = 365 → x = 1)) :=
    ⟨day / 1460 - (25 * k + q), by omega, by omega, by omega⟩
  have sum : day - day / 1460 + day / 36524 - day / 146096 =
      365 * (100 * k + 4 * q + p) + (r - x) := by omega
  have fourths : (100 * k + 4 * q + p) / 4 = 25 * k + q := by clear centuries quads sum; omega
  have hundredths : (100 * k + 4 * q + p) / 100 = k := by clear centuries quads sum; omega
  refine ⟨100 * k + 4 * q + p, r, ?_, ?_, inYear, ?_, ?_⟩
  · rw [sum]
    clear centuries quads sum fourths hundredths
    omega
  · clear centuries quads sum fourths hundredths
    omega
  · rw [fourths, hundredths]
    clear centuries quads sum fourths hundredths
    omega
  · clear centuries quads sum fourths hundredths early late
    by_cases lastYear : p = 3
    · by_cases lastQuad : q = 24
      · by_cases lastCentury : k = 3
        · subst lastYear lastQuad lastCentury
          omega
        · have next : (100 * k + 4 * q + p + 1) = 100 * (k + 1) := by omega
          rw [next]
          omega
      · have next : (100 * k + 4 * q + p + 1) = 100 * k + 4 * (q + 1) := by omega
        have fourth : (100 * k + 4 * (q + 1)) / 4 = 25 * k + q + 1 := by omega
        have hundredth : (100 * k + 4 * (q + 1)) / 100 = k := by omega
        rw [next, fourth, hundredth]
        omega
    · have fourth : (100 * k + 4 * q + p + 1) / 4 = 25 * k + q := by omega
      have hundredth : (100 * k + 4 * q + p + 1) / 100 = k := by omega
      rw [fourth, hundredth]
      omega

/-- The date of a day is one of a calendar, and counts that day. -/
theorem civilFromDays_spec (days : ℤ) :
    (1 ≤ (civilFromDays days).2.1 ∧ (civilFromDays days).2.1 ≤ 12) ∧
      (1 ≤ (civilFromDays days).2.2 ∧ (civilFromDays days).2.2 ≤ 31) ∧
      daysFromCivil (civilFromDays days).1 (civilFromDays days).2.1 (civilFromDays days).2.2 =
        days := by
  obtain ⟨year, rest, same, inEra, inYear, here, -⟩ :=
    yearOfEra_spec (show 0 ≤ (days + 719468) % 146097 by omega) (by omega)
  unfold civilFromDays daysFromCivil
  simp only [same]
  have left : (days + 719468) % 146097 - (365 * year + year / 4 - year / 100) = rest := by omega
  rw [left]
  obtain ⟨mp, month, low, high⟩ : ∃ mp, (5 * rest + 2) / 153 = mp ∧ 0 ≤ mp ∧ mp ≤ 11 :=
    ⟨_, rfl, by omega, by omega⟩
  rw [month]
  have back : (if 2 < (if mp < 10 then mp + 3 else mp - 9) then
      (if mp < 10 then mp + 3 else mp - 9) - 3 else (if mp < 10 then mp + 3 else mp - 9) + 9) =
        mp := by
    split_ifs <;> omega
  have years (y : ℤ) : (if (if mp < 10 then mp + 3 else mp - 9) ≤ 2 then
      (if (if mp < 10 then mp + 3 else mp - 9) ≤ 2 then y + 1 else y) - 1 else
      (if (if mp < 10 then mp + 3 else mp - 9) ≤ 2 then y + 1 else y)) = y := by
    split_ifs <;> omega
  rw [back, years]
  refine ⟨?_, ?_, ?_⟩
  · split_ifs <;> omega
  · omega
  · have yearMod : (year + (days + 719468) / 146097 * 400) % 400 = year := by omega
    have yearDiv : (year + (days + 719468) / 146097 * 400) / 400 = (days + 719468) / 146097 := by
      omega
    rw [yearMod, yearDiv]
    omega

example : civilFromDays (daysFromCivil 2024 2 29) = (2024, 2, 29) := by decide

/-- `Date.UTC(y, m - 1, d, …)` with the time of day in milliseconds; days out of their
month count on. -/
def dateUTC (y m d millis : ℤ) : Instant := (daysFromCivil y m 1 + (d - 1)) * 86400000 + millis

theorem daysFromCivil_first (y m d : ℤ) : daysFromCivil y m 1 + (d - 1) = daysFromCivil y m d := by
  unfold daysFromCivil
  ring

theorem dateUTC_eq (y m d millis : ℤ) :
    dateUTC y m d millis = daysFromCivil y m d * 86400000 + millis := by
  rw [dateUTC, daysFromCivil_first]

/-- `date.setMonth(date.getMonth() + n)`, on a host whose clock is UTC. -/
def addMonths (t : Instant) (n : ℤ) : Instant :=
  let (y, m, d) := civilFromDays (t / 86400000)
  dateUTC (y + (m - 1 + n) / 12) ((m - 1 + n) % 12 + 1) d (t % 86400000)

/-- `String(n).padStart(2, '0')` -/
def pad2 (n : ℤ) : String := let s := toString n; zeros (2 - s.length) ++ s

theorem length_pad2 {n : ℤ} (inMonth : 1 ≤ n ∧ n ≤ 31) : (pad2 n).toList.length = 2 := by
  obtain ⟨low, high⟩ := inMonth
  interval_cases n <;> decide

theorem pad2_inj {m n : ℤ} (left : 1 ≤ m ∧ m ≤ 31) (right : 1 ≤ n ∧ n ≤ 31)
    (same : pad2 m = pad2 n) : m = n := by
  have all : ∀ a < 32, ∀ b < 32, pad2 (a : ℕ) = pad2 (b : ℕ) → a = b := by decide +kernel
  have naturals := all m.toNat (by omega) n.toNat (by omega)
    (by rwa [Int.toNat_of_nonneg (by omega), Int.toNat_of_nonneg (by omega)])
  omega

/-- `YYYY-MM-DD` -/
def dateText (date : ℤ × ℤ × ℤ) : String :=
  toString date.1 ++ "-" ++ pad2 date.2.1 ++ "-" ++ pad2 date.2.2

/-- The year, the month and the day are in their ranges. -/
def Ranged (date : ℤ × ℤ × ℤ) : Prop :=
  0 ≤ date.1 ∧ (1 ≤ date.2.1 ∧ date.2.1 ≤ 12) ∧ (1 ≤ date.2.2 ∧ date.2.2 ≤ 31)

/-- The text of a date tells it. -/
theorem dateText_inj {date date' : ℤ × ℤ × ℤ} (ranged : Ranged date) (ranged' : Ranged date')
    (same : dateText date = dateText date') : date = date' := by
  obtain ⟨positive, month, inMonth⟩ := ranged
  obtain ⟨positive', month', inMonth'⟩ := ranged'
  have letters := congrArg String.toList same
  simp only [dateText, String.toList_append] at letters
  obtain ⟨rest, days⟩ := List.append_inj' letters
    ((length_pad2 inMonth).trans (length_pad2 inMonth').symm)
  obtain ⟨rest, -⟩ := List.append_inj' rest rfl
  obtain ⟨rest, months⟩ := List.append_inj' rest
    ((length_pad2 ⟨month.1, by omega⟩).trans (length_pad2 ⟨month'.1, by omega⟩).symm)
  obtain ⟨years, -⟩ := List.append_inj' rest rfl
  have sameDay := pad2_inj inMonth inMonth' (String.ext days)
  have sameMonth := pad2_inj ⟨month.1, by omega⟩ ⟨month'.1, by omega⟩ (String.ext months)
  have sameYear : date.1 = date'.1 := by
    obtain ⟨y, year⟩ := Int.eq_ofNat_of_zero_le positive
    obtain ⟨y', year'⟩ := Int.eq_ofNat_of_zero_le positive'
    rw [year, year'] at years ⊢
    exact congrArg _ (eq_of_toString_eq (String.ext years))
  exact Prod.ext sameYear (Prod.ext sameMonth sameDay)

/-- `date.toISOString().slice(0, 10)`, for the years of four digits. -/
def isoDate (t : Instant) : String :=
  let (y, m, d) := civilFromDays (t / 86400000)
  toString y ++ "-" ++ pad2 m ++ "-" ++ pad2 d

/-- `date.toISOString()`, for the years of four digits. -/
def toISOString (t : Instant) : String :=
  let millis := t % 86400000
  isoDate t ++ "T" ++ pad2 (millis / 3600000) ++ ":" ++ pad2 (millis / 60000 % 60) ++ ":" ++
    pad2 (millis / 1000 % 60) ++ "." ++ padZeros 3 (toString (millis % 1000)) ++ "Z"

/-- The year as the English calendar prints it, without its era. -/
def eraYear (y : ℤ) : ℤ := if y ≤ 0 then 1 - y else y

/-! ### Jalali dates -/

/-- What the calendar package offers. -/
structure Jalaali where
  jalaaliMonthLength : ℕ → ℕ → ℕ
  isValidJalaaliDate : ℕ → ℕ → ℕ → Bool
  toGregorian : ℕ → ℕ → ℕ → ℤ × ℤ × ℤ

/-! A year of 365 days. -/

def CommonYear.monthLength (jm : ℕ) : ℕ := if jm ≤ 6 then 31 else if jm ≤ 11 then 30 else 29

def CommonYear.dayOfYear (jm jd : ℕ) : ℕ :=
  if jm ≤ 6 then 31 * (jm - 1) + jd else 186 + 30 * (jm - 7) + jd

/-- A Persian or Arabic digit as a Latin one. -/
def latin (c : Char) : Char :=
  if 0x06F0 ≤ c.toNat ∧ c.toNat ≤ 0x06F9 then Char.ofNat ('0'.toNat + (c.toNat - 0x06F0))
  else if 0x0660 ≤ c.toNat ∧ c.toNat ≤ 0x0669 then Char.ofNat ('0'.toNat + (c.toNat - 0x0660))
  else c

/-- Persian and Arabic digits become Latin ones. -/
def normalizePersianDigits (s : String) : String := trim (s.map latin)

theorem latin_latin (c : Char) : latin (latin c) = latin c := by
  unfold latin
  split
  · rename_i persian
    obtain ⟨low, high⟩ := persian
    interval_cases c.toNat <;> decide
  · split
    · rename_i arabic
      obtain ⟨low, high⟩ := arabic
      interval_cases c.toNat <;> decide
    · rfl

/-- Characters before the digits of either script stay. -/
theorem normalizePersianDigits_eq_self {s : String}
    (low : ∀ c ∈ s.toList, c.toNat < 0x0660 ∧ isSpace c = false) : normalizePersianDigits s = s := by
  have map : s.map latin = s := by
    apply String.ext
    rw [String.toList_map]
    refine (List.map_congr_left fun c mem => ?_).trans (List.map_id _)
    have below := (low c mem).1
    unfold latin
    rw [if_neg (by omega), if_neg (by omega)]
    rfl
  have noSpace {l : List Char} (sub : ∀ c ∈ l, c ∈ s.toList) : ∀ a ∈ l.head?, isSpace a = false :=
    fun a first => (low a (sub a (List.mem_of_mem_head? first))).2
  unfold normalizePersianDigits
  rw [map, trim, dropWhile_eq_self (noSpace fun _ => id),
    dropWhile_eq_self (noSpace fun _ => List.mem_reverse.mp), List.reverse_reverse,
    String.ofList_toList]

/-- Normalized, a text stays as it is. -/
theorem normalizePersianDigits_idem (s : String) :
    normalizePersianDigits (normalizePersianDigits s) = normalizePersianDigits s := by
  unfold normalizePersianDigits
  have image : ∀ c ∈ (trim (s.map latin)).toList, latin c = c := by
    intro c mem
    have inMap : c ∈ s.toList.map latin := by
      rw [trim, String.toList_ofList, List.mem_reverse] at mem
      have mem' := (List.dropWhile_suffix _).subset mem
      rw [List.mem_reverse, String.toList_map] at mem'
      exact (List.dropWhile_suffix _).subset mem'
    obtain ⟨c', -, rfl⟩ := List.mem_map.mp inMap
    exact latin_latin c'
  have same : (trim (s.map latin)).map latin = trim (s.map latin) := by
    apply String.ext
    rw [String.toList_map, List.map_congr_left image, List.map_id']
  rw [same, trim_trim]

/-- One or two digits. -/
def shortNumber (cs : List Char) : Option ℕ :=
  if (cs.length = 1 ∨ cs.length = 2) ∧ cs.all Char.isDigit then some (digitsValue cs) else none

/-- The year, month and day of a date: four digits, a month and a day of one digit or two, with
dashes or slashes between them. -/
def matchDate (s : String) : Option (ℕ × ℕ × ℕ) :=
  match s.toList.splitOnP fun c => c = '-' || c = '/' with
  | [y, m, d] => do
      let jm ← (shortNumber m).filter fun jm => 1 ≤ jm ∧ jm ≤ 12
      let jd ← (shortNumber d).filter fun jd => 1 ≤ jd ∧ jd ≤ 31
      if y.length = 4 ∧ y.all Char.isDigit then some (digitsValue y, jm, jd) else none
  | _ => none

def isValidJalaliDate (jalaali : Jalaali) (dateStr : String) : Bool :=
  match matchDate (normalizePersianDigits dateStr) with
  | none => false
  | some (jy, jm, jd) =>
    !(jy < 1200 || 1700 < jy) && !(jalaali.jalaaliMonthLength jy jm < jd) &&
      jalaali.isValidJalaaliDate jy jm jd

inductive TimeOfDay where
  | start | noon | «end»

/-! ### Conversions -/

/-- The calendar package with its way back, which throws outside the years that it knows. -/
structure JalaaliDates extends package : Jalaali where
  toJalaali : ℤ → ℤ → ℤ → Except String (ℕ × ℕ × ℕ)

/-- A date of the Gregorian calendar. -/
def IsCivil (date : ℤ × ℤ × ℤ) : Prop :=
  civilFromDays (daysFromCivil date.1 date.2.1 date.2.2) = date
deriving Decidable

theorem IsCivil.ranged {date : ℤ × ℤ × ℤ} (civil : IsCivil date) (positive : 0 ≤ date.1) :
    Ranged date := by
  have spec := civilFromDays_spec (daysFromCivil date.1 date.2.1 date.2.2)
  rw [civil] at spec
  exact ⟨positive, spec.1, spec.2.1⟩

/-- What the package promises, of the years that it is asked for. -/
structure JalaaliDates.Correct (jalaali : JalaaliDates) : Prop where
  ranged : ∀ jy jm jd, jalaali.isValidJalaaliDate jy jm jd = true →
    (1 ≤ jm ∧ jm ≤ 12) ∧ (1 ≤ jd ∧ jd ≤ 31)
  civil : ∀ jy jm jd, jalaali.isValidJalaaliDate jy jm jd = true → jy ≤ 3000 →
    jy + 621 ≤ (jalaali.toGregorian jy jm jd).1 ∧ IsCivil (jalaali.toGregorian jy jm jd)
  toJalaali_toGregorian : ∀ jy jm jd y m d, jalaali.isValidJalaaliDate jy jm jd = true →
    jy ≤ 3000 → jalaali.toGregorian jy jm jd = (y, m, d) →
      jalaali.toJalaali y m d = .ok (jy, jm, jd)
  toGregorian_toJalaali : ∀ jy jm jd y m d, IsCivil (y, m, d) → 1800 < y →
    jalaali.toJalaali y m d = .ok (jy, jm, jd) →
      jalaali.isValidJalaaliDate jy jm jd = true ∧ jalaali.toGregorian jy jm jd = (y, m, d)

theorem JalaaliDates.Correct.ranged_cast {jalaali : JalaaliDates} (correct : jalaali.Correct)
    {jy jm jd : ℕ} (valid : jalaali.isValidJalaaliDate jy jm jd = true) : Ranged (jy, jm, jd) := by
  obtain ⟨month, inMonth⟩ := correct.ranged _ _ _ valid
  unfold Ranged
  dsimp only
  omega

/-- The instant of a Jalali date in Tehran, or the message of the error thrown. -/
def jalaliToGregorianDate (jalaali : Jalaali) (jalaliStr : String) (timeOfDay : TimeOfDay) :
    Except String Instant :=
  let normalized := normalizePersianDigits jalaliStr
  match matchDate normalized with
  | none => .error ("تاریخ شمسی وارد شده معتبر نمی‌باشد: " ++ jalaliStr)
  | some (jy, jm, jd) =>
    if isValidJalaliDate jalaali normalized then
      let (gy, gm, gd) := jalaali.toGregorian jy jm jd
      match timeOfDay with
      | .start => .ok (dateUTC gy gm (gd - 1) (((20 * 60 + 30) * 60) * 1000))
      | .end => .ok (dateUTC gy gm gd (((20 * 60 + 29) * 60 + 59) * 1000 + 999))
      | .noon => .ok (dateUTC gy gm gd (((8 * 60 + 30) * 60) * 1000))
    else .error ("روز یا ماه در تاریخ شمسی معتبر نیست: " ++ jalaliStr)

def PERSIAN_MONTH_NAMES : List String :=
  ["فروردین", "اردیبهشت", "خرداد", "تیر", "مرداد", "شهریور", "مهر", "آبان", "آذر", "دی", "بهمن",
    "اسفند"]

end Rokad.Common
