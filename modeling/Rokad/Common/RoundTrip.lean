import Rokad.Base.Fallible
import Rokad.Common.DayOrder

/-!
# Jalali dates that are stored

A Jalali date is stored as an instant, which is taken by a clock that is three and a half hours
ahead of UTC all the time, and read back by the clock of Tehran. The two differ before 1935 and in
the summers when the clocks were put forward, so that the beginning or the end of a day is read as
one of the day before or after (`not_round_trip`). `round_trip_iff` says when a date is read back as
it was written.
-/

namespace Rokad.Common

open Rokad.Base

/-! ### The clock -/

/-- The standard time of Iran, in milliseconds. -/
def standardOffset : ℤ := ((3 * 60 + 30) * 60) * 1000

/-- What the host knows of the clock in Tehran: how far it is ahead of UTC, which is never half a
day from the standard time. -/
structure Zone where
  offset : Instant → ℤ
  near : ∀ t, |offset t - standardOffset| < 43200000

/-- Year, month and day, as `Intl.DateTimeFormat` prints them. -/
def Zone.date (zone : Zone) (t : Instant) : ℤ × ℤ × ℤ :=
  let (y, m, d) := civilFromDays ((t + zone.offset t) / 86400000)
  (eraYear y, m, d)

/-! ### Conversions -/

structure StandardJalaliDateResponse where
  (gregorian jalali jalaliDisplay : String)

/-- Latin digits become Persian ones. -/
def toPersianDigits (s : String) : String := persianDigits s

/-- `s.replace(new RegExp(a, 'g'), b)` for two characters. -/
def replaceAll (a b : Char) (s : String) : String := s.map fun c => if c = a then b else c

/-- Replacements one after the other act on each character by itself. -/
theorem foldl_map_chars {ι : Type} (f : ι → Char → Char) (is : List ι) (s : String) :
    is.foldl (fun s i => s.map (f i)) s = s.map fun c => is.foldl (fun c i => f i c) c := by
  induction is generalizing s with
  | nil => exact String.ext (by simp)
  | cons i is ih =>
    rw [List.foldl_cons, ih]
    exact String.ext (by simp [String.toList_map])

theorem ne_ofNat {c : Char} {n : ℕ} (valid : n < 0xD800) (differ : c.toNat ≠ n) :
    c ≠ Char.ofNat n := by
  rintro rfl
  refine differ ?_
  rw [Char.ofNat, dif_pos (Or.inl valid)]
  rfl

/-- The source replaces digit after digit, the Persian one and then the Arabic one. -/
theorem normalizePersianDigits_loop (s : String) : normalizePersianDigits s =
    trim ((List.range 10).foldl (fun result i =>
      replaceAll (Char.ofNat (0x0660 + i)) (Char.ofNat (0x30 + i))
        (replaceAll (Char.ofNat (0x06F0 + i)) (Char.ofNat (0x30 + i)) result)) s) := by
  let f (i : ℕ) (c : Char) : Char :=
    let c := if c = Char.ofNat (0x06F0 + i) then Char.ofNat (0x30 + i) else c
    if c = Char.ofNat (0x0660 + i) then Char.ofNat (0x30 + i) else c
  have each (c : Char) : (List.range 10).foldl (fun c i => f i c) c = latin c := by
    unfold latin
    split_ifs with persian arabic
    · obtain ⟨low, high⟩ := persian
      rw [← Char.ofNat_toNat c]
      interval_cases c.toNat <;> decide
    · obtain ⟨low, high⟩ := arabic
      rw [← Char.ofNat_toNat c]
      interval_cases c.toNat <;> decide
    · have same (i : ℕ) (few : i < 10) : f i c = c := by
        simp only [f, if_neg (ne_ofNat (c := c) (n := 0x06F0 + i) (by omega) (by omega)),
          if_neg (ne_ofNat (c := c) (n := 0x0660 + i) (by omega) (by omega))]
      simp [List.range, List.range.loop, same]
  have loop := foldl_map_chars f (List.range 10) s
  simp only [each] at loop
  rw [normalizePersianDigits, ← loop]
  congr 2
  funext result i
  exact String.ext (by simp [f, replaceAll, String.toList_map])

theorem toPersianDigits_loop (s : String) : toPersianDigits s =
    (List.range 10).foldl (fun result i =>
      replaceAll (Char.ofNat (0x30 + i)) (Char.ofNat (0x06F0 + i)) result) s := by
  let f (i : ℕ) (c : Char) : Char :=
    if c = Char.ofNat (0x30 + i) then Char.ofNat (0x06F0 + i) else c
  have each (c : Char) : (List.range 10).foldl (fun c i => f i c) c =
      if c.isDigit then Char.ofNat (0x06F0 + (c.toNat - '0'.toNat)) else c := by
    by_cases digit : 0x30 ≤ c.toNat ∧ c.toNat ≤ 0x39
    · obtain ⟨low, high⟩ := digit
      rw [← Char.ofNat_toNat c]
      interval_cases c.toNat <;> decide
    · have none : ¬c.isDigit = true := by
        simpa [Char.isDigit, Char.le_def, UInt32.le_iff_toNat_le] using digit
      have same (i : ℕ) (few : i < 10) : f i c = c :=
        if_neg (ne_ofNat (c := c) (by omega) (by omega))
      simp [none, List.range, List.range.loop, same]
  have loop := foldl_map_chars f (List.range 10) s
  simp only [each] at loop
  exact loop.symm
/-- The date of an instant, if it is one; the package may throw. -/
def gregorianToJalali (jalaali : JalaaliDates) (zone : Zone) (date : Option Instant) :
    Except String (Option StandardJalaliDateResponse) :=
  match date with
  | none => .ok none
  | some t => do
      let (gy, gm, gd) := zone.date t
      let (jy, jm, jd) ← jalaali.toJalaali gy gm gd
      return some
        { gregorian := toISOString t
          jalali := dateText (jy, jm, jd)
          jalaliDisplay := toPersianDigits (toString jd) ++ " " ++
            PERSIAN_MONTH_NAMES.getD (jm - 1) "undefined" ++ " " ++ toPersianDigits (toString jy) }

structure AcademicYearBoundaries where
  (startDate endDate : Instant)
  titleFa : String

/-- From the first of Mehr to the last of Khordad of the next year. -/
def getDefaultAcademicYearBoundaries (jalaali : Jalaali) (jalaliYear : ℕ) :
    Except String AcademicYearBoundaries := do
  let startDate ← jalaliToGregorianDate jalaali (toString jalaliYear ++ "-07-01") .start
  let endDate ← jalaliToGregorianDate jalaali (toString (jalaliYear + 1) ++ "-03-31") .end
  return { startDate, endDate, titleFa := toPersianDigits (toString jalaliYear) ++ "-" ++
    toPersianDigits (toString (jalaliYear + 1)) }

/-! ### What is to be read back -/

/-- The date that a text gives, with Latin digits, zeros and dashes. -/
def plainText (s : String) : Option String :=
  (matchDate (normalizePersianDigits s)).map fun (jy, jm, jd) => dateText (jy, jm, jd)

/-- The date is stored, and read back as it was written. -/
def RoundTrips (jalaali : JalaaliDates) (zone : Zone) (s : String) (timeOfDay : TimeOfDay) : Prop :=
  ∃ t r, jalaliToGregorianDate jalaali.package s timeOfDay = .ok t ∧
    gregorianToJalali jalaali zone (some t) = .ok (some r) ∧ some r.jalali = plainText s

/-- The boundaries of the school year that begins in a year are read back as they are meant. -/
def BoundariesReadBack (jalaali : JalaaliDates) (zone : Zone) (y : ℕ) : Prop :=
  ∃ b first last, getDefaultAcademicYearBoundaries jalaali.package y = .ok b ∧
    gregorianToJalali jalaali zone (some b.startDate) = .ok (some first) ∧
    gregorianToJalali jalaali zone (some b.endDate) = .ok (some last) ∧
    first.jalali = dateText (y, 7, 1) ∧ last.jalali = dateText ((y + 1 : ℕ), 3, 31)

/-- The milliseconds since midnight. -/
def TimeOfDay.millis : TimeOfDay → ℤ
  | .start => 0
  | .noon => 43200000
  | .end => 86399999

/-- A time of a day by the standard time. -/
def standardInstant (day : ℤ) (timeOfDay : TimeOfDay) : Instant :=
  day * 86400000 + (timeOfDay.millis - standardOffset)

/-- The clock is not behind the standard time when the day begins, nor ahead of it when it ends. -/
def Zone.Keeps (zone : Zone) (day : ℤ) (timeOfDay : TimeOfDay) : Prop :=
  match timeOfDay with
  | .start => standardOffset ≤ zone.offset (standardInstant day .start)
  | .noon => True
  | .end => zone.offset (standardInstant day .end) ≤ standardOffset

instance (zone : Zone) (day : ℤ) (timeOfDay : TimeOfDay) :
    Decidable (zone.Keeps day timeOfDay) := by
  unfold Zone.Keeps
  split <;> infer_instance

/-- The day of the date that a text gives. -/
def Jalaali.dayOfText (jalaali : Jalaali) (s : String) : Option ℤ :=
  (matchDate (normalizePersianDigits s)).map fun (jy, jm, jd) => jalaali.day jy jm jd

/-- What the package promises of the lengths of the months of a year. -/
structure Jalaali.Months (jalaali : Jalaali) (jy : ℕ) : Prop where
  early : ∀ jm, 1 ≤ jm ∧ jm ≤ 6 → jalaali.jalaaliMonthLength jy jm = 31
  late : ∀ jm, 7 ≤ jm ∧ jm ≤ 11 → jalaali.jalaaliMonthLength jy jm = 30
  valid : ∀ jm jd, jalaali.isValidJalaaliDate jy jm jd = true ↔
    (1 ≤ jm ∧ jm ≤ 12) ∧ 1 ≤ jd ∧ jd ≤ jalaali.jalaaliMonthLength jy jm

/-! ### Days -/

section

variable {zone : Zone} {day : ℤ} {timeOfDay : TimeOfDay}

/-- The day that the clock shows is the one meant, or beside it. -/
theorem day_eq_iff : ((standardInstant day timeOfDay +
    zone.offset (standardInstant day timeOfDay)) / 86400000 = day ↔ zone.Keeps day timeOfDay) ∧
      day - 1 ≤ (standardInstant day timeOfDay +
        zone.offset (standardInstant day timeOfDay)) / 86400000 := by
  have near := abs_lt.mp (zone.near (standardInstant day timeOfDay))
  have count (rest : ℤ) (within : -86400000 ≤ rest) :
      ((day * 86400000 + rest) / 86400000 = day ↔ 0 ≤ rest ∧ rest < 86400000) ∧
        day - 1 ≤ (day * 86400000 + rest) / 86400000 := by
    omega
  have sum (offset : ℤ) : standardInstant day timeOfDay + offset =
      day * 86400000 + (timeOfDay.millis - standardOffset + offset) := by
    unfold standardInstant
    ring
  rw [sum]
  unfold Zone.Keeps
  cases timeOfDay <;> simp only [TimeOfDay.millis] at near ⊢ <;>
    generalize zone.offset _ = offset at near ⊢
  · obtain ⟨same, after⟩ := count (0 - standardOffset + offset) (by omega)
    exact ⟨same.trans (by omega), after⟩
  · obtain ⟨same, after⟩ := count (43200000 - standardOffset + offset) (by omega)
    exact ⟨same.trans (iff_of_true (by omega) trivial), after⟩
  · obtain ⟨same, after⟩ := count (86399999 - standardOffset + offset) (by omega)
    exact ⟨same.trans (by omega), after⟩

/-- A day is in a year or after it once the year has begun. -/
theorem le_year_iff {y : ℤ} : y ≤ (civilFromDays day).1 ↔ daysFromCivil y 1 1 ≤ day := by
  have after := @daysBefore_le_iff day (12 * y + 1 - 3)
  obtain ⟨month, -, -⟩ := civilFromDays_spec day
  rw [daysFromCivil_eq (by decide)]
  omega

theorem isCivil_civilFromDays (day : ℤ) : IsCivil (civilFromDays day) :=
  congrArg civilFromDays (civilFromDays_spec day).2.2

end

/-! ### Reading back -/

section

variable {jalaali : JalaaliDates} {zone : Zone} {s : String} {timeOfDay : TimeOfDay}
  {jy jm jd : ℕ}

theorem isValidJalaliDate_spec (valid : isValidJalaliDate jalaali.package s = true) :
    ∃ jy jm jd, matchDate (normalizePersianDigits s) = some (jy, jm, jd) ∧
      (1200 ≤ jy ∧ jy ≤ 1700) ∧ jalaali.isValidJalaaliDate jy jm jd = true := by
  unfold isValidJalaliDate at valid
  split at valid
  · cases valid
  · rename_i jy jm jd parts
    simp only [Bool.and_eq_true, Bool.not_eq_true', Bool.or_eq_false_iff,
      decide_eq_false_iff_not, not_lt] at valid
    exact ⟨jy, jm, jd, parts, valid.1.1, valid.2⟩

/-- A date that is accepted is stored at its time by the standard time. -/
theorem jalaliToGregorianDate_of_valid (valid : isValidJalaliDate jalaali.package s = true)
    (parts : matchDate (normalizePersianDigits s) = some (jy, jm, jd)) (timeOfDay : TimeOfDay) :
    jalaliToGregorianDate jalaali.package s timeOfDay =
      .ok (standardInstant (jalaali.day jy jm jd) timeOfDay) := by
  have again : isValidJalaliDate jalaali.package (normalizePersianDigits s) = true := by
    rw [← valid]
    simp only [isValidJalaliDate, normalizePersianDigits_idem]
  unfold jalaliToGregorianDate
  simp only [parts, again, if_true]
  rcases date : jalaali.toGregorian jy jm jd with ⟨gy, gm, gd⟩
  unfold Jalaali.day standardInstant standardOffset
  simp only [date]
  have before : daysFromCivil gy gm (gd - 1) = daysFromCivil gy gm gd - 1 := by
    rw [← daysFromCivil_first, ← daysFromCivil_first gy gm gd]
    ring
  cases timeOfDay <;> simp only [dateUTC_eq, TimeOfDay.millis, before] <;>
    refine congrArg Except.ok ?_ <;> ring

/-- A day in the years of the package is read as the date that it is converted from. -/
theorem gregorianToJalali_eq_iff (correct : jalaali.Correct)
    (valid : jalaali.isValidJalaaliDate jy jm jd = true) (years : jy ≤ 1700)
    {t : Instant} (year : 1801 ≤ (civilFromDays ((t + zone.offset t) / 86400000)).1) :
    (∃ r, gregorianToJalali jalaali zone (some t) = .ok (some r) ∧
      r.jalali = dateText (jy, jm, jd)) ↔
        (t + zone.offset t) / 86400000 = jalaali.day jy jm jd := by
  have date : zone.date t = civilFromDays ((t + zone.offset t) / 86400000) := by
    unfold Zone.date
    dsimp only
    rw [eraYear, if_neg (by omega)]
  have civil := isCivil_civilFromDays ((t + zone.offset t) / 86400000)
  have counts := (civilFromDays_spec ((t + zone.offset t) / 86400000)).2.2
  unfold gregorianToJalali
  simp only [date]
  generalize (t + zone.offset t) / 86400000 = day at *
  rcases parts : civilFromDays day with ⟨gy, gm, gd⟩
  rw [parts] at civil counts year
  constructor
  · rintro ⟨r, read, same⟩
    obtain ⟨⟨jy', jm', jd'⟩, converted, made⟩ := bind_eq_ok.mp read
    obtain rfl := Option.some.inj (pure_eq_ok.mp made)
    obtain ⟨valid', back⟩ := correct.toGregorian_toJalaali _ _ _ _ _ _ civil (by omega) converted
    have dates := dateText_inj (correct.ranged_cast valid') (correct.ranged_cast valid) same
    simp only [Prod.mk.injEq, Nat.cast_inj] at dates
    obtain ⟨rfl, rfl, rfl⟩ := dates
    rw [← counts, Jalaali.day, back]
  · rintro rfl
    have is : jalaali.toGregorian jy jm jd = (gy, gm, gd) :=
      (correct.civil _ _ _ valid (by omega)).2.symm.trans parts
    have converted := correct.toJalaali_toGregorian _ _ _ _ _ _ valid (by omega) is
    exact ⟨_, bind_eq_ok.mpr ⟨_, converted, rfl⟩, rfl⟩

/-- A time of a day of the package is shown in a year that it knows. -/
theorem year_of_shown (correct : jalaali.Correct)
    (valid : jalaali.isValidJalaaliDate jy jm jd = true) (years : 1200 ≤ jy ∧ jy ≤ 1700)
    (timeOfDay : TimeOfDay) :
    1801 ≤ (civilFromDays ((standardInstant (jalaali.day jy jm jd) timeOfDay +
      zone.offset (standardInstant (jalaali.day jy jm jd) timeOfDay)) / 86400000)).1 := by
  obtain ⟨year, civil⟩ := correct.civil _ _ _ valid (by omega)
  have shown : civilFromDays (jalaali.day jy jm jd) = jalaali.toGregorian jy jm jd := civil
  have after : daysFromCivil 1820 1 1 ≤ jalaali.day jy jm jd :=
    le_year_iff.mp (by rw [shown]; omega)
  have near := (@day_eq_iff zone (jalaali.day jy jm jd) timeOfDay).2
  have early : daysFromCivil 1801 1 1 + 1 < daysFromCivil 1820 1 1 := by decide
  exact le_year_iff.mpr (by omega)

/-- Where a date that is accepted is read back. -/
theorem readsBack_iff (correct : jalaali.Correct)
    (valid : isValidJalaliDate jalaali.package s = true)
    (parts : matchDate (normalizePersianDigits s) = some (jy, jm, jd)) :
    (∃ r, gregorianToJalali jalaali zone
        (some (standardInstant (jalaali.day jy jm jd) timeOfDay)) = .ok (some r) ∧
      r.jalali = dateText (jy, jm, jd)) ↔ zone.Keeps (jalaali.day jy jm jd) timeOfDay := by
  obtain ⟨_, _, _, same, years, known⟩ := isValidJalaliDate_spec valid
  rw [parts, Option.some.injEq, Prod.mk.injEq, Prod.mk.injEq] at same
  obtain ⟨rfl, rfl, rfl⟩ := same
  rw [gregorianToJalali_eq_iff correct known years.2
    (year_of_shown correct known years timeOfDay), day_eq_iff.1]

theorem roundTrips_iff (correct : jalaali.Correct)
    (valid : isValidJalaliDate jalaali.package s = true) :
    RoundTrips jalaali zone s timeOfDay ↔
      ∀ day ∈ jalaali.dayOfText s, zone.Keeps day timeOfDay := by
  obtain ⟨jy, jm, jd, parts, -⟩ := isValidJalaliDate_spec valid
  have back := @readsBack_iff _ zone _ timeOfDay _ _ _ correct valid parts
  have stored := jalaliToGregorianDate_of_valid valid parts timeOfDay
  unfold RoundTrips plainText Jalaali.dayOfText
  simp only [parts, Option.map_some, Option.mem_some_iff, forall_eq', ← back, stored,
    Except.ok.injEq, exists_and_left, ↓existsAndEq, true_and, Option.some.injEq]

/-- A date that is written plainly, in a year that is accepted. -/
theorem plain_of_months (months : jalaali.Months jy) (years : 1200 ≤ jy ∧ jy ≤ 1700)
    (month : 1 ≤ jm ∧ jm ≤ 12) (day : 1 ≤ jd ∧ jd ≤ jalaali.jalaaliMonthLength jy jm)
    (short : jd ≤ 31) :
    isValidJalaliDate jalaali.package (dateText (jy, jm, jd)) = true ∧
      matchDate (normalizePersianDigits (dateText (jy, jm, jd))) = some (jy, jm, jd) := by
  obtain ⟨plain, parts⟩ := @matchDate_dateText jy _ _ ⟨by omega, by omega⟩ month
    ⟨day.1, short⟩
  have known := (months.valid jm jd).mpr ⟨month, day⟩
  refine ⟨?_, by rw [plain, parts]⟩
  unfold isValidJalaliDate
  simp only [plain, parts, known, Bool.and_true, Bool.and_eq_true, Bool.not_eq_true',
    Bool.or_eq_false_iff, decide_eq_false_iff_not, not_lt]
  exact ⟨years, day.2⟩

theorem boundariesReadBack_iff (correct : jalaali.Correct) {y : ℕ} (first : 1200 ≤ y)
    (last : y ≤ 1699) (months : jalaali.Months y) (months' : jalaali.Months (y + 1)) :
    BoundariesReadBack jalaali zone y ↔ zone.Keeps (jalaali.day y 7 1) .start ∧
      zone.Keeps (jalaali.day (y + 1) 3 31) .end := by
  obtain ⟨valid, parts⟩ := @plain_of_months _ _ 7 1 months ⟨first, by omega⟩
    (by decide) ⟨le_rfl, by rw [months.late 7 (by decide)]; decide⟩ (by decide)
  obtain ⟨valid', parts'⟩ := @plain_of_months _ _ 3 31 months'
    ⟨by omega, by omega⟩ (by decide) ⟨by decide, by rw [months'.early 3 (by decide)]⟩ (by decide)
  have start := jalaliToGregorianDate_of_valid valid parts .start
  have end' := jalaliToGregorianDate_of_valid valid' parts' .end
  have mehr : toString y ++ "-07-01" = dateText ((y : ℕ), (7 : ℕ), (1 : ℕ)) := by
    have rest : "-" ++ (pad2 (7 : ℕ) ++ ("-" ++ pad2 (1 : ℕ))) = "-07-01" := by decide
    rw [dateText, String.append_assoc, String.append_assoc, String.append_assoc, rest]
    rfl
  have khordad : toString (y + 1) ++ "-03-31" = dateText ((y + 1 : ℕ), (3 : ℕ), (31 : ℕ)) := by
    have rest : "-" ++ (pad2 (3 : ℕ) ++ ("-" ++ pad2 (31 : ℕ))) = "-03-31" := by decide
    rw [dateText, String.append_assoc, String.append_assoc, String.append_assoc, rest]
    rfl
  rw [← @readsBack_iff _ zone _ .start _ _ _ correct valid parts,
    ← @readsBack_iff _ zone _ .end _ _ _ correct valid' parts']
  unfold BoundariesReadBack getDefaultAcademicYearBoundaries
  rw [mehr, khordad, start, end']
  constructor
  · rintro ⟨_, r, r', made, read, read', same, same'⟩
    cases made
    exact ⟨⟨r, read, same⟩, r', read', same'⟩
  · rintro ⟨⟨r, read, same⟩, r', read', same'⟩
    exact ⟨_, r, r', rfl, read, read', same, same'⟩

end

/-- **Round trip.** A date that is accepted is read back as it was written exactly if the clock of
Tehran keeps its day: it is not behind the standard time where the day begins, nor ahead of it where
the day ends. So are the boundaries of a school year. -/
theorem round_trip_iff {jalaali : JalaaliDates} (correct : jalaali.Correct) (zone : Zone) :
    (∀ s timeOfDay, isValidJalaliDate jalaali.package s = true →
      (RoundTrips jalaali zone s timeOfDay ↔
        ∀ day ∈ jalaali.dayOfText s, zone.Keeps day timeOfDay)) ∧
    ∀ y, 1200 ≤ y → y ≤ 1699 → jalaali.Months y → jalaali.Months (y + 1) →
      (BoundariesReadBack jalaali zone y ↔ zone.Keeps (jalaali.day y 7 1) .start ∧
        zone.Keeps (jalaali.day (y + 1) 3 31) .end) :=
  ⟨fun _ _ valid => roundTrips_iff correct valid,
    fun _ first last months months' => boundariesReadBack_iff correct first last months months'⟩

/-! ### The clock of Tehran -/

/-- The mean time of Tehran was kept until 13 June 1935. -/
def meanTimeEnd : Instant := dateUTC 1935 6 13 0 - ((3 * 60 + 25) * 60 + 44) * 1000

/-- From 21 October 1977 to the end of 1978 the standard time was four hours ahead. -/
def fourHours (t : Instant) : Bool :=
  dateUTC 1977 10 20 73800000 ≤ t ∧ t < dateUTC 1978 12 31 72000000

/-- The clock of Tehran: the mean time, then the standard time, and an hour more in summer time. -/
def tehran (summer : Instant → Bool) : Zone where
  offset t :=
    if t < meanTimeEnd then ((3 * 60 + 25) * 60 + 44) * 1000
    else (if fourHours t then 4 * 3600000 else standardOffset) + if summer t then 3600000 else 0
  near t := by
    unfold standardOffset
    rw [abs_lt]
    split_ifs <;> constructor <;> norm_num

/-! ### Three years

The years from 1400 to 1402 have 365 days each and begin on 2021-03-21, 2022-03-21 and 2023-03-21.
In the first two the clocks were put forward from 22 March to 21 September. -/

open CommonYear

namespace Khordad

def monthAndDay (n : ℕ) : ℕ × ℕ :=
  if n < 186 then (n / 31 + 1, n % 31 + 1) else ((n - 186) / 30 + 7, (n - 186) % 30 + 1)

/-- The days since the beginning of 1400. -/
def daysSince (jy jm jd : ℕ) : ℕ := 365 * (jy - 1400) + dayOfYear jm jd - 1

/-- The package, as far as it is asked for the years. -/
def calendar : JalaaliDates where
  jalaaliMonthLength _ jm := monthLength jm
  isValidJalaaliDate jy jm jd :=
    (1400 ≤ jy ∧ jy ≤ 1402) ∧ (1 ≤ jm ∧ jm ≤ 12) ∧ (1 ≤ jd ∧ jd ≤ monthLength jm)
  toGregorian jy jm jd := civilFromDays (daysFromCivil 2021 3 21 + daysSince jy jm jd)
  toJalaali y m d :=
    let n := daysFromCivil y m d - daysFromCivil 2021 3 21
    if 0 ≤ n ∧ n < 1095 then
      .ok (1400 + n.toNat / 365, monthAndDay (n.toNat % 365))
    else .error "Invalid Jalaali year"

theorem monthAndDay_dayOfYear {jm jd : ℕ} (month : 1 ≤ jm ∧ jm ≤ 12)
    (day : 1 ≤ jd ∧ jd ≤ monthLength jm) :
    1 ≤ dayOfYear jm jd ∧ dayOfYear jm jd ≤ 365 ∧ monthAndDay (dayOfYear jm jd - 1) = (jm, jd) := by
  unfold monthLength at day
  unfold dayOfYear monthAndDay
  split_ifs at day ⊢ <;> simp only [Prod.mk.injEq] <;> omega

theorem dayOfYear_monthAndDay {n : ℕ} (inYear : n < 365) :
    (1 ≤ (monthAndDay n).1 ∧ (monthAndDay n).1 ≤ 12) ∧
      (1 ≤ (monthAndDay n).2 ∧ (monthAndDay n).2 ≤ monthLength (monthAndDay n).1) ∧
      dayOfYear (monthAndDay n).1 (monthAndDay n).2 = n + 1 := by
  unfold monthAndDay monthLength dayOfYear
  split_ifs <;> omega

end Khordad

open Khordad in
/-- What a package knows of three years of 365 days each, the first of which begins on a day. -/
structure CommonYears (jalaali : JalaaliDates) (first : ℕ) (beginning : ℤ) : Prop where
  within : ∀ k < 3, daysFromCivil (first + 621 + k : ℕ) 1 1 ≤ beginning + 365 * k ∧
    beginning + 365 * (k + 1) ≤ daysFromCivil (first + 623 + k : ℕ) 1 1
  length : ∀ jy jm, jalaali.jalaaliMonthLength jy jm = monthLength jm
  valid_iff : ∀ jy jm jd, jalaali.isValidJalaaliDate jy jm jd = true ↔
    (first ≤ jy ∧ jy ≤ first + 2) ∧ (1 ≤ jm ∧ jm ≤ 12) ∧ 1 ≤ jd ∧ jd ≤ monthLength jm
  toGregorian : ∀ jy jm jd, jalaali.toGregorian jy jm jd =
    civilFromDays (beginning + (365 * (jy - first) + dayOfYear jm jd - 1 : ℕ))
  toJalaali : ∀ y m d, jalaali.toJalaali y m d =
    if 0 ≤ daysFromCivil y m d - beginning ∧ daysFromCivil y m d - beginning < 1095 then
      .ok (first + (daysFromCivil y m d - beginning).toNat / 365,
        monthAndDay ((daysFromCivil y m d - beginning).toNat % 365))
    else .error "Invalid Jalaali year"

namespace CommonYears

open Khordad

variable {jalaali : JalaaliDates} {first : ℕ} {beginning : ℤ} {jy jm jd : ℕ}
  (common : CommonYears jalaali first beginning)
include common

theorem day_eq (jy jm jd : ℕ) :
    jalaali.day jy jm jd = beginning + (365 * (jy - first) + dayOfYear jm jd - 1 : ℕ) := by
  rw [Jalaali.day, common.toGregorian]
  exact (civilFromDays_spec _).2.2

theorem civil
    (valid : jalaali.isValidJalaaliDate jy jm jd = true) :
    jy + 621 ≤ (jalaali.toGregorian jy jm jd).1 ∧ (jalaali.toGregorian jy jm jd).1 ≤ jy + 622 ∧
      IsCivil (jalaali.toGregorian jy jm jd) := by
  obtain ⟨years, month, inMonth⟩ := (common.valid_iff jy jm jd).mp valid
  obtain ⟨least, most, -⟩ := monthAndDay_dayOfYear month inMonth
  obtain ⟨k, rfl⟩ := Nat.exists_eq_add_of_le years.1
  obtain ⟨begins, ends⟩ := common.within k (by omega)
  rw [common.toGregorian, Nat.add_sub_cancel_left]
  refine ⟨?_, ?_, isCivil_civilFromDays _⟩
  · have after := @le_year_iff (beginning + (365 * k + dayOfYear jm jd - 1 : ℕ))
      ((first + 621 + k : ℕ) : ℤ)
    have here := after.mpr (by omega)
    push_cast at here ⊢
    omega
  · have after := @le_year_iff (beginning + (365 * k + dayOfYear jm jd - 1 : ℕ))
      ((first + 623 + k : ℕ) : ℤ)
    have before := mt after.mp (by omega)
    push_cast at before ⊢
    omega

theorem correct : jalaali.Correct where
  ranged jy jm jd valid := by
    obtain ⟨-, month, day⟩ := (common.valid_iff jy jm jd).mp valid
    have short : monthLength jm ≤ 31 := by
      unfold monthLength
      split_ifs <;> omega
    omega
  civil jy jm jd valid _ := ⟨(common.civil valid).1, (common.civil valid).2.2⟩
  toJalaali_toGregorian jy jm jd y m d valid _ same := by
    obtain ⟨years, month, day⟩ := (common.valid_iff jy jm jd).mp valid
    obtain ⟨least, most, back⟩ := monthAndDay_dayOfYear month day
    have n : daysFromCivil y m d - beginning =
        ((365 * (jy - first) + dayOfYear jm jd - 1 : ℕ) : ℤ) := by
      have counts := common.day_eq jy jm jd
      rw [Jalaali.day, same] at counts
      rw [counts]
      ring
    have year : (365 * (jy - first) + dayOfYear jm jd - 1) / 365 = jy - first := by omega
    have rest : (365 * (jy - first) + dayOfYear jm jd - 1) % 365 = dayOfYear jm jd - 1 := by
      omega
    have within : 365 * (jy - first) + dayOfYear jm jd - 1 < 1095 := by omega
    rw [common.toJalaali, n, if_pos ⟨Int.natCast_nonneg _, by exact_mod_cast within⟩,
      Int.toNat_natCast, year, rest, back, Nat.add_sub_cancel' years.1]
  toGregorian_toJalaali jy jm jd y m d civil _ converted := by
    rw [common.toJalaali] at converted
    split at converted
    · rename_i inYears
      obtain ⟨n, same⟩ := Int.eq_ofNat_of_zero_le inYears.1
      rw [same, Int.toNat_natCast] at converted
      obtain ⟨rfl, date⟩ := Prod.mk.inj (Except.ok.inj converted)
      obtain ⟨month, day, back⟩ := dayOfYear_monthAndDay (n := n % 365) (by omega)
      rw [date] at month day back
      dsimp only at back
      refine ⟨(common.valid_iff _ jm jd).mpr ⟨by omega, month, day⟩, ?_⟩
      have count : 365 * (first + n / 365 - first) + dayOfYear jm jd - 1 = n := by omega
      rw [common.toGregorian, count, ← civil]
      congr 1
      dsimp only
      omega
    · cases converted

theorem months
    (years : first ≤ jy ∧ jy ≤ first + 2) : jalaali.Months jy where
  early jm month := (common.length jy jm).trans (if_pos month.2)
  late jm month := by rw [common.length, monthLength, if_neg (by omega), if_pos month.2]
  valid jm jd := by
    rw [common.valid_iff, common.length]
    exact and_iff_right years

theorem counts
    (years : first ≤ jy ∧ jy ≤ first + 2) : jalaali.Counts jy where
  monthLength jm _ := by
    rw [common.length, monthLength]
    split_ifs <;> omega
  valid := (common.months years).valid
  civil jm jd valid := by
    obtain ⟨early, late, civil⟩ := common.civil valid
    exact ⟨civil, early, late⟩
  nextDay jm jd first _ := by
    rw [common.day_eq, common.day_eq]
    unfold dayOfYear
    split_ifs <;> omega
  nextMonth jm month := by
    rw [common.day_eq, common.day_eq, common.length]
    unfold dayOfYear monthLength
    split_ifs <;> omega
  nextYear := by
    have last : dayOfYear 12 (monthLength 12) = 365 := by decide
    have begins : dayOfYear 1 1 = 1 := by decide
    rw [common.day_eq, common.day_eq, common.length, last, begins]
    omega

end CommonYears

namespace Khordad

theorem commonYears : CommonYears calendar 1400 (daysFromCivil 2021 3 21) where
  within := by decide
  length _ _ := rfl
  valid_iff _ _ _ := decide_eq_true_iff
  toGregorian _ _ _ := rfl
  toJalaali _ _ _ := rfl

theorem calendar_correct : calendar.Correct := commonYears.correct

theorem months {jy : ℕ} (years : 1400 ≤ jy ∧ jy ≤ 1402) : calendar.Months jy :=
  commonYears.months years

/-- From 22 March to 21 September, by the clock. -/
def summer (t : Instant) : Bool :=
  (dateUTC 2021 3 21 73800000 ≤ t ∧ t < dateUTC 2021 9 21 70200000) ∨
    (dateUTC 2022 3 21 73800000 ≤ t ∧ t < dateUTC 2022 9 21 70200000)

end Khordad

open Khordad

/-- The beginning of a day in autumn, and the boundaries of a year that does not end in summer
time. -/
theorem round_trip_khordad : RoundTrips calendar (tehran summer) "۱۴۰۱/۷/۱" .start ∧
    BoundariesReadBack calendar (tehran summer) 1401 :=
  ⟨((round_trip_iff calendar_correct (tehran summer)).1 "۱۴۰۱/۷/۱" .start
      (by decide +kernel)).mpr (by decide +kernel),
    ((round_trip_iff calendar_correct (tehran summer)).2 1401 (by decide) (by decide)
      (months (by decide)) (months (by decide))).mpr (by decide +kernel)⟩

/-- The end of Khordad 1401 is read as the first of Tir. -/
theorem not_round_trip : ¬ ∀ (jalaali : JalaaliDates) (summer : Instant → Bool), jalaali.Correct →
    (∀ s timeOfDay, isValidJalaliDate jalaali.package s = true →
      RoundTrips jalaali (tehran summer) s timeOfDay) ∧
    ∀ y, 1200 ≤ y → y ≤ 1699 → jalaali.Months y → jalaali.Months (y + 1) →
      BoundariesReadBack jalaali (tehran summer) y := by
  intro claim
  have back := (claim calendar summer calendar_correct).2 1400 (by decide) (by decide)
    (months (by decide)) (months (by decide))
  have keeps := (boundariesReadBack_iff calendar_correct (by decide) (by decide)
    (months (by decide)) (months (by decide))).mp back
  exact absurd keeps.2 (by decide +kernel)

end Rokad.Common
