import Rokad.Attendance.Service
import Rokad.Calendar.SchoolCalendar
import Rokad.Classes.Timetable
import Rokad.Common.RoundTrip

/-!
# Odd and even weeks

`getDayOfWeekFromDate` and `getActiveWeekFromDate` of the attendance service, and
`getCurrentJalaliWeekInfo` of the browser. The weeks of a Jalali year are counted from the one in
which it begins, and the odd and the even ones alternate. Every year begins with an odd week, and
nearly every year ends with one (`active_of_year`), so that two odd weeks follow one another where
a year ends on a Friday, and one week is of two kinds where a leap year ends on a Saturday
(`weeks_alternate_iff`).

The clock of the server is ahead of UTC by a fixed time, or behind it; a Gregorian date that is
read by a clock behind it is the day before.
-/

namespace Rokad.Attendance

open Rokad.Base Rokad.Common
open Rokad.Calendar (newDate fullYear DateInput)
open Rokad.Classes (DayOfWeek)

/-! ### The host -/

/-- What the host makes of texts that are no digits and no `YYYY-MM-DD`, and how far its clock is
ahead of UTC. -/
structure LocalHost where
  number : String → Option ℕ
  legacy : String → Option Instant
  offset : ℤ
  near : -86400000 < offset ∧ offset < 86400000

namespace LocalHost

variable (host : LocalHost)

/-- The day that the clock shows. -/
def localDay (t : Instant) : ℤ := (t + host.offset) / 86400000

/-- `date.getDay()`, from 0 for Sunday. -/
def getDay (t : Instant) : ℤ := (host.localDay t + 4) % 7

/-- `new Date(y, m - 1, d)` -/
def midnight (date : ℤ × ℤ × ℤ) : Instant :=
  dateUTC (fullYear date.1) date.2.1 date.2.2 0 - host.offset

end LocalHost

/-- `map[day] || DayOfWeek.SATURDAY` -/
def dayOfWeek (day : ℤ) : DayOfWeek :=
  if day = 0 then .sunday
  else if day = 1 then .monday
  else if day = 2 then .tuesday
  else if day = 3 then .wednesday
  else if day = 4 then .thursday
  else if day = 5 then .friday
  else .saturday

/-- The week of the odd lessons, or that of the even ones. -/
inductive ActiveWeek where
  | one | two
deriving DecidableEq

section

variable (jalaali : JalaaliDates) (host : LocalHost) (now : Instant)

/-! ### The server -/

/-- The instant that is meant; none if it is no date. -/
def gDate (dateStr : String) : Option Instant :=
  match (dateStr.toList.splitOnP (· = '-')).map (number host.number) with
  | [some y, m, d] =>
    if 1300 < y ∧ y < 1500 then
      match m, d with
      | some m, some d => some (host.midnight (jalaali.toGregorian y m d))
      | _, _ => none
    else newDate host.legacy dateStr
  | _ => newDate host.legacy dateStr

def getDayOfWeekFromDate (dateStr : Option String) : DayOfWeek :=
  match truthy dateStr with
  | none => dayOfWeek (host.getDay now)
  | some dateStr =>
    ((gDate jalaali host dateStr).map fun t => dayOfWeek (host.getDay t)).getD .saturday

def dayOfYear (jm jd : ℤ) : ℤ := (if jm ≤ 6 then (jm - 1) * 31 else 6 * 31 + (jm - 7) * 30) + jd

/-- The weekday on which a year begins, from 0 for Saturday. -/
def dowFarvardin1 (jy : ℕ) : ℤ := (host.getDay (host.midnight (jalaali.toGregorian jy 1 1)) + 1) % 7

def weekNumber (jy jm jd : ℕ) : ℤ :=
  (dayOfYear jm jd - 1 + dowFarvardin1 jalaali host jy) / 7 + 1

def activeWeek (jy jm jd : ℕ) : ActiveWeek :=
  if weekNumber jalaali host jy jm jd % 2 = 1 then .one else .two

/-- The Jalali date of the day that the clock shows; the package may throw. -/
def jalaliOf (t : Instant) : Result (ℕ × ℕ × ℕ) :=
  let (y, m, d) := civilFromDays (host.localDay t)
  (jalaali.toJalaali y m d).mapError .thrown

/-- The Jalali date that is meant; none if it is no date. -/
def jalaliDate (dateStr : String) : Result (Option (ℕ × ℕ × ℕ)) :=
  match ((trim dateStr).toList.splitOnP fun c => c = '-' || c = '/').map (number host.number) with
  | [some y, some m, some d] =>
    if 1300 < y ∧ y < 1500 then .ok (some (y, m, d))
    else ((jalaali.toJalaali y m d).mapError .thrown).map some
  | _ =>
    match newDate host.legacy dateStr with
    | some t => (jalaliOf jalaali host t).map some
    | none => .ok none

def getActiveWeekFromDate (dateStr : Option String) : Result ActiveWeek :=
  match truthy dateStr with
  | none => do
      let (jy, jm, jd) ← jalaliOf jalaali host now
      return activeWeek jalaali host jy jm jd
  | some dateStr => do
      let date ← jalaliDate jalaali host dateStr
      match date with
      | none => return .one
      | some (jYear, jMonth, jDay) =>
        if jYear = 0 ∨ jMonth = 0 ∨ jDay = 0 then return .one
        else return activeWeek jalaali host jYear jMonth jDay

/-! ### The browser -/

structure JalaliWeekInfo where
  weekNumber : ℤ
  activeWeek : ActiveWeek
  weekLabel : String
  dayOfYear : ℤ
  (jy jm jd : ℕ)

/-- Persian digits become Latin ones. -/
def normalizeDigits (s : String) : String :=
  s.map fun c =>
    if 0x06F0 ≤ c.toNat ∧ c.toNat ≤ 0x06F9 then Char.ofNat ('0'.toNat + (c.toNat - 0x06F0))
    else c

/-- `\d{1,2}`, and what is left. -/
def shortDigits (cs : List Char) : Option (ℕ × List Char) :=
  let digits := (cs.take 2).takeWhile Char.isDigit
  if digits = [] then none else some (digitsValue digits, cs.drop digits.length)

/-- A dash or a slash, and what follows it. -/
def separator : List Char → Option (List Char)
  | c :: cs => if c = '-' ∨ c = '/' then some cs else none
  | [] => none

/-- The date at the beginning of a text: four digits, and twice one digit or two, with dashes or
slashes between them. -/
def matchStart (s : String) : Option (ℕ × ℕ × ℕ) := do
  let year := s.toList.take 4
  let rest ← separator (s.toList.drop 4)
  let (month, rest) ← shortDigits rest
  let rest ← separator rest
  let (day, _) ← shortDigits rest
  if year.length = 4 ∧ year.all Char.isDigit then some (digitsValue year, month, day) else none

/-- The Jalali date that is meant; another text that is no date means now. -/
def DateInput.jalaliDate (dateInput : DateInput) : Result (ℕ × ℕ × ℕ) :=
  match dateInput with
  | .text s =>
    match matchStart (normalizeDigits (trim s)) with
    | some (y, m, d) =>
      if 1300 ≤ y ∧ y ≤ 1500 then .ok (y, m, d)
      else (jalaali.toJalaali y m d).mapError .thrown
    | none => jalaliOf jalaali host ((newDate host.legacy s).getD now)
  | .date t => jalaliOf jalaali host (t.getD now)

def getCurrentJalaliWeekInfo (dateInput : DateInput) : Result JalaliWeekInfo := do
  let (jy, jm, jd) ← DateInput.jalaliDate jalaali host now dateInput
  let activeWeek := activeWeek jalaali host jy jm jd
  return {
    weekNumber := weekNumber jalaali host jy jm jd
    activeWeek
    weekLabel := if activeWeek = .one then "هفته فرد" else "هفته زوج"
    dayOfYear := dayOfYear jm jd
    jy
    jm
    jd }

end

/-! ### What the calendar promises -/

/-- The weekday of a day since 1970-01-01, which was a Thursday. -/
def weekday (n : ℤ) : DayOfWeek := dayOfWeek ((n + 4) % 7)

/-- A year with its twelve months, the last of 29 days, or of 30 in a leap year. -/
structure Solar (jalaali : Jalaali) (jy : ℕ) : Prop
    extends jalaali.Counts jy, jalaali.Months jy where
  last : jalaali.jalaaliMonthLength jy 12 = 29 ∨ jalaali.jalaaliMonthLength jy 12 = 30

/-- The text is the `YYYY-MM-DD` of the day, in the Gregorian or the Jalali calendar. -/
def Written (jalaali : JalaaliDates) (n : ℤ) (s : String) : Prop :=
  s = dateText (civilFromDays n) ∨
    ∃ jy jm jd : ℕ, jalaali.toJalaali (civilFromDays n).1 (civilFromDays n).2.1
      (civilFromDays n).2.2 = .ok (jy, jm, jd) ∧ s = dateText (jy, jm, jd)

section

variable (jalaali : JalaaliDates) (host browser : LocalHost) (now now' : Instant)

/-- The week changes after a day if the next day is a Saturday, and only then. -/
def Alternates (n : ℤ) : Prop :=
  ∀ s s', Written jalaali n s → Written jalaali (n + 1) s' →
    ∃ w w', getActiveWeekFromDate jalaali host now (some s) = .ok w ∧
      getActiveWeekFromDate jalaali host now (some s') = .ok w' ∧
      (w = w' ↔ weekday (n + 1) ≠ .saturday)

/-- Both texts of a day give its weekday, and the same week, which is that of the browser. -/
def Agrees (n : ℤ) : Prop :=
  (∀ s, Written jalaali n s → getDayOfWeekFromDate jalaali host now (some s) = weekday n) ∧
    ∃ w, ∀ s, Written jalaali n s → getActiveWeekFromDate jalaali host now (some s) = .ok w ∧
      ∃ info, getCurrentJalaliWeekInfo jalaali browser now' (.text s) = .ok info ∧
        info.activeWeek = w

end

/-! ### Plain texts -/

theorem toList_dateText (y m d : ℕ) : (dateText (y, m, d)).toList =
    (toString y).toList ++ '-' :: ((pad2 m).toList ++ '-' :: (pad2 d).toList) := by
  have dash : "-".toList = ['-'] := by decide
  simp only [dateText, String.toList_append, dash, List.append_assoc, List.singleton_append]
  rfl

/-- A date that is written with four, two and two digits. -/
structure Plain (y m d : ℕ) : Prop where
  year : FourDigits y
  month : 1 ≤ m ∧ m ≤ 12
  day : 1 ≤ d ∧ d ≤ 31

theorem truthy_dateText (y m d : ℕ) :
    truthy (some (dateText (y, m, d))) = some (dateText (y, m, d)) := by
  refine truthy_eq_some_iff.mpr ⟨rfl, fun empty => ?_⟩
  have letters := toList_dateText y m d
  rw [empty] at letters
  simp at letters

namespace Plain

variable {y m d : ℕ} (plain : Plain y m d)

include plain

theorem plain_chars : ∀ c ∈ (dateText (y, m, d)).toList, c.isDigit = true ∨ c = '-' := by
  intro c mem
  have months := (pad2_spec (n := m) ⟨plain.month.1, plain.month.2.trans (by decide)⟩).2
  have days := (pad2_spec plain.day).2
  have years := isDigit_toString y
  rw [List.all_eq_true] at years months days
  rw [toList_dateText] at mem
  simp only [List.mem_append, List.mem_cons] at mem
  rcases mem with mem | rfl | mem | rfl | mem
  · exact .inl (years c mem)
  · exact .inr rfl
  · exact .inl (months c mem)
  · exact .inr rfl
  · exact .inl (days c mem)

theorem trim : Base.trim (dateText (y, m, d)) = dateText (y, m, d) := by
  have normal := normalizePersianDigits_of_plain plain.plain_chars
  rw [← normal, normalizePersianDigits, trim_trim]

theorem normalizeDigits : normalizeDigits (dateText (y, m, d)) = dateText (y, m, d) := by
  apply String.ext
  unfold Attendance.normalizeDigits
  rw [String.toList_map]
  refine (List.map_congr_left fun c mem => ?_).trans (List.map_id _)
  have low : c.toNat < 0x06F0 := by
    rcases plain.plain_chars c mem with digit | rfl
    · rw [Char.isDigit, Bool.and_eq_true, decide_eq_true_eq, decide_eq_true_eq] at digit
      have high : c.toNat ≤ 57 := digit.2
      omega
    · decide
  rw [if_neg (by omega)]
  rfl

/-- Split at its dashes, it gives its numbers. -/
theorem parts {p : Char → Bool} (dash : p '-' = true)
    (digits : ∀ c : Char, c.isDigit = true → p c = false) (host : String → Option ℕ) :
    ((dateText (y, m, d)).toList.splitOnP p).map (number host) = [some y, some m, some d] := by
  obtain ⟨readMonth, months⟩ := pad2_spec (n := m)
    ⟨plain.month.1, plain.month.2.trans (by decide)⟩
  obtain ⟨readDay, days⟩ := pad2_spec plain.day
  have years := isDigit_toString y
  have single {cs : List Char} (all : cs.all Char.isDigit = true) : ∀ c ∈ cs, p c = false :=
    fun c mem => digits c (List.all_eq_true.mp all c mem)
  have read {cs : List Char} {n : ℕ} (all : cs.all Char.isDigit = true) (value : digitsValue cs = n)
      (nonempty : cs ≠ []) : number host cs = some n := by
    rw [number, if_pos ⟨nonempty, all⟩, value]
  have short {n : ℕ} {cs : List Char} (known : shortNumber cs = some n) :
      digitsValue cs = n ∧ cs ≠ [] := by
    unfold shortNumber at known
    split at known
    · rename_i length
      refine ⟨Option.some.inj known, ?_⟩
      rintro rfl
      simp at length
    · cases known
  have nonempty : (toString y).toList ≠ [] := by
    intro empty
    have length : (toString y).toList.length = 4 := plain.year.length
    rw [empty] at length
    cases length
  rw [toList_dateText, List.splitOnP_append_cons_of_forall_mem (single years) _ dash,
    List.splitOnP_append_cons_of_forall_mem (single months) _ dash,
    List.splitOnP_eq_singleton (single days)]
  rw [List.map_cons, List.map_cons, List.map_cons, List.map_nil,
    read years (digitsValue_toString y) nonempty,
    read months (short readMonth).1 (short readMonth).2,
    read days (short readDay).1 (short readDay).2]

theorem matchStart : matchStart (dateText (y, m, d)) = some (y, m, d) := by
  have length : (toString y).toList.length = 4 := plain.year.length
  have years := isDigit_toString y
  have short {n : ℕ} (inMonth : 1 ≤ n ∧ n ≤ 31) (rest : List Char) :
      shortDigits ((pad2 n).toList ++ rest) = some (n, rest) := by
    obtain ⟨low, high⟩ := inMonth
    interval_cases n <;> rfl
  have day := short plain.day []
  rw [List.append_nil] at day
  unfold Attendance.matchStart
  rw [toList_dateText, List.take_left' length, List.drop_left' length]
  simp only [separator, true_or, if_true, bind, Option.bind,
    short ⟨plain.month.1, plain.month.2.trans (by decide)⟩, day, length, years, and_self,
    digitsValue_toString]

/-- A text of a Gregorian day is taken for the beginning of the day in UTC. -/
theorem newDate (civil : IsCivil (y, m, d)) (legacy : String → Option Instant) :
    newDate legacy (dateText (y, m, d)) = some (daysFromCivil y m d * 86400000) := by
  obtain ⟨readMonth, months⟩ := pad2_spec (n := m)
    ⟨plain.month.1, plain.month.2.trans (by decide)⟩
  obtain ⟨readDay, days⟩ := pad2_spec plain.day
  have years := isDigit_toString y
  have length : (toString y).toList.length = 4 := plain.year.length
  have value {n : ℕ} (inMonth : 1 ≤ n ∧ n ≤ 31) : digitsValue (pad2 n).toList = n := by
    obtain ⟨low, high⟩ := inMonth
    interval_cases n <;> rfl
  have single {cs : List Char} (all : cs.all Char.isDigit = true) :
      ∀ c ∈ cs, (decide (c = '-')) = false := by
    intro c mem
    rw [decide_eq_false_iff_not]
    rintro rfl
    exact absurd (List.all_eq_true.mp all _ mem) (by decide)
  have iso : Calendar.isoDay (dateText (y, m, d)) = some ((y : ℤ), (m : ℤ), (d : ℤ)) := by
    unfold Calendar.isoDay
    rw [toList_dateText, List.splitOnP_append_cons_of_forall_mem (single years) _ (by decide),
      List.splitOnP_append_cons_of_forall_mem (single months) _ (by decide),
      List.splitOnP_eq_singleton (single days)]
    have monthLength := length_pad2 (n := m) ⟨by exact_mod_cast plain.month.1,
      by exact_mod_cast plain.month.2.trans (by decide)⟩
    have dayLength := length_pad2 (n := d) ⟨by exact_mod_cast plain.day.1,
      by exact_mod_cast plain.day.2⟩
    have civil' : civilFromDays (daysFromCivil y m d) = ((y : ℤ), (m : ℤ), (d : ℤ)) := civil
    simp only [digitsValue_toString, value plain.day,
      value ⟨plain.month.1, plain.month.2.trans (by decide)⟩, length, monthLength, dayLength,
      List.all_append, years, months, days, civil', and_self, Bool.and_self, if_true]
  unfold Calendar.newDate
  rw [iso]
  simp only [dateUTC_eq, add_zero]

end Plain

/-! ### Days -/

@[simp] theorem localDay_midnight (host : LocalHost) {date : ℤ × ℤ × ℤ} (late : 100 ≤ date.1) :
    host.localDay (host.midnight date) = daysFromCivil date.1 date.2.1 date.2.2 := by
  unfold LocalHost.localDay LocalHost.midnight
  rw [fullYear, if_neg (by omega), dateUTC_eq]
  omega

/-- A clock behind UTC shows the beginning of a day as the day before. -/
theorem localDay_mul (host : LocalHost) (n : ℤ) :
    host.localDay (n * 86400000) = if 0 ≤ host.offset then n else n - 1 := by
  have near := host.near
  unfold LocalHost.localDay
  split_ifs <;> omega

theorem dayOfWeek_inj {a b : ℤ} (left : 0 ≤ a ∧ a < 7) (right : 0 ≤ b ∧ b < 7) :
    dayOfWeek a = dayOfWeek b ↔ a = b := by
  obtain ⟨low, high⟩ := left
  obtain ⟨low', high'⟩ := right
  interval_cases a <;> interval_cases b <;> decide

theorem weekday_eq_iff {m n : ℤ} : weekday m = weekday n ↔ (m + 4) % 7 = (n + 4) % 7 :=
  dayOfWeek_inj (by omega) (by omega)

theorem weekday_eq_friday {n : ℤ} : weekday n = .friday ↔ (n + 4) % 7 = 5 :=
  dayOfWeek_inj (b := 5) (by omega) (by omega)

theorem weekday_eq_saturday {n : ℤ} : weekday n = .saturday ↔ (n + 4) % 7 = 6 :=
  dayOfWeek_inj (b := 6) (by omega) (by omega)

section

variable {jalaali : JalaaliDates} {host browser : LocalHost} {jy jm jd jm' jd' : ℕ}
  (solar : Solar jalaali.package jy)
include solar

/-- The months before a month have 31 days each, then 30. -/
theorem Solar.day_first (month : 1 ≤ jm ∧ jm ≤ 12) :
    jalaali.day jy jm 1 = jalaali.day jy 1 1 + (dayOfYear jm 1 - 1) := by
  obtain ⟨first, last⟩ := month
  induction jm, first using Nat.le_induction with
  | base => simp [dayOfYear]
  | succ jm first ih =>
    have within : 1 ≤ jm ∧ jm ≤ 12 := ⟨first, by omega⟩
    rw [solar.nextMonth jm ⟨first, by omega⟩, solar.toCounts.day_eq (solar.toCounts.last within),
      ih (by omega)]
    unfold dayOfYear
    by_cases early : jm ≤ 6
    · rw [solar.early jm ⟨first, early⟩]
      push_cast
      split_ifs <;> omega
    · rw [solar.late jm ⟨by omega, by omega⟩]
      push_cast
      split_ifs <;> omega

/-! ### A day of a year -/

section

variable (valid : jalaali.isValidJalaaliDate jy jm jd = true)
include valid

theorem Solar.day_eq :
    jalaali.day jy jm jd = jalaali.day jy 1 1 + (dayOfYear jm jd - 1) := by
  rw [solar.toCounts.day_eq valid, solar.day_first ((solar.valid jm jd).mp valid).1]
  unfold dayOfYear
  split_ifs <;> ring

/-- The weeks of a year are counted from the Saturday on which it begins, or before it. -/
theorem Solar.weekNumber_eq (late : 1300 ≤ jy) :
    weekNumber jalaali host jy jm jd = (jalaali.day jy jm jd - jalaali.day jy 1 1 +
      (jalaali.day jy 1 1 + 5) % 7) / 7 + 1 := by
  have first : jalaali.isValidJalaaliDate jy 1 1 = true := solar.toCounts.first (by decide)
  obtain ⟨-, year, -⟩ := solar.civil 1 1 first
  have shown : host.localDay (host.midnight (jalaali.toGregorian jy 1 1)) = _ :=
    localDay_midnight host (by omega)
  have begins : dowFarvardin1 jalaali host jy = (jalaali.day jy 1 1 + 5) % 7 := by
    unfold dowFarvardin1 LocalHost.getDay
    rw [shown]
    change ((jalaali.day jy 1 1 + 4) % 7 + 1) % 7 = _
    omega
  rw [weekNumber, begins, solar.day_eq valid]
  ring_nf

/-- The day after a day of a year: the next of it, or the first of the next year. -/
theorem Solar.next (solar' : Solar jalaali.package (jy + 1)) :
    ∃ jy' jm' jd', jalaali.isValidJalaaliDate jy' jm' jd' = true ∧
      jalaali.day jy' jm' jd' = jalaali.day jy jm jd + 1 ∧
      if jm = 12 ∧ jd = jalaali.jalaaliMonthLength jy 12 then (jy', jm', jd') = (jy + 1, 1, 1)
      else jy' = jy := by
  obtain ⟨month, first, last⟩ := (solar.toCounts.valid jm jd).mp valid
  by_cases inMonth : jd < jalaali.jalaaliMonthLength jy jm
  · have next := (solar.toCounts.valid jm (jd + 1)).mpr ⟨month, by omega, inMonth⟩
    refine ⟨jy, jm, jd + 1, next, solar.nextDay jm jd first next, ?_⟩
    rw [if_neg]
    rintro ⟨rfl, rfl⟩
    exact absurd inMonth (lt_irrefl _)
  · have atEnd : jd = jalaali.jalaaliMonthLength jy jm := by omega
    by_cases inYear : jm < 12
    · refine ⟨jy, jm + 1, 1, solar.toCounts.first (by omega), ?_, ?_⟩
      · rw [solar.nextMonth jm ⟨month.1, inYear⟩, ← atEnd]
      · rw [if_neg (fun ends => absurd ends.1 (by omega))]
    · obtain rfl : jm = 12 := by omega
      refine ⟨jy + 1, 1, 1, solar'.toCounts.first (by decide), ?_, ?_⟩
      · rw [solar.nextYear, ← atEnd]
      · rw [if_pos ⟨rfl, atEnd⟩]

/-- The week of the day after a day of a year, and that of the day. -/
theorem Solar.week_next
    (valid' : jalaali.isValidJalaaliDate jy jm' jd' = true) (late : 1300 ≤ jy)
    (next : jalaali.day jy jm' jd' = jalaali.day jy jm jd + 1) :
    activeWeek jalaali host jy jm jd = activeWeek jalaali host jy jm' jd' ↔
      weekday (jalaali.day jy jm jd + 1) ≠ .saturday := by
  have after := solar.day_eq valid
  have within : 1 ≤ dayOfYear jm jd := by
    obtain ⟨month, first, -⟩ := (solar.toCounts.valid jm jd).mp valid
    unfold dayOfYear
    split_ifs <;> omega
  unfold activeWeek
  rw [solar.weekNumber_eq valid late, solar.weekNumber_eq valid' late, next, Ne,
    weekday_eq_saturday]
  generalize jalaali.day jy jm jd = n at *
  generalize jalaali.day jy 1 1 = first at *
  split_ifs <;> simp only [false_iff, true_iff, not_not] <;> omega

/-- The week of a day does not depend on the clock. -/
theorem Solar.activeWeek_eq (late : 1300 ≤ jy) :
    activeWeek jalaali browser jy jm jd = activeWeek jalaali host jy jm jd := by
  unfold activeWeek
  rw [solar.weekNumber_eq valid late, solar.weekNumber_eq valid late]

/-! ### What the texts are taken for -/

section

variable (years : 1301 ≤ jy ∧ jy ≤ 1499)
include years

/-- The Gregorian date of a day is written with four, two and two digits, in a year that no Jalali
year is taken for. -/
theorem Solar.civil_plain :
    ∃ y m d : ℕ, civilFromDays (jalaali.day jy jm jd) = ((y : ℤ), (m : ℤ), (d : ℤ)) ∧
      jalaali.toGregorian jy jm jd = ((y : ℤ), (m : ℤ), (d : ℤ)) ∧ Plain y m d ∧ 1500 < y := by
  obtain ⟨civil, after, before⟩ := solar.civil jm jd valid
  have date := solar.toCounts.civilFromDays_day valid
  obtain ⟨-, month, inMonth⟩ := civil.ranged (by omega)
  change civilFromDays (jalaali.day jy jm jd) = jalaali.toGregorian jy jm jd at date
  rw [date]
  obtain ⟨y, year⟩ := Int.eq_ofNat_of_zero_le (show 0 ≤ (jalaali.toGregorian jy jm jd).1 by omega)
  obtain ⟨m, month'⟩ :=
    Int.eq_ofNat_of_zero_le (show 0 ≤ (jalaali.toGregorian jy jm jd).2.1 by omega)
  obtain ⟨d, day'⟩ :=
    Int.eq_ofNat_of_zero_le (show 0 ≤ (jalaali.toGregorian jy jm jd).2.2 by omega)
  have whole : jalaali.toGregorian jy jm jd = ((y : ℤ), (m : ℤ), (d : ℤ)) :=
    Prod.ext year (Prod.ext month' day')
  exact ⟨y, m, d, whole, whole, ⟨⟨by omega, by omega⟩, by omega, by omega⟩, by omega⟩

theorem Solar.plain : Plain jy jm jd := by
  obtain ⟨month, first, last⟩ := (solar.toCounts.valid jm jd).mp valid
  have short := (solar.monthLength jm month).2
  exact ⟨⟨by omega, by omega⟩, month, first, by omega⟩

variable (correct : jalaali.Correct)
include correct

/-- A day has two texts. -/
theorem Solar.written_iff
    {s : String} : Written jalaali (jalaali.day jy jm jd) s ↔
      s = dateText (jalaali.toGregorian jy jm jd) ∨ s = dateText (jy, jm, jd) := by
  have date : civilFromDays (jalaali.day jy jm jd) = jalaali.toGregorian jy jm jd :=
    solar.toCounts.civilFromDays_day valid
  have back := correct.toJalaali_toGregorian jy jm jd _ _ _ valid (by omega) rfl
  unfold Written
  rw [date, back]
  refine or_congr_right ⟨?_, fun text => ⟨jy, jm, jd, rfl, text⟩⟩
  rintro ⟨jy', jm', jd', same, text⟩
  cases same
  exact text

/-- The server takes either text for the Jalali date of its day. -/
theorem Solar.jalaliDate_written (host : LocalHost) {s : String}
    (written : Written jalaali (jalaali.day jy jm jd) s) :
    truthy (some s) = some s ∧ jalaliDate jalaali host s = .ok (some (jy, jm, jd)) := by
  have digits : ∀ c : Char, c.isDigit = true → (decide (c = '-') || decide (c = '/')) = false := by
    intro c digit
    rw [Bool.or_eq_false_iff, decide_eq_false_iff_not, decide_eq_false_iff_not]
    constructor <;> rintro rfl <;> exact absurd digit (by decide)
  unfold jalaliDate
  rcases (solar.written_iff valid years correct).mp written with rfl | rfl
  · obtain ⟨y, m, d, -, date, plain, late⟩ := solar.civil_plain valid years
    have back := correct.toJalaali_toGregorian jy jm jd _ _ _ valid (by omega) date
    rw [date, plain.trim, plain.parts (by decide) digits]
    refine ⟨truthy_dateText y m d, ?_⟩
    simp only [show ¬(1300 < y ∧ y < 1500) by omega, if_false, back]
    rfl
  · have plain := solar.plain valid years
    rw [plain.trim, plain.parts (by decide) digits]
    refine ⟨truthy_dateText jy jm jd, ?_⟩
    simp only [show 1300 < jy ∧ jy < 1500 by omega, and_self, if_true]

/-- So does the browser. -/
theorem Solar.browser_written
    {s : String} (written : Written jalaali (jalaali.day jy jm jd) s) (now : Instant) :
    DateInput.jalaliDate jalaali host now (.text s) = .ok (jy, jm, jd) := by
  unfold DateInput.jalaliDate
  rcases (solar.written_iff valid years correct).mp written with rfl | rfl
  · obtain ⟨y, m, d, -, date, plain, late⟩ := solar.civil_plain valid years
    have back := correct.toJalaali_toGregorian jy jm jd _ _ _ valid (by omega) date
    rw [date]
    simp only [plain.trim, plain.normalizeDigits, plain.matchStart,
      show ¬(1300 ≤ y ∧ y ≤ 1500) by omega, if_false, back]
    rfl
  · have plain := solar.plain valid years
    simp only [plain.trim, plain.normalizeDigits, plain.matchStart,
      show 1300 ≤ jy ∧ jy ≤ 1500 by omega, and_self, if_true]

/-- The weekday of a Jalali text is the true one; that of a Gregorian text is, by a clock that is
not behind UTC. -/
theorem Solar.getDayOfWeek_written
    (now : Instant) :
    (∀ s, Written jalaali (jalaali.day jy jm jd) s →
      getDayOfWeekFromDate jalaali host now (some s) = weekday (jalaali.day jy jm jd)) ↔
        0 ≤ host.offset := by
  have digits : ∀ c : Char, c.isDigit = true → decide (c = '-') = false := by
    intro c digit
    rw [decide_eq_false_iff_not]
    rintro rfl
    exact absurd digit (by decide)
  simp only [solar.written_iff valid years correct, forall_eq_or_imp, forall_eq]
  obtain ⟨y, m, d, civil, date, gregorian, late⟩ := solar.civil_plain valid years
  have plain := solar.plain valid years
  have isCivil : IsCivil ((y : ℤ), (m : ℤ), (d : ℤ)) := date ▸ (solar.civil jm jd valid).1
  have day : jalaali.day jy jm jd = daysFromCivil y m d := by
    rw [Jalaali.day, date]
  have fromJalali : getDayOfWeekFromDate jalaali host now (some (dateText (jy, jm, jd))) =
      weekday (jalaali.day jy jm jd) := by
    unfold getDayOfWeekFromDate gDate
    simp only [truthy_dateText, plain.parts (by decide) digits,
      show 1300 < jy ∧ jy < 1500 by omega, and_self, if_true, Option.map_some, Option.getD_some]
    rw [LocalHost.getDay, date, localDay_midnight host (by dsimp only; omega), day]
    rfl
  have fromGregorian : getDayOfWeekFromDate jalaali host now (some (dateText (y, m, d))) =
      weekday (if 0 ≤ host.offset then jalaali.day jy jm jd else jalaali.day jy jm jd - 1) := by
    unfold getDayOfWeekFromDate gDate
    simp only [truthy_dateText, gregorian.parts (by decide) digits,
      show ¬(1300 < y ∧ y < 1500) by omega, if_false, gregorian.newDate isCivil, Option.map_some,
      Option.getD_some]
    rw [LocalHost.getDay, localDay_mul, ← day]
    rfl
  rw [date, fromJalali, fromGregorian, and_iff_left rfl, weekday_eq_iff]
  split_ifs <;> omega

theorem Solar.getActiveWeek_written (host : LocalHost)
    (now : Instant) {s : String} (written : Written jalaali (jalaali.day jy jm jd) s) :
    getActiveWeekFromDate jalaali host now (some s) = .ok (activeWeek jalaali host jy jm jd) := by
  obtain ⟨month, first, -⟩ := (solar.toCounts.valid jm jd).mp valid
  obtain ⟨text, date⟩ := solar.jalaliDate_written valid years correct host written
  unfold getActiveWeekFromDate
  simp only [text, date, bind, Except.bind]
  rw [if_neg (by omega)]
  rfl

/-- The browser knows the week of either text. -/
theorem Solar.agrees_correct_iff
    (now now' : Instant) :
    Agrees jalaali host browser now now' (jalaali.day jy jm jd) ↔ 0 ≤ host.offset := by
  rw [← solar.getDayOfWeek_written valid years correct now]
  refine and_iff_left ⟨activeWeek jalaali host jy jm jd, fun s written =>
    ⟨solar.getActiveWeek_written valid years correct host now written, ?_⟩⟩
  unfold getCurrentJalaliWeekInfo
  simp only [solar.browser_written valid years correct written now', bind, Except.bind]
  exact ⟨_, rfl, solar.activeWeek_eq valid (by omega)⟩

end

end

/-! ### The ends of a year -/

/-- A year begins with an odd week. -/
theorem Solar.week_first (late : 1300 ≤ jy) :
    activeWeek jalaali host jy 1 1 = .one := by
  unfold activeWeek
  rw [solar.weekNumber_eq (solar.toCounts.first (by decide)) late, if_pos]
  omega

/-- It ends with one, but for a leap year that ends on a Saturday. -/
theorem Solar.week_last (late : 1300 ≤ jy) :
    activeWeek jalaali host jy 12 (jalaali.jalaaliMonthLength jy 12) =
      if jalaali.jalaaliMonthLength jy 12 = 30 ∧
        weekday (jalaali.day jy 12 (jalaali.jalaaliMonthLength jy 12)) = .saturday
      then .two else .one := by
  have valid := solar.toCounts.last (show 1 ≤ 12 ∧ 12 ≤ 12 by decide)
  have after := solar.day_eq valid
  have last := solar.last
  unfold activeWeek
  simp only [solar.weekNumber_eq valid late, weekday_eq_saturday]
  unfold dayOfYear at after
  generalize jalaali.day jy 12 (jalaali.jalaaliMonthLength jy 12) = n at *
  generalize jalaali.jalaaliMonthLength jy 12 = length at *
  rw [if_neg (by decide)] at after
  push_cast at after
  by_cases even : length = 30 ∧ (n + 4) % 7 = 6
  · rw [if_pos even, if_neg (by omega)]
  · rw [if_neg even, if_pos (by omega)]

/-- The week changes as it should at the end of a year, unless the year ends on a Friday, or a leap
year on a Saturday. -/
theorem Solar.week_newYear
    (solar' : Solar jalaali.package (jy + 1)) (late : 1300 ≤ jy) {n : ℤ}
    (day : jalaali.day jy 12 (jalaali.jalaaliMonthLength jy 12) = n) :
    (activeWeek jalaali host jy 12 (jalaali.jalaaliMonthLength jy 12) =
        activeWeek jalaali host (jy + 1) 1 1 ↔ weekday (n + 1) ≠ .saturday) ↔
    ¬(weekday n = .friday ∨ jalaali.jalaaliMonthLength jy 12 = 30 ∧ weekday n = .saturday) := by
  simp only [solar.week_last late, solar'.week_first (by omega), day, Ne, weekday_eq_saturday,
    weekday_eq_friday]
  by_cases even : jalaali.jalaaliMonthLength jy 12 = 30 ∧ (n + 4) % 7 = 6
  · rw [if_pos even]
    refine iff_of_false ?_ (not_not.mpr (.inr even))
    rw [iff_false_left (by decide), not_not]
    omega
  · rw [if_neg even, iff_true_left rfl]
    omega

end

/-- **Odd and even weeks.** The weeks alternate after a day, and its texts are read alike, exactly
if the day does not end a year on a Friday, or a leap year on a Saturday, and the clock of the
server is not behind UTC. -/
theorem weeks_alternate_iff {jalaali : JalaaliDates} {host browser : LocalHost} {jy jm jd : ℕ}
    (correct : jalaali.Correct) (years : 1301 ≤ jy ∧ jy ≤ 1498)
    (solar : Solar jalaali.package jy) (solar' : Solar jalaali.package (jy + 1))
    (valid : jalaali.isValidJalaaliDate jy jm jd = true) (now now' : Instant) :
    Alternates jalaali host now (jalaali.day jy jm jd) ∧
        Agrees jalaali host browser now now' (jalaali.day jy jm jd) ↔
      ¬((jm = 12 ∧ jd = jalaali.jalaaliMonthLength jy 12) ∧
        (weekday (jalaali.day jy jm jd) = .friday ∨
          jalaali.jalaaliMonthLength jy 12 = 30 ∧ weekday (jalaali.day jy jm jd) = .saturday)) ∧
      0 ≤ host.offset := by
  rw [solar.agrees_correct_iff valid ⟨years.1, by omega⟩ correct]
  refine and_congr_left' ?_
  obtain ⟨jy', jm', jd', valid', next, cases⟩ := solar.next valid solar'
  have week {s : String} (written : Written jalaali (jalaali.day jy jm jd) s) :=
    solar.getActiveWeek_written valid ⟨years.1, by omega⟩ correct host now written
  have known : Solar jalaali.package jy' ∧ jy ≤ jy' ∧ jy' ≤ jy + 1 := by
    split at cases
    · obtain ⟨rfl, rfl, rfl⟩ := cases
      exact ⟨solar', by omega, le_rfl⟩
    · obtain rfl := cases
      exact ⟨solar, le_rfl, by omega⟩
  have week' {s : String} (written : Written jalaali (jalaali.day jy jm jd + 1) s) :=
    known.1.getActiveWeek_written valid' (by omega) correct host now (next ▸ written)
  have alternates : Alternates jalaali host now (jalaali.day jy jm jd) ↔
      (activeWeek jalaali host jy jm jd = activeWeek jalaali host jy' jm' jd' ↔
        weekday (jalaali.day jy jm jd + 1) ≠ .saturday) := by
    constructor
    · intro alternates
      obtain ⟨w, w', here, there, changes⟩ := alternates _ _ (.inl rfl) (.inl rfl)
      rw [week (.inl rfl)] at here
      rw [week' (.inl rfl)] at there
      cases here
      cases there
      exact changes
    · exact fun changes s s' written written' =>
        ⟨_, _, week written, week' written', changes⟩
  rw [alternates]
  split at cases
  · rename_i ends
    obtain ⟨rfl, rfl⟩ := ends
    obtain ⟨rfl, rfl, rfl⟩ := cases
    exact (solar.week_newYear solar' (by omega) rfl).trans
      (not_congr (and_iff_right ⟨rfl, rfl⟩).symm)
  · rename_i within
    obtain rfl := cases
    exact iff_of_true (solar.week_next valid valid' (by omega) next) (fun ends => within ends.1)

/-! ### New year on a Saturday

The year 1404 ended on Friday, 20 March 2026. -/

namespace Nowruz

open Rokad.Common.Khordad (monthAndDay)
open CommonYear (monthLength)

/-- The package, as far as it is asked for the years from 1404 to 1406, which have 365 days each and
begin on 21 March. -/
def calendar : JalaaliDates where
  jalaaliMonthLength _ jm := monthLength jm
  isValidJalaaliDate jy jm jd :=
    (1404 ≤ jy ∧ jy ≤ 1406) ∧ (1 ≤ jm ∧ jm ≤ 12) ∧ (1 ≤ jd ∧ jd ≤ monthLength jm)
  toGregorian jy jm jd := civilFromDays
    (daysFromCivil 2025 3 21 + (365 * (jy - 1404) + CommonYear.dayOfYear jm jd - 1 : ℕ))
  toJalaali y m d :=
    let n := daysFromCivil y m d - daysFromCivil 2025 3 21
    if 0 ≤ n ∧ n < 1095 then
      .ok (1404 + n.toNat / 365, monthAndDay (n.toNat % 365))
    else .error "Invalid Jalaali year"

theorem commonYears : CommonYears calendar 1404 (daysFromCivil 2025 3 21) where
  within := by decide
  length _ _ := rfl
  valid_iff _ _ _ := decide_eq_true_iff
  toGregorian _ _ _ := rfl
  toJalaali _ _ _ := rfl

theorem solar {jy : ℕ} (years : 1404 ≤ jy ∧ jy ≤ 1406) : Solar calendar.package jy where
  toCounts := commonYears.counts years
  early := (commonYears.months years).early
  late := (commonYears.months years).late
  last := .inl rfl

/-- The clock of Tehran. -/
def host : LocalHost where
  number _ := none
  legacy _ := none
  offset := standardOffset
  near := by decide

end Nowruz

open Nowruz

/-- The weeks alternate after the last day of Bahman 1404. -/
theorem weeks_alternate_bahman :
    Alternates calendar host 0 (calendar.day 1404 11 30) ∧
      Agrees calendar host host 0 0 (calendar.day 1404 11 30) :=
  (weeks_alternate_iff commonYears.correct (by decide) (solar (by decide)) (solar (by decide))
    (by decide) 0 0).mpr (by decide +kernel)

/-- The first Saturday of 1405 is in an odd week, as the Friday before it is. -/
theorem not_weeks_alternate : ¬ ∀ (jalaali : JalaaliDates) (host : LocalHost) (jy jm jd : ℕ),
    jalaali.Correct → (1301 ≤ jy ∧ jy ≤ 1498) → Solar jalaali.package jy →
      Solar jalaali.package (jy + 1) → jalaali.isValidJalaaliDate jy jm jd = true →
        Alternates jalaali host 0 (jalaali.day jy jm jd) := by
  intro claim
  have valid : calendar.isValidJalaaliDate 1404 12 29 = true := by decide
  have valid' : calendar.isValidJalaaliDate 1405 1 1 = true := by decide
  have next : calendar.day 1404 12 29 + 1 = calendar.day 1405 1 1 := by decide +kernel
  have alternates := claim calendar host 1404 12 29 commonYears.correct (by decide)
    (solar (by decide)) (solar (by decide)) valid
  have friday := (solar (by decide)).getActiveWeek_written valid (by decide) commonYears.correct
    host 0 (.inl rfl)
  have saturday := (solar (by decide)).getActiveWeek_written valid' (by decide) commonYears.correct
    host 0 (.inl rfl)
  obtain ⟨w, w', here, there, changes⟩ := alternates _ _ (.inl rfl) (.inl rfl)
  rw [friday] at here
  rw [next, saturday] at there
  cases here
  cases there
  exact absurd changes (by decide +kernel)

end Rokad.Attendance
