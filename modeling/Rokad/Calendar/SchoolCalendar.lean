import Rokad.Base.Expiring
import Rokad.Common.Http
import Rokad.Common.Jalali

/-!
# The school calendar

Holidays of the country and of a school, and whether a day is a working day, as
`SchoolCalendarService` has them. A date comes as an instant, as a Jalali text or as a Gregorian
one, and counts by the calendar of Tehran, whose clock is taken to be 03:30 ahead throughout. The
answer for a day is kept in Redis for 24 hours, under the school and the day.
-/

namespace Rokad.Calendar

open Rokad.Base Rokad.Common

/-! ### Tables -/

structure OfficialHoliday where
  id : Id
  /-- Days since 1970, as a column of dates holds them. -/
  date : ℤ
  titleFa : String

structure TenantHoliday where
  (id tenantId : Id)
  date : ℤ
  titleFa : String

instance : Record OfficialHoliday where
  key h := h.id
  clash a b := a.date == b.date

instance : Record TenantHoliday where
  key h := h.id
  clash a b := a.tenantId == b.tenantId && a.date == b.date

structure WorkingDayResult where
  isWorkingDay : Bool
  date : String
  reason : Option String := none
deriving DecidableEq

/-- The tables, what Redis holds and the time in milliseconds. -/
structure State where
  officialHolidays : Table OfficialHoliday := .empty
  tenantHolidays : Table TenantHoliday := .empty
  redis : Expiring String WorkingDayResult := .empty
  now : ℕ := 0

/-- What a column of dates stores of an instant, and what it returns. -/
def dbDate (t : Instant) : ℤ := t / 86400000

def ofDbDate (date : ℤ) : Instant := date * 86400000

/-! ### Dates -/

/-- Year, month and day in Tehran, as `Intl.DateTimeFormat` prints them. -/
def tehranDate (t : Instant) : ℤ × ℤ × ℤ :=
  let (y, m, d) := civilFromDays ((t + ((3 * 60 + 30) * 60) * 1000) / 86400000)
  (eraYear y, m, d)

/-- The constructors of `Date` take the years from 0 to 99 for those from 1900. -/
def fullYear (y : ℤ) : ℤ := if 0 ≤ y ∧ y ≤ 99 then 1900 + y else y

/-- `getTehranDayOfWeek(date).isFriday` -/
def isFriday (date : Instant) : Bool :=
  let (y, m, d) := tehranDate date
  let tehranDay := (daysFromCivil (fullYear y) m 1 + (d - 1) + 4) % 7
  let dayIndex := (tehranDay + 1) % 7
  dayIndex = 6

/-- A Gregorian `YYYY-MM-DD`, of a day that exists. -/
def isoDay (s : String) : Option (ℤ × ℤ × ℤ) :=
  match s.toList.splitOnP (· = '-') with
  | [y, m, d] =>
    let date : ℤ × ℤ × ℤ := (digitsValue y, digitsValue m, digitsValue d)
    if y.length = 4 ∧ m.length = 2 ∧ d.length = 2 ∧ (y ++ m ++ d).all Char.isDigit ∧
        civilFromDays (daysFromCivil date.1 date.2.1 date.2.2) = date then some date
    else none
  | _ => none

inductive DateInput where
  | date (t : Option Instant)
  | text (s : String)
deriving DecidableEq

structure DateOnly where
  dateObj : Instant
  dateStr : String
deriving DecidableEq

-- the calendar package, and what the host makes of texts that are no `YYYY-MM-DD`
variable (jalaali : Jalaali) (legacy : String → Option Instant)

/-- `new Date(s)` -/
def newDate (s : String) : Option Instant :=
  match isoDay s with
  | some (y, m, d) => some (dateUTC y m d 0)
  | none => legacy s

def DateInput.print : DateInput → String
  | .date _ => "Invalid Date"
  | .text s => s

/-- The instant that is meant. -/
def parseDate (dateInput : DateInput) : Result Instant := do
  require (dateInput ≠ .text "") (.thrown "تاریخ ورودی نامعتبر است")
  let parsedDate ←
    match dateInput with
    | .date t => pure t
    | .text s =>
      let normalizedStr := normalizePersianDigits s
      if isValidJalaliDate jalaali normalizedStr then
        match jalaliToGregorianDate jalaali normalizedStr .noon with
        | .ok t => pure (some t)
        | .error message => .error (.thrown message)
      else pure (newDate legacy s)
  orFail parsedDate (.thrown ("تاریخ وارد شده قابل پردازش نیست: " ++ dateInput.print))

/-- The day in Tehran. -/
def dateOnly (t : Instant) : DateOnly :=
  let (gy, gm, gd) := tehranDate t
  { dateObj := dateUTC (fullYear gy) gm gd 0, dateStr := dateText (gy, gm, gd) }

def normalizeDateOnly (dateInput : DateInput) : Result DateOnly := do
  let parsedDate ← parseDate jalaali legacy dateInput
  return dateOnly parsedDate

/-! ### The cache -/

def getCacheKey (tenantId : Id) (dateStr : String) : String :=
  "rokad:calendar:working-day:" ++ toString tenantId ++ ":" ++ dateStr

namespace State

variable (s : State)

/-- The value under a key that has not run out. -/
def cached (up : Bool) (key : String) : Option WorkingDayResult :=
  if up then (s.redis.get s.now key).map (·.value) else none

def cacheTtlSeconds : ℕ := 86400

def cache (up : Bool) (key : String) (result : WorkingDayResult) : State :=
  if up then { s with redis := s.redis.set key ⟨result, some (s.now + 1000 * cacheTtlSeconds)⟩ }
  else s

def uncache (up : Bool) (key : String) : State :=
  if up then { s with redis := s.redis.del key } else s

end State

/-- A failure, too, is only logged. -/
def invalidateWorkingDayCache (up : Bool) (tenantId : Id) (dateInput : DateInput) (s : State) :
    State :=
  match normalizeDateOnly jalaali legacy dateInput with
  | .ok day => s.uncache up (getCacheKey tenantId day.dateStr)
  | .error _ => s

/-! ### Working days -/

/-- What the tables say of a day. -/
def lookUp (s : State) (tenantId : Id) (day : DateOnly) : WorkingDayResult :=
  if isFriday day.dateObj then
    { isWorkingDay := false, date := day.dateStr, reason := some "تعطیلی هفتگی (جمعه)" }
  else
    match s.officialHolidays.rows.find? (·.date = dbDate day.dateObj) with
    | some officialHoliday =>
      { isWorkingDay := false, date := day.dateStr,
        reason := some ("تعطیل رسمی: " ++ officialHoliday.titleFa) }
    | none =>
      match s.tenantHolidays.rows.find? fun h =>
          h.tenantId = tenantId ∧ h.date = dbDate day.dateObj with
      | some tenantHoliday =>
        { isWorkingDay := false, date := day.dateStr,
          reason := some ("تعطیل مدرسه: " ++ tenantHoliday.titleFa) }
      | none => { isWorkingDay := true, date := day.dateStr }

def isWorkingDay (up : Bool) (tenantId : Id) (dateInput : DateInput) (s : State) :
    State × Result WorkingDayResult :=
  match normalizeDateOnly jalaali legacy dateInput with
  | .error e => (s, .error e)
  | .ok day =>
    let cacheKey := getCacheKey tenantId day.dateStr
    match s.cached up cacheKey with
    | some cached => (s, .ok cached)
    | none =>
      let result := lookUp s tenantId day
      (s.cache up cacheKey result, .ok result)

/-! ### Holidays -/

def addTenantHoliday (up : Bool) (tenantId : Id) (date : DateInput) (titleFa : String)
    (s : State) : Result State := do
  let day ← normalizeDateOnly jalaali legacy date
  match s.tenantHolidays.rows.find? fun h =>
      h.tenantId = tenantId ∧ h.date = dbDate day.dateObj with
  | some existing =>
    .error (.conflict ("برای این تاریخ قبلاً تعطیلی مدرسه ثبت شده است (" ++
      existing.titleFa ++ ")"))
  | none =>
    let holiday : TenantHoliday :=
      { id := s.tenantHolidays.fresh, tenantId, date := dbDate day.dateObj, titleFa }
    let tenantHolidays ← insertRow s.tenantHolidays holiday
    return invalidateWorkingDayCache jalaali legacy up tenantId (.text day.dateStr)
      { s with tenantHolidays }

def removeTenantHoliday (up : Bool) (tenantId holidayId : Id) (s : State) :
    Result State := do
  let holiday ← orFail ((s.tenantHolidays.find? holidayId).filter (·.tenantId = tenantId))
    (.notFound "تعطیلی مورد نظر یافت نشد")
  return invalidateWorkingDayCache jalaali legacy up tenantId
    (.date (some (ofDbDate holiday.date)))
    { s with tenantHolidays := s.tenantHolidays.deleteMany (·.id = holidayId) }

def addOfficialHoliday (date : DateInput) (titleFa : String) (s : State) :
    Result State := do
  let day ← normalizeDateOnly jalaali legacy date
  match s.officialHolidays.rows.find? (·.date = dbDate day.dateObj) with
  | some existing =>
    .error (.conflict ("تعطیل رسمی برای این تاریخ از قبل ثبت شده است (" ++ existing.titleFa ++ ")"))
  | none =>
    let holiday : OfficialHoliday :=
      { id := s.officialHolidays.fresh, date := dbDate day.dateObj, titleFa }
    let officialHolidays ← insertRow s.officialHolidays holiday
    return { s with officialHolidays }

def removeOfficialHoliday (holidayId : Id) (s : State) : Result State := do
  let _ ← orFail (s.officialHolidays.find? holidayId) (.notFound "تعطیل رسمی مورد نظر یافت نشد")
  return { s with officialHolidays := s.officialHolidays.deleteMany (·.id = holidayId) }

/-! ### Calls -/

inductive Op where
  | addTenantHoliday (tenantId : Id) (date : DateInput) (titleFa : String)
  | removeTenantHoliday (tenantId holidayId : Id)
  | addOfficialHoliday (date : DateInput) (titleFa : String)
  | removeOfficialHoliday (holidayId : Id)
  | isWorkingDay (tenantId : Id) (date : DateInput)

/-- A call, with whether Redis is up and how much time has passed since the last one. -/
structure Call where
  op : Op
  up : Bool
  elapsed : ℕ

def State.wait (s : State) (elapsed : ℕ) : State := { s with now := s.now + elapsed }

/-- The state after a change, or as it was when the change is refused. -/
def keep (s : State) (changed : Result State) : State := changed.toOption.getD s

def step (s : State) (c : Call) : State :=
  let s := s.wait c.elapsed
  match c.op with
  | .addTenantHoliday tenantId date titleFa =>
    keep s (addTenantHoliday jalaali legacy c.up tenantId date titleFa s)
  | .removeTenantHoliday tenantId holidayId =>
    keep s (removeTenantHoliday jalaali legacy c.up tenantId holidayId s)
  | .addOfficialHoliday date titleFa => keep s (addOfficialHoliday jalaali legacy date titleFa s)
  | .removeOfficialHoliday holidayId => keep s (removeOfficialHoliday holidayId s)
  | .isWorkingDay tenantId date => (isWorkingDay jalaali legacy c.up tenantId date s).1

end Rokad.Calendar
