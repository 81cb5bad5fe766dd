import Rokad.Base.Run
import Rokad.Common.Http
import Rokad.Common.Jalali

/-!
# Coaching

A student is linked to a coach, and four sessions are put in the calendar. The student may ask for
an extra session, and the coach answers. None of the calls is a transaction: what was written
before a statement fails stays.
-/

namespace Rokad.Coaching

open Rokad.Base Rokad.Common

/-! ### Tables -/

inductive CoachLinkStatus where
  | active | inactive
deriving DecidableEq

inductive CoachingSessionType where
  | regular | extra
deriving DecidableEq

inductive CoachingRequestStatus where
  | pending | approved | rejected
deriving DecidableEq

structure User where
  id : Id

structure StudentCoachLink where
  (id tenantId studentId coachId : Id)
  status : CoachLinkStatus := .active
  startDate : Instant
deriving DecidableEq

/-- A session. Of an extra session the model remembers the request it was created for, which the
database does not. -/
structure CoachingSession where
  (id tenantId studentId coachId : Id)
  sessionType : CoachingSessionType := .regular
  scheduledDate : Instant
  createdFor : Option Id := none
deriving DecidableEq

structure CoachingExtraRequest where
  (id tenantId studentId coachId : Id)
  status : CoachingRequestStatus := .pending
  scheduledDate : Option Instant := none

instance : Record User := { key := (·.id) }

instance : Record StudentCoachLink where
  key l := l.id
  clash a b := a.tenantId == b.tenantId && a.studentId == b.studentId && a.status == b.status
  clash_comm a b := by
    rw [Bool.beq_comm (a := a.tenantId), Bool.beq_comm (a := a.studentId), BEq.comm (a := a.status)]

instance : Record CoachingSession := { key := (·.id) }

instance : Record CoachingExtraRequest := { key := (·.id) }

structure Db where
  users : Table User := .empty
  links : Table StudentCoachLink := .empty
  sessions : Table CoachingSession := .empty
  requests : Table CoachingExtraRequest := .empty

/-! ### The calendar -/

/-- The clock of the host: its time zone, what `new Date` reads from a text, and the hours and
minutes that `setHours` takes from a text `hh:mm`, where they make a date. -/
structure Host where
  offset : ℤ
  date : String → Option Instant
  hoursMinutes : String → Option (ℤ × ℤ)

def millisOfDay : ℤ := 86400000

/-- The local day of a moment, counted from 1970-01-01, a Thursday. -/
def Host.localDay (x : Host) (t : Instant) : ℤ := (t + x.offset) / millisOfDay

/-- `getDay()`: Sunday is 0. -/
def getDay (day : ℤ) : ℤ := (day + 4) % 7

/-- `while (cursor.getDay() !== jsTargetDay) cursor.setDate(cursor.getDate() + 1)` -/
def walk (jsTargetDay : ℤ) : ℕ → ℤ → ℤ
  | 0, day => day
  | steps + 1, day => if getDay day = jsTargetDay then day else walk jsTargetDay steps (day + 1)

/-- The day of the slot from today on, at its time; for the slots Saturday is 0. -/
def Host.firstSlot (x : Host) (now : Instant) (slotDayOfWeek : ℤ) (time : ℤ × ℤ) : Instant :=
  let jsTargetDay := (slotDayOfWeek + 6) % 7
  walk jsTargetDay 7 (x.localDay now) * millisOfDay - x.offset + time.1 * 3600000 + time.2 * 60000

structure AssignCoachDto where
  (studentId coachId : Id)
  slotDayOfWeek : Option ℤ := none
  slotStartTime : Option String := none

/-- Four sessions, two weeks apart. -/
def Host.slots (x : Host) (now : Instant) (dto : AssignCoachDto) : Option (List Instant) :=
  (x.hoursMinutes ((truthy dto.slotStartTime).getD "10:20")).map fun time =>
    (List.range 4).map fun i =>
      x.firstSlot now (dto.slotDayOfWeek.getD 0) time + i * 14 * millisOfDay

/-! ### Assigning a coach -/

def StudentCoachLink.deactivate (l : StudentCoachLink) : StudentCoachLink :=
  { l with status := .inactive }

theorem StudentCoachLink.key_deactivate (l : StudentCoachLink) :
    Record.key l.deactivate = Record.key l := rfl

/-- The link of a student in a school with a status, by the unique key. -/
def Db.link (db : Db) (tenantId studentId : Id) (status : CoachLinkStatus) :
    Option StudentCoachLink :=
  db.links.rows.find? fun l =>
    l.tenantId = tenantId ∧ l.studentId = studentId ∧ l.status = status

/-- The update of the active link. It has no result where the student has an inactive one. -/
def Db.deactivate (db : Db) (tenantId studentId : Id) : Result Db :=
  match db.link tenantId studentId .active with
  | none => .ok db
  | some l => do
      let links ← updateRow db.links l.id (·.deactivate) StudentCoachLink.key_deactivate
      return { db with links }

def newLink (tenantId : Id) (dto : AssignCoachDto) (now : Instant) (id : Id) :
    StudentCoachLink where
  id
  tenantId
  studentId := dto.studentId
  coachId := dto.coachId
  startDate := now

def Db.createLink (db : Db) (tenantId : Id) (dto : AssignCoachDto) (now : Instant) :
    Result Db := do
  referred db.users (some dto.studentId)
  referred db.users (some dto.coachId)
  let links ← insertRow db.links (newLink tenantId dto now db.links.fresh)
  return { db with links }

def regularSession (tenantId : Id) (dto : AssignCoachDto) (scheduledDate : Instant) (id : Id) :
    CoachingSession where
  id
  tenantId
  studentId := dto.studentId
  coachId := dto.coachId
  scheduledDate

/-- A session of the four, unless there is one at that time. -/
def Db.addRegular (tenantId : Id) (dto : AssignCoachDto) (db : Db) (date : Instant) : Db :=
  if db.sessions.rows.any fun s => s.tenantId = tenantId ∧ s.studentId = dto.studentId ∧
      s.coachId = dto.coachId ∧ s.scheduledDate = date then
    db
  else
    settled db (do
      let sessions ← insertRow db.sessions
        (regularSession tenantId dto date db.sessions.fresh)
      return { db with sessions })

def generateUpcomingBiweeklySessions (tenantId : Id) (dto : AssignCoachDto)
    (dates : List Instant) (db : Db) : Db :=
  dates.foldl (Db.addRegular tenantId dto) db

/-- What stays of the call, and how it fails. -/
def assignCoach (x : Host) (tenantId : Id) (dto : AssignCoachDto) (now : Instant) (db : Db) :
    Db × Option Failure :=
  match db.deactivate tenantId dto.studentId with
  | .error e => (db, some e)
  | .ok db =>
    match db.createLink tenantId dto now with
    | .error e => (db, some e)
    | .ok db =>
      match x.slots now dto with
      | none => (db, some (.thrown "Invalid Date"))
      | some dates => (generateUpcomingBiweeklySessions tenantId dto dates db, none)

/-! ### Extra sessions -/

def requestExtraSession (tenantId studentId : Id) (db : Db) : Result Db := do
  let activeLink ← orFail (db.link tenantId studentId .active)
    (.badRequest ("برای شما هنوز کوچ یا مربی تخصیص داده نشده است. " ++
      "لطفاً با معاونت یا مدیر مدرسه تماس بگیرید."))
  let requests ← insertRow db.requests
    { id := db.requests.fresh, tenantId, studentId, coachId := activeLink.coachId }
  return { db with requests }

inductive RespondStatus where
  | approved | rejected

structure RespondExtraRequestDto where
  status : RespondStatus
  scheduledDate : Option String := none

def CoachingExtraRequest.approve (date : Instant) (r : CoachingExtraRequest) :
    CoachingExtraRequest := { r with status := .approved, scheduledDate := some date }

def CoachingExtraRequest.reject (r : CoachingExtraRequest) : CoachingExtraRequest :=
  { r with status := .rejected }

theorem CoachingExtraRequest.key_approve (date : Instant) (r : CoachingExtraRequest) :
    Record.key (r.approve date) = Record.key r := rfl

theorem CoachingExtraRequest.key_reject (r : CoachingExtraRequest) :
    Record.key r.reject = Record.key r := rfl

def extraSession (tenantId coachId : Id) (r : CoachingExtraRequest) (date : Instant) (id : Id) :
    CoachingSession where
  id
  tenantId
  studentId := r.studentId
  coachId
  sessionType := .extra
  scheduledDate := date
  createdFor := some r.id

def Db.request (db : Db) (tenantId requestId : Id) : Option CoachingExtraRequest :=
  (db.requests.find? requestId).filter fun r => r.tenantId = tenantId

/-- The request is found, so its update goes through once the session is created. -/
def respondToExtraRequest (x : Host) (tenantId coachId requestId : Id)
    (dto : RespondExtraRequestDto) (db : Db) : Result Db := do
  let request ← orFail (db.request tenantId requestId) (.notFound "درخواست مورد نظر یافت نشد")
  match dto.status with
  | .approved =>
    let text ← orFail (truthy dto.scheduledDate)
      (.badRequest "برای تایید درخواست، تعیین تاریخ و ساعت جلسه الزامی است")
    let date ← orFail (x.date text) (.thrown "Invalid Date")
    referred db.users (some coachId)
    let sessions ← insertRow db.sessions
      (extraSession tenantId coachId request date db.sessions.fresh)
    let requests ← updateRow db.requests requestId (·.approve date)
      (CoachingExtraRequest.key_approve date)
    return { db with sessions, requests }
  | .rejected =>
    let requests ← updateRow db.requests requestId (·.reject) CoachingExtraRequest.key_reject
    return { db with requests }

/-! ### Runs -/

inductive Call where
  | assignCoach (tenantId : Id) (dto : AssignCoachDto) (now : Instant)
  | requestExtraSession (tenantId studentId : Id)
  | respondToExtraRequest (tenantId coachId requestId : Id) (dto : RespondExtraRequestDto)

def step (x : Host) (db : Db) : Call → Db
  | .assignCoach tenantId dto now => (assignCoach x tenantId dto now db).1
  | .requestExtraSession tenantId studentId =>
    settled db (requestExtraSession tenantId studentId db)
  | .respondToExtraRequest tenantId coachId requestId dto =>
    settled db (respondToExtraRequest x tenantId coachId requestId dto db)

end Rokad.Coaching
