import Rokad.Common.Http
import Rokad.Common.Jalali

/-!
# Attendance of a class

The marks of `AttendanceService`, and its `getDateVariants`. A mark is kept under the date as it was
written, in the Jalali or the Gregorian calendar; who asks for a class is shown the marks under both.
The calendars are told apart by the year.
-/

namespace Rokad.Attendance

open Rokad.Base Rokad.Common

/-! ### Tables -/

inductive AttendanceStatus where
  | present | absent | tardy | excusedAbsent | expelled
deriving DecidableEq

inductive DisciplinaryRewardType where
  | positive | negative | warning | homeworkIncomplete | excellent | none
deriving DecidableEq

structure ClassEnrollment where
  (id tenantId classroomId studentId : Id)
  status : EnrollmentStatus := .active

structure StudentAttendance where
  (id tenantId academicYearId classroomId : Id)
  (lessonId scheduleId : Option Id := none)
  studentId : Id
  date : String
  periodNumber : ℤ
  status : AttendanceStatus
  delayMinutes : ℕ := 0
  reason : Option String := none
  oralGrade : Option ℚ := none
  rewardDisciplineType : Option DisciplinaryRewardType := none
  (rewardDisciplineNote sessionNote : Option String := none)
  recordedById : Id

instance : Record ClassEnrollment where
  key e := e.id
  clash a b := a.classroomId == b.classroomId && a.studentId == b.studentId

/-- The columns of the unique constraint. -/
def StudentAttendance.place (r : StudentAttendance) : Id × Id × Id × String × ℤ :=
  (r.tenantId, r.classroomId, r.studentId, r.date, r.periodNumber)

instance : Record StudentAttendance where
  key r := r.id
  clash a b := a.place == b.place

structure Db where
  classEnrollments : Table ClassEnrollment := .empty
  studentAttendances : Table StudentAttendance := .empty

/-! ### Dates -/

-- the calendar package, and what `Number` makes of texts that are no digits
variable (jalaali : JalaaliDates) (host : String → Option ℕ)

/-- `Number(part)`, or none for what is no number. -/
def number (part : List Char) : Option ℕ :=
  if part ≠ [] ∧ part.all Char.isDigit then some (digitsValue part) else host (String.ofList part)

/-- `clean.split('-').map(Number)`, where these are three numbers. -/
def dateParts (clean : String) : Option (ℕ × ℕ × ℕ) :=
  match (clean.toList.splitOnP (· = '-')).map (number host) with
  | [some y, some m, some d] => some (y, m, d)
  | _ => none

def getDateVariants (dateStr : String) : Result (List String) :=
  if dateStr = "" then .ok []
  else
    let clean := trim dateStr
    match dateParts host clean with
    | none => .ok [clean]
    | some (y, m, d) =>
      if 1800 < y then
        match jalaali.toJalaali y m d with
        | .ok (jy, jm, jd) => .ok [clean, dateText (jy, jm, jd)].dedup
        | .error message => .error (.thrown message)
      else if 1300 < y ∧ y < 1500 then .ok [clean, dateText (jalaali.toGregorian y m d)].dedup
      else .ok [clean]

end Rokad.Attendance
