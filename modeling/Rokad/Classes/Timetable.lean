import Rokad.Base.Sql
import Rokad.Base.Text
import Rokad.Common.Http

/-!
# The timetable

The weekly lessons of the classrooms: `createSchedule`, `updateSchedule` and `deleteSchedule` of
`ClassesService`. A lesson has one teacher, and a split one has a second teacher for every other
week. An update takes over what its request leaves out, and can push another lesson out of its slot:
it deletes that lesson first and then moves its own there, in two statements.
-/

namespace Rokad.Classes

open Rokad.Base Rokad.Common

/-! ### Tables -/

inductive DayOfWeek where
  | saturday | sunday | monday | tuesday | wednesday | thursday | friday
deriving DecidableEq

def DayOfWeek.name : DayOfWeek → String
  | saturday => "SATURDAY"
  | sunday => "SUNDAY"
  | monday => "MONDAY"
  | tuesday => "TUESDAY"
  | wednesday => "WEDNESDAY"
  | thursday => "THURSDAY"
  | friday => "FRIDAY"

structure Classroom where
  (id tenantId : Id)
  name : String := ""

structure Lesson where
  (id tenantId : Id)

/-- A teacher, with the names of the user. -/
structure TeacherProfile where
  (id tenantId : Id)
  (firstName lastName : String := "")

structure Slot where
  classroomId : Id
  dayOfWeek : DayOfWeek
  periodNumber : ℤ
deriving DecidableEq

structure ClassSchedule extends Slot where
  (id tenantId lessonId teacherId : Id)
  isSplitPeriod : Bool := false
  (secondLessonId secondTeacherId : Option Id := none)
  (startTime endTime : String)
deriving DecidableEq

instance : Record Classroom where
  key c := c.id

instance : Record Lesson where
  key l := l.id

instance : Record TeacherProfile where
  key t := t.id

/-- `@@unique([classroomId, dayOfWeek, periodNumber])` -/
instance : Record ClassSchedule where
  key s := s.id
  clash a b := a.toSlot == b.toSlot

structure Db where
  classrooms : Table Classroom := .empty
  lessons : Table Lesson := .empty
  teachers : Table TeacherProfile := .empty
  schedules : Table ClassSchedule := .empty

/-! ### Statements -/

/-- A second lesson or teacher as it reaches a statement. The empty string is not `null`: it is a
reference to a row that does not exist. -/
inductive Reference where
  | null
  | empty
  | row (id : Id)
deriving DecidableEq

namespace Reference

def ofColumn : Option Id → Reference
  | none => null
  | some id => row id

def target : Reference → Option Id
  | null => none
  | empty => none
  | row id => some id

/-- `reference || null` -/
def orNull : Option Reference → Reference
  | some (row id) => row id
  | _ => null

/-- What a foreign key takes. -/
def Admitted {α : Type} [Record α] (parent : Table α) : Reference → Prop
  | null => True
  | empty => False
  | row id => parent.has (some id) = true

instance {α : Type} [Record α] (parent : Table α) : DecidablePred (Admitted parent)
  | null => inferInstanceAs (Decidable True)
  | empty => inferInstanceAs (Decidable False)
  | row id => inferInstanceAs (Decidable (parent.has (some id) = true))

end Reference

/-- What a statement sets of a schedule; no slot leaves the slot alone. -/
structure ScheduleData where
  slot : Option Slot
  (lessonId teacherId : Id)
  isSplitPeriod : Bool
  (secondLessonId secondTeacherId : Reference)
  (startTime endTime : String)

def ScheduleData.apply (data : ScheduleData) (s : ClassSchedule) : ClassSchedule :=
  { s with
    toSlot := data.slot.getD s.toSlot
    lessonId := data.lessonId
    teacherId := data.teacherId
    isSplitPeriod := data.isSplitPeriod
    secondLessonId := data.secondLessonId.target
    secondTeacherId := data.secondTeacherId.target
    startTime := data.startTime
    endTime := data.endTime }

theorem ScheduleData.key_apply (data : ScheduleData) (s : ClassSchedule) :
    Record.key (data.apply s) = Record.key s := rfl

inductive Statement where
  | create (tenantId : Id) (slot : Slot) (data : ScheduleData)
  | update (id : Id) (data : ScheduleData)
  | delete (id : Id)

namespace Db

variable (db : Db)

/-- The foreign keys of the row that a statement is about to leave. -/
def referred (classroomId : Option Id) (data : ScheduleData) : Result Unit := do
  Common.referred db.classrooms classroomId
  Common.referred db.lessons (some data.lessonId)
  Common.referred db.teachers (some data.teacherId)
  require (data.secondLessonId.Admitted db.lessons) (.database .foreignKey)
  require (data.secondTeacherId.Admitted db.teachers) (.database .foreignKey)

end Db

def write : Statement → Db → Result (Db × ClassSchedule)
  | .create tenantId slot data, db => do
      db.referred (some slot.classroomId) data
      let row := data.apply
        { toSlot := slot, id := db.schedules.fresh, tenantId, lessonId := data.lessonId,
          teacherId := data.teacherId, startTime := data.startTime, endTime := data.endTime }
      let schedules ← insertRow db.schedules row
      return ({ db with schedules }, row)
  | .update id data, db => do
      let row ← orFail (db.schedules.find? id) (.database .recordNotFound)
      db.referred (data.slot.map (·.classroomId)) data
      let schedules ← updateRow db.schedules id data.apply data.key_apply
      return ({ db with schedules }, data.apply row)
  | .delete id, db => do
      let row ← orFail (db.schedules.find? id) (.database .recordNotFound)
      return ({ db with schedules := db.schedules.deleteMany fun s => s.id = id }, row)

/-! ### Checks -/

namespace Db

variable (db : Db) (tenantId : Id)

/-- The checks that everything named belongs to the school. -/
def verify (classroomId lessonId teacherId : Id) (isSplitPeriod : Bool)
    (secondLessonId secondTeacherId : Option Id) : Result Unit := do
  require (∃ c ∈ db.classrooms.find? classroomId, c.tenantId = tenantId)
    (.notFound "کلاس درس مورد نظر در این مدرسه یافت نشد")
  require (∃ l ∈ db.lessons.find? lessonId, l.tenantId = tenantId)
    (.notFound "درس مورد نظر در این مدرسه یافت نشد")
  require (∃ t ∈ db.teachers.find? teacherId, t.tenantId = tenantId)
    (.notFound "دبیر مورد نظر در این مدرسه یافت نشد")
  if isSplitPeriod then
    require (∀ id ∈ secondLessonId, ∃ l ∈ db.lessons.find? id, l.tenantId = tenantId)
      (.notFound "درس دوم مورد نظر در این مدرسه یافت نشد")
    require (∀ id ∈ secondTeacherId, ∃ t ∈ db.teachers.find? id, t.tenantId = tenantId)
      (.notFound "دبیر دوم مورد نظر در این مدرسه یافت نشد")

/-- The lesson that holds a slot, other than the one with this id. -/
def slotConflict (but : Option Id) (slot : Slot) : Option ClassSchedule :=
  db.schedules.rows.find? fun s => s.tenantId = tenantId ∧ some s.id ≠ but ∧ s.toSlot = slot

/-- A lesson of the teacher at this time in another classroom. -/
def teacherConflict (but : Option Id) (slot : Slot) (teacherId : Id) : Option ClassSchedule :=
  db.schedules.rows.find? fun s => s.tenantId = tenantId ∧ some s.id ≠ but ∧
    s.classroomId ≠ slot.classroomId ∧
      (s.teacherId = teacherId ∨ s.secondTeacherId = some teacherId) ∧
        s.dayOfWeek = slot.dayOfWeek ∧ s.periodNumber = slot.periodNumber

/-- The name of the teacher with this id as the lesson has it, empty if it has none. -/
def nameIn (conflict : Option ClassSchedule) (teacherId : Option Id) : String :=
  match conflict with
  | none => ""
  | some s =>
    if some s.teacherId = teacherId ∨ s.secondTeacherId = teacherId then
      (teacherId.bind db.teachers.find?).elim ""
        fun t => trim (t.firstName ++ " " ++ t.lastName)
    else ""

def classroomName (conflict : Option ClassSchedule) : Option String :=
  truthy ((conflict.bind fun s => db.classrooms.find? s.classroomId).map (·.name))

/-- No teacher of the lesson is elsewhere at that time, unless this is allowed. -/
def checkTeachers (but : Option Id) (slot : Slot) (teacherId : Id) (secondTeacherId : Option Id)
    (allowTeacherConflict : Bool) : Result Unit := do
  let teacherConflict := db.teacherConflict tenantId but slot teacherId
  let secondTeacherConflict := secondTeacherId.bind (db.teacherConflict tenantId but slot)
  let conflictingTeacher :=
    (truthy (some (db.nameIn teacherConflict (some teacherId))) <|>
      truthy (some (db.nameIn secondTeacherConflict secondTeacherId))).getD "دبیر انتخابی"
  let conflictingClassroom :=
    (db.classroomName teacherConflict <|> db.classroomName secondTeacherConflict).getD "کلاس دیگر"
  require ((teacherConflict = none ∧ secondTeacherConflict = none) ∨ allowTeacherConflict = true)
    (.conflict ("تداخل برنامه دبیر: " ++ conflictingTeacher ++
      " در این روز و زنگ کلاسی، در کلاس '" ++ conflictingClassroom ++ "' تدریس دارد"))

end Db

def requirePeriod (periodNumber : Option ℤ) : Result ℤ :=
  orFail (periodNumber.filter fun n => 1 ≤ n ∧ n ≤ 10)
    (.badRequest "شماره زنگ کلاسی باید بین ۱ تا ۱۰ باشد")

def requireSlot (conflict : Option ClassSchedule) (slot : Slot) (replaceExisting : Bool) :
    Result Unit :=
  require (conflict = none ∨ replaceExisting = true)
    (.conflict ("تداخل برنامه: در زنگ " ++ toString slot.periodNumber ++ " از روز " ++
      slot.dayOfWeek.name ++ " قبلاً درسی برای این کلاس تعریف شده است"))

/-! ### Operations -/

/-- An absent flag counts as false; a second lesson or teacher can be absent, `null` or empty. -/
structure CreateScheduleDto where
  (classroomId lessonId teacherId : Id)
  dayOfWeek : DayOfWeek
  periodNumber : ℤ
  (startTime endTime : String)
  (replaceExisting allowTeacherConflict isSplitPeriod : Bool := false)
  (secondLessonId secondTeacherId : Option Reference := none)

/-- What is absent is taken over. So is `null`, but for a period (`some none`), a second lesson or
teacher, and `isSplitPeriod`, where it counts as false. -/
structure UpdateScheduleDto where
  (classroomId lessonId teacherId : Option Id := none)
  dayOfWeek : Option DayOfWeek := none
  periodNumber : Option (Option ℤ) := none
  (startTime endTime : Option String := none)
  (replaceExisting allowTeacherConflict : Bool := false)
  isSplitPeriod : Option Bool := none
  (secondLessonId secondTeacherId : Option Reference := none)

abbrev TimetableCall := Sql Db Statement ClassSchedule Failure

namespace CreateScheduleDto

variable (dto : CreateScheduleDto)

def slot : Slot := ⟨dto.classroomId, dto.dayOfWeek, dto.periodNumber⟩

/-- `dto.isSplitPeriod ? given || null : null` -/
def second (given : Option Reference) : Reference :=
  if dto.isSplitPeriod then .orNull given else .null

def data (slot : Option Slot) : ScheduleData where
  slot
  lessonId := dto.lessonId
  teacherId := dto.teacherId
  isSplitPeriod := dto.isSplitPeriod
  secondLessonId := dto.second dto.secondLessonId
  secondTeacherId := dto.second dto.secondTeacherId
  startTime := dto.startTime
  endTime := dto.endTime

end CreateScheduleDto

/-- The checks of a creation, and the lesson that holds its slot. -/
def Db.planCreate (db : Db) (tenantId : Id) (dto : CreateScheduleDto) :
    Result (Option ClassSchedule) := do
  let second := dto.second
  db.verify tenantId dto.classroomId dto.lessonId dto.teacherId dto.isSplitPeriod
    (second dto.secondLessonId).target (second dto.secondTeacherId).target
  let existingSlot := db.slotConflict tenantId none dto.slot
  requireSlot existingSlot dto.slot dto.replaceExisting
  db.checkTeachers tenantId none dto.slot dto.teacherId (second dto.secondTeacherId).target
    dto.allowTeacherConflict
  return existingSlot

def createSchedule (tenantId : Id) (dto : CreateScheduleDto) : TimetableCall ClassSchedule := do
  let _ ← Prog.ret (requirePeriod (some dto.periodNumber))
  let db ← Sql.snapshot
  let existingSlot ← Prog.ret (db.planCreate tenantId dto)
  match existingSlot with
  | some row => Sql.perform (.update row.id (dto.data none))
  | none => Sql.perform (.create tenantId dto.slot (dto.data (some dto.slot)))

/-- The checks of an update: what it sets, and the lesson that holds its new slot. -/
def Db.planUpdate (db : Db) (tenantId scheduleId : Id) (dto : UpdateScheduleDto) :
    Result (Option ClassSchedule × ScheduleData) := do
  let existing ← orFail ((db.schedules.find? scheduleId).filter (·.tenantId = tenantId))
    (.notFound "برنامه کلاسی مورد نظر یافت نشد")
  let classroomId := dto.classroomId.getD existing.classroomId
  let lessonId := dto.lessonId.getD existing.lessonId
  let teacherId := dto.teacherId.getD existing.teacherId
  let dayOfWeek := dto.dayOfWeek.getD existing.dayOfWeek
  let isSplitPeriod := dto.isSplitPeriod.getD existing.isSplitPeriod
  let secondLessonId := if isSplitPeriod then
    dto.secondLessonId.getD (.ofColumn existing.secondLessonId) else .null
  let secondTeacherId := if isSplitPeriod then
    dto.secondTeacherId.getD (.ofColumn existing.secondTeacherId) else .null
  let periodNumber ← requirePeriod (dto.periodNumber.getD (some existing.periodNumber))
  let slot : Slot := ⟨classroomId, dayOfWeek, periodNumber⟩
  db.verify tenantId classroomId lessonId teacherId isSplitPeriod secondLessonId.target
    secondTeacherId.target
  let slotConflict := db.slotConflict tenantId (some scheduleId) slot
  requireSlot slotConflict slot dto.replaceExisting
  db.checkTeachers tenantId (some scheduleId) slot teacherId secondTeacherId.target
    dto.allowTeacherConflict
  return (slotConflict,
    { slot := some slot, lessonId, teacherId, isSplitPeriod, secondLessonId, secondTeacherId,
      startTime := (truthy dto.startTime).getD existing.startTime,
      endTime := (truthy dto.endTime).getD existing.endTime })

def updateSchedule (tenantId scheduleId : Id) (dto : UpdateScheduleDto) :
    TimetableCall ClassSchedule := do
  let db ← Sql.snapshot
  let (slotConflict, data) ← Prog.ret (db.planUpdate tenantId scheduleId dto)
  match slotConflict with
  | some row =>
    let _ ← Sql.perform (.delete row.id)
    Sql.perform (.update scheduleId data)
  | none => Sql.perform (.update scheduleId data)

def deleteSchedule (tenantId scheduleId : Id) : TimetableCall ClassSchedule := do
  let db ← Sql.snapshot
  let _ ← Prog.ret (orFail ((db.schedules.find? scheduleId).filter (·.tenantId = tenantId))
    (.notFound "برنامه کلاسی مورد نظر یافت نشد"))
  Sql.perform (.delete scheduleId)

/-! ### Calls -/

inductive Call where
  | createSchedule (tenantId : Id) (dto : CreateScheduleDto)
  | updateSchedule (tenantId scheduleId : Id) (dto : UpdateScheduleDto)
  | deleteSchedule (tenantId scheduleId : Id)

def Call.program : Call → TimetableCall ClassSchedule
  | .createSchedule tenantId dto => Classes.createSchedule tenantId dto
  | .updateSchedule tenantId scheduleId dto => Classes.updateSchedule tenantId scheduleId dto
  | .deleteSchedule tenantId scheduleId => Classes.deleteSchedule tenantId scheduleId

def Call.allowTeacherConflict : Call → Bool
  | .createSchedule _ dto => dto.allowTeacherConflict
  | .updateSchedule _ _ dto => dto.allowTeacherConflict
  | .deleteSchedule _ _ => false

/-- One call, alone. -/
def serve (db : Db) (call : Call) : Db × Result ClassSchedule :=
  call.program.run (Sql.exec write) db

end Rokad.Classes
