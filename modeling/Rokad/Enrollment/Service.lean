import Rokad.Base.Sql
import Rokad.Common.Http
import Rokad.Common.Jalali

/-!
# Enrolments

`enrollStudent` and `updateClassroom` of `ClassesService`, and the enrolment steps of
`createStudent`, `updateStudent` and `bulkImportStudents` of `MembersService`. The first two check
what they have read before they write. The other three enrol within a transaction, which is one
statement here, and check nothing; a bulk import makes one transaction for each item, and goes on
when one fails.
-/

namespace Rokad.Enrollment

open Rokad.Base Rokad.Common

/-! ### Tables -/

structure AcademicYear where
  id : Id

structure Classroom where
  (id tenantId academicYearId : Id)
  (name code : String)
  capacity : ℕ := 30

structure StudentProfile where
  (id tenantId : Id)

structure ClassEnrollment where
  (id tenantId academicYearId classroomId studentId : Id)
  status : EnrollmentStatus := .active

instance : Record AcademicYear where
  key y := y.id

/-- `@@unique([tenantId, academicYearId, name])`, `@@unique([tenantId, academicYearId, code])` -/
instance : Record Classroom where
  key c := c.id
  clash a b := decide (a.tenantId = b.tenantId ∧ a.academicYearId = b.academicYearId ∧
    (a.name = b.name ∨ a.code = b.code))
  clash_comm a b := by
    simp only [eq_comm]

instance : Record StudentProfile where
  key s := s.id

/-- `@@unique([classroomId, studentId])` -/
instance : Record ClassEnrollment where
  key e := e.id
  clash a b := decide (a.classroomId = b.classroomId ∧ a.studentId = b.studentId)
  clash_comm a b := by
    simp only [eq_comm]

structure Db where
  years : Table AcademicYear := .empty
  classrooms : Table Classroom := .empty
  students : Table StudentProfile := .empty
  enrollments : Table ClassEnrollment := .empty

/-- `_count.enrollments` -/
def enrolled (enrollments : Table ClassEnrollment) (classroomId : Id) : ℕ :=
  enrollments.count (·.classroomId = classroomId)

/-! ### Statements -/

/-- What an update sets of a classroom. -/
structure ClassroomData where
  (name code : Option String := none)
  capacity : Option ℕ := none
  academicYearId : Option Id := none

def ClassroomData.apply (data : ClassroomData) (c : Classroom) : Classroom :=
  { c with
    name := data.name.getD c.name
    code := data.code.getD c.code
    capacity := data.capacity.getD c.capacity
    academicYearId := data.academicYearId.getD c.academicYearId }

theorem ClassroomData.key_apply (data : ClassroomData) (c : Classroom) :
    Record.key (data.apply c) = Record.key c := rfl

def ClassEnrollment.move (classroom : Classroom) (e : ClassEnrollment) : ClassEnrollment :=
  { e with classroomId := classroom.id, academicYearId := classroom.academicYearId }

theorem ClassEnrollment.key_move (classroom : Classroom) (e : ClassEnrollment) :
    Record.key (e.move classroom) = Record.key e := rfl

/-- The last three are the transactions of `createStudent`, `updateStudent` and one item of
`bulkImportStudents`, the last with the student that the codes of the item match, if any. -/
inductive Statement where
  | enroll (tenantId academicYearId classroomId studentId : Id)
  | updateClassroom (id : Id) (data : ClassroomData)
  | createStudent (tenantId : Id) (classroomId : Option Id)
  | updateStudent (tenantId studentId : Id) (classroomId : Option Id)
  | importStudent (tenantId : Id) (existingProfile classroomId : Option Id)

namespace Db

variable (db : Db)

def classroomOf (tenantId id : Id) : Option Classroom :=
  (db.classrooms.find? id).filter (·.tenantId = tenantId)

def studentOf (tenantId id : Id) : Option StudentProfile :=
  (db.students.find? id).filter (·.tenantId = tenantId)

/-- `classEnrollment.create` -/
def insertEnrollment (tenantId academicYearId classroomId studentId : Id) :
    Result (Db × Id) := do
  referred db.years (some academicYearId)
  referred db.classrooms (some classroomId)
  referred db.students (some studentId)
  let id := db.enrollments.fresh
  let enrollments ← insertRow db.enrollments
    { id, tenantId, academicYearId, classroomId, studentId }
  return ({ db with enrollments }, id)

/-- `classEnrollment.create` in the year of the classroom, if there is one. -/
def enrollIn (tenantId studentId : Id) (classroom : Option Classroom) :
    Result (Db × Id) :=
  match classroom with
  | none => .ok (db, studentId)
  | some c => db.insertEnrollment tenantId c.academicYearId c.id studentId

def insertStudent (tenantId : Id) : Result (Db × Id) := do
  let id := db.students.fresh
  let students ← insertRow db.students { id, tenantId }
  return ({ db with students }, id)

/-- The enrolment that an import takes for the current one. -/
def activeEnrollment (studentId : Id) : Option ClassEnrollment :=
  let enrollments := db.enrollments.rows.filter (·.studentId = studentId)
  enrollments.find? (·.status = .active) <|> enrollments.head?

end Db

def write : Statement → Db → Result (Db × Id)
  | .enroll tenantId academicYearId classroomId studentId, db =>
    db.insertEnrollment tenantId academicYearId classroomId studentId
  | .updateClassroom id data, db => do
      require (∀ n ∈ data.capacity, n < 2 ^ 31) (.database .numericOverflow)
      let _ ← data.academicYearId.elim (.ok ()) fun year => referred db.years (some year)
      let classrooms ← updateRow db.classrooms id data.apply data.key_apply
      return ({ db with classrooms }, id)
  | .createStudent tenantId classroomId, db => do
      let (db, student) ← db.insertStudent tenantId
      db.enrollIn tenantId student (classroomId.bind (db.classroomOf tenantId))
  | .updateStudent tenantId studentId classroomId, db => do
      referred db.students (some studentId)
      match classroomId.bind (db.classroomOf tenantId) with
      | none => .ok (db, studentId)
      | some c =>
        let enrollments := db.enrollments.deleteMany fun e =>
          e.studentId = studentId ∧ e.tenantId = tenantId
        Db.enrollIn { db with enrollments } tenantId studentId (some c)
  | .importStudent tenantId none classroomId, db => do
      let (db, student) ← db.insertStudent tenantId
      db.enrollIn tenantId student (classroomId.bind db.classrooms.find?)
  | .importStudent tenantId (some profile) classroomId, db => do
      referred db.students (some profile)
      match classroomId.bind db.classrooms.find? with
      | none => .ok (db, profile)
      | some classroom =>
        match db.activeEnrollment profile with
        | none => db.enrollIn tenantId profile (some classroom)
        | some enrollment =>
          if enrollment.classroomId = classroom.id then .ok (db, profile)
          else do
            let enrollments ← updateRow db.enrollments enrollment.id
              (ClassEnrollment.move classroom) (ClassEnrollment.key_move classroom)
            return ({ db with enrollments }, profile)

/-! ### Operations -/

abbrev EnrollmentCall := Sql Db Statement Id Failure

structure EnrollStudentDto where
  (studentId classroomId academicYearId : Id)

/-- An empty name, code or year counts as absent, and a capacity of `null` as 0. -/
structure UpdateClassroomDto where
  (name code : Option String := none)
  capacity : Option ℕ := none
  academicYearId : Option Id := none

/-- An item of an import: the class it names, and the student its codes match. -/
structure ImportItem where
  className : Option String := none
  existingProfile : Option Id := none

def enrollStudent (tenantId : Id) (dto : EnrollStudentDto) : EnrollmentCall Id := do
  let db ← Sql.snapshot
  let classroom ← Prog.ret (orFail (db.classroomOf tenantId dto.classroomId)
    (.notFound "کلاس درس یافت نشد"))
  Prog.ret (require (enrolled db.enrollments classroom.id < classroom.capacity)
    (.badRequest "ظرفیت کلاس تکمیل شده است"))
  let db ← Sql.snapshot
  let _ ← Prog.ret (orFail (db.studentOf tenantId dto.studentId)
    (.notFound "پروفایل دانش‌آموز یافت نشد"))
  let db ← Sql.snapshot
  Prog.ret (require (∀ e ∈ db.enrollments.rows,
      ¬ (e.classroomId = dto.classroomId ∧ e.studentId = dto.studentId))
    (.conflict "دانش‌آموز قبلاً در این کلاس ثبت‌نام شده است"))
  Sql.perform (.enroll tenantId dto.academicYearId dto.classroomId dto.studentId)

def updateClassroom (tenantId classroomId : Id) (dto : UpdateClassroomDto) :
    EnrollmentCall Id := do
  let db ← Sql.snapshot
  let classroom ← Prog.ret (orFail (db.classroomOf tenantId classroomId)
    (.notFound "کلاس مورد نظر یافت نشد"))
  let targetName := (truthy dto.name).getD classroom.name
  let targetCode := (truthy dto.code).getD classroom.code
  let targetYearId := dto.academicYearId.getD classroom.academicYearId
  if targetName ≠ classroom.name ∨ targetCode ≠ classroom.code then
    let db ← Sql.snapshot
    Prog.ret (require (∀ c ∈ db.classrooms.rows, ¬ (c.tenantId = tenantId ∧
        c.academicYearId = targetYearId ∧ c.id ≠ classroomId ∧
          (c.name = targetName ∨ c.code = targetCode)))
      (.conflict "کلاسی با این نام یا کد در این سال تحصیلی قبلاً ثبت شده است"))
  Sql.perform (.updateClassroom classroomId
    { name := (truthy dto.name).map trim
      code := (truthy dto.code).map trim
      capacity := dto.capacity
      academicYearId := dto.academicYearId })

def createStudent (tenantId : Id) (classroomId : Option Id) : EnrollmentCall Id :=
  Sql.perform (.createStudent tenantId classroomId)

def updateStudent (tenantId studentId : Id) (classroomId : Option Id) : EnrollmentCall Id := do
  let db ← Sql.snapshot
  let profile ← Prog.ret (orFail (db.studentOf tenantId studentId)
    (.notFound "پروفایل دانش‌آموز یافت نشد"))
  Sql.perform (.updateStudent tenantId profile.id classroomId)

/-- The classroom that a cell of the import names. -/
def Db.classroomNamed (db : Db) (tenantId : Id) (className : String) : Option Classroom :=
  let cleanClassName := trim className
  let englishClassName := normalizePersianDigits cleanClassName
  db.classrooms.rows.find? fun c => c.tenantId = tenantId ∧
    (includes c.name cleanClassName ∨ includes c.name englishClassName ∨
      c.code = cleanClassName ∨ c.code = englishClassName)

def bulkImportStudents (tenantId : Id) : List ImportItem → EnrollmentCall Unit
  | [] => pure ()
  | item :: items => do
      let db ← Sql.snapshot
      let classroom := (truthy item.className).bind (db.classroomNamed tenantId)
      let _ ← Sql.attempt (.importStudent tenantId item.existingProfile (classroom.map (·.id)))
      bulkImportStudents tenantId items

/-! ### Calls -/

inductive Call where
  | enrollStudent (tenantId : Id) (dto : EnrollStudentDto)
  | updateClassroom (tenantId classroomId : Id) (dto : UpdateClassroomDto)
  | createStudent (tenantId : Id) (classroomId : Option Id)
  | updateStudent (tenantId studentId : Id) (classroomId : Option Id)
  | bulkImportStudents (tenantId : Id) (items : List ImportItem)

def Call.program : Call → EnrollmentCall Unit
  | .enrollStudent tenantId dto => do
      let _ ← Enrollment.enrollStudent tenantId dto
  | .updateClassroom tenantId classroomId dto => do
      let _ ← Enrollment.updateClassroom tenantId classroomId dto
  | .createStudent tenantId classroomId => do
      let _ ← Enrollment.createStudent tenantId classroomId
  | .updateStudent tenantId studentId classroomId => do
      let _ ← Enrollment.updateStudent tenantId studentId classroomId
  | .bulkImportStudents tenantId items => Enrollment.bulkImportStudents tenantId items

end Rokad.Enrollment
