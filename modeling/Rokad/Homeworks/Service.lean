import Rokad.Base.Run
import Rokad.Common.Http
import Rokad.Common.Jalali

/-!
# Homework

A teacher sets a homework, students hand in their work, and the work is graded. Work handed in
again replaces what was handed in before: the row is found by the homework and the student, and
keeps its grade.
-/

namespace Rokad.Homeworks

open Rokad.Base Rokad.Common

/-! ### Tables -/

inductive SubmissionStatus where
  | pending | submitted | late | graded | resubmitRequired
deriving DecidableEq

structure User where
  id : Id

structure Classroom where
  (id tenantId : Id)

structure Lesson where
  id : Id

structure StudentProfile where
  (id tenantId userId : Id)

structure TeacherProfile where
  (id tenantId userId : Id)

/-- A lesson a teacher gives, by assignment or in the timetable. -/
structure Teaching where
  (tenantId teacherId lessonId : Id)

structure Homework where
  (id tenantId classroomId lessonId teacherId : Id)
  dueDate : Instant
  maxScore : ℚ := 20
  isGraded : Bool := true
  allowLateSubmissions : Bool := false

structure HomeworkSubmission where
  (id tenantId homeworkId studentId : Id)
  content : Option String
  attachmentUrls : List String := []
  submittedAt : Instant
  status : SubmissionStatus := .submitted
  score : Option ℚ := none
  feedback : Option String := none
  gradedAt : Option Instant := none
  gradedById : Option Id := none
deriving DecidableEq

instance : Record User := { key := (·.id) }

instance : Record Classroom := { key := (·.id) }

instance : Record Lesson := { key := (·.id) }

instance : Record StudentProfile where
  key s := s.id
  clash a b := a.userId == b.userId

instance : Record TeacherProfile where
  key t := t.id
  clash a b := a.userId == b.userId

instance : Record Homework := { key := (·.id) }

instance : Record HomeworkSubmission where
  key s := s.id
  clash a b := a.homeworkId == b.homeworkId && a.studentId == b.studentId

/-- What the calls only read. -/
structure School where
  users : Table User := .empty
  classrooms : Table Classroom := .empty
  lessons : Table Lesson := .empty
  students : Table StudentProfile := .empty
  teachers : Table TeacherProfile := .empty
  (teacherLessons classSchedules : List Teaching := [])

structure Db where
  homeworks : Table Homework := .empty
  submissions : Table HomeworkSubmission := .empty

/-! ### Requests -/

/-- A field of a request that may be left out, or be given as null. -/
abbrev Given (α : Type) := Option (Option α)

structure CreateHomeworkDto where
  (classroomId lessonId : Id)
  teacherId : Option Id := none
  dueDate : String
  maxScore : Option ℚ := none
  isGraded : Given Bool := none
  allowLateSubmissions : Option Bool := none
  publishAt : Option String := none

structure SubmitHomeworkDto where
  studentId : Option Id := none
  content : Given String := none
  attachmentUrls : Option (List String) := none

structure GradeSubmissionDto where
  score : ℚ
  feedback : Given String := none
  resubmitRequired : Option Bool := none

/-- The user of a request, a teacher or not. -/
structure Requester where
  id : Id
  isTeacher : Bool := false

/-! ### Setting a homework -/

section

variable (school : School) (tenantId : Id)

def School.teacherOf (userId : Id) : Option TeacherProfile :=
  school.teachers.rows.find? fun t => t.userId = userId ∧ t.tenantId = tenantId

def School.teaches (teacherId lessonId : Id) : Bool :=
  (school.teacherLessons ++ school.classSchedules).any fun t =>
    t.teacherId = teacherId ∧ t.lessonId = lessonId ∧ t.tenantId = tenantId

/-- The teacher a homework is filed under: a teacher's own profile, who must give the lesson; else
the one named, the requester's own, one who gives the lesson, or any. -/
def teacherFor (dto : CreateHomeworkDto) : Option Requester → Result (Option Id)
  | some ⟨userId, true⟩ => do
      let teacher ← orFail (school.teacherOf tenantId userId)
        (.forbidden "پروفایل دبیر برای این کاربر یافت نشد")
      require (school.teaches tenantId teacher.id dto.lessonId = true)
        (.forbidden "شما فقط مجاز به تعریف تکلیف برای دروس تخصیص‌یافته به خودتان هستید")
      return teacher.id
  | user =>
    return dto.teacherId <|>
      (user.bind fun u => (school.teacherOf tenantId u.id).map (·.id)) <|>
      (school.teacherLessons.find? fun t =>
        t.tenantId = tenantId ∧ t.lessonId = dto.lessonId).map (·.teacherId) <|>
      (school.teachers.rows.find? fun t => t.tenantId = tenantId).map (·.id)

/-- `new Date(text)`, with no value where it is invalid. -/
abbrev DateParser := String → Option Instant

/-- `dto.maxScore || 20` -/
def CreateHomeworkDto.maxScoreOr20 (dto : CreateHomeworkDto) : ℚ :=
  match dto.maxScore with
  | some q => if q = 0 then 20 else q
  | none => 20

def createHomework (date : DateParser) (dto : CreateHomeworkDto) (user : Option Requester)
    (db : Db) : Result Db := do
  -- the validator's `@Min(0)`
  require (∀ q ∈ dto.maxScore, 0 ≤ q) (.badRequest "maxScore must not be less than 0")
  let _ ← orFail (school.classrooms.rows.find? fun c =>
    c.id = dto.classroomId ∧ c.tenantId = tenantId) (.notFound "کلاس درس مورد نظر یافت نشد")
  let teacherId ← teacherFor school tenantId dto user
  let teacherId ← orFail teacherId
    (.badRequest "پروفایل دبیر مربوطه برای این تکلیف مشخص نشده است")
  require (∀ text ∈ dto.publishAt, (date text).isSome = true) (.thrown "Invalid time value")
  let dueDate ← orFail (date dto.dueDate) (.thrown "Invalid Date")
  let isGraded ← orFail (dto.isGraded.getD (some true)) (.thrown "isGraded must not be null")
  referred school.lessons (some dto.lessonId)
  referred school.teachers (some teacherId)
  let homeworks ← insertRow db.homeworks
    { id := db.homeworks.fresh, tenantId, classroomId := dto.classroomId, lessonId := dto.lessonId
      teacherId, dueDate, maxScore := dto.maxScoreOr20, isGraded
      allowLateSubmissions := dto.allowLateSubmissions.getD false }
  return { db with homeworks }

end

/-! ### Handing in -/

section

variable (school : School) (tenantId : Id)

def Db.homework (db : Db) (tenantId homeworkId : Id) : Option Homework :=
  (db.homeworks.find? homeworkId).filter fun h => h.tenantId = tenantId

/-- The row of the unique key `(homeworkId, studentId)` -/
def Db.submission (db : Db) (homeworkId studentId : Id) : Option HomeworkSubmission :=
  db.submissions.rows.find? fun s => s.homeworkId = homeworkId ∧ s.studentId = studentId

/-- The student a submission is for: the one the request names, else the requester's own profile,
in the school or in any. -/
def studentFor (dto : SubmitHomeworkDto) (user : Option Requester) : Option Id :=
  dto.studentId <|>
    (user.bind fun u => (school.students.rows.find? fun s =>
      s.userId = u.id ∧ s.tenantId = tenantId).map (·.id)) <|>
    user.bind fun u => (school.students.rows.find? fun s => s.userId = u.id).map (·.id)

def SubmitHomeworkDto.status (late : Bool) : SubmissionStatus := if late then .late else .submitted

/-- The `update` of the upsert: the score, the feedback and their date stay. -/
def HomeworkSubmission.resubmit (dto : SubmitHomeworkDto) (now : Instant) (late : Bool)
    (s : HomeworkSubmission) : HomeworkSubmission :=
  { s with
    content := dto.content.getD s.content
    attachmentUrls := dto.attachmentUrls.getD []
    submittedAt := now
    status := SubmitHomeworkDto.status late }

theorem HomeworkSubmission.key_resubmit (dto : SubmitHomeworkDto) (now : Instant) (late : Bool)
    (s : HomeworkSubmission) : Record.key (s.resubmit dto now late) = Record.key s := rfl

/-- The `create` of the upsert. -/
def firstSubmission (homeworkId studentId : Id) (dto : SubmitHomeworkDto) (now : Instant)
    (late : Bool) (id : Id) : HomeworkSubmission where
  id
  tenantId
  homeworkId
  studentId
  content := dto.content.getD none
  attachmentUrls := dto.attachmentUrls.getD []
  submittedAt := now
  status := SubmitHomeworkDto.status late

def Homework.isLate (h : Homework) (now : Instant) : Bool := h.dueDate < now

def upsertSubmission (homeworkId studentId : Id) (dto : SubmitHomeworkDto) (now : Instant)
    (late : Bool) (db : Db) : Result Db := do
  match db.submission homeworkId studentId with
  | some s =>
    let submissions ← updateRow db.submissions s.id (·.resubmit dto now late)
      (HomeworkSubmission.key_resubmit dto now late)
    return { db with submissions }
  | none =>
    referred school.students (some studentId)
    let submissions ← insertRow db.submissions
      (firstSubmission tenantId homeworkId studentId dto now late db.submissions.fresh)
    return { db with submissions }

def submitHomework (homeworkId : Id) (dto : SubmitHomeworkDto) (user : Option Requester)
    (now : Instant) (db : Db) : Result Db := do
  let homework ← orFail (db.homework tenantId homeworkId) (.notFound "تکلیف یافت نشد")
  let studentId ← orFail (studentFor school tenantId dto user)
    (.badRequest "پروفایل دانش‌آموزی برای این کاربر یافت نشد")
  require (¬(homework.isLate now = true ∧ homework.allowLateSubmissions = false))
    (.badRequest "مهلت تحویل این تکلیف به پایان رسیده و امکان ارسال با تاخیر فعال نیست")
  upsertSubmission school tenantId homeworkId studentId dto now (homework.isLate now) db

end

/-! ### Grading -/

def GradeSubmissionDto.status (dto : GradeSubmissionDto) : SubmissionStatus :=
  if dto.resubmitRequired = some true then .resubmitRequired else .graded

def HomeworkSubmission.grade (dto : GradeSubmissionDto) (gradedById : Id) (now : Instant)
    (s : HomeworkSubmission) : HomeworkSubmission :=
  { s with
    score := some dto.score
    feedback := dto.feedback.getD s.feedback
    status := dto.status
    gradedAt := some now
    gradedById := some gradedById }

theorem HomeworkSubmission.key_grade (dto : GradeSubmissionDto) (gradedById : Id) (now : Instant)
    (s : HomeworkSubmission) : Record.key (s.grade dto gradedById now) = Record.key s := rfl

/-- A submission of the school, with its homework. -/
def Db.toGrade (db : Db) (tenantId submissionId : Id) :
    Option (HomeworkSubmission × Homework) := do
  let s ← (db.submissions.find? submissionId).filter fun s => s.tenantId = tenantId
  let h ← db.homeworks.find? s.homeworkId
  return (s, h)

def gradeSubmission (school : School) (tenantId submissionId gradedById : Id)
    (dto : GradeSubmissionDto) (now : Instant) (db : Db) : Result Db := do
  -- the validator's `@Min(0)`
  require (0 ≤ dto.score) (.badRequest "score must not be less than 0")
  let (_, homework) ← orFail (db.toGrade tenantId submissionId)
    (.notFound "پاسخ ارسالی یافت نشد")
  require (dto.score ≤ homework.maxScore)
    (.badRequest "نمره نمی‌تواند بیشتر از سقف نمره باشد")
  referred school.users (some gradedById)
  let submissions ← updateRow db.submissions submissionId (·.grade dto gradedById now)
    (HomeworkSubmission.key_grade dto gradedById now)
  return { db with submissions }

/-! ### Runs -/

inductive Call where
  | createHomework (tenantId : Id) (dto : CreateHomeworkDto) (user : Option Requester)
  | submitHomework (tenantId homeworkId : Id) (dto : SubmitHomeworkDto) (user : Requester)
      (now : Instant)
  | gradeSubmission (tenantId submissionId gradedById : Id) (dto : GradeSubmissionDto)
      (now : Instant)

/-- One call; one that fails leaves the database as it was. -/
def step (date : DateParser) (school : School) (db : Db) : Call → Db
  | .createHomework tenantId dto user =>
    settled db (createHomework school tenantId date dto user db)
  | .submitHomework tenantId homeworkId dto user now =>
    settled db (submitHomework school tenantId homeworkId dto (some user) now db)
  | .gradeSubmission tenantId submissionId gradedById dto now =>
    settled db (gradeSubmission school tenantId submissionId gradedById dto now db)

end Rokad.Homeworks
