import Rokad.Gradebook.Service

/-!
# The recording of grades

`recordBulkGrades` and `recordBulkPodmanGrades` of `GradebookService`. A batch names its students
by the id of their profile, of an enrollment or of their user. A grade is found again by its class,
lesson, student, kind and day, a podman grade by its podman, student and attempt; what is found is
written over, and the rest is created, in one transaction.

The columns a batch is validated against are fields of its DTO.
-/

namespace Rokad.Gradebook

open Rokad.Base Rokad.Common

/-- What the host makes of the text of a date, and the days of its local time: each day lasts from
what `setHours(0, 0, 0, 0)` gives to what `setHours(23, 59, 59, 999)` gives. -/
structure HostClock where
  parse : String → Option Instant
  (startOfDay endOfDay : Instant → Instant)
  day : Instant → ℤ
  mem_day : ∀ t u, startOfDay t ≤ u ∧ u ≤ endOfDay t ↔ day u = day t

theorem mem_day_ahead (offset t u : ℤ) :
    t - (t + offset) % 86400000 ≤ u ∧ u ≤ t - (t + offset) % 86400000 + 86399999 ↔
      (u + offset) / 86400000 = (t + offset) / 86400000 := by
  omega

/-- A clock that is ahead of UTC by `offset` milliseconds. -/
def HostClock.ahead (parse : String → Option Instant) (offset : ℤ) : HostClock where
  parse
  startOfDay t := t - (t + offset) % 86400000
  endOfDay t := t - (t + offset) % 86400000 + 86399999
  day t := (t + offset) / 86400000
  mem_day := mem_day_ahead offset

/-! ### Batches -/

structure BulkRecordGradeItemDto where
  studentId : Id
  score : ℚ
  description : Option String := none
  nonneg : 0 ≤ score

structure BulkRecordGradeDto where
  (academicYearId termId : Option Id := none)
  (classroomId lessonId : Id)
  (teacherId examId : Option Id := none)
  gradeType : GradeType
  title : String
  (maxScore weight : Option ℚ := none)
  date : Option String := none
  grades : List BulkRecordGradeItemDto
  maxScore_mem : ∀ m ∈ maxScore, 1 ≤ m ∧ m ≤ 100
  weight_min : ∀ w ∈ weight, 1 / 10 ≤ w

structure BulkRecordPodmanGradeItemDto where
  studentId : Id
  continuousScore : ℚ
  competencyScore : ℤ
  notes : Option String := none
  continuous_mem : 0 ≤ continuousScore ∧ continuousScore ≤ 5
  competency_mem : competencyScore ∈ [1, 2, 3]

structure Recorded where
  message : String
  count : ℕ

/-- `x || y` for numbers -/
def nonzero (x : Option ℚ) : Option ℚ := x.filter (· ≠ 0)

/-! ### Rows -/

namespace Db

variable (db : Db)

/-- The rows that a new grade refers to. -/
structure Refers (g : GradeEntry) : Prop where
  academicYear : db.academicYears.has (some g.academicYearId) = true
  term : db.terms.has g.termId = true
  classroom : db.classrooms.has (some g.classroomId) = true
  lesson : db.lessons.has (some g.lessonId) = true
  student : db.students.has (some g.studentId) = true
  teacher : db.teachers.has (some g.teacherId) = true
  exam : db.exams.has g.examId = true
  recordedBy : db.users.has (some g.recordedById) = true

instance (g : GradeEntry) : Decidable (db.Refers g) :=
  decidable_of_iff
    (db.academicYears.has (some g.academicYearId) = true ∧ db.terms.has g.termId = true ∧
      db.classrooms.has (some g.classroomId) = true ∧ db.lessons.has (some g.lessonId) = true ∧
      db.students.has (some g.studentId) = true ∧ db.teachers.has (some g.teacherId) = true ∧
      db.exams.has g.examId = true ∧ db.users.has (some g.recordedById) = true)
    ⟨fun ⟨a, b, c, d, e, f, g, h⟩ => ⟨a, b, c, d, e, f, g, h⟩,
      fun ⟨a, b, c, d, e, f, g, h⟩ => ⟨a, b, c, d, e, f, g, h⟩⟩

def createGrade (row : GradeEntry) : Result Db :=
  if present : db.Refers row then
    match inserted : db.grades.insert { row with id := db.grades.fresh } with
    | none => .error (.database .uniqueConstraint)
    | some grades => .ok
        { db with
          grades
          foreignKeys :=
            { db.foreignKeys with
              grade_lesson := db.foreignKeys.grade_lesson.insert_child inserted present.lesson
              grade_student :=
                db.foreignKeys.grade_student.insert_child inserted present.student } }
  else .error (.database .foreignKey)

/-- What an update of a grade sets. -/
structure GradeUpdate where
  (score maxScore : ℚ)
  title : String
  description : Option String
  weight : ℚ
  recordedById : Id

/-- An undefined description leaves the one there is. -/
def GradeUpdate.write (data : GradeUpdate) (g : GradeEntry) : GradeEntry :=
  { g with
    score := data.score
    maxScore := data.maxScore
    title := data.title
    description := data.description <|> g.description
    weight := data.weight
    recordedById := data.recordedById }

def updateGrade (id : Id) (data : GradeUpdate) : Result Db :=
  if db.users.has (some data.recordedById) then
    match updated : db.grades.update id data.write (fun _ => rfl) with
    | none => .error (.database .recordNotFound)
    | some grades => .ok
        { db with
          grades
          foreignKeys :=
            { db.foreignKeys with
              grade_lesson := db.foreignKeys.grade_lesson.update_child updated fun _ kept => kept
              grade_student :=
                db.foreignKeys.grade_student.update_child updated fun _ kept => kept } }
  else .error (.database .foreignKey)

end Db

/-! ### Students and teachers -/

section

variable (clock : HostClock) (now : Instant) (db : Db) (tenantId recordedById : Id)

/-- The id of a profile, of an enrollment or of a user. -/
def resolveStudentId (studentId : Id) : Id :=
  match db.students.find? studentId with
  | some _ => studentId
  | none =>
    match db.enrollments.find? studentId with
    | some enrollment => enrollment.studentId
    | none => ((db.studentOfUser tenantId studentId).map (·.id)).getD studentId

/-- The teacher that is named, the one who records, or one of the lesson or of the school. -/
def resolveTeacherId (teacherId : Option Id) (classroomId lessonId : Id) : Option Id :=
  teacherId <|>
    (db.teachers.rows.find? fun t => t.userId = recordedById ∧ t.tenantId = tenantId).map (·.id) <|>
    (db.schedules.rows.find? fun s =>
      s.tenantId = tenantId ∧ s.classroomId = classroomId ∧ s.lessonId = lessonId).map
        (·.teacherId) <|>
    (db.teacherLessons.rows.find? fun l =>
      l.tenantId = tenantId ∧ l.lessonId = lessonId).map (·.teacherId) <|>
    (db.teachers.rows.find? fun t => t.tenantId = tenantId).map (·.id)

/-- `date ? new Date(date) : new Date()`; there may be no such date. -/
def entryDate (date : Option String) : Option Instant :=
  match date with
  | some text => clock.parse text
  | none => some now

/-! ### Grades -/

namespace BulkRecordGradeDto

variable (dto : BulkRecordGradeDto)

/-- `dto.maxScore || 20` -/
def outOf : ℚ := (nonzero dto.maxScore).getD 20

/-- A score is in bounds. -/
def Valid (item : BulkRecordGradeItemDto) : Prop := ¬ (item.score < 0 ∨ dto.outOf < item.score)
deriving Decidable

def update (item : BulkRecordGradeItemDto) (existing : GradeEntry) : Db.GradeUpdate where
  score := item.score
  maxScore := dto.outOf
  title := dto.title
  description := item.description
  weight := (nonzero dto.weight <|> nonzero (some existing.weight)).getD 1
  recordedById

/-- The entry that the transaction finds for the student and the day. -/
def existing (studentId : Id) (date : Instant) : Option GradeEntry :=
  db.grades.rows.find? fun g =>
    g.tenantId = tenantId ∧ g.classroomId = dto.classroomId ∧ g.lessonId = dto.lessonId ∧
      g.studentId = studentId ∧ g.gradeType = dto.gradeType ∧
      clock.startOfDay date ≤ g.date ∧ g.date ≤ clock.endOfDay date

def create (academicYearId teacherId : Id) (studentId : Id) (date : Instant)
    (item : BulkRecordGradeItemDto) : GradeEntry where
  id := 0
  tenantId
  academicYearId
  termId := dto.termId
  classroomId := dto.classroomId
  lessonId := dto.lessonId
  studentId
  teacherId
  examId := dto.examId
  gradeType := dto.gradeType
  title := dto.title
  score := item.score
  maxScore := dto.outOf
  weight := (nonzero dto.weight).getD 1
  date
  description := item.description
  recordedById

/-- The body of the loop. -/
def record (academicYearId : Id) (teacherId : Option Id) (date : Option Instant)
    (item : BulkRecordGradeItemDto) : Result Db :=
  let studentId := resolveStudentId db tenantId item.studentId
  match date with
  | none => .error (.thrown "Invalid Date")
  | some date =>
    match dto.existing clock db tenantId studentId date with
    | some existing => db.updateGrade existing.id (dto.update recordedById item existing)
    | none =>
      match teacherId with
      | none => .error (.database .foreignKey)
      | some teacherId => db.createGrade
          (dto.create tenantId recordedById academicYearId teacherId studentId date item)

end BulkRecordGradeDto

def recordBulkGrades (dto : BulkRecordGradeDto) : Result (Db × Recorded) := do
  let classroom ← orFail ((db.classrooms.find? dto.classroomId).filter (·.tenantId = tenantId))
    (.notFound "کلاس مورد نظر یافت نشد")
  let _ ← orFail ((db.lessons.find? dto.lessonId).filter (·.tenantId = tenantId))
    (.notFound "درس مورد نظر یافت نشد")
  match dto.grades.find? fun item => ¬ dto.Valid item with
  | some item => .error (.badRequest ("نمره نامعتبر برای دانش‌آموز " ++ toString item.studentId ++
      ". نمره باید بین ۰ تا " ++ (Number.finite dto.outOf).toString ++ " باشد. نمره ارسالی: " ++
      (Number.finite item.score).toString))
  | none => pure ()
  let teacherId := resolveTeacherId db tenantId recordedById dto.teacherId dto.classroomId
    dto.lessonId
  let db ← inTurn (fun db => dto.record clock db tenantId recordedById
      (dto.academicYearId.getD classroom.academicYearId) teacherId (entryDate clock now dto.date))
    db dto.grades
  return (db, {
    message := "تعداد " ++ toString dto.grades.length ++ " نمره با موفقیت در دفتر نمرات ثبت گردید"
    count := dto.grades.length })

end

/-! ### Podman grades -/

namespace Db

variable (db : Db)

/-- The rows that a new podman grade refers to. -/
structure RefersPodman (g : PodmanGrade) : Prop where
  academicYear : db.academicYears.has (some g.academicYearId) = true
  classroom : db.classrooms.has (some g.classroomId) = true
  lesson : db.lessons.has (some g.lessonId) = true
  podman : db.podmans.has (some g.podmanId) = true
  student : db.students.has (some g.studentId) = true
  teacher : db.teachers.has (some g.teacherId) = true
  recordedBy : db.users.has (some g.recordedById) = true

instance (g : PodmanGrade) : Decidable (db.RefersPodman g) :=
  decidable_of_iff
    (db.academicYears.has (some g.academicYearId) = true ∧
      db.classrooms.has (some g.classroomId) = true ∧ db.lessons.has (some g.lessonId) = true ∧
      db.podmans.has (some g.podmanId) = true ∧ db.students.has (some g.studentId) = true ∧
      db.teachers.has (some g.teacherId) = true ∧ db.users.has (some g.recordedById) = true)
    ⟨fun ⟨a, b, c, d, e, f, g⟩ => ⟨a, b, c, d, e, f, g⟩,
      fun ⟨a, b, c, d, e, f, g⟩ => ⟨a, b, c, d, e, f, g⟩⟩

def createPodmanGrade (row : PodmanGrade) : Result Db :=
  if present : db.RefersPodman row then
    match inserted : db.podmanGrades.insert { row with id := db.podmanGrades.fresh } with
    | none => .error (.database .uniqueConstraint)
    | some podmanGrades => .ok
        { db with
          podmanGrades
          foreignKeys :=
            { db.foreignKeys with
              podmanGrade_lesson :=
                db.foreignKeys.podmanGrade_lesson.insert_child inserted present.lesson
              podmanGrade_podman :=
                db.foreignKeys.podmanGrade_podman.insert_child inserted present.podman
              podmanGrade_student :=
                db.foreignKeys.podmanGrade_student.insert_child inserted present.student } }
  else .error (.database .foreignKey)

end Db

namespace BulkRecordPodmanGradeItemDto

variable (item : BulkRecordPodmanGradeItemDto)

/-- Of twenty: the continuous score and five times the competency. -/
def finalScore : Number :=
  round2 ((Number.finite item.continuousScore).add
    ((Number.finite item.competencyScore).mul (.finite 5)))

end BulkRecordPodmanGradeItemDto

end Rokad.Gradebook
