import Rokad.Attendance.Service
import Rokad.Base.Doubles
import Rokad.Gradebook.Recording
import Rokad.Homeworks.Service

/-!
# The dossier of a student

`getStudentSubjectDossier` of `GradebookService`: what is recorded of a student in a class, for one
lesson or for all, with an overall score out of twenty. The student is named by the id of the
profile, of an enrollment or of the user. Attendance and matters are then looked up by the id of the
profile, and homework, grades and podman grades by the id that was given.

Names of persons, levels and fields are left out of the answer.
-/

namespace Rokad.Gradebook

open Rokad.Base Rokad.Common
open Rokad.Attendance (AttendanceStatus DisciplinaryRewardType)
open Rokad.Homeworks (HomeworkSubmission SubmissionStatus)

/-! ### Tables -/

structure StudentAttendance where
  (id tenantId classroomId : Id)
  lessonId : Option Id := none
  studentId : Id
  date : String
  periodNumber : Option ℤ := none
  status : AttendanceStatus := .present
  delayMinutes : ℤ := 0
  reason : Option String := none
  oralGrade : Option ℚ := none
  rewardDisciplineType : Option DisciplinaryRewardType := none
  (rewardDisciplineNote sessionNote : Option String := none)

structure Homework where
  (id tenantId classroomId lessonId : Id)
  title : String
  dueDate : Instant
  maxScore : ℚ := 20

inductive MatterType where
  | positive | negative | warning | suspension | counselingReferral
deriving DecidableEq

structure DisciplinaryMatter where
  (id tenantId studentId : Id)
  type : MatterType := .positive
  (title description : String)
  points : ℚ := 0
  actionTaken : Option String := none
  reportedById : Id
  reportedAt : Instant
  notifiedParents : Bool := false

/-- The columns of the unique constraint. -/
def StudentAttendance.place (r : StudentAttendance) : Id × Id × Id × String × Option ℤ :=
  (r.tenantId, r.classroomId, r.studentId, r.date, r.periodNumber)

/-- A null makes no two rows the same. -/
instance : Record StudentAttendance where
  key r := r.id
  clash a b := a.place == b.place && (a.periodNumber.isSome && b.periodNumber.isSome)
  clash_comm a b := by rw [Bool.beq_comm, Bool.and_comm a.periodNumber.isSome]

instance : Record Homework := byId (·.id)
instance : Record DisciplinaryMatter := byId (·.id)

/-- The gradebook, and the other tables that a dossier is made from. -/
structure School extends Db where
  attendances : Table StudentAttendance := .empty
  homeworks : Table Homework := .empty
  submissions : Table HomeworkSubmission := .empty
  matters : Table DisciplinaryMatter := .empty
  submission_student : Table.References (fun s => some s.studentId) submissions students

/-! ### Answers -/

structure Kpis (N : Type) where
  attendanceRate : N
  (totalSessions presentCount absentCount tardyCount excusedCount : ℕ)
  oralAverage : Option N
  (oralGradesCount positiveRewardsCount negativeDisciplineCount sessionPositiveRewardsCount
    sessionNegativeDisciplineCount matterPositiveCount matterNegativeCount : ℕ)
  mattersTotalPoints : N
  (totalHomeworks submittedHomeworks : ℕ)
  (homeworkAverage overallScore : Option N)

structure Session where
  id : Id
  date : String
  periodNumber : Option ℤ
  status : AttendanceStatus
  delayMinutes : ℤ
  reason : Option String
  oralGrade : Option ℚ
  rewardDisciplineType : Option DisciplinaryRewardType
  (rewardDisciplineNote sessionNote : Option String)

structure OralGrade where
  id : Id
  score : ℚ
  (title recordedAt : String)
  feedback : Option String

structure DossierHomework where
  id : Id
  title : String
  dueDate : Instant
  maxScore : ℚ
  isSubmitted : Bool
  submissionStatus : SubmissionStatus
  score : Option ℚ
  feedback : Option String
  submittedAt : Option Instant

structure DossierGrade where
  id : Id
  title : String
  gradeType : GradeType
  (score maxScore : ℚ)
  date : Instant

structure DossierPodmanGrade where
  id : Id
  podmanNumber : ℤ
  podmanTitle : String
  continuousScore : ℚ
  competencyScore : ℤ
  isPassed : Bool

/-- The sessions are shown again as `attendance`, with fewer columns. -/
structure Dossier (N : Type) where
  student : Id
  classroom : Option Classroom
  lesson : Option (Lesson × List Podman)
  kpis : Kpis N
  sessions : List Session
  oralGrades : List OralGrade
  homeworks : List DossierHomework
  gradeEntries : List DossierGrade
  podmanGrades : List DossierPodmanGrade
  matters : List DisciplinaryMatter

/-! ### Queries -/

section

variable (tenantId studentId classroomId : Id) (lessonId : Option Id)

/-- The student of a profile, of an enrollment or of a user. -/
def Db.dossierStudent (db : Db) : Option StudentProfile :=
  match (db.students.find? studentId).filter (·.tenantId = tenantId) with
  | some student => some student
  | none =>
    match (db.enrollments.find? studentId).filter (·.tenantId = tenantId) with
    | some enrollment => (db.students.find? enrollment.studentId).filter (·.tenantId = tenantId)
    | none => db.studentOfUser tenantId studentId

/-- `orderBy: [{ date: 'desc' }, { periodNumber: 'desc' }]`; a null comes first. -/
def StudentAttendance.notAfter (a b : StudentAttendance) : Bool :=
  b.date < a.date || a.date = b.date &&
    match a.periodNumber, b.periodNumber with
    | some m, some n => n ≤ m
    | none, _ => true
    | some _, none => false

/-- The marks of the lesson, and those of no lesson. -/
def School.attendanceRecords (school : School) : List StudentAttendance :=
  (school.attendances.rows.filter fun r =>
    r.tenantId = tenantId ∧ r.studentId = studentId ∧ r.classroomId = classroomId ∧
      lessonId.all fun l => r.lessonId = some l ∨ r.lessonId = none).insertionSort
        fun a b => a.notAfter b

def School.studentMatters (school : School) : List DisciplinaryMatter :=
  (school.matters.rows.filter fun m => m.tenantId = tenantId ∧ m.studentId = studentId)
    |>.insertionSort fun a b => b.reportedAt ≤ a.reportedAt

def School.homeworkList (school : School) : List Homework :=
  ((school.homeworks.rows.filter fun h =>
    h.tenantId = tenantId ∧ h.classroomId = classroomId ∧ lessonId.all (h.lessonId = ·))
      |>.insertionSort fun a b => b.dueDate ≤ a.dueDate).take 20

/-- `submissions[0]`, of those where the student is this one. -/
def School.submission (school : School) (h : Homework) : Option HomeworkSubmission :=
  school.submissions.rows.find? fun s => s.homeworkId = h.id ∧ s.studentId = studentId

def Db.gradeEntries (db : Db) : List GradeEntry :=
  (db.grades.rows.filter fun g =>
    g.tenantId = tenantId ∧ g.studentId = studentId ∧ g.classroomId = classroomId ∧
      lessonId.all (g.lessonId = ·)).insertionSort fun a b => b.date ≤ a.date

def Db.dossierPodmanGrades (db : Db) : List (PodmanGrade × Podman) :=
  ((db.podmanGrades.rows.filter fun g =>
    g.tenantId = tenantId ∧ g.studentId = studentId ∧ g.classroomId = classroomId ∧
      lessonId.all (g.lessonId = ·)).filterMap fun g =>
        (db.podmans.find? g.podmanId).map fun podman => (g, podman)).insertionSort
          fun a b => a.2.number ≤ b.2.number

end

/-! ### Numbers -/

section

variable {N : Type} (A : Arithmetic N)

/-- `total > 0 ? Math.round(((present + tardy * 0.5) / total) * 100) : 100` -/
def attendanceRate (records : List StudentAttendance) : N :=
  let presentCount := records.countP (·.status = .present)
  let tardyCount := records.countP (·.status = .tardy)
  if 0 < records.length then
    A.round (A.mul (A.div
      (A.add (A.column presentCount) (A.mul (A.column tardyCount) (A.literal (1 / 2))))
      (A.column records.length)) (A.literal 100))
  else A.literal 100

/-- The mean rounded to two decimals, of numbers if there are any. -/
def averageOf (scores : List N) : Option N :=
  if scores ≠ [] then some (A.toFixed2 (A.mean scores)) else none

/-- `(Number(sub.score) / (h.maxScore || 20)) * 20` -/
def homeworkScore (h : Homework) (score : ℚ) : N :=
  A.mul (A.div (A.column score) (A.column (if h.maxScore = 0 then 20 else h.maxScore)))
    (A.literal 20)

/-- What counts for the overall score, with its weight: attendance, oral grades, homework, and the
grades or else the podman grades. -/
def overallParts (attendance : Option N) (oralAverage homeworkAverage : Option N)
    (grades podmanGrades : List ℚ) : List (N × N) :=
  (attendance.map fun rate =>
      (A.mul (A.div rate (A.literal 100)) (A.literal 20), A.literal (15 / 100))).toList ++
    (oralAverage.map fun oral => (oral, A.literal (25 / 100))).toList ++
    (homeworkAverage.map fun homework => (homework, A.literal (2 / 10))).toList ++
    if grades ≠ [] then [(A.mean (grades.map A.column), A.literal (4 / 10))]
    else if podmanGrades ≠ [] then [(A.mean (podmanGrades.map A.column), A.literal (4 / 10))]
    else []

/-- `weightSum > 0 ? Number((scoreSum / weightSum).toFixed(2)) : null` -/
def overallScore (parts : List (N × N)) : Option N :=
  let scoreSum := A.sum (parts.map fun p => A.mul p.1 p.2)
  let weightSum := A.sum (parts.map (·.2))
  if A.isPos weightSum then some (A.toFixed2 (A.div scoreSum weightSum)) else none

end

/-! ### The dossier -/

def StudentAttendance.session (r : StudentAttendance) : Session where
  id := r.id
  date := r.date
  periodNumber := r.periodNumber
  status := r.status
  delayMinutes := r.delayMinutes
  reason := r.reason
  oralGrade := r.oralGrade
  rewardDisciplineType := r.rewardDisciplineType
  rewardDisciplineNote := r.rewardDisciplineNote
  sessionNote := r.sessionNote

def StudentAttendance.oral (r : StudentAttendance) : Option OralGrade :=
  r.oralGrade.map fun score =>
    { id := r.id
      score
      title := (truthy r.sessionNote).getD
        ("جلسه " ++ ((r.periodNumber.filter (· ≠ 0)).map toString).getD "")
      recordedAt := r.date
      feedback := r.rewardDisciplineNote }

def Homework.shown (h : Homework) (sub : Option HomeworkSubmission) : DossierHomework where
  id := h.id
  title := h.title
  dueDate := h.dueDate
  maxScore := h.maxScore
  isSubmitted := sub.any (·.status ≠ .pending)
  submissionStatus := (sub.map (·.status)).getD .pending
  score := sub.bind (·.score)
  feedback := sub.bind (·.feedback)
  submittedAt := sub.map (·.submittedAt)

def GradeEntry.shown (g : GradeEntry) : DossierGrade where
  id := g.id
  title := g.title
  gradeType := g.gradeType
  score := g.score
  maxScore := g.maxScore
  date := g.date

/-- A podman grade with its podman. -/
def shownPodmanGrade (row : PodmanGrade × Podman) : DossierPodmanGrade where
  id := row.1.id
  podmanNumber := row.2.number
  podmanTitle := row.2.title
  continuousScore := row.1.continuousScore
  competencyScore := row.1.competencyScore
  isPassed := row.1.isPassed

variable {N : Type} (A : Arithmetic N)

/-- The numbers of a dossier, from the rows that it shows. -/
def kpisOf (attendanceRecords : List StudentAttendance) (studentMatters : List DisciplinaryMatter)
    (homeworkList : List (Homework × Option HomeworkSubmission)) (gradeEntries : List GradeEntry)
    (podmanGrades : List (PodmanGrade × Podman)) : Kpis N :=
  let count (status : AttendanceStatus) := attendanceRecords.countP (·.status = status)
  let rewarded (types : List DisciplinaryRewardType) :=
    attendanceRecords.countP fun r => r.rewardDisciplineType.any (· ∈ types)
  let matters (types : List MatterType) := studentMatters.countP (·.type ∈ types)
  let totalSessions := attendanceRecords.length
  let oralGrades := attendanceRecords.filterMap (·.oralGrade)
  let rate := attendanceRate A attendanceRecords
  let oralAverage := averageOf A (oralGrades.map A.column)
  let homeworkAverage := averageOf A (homeworkList.filterMap fun (h, sub) =>
    (sub.bind (·.score)).map (homeworkScore A h))
  { attendanceRate := rate
    totalSessions
    presentCount := count .present
    absentCount := count .absent
    tardyCount := count .tardy
    excusedCount := count .excusedAbsent
    oralAverage
    oralGradesCount := oralGrades.length
    positiveRewardsCount := rewarded [.positive, .excellent] + matters [.positive]
    negativeDisciplineCount := rewarded [.negative, .warning, .homeworkIncomplete] +
      matters [.negative, .warning, .suspension]
    sessionPositiveRewardsCount := rewarded [.positive, .excellent]
    sessionNegativeDisciplineCount := rewarded [.negative, .warning, .homeworkIncomplete]
    matterPositiveCount := matters [.positive]
    matterNegativeCount := matters [.negative, .warning, .suspension]
    mattersTotalPoints := A.sum (studentMatters.map fun m => A.column m.points)
    totalHomeworks := homeworkList.length
    submittedHomeworks := homeworkList.countP fun (_, sub) => sub.any (·.status ≠ .pending)
    homeworkAverage
    overallScore := overallScore A (overallParts A
      (if 0 < totalSessions then some rate else none) oralAverage homeworkAverage
      (gradeEntries.map (·.score)) (podmanGrades.map (·.1.finalScore))) }

def getStudentSubjectDossier (school : School) (tenantId studentId classroomId : Id)
    (lessonId : Option Id) : Result (Dossier N) := do
  let student ← orFail (school.dossierStudent tenantId studentId) (.notFound "دانش‌آموز یافت نشد")
  let resolvedStudentId := student.id
  let attendanceRecords :=
    school.attendanceRecords tenantId resolvedStudentId classroomId lessonId
  let studentMatters := school.studentMatters tenantId resolvedStudentId
  -- From here on the rows are those of the id that was given.
  let homeworkList := (school.homeworkList tenantId classroomId lessonId).map fun h =>
    (h, school.submission studentId h)
  let gradeEntries := school.gradeEntries tenantId studentId classroomId lessonId
  let podmanGrades := school.dossierPodmanGrades tenantId studentId classroomId lessonId
  return {
    student := student.id
    classroom := (school.classrooms.find? classroomId).filter (·.tenantId = tenantId)
    lesson := (lessonId.bind school.lessons.find?).filter (·.tenantId = tenantId) |>.map fun l =>
      (l, (school.podmans.rows.filter (·.lessonId = l.id)).insertionSort
        fun a b => a.number ≤ b.number)
    kpis := kpisOf A attendanceRecords studentMatters homeworkList gradeEntries podmanGrades
    sessions := attendanceRecords.map (·.session)
    oralGrades := attendanceRecords.filterMap (·.oral)
    homeworks := homeworkList.map fun (h, sub) => h.shown sub
    gradeEntries := gradeEntries.map (·.shown)
    podmanGrades := podmanGrades.map shownPodmanGrade
    matters := studentMatters }

end Rokad.Gradebook
