import Mathlib.Data.List.Sort
import Rokad.Base.Dict
import Rokad.Common.Http
import Rokad.Common.Jalali

/-!
# The gradebook

What the recording of grades, the report card, the podman matrix and the dossier of a student read.
Scores are the finite doubles of their columns; a lesson in podmans has `podmanCount` of them,
numbered from one. Of a year, a term, an exam and a user only the id is looked at.
-/

namespace Rokad.Gradebook

open Rokad.Base Rokad.Common

/-- A row that others refer to. -/
structure Referred where
  id : Id

structure StudentProfile where
  (id tenantId userId : Id)
deriving DecidableEq

structure TeacherProfile where
  (id tenantId userId : Id)

structure ParentProfile where
  (id tenantId userId : Id)

structure ParentStudentLink where
  (id parentId studentId : Id)

structure Classroom where
  (id tenantId academicYearId : Id)
  name : String := ""

structure ClassEnrollment where
  (id tenantId classroomId studentId : Id)

structure Lesson where
  (id tenantId : Id)
  (name code : String := "")
  unitCount : ℤ := 1
  isModular : Bool := false
  podmanCount : ℤ := 5

structure Podman where
  (id tenantId lessonId : Id)
  number : ℤ
  title : String

structure ClassSchedule where
  (id tenantId classroomId lessonId teacherId : Id)

structure TeacherLesson where
  (id tenantId teacherId lessonId : Id)

inductive GradeType where
  | classActivity | quiz | homeworkGrade | midterm | finalTerm1 | finalTerm2 | custom
deriving DecidableEq

structure GradeEntry where
  (id tenantId academicYearId : Id)
  termId : Option Id := none
  (classroomId lessonId studentId teacherId : Id)
  examId : Option Id := none
  gradeType : GradeType := .classActivity
  title : String
  score : ℚ
  maxScore : ℚ := 20
  weight : ℚ := 1
  date : Instant
  description : Option String := none
  recordedById : Id
deriving DecidableEq

structure PodmanGrade where
  (id tenantId academicYearId classroomId lessonId podmanId studentId teacherId : Id)
  continuousScore : ℚ
  competencyScore : ℤ
  finalScore : ℚ
  isPassed : Bool
  attemptType : String := "REGULAR"
  date : Instant
  notes : Option String := none
  recordedById : Id
deriving DecidableEq

section

/-- A row with its primary key and no other unique constraint a call here could break. -/
abbrev byId {α : Type} (id : α → Id) : Record α where
  key := id

instance : Record Referred := byId (·.id)
instance : Record StudentProfile := byId (·.id)
instance : Record TeacherProfile := byId (·.id)
instance : Record ParentProfile := byId (·.id)
instance : Record ParentStudentLink := byId (·.id)
instance : Record Classroom := byId (·.id)
instance : Record Lesson := byId (·.id)
instance : Record ClassSchedule := byId (·.id)
instance : Record TeacherLesson := byId (·.id)
instance : Record GradeEntry := byId (·.id)

instance : Record ClassEnrollment where
  key e := e.id
  clash a b := a.classroomId == b.classroomId && a.studentId == b.studentId

instance : Record Podman where
  key p := p.id
  clash a b := a.lessonId == b.lessonId && a.number == b.number

instance : Record PodmanGrade where
  key g := g.id
  clash a b := a.podmanId == b.podmanId && a.studentId == b.studentId &&
    a.attemptType == b.attemptType

end

structure Tables where
  (academicYears terms exams users : Table Referred := .empty)
  students : Table StudentProfile := .empty
  teachers : Table TeacherProfile := .empty
  parents : Table ParentProfile := .empty
  links : Table ParentStudentLink := .empty
  classrooms : Table Classroom := .empty
  enrollments : Table ClassEnrollment := .empty
  lessons : Table Lesson := .empty
  podmans : Table Podman := .empty
  schedules : Table ClassSchedule := .empty
  teacherLessons : Table TeacherLesson := .empty
  grades : Table GradeEntry := .empty
  podmanGrades : Table PodmanGrade := .empty

structure ForeignKeys (t : Tables) : Prop where
  link_parent : Table.References (fun l => some l.parentId) t.links t.parents
  link_student : Table.References (fun l => some l.studentId) t.links t.students
  enrollment_classroom : Table.References (fun e => some e.classroomId) t.enrollments t.classrooms
  enrollment_student : Table.References (fun e => some e.studentId) t.enrollments t.students
  podman_lesson : Table.References (fun p => some p.lessonId) t.podmans t.lessons
  grade_lesson : Table.References (fun g => some g.lessonId) t.grades t.lessons
  grade_student : Table.References (fun g => some g.studentId) t.grades t.students
  podmanGrade_lesson : Table.References (fun g => some g.lessonId) t.podmanGrades t.lessons
  podmanGrade_podman : Table.References (fun g => some g.podmanId) t.podmanGrades t.podmans
  podmanGrade_student : Table.References (fun g => some g.studentId) t.podmanGrades t.students

/-- A database: tables whose foreign keys hold. -/
structure Db extends Tables where
  foreignKeys : ForeignKeys toTables

namespace Db

/-- The id of a new row is the table's to choose. -/
def createPodman (db : Db) (row : Podman) : Result Db :=
  if present : db.lessons.has (some row.lessonId) = true then
    match inserted : db.podmans.insert { row with id := db.podmans.fresh } with
    | none => .error (.database .uniqueConstraint)
    | some podmans => .ok
        { db with
          podmans
          foreignKeys :=
            { db.foreignKeys with
              podman_lesson := db.foreignKeys.podman_lesson.insert_child inserted present
              podmanGrade_podman := db.foreignKeys.podmanGrade_podman.insert_parent inserted } }
  else .error (.database .foreignKey)

theorem createPodman_ok {db db' : Db} {row : Podman} (done : db.createPodman row = .ok db') :
    db.podmans.insert { row with id := db.podmans.fresh } = some db'.podmans ∧
      db'.toTables = { db.toTables with podmans := db'.podmans } := by
  unfold createPodman at done
  split at done
  · split at done
    · cases done
    · rename_i podmans inserted
      cases done
      exact ⟨inserted, rfl⟩
  · cases done

/-- `createMany` -/
def createPodmans (db : Db) (rows : List Podman) : Result Db := inTurn createPodman db rows

/-- New podmans change neither what a podman was nor any other table. -/
theorem createPodmans_ok {db db' : Db} {rows : List Podman}
    (done : db.createPodmans rows = .ok db') :
    (∀ id podman, db.podmans.find? id = some podman → db'.podmans.find? id = some podman) ∧
      db'.toTables = { db.toTables with podmans := db'.podmans } := by
  refine inTurn_keeps (I := fun d : Db =>
    (∀ id podman, db.podmans.find? id = some podman → d.podmans.find? id = some podman) ∧
      d.toTables = { db.toTables with podmans := d.podmans }) ?_ done
    ⟨fun _ _ found => found, rfl⟩
  rintro d row d' - created ⟨kept, same⟩
  obtain ⟨inserted, rest⟩ := createPodman_ok created
  refine ⟨fun id podman found => Table.find?_insert_of_found inserted (kept id podman found), ?_⟩
  rw [rest, same]

end Db

/-!
## The report card and the podman matrix

`getStudentReportCard` and `getClassPodmanMatrix` of `GradebookService`. Both go through the podman
grades by date and keep, of the attempts at a podman, a passed one or else the best. Grades of one
date come in the order of the table.

Names of persons are left out of the answers.
-/

/-! ### Reading -/

/-- `parseFloat(x.toFixed(2))` -/
abbrev round2 (x : Number) : Number := x.toFixed2

/-- `lesson.podmanCount || 5` -/
def Lesson.podmans (l : Lesson) : ℤ := if l.podmanCount = 0 then 5 else l.podmanCount

/-- `lesson.unitCount || 1` -/
def Lesson.units (l : Lesson) : ℤ := if l.unitCount = 0 then 1 else l.unitCount

/-- `for (let num = 1; num <= n; num++)` -/
def numbers (n : ℤ) : List ℤ := (List.range n.toNat).map fun i => (i : ℤ) + 1

/-- `x >= bound` -/
def atLeast (bound : ℚ) (x : Number) : Bool := x ≠ .nan && !x.lt (.finite bound)

/-- A podman grade with its lesson and its podman. -/
structure GradedPodman where
  grade : PodmanGrade
  lesson : Lesson
  podman : Podman

namespace Db

variable (db : Db)

def withPodman (g : PodmanGrade) : Option GradedPodman := do
  let lesson ← db.lessons.find? g.lessonId
  let podman ← db.podmans.find? g.podmanId
  return ⟨g, lesson, podman⟩

/-- `findMany` with `orderBy: { date: 'asc' }` -/
def podmanGradesOf (p : PodmanGrade → Bool) : List GradedPodman :=
  ((db.podmanGrades.rows.filter p).insertionSort fun a b => a.date ≤ b.date).filterMap
    db.withPodman

def gradesOf (p : GradeEntry → Bool) : List (GradeEntry × Lesson) :=
  ((db.grades.rows.filter p).insertionSort fun a b => a.date ≤ b.date).filterMap fun g =>
    (db.lessons.find? g.lessonId).map fun lesson => (g, lesson)

end Db

/-! ### The report card -/

inductive StudentRef where
  | me
  | id (i : Id)
deriving DecidableEq

inductive RequestRole where
  | student | parent | other
deriving DecidableEq

structure RequestingUser where
  id : Id
  role : RequestRole

section

variable (db : Db) (tenantId : Id)

def Db.studentOfUser (userId : Id) : Option StudentProfile :=
  db.students.rows.find? fun s => s.userId = userId ∧ s.tenantId = tenantId

/-- Students see themselves and parents their first child; the others name a profile or a user. -/
def resolveStudent (studentId : StudentRef) (user : Option RequestingUser) :
    Option StudentProfile :=
  let named : Option StudentProfile :=
    match studentId with
    | .me => none
    | .id i => (db.students.find? i).filter (·.tenantId = tenantId) <|>
        db.studentOfUser tenantId i
  if studentId = .me ∨ user.any (·.role = .student) then
    (match user, studentId with
      | some u, _ => db.studentOfUser tenantId u.id
      | none, .id i => db.studentOfUser tenantId i
      | none, .me => none) <|> named
  else
    match user with
    | some u =>
      if u.role = .parent then
        (do
          let parent ← db.parents.rows.find? fun p => p.userId = u.id ∧ p.tenantId = tenantId
          let link ← db.links.rows.find? fun l => l.parentId = parent.id
          db.students.find? link.studentId) <|> named
      else named
    | none => named

end

structure RegularLesson where
  lesson : Lesson
  grades : ℕ := 0
  (totalWeightedScore totalWeight : Number := .finite 0)

def addGrade (map : Dict Id RegularLesson) (row : GradeEntry × Lesson) : Dict Id RegularLesson :=
  let g := row.1
  let entry := (map.get? g.lessonId).getD { lesson := row.2 }
  let normalizedScoreOutOf20 :=
    ((Number.finite g.score).div (.finite g.maxScore)).mul (.finite 20)
  map.set g.lessonId
    { entry with
      grades := entry.grades + 1
      totalWeightedScore :=
        entry.totalWeightedScore.add (normalizedScoreOutOf20.mul (.finite g.weight))
      totalWeight := entry.totalWeight.add (.finite g.weight) }

structure PodmanLesson where
  lesson : Lesson
  podmanGrades : Dict ℤ GradedPodman := .empty

def addPodmanGrade (map : Dict Id PodmanLesson) (pg : GradedPodman) : Dict Id PodmanLesson :=
  let entry := (map.get? pg.grade.lessonId).getD { lesson := pg.lesson }
  let replaces := match entry.podmanGrades.get? pg.podman.number with
    | none => true
    | some existing => pg.grade.isPassed ||
        (!existing.grade.isPassed && existing.grade.finalScore < pg.grade.finalScore)
  map.set pg.grade.lessonId
    (if replaces then
      { entry with podmanGrades := entry.podmanGrades.set pg.podman.number pg }
    else entry)

structure PodmanDetail where
  podmanNumber : ℤ
  title : String
  continuousScore : Option ℚ := none
  competencyScore : Option ℤ := none
  finalScore : Option ℚ := none
  isPassed : Bool := false
  attemptType : Option String := none

structure ReportTally where
  totalPodmanScore : Number := .finite 0
  passedCount : ℕ := 0
  unpassedNumbers : List ℤ := []
  podmanDetails : List PodmanDetail := []

def reportPodman (podmanGrades : Dict ℤ GradedPodman) (t : ReportTally) (num : ℤ) : ReportTally :=
  match podmanGrades.get? num with
  | some pGrade =>
    { totalPodmanScore := t.totalPodmanScore.add (.finite pGrade.grade.finalScore)
      passedCount := if pGrade.grade.isPassed then t.passedCount + 1 else t.passedCount
      unpassedNumbers :=
        if pGrade.grade.isPassed then t.unpassedNumbers else t.unpassedNumbers ++ [num]
      podmanDetails := t.podmanDetails ++
        [{ podmanNumber := num
           title := (truthy (some pGrade.podman.title)).getD ("پودمان " ++ toString num)
           continuousScore := some pGrade.grade.continuousScore
           competencyScore := some pGrade.grade.competencyScore
           finalScore := some pGrade.grade.finalScore
           isPassed := pGrade.grade.isPassed
           attemptType := some pGrade.grade.attemptType }] }
  | none =>
    { t with
      unpassedNumbers := t.unpassedNumbers ++ [num]
      podmanDetails := t.podmanDetails ++
        [{ podmanNumber := num, title := "پودمان " ++ toString num }] }

structure LessonReport where
  lessonId : Id
  (lessonName lessonCode : String)
  isModular : Bool
  podmanCount : Option ℤ := none
  unitCount : ℤ
  lessonAverageOutOf20 : Number
  isPassed : Bool
  status : String
  (recordedAssessmentsCount passedPodmanCount : Option ℕ := none)
  unpassedPodmanNumbers : Option (List ℤ) := none
  podmans : Option (List PodmanDetail) := none

def regularReport (lessonId : Id) (entry : RegularLesson) : LessonReport :=
  let lessonAverage :=
    if (Number.finite 0).lt entry.totalWeight then
      round2 (entry.totalWeightedScore.div entry.totalWeight)
    else .finite 0
  { lessonId
    lessonName := entry.lesson.name
    lessonCode := entry.lesson.code
    isModular := false
    unitCount := entry.lesson.units
    lessonAverageOutOf20 := lessonAverage
    isPassed := atLeast 10 lessonAverage
    status := if atLeast 10 lessonAverage then "PASSED" else "FAILED"
    recordedAssessmentsCount := some entry.grades }

def modularReport (lessonId : Id) (entry : PodmanLesson) : LessonReport :=
  let podmanCount := entry.lesson.podmans
  let tally := (numbers podmanCount).foldl (reportPodman entry.podmanGrades) {}
  -- to pass a modular lesson, every podman must be passed
  let allPassed : Bool := (tally.passedCount : ℤ) = podmanCount
  { lessonId
    lessonName := entry.lesson.name
    lessonCode := entry.lesson.code
    isModular := true
    podmanCount := some podmanCount
    unitCount := entry.lesson.units
    lessonAverageOutOf20 := round2 (tally.totalPodmanScore.div (.finite podmanCount))
    isPassed := allPassed
    status := if allPassed then "PASSED" else "INCOMPLETE_RETAKE_NEEDED"
    passedPodmanCount := some tally.passedCount
    unpassedPodmanNumbers := some tally.unpassedNumbers
    podmans := some tally.podmanDetails }

structure ReportCard where
  studentId : Id
  (totalUnits passedUnits : ℤ)
  weightedGpaOutOf20 : Number
  status : String
  lessons : List LessonReport

/-- What a lesson adds to the weighted points: a modular one only when it is passed. -/
def LessonReport.points (r : LessonReport) : Option Number :=
  if r.isModular ∧ ¬ r.isPassed then none
  else some (r.lessonAverageOutOf20.mul (.finite r.unitCount))

def getStudentReportCard (db : Db) (tenantId : Id) (studentId : StudentRef)
    (academicYearId : Option Id) (requestingUser : Option RequestingUser) :
    Result ReportCard := do
  let student ← orFail (resolveStudent db tenantId studentId requestingUser)
    (.notFound "دانش‌آموز یافت نشد")
  let grades := db.gradesOf fun g =>
    g.tenantId = tenantId ∧ g.studentId = student.id ∧ academicYearId.all (g.academicYearId = ·)
  let podmanGrades := db.podmanGradesOf fun g =>
    g.tenantId = tenantId ∧ g.studentId = student.id ∧ academicYearId.all (g.academicYearId = ·)
  let lessonGradesMap := grades.foldl addGrade .empty
  let podmanLessonsMap := podmanGrades.foldl addPodmanGrade .empty
  let regular := lessonGradesMap.entries.filterMap fun (lessonId, entry) =>
    if (podmanLessonsMap.get? lessonId).isSome ∨ entry.lesson.isModular then none
    else some (regularReport lessonId entry)
  let lessons := regular ++
    podmanLessonsMap.entries.map fun (lessonId, entry) => modularReport lessonId entry
  let totalUnits : ℤ := (lessons.map (·.unitCount)).sum
  let totalWeightedPoints := (lessons.filterMap (·.points)).foldl Number.add (.finite 0)
  let weightedGpa :=
    if 0 < totalUnits then round2 (totalWeightedPoints.div (.finite totalUnits)) else .finite 0
  return {
    studentId := student.id
    totalUnits
    passedUnits := ((lessons.filter (·.isPassed)).map (·.unitCount)).sum
    weightedGpaOutOf20 := weightedGpa
    status := if atLeast 12 weightedGpa then "PASS" else "CONDITIONAL"
    lessons }

/-! ### The matrix -/

structure MatrixGrade where
  id : Id
  continuousScore : ℚ
  competencyScore : ℤ
  finalScore : ℚ
  isPassed : Bool
  attemptType : String
  date : Instant
  notes : Option String

def PodmanGrade.shown (g : PodmanGrade) : MatrixGrade where
  id := g.id
  continuousScore := g.continuousScore
  competencyScore := g.competencyScore
  finalScore := g.finalScore
  isPassed := g.isPassed
  attemptType := g.attemptType
  date := g.date
  notes := g.notes

def addMatrixGrade (map : Dict Id (Dict ℤ MatrixGrade)) (g : GradedPodman) :
    Dict Id (Dict ℤ MatrixGrade) :=
  let grades := (map.get? g.grade.studentId).getD .empty
  let replaces := match grades.get? g.podman.number with
    | none => true
    | some current => g.grade.isPassed ||
        (!current.isPassed && current.finalScore < g.grade.finalScore)
  map.set g.grade.studentId
    (if replaces then grades.set g.podman.number g.grade.shown else grades)

structure MatrixTally where
  allPassed : Bool := true
  completedCount : ℕ := 0
  totalScore : Number := .finite 0
  unpassedPodmans : List ℤ := []

def matrixPodman (podmanGrades : Dict ℤ MatrixGrade) (t : MatrixTally) (num : ℤ) : MatrixTally :=
  match podmanGrades.get? num with
  | some pg =>
    { allPassed := if pg.isPassed then t.allPassed else false
      completedCount := t.completedCount + 1
      totalScore := t.totalScore.add (.finite pg.finalScore)
      unpassedPodmans :=
        if pg.isPassed then t.unpassedPodmans else t.unpassedPodmans ++ [num] }
  | none => { t with allPassed := false, unpassedPodmans := t.unpassedPodmans ++ [num] }

structure MatrixRow where
  studentId : Id
  podmanGrades : List (ℤ × MatrixGrade)
  completedPodmanCount : ℕ
  allPodmansPassed : Bool
  unpassedPodmanNumbers : List ℤ
  lessonAverageOutOf20 : Number
  status : String

def matrixRow (totalPodmans : ℤ) (studentId : Id) (podmanGrades : Dict ℤ MatrixGrade) :
    MatrixRow :=
  let t := (numbers totalPodmans).foldl (matrixPodman podmanGrades) {}
  let complete : Bool := (t.completedCount : ℤ) = totalPodmans
  { studentId
    podmanGrades := podmanGrades.entries
    completedPodmanCount := t.completedCount
    allPodmansPassed := t.allPassed && complete
    unpassedPodmanNumbers := t.unpassedPodmans
    lessonAverageOutOf20 :=
      if complete && t.allPassed then round2 (t.totalScore.div (.finite totalPodmans))
      else if 0 < t.completedCount then round2 (t.totalScore.div (.finite t.completedCount))
      else .finite 0
    status :=
      if t.allPassed && complete then "PASSED"
      else if t.unpassedPodmans ≠ [] then "RETAKE_NEEDED"
      else "IN_PROGRESS" }

structure PodmanMatrix where
  classroom : Classroom
  lesson : Lesson
  podmans : List Podman
  students : List MatrixRow

/-- A modular lesson without podmans gets them first. -/
def ensurePodmans (db : Db) (tenantId : Id) (lesson : Lesson) : Result Db :=
  if lesson.isModular ∧ ∀ p ∈ db.podmans.rows, p.lessonId ≠ lesson.id then
    db.createPodmans ((numbers lesson.podmans).map fun i =>
      { id := 0, tenantId, lessonId := lesson.id, number := i, title := "پودمان " ++ toString i })
  else .ok db

def getClassPodmanMatrix (db : Db) (tenantId classroomId lessonId : Id) :
    Result (Db × PodmanMatrix) := do
  let classroom ← orFail ((db.classrooms.find? classroomId).filter (·.tenantId = tenantId))
    (.notFound "کلاس یافت نشد")
  let lesson ← orFail ((db.lessons.find? lessonId).filter (·.tenantId = tenantId))
    (.notFound "درس یافت نشد")
  let db ← ensurePodmans db tenantId lesson
  let grades := db.podmanGradesOf fun g =>
    g.tenantId = tenantId ∧ g.classroomId = classroomId ∧ g.lessonId = lessonId
  let studentGradesMap := grades.foldl addMatrixGrade .empty
  let enrollments := db.enrollments.rows.filter (·.classroomId = classroom.id)
  return (db, {
    classroom
    lesson
    podmans := (db.podmans.rows.filter (·.lessonId = lesson.id)).insertionSort
      fun a b => a.number ≤ b.number
    students := enrollments.map fun enr =>
      matrixRow lesson.podmans enr.studentId ((studentGradesMap.get? enr.studentId).getD .empty) })

end Rokad.Gradebook
