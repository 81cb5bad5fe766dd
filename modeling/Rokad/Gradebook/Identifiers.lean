import Rokad.Gradebook.Dossier

/-!
# The identifiers of a student

A dossier should be the same whichever id names the student. It is resolved once, but homework,
grades and podman grades are then looked up by the id that was given. No row of theirs has an id
that is not a profile's, so under another id they are missing: the dossiers are the same exactly if
there is nothing to miss (`dossier_same_iff`).
-/

namespace Rokad.Gradebook

open Rokad.Base Rokad.Common
open Rokad.Homeworks (HomeworkSubmission SubmissionStatus)

/-- Ids of profiles, users and enrollments are apart, and a user has one profile. -/
structure IdsApart (db : Db) : Prop where
  oneProfile : ∀ s ∈ db.students.rows, ∀ s' ∈ db.students.rows, s.userId = s'.userId → s = s'
  user_profile : ∀ s ∈ db.students.rows, db.students.find? s.userId = none
  user_enrollment : ∀ s ∈ db.students.rows, db.enrollments.find? s.userId = none
  enrollment_profile : ∀ e ∈ db.enrollments.rows, db.students.find? e.id = none

/-- The ids that name a student: of the profile, of the user and of the enrollments. -/
inductive Names (db : Db) (student : StudentProfile) : Id → Prop where
  | profile : Names db student student.id
  | user : Names db student student.userId
  | enrollment {e : ClassEnrollment} (mem : e ∈ db.enrollments.rows)
      (tenant : e.tenantId = student.tenantId) (own : e.studentId = student.id) :
      Names db student e.id

/-- What two dossiers of a student should agree in. -/
structure Dossier.SameAs {N : Type} (d d' : Dossier N) : Prop where
  kpis : d.kpis = d'.kpis
  gradeEntries : d.gradeEntries = d'.gradeEntries
  podmanGrades : d.podmanGrades = d'.podmanGrades
  homeworks : d.homeworks = d'.homeworks
  sessions : d.sessions = d'.sessions
  matters : d.matters = d'.matters

/-- There are no grades and no podman grades of the student here, and no submission to the homework
that is listed. -/
structure Unrecorded (school : School) (student : StudentProfile) (classroomId : Id)
    (lessonId : Option Id) : Prop where
  gradeEntries : school.gradeEntries student.tenantId student.id classroomId lessonId = []
  podmanGrades : school.dossierPodmanGrades student.tenantId student.id classroomId lessonId = []
  submissions : ∀ h ∈ school.homeworkList student.tenantId classroomId lessonId,
    school.submission student.id h = none

section

variable {db : Db} {student : StudentProfile} {id : Id}

theorem Names.resolved (apart : IdsApart db) (mem : student ∈ db.students.rows)
    (names : Names db student id) : db.dossierStudent student.tenantId id = some student := by
  have found : (db.students.find? student.id).filter (·.tenantId = student.tenantId) =
      some student :=
    Option.filter_eq_some_iff.mpr ⟨db.students.find?_key mem, decide_eq_true rfl⟩
  unfold Db.dossierStudent
  cases names with
  | profile => rw [found]
  | user =>
    rw [apart.user_profile student mem, apart.user_enrollment student mem]
    show db.studentOfUser student.tenantId student.userId = some student
    cases first : db.studentOfUser student.tenantId student.userId with
    | none => simpa using List.find?_eq_none.mp first student mem
    | some s =>
      have same : s.userId = student.userId ∧ s.tenantId = student.tenantId := by
        simpa using List.find?_some first
      rw [apart.oneProfile s (List.mem_of_find?_eq_some first) student mem same.1]
  | enrollment enrolled tenant own =>
    rename_i e
    have enrollment : (db.enrollments.find? e.id).filter (·.tenantId = student.tenantId) = some e :=
      Option.filter_eq_some_iff.mpr ⟨db.enrollments.find?_key enrolled, decide_eq_true tenant⟩
    rw [apart.enrollment_profile e enrolled, enrollment]
    show (db.students.find? e.studentId).filter _ = some student
    rw [own, found]

/-- The id of another kind than a profile's. -/
theorem Names.cases_profile (apart : IdsApart db) (mem : student ∈ db.students.rows)
    (names : Names db student id) : id = student.id ∨ db.students.find? id = none := by
  cases names with
  | profile => exact .inl rfl
  | user => exact .inr (apart.user_profile student mem)
  | enrollment enrolled => exact .inr (apart.enrollment_profile _ enrolled)

end

section

variable {school : School} {id : Id}

/-- No row refers to an id that is no profile's. -/
theorem not_referred {α : Type} [Record α] {fk : α → Id} {rows : Table α}
    (references : Table.References (fun row => some (fk row)) rows school.students)
    (missing : school.students.find? id = none) {row : α} (mem : row ∈ rows.rows) :
    fk row ≠ id := by
  intro same
  have there := references row mem
  rw [has_some_iff, same, missing] at there
  obtain ⟨_, ⟨⟩⟩ := there

theorem gradeEntries_missing (missing : school.students.find? id = none) (tenantId classroomId : Id)
    (lessonId : Option Id) : school.gradeEntries tenantId id classroomId lessonId = [] := by
  refine List.eq_nil_iff_forall_not_mem.mpr fun g mem => ?_
  have kept := List.mem_filter.mp ((List.mem_insertionSort _).mp mem)
  exact not_referred school.foreignKeys.grade_student missing kept.1
    (of_decide_eq_true kept.2).2.1

theorem podmanGrades_missing (missing : school.students.find? id = none) (tenantId classroomId : Id)
    (lessonId : Option Id) : school.dossierPodmanGrades tenantId id classroomId lessonId = [] := by
  refine List.eq_nil_iff_forall_not_mem.mpr fun row mem => ?_
  obtain ⟨g, mem, -⟩ := List.mem_filterMap.mp ((List.mem_insertionSort _).mp mem)
  have kept := List.mem_filter.mp mem
  exact not_referred school.foreignKeys.podmanGrade_student missing kept.1
    (of_decide_eq_true kept.2).2.1

theorem submission_missing (missing : school.students.find? id = none) (h : Homework) :
    school.submission id h = none :=
  List.find?_eq_none.mpr fun _ mem found =>
    not_referred school.submission_student missing mem (of_decide_eq_true found).2

end

section

variable {N : Type} {A : Arithmetic N} {school : School} {student : StudentProfile} {id : Id}
  {classroomId : Id} {lessonId : Option Id}

/-- Once the student is found, the rows looked up by the id that was given decide. -/
theorem dossier_congr {id' : Id} (first : school.dossierStudent student.tenantId id = some student)
    (second : school.dossierStudent student.tenantId id' = some student)
    (grades : school.gradeEntries student.tenantId id classroomId lessonId =
      school.gradeEntries student.tenantId id' classroomId lessonId)
    (podmanGrades : school.dossierPodmanGrades student.tenantId id classroomId lessonId =
      school.dossierPodmanGrades student.tenantId id' classroomId lessonId)
    (submissions : ∀ h ∈ school.homeworkList student.tenantId classroomId lessonId,
      school.submission id h = school.submission id' h) :
    getStudentSubjectDossier A school student.tenantId id classroomId lessonId =
      getStudentSubjectDossier A school student.tenantId id' classroomId lessonId := by
  have homeworks : ((school.homeworkList student.tenantId classroomId lessonId).map fun h =>
        (h, school.submission id h)) =
      (school.homeworkList student.tenantId classroomId lessonId).map fun h =>
        (h, school.submission id' h) :=
    List.map_congr_left fun h mem => by rw [submissions h mem]
  unfold getStudentSubjectDossier
  rw [first, second, grades, podmanGrades, homeworks]

variable (A classroomId lessonId) in
theorem dossier_ok (found : school.dossierStudent student.tenantId id = some student) :
    ∃ d, getStudentSubjectDossier A school student.tenantId id classroomId lessonId = .ok d ∧
      d.gradeEntries =
        (school.gradeEntries student.tenantId id classroomId lessonId).map (·.shown) ∧
      d.podmanGrades = (school.dossierPodmanGrades student.tenantId id classroomId lessonId).map
        shownPodmanGrade ∧
      d.homeworks = (school.homeworkList student.tenantId classroomId lessonId).map fun h =>
        h.shown (school.submission id h) := by
  unfold getStudentSubjectDossier
  rw [found]
  refine ⟨_, rfl, rfl, rfl, ?_⟩
  rw [List.map_map]
  rfl

/-- A submission shows. -/
theorem shown_eq_none_iff {h : Homework} {sub : Option HomeworkSubmission} :
    h.shown sub = h.shown none ↔ sub = none := by
  constructor
  · intro same
    have submitted := congrArg DossierHomework.submittedAt same
    exact Option.map_eq_none_iff.mp submitted
  · rintro rfl
    rfl

/-- **A dossier is the same under every identifier exactly if nothing is recorded:** no grade, no
podman grade and no submission to the homework that is listed. -/
theorem dossier_same_iff (A : Arithmetic N) (apart : IdsApart school.toDb)
    (mem : student ∈ school.students.rows) (classroomId : Id) (lessonId : Option Id) :
    (∀ id, Names school.toDb student id → ∃ d d',
      getStudentSubjectDossier A school student.tenantId student.id classroomId lessonId = .ok d ∧
        getStudentSubjectDossier A school student.tenantId id classroomId lessonId = .ok d' ∧
        d.SameAs d') ↔ Unrecorded school student classroomId lessonId := by
  have own := Names.profile.resolved apart mem
  constructor
  · intro same
    have missing := apart.user_profile student mem
    obtain ⟨d, d', ofProfile, ofUser, same⟩ := same student.userId .user
    obtain ⟨_, is, grades, podmanGrades, homeworks⟩ := dossier_ok A classroomId lessonId own
    obtain rfl := Except.ok.inj (ofProfile.symm.trans is)
    obtain ⟨_, is, grades', podmanGrades', homeworks'⟩ :=
      dossier_ok A classroomId lessonId (Names.user.resolved apart mem)
    obtain rfl := Except.ok.inj (ofUser.symm.trans is)
    refine ⟨?_, ?_, fun h listed => ?_⟩
    · rw [gradeEntries_missing missing] at grades'
      exact List.map_eq_nil_iff.mp (grades.symm.trans (same.gradeEntries.trans grades'))
    · rw [podmanGrades_missing missing] at podmanGrades'
      exact List.map_eq_nil_iff.mp (podmanGrades.symm.trans (same.podmanGrades.trans podmanGrades'))
    · have shown := homeworks.symm.trans (same.homeworks.trans homeworks')
      have one := List.map_inj_left.mp shown h listed
      rw [submission_missing missing] at one
      exact shown_eq_none_iff.mp one
  · intro unrecorded id names
    obtain ⟨d, ofProfile, -⟩ := dossier_ok A classroomId lessonId own
    refine ⟨d, d, ofProfile, ?_, ⟨rfl, rfl, rfl, rfl, rfl, rfl⟩⟩
    rcases names.cases_profile apart mem with rfl | missing
    · exact ofProfile
    · rw [← ofProfile]
      refine dossier_congr (names.resolved apart mem) own ?_ ?_ fun h listed => ?_
      · rw [gradeEntries_missing missing, unrecorded.gradeEntries]
      · rw [podmanGrades_missing missing, unrecorded.podmanGrades]
      · rw [submission_missing missing, unrecorded.submissions h listed]

end

/-! ### A student with a grade -/

namespace Laboratory

def student : StudentProfile := ⟨1, 1, 11⟩

def tables : Tables where
  students := ⟨[student], by decide, by simp⟩
  classrooms := ⟨[{ id := 1, tenantId := 1, academicYearId := 1 }], by decide, by simp⟩
  enrollments := ⟨[⟨21, 1, 1, 1⟩], by decide, by simp⟩
  lessons := ⟨[{ id := 1, tenantId := 1 }], by decide, by simp⟩

def grade : GradeEntry where
  id := 1
  tenantId := 1
  academicYearId := 1
  classroomId := 1
  lessonId := 1
  studentId := 1
  teacherId := 1
  title := "آزمون ۱"
  score := 17
  date := 0
  recordedById := 1

def present : StudentAttendance where
  id := 1
  tenantId := 1
  classroomId := 1
  studentId := 1
  date := "2026-09-26"

/-- Present once, and not graded. -/
def ungraded : School where
  toTables := tables
  foreignKeys := by constructor <;> decide
  attendances := ⟨[present], by decide, by simp⟩
  submission_student := by decide

def graded : School where
  toTables := { tables with grades := ⟨[grade], by decide, by simp⟩ }
  foreignKeys := by constructor <;> decide
  submission_student := by decide

theorem mem : student ∈ ungraded.students.rows := List.mem_singleton.mpr rfl

theorem apart : IdsApart ungraded.toDb ∧ IdsApart graded.toDb := by
  constructor <;> constructor <;> decide

end Laboratory

theorem dossier_same_iff_ungraded : ∃ d d',
    getStudentSubjectDossier .doubles Laboratory.ungraded 1 1 1 none = .ok d ∧
      getStudentSubjectDossier .doubles Laboratory.ungraded 1 11 1 none = .ok d' ∧ d.SameAs d' :=
  (dossier_same_iff .doubles Laboratory.apart.1 Laboratory.mem 1 none).mpr ⟨rfl, rfl, nofun⟩ 11
    .user

/-- The grade is missing where the student is named by the user. -/
theorem not_dossier_same : ¬ ∀ (school : School) (student : StudentProfile) (id classroomId : Id)
    (lessonId : Option Id), IdsApart school.toDb → student ∈ school.students.rows →
    Names school.toDb student id → ∃ d d',
      getStudentSubjectDossier .doubles school student.tenantId student.id classroomId lessonId =
          .ok d ∧
        getStudentSubjectDossier .doubles school student.tenantId id classroomId lessonId = .ok d' ∧
        d.SameAs d' := by
  intro same
  obtain ⟨d, d', ofProfile, ofUser, same⟩ := same Laboratory.graded Laboratory.student 11 1 none
    Laboratory.apart.2 (List.mem_singleton.mpr rfl) .user
  have first : d.gradeEntries = [Laboratory.grade.shown] := by
    obtain rfl := Except.ok.inj ofProfile
    rfl
  have second : d'.gradeEntries = [] := by
    obtain rfl := Except.ok.inj ofUser
    rfl
  rw [same.gradeEntries, second] at first
  cases first

end Rokad.Gradebook
