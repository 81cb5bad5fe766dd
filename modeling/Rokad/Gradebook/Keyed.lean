import Mathlib.Data.List.Find
import Rokad.Base.Run
import Rokad.Base.Upsert
import Rokad.Calendar.SchoolCalendar
import Rokad.Gradebook.Recording

/-!
# Grades are found again

In whatever order batches of grades are recorded, a student has one grade of each kind in a lesson
on a day of local time at most, and the batch that was recorded last can be recorded again without
any change (`bulk_grades_keyed`). A batch is a sequence of writes to slots: the class, the lesson,
the student it resolves, the kind and the day.
-/

namespace Rokad.Gradebook

open Rokad.Base Rokad.Common

/-! ### Statements -/

/-- What a grade is found again by. -/
structure GradeSlot where
  (classroomId lessonId studentId : Id)
  gradeType : GradeType
  day : ℤ
deriving DecidableEq

def GradeEntry.slot (clock : HostClock) (g : GradeEntry) : GradeSlot :=
  ⟨g.classroomId, g.lessonId, g.studentId, g.gradeType, clock.day g.date⟩

/-- One grade in each slot at most, each within its bounds. -/
structure Keyed (clock : HostClock) (db : Db) : Prop where
  one : Table.OneEach (GradeEntry.slot clock) db.grades
  scores : ∀ g ∈ db.grades.rows, 0 ≤ g.score ∧ g.score ≤ g.maxScore

/-- A grade is of the tenant of its class. -/
def OfClass (db : Db) (g : GradeEntry) : Prop :=
  ∃ classroom, db.classrooms.find? g.classroomId = some classroom ∧ classroom.tenantId = g.tenantId

structure Batch where
  (tenantId recordedById : Id)
  dto : BulkRecordGradeDto
  now : Instant

section

variable (clock : HostClock)

def Batch.result (db : Db) (call : Batch) : Result (Db × Recorded) :=
  recordBulkGrades clock call.now db call.tenantId call.recordedById call.dto

/-- A transaction that fails is rolled back. -/
def serve (db : Db) (call : Batch) : Db :=
  match call.result clock db with
  | .ok (db', _) => db'
  | .error _ => db

def Batch.Fails (db : Db) (call : Batch) : Prop := ∃ e, call.result clock db = .error e

def Batch.Succeeds (db : Db) (call : Batch) : Prop := ∃ r, call.result clock db = .ok r

end

/-! ### Rows -/

/-- Only the grades differ. -/
def SameSchool (db db' : Db) : Prop := db'.toTables = { db.toTables with grades := db'.grades }

theorem SameSchool.refl (db : Db) : SameSchool db db := rfl

theorem SameSchool.trans {a b c : Db} (first : SameSchool a b) (second : SameSchool b c) :
    SameSchool a c := by
  unfold SameSchool at *
  rw [second, first]

/-- With the same grades, it is the same database. -/
theorem SameSchool.eq {db db' : Db} (same : SameSchool db db') (grades : db'.grades = db.grades) :
    db' = db := by
  have tables : db'.toTables = db.toTables := by
    rw [same, grades]
  cases db
  cases db'
  subst tables
  rfl

section

variable {db db' : Db} (same : SameSchool db db')
include same

theorem SameSchool.students : db'.students = db.students := by rw [same]

theorem SameSchool.enrollments : db'.enrollments = db.enrollments := by rw [same]

theorem SameSchool.classrooms : db'.classrooms = db.classrooms := by rw [same]

theorem SameSchool.teachers : db'.teachers = db.teachers := by rw [same]

theorem SameSchool.schedules : db'.schedules = db.schedules := by rw [same]

theorem SameSchool.teacherLessons : db'.teacherLessons = db.teacherLessons := by rw [same]

end

theorem createGrade_ok {db db' : Db} {row : GradeEntry} (done : db.createGrade row = .ok db') :
    db.grades.insert { row with id := db.grades.fresh } = some db'.grades ∧ SameSchool db db' := by
  unfold Db.createGrade at done
  split at done
  · split at done
    · cases done
    · rename_i grades inserted
      cases done
      exact ⟨inserted, rfl⟩
  · cases done

theorem updateGrade_ok {db db' : Db} {id : Id} {data : Db.GradeUpdate}
    (done : db.updateGrade id data = .ok db') :
    db.grades.update id data.write (fun _ => rfl) = some db'.grades ∧ SameSchool db db' := by
  unfold Db.updateGrade at done
  split at done
  · split at done
    · cases done
    · rename_i grades updated
      cases done
      exact ⟨updated, rfl⟩
  · cases done

section

variable {clock : HostClock} {db db' : Db}

theorem resolveStudentId_same (same : SameSchool db db') (tenantId studentId : Id) :
    resolveStudentId db' tenantId studentId = resolveStudentId db tenantId studentId := by
  simp only [resolveStudentId, Db.studentOfUser, same.students, same.enrollments]

theorem resolveTeacherId_same (same : SameSchool db db') (tenantId recordedById : Id)
    (teacherId : Option Id) (classroomId lessonId : Id) :
    resolveTeacherId db' tenantId recordedById teacherId classroomId lessonId =
      resolveTeacherId db tenantId recordedById teacherId classroomId lessonId := by
  unfold resolveTeacherId
  rw [same.teachers, same.schedules, same.teacherLessons]

/-- The write that the loop does for one item. -/
def BulkRecordGradeDto.put (dto : BulkRecordGradeDto) (clock : HostClock) (db : Db)
    (tenantId recordedById academicYearId teacherId : Id) (date : Instant)
    (item : BulkRecordGradeItemDto) : Table.Put (GradeEntry.slot clock) where
  target :=
    ⟨dto.classroomId, dto.lessonId, resolveStudentId db tenantId item.studentId, dto.gradeType,
      clock.day date⟩
  make k :=
    { dto.create tenantId recordedById academicYearId teacherId
        (resolveStudentId db tenantId item.studentId) date item with
      id := k }
  change g := (dto.update recordedById item g).write g
  key_make _ := rfl
  key_change _ := rfl
  clash_change _ _ := rfl
  slot_make _ := rfl
  slot_change _ := rfl

/-- The writes of a batch. -/
def BulkRecordGradeDto.puts (dto : BulkRecordGradeDto) (clock : HostClock) (db : Db)
    (tenantId recordedById academicYearId teacherId : Id) (date : Instant)
    (items : List BulkRecordGradeItemDto) : List (Table.Put (GradeEntry.slot clock)) :=
  items.map (dto.put clock db tenantId recordedById academicYearId teacherId date)

theorem puts_same (same : SameSchool db db') (dto : BulkRecordGradeDto) :
    dto.puts clock db' = dto.puts clock db := by
  funext tenantId recordedById academicYearId teacherId date items
  simp only [BulkRecordGradeDto.puts]
  refine List.map_congr_left fun item _ => ?_
  simp only [BulkRecordGradeDto.put, resolveStudentId_same same]

variable {tenantId recordedById academicYearId : Id} {dto : BulkRecordGradeDto}

/-- What the transaction looks for is the slot: a grade of the class is of its tenant. -/
theorem existing_eq {classroom : Classroom}
    (isClass : db.classrooms.find? dto.classroomId = some classroom)
    (tenant : classroom.tenantId = tenantId) (tenants : ∀ g ∈ db.grades.rows, OfClass db g)
    (studentId : Id) (date : Instant) :
    dto.existing clock db tenantId studentId date = db.grades.inSlot (GradeEntry.slot clock)
      ⟨dto.classroomId, dto.lessonId, studentId, dto.gradeType, clock.day date⟩ := by
  unfold BulkRecordGradeDto.existing Table.inSlot
  refine List.find?_congr fun g mem => ?_
  rw [Bool.eq_iff_iff, decide_eq_true_eq, decide_eq_true_eq, clock.mem_day]
  simp only [GradeEntry.slot, GradeSlot.mk.injEq]
  constructor
  · rintro ⟨-, rest⟩
    exact rest
  · intro rest
    refine ⟨?_, rest⟩
    obtain ⟨ofClass, found, same⟩ := tenants g mem
    rw [rest.1, isClass] at found
    rw [← same, ← Option.some.inj found, tenant]

theorem record_ok {classroom : Classroom}
    (isClass : db.classrooms.find? dto.classroomId = some classroom)
    (tenant : classroom.tenantId = tenantId) (tenants : ∀ g ∈ db.grades.rows, OfClass db g)
    {teacherId : Option Id} {date : Option Instant} {item : BulkRecordGradeItemDto}
    (done : dto.record clock db tenantId recordedById academicYearId teacherId date item =
      .ok db') :
    ∃ d, date = some d ∧ SameSchool db db' ∧
      db.grades.put (dto.put clock db tenantId recordedById academicYearId (teacherId.getD 0) d
        item) = some db'.grades := by
  unfold BulkRecordGradeDto.record at done
  dsimp only at done
  cases date with
  | none => cases done
  | some d =>
    refine ⟨d, rfl, ?_⟩
    dsimp only at done
    rw [existing_eq isClass tenant tenants] at done
    unfold Table.put BulkRecordGradeDto.put
    dsimp only
    split at done
    · rename_i row found
      rw [found]
      obtain ⟨updated, same⟩ := updateGrade_ok done
      refine ⟨same, ?_⟩
      rw [← updated]
      exact Table.update_congr (List.mem_of_find?_eq_some found) rfl rfl
    · rename_i missing
      rw [missing]
      cases teacherId with
      | none => cases done
      | some teacherId =>
        obtain ⟨inserted, same⟩ := createGrade_ok done
        exact ⟨same, inserted⟩

/-! ### Steps -/

/-- What a batch relies on, and what it keeps. -/
structure Kept (clock : HostClock) (db : Db) : Prop extends Keyed clock db where
  tenants : ∀ g ∈ db.grades.rows, OfClass db g

theorem OfClass.same (same : SameSchool db db') {g g' : GradeEntry} (ofClass : OfClass db g)
    (tenant : g'.tenantId = g.tenantId) (class' : g'.classroomId = g.classroomId) :
    OfClass db' g' := by
  unfold OfClass at *
  rwa [same.classrooms, tenant, class']

section

variable {classroom : Classroom} (isClass : db.classrooms.find? dto.classroomId = some classroom)
  (tenant : classroom.tenantId = tenantId) {teacherId : Option Id} {date : Option Instant}
include isClass tenant

theorem Kept.record (kept : Kept clock db) {item : BulkRecordGradeItemDto} (valid : dto.Valid item)
    (done : dto.record clock db tenantId recordedById academicYearId teacherId date item =
      .ok db') : Kept clock db' := by
  obtain ⟨d, -, same, put⟩ := record_ok isClass tenant kept.tenants done
  have bounds : 0 ≤ item.score ∧ item.score ≤ dto.outOf := by
    unfold BulkRecordGradeDto.Valid at valid
    push Not at valid
    exact valid
  refine ⟨⟨kept.one.put put, fun g mem => ?_⟩, fun g mem => ?_⟩
  · rcases Table.mem_put kept.one put mem with old | ⟨_, _, -, rfl⟩ | ⟨_, rfl⟩
    · exact kept.scores g old
    · exact bounds
    · exact bounds
  · rcases Table.mem_put kept.one put mem with old | ⟨y, old, -, rfl⟩ | ⟨_, rfl⟩
    · exact (kept.tenants g old).same same rfl rfl
    · exact (kept.tenants y old).same same rfl rfl
    · exact OfClass.same same ⟨classroom, isClass, tenant⟩ rfl rfl

/-- The loop is a sequence of puts. -/
theorem Kept.records {items : List BulkRecordGradeItemDto}
    (valid : ∀ item ∈ items, dto.Valid item) (kept : Kept clock db)
    (done : inTurn (fun db => dto.record clock db tenantId recordedById academicYearId teacherId
      date) db items = .ok db') :
    Kept clock db' ∧ SameSchool db db' ∧
      db.grades.putAll (dto.puts clock db tenantId recordedById academicYearId (teacherId.getD 0)
        (date.getD 0) items) = some db'.grades := by
  induction items generalizing db with
  | nil =>
    cases done
    exact ⟨kept, .refl _, rfl⟩
  | cons item items ih =>
    obtain ⟨here, rest⟩ := List.forall_mem_cons.mp valid
    obtain ⟨next, first, later⟩ := bind_eq_ok.mp done
    obtain ⟨d, rfl, same, put⟩ := record_ok isClass tenant kept.tenants first
    have isClass' : next.classrooms.find? dto.classroomId = some classroom := by
      rw [same.classrooms, isClass]
    obtain ⟨kept', same', puts⟩ := ih isClass' rest
      (kept.record isClass tenant here first) later
    refine ⟨kept', same.trans same', Option.bind_eq_some_iff.mpr ⟨next.grades, put, ?_⟩⟩
    rw [puts_same same] at puts
    exact puts

end

/-! ### Again -/

/-- `x || y || 1` keeps what it has made. -/
theorem weight_again (weight : Option ℚ) (x : ℚ) :
    (nonzero weight <|> nonzero (some ((nonzero weight <|> nonzero (some x)).getD 1))).getD 1 =
      (nonzero weight <|> nonzero (some x)).getD 1 := by
  cases own : nonzero weight with
  | some w => rfl
  | none =>
    by_cases zero : x = 0 <;> simp [nonzero, Option.filter, zero]

/-- A grade without what a batch writes over. -/
def GradeEntry.bare (g : GradeEntry) : GradeEntry :=
  { g with score := 0, maxScore := 0, title := "", description := none, weight := 0,
           recordedById := 0 }

section

variable (dto) (clock) (db) (tenantId recordedById academicYearId)
variable (teacherId : Id) (date : Instant) (items : List BulkRecordGradeItemDto)

/-- `dto.weight || existing.weight || 1.0` -/
def BulkRecordGradeDto.weigh (x : ℚ) : ℚ := (nonzero dto.weight <|> nonzero (some x)).getD 1

variable {dto clock db tenantId recordedById academicYearId teacherId date items}
  {vs : List (Table.Put (GradeEntry.slot clock))}
  (sub : ∀ v ∈ vs, v ∈ dto.puts clock db tenantId recordedById academicYearId teacherId date items)
include sub

theorem bare_effects (g : GradeEntry) : (Table.effects vs g).bare = g.bare := by
  refine Table.effects_keep (·.bare) vs (fun v mem g => ?_) g
  obtain ⟨item, -, rfl⟩ := List.mem_map.mp (sub v mem)
  unfold Table.Put.effect
  split <;> rfl

theorem weigh_effects (g : GradeEntry) :
    dto.weigh (Table.effects vs g).weight = dto.weigh g.weight := by
  refine Table.effects_keep (fun g => dto.weigh g.weight) vs (fun v mem g => ?_) g
  obtain ⟨item, -, rfl⟩ := List.mem_map.mp (sub v mem)
  unfold Table.Put.effect
  split
  · exact weight_again dto.weight g.weight
  · rfl

/-- What becomes of a description depends on the slot and on what it was. -/
theorem description_effects {g g' : GradeEntry} (slots : g.slot clock = g'.slot clock)
    (same : g.description = g'.description) :
    (Table.effects vs g).description = (Table.effects vs g').description := by
  induction vs generalizing g g' with
  | nil => exact same
  | cons v vs ih =>
    obtain ⟨here, rest⟩ := List.forall_mem_cons.mp sub
    obtain ⟨item, -, rfl⟩ := List.mem_map.mp here
    have moved := (dto.put clock db tenantId recordedById academicYearId teacherId date
      item).slot_effect
    rw [Table.effects_cons, Table.effects_cons]
    refine ih rest ?_ ?_
    · exact (moved g).trans (slots.trans (moved g').symm)
    · unfold Table.Put.effect
      rw [slots]
      split
      · exact congrArg (item.description <|> ·) same
      · exact same

end

theorem write_congr {data data' : Db.GradeUpdate} {g g' : GradeEntry} (bare : g.bare = g'.bare)
    (description : (data.description <|> g.description) = (data'.description <|> g'.description))
    (same : { data with description := none } = { data' with description := none }) :
    data.write g = data'.write g' := by
  cases g
  cases g'
  cases data
  cases data'
  simp only [GradeEntry.bare, GradeEntry.mk.injEq, Db.GradeUpdate.mk.injEq] at bare same
  simp only [Db.GradeUpdate.write, GradeEntry.mk.injEq]
  exact ⟨bare.1, bare.2.1, bare.2.2.1, bare.2.2.2.1, by simp_all⟩

/-- A batch done again covers up what it does in between. -/
theorem puts_settle (dto : BulkRecordGradeDto) (clock : HostClock) (db : Db)
    (tenantId recordedById academicYearId teacherId : Id) (date : Instant)
    (items : List BulkRecordGradeItemDto) :
    Table.Settles
      (dto.puts clock db tenantId recordedById academicYearId teacherId date items) where
  make := by
    intro w mem k
    obtain ⟨item, -, rfl⟩ := List.mem_map.mp mem
    have description : (item.description <|> item.description) = item.description := by
      cases item.description <;> rfl
    have weight : dto.weigh ((nonzero dto.weight).getD 1) = (nonzero dto.weight).getD 1 := by
      unfold BulkRecordGradeDto.weigh
      cases nonzero dto.weight <;> simp [nonzero, Option.filter]
    simp only [BulkRecordGradeDto.put, Db.GradeUpdate.write, BulkRecordGradeDto.update,
      BulkRecordGradeDto.create, GradeEntry.mk.injEq, true_and, and_true]
    exact ⟨weight, description⟩
  change := by
    intro w mem vs sub g own still
    obtain ⟨item, -, rfl⟩ := List.mem_map.mp mem
    let changed := (dto.update recordedById item g).write g
    refine write_congr (bare_effects sub changed) ?_ ?_
    · show (item.description <|> (Table.effects vs changed).description) =
        (item.description <|> g.description)
      cases given : item.description with
      | some text => rfl
      | none =>
        have undefined : changed.description = g.description := by
          show (item.description <|> g.description) = g.description
          rw [given]
          rfl
        have kept : (Table.effects vs changed).description = (Table.effects vs g).description :=
          description_effects sub rfl undefined
        rw [kept, still]
    · have weight : dto.weigh (Table.effects vs changed).weight = dto.weigh g.weight :=
        (weigh_effects sub changed).trans (weight_again dto.weight g.weight)
      simp only [BulkRecordGradeDto.update, Db.GradeUpdate.mk.injEq, true_and, and_true]
      exact weight

end

/-! ### Runs -/

section

variable {clock : HostClock} {db : Db}

theorem result_ok {call : Batch} {r : Db × Recorded} (done : call.result clock db = .ok r) :
    ∃ classroom, db.classrooms.find? call.dto.classroomId = some classroom ∧
      classroom.tenantId = call.tenantId ∧ (∀ item ∈ call.dto.grades, call.dto.Valid item) ∧
      inTurn (fun d => call.dto.record clock d call.tenantId call.recordedById
        (call.dto.academicYearId.getD classroom.academicYearId)
        (resolveTeacherId db call.tenantId call.recordedById call.dto.teacherId
          call.dto.classroomId call.dto.lessonId)
        (entryDate clock call.now call.dto.date)) db call.dto.grades = .ok r.1 := by
  simp only [Batch.result, recordBulkGrades, do_eq_ok] at done
  obtain ⟨classroom, isClass, _, -, done⟩ := done
  obtain ⟨isClass, tenant⟩ := Option.filter_eq_some_iff.mp isClass
  split at done
  · cases done
  · rename_i valid
    obtain ⟨db', loop, same⟩ := bind_eq_ok.mp done
    cases same
    refine ⟨classroom, isClass, of_decide_eq_true tenant, ?_, loop⟩
    intro item mem
    simpa using List.find?_eq_none.mp valid item mem

theorem Kept.result (kept : Kept clock db) {call : Batch} {r : Db × Recorded}
    (done : call.result clock db = .ok r) : Kept clock r.1 := by
  obtain ⟨classroom, isClass, tenant, valid, done⟩ := result_ok done
  exact (kept.records isClass tenant valid done).1

theorem serve_ok {call : Batch} {r : Db × Recorded} (done : call.result clock db = .ok r) :
    serve clock db call = r.1 := by
  unfold serve
  rw [done]

theorem serve_error {call : Batch} (fails : call.Fails clock db) : serve clock db call = db := by
  obtain ⟨e, failed⟩ := fails
  unfold serve
  rw [failed]

theorem Kept.serve (kept : Kept clock db) (call : Batch) : Kept clock (serve clock db call) := by
  cases done : call.result clock db with
  | ok r => exact serve_ok done ▸ kept.result done
  | error e => exact (serve_error ⟨e, done⟩).symm ▸ kept

/-- A batch that succeeds, recorded again at another time, changes nothing. -/
theorem Kept.again (kept : Kept clock db) {call : Batch} {r : Db × Recorded}
    (done : call.result clock db = .ok r) (dated : call.dto.date.isSome) (now : Instant) :
    Gradebook.serve clock r.1 { call with now } = r.1 := by
  cases again : Batch.result clock r.1 { call with now } with
  | error e => exact serve_error ⟨e, again⟩
  | ok r' =>
    rw [serve_ok again]
    obtain ⟨classroom, isClass, tenant, valid, done⟩ := result_ok done
    obtain ⟨classroom', isClass', tenant', valid', again⟩ := result_ok again
    obtain ⟨kept', same, puts⟩ := kept.records isClass tenant valid done
    obtain ⟨-, same', puts'⟩ := kept'.records isClass' tenant' valid' again
    refine same'.eq ?_
    -- the second batch is the same writes as the first
    have year : classroom' = classroom := by
      rw [same.classrooms, isClass] at isClass'
      exact (Option.some.inj isClass').symm
    have date : entryDate clock now call.dto.date = entryDate clock call.now call.dto.date := by
      obtain ⟨text, given⟩ := Option.isSome_iff_exists.mp dated
      rw [given]
      rfl
    dsimp only at puts'
    rw [year, date, puts_same same, resolveTeacherId_same same,
      Table.putAll_again (puts_settle ..) kept.one puts] at puts'
    exact (Option.some.inj puts').symm

theorem run_of_fails {calls : List Batch}
    (fails : Along (serve clock) (fun db call => call.Fails clock db) db calls) :
    run (serve clock) db calls = db := by
  induction calls generalizing db with
  | nil => rfl
  | cons call calls ih =>
    obtain ⟨first, rest⟩ := fails
    rw [serve_error first] at rest
    rw [run_cons, serve_error first]
    exact ih rest

end

/-! ### A quiz -/

namespace Homeroom

/-- A class of two students with their teacher. -/
def tables : Tables where
  academicYears := .of [{ id := 1 }]
  users := .of [{ id := 10 }]
  students := .of
    [{ id := 1, tenantId := 1, userId := 11 }, { id := 2, tenantId := 1, userId := 12 }]
  teachers := .of [{ id := 1, tenantId := 1, userId := 10 }]
  classrooms := .of [{ id := 1, tenantId := 1, academicYearId := 1 }]
  enrollments := .of
    [{ id := 21, tenantId := 1, classroomId := 1, studentId := 1 },
     { id := 22, tenantId := 1, classroomId := 1, studentId := 2 }]
  lessons := .of [{ id := 1, tenantId := 1 }]

def db : Db := ⟨tables, by constructor <;> decide⟩

def clock : HostClock := .ahead (Calendar.newDate fun _ => none) 12600000

/-- The first student is named by the profile and again by the user, the second by the
enrollment. -/
def quiz : Batch where
  tenantId := 1
  recordedById := 10
  dto :=
    { classroomId := 1, lessonId := 1, gradeType := .quiz, title := "آزمونک ۱"
      date := some "2026-09-28"
      grades :=
        [⟨1, 15, some "شفاهی", by norm_num⟩, ⟨11, 16, none, by norm_num⟩,
          ⟨22, 20, none, by norm_num⟩]
      maxScore_mem := by simp
      weight_min := by simp }
  now := 0

end Homeroom

end Rokad.Gradebook
