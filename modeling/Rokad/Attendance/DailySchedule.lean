import Rokad.Attendance.Weeks
import Rokad.Classes.NoClashes

/-!
# The lessons of a day

`getTeacherDailySchedule` of the attendance service: the lessons of a weekday with what is recorded
of them, those of one teacher or all. A split lesson goes by weeks. Who has it in the even ones is
decided twice, in the filter for a teacher and in the line that is shown, and the two differ for a
split lesson with a second subject and without a second teacher: it is shown as the first teacher's,
who is not shown it (`timetables_cover_iff`).
-/

namespace Rokad.Attendance

open Rokad.Base Rokad.Common
open Rokad.Classes (DayOfWeek ClassSchedule ScheduleData Statement)

/-! ### Answers -/

/-- What the lessons of a day are shown with: the timetable and the marks, the users behind the
teachers, and the names of the lessons and of the levels and fields of the classrooms. -/
structure School where
  timetable : Classes.Db
  attendance : Db
  userOfTeacher : Id → Id
  lessonName : Id → String
  (levelName fieldName : Id → Option String)

structure SlotStats where
  (totalStudents recordedCount presentCount absentCount tardyCount excusedCount : ℕ)
  (isRecorded isFullyRecorded : Bool)

structure DailySlot where
  (id classroomId : Id)
  (classroomName classroomGrade classroomField : String)
  lessonId : Id
  lessonName : String
  teacherId : Id
  teacherName : String
  periodNumber : ℤ
  (startTime endTime : String)
  isSplitPeriod : Bool
  activeWeek : ActiveWeek
  stats : SlotStats

structure DailySchedule where
  dayOfWeek : DayOfWeek
  date : Option String
  activeWeek : ActiveWeek
  schedules : List DailySlot

/-- Who asks, and for which teacher. -/
structure DailyRequest where
  userId : Id
  userRole : String
  teacherIdQuery : Option Id := none

namespace School

variable (school : School) (tenantId : Id)

/-- The teacher whose lessons are asked for, or all; none for a teacher without a profile. -/
def teacherFilter (request : DailyRequest) : Option (Option Id) :=
  if request.userRole = "TEACHER" then
    (school.timetable.teachers.rows.find? fun t =>
      t.tenantId = tenantId ∧ school.userOfTeacher t.id = request.userId).map (some ·.id)
  else some request.teacherIdQuery

/-- The statement's condition: the teacher has the slot in either role. -/
def schedulesOf (dayOfWeek : DayOfWeek) (teacherId : Option Id) : List ClassSchedule :=
  (school.timetable.schedules.rows.filter fun slot =>
    slot.tenantId = tenantId ∧ slot.dayOfWeek = dayOfWeek ∧
      ∀ t ∈ teacherId, slot.teacherId = t ∨ slot.secondTeacherId = some t).mergeSort
        fun a b => a.periodNumber ≤ b.periodNumber

end School

/-- Only include if this teacher teaches in the active week. -/
def applicable (activeWeek : ActiveWeek) (teacherId : Option Id) (slot : ClassSchedule) : Bool :=
  if slot.isSplitPeriod = false then true
  else
    match teacherId with
    | some teacherId =>
      match activeWeek with
      | .one => slot.teacherId = teacherId
      | .two => slot.secondTeacherId = some teacherId && slot.secondLessonId.isSome
    | none =>
      match activeWeek with
      | .two => slot.secondLessonId.isSome
      | .one => true

def isSecondWeek (activeWeek : ActiveWeek) (slot : ClassSchedule) : Bool :=
  slot.isSplitPeriod && activeWeek = .two

/-- `isSecondWeek && second ? second : first` -/
def activeOf (activeWeek : ActiveWeek) (slot : ClassSchedule) (second : Option Id) (first : Id) :
    Id :=
  if isSecondWeek activeWeek slot then second.getD first else first

section

variable (school : School) (tenantId : Id) (dateVariants : List String) (activeWeek : ActiveWeek)

def slotStats (slot : ClassSchedule) : SlotStats :=
  let totalStudents := school.attendance.classEnrollments.rows.countP fun e =>
    e.tenantId = tenantId ∧ e.classroomId = slot.classroomId ∧ e.status = .active
  let attendances := school.attendance.studentAttendances.rows.filter fun a =>
    a.tenantId = tenantId ∧ a.classroomId = slot.classroomId ∧
      a.periodNumber = slot.periodNumber ∧ a.date ∈ dateVariants
  let count := fun status => attendances.countP fun a => a.status = status
  { totalStudents
    recordedCount := attendances.length
    presentCount := count .present
    absentCount := count .absent
    tardyCount := count .tardy
    excusedCount := count .excusedAbsent
    isRecorded := 0 < attendances.length
    isFullyRecorded := 0 < totalStudents ∧ totalStudents ≤ attendances.length }

def School.nameOfLesson (lessonId : Id) : Option String :=
  (school.timetable.lessons.find? lessonId).map fun l => school.lessonName l.id

/-- The line of a slot, with the lesson and the teacher of the week. -/
def enrich (slot : ClassSchedule) : DailySlot where
  id := slot.id
  classroomId := slot.classroomId
  classroomName := ((school.timetable.classrooms.find? slot.classroomId).map (·.name)).getD ""
  classroomGrade := (truthy (school.levelName slot.classroomId)).getD ""
  classroomField := (truthy (school.fieldName slot.classroomId)).getD ""
  lessonId := activeOf activeWeek slot slot.secondLessonId slot.lessonId
  lessonName :=
    (truthy (school.nameOfLesson (activeOf activeWeek slot slot.secondLessonId slot.lessonId)) <|>
      truthy (school.nameOfLesson slot.lessonId)).getD ""
  teacherId := activeOf activeWeek slot slot.secondTeacherId slot.teacherId
  teacherName := ((school.timetable.teachers.find?
    (activeOf activeWeek slot slot.secondTeacherId slot.teacherId)).map
      fun t => t.firstName ++ " " ++ t.lastName).getD ""
  periodNumber := slot.periodNumber
  startTime := slot.startTime
  endTime := slot.endTime
  isSplitPeriod := slot.isSplitPeriod
  activeWeek
  stats := slotStats school tenantId dateVariants slot

variable (jalaali : JalaaliDates) (host : LocalHost) (now : Instant)

def getTeacherDailySchedule (dateStr : Option String) (request : DailyRequest) :
    Result DailySchedule := do
  let dayOfWeek := getDayOfWeekFromDate jalaali host now dateStr
  let dateVariants ← getDateVariants jalaali host.number (dateStr.getD "")
  let activeWeek ← getActiveWeekFromDate jalaali host now dateStr
  match school.teacherFilter tenantId request with
  | none => return { dayOfWeek, date := dateStr, activeWeek, schedules := [] }
  | some teacherId =>
    let applicableSchedules := (school.schedulesOf tenantId dayOfWeek teacherId).filter
      (applicable activeWeek teacherId)
    return {
      dayOfWeek
      date := dateStr
      activeWeek
      schedules := applicableSchedules.map (enrich school tenantId dateVariants activeWeek) }

end

/-! ### One schedule and its parts -/

section

variable (jalaali : JalaaliDates) (host : LocalHost) (now : Instant) (school : School)
  (tenantId : Id) (dateStr : Option String)

/-- Who asks for a teacher is shown the lessons that are that teacher's among all, and no one else
is shown them. -/
def Covers : Prop :=
  ∀ request all, school.teacherFilter tenantId request = some none →
    getTeacherDailySchedule school tenantId jalaali host now dateStr request = .ok all →
  ∀ teacherId request' own, school.teacherFilter tenantId request' = some (some teacherId) →
    getTeacherDailySchedule school tenantId jalaali host now dateStr request' = .ok own →
      (∀ line, line ∈ own.schedules ↔ line ∈ all.schedules ∧ line.teacherId = teacherId) ∧
      ∀ line ∈ all.schedules, ∀ line' ∈ own.schedules, line'.id = line.id →
        teacherId = line.teacherId

/-- In an even week, the split lessons of the day with a second subject have a second teacher. -/
def SecondTeachers : Prop :=
  (∃ variants, getDateVariants jalaali host.number (dateStr.getD "") = .ok variants) →
    getActiveWeekFromDate jalaali host now dateStr = .ok .two →
      ∀ slot ∈ school.timetable.schedules.rows, slot.tenantId = tenantId →
        slot.dayOfWeek = getDayOfWeekFromDate jalaali host now dateStr →
          slot.isSplitPeriod = true → slot.secondLessonId.isSome → slot.secondTeacherId.isSome

end

/-! ### The timetable -/

/-- Only a split lesson has a second subject or teacher. -/
def Whole (slot : ClassSchedule) : Prop :=
  slot.isSplitPeriod = false → slot.secondLessonId = none ∧ slot.secondTeacherId = none

/-- The statement gives a lesson that is not split a second subject or teacher. -/
def Mixed : Statement → Prop
  | .create _ _ data => ¬ ∀ slot, Whole (data.apply slot)
  | .update _ data => ¬ ∀ slot, Whole (data.apply slot)
  | .delete _ => False

theorem whole_of_write {s : Statement} {db db' : Classes.Db} {made : ClassSchedule}
    (fits : ¬ Mixed s) (whole : ∀ slot ∈ db.schedules.rows, Whole slot)
    (done : Classes.write s db = .ok (db', made)) : ∀ slot ∈ db'.schedules.rows, Whole slot := by
  intro slot mem
  rcases (Classes.write_spec done).2 slot mem with ⟨old, -⟩ | ⟨rfl, put⟩
  · exact whole slot old
  · cases s with
    | create tenantId slot' data =>
      simp only [Classes.write, do_eq_ok] at done
      obtain ⟨_, -, _, -, ⟨⟩⟩ := done
      exact not_not.mp fits _
    | update id data =>
      simp only [Classes.write, do_eq_ok] at done
      obtain ⟨_, -, _, -, _, -, ⟨⟩⟩ := done
      exact not_not.mp fits _
    | delete id => exact absurd rfl (put id)

/-- No call mixes a lesson. -/
theorem avoids_mixed (call : Classes.Call) :
    call.program.Avoids fun op => ∃ s, op = .write s ∧ Mixed s := by
  have perform {s : Statement} (fits : ¬ Mixed s) :
      (Sql.perform s : Classes.TimetableCall ClassSchedule).Avoids
        fun op => ∃ s, op = .write s ∧ Mixed s := by
    refine ⟨?_, fun _ => trivial⟩
    rintro ⟨s', same, mixed⟩
    cases same
    exact fits mixed
  have read {α : Type} {f : Classes.Db → Classes.TimetableCall α}
      (rest : ∀ db, (f db).Avoids fun op => ∃ s, op = .write s ∧ Mixed s) :
      (Sql.snapshot >>= f).Avoids fun op => ∃ s, op = .write s ∧ Mixed s :=
    ⟨by simp, rest⟩
  cases call with
  | createSchedule tenantId dto =>
    have whole (slot) : ¬ ¬ ∀ s, Whole ((dto.data slot).apply s) := by
      refine not_not.mpr fun s split => ?_
      change dto.isSplitPeriod = false at split
      exact ⟨dto.second_whole split _, dto.second_whole split _⟩
    refine Prog.Avoids.bind trivial fun _ => read fun db =>
      Prog.Avoids.bind trivial fun found => ?_
    cases found with
    | none => exact perform (whole _)
    | some row => exact perform (whole _)
  | updateSchedule tenantId scheduleId dto =>
    refine read fun db => ?_
    cases plan : db.planUpdate tenantId scheduleId dto with
    | error e => exact trivial
    | ok planned =>
      obtain ⟨conflict, data⟩ := planned
      have whole : ¬ ¬ ∀ s, Whole (data.apply s) := by
        simp only [Classes.Db.planUpdate, do_eq_ok, Prod.mk.injEq] at plan
        obtain ⟨existing, -, n, -, _, -, _, -, _, -, -, rfl⟩ := plan
        refine not_not.mpr fun s split => ?_
        change dto.isSplitPeriod.getD existing.isSplitPeriod = false at split
        simp [ScheduleData.apply, split, Classes.Reference.target]
      cases conflict with
      | none => exact perform whole
      | some row =>
        have deletes : ¬ Mixed (.delete row.id) := not_false
        exact (perform deletes).bind fun _ => perform whole
  | deleteSchedule tenantId scheduleId =>
    have deletes : ¬ Mixed (.delete scheduleId) := not_false
    exact read fun db => Prog.Avoids.bind trivial fun _ => perform deletes

/-- The calls, in progress on a school without lessons. -/
abbrev planning {ι : Type} (db : Classes.Db) (calls : ι → Classes.Call) :
    Threads Classes.Db (Classes.TimetableCall ClassSchedule) ι where
  shared := db
  own i := (calls i).program

theorem whole_of_run {ι : Type} [DecidableEq ι] {db : Classes.Db}
    (fresh : db.schedules.rows = []) (calls : ι → Classes.Call) (moves : List (Move ι Unit Empty)) :
    ∀ slot ∈ (run (Sql.moveStep Classes.write) (planning db calls) moves).shared.schedules.rows,
      Whole slot := by
  refine Sql.run_keeps_of_avoids (P := Mixed)
    (I := fun db : Classes.Db => ∀ slot ∈ db.schedules.rows, Whole slot)
    (fun s db db' made fits => whole_of_write fits) (fun i => avoids_mixed (calls i)) ?_ moves
  intro slot mem
  rw [show (planning db calls).shared.schedules.rows = [] from fresh] at mem
  exact absurd mem List.not_mem_nil

/-! ### Who is shown what -/

section

variable {school : School} {tenantId : Id} {day : DayOfWeek} {week : ActiveWeek}
  {slot : ClassSchedule}

/-- A lesson of the day is shown, to who asks for a teacher or for all. -/
structure Shown (school : School) (tenantId : Id) (day : DayOfWeek) (week : ActiveWeek)
    (teacherId : Option Id) (slot : ClassSchedule) : Prop where
  mem : slot ∈ school.timetable.schedules.rows
  own : slot.tenantId = tenantId
  day : slot.dayOfWeek = day
  taught : ∀ t ∈ teacherId, slot.teacherId = t ∨ slot.secondTeacherId = some t
  applicable : applicable week teacherId slot = true

theorem mem_schedulesOf {teacherId : Option Id} :
    slot ∈ (school.schedulesOf tenantId day teacherId).filter (applicable week teacherId) ↔
      Shown school tenantId day week teacherId slot := by
  simp only [School.schedulesOf, List.mem_filter, List.mem_mergeSort, decide_eq_true_eq]
  exact ⟨fun ⟨⟨mem, own, day, taught⟩, applies⟩ => ⟨mem, own, day, taught, applies⟩,
    fun shown => ⟨⟨shown.mem, shown.own, shown.day, shown.taught⟩, shown.applicable⟩⟩

/-- The two decisions agree: a teacher is shown the lessons that are shown as that teacher's. -/
theorem shown_iff (whole : Whole slot) (second : week = .two → slot.isSplitPeriod = true →
      slot.secondLessonId.isSome → slot.secondTeacherId.isSome) {teacherId : Id} :
    Shown school tenantId day week (some teacherId) slot ↔
      Shown school tenantId day week none slot ∧
        activeOf week slot slot.secondTeacherId slot.teacherId = teacherId := by
  have same : (slot.teacherId = teacherId ∨ slot.secondTeacherId = some teacherId) ∧
      applicable week (some teacherId) slot = true ↔ applicable week none slot = true ∧
        activeOf week slot slot.secondTeacherId slot.teacherId = teacherId := by
    unfold applicable activeOf isSecondWeek
    cases split : slot.isSplitPeriod with
    | false => simp [(whole split).2]
    | true =>
      cases week with
      | one =>
        simp only [Bool.true_eq_false, if_false, decide_eq_true_eq, reduceCtorEq, decide_false,
          Bool.and_false, true_and]
        exact and_iff_right_of_imp .inl
      | two =>
        simp only [Bool.true_eq_false, if_false, Bool.and_eq_true, decide_eq_true_eq,
          decide_true, Bool.and_true, if_true]
        rw [and_iff_right_of_imp fun both => .inr both.1, and_comm]
        refine and_congr_right fun lesson => ?_
        obtain ⟨t, teacher⟩ := Option.isSome_iff_exists.mp (second rfl split lesson)
        rw [teacher, Option.some.injEq, Option.getD_some]
  constructor
  · rintro ⟨mem, own, day, taught, applies⟩
    obtain ⟨applies', active⟩ := same.mp ⟨taught _ rfl, applies⟩
    exact ⟨⟨mem, own, day, nofun, applies'⟩, active⟩
  · rintro ⟨⟨mem, own, day, -, applies⟩, active⟩
    obtain ⟨taught, applies'⟩ := same.mpr ⟨applies, active⟩
    exact ⟨mem, own, day, fun t is => by cases is; exact taught, applies'⟩

/-- One slot, one line. -/
theorem Shown.unique {teacherId teacherId' : Option Id} {slot' : ClassSchedule}
    (shown : Shown school tenantId day week teacherId slot)
    (shown' : Shown school tenantId day week teacherId' slot') (same : slot'.id = slot.id) :
    slot' = slot :=
  school.timetable.schedules.eq_of_key_eq shown'.mem shown.mem same

end

section

variable {jalaali : JalaaliDates} {host : LocalHost} {now : Instant} {school : School}
  {tenantId : Id} {dateStr : Option String}

/-- The lines of an answer. -/
theorem schedule_eq_ok {request : DailyRequest} {answer : DailySchedule} {teacherId : Option Id}
    (filter : school.teacherFilter tenantId request = some teacherId) :
    getTeacherDailySchedule school tenantId jalaali host now dateStr request = .ok answer ↔
      ∃ variants week, getDateVariants jalaali host.number (dateStr.getD "") = .ok variants ∧
        getActiveWeekFromDate jalaali host now dateStr = .ok week ∧
          answer = {
            dayOfWeek := getDayOfWeekFromDate jalaali host now dateStr
            date := dateStr
            activeWeek := week
            schedules := ((school.schedulesOf tenantId
              (getDayOfWeekFromDate jalaali host now dateStr) teacherId).filter
                (applicable week teacherId)).map (enrich school tenantId variants week) } := by
  unfold getTeacherDailySchedule
  simp only [filter, do_eq_ok]
  constructor
  · rintro ⟨variants, known, week, is, made⟩
    exact ⟨variants, week, known, is, made.symm⟩
  · rintro ⟨variants, week, known, is, made⟩
    exact ⟨variants, known, week, is, made.symm⟩

theorem covers_iff (whole : ∀ slot ∈ school.timetable.schedules.rows, Whole slot) :
    Covers jalaali host now school tenantId dateStr ↔
      SecondTeachers jalaali host now school tenantId dateStr := by
  constructor
  · rintro covers ⟨variants, known⟩ even slot mem own day split lesson
    have admin (teacherId : Option Id) : school.teacherFilter tenantId
        { userId := 0, userRole := "SCHOOL_ADMIN", teacherIdQuery := teacherId } = some teacherId :=
      if_neg (show "SCHOOL_ADMIN" ≠ "TEACHER" by decide)
    obtain ⟨same, -⟩ := covers _ _ (admin none)
      ((schedule_eq_ok (admin none)).mpr ⟨variants, .two, known, even, rfl⟩) slot.teacherId _ _
      (admin (some slot.teacherId))
      ((schedule_eq_ok (admin _)).mpr ⟨variants, .two, known, even, rfl⟩)
    by_contra alone
    have first : slot.secondTeacherId = none := by simpa using alone
    have all : Shown school tenantId (getDayOfWeekFromDate jalaali host now dateStr) .two none
        slot := ⟨mem, own, day, nofun, by simp [applicable, split, lesson]⟩
    have line := (same (enrich school tenantId variants .two slot)).mpr
      ⟨List.mem_map_of_mem (mem_schedulesOf.mpr all), by simp [enrich, activeOf, first]⟩
    obtain ⟨slot', mem', alike⟩ := List.mem_map.mp line
    have shown := mem_schedulesOf.mp mem'
    obtain rfl := all.unique shown (congrArg DailySlot.id alike)
    have applies := shown.applicable
    simp [applicable, split, first] at applies
  · intro second request all filter found teacherId request' own filter' found'
    obtain ⟨variants, week, known, is, rfl⟩ := (schedule_eq_ok filter).mp found
    obtain ⟨variants', week', known', is', rfl⟩ := (schedule_eq_ok filter').mp found'
    cases known.symm.trans known'
    cases is.symm.trans is'
    have agree (slot) (mem : slot ∈ school.timetable.schedules.rows)
        (own : slot.tenantId = tenantId)
        (day : slot.dayOfWeek = getDayOfWeekFromDate jalaali host now dateStr) :=
      @shown_iff school tenantId (getDayOfWeekFromDate jalaali host now dateStr) week slot
        (whole slot mem) (fun even => second ⟨variants, known⟩ (even ▸ is) slot mem own day)
        teacherId
    have lines (line : DailySlot) : line ∈ ((school.schedulesOf tenantId
        (getDayOfWeekFromDate jalaali host now dateStr) (some teacherId)).filter
          (applicable week (some teacherId))).map (enrich school tenantId variants week) ↔
        line ∈ ((school.schedulesOf tenantId (getDayOfWeekFromDate jalaali host now dateStr)
          none).filter (applicable week none)).map (enrich school tenantId variants week) ∧
          line.teacherId = teacherId := by
      simp only [List.mem_map, mem_schedulesOf]
      constructor
      · rintro ⟨slot, shown, rfl⟩
        obtain ⟨shown', active⟩ := (agree slot shown.mem shown.own shown.day).mp shown
        exact ⟨⟨slot, shown', rfl⟩, active⟩
      · rintro ⟨⟨slot, shown, rfl⟩, active⟩
        exact ⟨slot, (agree slot shown.mem shown.own shown.day).mpr ⟨shown, active⟩, rfl⟩
    refine ⟨lines, fun line mem line' mem' same => ?_⟩
    obtain ⟨there, active⟩ := (lines line').mp mem'
    obtain ⟨slot, shown, rfl⟩ := List.mem_map.mp mem
    obtain ⟨slot', shown', rfl⟩ := List.mem_map.mp there
    rw [(mem_schedulesOf.mp shown).unique (mem_schedulesOf.mp shown') same] at active
    exact active.symm

end

/-- **The lessons of a day.** In every timetable that the calls can make, the lessons that are shown
to teachers are those that are shown without a filter, exactly if the week is odd or every split
lesson of the day with a second subject has a second teacher. -/
theorem timetables_cover_iff {ι : Type} [DecidableEq ι] {db : Classes.Db}
    (fresh : db.schedules.rows = []) (calls : ι → Classes.Call) (moves : List (Move ι Unit Empty))
    {school : School} (made : school.timetable =
      (run (Sql.moveStep Classes.write) (planning db calls) moves).shared)
    (jalaali : JalaaliDates) (host : LocalHost) (now : Instant) (tenantId : Id)
    (dateStr : Option String) :
    Covers jalaali host now school tenantId dateStr ↔
      SecondTeachers jalaali host now school tenantId dateStr := by
  refine covers_iff ?_
  rw [made]
  exact whole_of_run fresh calls moves

namespace Teachers

/-- A lesson on the first period of Saturdays, split for two subjects. -/
def split (secondTeacherId : Option Classes.Reference) : Classes.Call := .createSchedule 1
  { classroomId := 1, lessonId := 1, teacherId := 1, dayOfWeek := .saturday, periodNumber := 1,
    startTime := "07:30", endTime := "09:00", isSplitPeriod := true,
    secondLessonId := some (.row 2), secondTeacherId }

/-- The timetable after one call. -/
def timetable (call : Classes.Call) : Classes.Db :=
  (run (Sql.moveStep Classes.write) (planning Classes.Desk.db fun _ : Unit => call)
    [.thread () (), .thread () ()]).shared

def school (call : Classes.Call) : School where
  timetable := timetable call
  attendance := {}
  userOfTeacher id := id
  lessonName _ := ""
  levelName _ := none
  fieldName _ := none

end Teachers

open Teachers

/-- With a second teacher, the lesson is shown to both in turn. -/
theorem timetables_cover_desk :
    Covers Nowruz.calendar Nowruz.host 0 (school (split (some (.row 2)))) 1
      (some "1404-01-02") := by
  refine (timetables_cover_iff rfl (fun _ : Unit => split (some (.row 2)))
    [.thread () (), .thread () ()] rfl _ _ 0 1 _).mpr ?_
  have second : ∀ slot ∈ (timetable (split (some (.row 2)))).schedules.rows,
      slot.secondTeacherId.isSome = true := by
    decide +kernel
  exact fun _ _ slot mem _ _ _ _ => second slot mem

/-- Without one, it is shown as the first teacher's in the even weeks, but not to that teacher. -/
theorem not_timetables_cover :
    ¬ Covers Nowruz.calendar Nowruz.host 0 (school (split none)) 1 (some "1404-01-02") := by
  intro covers
  have alone : ∃ slot ∈ (timetable (split none)).schedules.rows, slot.tenantId = 1 ∧
      slot.dayOfWeek = getDayOfWeekFromDate Nowruz.calendar Nowruz.host 0 (some "1404-01-02") ∧
        slot.isSplitPeriod = true ∧ slot.secondLessonId.isSome ∧ slot.secondTeacherId = none := by
    decide +kernel
  obtain ⟨slot, mem, own, day, split', lesson, missing⟩ := alone
  have whole : ∀ slot ∈ (school (split none)).timetable.schedules.rows, Whole slot :=
    whole_of_run rfl (fun _ : Unit => split none) _
  have second := (covers_iff whole).mp covers ⟨["1404-01-02", "2025-03-22"], by decide +kernel⟩
    (by decide +kernel) slot mem own day split' lesson
  rw [missing] at second
  cases second

end Rokad.Attendance
