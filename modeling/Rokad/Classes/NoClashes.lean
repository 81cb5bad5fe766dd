import Rokad.Classes.Timetable

/-!
# No clashes in the timetable

Every write that the checks let through leaves a timetable without clashes (`Sound`): a teacher is
in one classroom at a time, whichever of the two roles they have on either side, and whether a lesson
is new, changed, moved or put in the place of another one.

A call that fails leaves the timetable as it was, with one exception. An update that pushes a lesson
out of its slot deletes it before it writes its own; it takes an empty second lesson or teacher for
a reference where a creation takes it for none, the database refuses the write, and the deleted
lesson stays deleted (`not_timetable_kept`). Calls one at a time keep both exactly when no such update is among
them (`timetable_kept_iff`).
-/

namespace Rokad.Classes

open Rokad.Base Rokad.Common

/-! ### Clashes -/

/-- The teacher has the lesson, in either role. -/
def ClassSchedule.TaughtBy (s : ClassSchedule) (teacherId : Id) : Prop :=
  s.teacherId = teacherId ∨ s.secondTeacherId = some teacherId

structure Sound (db : Db) : Prop where
  teachers : ∀ s ∈ db.schedules.rows, ∀ s' ∈ db.schedules.rows, s.classroomId ≠ s'.classroomId →
    s.dayOfWeek = s'.dayOfWeek → s.periodNumber = s'.periodNumber →
      ∀ teacherId, s.TaughtBy teacherId → ¬ s'.TaughtBy teacherId
  slots : ∀ s ∈ db.schedules.rows, ∀ s' ∈ db.schedules.rows, s.toSlot = s'.toSlot → s = s'
  periods : ∀ s ∈ db.schedules.rows, 1 ≤ s.periodNumber ∧ s.periodNumber ≤ 10
  split : ∀ s ∈ db.schedules.rows, s.isSplitPeriod = false →
    s.secondLessonId = none ∧ s.secondTeacherId = none
  owned : ∀ s ∈ db.schedules.rows, ∀ teacherId, s.TaughtBy teacherId →
    ∃ t ∈ db.teachers.find? teacherId, t.tenantId = s.tenantId

/-- What has run on `db` leaves a sound timetable, and the one it found if it fails. -/
def Whole (db : Db) (ran : Db × Result ClassSchedule) : Prop :=
  Sound ran.1 ∧ ∀ e, ran.2 = .error e → ran.1.schedules = db.schedules

def Kept (db : Db) (call : Call) : Prop := Whole db (serve db call)

/-- An update that replaces a lesson names no empty second lesson or teacher. -/
def Fits (db : Db) : Call → Prop
  | .updateSchedule tenantId scheduleId dto => ∀ row data,
      db.planUpdate tenantId scheduleId dto = .ok (some row, data) →
        data.secondLessonId ≠ .empty ∧ data.secondTeacherId ≠ .empty
  | _ => True

abbrev timetableStep (db : Db) (call : Call) : Db := (serve db call).1

/-! ### Writes -/

/-- What the checks have found out about a row that is about to be written. -/
structure Clear (db : Db) (row : ClassSchedule) : Prop where
  period : 1 ≤ row.periodNumber ∧ row.periodNumber ≤ 10
  split : row.isSplitPeriod = false → row.secondLessonId = none ∧ row.secondTeacherId = none
  owned : ∀ teacherId, row.TaughtBy teacherId →
    ∃ t ∈ db.teachers.find? teacherId, t.tenantId = row.tenantId
  free : ∀ s ∈ db.schedules.rows, s.id ≠ row.id → s.tenantId = row.tenantId →
    s.classroomId ≠ row.classroomId → s.dayOfWeek = row.dayOfWeek →
      s.periodNumber = row.periodNumber →
        ∀ teacherId, row.TaughtBy teacherId → ¬ s.TaughtBy teacherId

section

variable {db db' : Db} {row : ClassSchedule}

/-- Some rows, and perhaps one that is clear. -/
theorem Sound.put (sound : Sound db) (teachers : db'.teachers = db.teachers)
    (rows : ∀ s ∈ db'.schedules.rows,
      (s ∈ db.schedules.rows ∧ s.id ≠ row.id) ∨ (s = row ∧ Clear db row)) : Sound db' where
  teachers s mem s' mem' apart day period teacherId taught taught' := by
    rcases rows s mem with ⟨old, other⟩ | ⟨rfl, clear⟩ <;>
      rcases rows s' mem' with ⟨old', other'⟩ | ⟨rfl, clear'⟩
    · exact sound.teachers s old s' old' apart day period teacherId taught taught'
    · -- one teacher has one school
      obtain ⟨t, found, own⟩ := sound.owned s old teacherId taught
      obtain ⟨t', found', own'⟩ := clear'.owned teacherId taught'
      obtain rfl := Option.mem_unique found found'
      exact clear'.free s old other (own.symm.trans own') apart day period teacherId taught' taught
    · obtain ⟨t, found, own⟩ := clear.owned teacherId taught
      obtain ⟨t', found', own'⟩ := sound.owned s' old' teacherId taught'
      obtain rfl := Option.mem_unique found found'
      exact clear.free s' old' other' (own'.symm.trans own) apart.symm day.symm period.symm
        teacherId taught taught'
    · exact apart rfl
  slots s mem s' mem' same := by
    by_contra differ
    have clash := db'.schedules.no_clash s mem s' mem' fun key =>
      differ (db'.schedules.eq_of_key_eq mem mem' key)
    exact absurd (beq_iff_eq.mpr same) (Bool.not_eq_true _ ▸ clash)
  periods s mem := by
    rcases rows s mem with ⟨old, -⟩ | ⟨rfl, clear⟩
    · exact sound.periods s old
    · exact clear.period
  split s mem := by
    rcases rows s mem with ⟨old, -⟩ | ⟨rfl, clear⟩
    · exact sound.split s old
    · exact clear.split
  owned s mem := by
    rw [teachers]
    rcases rows s mem with ⟨old, -⟩ | ⟨rfl, clear⟩
    · exact sound.owned s old
    · exact clear.owned

theorem Clear.mono (clear : Clear db row) (teachers : db'.teachers = db.teachers)
    (rows : ∀ s ∈ db'.schedules.rows, s ∈ db.schedules.rows) : Clear db' row :=
  { clear with
    owned := by
      rw [teachers]
      exact clear.owned
    free := fun s mem => clear.free s (rows s mem) }

/-- All that a write does: it leaves the teachers, and puts or removes one row. -/
theorem write_spec {s : Statement} (done : write s db = .ok (db', row)) :
    db'.teachers = db.teachers ∧ ∀ x ∈ db'.schedules.rows,
      (x ∈ db.schedules.rows ∧ x.id ≠ row.id) ∨ (x = row ∧ ∀ id, s ≠ .delete id) := by
  cases s with
  | create tenantId slot data =>
    simp only [write, do_eq_ok, insertRow_eq_ok] at done
    obtain ⟨_, -, schedules, inserted, ⟨⟩⟩ := done
    refine ⟨rfl, fun x mem => ?_⟩
    rcases (mem_insert inserted).mp mem with old | rfl
    · exact Or.inl ⟨old, ((insert_spec.mp inserted).2.1 x old)⟩
    · exact Or.inr ⟨rfl, by simp⟩
  | update id data =>
    simp only [write, do_eq_ok, updateRow_eq_ok]
      at done
    obtain ⟨old, found, _, -, schedules, updated, ⟨⟩⟩ := done
    refine ⟨rfl, fun x mem => ?_⟩
    rcases (mem_update updated).mp mem with ⟨kept, other⟩ | ⟨row, found', rfl⟩
    · exact Or.inl ⟨kept, fun same => other (same.trans (key_of_find? found))⟩
    · cases found.symm.trans found'
      exact Or.inr ⟨rfl, by simp⟩
  | delete id =>
    simp only [write, do_eq_ok] at done
    obtain ⟨old, found, ⟨⟩⟩ := done
    refine ⟨rfl, fun x mem => Or.inl ?_⟩
    obtain ⟨kept, other⟩ := Table.mem_deleteMany.mp mem
    exact ⟨kept, fun same => of_decide_eq_false other (same.trans (key_of_find? found))⟩

theorem Sound.write (sound : Sound db) {s : Statement}
    (clear : ∀ row db', Classes.write s db = .ok (db', row) → (∀ id, s ≠ .delete id) → Clear db row)
    (done : Classes.write s db = .ok (db', row)) : Sound db' := by
  obtain ⟨teachers, rows⟩ := write_spec done
  exact sound.put teachers fun x mem =>
    (rows x mem).imp_right fun ⟨same, put⟩ => ⟨same, clear row db' done put⟩

/-- A single statement fails as a whole. -/
theorem Sound.whole_perform (sound : Sound db) {s : Statement}
    (clear : ∀ row db', Classes.write s db = .ok (db', row) → (∀ id, s ≠ .delete id) →
      Clear db row) : Whole db ((Sql.perform s).run (Sql.exec Classes.write) db) := by
  rw [Sql.run_perform]
  cases done : Classes.write s db with
  | ok made => exact ⟨sound.write clear done, nofun⟩
  | error e => exact ⟨sound, fun _ _ => rfl⟩

end

/-! ### Checks -/

section

variable {db : Db} {tenantId : Id}

theorem requirePeriod_eq_ok {given : Option ℤ} {n : ℤ} :
    requirePeriod given = .ok n ↔ given = some n ∧ 1 ≤ n ∧ n ≤ 10 := by
  simp [requirePeriod, Option.filter_eq_some_iff]

/-- Everything that was named is there and belongs to the school. -/
structure Named (db : Db) (tenantId classroomId lessonId teacherId : Id) (isSplitPeriod : Bool)
    (secondLessonId secondTeacherId : Option Id) : Prop where
  classroom : ∃ c ∈ db.classrooms.find? classroomId, c.tenantId = tenantId
  lesson : ∃ l ∈ db.lessons.find? lessonId, l.tenantId = tenantId
  teacher : ∃ t ∈ db.teachers.find? teacherId, t.tenantId = tenantId
  secondLesson : isSplitPeriod = true → ∀ id ∈ secondLessonId,
    ∃ l ∈ db.lessons.find? id, l.tenantId = tenantId
  secondTeacher : isSplitPeriod = true → ∀ id ∈ secondTeacherId,
    ∃ t ∈ db.teachers.find? id, t.tenantId = tenantId

theorem named_of_verify {classroomId lessonId teacherId : Id} {isSplitPeriod : Bool}
    {secondLessonId secondTeacherId : Option Id}
    (verified : db.verify tenantId classroomId lessonId teacherId isSplitPeriod secondLessonId
      secondTeacherId = .ok ()) :
    Named db tenantId classroomId lessonId teacherId isSplitPeriod secondLessonId
      secondTeacherId := by
  simp only [Db.verify, do_eq_ok, exists_const] at verified
  obtain ⟨classroom, lesson, teacher, second⟩ := verified
  refine ⟨classroom, lesson, teacher, fun split => ?_, fun split => ?_⟩ <;>
    rw [if_pos split, bind_eq_ok] at second <;>
    simp only [require_eq_ok, exists_const] at second
  · exact second.1
  · exact second.2

theorem free_of_teacherConflict {but : Option Id} {slot : Slot} {teacherId : Id}
    (none : db.teacherConflict tenantId but slot teacherId = none) {s : ClassSchedule}
    (mem : s ∈ db.schedules.rows) (own : s.tenantId = tenantId) (other : some s.id ≠ but)
    (apart : s.classroomId ≠ slot.classroomId) (day : s.dayOfWeek = slot.dayOfWeek)
    (period : s.periodNumber = slot.periodNumber) : ¬ s.TaughtBy teacherId := by
  intro taught
  have absent := List.find?_eq_none.mp none s mem
  simp only [decide_eq_true_eq] at absent
  exact absent ⟨own, other, apart, taught, day, period⟩

/-- A row that went through the checks is clear. -/
theorem clear_of_checks {row : ClassSchedule} {but : Option Id}
    (period : 1 ≤ row.periodNumber ∧ row.periodNumber ≤ 10) (own : row.tenantId = tenantId)
    (itself : but = none ∨ but = some row.id)
    (split : row.isSplitPeriod = false → row.secondLessonId = none ∧ row.secondTeacherId = none)
    (verified : db.verify tenantId row.classroomId row.lessonId row.teacherId row.isSplitPeriod
      row.secondLessonId row.secondTeacherId = .ok ())
    (checked : db.checkTeachers tenantId but row.toSlot row.teacherId row.secondTeacherId false =
      .ok ()) : Clear db row where
  period
  split
  owned teacherId taught := by
    have named := named_of_verify verified
    rw [own]
    rcases taught with rfl | second
    · exact named.teacher
    · refine named.secondTeacher ?_ teacherId second
      by_contra whole
      rw [(split (Bool.not_eq_true _ ▸ whole)).2] at second
      cases second
  free s mem differ same apart day period teacherId taught := by
    simp only [Db.checkTeachers, require_eq_ok, Bool.false_eq_true, or_false] at checked
    have other : some s.id ≠ but := by
      rcases itself with rfl | rfl
      · exact Option.some_ne_none _
      · exact fun is => differ (Option.some.inj is)
    rcases taught with rfl | second
    · exact free_of_teacherConflict checked.1 mem (same.trans own) other apart day period
    · refine free_of_teacherConflict ?_ mem (same.trans own) other apart day period
      simpa [second] using checked.2

end

/-! ### Operations -/

section

variable {db : Db} {tenantId scheduleId : Id}

theorem slotConflict_some {but : Option Id} {slot : Slot} {row : ClassSchedule}
    (found : db.slotConflict tenantId but slot = some row) :
    row ∈ db.schedules.rows ∧ row.tenantId = tenantId ∧ some row.id ≠ but ∧ row.toSlot = slot := by
  have meets := List.find?_some found
  simp only [decide_eq_true_eq] at meets
  exact ⟨List.mem_of_find?_eq_some found, meets⟩

theorem CreateScheduleDto.second_whole {dto : CreateScheduleDto} (whole : dto.isSplitPeriod = false)
    (given : Option Reference) : (dto.second given).target = none := by
  simp [CreateScheduleDto.second, whole, Reference.target]

theorem Sound.createSchedule (sound : Sound db) {dto : CreateScheduleDto}
    (strict : dto.allowTeacherConflict = false) : Kept db (.createSchedule tenantId dto) := by
  simp only [Kept, serve, Call.program, Classes.createSchedule, Sql.run_ret_bind, Sql.run_snapshot]
  cases period : requirePeriod (some dto.periodNumber) with
  | error e => exact ⟨sound, fun _ _ => rfl⟩
  | ok n =>
    dsimp only
    obtain ⟨same, range⟩ := requirePeriod_eq_ok.mp period
    cases same
    cases plan : db.planCreate tenantId dto with
    | error e => exact ⟨sound, fun _ _ => rfl⟩
    | ok existingSlot =>
      dsimp only
      simp only [Db.planCreate, do_eq_ok] at plan
      obtain ⟨_, verified, _, -, _, checked, rfl⟩ := plan
      rw [strict] at checked
      have split (whole : dto.isSplitPeriod = false) :
          (dto.second dto.secondLessonId).target = none ∧
            (dto.second dto.secondTeacherId).target = none :=
        ⟨dto.second_whole whole _, dto.second_whole whole _⟩
      cases conflict : db.slotConflict tenantId none dto.slot with
      | none =>
        refine sound.whole_perform fun row db' done _ => ?_
        simp only [Classes.write, do_eq_ok] at done
        obtain ⟨_, -, schedules, -, ⟨⟩⟩ := done
        exact clear_of_checks range rfl (Or.inl rfl) split verified checked
      | some existing =>
        obtain ⟨mem, own, -, same⟩ := slotConflict_some conflict
        refine sound.whole_perform fun row db' done _ => ?_
        simp only [Classes.write, do_eq_ok] at done
        obtain ⟨old, found, _, -, schedules, -, ⟨⟩⟩ := done
        cases (db.schedules.find?_key mem).symm.trans found
        have slot : ((dto.data none).apply existing).toSlot = dto.slot := same
        refine clear_of_checks ?_ own (Or.inl rfl) split ?_ ?_
        · rw [slot]
          exact range
        · rw [slot]
          exact verified
        · rw [slot]
          exact checked

theorem Reference.admitted_of {α : Type} [Record α] {parent : Table α} {reference : Reference}
    (nonempty : reference ≠ .empty)
    (named : ∀ id ∈ reference.target, ∃ row, parent.find? id = some row) :
    reference.Admitted parent := by
  cases reference with
  | null => exact trivial
  | empty => exact nonempty rfl
  | row id => exact has_some_iff.mpr (named id rfl)

/-- The foreign keys hold of what was named. -/
theorem referred_of_named {classroomId : Id} {data : ScheduleData}
    (named : Named db tenantId classroomId data.lessonId data.teacherId data.isSplitPeriod
      data.secondLessonId.target data.secondTeacherId.target)
    (whole : data.isSplitPeriod = false →
      data.secondLessonId.target = none ∧ data.secondTeacherId.target = none)
    (lesson : data.secondLessonId ≠ .empty) (teacher : data.secondTeacherId ≠ .empty) :
    db.referred (some classroomId) data = .ok () := by
  have stored {α : Type} {o : Option α} {P : α → Prop} (found : ∃ x ∈ o, P x) : ∃ x, o = some x :=
    found.imp fun _ ⟨same, _⟩ => same
  have split {id : Id}
      (given : id ∈ data.secondLessonId.target ∨ id ∈ data.secondTeacherId.target) :
      data.isSplitPeriod = true := by
    by_contra not
    have := whole (Bool.not_eq_true _ ▸ not)
    simp [this] at given
  have secondLesson := Reference.admitted_of lesson fun id mem =>
    stored (named.secondLesson (split (Or.inl mem)) id mem)
  have secondTeacher := Reference.admitted_of teacher fun id mem =>
    stored (named.secondTeacher (split (Or.inr mem)) id mem)
  simp only [Db.referred, do_eq_ok, referred_eq_ok, has_some_iff]
  exact ⟨(), stored named.classroom, (), stored named.lesson, (), stored named.teacher, (),
    secondLesson, secondTeacher⟩

/-- Past the checks of an update: what it is about to write is clear, and not in doubt but for an
empty reference. -/
theorem planUpdate_spec {dto : UpdateScheduleDto} {slotConflict : Option ClassSchedule}
    {data : ScheduleData} (strict : dto.allowTeacherConflict = false)
    (plan : db.planUpdate tenantId scheduleId dto = .ok (slotConflict, data)) :
    ∃ existing slot, db.schedules.find? scheduleId = some existing ∧
      data.slot = some slot ∧ slotConflict = db.slotConflict tenantId (some scheduleId) slot ∧
      Clear db (data.apply existing) ∧
      (data.secondLessonId ≠ .empty → data.secondTeacherId ≠ .empty →
        db.referred (some slot.classroomId) data = .ok ()) := by
  simp only [Db.planUpdate, do_eq_ok, Option.filter_eq_some_iff,
    requirePeriod_eq_ok, decide_eq_true_eq] at plan
  obtain ⟨existing, ⟨found, own⟩, n, ⟨-, range⟩, _, verified, _, -, _, checked, ⟨⟩⟩ := plan
  rw [strict] at checked
  refine ⟨existing, _, found, rfl, rfl, ?_, ?_⟩
  · have itself : scheduleId = existing.id := (key_of_find? found).symm
    refine clear_of_checks range own (Or.inr (congrArg some itself)) (fun whole => ?_) verified
      checked
    change dto.isSplitPeriod.getD existing.isSplitPeriod = false at whole
    simp [ScheduleData.apply, whole, Reference.target]
  · refine referred_of_named (named_of_verify verified) fun whole => ?_
    change dto.isSplitPeriod.getD existing.isSplitPeriod = false at whole
    simp [whole, Reference.target]

theorem nonempty_of_write {data : ScheduleData} {made : Db × ClassSchedule}
    (done : write (.update scheduleId data) db = .ok made) :
    data.secondLessonId ≠ .empty ∧ data.secondTeacherId ≠ .empty := by
  simp only [write, Db.referred, do_eq_ok] at done
  obtain ⟨_, -, _, ⟨_, -, _, -, _, -, _, lesson, teacher⟩, -⟩ := done
  exact ⟨fun empty => (empty ▸ lesson : Reference.Admitted db.lessons .empty),
    fun empty => (empty ▸ teacher : Reference.Admitted db.teachers .empty)⟩

/-- An update into a slot that no other lesson holds goes through. -/
theorem write_update {data : ScheduleData} {existing : ClassSchedule} {slot : Slot}
    (found : db.schedules.find? scheduleId = some existing) (ofSlot : data.slot = some slot)
    (goes : db.referred (some slot.classroomId) data = .ok ())
    (free : ∀ s ∈ db.schedules.rows, s.id ≠ scheduleId → s.toSlot ≠ slot) :
    ∃ db', write (.update scheduleId data) db = .ok (db', data.apply existing) := by
  obtain ⟨schedules, updated⟩ : ∃ t, db.schedules.update scheduleId data.apply data.key_apply =
      some t := by
    refine Table.update_of_clear found fun x mem other => beq_eq_false_iff_ne.mpr fun same => ?_
    refine free x mem other (same.symm.trans ?_)
    simp [ScheduleData.apply, ofSlot]
  refine ⟨{ db with schedules }, ?_⟩
  simp only [write, do_eq_ok, updateRow_eq_ok]
  exact ⟨existing, found, (), by rw [ofSlot]; exact goes, schedules, updated, rfl⟩

section

variable {data : ScheduleData} {existing row : ClassSchedule} {slot : Slot}

/-- The row that an update writes. -/
theorem Clear.of_update (clear : Clear db (data.apply existing))
    (found : db.schedules.find? scheduleId = some existing) {db' : Db}
    (done : Classes.write (.update scheduleId data) db = .ok (db', row)) : Clear db row := by
  simp only [Classes.write, do_eq_ok] at done
  obtain ⟨old, found', _, -, schedules, -, ⟨⟩⟩ := done
  cases found.symm.trans found'
  exact clear

/-- The lesson in the slot is deleted for good: the update goes through, or the timetable is one
lesson short. -/
theorem Sound.replace_iff (sound : Sound db)
    (found : db.schedules.find? scheduleId = some existing) (ofSlot : data.slot = some slot)
    (mem : row ∈ db.schedules.rows) (ofRow : row.toSlot = slot) (other : scheduleId ≠ row.id)
    (clear : Clear db (data.apply existing))
    (goes : data.secondLessonId ≠ .empty → data.secondTeacherId ≠ .empty →
      db.referred (some slot.classroomId) data = .ok ()) :
    Whole db (Prog.run (Sql.exec Classes.write) (Sql.perform (.delete row.id) >>= fun _ =>
        Sql.perform (.update scheduleId data)) db) ↔
      data.secondLessonId ≠ .empty ∧ data.secondTeacherId ≠ .empty := by
  let without : Db := { db with schedules := db.schedules.deleteMany fun s => s.id = row.id }
  have deleted : Classes.write (.delete row.id) db = .ok (without, row) := by
    simp only [Classes.write, do_eq_ok]
    exact ⟨row, db.schedules.find?_key mem, rfl⟩
  have left (s) (mem : s ∈ without.schedules.rows) : s ∈ db.schedules.rows ∧ s.id ≠ row.id :=
    (Table.mem_deleteMany.mp mem).imp_right of_decide_eq_false
  have found' : without.schedules.find? scheduleId = some existing :=
    Table.find?_deleteMany.mpr ⟨found, decide_eq_false fun same =>
      other ((key_of_find? found).symm.trans same)⟩
  have clear' : Clear without (data.apply existing) := clear.mono rfl fun s mem => (left s mem).1
  have sound' : Sound without :=
    sound.write (fun _ _ _ kept => absurd rfl (kept row.id)) deleted
  rw [Sql.run_perform_bind, deleted]
  dsimp only
  constructor
  · rintro ⟨-, unchanged⟩
    rw [Sql.run_perform] at unchanged
    cases done : Classes.write (.update scheduleId data) without with
    | ok made => exact nonempty_of_write done
    | error e =>
      rw [done] at unchanged
      have same : without.schedules = db.schedules := unchanged e rfl
      exact absurd rfl (left row (same ▸ mem)).2
  · rintro ⟨lesson, teacher⟩
    have ready : without.referred (some slot.classroomId) data = .ok () := goes lesson teacher
    obtain ⟨next, done⟩ := write_update found' ofSlot ready
      fun s mem' _ same => (left s mem').2
        (congrArg (·.id) (sound.slots s (left s mem').1 row mem (same.trans ofRow.symm)))
    rw [Sql.run_perform, done]
    exact ⟨sound'.write (fun row next done _ => clear'.of_update found' done) done, by simp⟩

end

theorem Sound.updateSchedule_iff (sound : Sound db) {dto : UpdateScheduleDto}
    (strict : dto.allowTeacherConflict = false) :
    Kept db (.updateSchedule tenantId scheduleId dto) ↔
      Fits db (.updateSchedule tenantId scheduleId dto) := by
  simp only [Kept, Fits, serve, Call.program, Classes.updateSchedule, Sql.run_ret_bind,
    Sql.run_snapshot]
  cases plan : db.planUpdate tenantId scheduleId dto with
  | error e => exact iff_of_true ⟨sound, fun _ _ => rfl⟩ (by simp)
  | ok made =>
    obtain ⟨slotConflict, data⟩ := made
    obtain ⟨existing, slot, found, ofSlot, conflict, clear, goes⟩ := planUpdate_spec strict plan
    cases slotConflict with
    | none =>
      refine iff_of_true ?_ (by simp)
      exact sound.whole_perform fun row next done _ => clear.of_update found done
    | some row =>
      obtain ⟨mem, -, other, ofRow⟩ := slotConflict_some conflict.symm
      have differ : scheduleId ≠ row.id := fun same => other (congrArg some same.symm)
      simpa using sound.replace_iff found ofSlot mem ofRow differ clear goes

theorem Sound.deleteSchedule (sound : Sound db) :
    Kept db (.deleteSchedule tenantId scheduleId) := by
  simp only [Kept, serve, Call.program, Classes.deleteSchedule, Sql.run_ret_bind, Sql.run_snapshot]
  split
  · exact sound.whole_perform fun row db' _ kept => absurd rfl (kept scheduleId)
  · exact ⟨sound, fun _ _ => rfl⟩

end

/-! ### Runs -/

/-- A run of calls that allow no conflict keeps a sound timetable, and leaves it alone where it
fails, exactly if no update that replaces a lesson names an empty second lesson or teacher. -/
theorem timetable_kept_iff {db : Db} {calls : List Call} (sound : Sound db)
    (strict : ∀ call ∈ calls, call.allowTeacherConflict = false) :
    Along timetableStep Kept db calls ↔ Along timetableStep Fits db calls := by
  refine along_iff (I := Sound) (D := fun _ call => call.allowTeacherConflict = false) ?_ ?_ sound
    (along_of_forall strict)
  · intro db call strict sound
    cases call with
    | createSchedule tenantId dto => exact iff_of_true (sound.createSchedule strict) trivial
    | updateSchedule tenantId scheduleId dto => exact sound.updateSchedule_iff strict
    | deleteSchedule tenantId scheduleId => exact iff_of_true sound.deleteSchedule trivial
  · exact fun db call _ kept _ => kept.1

instance (db : Db) (call : Call) : Decidable (Fits db call) :=
  match call with
  | .createSchedule _ _ => .isTrue trivial
  | .deleteSchedule _ _ => .isTrue trivial
  | .updateSchedule tenantId scheduleId dto =>
    match plan : db.planUpdate tenantId scheduleId dto with
    | .error _ => .isTrue (by simp [Fits, plan])
    | .ok (none, _) => .isTrue (by simp [Fits, plan])
    | .ok (some _, data) =>
      decidable_of_iff (data.secondLessonId ≠ .empty ∧ data.secondTeacherId ≠ .empty)
        (by simp [Fits, plan])

namespace Desk

/-- One classroom, two lessons and two teachers, and nothing scheduled. -/
def db : Db where
  classrooms := .of [{ id := 1, tenantId := 1 }]
  lessons := .of [{ id := 1, tenantId := 1 }, { id := 2, tenantId := 1 }]
  teachers := .of [{ id := 1, tenantId := 1 }, { id := 2, tenantId := 1 }]

def create (periodNumber : ℤ) : Call := .createSchedule 1
  { classroomId := 1, lessonId := 1, teacherId := 1, dayOfWeek := .saturday, periodNumber,
    startTime := "07:30", endTime := "09:00" }

/-- The first lesson takes the second period, and is split from then on. -/
def move (secondTeacherId : Reference) : Call := .updateSchedule 1 1
  { periodNumber := some (some 2), replaceExisting := true, isSplitPeriod := some true,
    secondLessonId := some (.row 2), secondTeacherId := some secondTeacherId }

theorem sound : Sound db where
  teachers _ mem := by cases mem
  slots _ mem := by cases mem
  periods _ mem := by cases mem
  split _ mem := by cases mem
  owned _ mem := by cases mem

end Desk

theorem kept_replace : Along timetableStep Kept Desk.db
    [Desk.create 1, Desk.create 2, Desk.create 2, Desk.move (.row 2), .deleteSchedule 1 1] :=
  (timetable_kept_iff Desk.sound (by decide)).mpr (by decide +kernel)

/-- The lesson of the second period is gone, and the one to take its place has not moved. -/
theorem not_timetable_kept : Sound Desk.db ∧
    ¬ Along timetableStep Kept Desk.db [Desk.create 1, Desk.create 2, Desk.move .empty] := by
  refine ⟨Desk.sound, ?_⟩
  rintro ⟨-, -, ⟨-, unchanged⟩, -⟩
  have fails : (serve (run timetableStep Desk.db [Desk.create 1, Desk.create 2])
      (Desk.move .empty)).2 = .error (.database .foreignKey) := by decide +kernel
  have shorter : (run timetableStep Desk.db [Desk.create 1, Desk.create 2,
      Desk.move .empty]).schedules.rows.length = 1 := by decide +kernel
  have longer : (run timetableStep Desk.db [Desk.create 1, Desk.create 2]).schedules.rows.length =
      2 := by decide +kernel
  have same := congrArg (·.rows.length) (unchanged _ fails)
  exact absurd (shorter.symm.trans (same.trans longer)) (by decide)

end Rokad.Classes
