import Rokad.Enrollment.Service

/-!
# Full classes

A class should hold no more students than its capacity, and its enrolments should be of its year.
Only `enrollStudent` looks at the capacity, and it looks before it writes, so two of them can take
the last place (`not_within`); no one else looks, and the year of an enrolment is the request's.

In any interleaving the enrolments stay as they should exactly if every write that goes through is
one that finds room, names the class's year, or leaves capacity and year to match the enrolments
(`within_iff`).
-/

namespace Rokad.Enrollment

open Rokad.Base Rokad.Common

/-! ### The law -/

structure Within (db : Db) : Prop where
  capacity : ∀ c ∈ db.classrooms.rows, enrolled db.enrollments c.id ≤ c.capacity
  year : ∀ e ∈ db.enrollments.rows, ∀ c ∈ db.classrooms.rows, c.id = e.classroomId →
    e.academicYearId = c.academicYearId

/-- One more student has a place. -/
def Room (enrollments : Table ClassEnrollment) (c : Classroom) : Prop :=
  enrolled enrollments c.id < c.capacity
deriving Decidable

/-- The write leaves every class within its capacity and its year. -/
def Fits : Statement → Db → Prop
  | .enroll _ academicYearId classroomId _, db => ∀ c ∈ db.classrooms.find? classroomId,
      Room db.enrollments c ∧ academicYearId = c.academicYearId
  | .updateClassroom id data, db => ∀ c ∈ db.classrooms.find? id,
      enrolled db.enrollments id ≤ (data.apply c).capacity ∧
        (enrolled db.enrollments id = 0 ∨ (data.apply c).academicYearId = c.academicYearId)
  | .createStudent tenantId classroomId, db =>
    ∀ c ∈ classroomId.bind (db.classroomOf tenantId), Room db.enrollments c
  | .updateStudent tenantId studentId classroomId, db =>
    ∀ c ∈ classroomId.bind (db.classroomOf tenantId), Room (db.enrollments.deleteMany fun e =>
      e.studentId = studentId ∧ e.tenantId = tenantId) c
  | .importStudent _ none classroomId, db =>
    ∀ c ∈ classroomId.bind db.classrooms.find?, Room db.enrollments c
  | .importStudent _ (some profile) classroomId, db =>
    ∀ c ∈ classroomId.bind db.classrooms.find?,
      (∀ e ∈ db.activeEnrollment profile, e.classroomId ≠ c.id) → Room db.enrollments c

/-! ### Numbers of students -/

section

variable {t t' : Table ClassEnrollment} {e row : ClassEnrollment} {k : Id}

theorem enrolled_insert (inserted : t.insert row = some t') (k : Id) :
    enrolled t' k = enrolled t k + if row.classroomId = k then 1 else 0 := by
  simpa [enrolled] using Table.count_insert inserted (·.classroomId = k)

/-- A student changes the class. -/
theorem enrolled_move {c : Classroom} (found : t.find? e.id = some e)
    (updated : t.update e.id (ClassEnrollment.move c) (ClassEnrollment.key_move c) = some t')
    (apart : e.classroomId ≠ c.id) :
    enrolled t' c.id = enrolled t c.id + 1 ∧
      ∀ k, k ≠ c.id → enrolled t' k ≤ enrolled t k := by
  have moved (k : Id) := Table.count_update updated found (·.classroomId = k)
  refine ⟨?_, fun k other => ?_⟩
  · simpa [enrolled, apart, ClassEnrollment.move] using moved c.id
  · have less := moved k
    have away : ¬ (e.move c).classroomId = k := fun same => other same.symm
    simp only [away, decide_false, Bool.false_eq_true, if_false, add_zero] at less
    exact (Nat.le_add_right _ _).trans_eq less

theorem enrolled_eq_zero_iff : enrolled t k = 0 ↔ ∀ e ∈ t.rows, e.classroomId ≠ k := by
  simp [enrolled, Table.count_eq_zero_iff]

end

/-! ### Writes -/

section

variable {db db' : Db} {id tenantId : Id}

/-- The tables the law is about. -/
theorem Within.congr (within : Within db) (classrooms : db'.classrooms = db.classrooms)
    (enrollments : db'.enrollments = db.enrollments) : Within db' where
  capacity := by
    rw [classrooms, enrollments]
    exact within.capacity
  year := by
    rw [classrooms, enrollments]
    exact within.year

theorem Within.deleteMany (within : Within db) (p : ClassEnrollment → Bool) :
    Within { db with enrollments := db.enrollments.deleteMany p } where
  capacity c mem := (Table.count_deleteMany _ p).trans (within.capacity c mem)
  year e mem := within.year e (Table.mem_deleteMany.mp mem).1

theorem Within.insertEnrollment_iff (within : Within db) {academicYearId classroomId studentId : Id}
    (done : db.insertEnrollment tenantId academicYearId classroomId studentId = .ok (db', id)) :
    Within db' ↔ ∀ c ∈ db.classrooms.find? classroomId,
      Room db.enrollments c ∧ academicYearId = c.academicYearId := by
  simp only [Db.insertEnrollment, do_eq_ok, insertRow_eq_ok, referred_eq_ok] at done
  obtain ⟨_, -, _, -, _, -, enrollments, inserted, ⟨⟩⟩ := done
  have count := enrolled_insert inserted
  constructor
  · intro after c found
    have mem := mem_of_find? found
    have own : c.id = classroomId := key_of_find? found
    refine ⟨?_, ?_⟩
    · have bound := after.capacity c mem
      rw [count, if_pos own.symm] at bound
      exact bound
    · exact after.year _ ((mem_insert inserted).mpr (Or.inr rfl)) c mem own
  · intro fits
    refine ⟨fun c mem => ?_, fun e mem c mem' own => ?_⟩
    · rw [count]
      split
      · rename_i own
        have found : db.classrooms.find? classroomId = some c :=
          (congrArg _ own).trans (db.classrooms.find?_key mem)
        exact (fits c found).1
      · exact within.capacity c mem
    · rcases (mem_insert inserted).mp mem with old | rfl
      · exact within.year e old c mem' own
      · have found : db.classrooms.find? classroomId = some c :=
          (congrArg _ own.symm).trans (db.classrooms.find?_key mem')
        exact (fits c found).2

/-- An enrolment in the year of its class. -/
theorem Within.enrollIn_iff (within : Within db) {studentId : Id} {classroom : Option Classroom}
    (stored : ∀ c ∈ classroom, db.classrooms.find? c.id = some c)
    (done : db.enrollIn tenantId studentId classroom = .ok (db', id)) :
    Within db' ↔ ∀ c ∈ classroom, Room db.enrollments c := by
  cases classroom with
  | none =>
    cases done
    exact iff_of_true within nofun
  | some c =>
    rw [within.insertEnrollment_iff done, stored c rfl]
    simp

theorem stored_of_classroomOf {classroomId : Option Id} :
    ∀ c ∈ classroomId.bind (db.classroomOf tenantId), db.classrooms.find? c.id = some c := by
  intro c mem
  obtain ⟨k, -, found⟩ := Option.bind_eq_some_iff.mp mem
  have found := (Option.filter_eq_some_iff.mp found).1
  exact (congrArg db.classrooms.find? (key_of_find? found)).trans found

theorem stored_of_find? {classroomId : Option Id} :
    ∀ c ∈ classroomId.bind db.classrooms.find?, db.classrooms.find? c.id = some c := by
  intro c mem
  obtain ⟨k, -, found⟩ := Option.bind_eq_some_iff.mp mem
  exact (congrArg db.classrooms.find? (key_of_find? found)).trans found

/-- A student changes to a class and to its year. -/
theorem Within.move_iff (within : Within db) {c : Classroom} {e : ClassEnrollment}
    {t : Table ClassEnrollment} (stored : db.classrooms.find? c.id = some c)
    (found : db.enrollments.find? e.id = some e) (apart : e.classroomId ≠ c.id)
    (updated : db.enrollments.update e.id (ClassEnrollment.move c) (ClassEnrollment.key_move c) =
      some t) : Within { db with enrollments := t } ↔ Room db.enrollments c := by
  obtain ⟨joins, others⟩ := enrolled_move found updated apart
  constructor
  · intro after
    have bound := after.capacity c (mem_of_find? stored)
    rw [joins] at bound
    exact bound
  · intro room
    refine ⟨fun c' mem => ?_, fun e' mem c' mem' own => ?_⟩
    · by_cases same : c'.id = c.id
      · obtain rfl := db.classrooms.eq_of_key_eq mem (mem_of_find? stored) same
        exact joins.trans_le room
      · exact (others c'.id same).trans (within.capacity c' mem)
    · rcases (mem_update updated).mp mem with ⟨old, -⟩ | ⟨row, -, rfl⟩
      · exact within.year e' old c' mem' own
      · obtain rfl := db.classrooms.eq_of_key_eq mem' (mem_of_find? stored) own
        rfl

theorem Within.updateClassroom_iff (within : Within db) {data : ClassroomData}
    {t : Table Classroom}
    (updated : db.classrooms.update id data.apply data.key_apply = some t) :
    Within { db with classrooms := t } ↔ ∀ c ∈ db.classrooms.find? id,
      enrolled db.enrollments id ≤ (data.apply c).capacity ∧ (enrolled db.enrollments id = 0 ∨
          (data.apply c).academicYearId = c.academicYearId) := by
  constructor
  · intro after c found
    have key : c.id = id := key_of_find? found
    have mem' : data.apply c ∈ t.rows := (mem_update updated).mpr (Or.inr ⟨c, found, rfl⟩)
    refine ⟨key ▸ after.capacity (data.apply c) mem', ?_⟩
    by_cases empty : enrolled db.enrollments id = 0
    · exact Or.inl empty
    · -- a student of the class is of its year before and after
      obtain ⟨e, mem, own⟩ : ∃ e ∈ db.enrollments.rows, e.classroomId = id := by
        simpa [enrolled_eq_zero_iff] using empty
      have before := within.year e mem c (mem_of_find? found) (key.trans own.symm)
      exact Or.inr ((after.year e mem _ mem' (key.trans own.symm)).symm.trans before)
  · intro fits
    refine ⟨fun c mem => ?_, fun e mem c mem' own => ?_⟩
    · rcases (mem_update updated).mp mem with ⟨old, -⟩ | ⟨row, found, rfl⟩
      · exact within.capacity c old
      · have key : row.id = id := key_of_find? found
        exact key ▸ (fits row found).1
    · rcases (mem_update updated).mp mem' with ⟨old, -⟩ | ⟨row, found, rfl⟩
      · exact within.year e mem c old own
      · have key : row.id = id := key_of_find? found
        have here : e.classroomId = id := own.symm.trans key
        rcases (fits row found).2 with empty | same
        · exact absurd here (enrolled_eq_zero_iff.mp empty e mem)
        · rw [same]
          exact within.year e mem row (mem_of_find? found) own

theorem activeEnrollment_stored {profile : Id} {e : ClassEnrollment}
    (active : db.activeEnrollment profile = some e) : db.enrollments.find? e.id = some e := by
  have mem : e ∈ db.enrollments.rows.filter (·.studentId = profile) := by
    rcases (Option.orElse_eq_some _ _ _).mp active with first | ⟨-, head⟩
    · exact List.mem_of_find?_eq_some first
    · exact List.mem_of_head? head
  exact db.enrollments.find?_key (List.mem_of_mem_filter mem)

end

/-- A write that goes through keeps the law exactly if it fits. -/
theorem fits_exact (s : Statement) (db db' : Db) (made : Id) (within : Within db)
    (done : write s db = .ok (db', made)) : Within db' ↔ Fits s db := by
  cases s with
  | enroll tenantId academicYearId classroomId studentId => exact within.insertEnrollment_iff done
  | updateClassroom id data =>
    simp only [write, do_eq_ok, updateRow_eq_ok] at done
    obtain ⟨_, -, _, -, classrooms, updated, ⟨⟩⟩ := done
    exact within.updateClassroom_iff updated
  | createStudent tenantId classroomId =>
    simp only [write, Db.insertStudent, do_eq_ok, insertRow_eq_ok] at done
    obtain ⟨_, ⟨students, inserted, rfl⟩, done⟩ := done
    have after : Within { db with students } := within.congr rfl rfl
    exact after.enrollIn_iff stored_of_classroomOf done
  | updateStudent tenantId studentId classroomId =>
    simp only [write, bind_eq_ok] at done
    obtain ⟨_, -, done⟩ := done
    have stored : ∀ c ∈ classroomId.bind (db.classroomOf tenantId),
        db.classrooms.find? c.id = some c := stored_of_classroomOf
    simp only [Fits]
    split at done
    · rename_i none
      cases done
      rw [none]
      exact iff_of_true within (by simp)
    · rename_i c some
      rw [some] at stored ⊢
      exact Within.enrollIn_iff (within.deleteMany _) stored done
  | importStudent tenantId existingProfile classroomId =>
    cases existingProfile with
    | none =>
      simp only [write, Db.insertStudent, do_eq_ok, insertRow_eq_ok] at done
      obtain ⟨_, ⟨students, inserted, rfl⟩, done⟩ := done
      have after : Within { db with students } := within.congr rfl rfl
      exact after.enrollIn_iff stored_of_find? done
    | some profile =>
      simp only [write, bind_eq_ok] at done
      obtain ⟨_, -, done⟩ := done
      have stored : ∀ c ∈ classroomId.bind db.classrooms.find?,
          db.classrooms.find? c.id = some c := stored_of_find?
      simp only [Fits]
      split at done
      · rename_i none
        cases done
        rw [none]
        exact iff_of_true within (by simp)
      · rename_i c some
        rw [some] at stored ⊢
        have found := stored c rfl
        split at done
        · rename_i none
          rw [within.enrollIn_iff stored done, none]
          simp
        · rename_i e active
          rw [active]
          split at done
          · rename_i same
            cases done
            exact iff_of_true within (by simp [same])
          · rename_i apart
            simp only [do_eq_ok, updateRow_eq_ok] at done
            obtain ⟨t, updated, ⟨⟩⟩ := done
            rw [within.move_iff found (activeEnrollment_stored active) apart updated]
            simp [apart]

/-! ### Runs -/

section

variable {ι : Type} [DecidableEq ι] {calls : ι → Call} {db : Db} {moves : List (Move ι Unit Empty)}

def start (db : Db) (calls : ι → Call) : Threads Db (EnrollmentCall Unit) ι :=
  ⟨db, fun i => (calls i).program⟩

/-- The write of this move, if there is one, fits. -/
def FitsAt (p : Threads Db (EnrollmentCall Unit) ι) (move : Move ι Unit Empty) : Prop :=
  ∀ s ∈ Sql.committed write p move, Fits s p.shared

theorem within_iff (within : Within db) :
    Along (Sql.moveStep write) (fun p move => Within (Sql.moveStep write p move).shared)
        (start db calls) moves ↔
      Along (Sql.moveStep write) FitsAt (start db calls) moves :=
  Sql.keeps_iff fits_exact within

end

instance (s : Statement) (db : Db) : Decidable (Fits s db) := by
  unfold Fits
  split <;> infer_instance

instance {ι : Type} (p : Threads Db (EnrollmentCall Unit) ι) (move : Move ι Unit Empty) :
    Decidable (FitsAt p move) :=
  inferInstanceAs (Decidable (∀ s ∈ Sql.committed write p move, Fits s p.shared))

instance (db : Db) : Decidable (Within db) :=
  decidable_of_iff
    ((∀ c ∈ db.classrooms.rows, enrolled db.enrollments c.id ≤ c.capacity) ∧
      ∀ e ∈ db.enrollments.rows, ∀ c ∈ db.classrooms.rows, c.id = e.classroomId →
        e.academicYearId = c.academicYearId)
    ⟨fun ⟨capacity, year⟩ => ⟨capacity, year⟩, fun within => ⟨within.capacity, within.year⟩⟩

namespace Desk

/-- Two years, a class with this many places, and two students. -/
def db (capacity : ℕ) : Db where
  years := .of [{ id := 1 }, { id := 2 }]
  classrooms := .of
    [{ id := 1, tenantId := 1, academicYearId := 1, name := "A", code := "1", capacity }]
  students := .of [{ id := 1, tenantId := 1 }, { id := 2, tenantId := 1 }]

def enroll (studentId academicYearId : Id) : Call :=
  .enrollStudent 1 { studentId, classroomId := 1, academicYearId }

end Desk

open Desk in
/-- Two students enrol while the class grows, and an import takes the place that it gained. -/
theorem within_growing :
    Along (Sql.moveStep write) (fun p move => Within (Sql.moveStep write p move).shared)
      (start (db 2) ![enroll 1 1, enroll 2 1, .updateClassroom 1 1 { capacity := some 3 },
        .bulkImportStudents 1 [{ className := some "A" }]])
      (moves [0, 1, 2, 0, 1, 1, 0, 0, 1, 2, 3, 3]) :=
  (within_iff (by decide +kernel)).mpr (by decide +kernel)

open Desk in
/-- Two students take the last place; one enrols for another year; a student is created into a full
class; and a full class shrinks. -/
theorem not_within :
    (Within (db 1) ∧ Within (db 2)) ∧
      (¬ Within (run (Sql.moveStep write) (start (db 1) ![enroll 1 1, enroll 2 1])
        (moves [0, 1, 0, 1, 0, 1, 0, 1])).shared) ∧
      (¬ Within (run (Sql.moveStep write) (start (db 1) ![enroll 1 2])
        (moves [0, 0, 0, 0])).shared) ∧
      (¬ Within (run (Sql.moveStep write) (start (db 1) ![enroll 1 1, .createStudent 1 (some 1)])
        (moves [0, 0, 0, 0, 1])).shared) ∧
      ¬ Within (run (Sql.moveStep write)
        (start (db 2) ![enroll 1 1, enroll 2 1, .updateClassroom 1 1 { capacity := some 1 }])
        (moves [0, 0, 0, 0, 1, 1, 1, 1, 2, 2])).shared := by
  decide +kernel

end Rokad.Enrollment
