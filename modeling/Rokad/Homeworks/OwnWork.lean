import Rokad.Homeworks.Service

/-!
# A grade and the work it is for

A submission is consistent with its homework when its score is in range, a grade is not older than
the work, work that waits for a grade has none, and late work was allowed and says so. A call of a
student should change that student's own submission only.

Neither holds of every run: work handed in again keeps the score of what it replaces, and a request
may name any student (`not_own_work`). Both hold along a run exactly when nothing that has a score
is handed in again, a grade is not given before the work, and a request names no one else
(`own_work_iff`).
-/

namespace Rokad.Homeworks

open Rokad.Base Rokad.Common

/-! ### The law -/

structure Consistent (h : Homework) (s : HomeworkSubmission) : Prop where
  inRange : ∀ q ∈ s.score, 0 ≤ q ∧ q ≤ h.maxScore
  graded : s.status = .graded → ∃ t ∈ s.gradedAt, s.submittedAt ≤ t
  ungraded : s.status = .submitted ∨ s.status = .late → s.score = none
  late : h.dueDate < s.submittedAt → h.allowLateSubmissions = true ∧
    (s.status = .late ∨ s.status = .graded ∨ s.status = .resubmitRequired)

/-- Every submission is of a homework, and consistent with it. -/
def Sound (db : Db) : Prop :=
  ∀ s ∈ db.submissions.rows, ∃ h ∈ db.homeworks.find? s.homeworkId, Consistent h s

/-- The student is the user's own profile. -/
def Owns (school : School) (userId studentId : Id) : Prop :=
  ∃ p ∈ school.students.rows, p.userId = userId ∧ p.id = studentId
deriving Decidable

def IsOwn (school : School) (userId homeworkId : Id) (s : HomeworkSubmission) : Prop :=
  s.homeworkId = homeworkId ∧ Owns school userId s.studentId
deriving Decidable

/-- Every other submission is as it was. -/
def OwnOnly (school : School) (userId homeworkId : Id) (db db' : Db) : Prop :=
  (∀ s ∈ db.submissions.rows, IsOwn school userId homeworkId s ∨ s ∈ db'.submissions.rows) ∧
    ∀ s ∈ db'.submissions.rows, IsOwn school userId homeworkId s ∨ s ∈ db.submissions.rows
deriving Decidable

/-- The call leaves sound submissions, and handing work in touches the requester's own alone. -/
def Kept (date : DateParser) (school : School) (db : Db) (call : Call) : Prop :=
  Sound (step date school db call) ∧
    match call with
    | .submitHomework _ homeworkId _ user _ =>
      OwnOnly school user.id homeworkId db (step date school db call)
    | _ => True

/-! ### The condition -/

/-- If the homework is open for the work: nothing with a score is replaced, and the work is the
requester's own, or what is replaced says the same already. -/
def MayHandIn (school : School) (tenantId homeworkId : Id) (dto : SubmitHomeworkDto)
    (user : Requester) (now : Instant) (db : Db) : Prop :=
  ∀ h ∈ db.homework tenantId homeworkId, (h.isLate now = true → h.allowLateSubmissions = true) →
      ∀ k ∈ studentFor school tenantId dto (some user),
        match db.submission homeworkId k with
        | some s => s.score = none ∧
            (Owns school user.id k ∨ s.resubmit dto now (h.isLate now) = s)
        | none => school.students.has (some k) = true → Owns school user.id k

/-- If the grade is in range: it is not given before the work, unless it asks for it again. -/
def MayGrade (school : School) (tenantId submissionId gradedById : Id) (dto : GradeSubmissionDto)
    (now : Instant) (db : Db) : Prop :=
  ∀ found ∈ db.toGrade tenantId submissionId, 0 ≤ dto.score → dto.score ≤ found.2.maxScore →
    school.users.has (some gradedById) = true → dto.status = .graded → found.1.submittedAt ≤ now

def Fits (school : School) (db : Db) : Call → Prop
  | .createHomework _ _ _ => True
  | .submitHomework tenantId homeworkId dto user now =>
    MayHandIn school tenantId homeworkId dto user now db
  | .gradeSubmission tenantId submissionId gradedById dto now =>
    MayGrade school tenantId submissionId gradedById dto now db

/-! ### One row written -/

section

variable {school : School} {db : Db} {t : Table HomeworkSubmission} {h : Homework}

theorem Db.homework_eq_some {tenantId homeworkId : Id} :
    db.homework tenantId homeworkId = some h ↔
      db.homeworks.find? homeworkId = some h ∧ h.tenantId = tenantId := by
  simp [Db.homework, Option.filter_eq_some_iff]

theorem Db.submission_eq_none {homeworkId studentId : Id} :
    db.submission homeworkId studentId = none ↔
      ∀ s ∈ db.submissions.rows, s.homeworkId = homeworkId → s.studentId ≠ studentId := by
  simp [Db.submission]

theorem Db.submission_spec {homeworkId studentId : Id} {s : HomeworkSubmission}
    (found : db.submission homeworkId studentId = some s) :
    s ∈ db.submissions.rows ∧ s.homeworkId = homeworkId ∧ s.studentId = studentId := by
  have own := List.find?_some found
  simp only [decide_eq_true_eq] at own
  exact ⟨List.mem_of_find?_eq_some found, own⟩

theorem Db.toGrade_eq_some {tenantId submissionId : Id} {s : HomeworkSubmission} :
    db.toGrade tenantId submissionId = some (s, h) ↔
      (db.submissions.find? submissionId = some s ∧ s.tenantId = tenantId) ∧
        db.homeworks.find? s.homeworkId = some h := by
  simp only [Db.toGrade, Option.bind_eq_bind, Option.bind_eq_some_iff, Option.filter_eq_some_iff,
    decide_eq_true_eq, Option.pure_def, Option.some.injEq, Prod.mk.injEq]
  constructor
  · rintro ⟨s, found, h, ofHomework, rfl, rfl⟩
    exact ⟨found, ofHomework⟩
  · rintro ⟨found, ofHomework⟩
    exact ⟨s, found, h, ofHomework, rfl, rfl⟩

/-- One row replaced: the submissions stay sound exactly if the new row is. -/
theorem sound_update_iff {k : Id} {f : HomeworkSubmission → HomeworkSubmission}
    {keep : ∀ a, Record.key (f a) = Record.key a} {s : HomeworkSubmission} (sound : Sound db)
    (updated : db.submissions.update k f keep = some t) (found : db.submissions.find? k = some s)
    (same : (f s).homeworkId = s.homeworkId)
    (ofHomework : db.homeworks.find? s.homeworkId = some h) :
    Sound { db with submissions := t } ↔ Consistent h (f s) := by
  constructor
  · intro after
    obtain ⟨h', found', consistent⟩ :=
      after (f s) ((mem_update updated).mpr (.inr ⟨s, found, rfl⟩))
    rw [same, ofHomework] at found'
    cases found'
    exact consistent
  · intro consistent row mem
    rcases (mem_update updated).mp mem with ⟨mem, -⟩ | ⟨s', found', rfl⟩
    · exact sound row mem
    · cases found.symm.trans found'
      exact ⟨h, same ▸ ofHomework, consistent⟩

/-- One row more. -/
theorem sound_insert_iff {s : HomeworkSubmission} (sound : Sound db)
    (inserted : db.submissions.insert s = some t)
    (ofHomework : db.homeworks.find? s.homeworkId = some h) :
    Sound { db with submissions := t } ↔ Consistent h s := by
  constructor
  · intro after
    obtain ⟨h', found', consistent⟩ := after s ((mem_insert inserted).mpr (.inr rfl))
    cases found'.symm.trans ofHomework
    exact consistent
  · intro consistent row mem
    rcases (mem_insert inserted).mp mem with mem | rfl
    · exact sound row mem
    · exact ⟨h, ofHomework, consistent⟩

theorem ownOnly_refl (userId homeworkId : Id) : OwnOnly school userId homeworkId db db :=
  ⟨fun _ mem => .inr mem, fun _ mem => .inr mem⟩

/-- A row replaced by one of the same student: it was the user's own, or it stays as it is. -/
theorem ownOnly_update_iff {userId homeworkId k : Id} {f : HomeworkSubmission → HomeworkSubmission}
    {keep : ∀ a, Record.key (f a) = Record.key a} {s : HomeworkSubmission}
    (updated : db.submissions.update k f keep = some t) (found : db.submissions.find? k = some s)
    (ofHomework : s.homeworkId = homeworkId) (sameHomework : (f s).homeworkId = s.homeworkId)
    (sameStudent : (f s).studentId = s.studentId) :
    OwnOnly school userId homeworkId db { db with submissions := t } ↔
      Owns school userId s.studentId ∨ f s = s := by
  constructor
  · rintro ⟨-, after⟩
    rcases after (f s) ((mem_update updated).mpr (.inr ⟨s, found, rfl⟩)) with own | mem
    · exact .inl (sameStudent ▸ own.2)
    · exact .inr (db.submissions.eq_of_key_eq mem (mem_of_find? found) (keep s))
  · intro own
    constructor
    · intro row mem
      by_cases other : Record.key row = k
      · obtain rfl : row = s := db.submissions.eq_of_key_eq mem (mem_of_find? found)
          (other.trans (key_of_find? found).symm)
        exact own.imp (fun own => ⟨ofHomework, own⟩) fun same =>
          (mem_update updated).mpr (.inr ⟨row, found, same.symm⟩)
      · exact .inr ((mem_update updated).mpr (.inl ⟨mem, other⟩))
    · intro row mem
      rcases (mem_update updated).mp mem with ⟨mem, -⟩ | ⟨s', found', rfl⟩
      · exact .inr mem
      · cases found.symm.trans found'
        rcases own with own | same
        · exact .inl ⟨sameHomework.trans ofHomework, sameStudent ▸ own⟩
        · rw [same]
          exact .inr (mem_of_find? found)

theorem ownOnly_insert_iff {userId homeworkId : Id} {s : HomeworkSubmission}
    (inserted : db.submissions.insert s = some t) (ofHomework : s.homeworkId = homeworkId) :
    OwnOnly school userId homeworkId db { db with submissions := t } ↔
      Owns school userId s.studentId := by
  constructor
  · rintro ⟨-, after⟩
    rcases after s ((mem_insert inserted).mpr (.inr rfl)) with own | mem
    · exact own.2
    · exact absurd rfl ((insert_spec.mp inserted).2.1 s mem)
  · intro own
    refine ⟨fun row mem => .inr ((mem_insert inserted).mpr (.inl mem)), fun row mem => ?_⟩
    rcases (mem_insert inserted).mp mem with mem | rfl
    · exact .inr mem
    · exact .inl ⟨ofHomework, own⟩

end

/-! ### The calls -/

section

variable {school : School} {db db' : Db} {h : Homework}

theorem createHomework_ok {tenantId : Id} {date : DateParser} {dto : CreateHomeworkDto}
    {user : Option Requester} (done : createHomework school tenantId date dto user db = .ok db') :
    db'.submissions = db.submissions ∧
      ∀ k h, db.homeworks.find? k = some h → db'.homeworks.find? k = some h := by
  simp only [createHomework, do_eq_ok, insertRow_eq_ok] at done
  obtain ⟨_, -, _, -, _, -, _, -, _, -, _, -, _, -, _, -, _, -, homeworks, inserted, rfl⟩ := done
  exact ⟨rfl, fun k h found => Table.find?_insert_of_found inserted found⟩

theorem createHomework_keeps {tenantId : Id} {date : DateParser} {dto : CreateHomeworkDto}
    {user : Option Requester} (sound : Sound db)
    (done : createHomework school tenantId date dto user db = .ok db') : Sound db' := by
  obtain ⟨submissions, grows⟩ := createHomework_ok done
  intro s mem
  rw [submissions] at mem
  obtain ⟨h, found, consistent⟩ := sound s mem
  exact ⟨h, grows _ _ found, consistent⟩

/-- Work that is not late, or may be, is consistent exactly if it has no score. -/
theorem consistent_resubmit_iff {dto : SubmitHomeworkDto} {now : Instant} {s : HomeworkSubmission}
    (before : Consistent h s) (isOpen : h.isLate now = true → h.allowLateSubmissions = true) :
    Consistent h (s.resubmit dto now (h.isLate now)) ↔ s.score = none := by
  have status : (s.resubmit dto now (h.isLate now)).status = .submitted ∨
      (s.resubmit dto now (h.isLate now)).status = .late := by
    cases late : h.isLate now
    · exact .inl rfl
    · exact .inr rfl
  constructor
  · exact fun after => after.ungraded status
  · intro none
    refine ⟨before.inRange, fun graded => ?_, fun _ => none, fun after => ?_⟩
    · rcases status with is | is <;> exact absurd (is.symm.trans graded) (by decide)
    · have late : h.isLate now = true := decide_eq_true after
      refine ⟨isOpen late, .inl ?_⟩
      simp [HomeworkSubmission.resubmit, SubmitHomeworkDto.status, late]

theorem consistent_firstSubmission {tenantId homeworkId studentId id : Id} {dto : SubmitHomeworkDto}
    {now : Instant} (isOpen : h.isLate now = true → h.allowLateSubmissions = true) :
    Consistent h (firstSubmission tenantId homeworkId studentId dto now (h.isLate now) id) := by
  refine ⟨nofun, fun graded => ?_, fun _ => rfl, fun after => ?_⟩
  · cases late : h.isLate now <;>
      simp [firstSubmission, SubmitHomeworkDto.status, late] at graded
  · have late : h.isLate now = true := decide_eq_true after
    exact ⟨isOpen late, .inl (by simp [firstSubmission, SubmitHomeworkDto.status, late])⟩

/-- Where the upsert goes, and what it writes. -/
theorem upsertSubmission_iff {tenantId homeworkId k : Id} {dto : SubmitHomeworkDto}
    {user : Requester} {now : Instant} (sound : Sound db)
    (found : db.homeworks.find? homeworkId = some h)
    (isOpen : h.isLate now = true → h.allowLateSubmissions = true) :
    (Sound (settled db (upsertSubmission school tenantId homeworkId k dto now (h.isLate now) db)) ∧
      OwnOnly school user.id homeworkId db
        (settled db (upsertSubmission school tenantId homeworkId k dto now (h.isLate now) db))) ↔
      match db.submission homeworkId k with
      | some s => s.score = none ∧
          (Owns school user.id k ∨ s.resubmit dto now (h.isLate now) = s)
      | none => school.students.has (some k) = true → Owns school user.id k := by
  unfold upsertSubmission
  cases stored : db.submission homeworkId k with
  | some s =>
    obtain ⟨mem, ofHomework, ofStudent⟩ := Db.submission_spec stored
    subst ofHomework ofStudent
    have here : db.submissions.find? s.id = some s := db.submissions.find?_key mem
    obtain ⟨t, updated⟩ : ∃ t, db.submissions.update s.id (·.resubmit dto now (h.isLate now))
        (HomeworkSubmission.key_resubmit dto now (h.isLate now)) = some t :=
      update_isSome here fun _ _ => rfl
    obtain ⟨h', ofH, consistent⟩ := sound s mem
    cases ofH.symm.trans found
    simp only [updateRow, updated, orFail, bind, Except.bind, pure, Except.pure, settled_ok]
    rw [sound_update_iff sound updated here rfl found,
      ownOnly_update_iff updated here rfl rfl rfl, consistent_resubmit_iff consistent isOpen]
  | none =>
    by_cases known : school.students.has (some k) = true
    · obtain ⟨t, inserted⟩ := db.submissions.insert_of_fresh
        (firstSubmission tenantId homeworkId k dto now (h.isLate now) db.submissions.fresh) rfl
        fun row mem => by
          by_contra clash
          simp only [Record.clash, Bool.not_eq_false, Bool.and_eq_true, beq_iff_eq] at clash
          exact Db.submission_eq_none.mp stored row mem clash.1 clash.2
      simp only [referred, require, known, if_true, insertRow, inserted, orFail, bind,
        Except.bind, pure, Except.pure, settled_ok]
      rw [sound_insert_iff sound inserted found,
        @ownOnly_insert_iff school db t user.id homeworkId _ inserted rfl]
      simp only [consistent_firstSubmission isOpen, true_and, forall_const]
      rfl
    · simp [referred, require, known, bind, Except.bind, sound, ownOnly_refl]

theorem submitHomework_iff {date : DateParser} {tenantId homeworkId : Id} {dto : SubmitHomeworkDto}
    {user : Requester} {now : Instant} (sound : Sound db) :
    Kept date school db (.submitHomework tenantId homeworkId dto user now) ↔
      MayHandIn school tenantId homeworkId dto user now db := by
  unfold Kept MayHandIn
  dsimp only [step]
  unfold submitHomework
  cases found : db.homework tenantId homeworkId with
  | none => simp [orFail, bind, Except.bind, sound, ownOnly_refl]
  | some h =>
    cases student : studentFor school tenantId dto (some user) with
    | none => simp [orFail, bind, Except.bind, sound, ownOnly_refl]
    | some k =>
      by_cases isOpen : h.isLate now = true → h.allowLateSubmissions = true
      · have admitted : ¬(h.isLate now = true ∧ h.allowLateSubmissions = false) := by
          rintro ⟨late, closed⟩
          rw [isOpen late] at closed
          cases closed
        simp only [orFail, bind, Except.bind, require, admitted, not_false_eq_true, if_true]
        rw [upsertSubmission_iff sound (Db.homework_eq_some.mp found).1 isOpen]
        simp only [Option.mem_def, Option.some.injEq, forall_eq']
        exact ⟨fun fits _ => fits, fun fits => fits isOpen⟩
      · have refused : h.isLate now = true ∧ h.allowLateSubmissions = false := by
          simpa using isOpen
        simp [orFail, bind, Except.bind, require, refused, sound, ownOnly_refl]

theorem consistent_grade_iff {dto : GradeSubmissionDto} {gradedById : Id} {now : Instant}
    {s : HomeworkSubmission} (before : Consistent h s) (positive : 0 ≤ dto.score)
    (atMost : dto.score ≤ h.maxScore) :
    Consistent h (s.grade dto gradedById now) ↔ (dto.status = .graded → s.submittedAt ≤ now) := by
  have status : dto.status = .graded ∨ dto.status = .resubmitRequired := by
    unfold GradeSubmissionDto.status
    split
    · exact .inr rfl
    · exact .inl rfl
  constructor
  · intro after graded
    obtain ⟨t, at', notBefore⟩ := after.graded graded
    cases at'
    exact notBefore
  · intro notBefore
    refine ⟨fun q is => ?_, fun graded => ⟨now, rfl, notBefore graded⟩, fun open' => ?_,
      fun late => ⟨(before.late late).1, .inr status⟩⟩
    · cases is
      exact ⟨positive, atMost⟩
    · rcases open' with is | is <;> rcases status with is' | is' <;>
        exact absurd (is.symm.trans is') (by decide)

theorem gradeSubmission_iff {date : DateParser} {tenantId submissionId gradedById : Id}
    {dto : GradeSubmissionDto} {now : Instant} (sound : Sound db) :
    Kept date school db (.gradeSubmission tenantId submissionId gradedById dto now) ↔
      MayGrade school tenantId submissionId gradedById dto now db := by
  unfold Kept MayGrade
  dsimp only [step]
  unfold gradeSubmission
  by_cases positive : 0 ≤ dto.score
  swap
  · simp [require, positive, bind, Except.bind, sound]
  cases found : db.toGrade tenantId submissionId with
  | none => simp [require, positive, orFail, bind, Except.bind, sound]
  | some pair =>
    obtain ⟨s, h⟩ := pair
    obtain ⟨⟨here, -⟩, ofHomework⟩ := Db.toGrade_eq_some.mp found
    by_cases atMost : dto.score ≤ h.maxScore
    swap
    · simp [require, positive, orFail, atMost, bind, Except.bind, sound]
    by_cases known : school.users.has (some gradedById) = true
    swap
    · simp [require, positive, orFail, atMost, referred, known, bind, Except.bind, sound]
    obtain ⟨t, updated⟩ : ∃ t, db.submissions.update submissionId (·.grade dto gradedById now)
        (HomeworkSubmission.key_grade dto gradedById now) = some t :=
      update_isSome here fun _ _ => rfl
    obtain ⟨h', ofH, consistent⟩ := sound s (mem_of_find? here)
    cases ofH.symm.trans ofHomework
    simp only [require, positive, orFail, atMost, referred, known, if_true, updateRow, updated,
      bind, Except.bind, pure, Except.pure, settled_ok, and_true]
    rw [sound_update_iff sound updated here rfl ofHomework,
      consistent_grade_iff consistent positive atMost]
    simp [atMost]

theorem kept_iff_fits {date : DateParser} (sound : Sound db) (call : Call) :
    Kept date school db call ↔ Fits school db call := by
  cases call with
  | createHomework tenantId dto user =>
    exact iff_of_true ⟨settled_keeps sound fun _ done => createHomework_keeps sound done, trivial⟩
      trivial
  | submitHomework tenantId homeworkId dto user now => exact submitHomework_iff sound
  | gradeSubmission tenantId submissionId gradedById dto now => exact gradeSubmission_iff sound

end

/-! ### Runs -/

instance (h : Homework) (s : HomeworkSubmission) : Decidable (Consistent h s) :=
  decidable_of_iff
    ((∀ q ∈ s.score, 0 ≤ q ∧ q ≤ h.maxScore) ∧
      (s.status = .graded → ∃ t ∈ s.gradedAt, s.submittedAt ≤ t) ∧
      (s.status = .submitted ∨ s.status = .late → s.score = none) ∧
      (h.dueDate < s.submittedAt → h.allowLateSubmissions = true ∧
        (s.status = .late ∨ s.status = .graded ∨ s.status = .resubmitRequired)))
    ⟨fun ⟨a, b, c, d⟩ => ⟨a, b, c, d⟩, fun ⟨a, b, c, d⟩ => ⟨a, b, c, d⟩⟩

instance (db : Db) : Decidable (Sound db) :=
  inferInstanceAs (Decidable (∀ _ ∈ _, ∃ _ ∈ _, _))

instance (date : DateParser) (school : School) (db : Db) (call : Call) :
    Decidable (Kept date school db call) := by
  cases call <;> unfold Kept <;> infer_instance

instance (school : School) (db : Db) (call : Call) : Decidable (Fits school db call) := by
  cases call with
  | createHomework tenantId dto user => exact isTrue trivial
  | submitHomework tenantId homeworkId dto user now =>
    have (h : Homework) (k : Id) : Decidable
        (match db.submission homeworkId k with
        | some s => s.score = none ∧
            (Owns school user.id k ∨ s.resubmit dto now (h.isLate now) = s)
        | none => school.students.has (some k) = true → Owns school user.id k) := by
      cases db.submission homeworkId k <;> infer_instance
    unfold Fits MayHandIn
    infer_instance
  | gradeSubmission tenantId submissionId gradedById dto now =>
    unfold Fits MayGrade
    infer_instance

/-- **Own work.** Along a run every submission stays consistent, and every student's call changes
that student's own submission only, exactly if every call fits. -/
theorem own_work_iff {date : DateParser} {school : School} {db : Db} (sound : Sound db)
    (calls : List Call) :
    Along (step date school) (Kept date school) db calls ↔
      Along (step date school) (Fits school) db calls :=
  along_iff (I := Sound) (D := fun _ _ => True) (fun _ call _ sound => kept_iff_fits sound call)
    (fun _ _ _ kept _ => kept.1) sound (along_of_forall fun _ _ => trivial)

/-! ### A class in calculus -/

namespace Calculus

/-- Two students, 1 and 2, and their teacher. -/
def school : School where
  users := ⟨[⟨11⟩, ⟨12⟩, ⟨20⟩], by decide, by decide⟩
  classrooms := ⟨[⟨1, 1⟩], by decide, by decide⟩
  lessons := ⟨[⟨1⟩], by decide, by decide⟩
  students := ⟨[⟨1, 1, 11⟩, ⟨2, 1, 12⟩], by decide, by decide⟩
  teachers := ⟨[⟨1, 1, 20⟩], by decide, by decide⟩
  teacherLessons := [⟨1, 1, 1⟩]

def date : DateParser := fun text => if text = "2026-09-10" then some 100 else none

def setHomework : Call :=
  .createHomework 1 ⟨1, 1, none, "2026-09-10", some 0, none, some true, none⟩ (some ⟨20, true⟩)

def handIn (userId : Id) (studentId : Option Id) (now : Instant) : Call :=
  .submitHomework 1 1 { studentId } ⟨userId, false⟩ now

def grade (score : ℚ) (again : Bool) (now : Instant) : Call :=
  .gradeSubmission 1 1 20 { score, resubmitRequired := some again } now

end Calculus

open Calculus

/-- Work handed in twice before it is graded, and late work of another student. -/
theorem own_work_calculus : Along (step Calculus.date Calculus.school)
    (Kept Calculus.date Calculus.school) {}
    [setHomework, handIn 11 none 40, handIn 11 (some 1) 90, Calculus.grade 20 false 95,
      handIn 12 none 110] :=
  (own_work_iff (by decide) _).mpr (by decide +kernel)

/-- Graded work that is handed in again waits for its grade with the old one; and a student
hands in for another. -/
theorem not_own_work :
    (¬ Along (step Calculus.date Calculus.school) (Kept Calculus.date Calculus.school) {}
      [setHomework, handIn 11 none 40, Calculus.grade 20 true 50, handIn 11 none 60]) ∧
      ¬ Along (step Calculus.date Calculus.school) (Kept Calculus.date Calculus.school) {}
        [setHomework, handIn 11 none 40, handIn 12 (some 1) 50] := by
  constructor <;> decide +kernel

end Rokad.Homeworks
