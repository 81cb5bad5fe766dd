import Rokad.Base.Doubles
import Rokad.Base.Process
import Rokad.Common.Http

/-!
# Ka

Activities, rewards, and what students hand in and claim. The `Float` columns hold finite doubles: a
value that is not one has no place in a column.
-/

namespace Rokad.Ka

open Rokad.Base Rokad.Common

inductive KaActivityStatus where
  | pending | approved | rejected
deriving DecidableEq

inductive KaRewardStatus where
  | pending | approved | delivered | rejected
deriving DecidableEq

structure StudentProfile where
  (id tenantId userId : Id)
  (kaScore kaToken : ℚ := 0)

structure KaActivity where
  (id tenantId : Id)

structure KaStudentActivity where
  (id tenantId studentId activityId : Id)
  details : Option String := none
  scoreAwarded : Option ℚ := none
  status : KaActivityStatus := .pending
  adminComment : Option String := none

structure KaReward where
  (id tenantId : Id)
  minToken : ℚ
  maxToken : Option ℚ := none

structure KaStudentReward where
  (id tenantId studentId rewardId : Id)
  tokenCost : ℚ
  status : KaRewardStatus := .pending

instance : Record StudentProfile where
  key s := s.id
  clash a b := a.userId == b.userId

instance : Record KaActivity where
  key a := a.id

instance : Record KaStudentActivity where
  key a := a.id

instance : Record KaReward where
  key r := r.id

instance : Record KaStudentReward where
  key r := r.id

structure Tables where
  students : Table StudentProfile := .empty
  activities : Table KaActivity := .empty
  submissions : Table KaStudentActivity := .empty
  rewards : Table KaReward := .empty
  claims : Table KaStudentReward := .empty

structure ForeignKeys (t : Tables) : Prop where
  submission_student : Table.References (fun a => some a.studentId) t.submissions t.students
  submission_activity : Table.References (fun a => some a.activityId) t.submissions t.activities
  claim_student : Table.References (fun c => some c.studentId) t.claims t.students
  claim_reward : Table.References (fun c => some c.rewardId) t.claims t.rewards

/-- A database: tables whose foreign keys hold. -/
structure Db extends Tables where
  foreignKeys : ForeignKeys toTables

/-! ### Statements -/

/-- A double on its way into a `Float` column. -/
def column : Number → Result ℚ
  | .finite x => .ok x
  | _ => .error (.database .numericOverflow)

@[simp] theorem column_eq_ok {x : Number} {a : ℚ} : column x = .ok a ↔ x = .finite a := by
  cases x <;> simp [column]

/-- What a review sets of a submission. -/
structure Review where
  status : KaActivityStatus
  scoreAwarded : Option ℚ := none
  adminComment : Option String := none

namespace Review

/-- An absent value leaves its column alone. -/
def apply (data : Review) (a : KaStudentActivity) : KaStudentActivity :=
  { a with
    status := data.status
    scoreAwarded := data.scoreAwarded <|> a.scoreAwarded
    adminComment := data.adminComment <|> a.adminComment }

theorem key_apply (data : Review) (a : KaStudentActivity) :
    Record.key (data.apply a) = Record.key a := rfl

end Review

namespace StudentProfile

def award (kaScore kaToken : ℚ) (s : StudentProfile) : StudentProfile := { s with kaScore, kaToken }

def setToken (kaToken : ℚ) (s : StudentProfile) : StudentProfile := { s with kaToken }

theorem key_award (kaScore kaToken : ℚ) (s : StudentProfile) :
    Record.key (s.award kaScore kaToken) = Record.key s := rfl

theorem key_setToken (kaToken : ℚ) (s : StudentProfile) :
    Record.key (s.setToken kaToken) = Record.key s := rfl

end StudentProfile

def KaStudentReward.setStatus (status : KaRewardStatus) (c : KaStudentReward) : KaStudentReward :=
  { c with status }

theorem KaStudentReward.key_setStatus (status : KaRewardStatus) (c : KaStudentReward) :
    Record.key (c.setStatus status) = Record.key c := rfl

/-- `addToken` is an `increment`, and a `decrement` by the negated amount. -/
inductive Statement where
  | createSubmission (row : KaStudentActivity)
  | updateSubmission (id : Id) (data : Review)
  | award (id : Id) (kaScore kaToken : ℚ)
  | addToken (id : Id) (change : ℚ)
  | createClaim (row : KaStudentReward)
  | setClaimStatus (id : Id) (status : KaRewardStatus)

/-- The id of a new row is the table's to choose. -/
def Tables.write (t : Tables) : Statement → Result Tables
  | .createSubmission row => do
      referred t.students (some row.studentId)
      referred t.activities (some row.activityId)
      let submissions ← insertRow t.submissions { row with id := t.submissions.fresh }
      return { t with submissions }
  | .updateSubmission id data => do
      let submissions ← updateRow t.submissions id data.apply data.key_apply
      return { t with submissions }
  | .award id kaScore kaToken => do
      let students ← updateRow t.students id (StudentProfile.award kaScore kaToken)
        (StudentProfile.key_award kaScore kaToken)
      return { t with students }
  | .addToken id change => do
      let student ← orFail (t.students.find? id) (.database .recordNotFound)
      let kaToken ← column (toDouble (student.kaToken + change))
      let students ← updateRow t.students id (StudentProfile.setToken kaToken)
        (StudentProfile.key_setToken kaToken)
      return { t with students }
  | .createClaim row => do
      referred t.students (some row.studentId)
      referred t.rewards (some row.rewardId)
      let claims ← insertRow t.claims { row with id := t.claims.fresh }
      return { t with claims }
  | .setClaimStatus id status => do
      let claims ← updateRow t.claims id (KaStudentReward.setStatus status)
        (KaStudentReward.key_setStatus status)
      return { t with claims }

theorem ForeignKeys.write {t t' : Tables} (keys : ForeignKeys t) {s : Statement}
    (done : t.write s = .ok t') : ForeignKeys t' := by
  cases s <;> simp only [Tables.write, do_eq_ok, referred_eq_ok, insertRow_eq_ok, updateRow_eq_ok,
    exists_const] at done
  case createSubmission row =>
      obtain ⟨student, activity, submissions, inserted, rfl⟩ := done
      exact
        { keys with
          submission_student := keys.submission_student.insert_child inserted student
          submission_activity := keys.submission_activity.insert_child inserted activity }
  case updateSubmission id data =>
      obtain ⟨submissions, updated, rfl⟩ := done
      exact
        { keys with
          submission_student := keys.submission_student.update_child updated fun _ found => found
          submission_activity := keys.submission_activity.update_child updated
            fun _ found => found }
  case award id kaScore kaToken =>
      obtain ⟨students, updated, rfl⟩ := done
      exact
        { keys with
          submission_student := keys.submission_student.update_parent updated
          claim_student := keys.claim_student.update_parent updated }
  case addToken id change =>
      obtain ⟨_, _, _, _, students, updated, rfl⟩ := done
      exact
        { keys with
          submission_student := keys.submission_student.update_parent updated
          claim_student := keys.claim_student.update_parent updated }
  case createClaim row =>
      obtain ⟨student, reward, claims, inserted, rfl⟩ := done
      exact
        { keys with
          claim_student := keys.claim_student.insert_child inserted student
          claim_reward := keys.claim_reward.insert_child inserted reward }
  case setClaimStatus id status =>
      obtain ⟨claims, updated, rfl⟩ := done
      exact
        { keys with
          claim_student := keys.claim_student.update_child updated fun _ found => found
          claim_reward := keys.claim_reward.update_child updated fun _ found => found }

namespace Db

def write (db : Db) (s : Statement) : Result Db :=
  attach (db.toTables.write s) fun t done => ⟨t, db.foreignKeys.write done⟩

theorem write_eq_ok {db db' : Db} {s : Statement} :
    db.write s = .ok db' ↔ db.toTables.write s = .ok db'.toTables :=
  attach_eq_ok (fun a b same => by cases a; cases b; cases same; rfl) fun _ _ => rfl

variable {db db' : Db} {s : Statement}

section

variable (done : db.write s = .ok db')
include done

theorem write_students :
    match s with
    | .award id kaScore kaToken => db.students.update id (StudentProfile.award kaScore kaToken)
        (StudentProfile.key_award kaScore kaToken) = some db'.students
    | .addToken id change => ∃ student kaToken, db.students.find? id = some student ∧
        toDouble (student.kaToken + change) = .finite kaToken ∧
        db.students.update id (StudentProfile.setToken kaToken)
          (StudentProfile.key_setToken kaToken) = some db'.students
    | _ => db'.students = db.students := by
  rw [write_eq_ok] at done
  cases s <;> simp only [Tables.write, do_eq_ok, insertRow_eq_ok, updateRow_eq_ok,
    column_eq_ok] at done <;> grind

theorem write_submissions :
    match s with
    | .createSubmission row =>
      db.submissions.insert { row with id := db.submissions.fresh } = some db'.submissions
    | .updateSubmission id data =>
      db.submissions.update id data.apply data.key_apply = some db'.submissions
    | _ => db'.submissions = db.submissions := by
  rw [write_eq_ok] at done
  cases s <;> simp only [Tables.write, do_eq_ok, insertRow_eq_ok, updateRow_eq_ok,
    column_eq_ok] at done <;> grind

theorem write_claims :
    match s with
    | .createClaim row => db.claims.insert { row with id := db.claims.fresh } = some db'.claims
    | .setClaimStatus id status => db.claims.update id (KaStudentReward.setStatus status)
        (KaStudentReward.key_setStatus status) = some db'.claims
    | _ => db'.claims = db.claims := by
  rw [write_eq_ok] at done
  cases s <;> simp only [Tables.write, do_eq_ok, insertRow_eq_ok, updateRow_eq_ok,
    column_eq_ok] at done <;> grind

theorem write_rewards : db'.rewards = db.rewards := by
  rw [write_eq_ok] at done
  cases s <;> simp only [Tables.write, do_eq_ok, insertRow_eq_ok, updateRow_eq_ok,
    column_eq_ok] at done <;> grind

end

/-- The status of a stored claim can be set. -/
theorem write_setClaimStatus {id : Id} {claim : KaStudentReward} (status : KaRewardStatus)
    (found : db.claims.find? id = some claim) :
    ∃ db', db.write (.setClaimStatus id status) = .ok db' := by
  obtain ⟨claims, updated⟩ : ∃ claims, db.claims.update id (KaStudentReward.setStatus status)
        (KaStudentReward.key_setStatus status) = some claims :=
    update_isSome found fun _ _ => rfl
  have tables : db.toTables.write (.setClaimStatus id status) =
      .ok { db.toTables with claims } := by
    simp only [Tables.write, do_eq_ok, updateRow_eq_ok]
    exact ⟨claims, updated, rfl⟩
  exact ⟨⟨_, db.foreignKeys.write tables⟩, Db.write_eq_ok.mpr tables⟩

end Db

/-!
## Awards and claims

`KaActivitiesService` and `KaRewardsService`. An award sets the balance of tokens to 0.95 of the
new score; a claim takes its cost from the balance, and a claim that is rejected gives it back. A
call is a sequence of statements without a transaction: one that fails midway keeps what it wrote.
-/

/-! ### Programs -/

inductive Op where
  | read
  | write (s : Statement)

/-- A write answers with the key of its row. -/
abbrev Op.Answer : Op → Type
  | .read => Db
  | .write _ => Result Id

def Statement.target (db : Db) : Statement → Id
  | .createSubmission _ => db.submissions.fresh
  | .createClaim _ => db.claims.fresh
  | .updateSubmission id _ | .award id _ _ | .addToken id _ | .setClaimStatus id _ => id

def exec : (op : Op) → Db → Db × op.Answer
  | .read, db => (db, db)
  | .write s, db =>
    match db.write s with
    | .ok next => (next, .ok (s.target db))
    | .error e => (db, .error e)

abbrev KaProg := Prog Op Op.Answer Failure

/-- What a look-up finds. -/
def snapshot : KaProg Db := Prog.step Op.read fun db => Prog.ret (.ok db)

def perform (s : Statement) : KaProg Id := Prog.step (Op.write s) fun done => Prog.ret done

section

variable {α : Type} (db : Db)

theorem run_snapshot (f : Db → KaProg α) : (snapshot >>= f).run exec db = (f db).run exec db := rfl

theorem run_perform (s : Statement) (f : Id → KaProg α) :
    (perform s >>= f).run exec db =
      match db.write s with
      | .ok next => (f (s.target db)).run exec next
      | .error e => (db, .error e) := by
  simp only [perform, Prog.step_bind, Prog.run_step, exec]
  cases db.write s <;> rfl

theorem run_ret_bind {β : Type} (x : Result β) (f : β → KaProg α) :
    ((Prog.ret x : KaProg β) >>= f).run exec db =
      match x with
      | .ok a => (f a).run exec db
      | .error e => (db, .error e) := by
  cases x <;> rfl

end

/-! ### Activities -/

structure SubmitKaActivityDto where
  activityId : Id
  details : Option String := none

structure DirectAwardKaActivityDto where
  (studentId activityId : Id)
  scoreAwarded : ℚ
  (details adminComment : Option String := none)

namespace Db

variable (db : Db)

def studentOfUser (userId : Id) : Option StudentProfile :=
  db.students.rows.find? (·.userId = userId)

def activityOf (tenantId id : Id) : Option KaActivity :=
  (db.activities.find? id).filter (·.tenantId = tenantId)

def rewardOf (tenantId id : Id) : Option KaReward :=
  (db.rewards.find? id).filter (·.tenantId = tenantId)

def claimOf (tenantId id : Id) : Option KaStudentReward :=
  (db.claims.find? id).filter (·.tenantId = tenantId)

/-- A submission with its student. -/
def submissionOf (tenantId id : Id) : Option (KaStudentActivity × StudentProfile) := do
  let submission ← (db.submissions.find? id).filter (·.tenantId = tenantId)
  let student ← db.students.find? submission.studentId
  return (submission, student)

end Db

def submitActivity (tenantId userId : Id) (dto : SubmitKaActivityDto) : KaProg Unit := do
  let db ← snapshot
  let student ← Prog.ret (orFail (db.studentOfUser userId) (.notFound "Student profile not found"))
  let db ← snapshot
  let activity ← Prog.ret (orFail (db.activityOf tenantId dto.activityId)
    (.notFound "Activity not found"))
  let _ ← perform (.createSubmission
    { id := 0, tenantId, studentId := student.id, activityId := activity.id,
      details := dto.details })

/-- The double `0.95`. -/
def rate : Number := toDouble (95 / 100)

/-- `Math.max(0, currentScore + scoreAwarded)` -/
def newScore (kaScore scoreAwarded : ℚ) : Number :=
  (Number.finite 0).max ((Number.finite kaScore).add (.finite scoreAwarded))

/-- `Math.floor(score * 0.95)` -/
def share (score : Number) : Number := (score.mul rate).floor

def awardScore (student : StudentProfile) (scoreAwarded : ℚ) : KaProg Unit := do
  let score := newScore student.kaScore scoreAwarded
  let kaScore ← Prog.ret (column score)
  let kaToken ← Prog.ret (column ((Number.finite 0).max (share score)))
  let _ ← perform (.award student.id kaScore kaToken)

/-- `if (dto.status === 'APPROVED' && dto.scoreAwarded)` -/
def Review.awards (dto : Review) : Option ℚ :=
  if dto.status = .approved then dto.scoreAwarded.filter (· ≠ 0) else none

def reviewSubmission (tenantId submissionId : Id) (dto : Review) : KaProg KaStudentActivity := do
  let db ← snapshot
  let (submission, student) ← Prog.ret (orFail (db.submissionOf tenantId submissionId)
    (.notFound "Submission not found"))
  Prog.ret (require (submission.status = .pending) (.badRequest "Submission is already reviewed"))
  let _ ← perform (.updateSubmission submissionId dto)
  match dto.awards with
  | some scoreAwarded => awardScore student scoreAwarded
  | none => pure ()
  pure (dto.apply submission)

def directAwardActivity (tenantId : Id) (dto : DirectAwardKaActivityDto) :
    KaProg KaStudentActivity := do
  let db ← snapshot
  let student ← Prog.ret (orFail
    ((db.students.find? dto.studentId).filter (·.tenantId = tenantId))
    (.notFound "دانش‌آموز یافت نشد"))
  let db ← snapshot
  let activity ← Prog.ret (orFail (db.activityOf tenantId dto.activityId)
    (.notFound "فعالیت یافت نشد"))
  let record : KaStudentActivity :=
    { id := 0, tenantId, studentId := student.id, activityId := activity.id,
      details := dto.details, scoreAwarded := some dto.scoreAwarded,
      adminComment := some ((truthy dto.adminComment).getD "ثبت مستقیم توسط کادر مدرسه"),
      status := .approved }
  let id ← perform (.createSubmission record)
  awardScore student dto.scoreAwarded
  pure { record with id }

/-! ### Rewards -/

structure ClaimKaRewardDto where
  rewardId : Id
  customTokens : Option ℚ := none

def KaReward.tokenCost (reward : KaReward) (customTokens : Option ℚ) : ℚ :=
  match customTokens.filter (0 < ·) with
  | none => reward.minToken
  | some custom =>
    match reward.maxToken.filter (0 < ·) with
    | none => max custom reward.minToken
    | some maxToken => min (max custom reward.minToken) maxToken

def claimReward (tenantId userId : Id) (dto : ClaimKaRewardDto) : KaProg KaStudentReward := do
  let db ← snapshot
  let student ← Prog.ret (orFail (db.studentOfUser userId)
    (.notFound "پروفایل دانش‌آموزی یافت نشد"))
  let db ← snapshot
  let reward ← Prog.ret (orFail (db.rewardOf tenantId dto.rewardId)
    (.notFound "پاداش مورد نظر یافت نشد"))
  let tokenCost := reward.tokenCost dto.customTokens
  Prog.ret (require (¬ student.kaToken < tokenCost)
    (.badRequest "موجودی توکن شما برای این پاداش کافی نیست"))
  if 0 < tokenCost then
    let _ ← perform (.addToken student.id (-tokenCost))
  let claim : KaStudentReward :=
    { id := 0, tenantId, studentId := student.id, rewardId := reward.id, tokenCost }
  let id ← perform (.createClaim claim)
  pure { claim with id }

def fulfillReward (tenantId claimId : Id) (status : KaRewardStatus) : KaProg KaStudentReward := do
  let db ← snapshot
  let claim ← Prog.ret (orFail (db.claimOf tenantId claimId) (.notFound "Reward claim not found"))
  if status = .rejected ∧ claim.status ≠ .rejected then
    let _ ← perform (.addToken claim.studentId claim.tokenCost)
  let _ ← perform (.setClaimStatus claimId status)
  pure (claim.setStatus status)

/-! ### Calls -/

inductive Call where
  | submitActivity (tenantId userId : Id) (dto : SubmitKaActivityDto)
  | reviewSubmission (tenantId submissionId : Id) (dto : Review)
  | directAwardActivity (tenantId : Id) (dto : DirectAwardKaActivityDto)
  | claimReward (tenantId userId : Id) (dto : ClaimKaRewardDto)
  | fulfillReward (tenantId claimId : Id) (status : KaRewardStatus)

/-- One call, alone. -/
def serve (db : Db) : Call → Db
  | .submitActivity tenantId userId dto => ((submitActivity tenantId userId dto).run exec db).1
  | .reviewSubmission tenantId id dto => ((reviewSubmission tenantId id dto).run exec db).1
  | .directAwardActivity tenantId dto => ((directAwardActivity tenantId dto).run exec db).1
  | .claimReward tenantId userId dto => ((claimReward tenantId userId dto).run exec db).1
  | .fulfillReward tenantId id status => ((fulfillReward tenantId id status).run exec db).1

end Rokad.Ka
