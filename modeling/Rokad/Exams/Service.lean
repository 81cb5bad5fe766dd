import Rokad.Base.Doubles
import Rokad.Base.Shuffle
import Rokad.Common.Http
import Rokad.Common.Jalali

/-!
# Exams

Papers and their answers, with the exams and students that the calls read. A score is a double, and
sums of scores are sums of doubles; every way to put a question into an exam validates a positive
score. The database lists questions and options in any order it likes.
-/

namespace Rokad.Exams

open Rokad.Base Rokad.Common

inductive QuestionType where
  | multipleChoice | descriptive | trueFalse | fillInBlank
deriving DecidableEq

inductive ParticipationStatus where
  | inProgress | submitted | timedOut | absent
deriving DecidableEq

inductive DifficultyLevel where
  | easy | medium | hard | olympiad

structure QuestionOption where
  id : Id
  text : String
  (formulaHtml imageUrl : Option String := none)
  isCorrect : Bool := false
  orderIndex : ℤ := 1

structure Question where
  id : Id
  type : QuestionType := .multipleChoice
  difficulty : DifficultyLevel := .medium
  text : String
  formulaHtml : Option String := none
  imageUrls : List String := []
  suggestedTimeSeconds : ℤ := 60
  solutionExplanation : Option String := none
  options : List QuestionOption := []
  options_nodup : (options.map (·.id)).Nodup := by decide

/-- A question as it counts in an exam. -/
structure ExamQuestion where
  question : Question
  score : ℚ
  double : Exact score
  positive : 0 < score

def ExamQuestion.questionId (eq : ExamQuestion) : Id := eq.question.id

structure Exam where
  (id tenantId : Id)
  title : String
  durationMinutes : ℤ := 60
  (startTime endTime : Instant)
  totalScore : ℚ := 20
  (shuffleQuestions shuffleOptions : Bool := true)
  classroomIds : List Id := []
  questions : List ExamQuestion := []
  questions_nodup : (questions.map (·.questionId)).Nodup := by decide

structure StudentProfile where
  (id tenantId userId : Id)
  classroomIds : List Id := []

/-- What a call reads and leaves alone. -/
structure School where
  students : List StudentProfile := []
  exams : List Exam := []

structure ExamParticipation where
  (id tenantId examId studentId : Id)
  startedAt : Instant
  submittedAt : Option Instant := none
  serverDeadline : Instant
  totalScore : Option Number := none
  isGraded : Bool := false
  tabSwitchCount : ℕ := 0
  flaggedForReview : Bool := false
  graceScore : ℚ := 0
  graceReason : Option String := none
  status : ParticipationStatus := .inProgress
  questionOrder : List Id := []
  optionOrders : List (Id × List Id) := []
  teacherFeedback : Option String := none
deriving DecidableEq

structure ExamAnswer where
  (id participationId questionId : Id)
  selectedOptionId : Option Id := none
  descriptiveAnswer : Option String := none
  scoreAwarded : Option ℚ := none
  isAutoGraded : Bool := false
  teacherComment : Option String := none

instance : Record ExamParticipation where
  key p := p.id
  clash a b := a.examId == b.examId && a.studentId == b.studentId

instance : Record ExamAnswer where
  key a := a.id
  clash a b := a.participationId == b.participationId && a.questionId == b.questionId

structure Db where
  participations : Table ExamParticipation := .empty
  answers : Table ExamAnswer := .empty
  answer_participation : Table.References (fun a => some a.participationId) answers participations

/-! ### Statements -/

/-- What an update sets of a paper, never its key or its unique columns. -/
structure ParticipationUpdate where
  set : ExamParticipation → ExamParticipation
  key : ∀ p, Record.key (set p) = Record.key p := by intros; rfl
  unique : ∀ p q, Record.clash (set p) q = Record.clash p q := by intros; rfl

structure AnswerUpdate where
  set : ExamAnswer → ExamAnswer
  key : ∀ a, Record.key (set a) = Record.key a := by intros; rfl
  unique : ∀ a b, Record.clash (set a) b = Record.clash a b := by intros; rfl
  participation : ∀ a, (set a).participationId = a.participationId := by intros; rfl

namespace Db

/-- The id of a new row is the table's to choose. -/
def createParticipation (db : Db) (row : ExamParticipation) : Result Db :=
  match inserted : db.participations.insert { row with id := db.participations.fresh } with
  | none => .error (.database .uniqueConstraint)
  | some participations => .ok
      { db with
        participations
        answer_participation := db.answer_participation.insert_parent inserted }

def updateParticipation (db : Db) (id : Id) (data : ParticipationUpdate) : Result Db :=
  match updated : db.participations.update id data.set data.key with
  | none => .error (.database .recordNotFound)
  | some participations => .ok
      { db with
        participations
        answer_participation := db.answer_participation.update_parent updated }

def createAnswer (db : Db) (row : ExamAnswer) : Result Db :=
  if present : db.participations.has (some row.participationId) = true then
    match inserted : db.answers.insert { row with id := db.answers.fresh } with
    | none => .error (.database .uniqueConstraint)
    | some answers => .ok
        { db with
          answers
          answer_participation := db.answer_participation.insert_child inserted present }
  else .error (.database .foreignKey)

def updateAnswer (db : Db) (id : Id) (data : AnswerUpdate) : Result Db :=
  match updated : db.answers.update id data.set data.key with
  | none => .error (.database .recordNotFound)
  | some answers => .ok
      { db with
        answers
        answer_participation := db.answer_participation.update_child updated
          fun row found => (congrArg (fun k => db.participations.has (some k))
            (data.participation row)).trans found }

/-- The answer of a paper to a question. -/
def answer? (db : Db) (participationId questionId : Id) : Option ExamAnswer :=
  db.answers.rows.find? fun a => a.participationId = participationId ∧ a.questionId = questionId

/-- The paper of a student. -/
def paper? (db : Db) (examId studentId : Id) : Option ExamParticipation :=
  db.participations.rows.find? fun p => p.examId = examId ∧ p.studentId = studentId

/-- `findMany({ where: { participationId } })` -/
def answersOf (db : Db) (participationId : Id) : List ExamAnswer :=
  db.answers.rows.filter (·.participationId = participationId)

variable {db db' : Db}

theorem createParticipation_ok {row : ExamParticipation}
    (done : db.createParticipation row = .ok db') :
    db.participations.insert { row with id := db.participations.fresh } =
        some db'.participations ∧ db'.answers = db.answers := by
  unfold createParticipation at done
  split at done
  · cases done
  · rename_i participations inserted
    cases done
    exact ⟨inserted, rfl⟩

theorem updateParticipation_ok {id : Id} {data : ParticipationUpdate}
    (done : db.updateParticipation id data = .ok db') :
    db.participations.update id data.set data.key = some db'.participations ∧
      db'.answers = db.answers := by
  unfold updateParticipation at done
  split at done
  · cases done
  · rename_i participations updated
    cases done
    exact ⟨updated, rfl⟩

theorem exists_updateParticipation {id : Id} {row : ExamParticipation}
    (found : db.participations.find? id = some row) (data : ParticipationUpdate) :
    ∃ db', db.updateParticipation id data = .ok db' := by
  obtain ⟨participations, updated⟩ : ∃ t, db.participations.update id data.set data.key = some t :=
    update_isSome found data.unique
  unfold updateParticipation
  split
  · rename_i none
    rw [updated] at none
    cases none
  · exact ⟨_, rfl⟩

theorem createAnswer_ok {row : ExamAnswer} (done : db.createAnswer row = .ok db') :
    db.answers.insert { row with id := db.answers.fresh } = some db'.answers ∧
      db'.participations = db.participations := by
  unfold createAnswer at done
  split at done
  · split at done
    · cases done
    · rename_i answers inserted
      cases done
      exact ⟨inserted, rfl⟩
  · cases done

theorem exists_createAnswer {row : ExamAnswer} {p : ExamParticipation}
    (found : db.participations.find? row.participationId = some p)
    (new : db.answer? row.participationId row.questionId = none) :
    ∃ db', db.createAnswer row = .ok db' := by
  have clear : ∀ a ∈ db.answers.rows,
      Record.clash a { row with id := db.answers.fresh } = false := by
    intro a mem
    have differ := List.find?_eq_none.mp new a mem
    simpa [Record.clash] using differ
  obtain ⟨answers, inserted⟩ := Table.insert_of_fresh db.answers
    { row with id := db.answers.fresh } rfl clear
  unfold createAnswer
  split
  · split
    · rename_i none
      rw [inserted] at none
      cases none
    · exact ⟨_, rfl⟩
  · rename_i absent
    exact absurd (has_some_iff.mpr ⟨p, found⟩) absent

theorem updateAnswer_ok {id : Id} {data : AnswerUpdate}
    (done : db.updateAnswer id data = .ok db') :
    db.answers.update id data.set data.key = some db'.answers ∧
      db'.participations = db.participations := by
  unfold updateAnswer at done
  split at done
  · cases done
  · rename_i answers updated
    cases done
    exact ⟨updated, rfl⟩

theorem exists_updateAnswer {id : Id} {row : ExamAnswer}
    (found : db.answers.find? id = some row) (data : AnswerUpdate) :
    ∃ db', db.updateAnswer id data = .ok db' := by
  obtain ⟨answers, updated⟩ : ∃ t, db.answers.update id data.set data.key = some t :=
    update_isSome found data.unique
  unfold updateAnswer
  split
  · rename_i none
    rw [updated] at none
    cases none
  · exact ⟨_, rfl⟩

end Db

/-!
## Sitting an exam

`startExam`, `submitExamAnswers` and `gradeDescriptiveAnswers` of `ExamsService`. The first two
read the paper and write later, so each is a `read` that settles what will be written, and a `write`
on whatever the tables hold by then.
-/

/-! ### Reading -/

def School.studentOf (school : School) (tenantId userId : Id) : Option StudentProfile :=
  school.students.find? fun s => s.userId = userId ∧ s.tenantId = tenantId

def School.exam? (school : School) (id : Id) : Option Exam := school.exams.find? (·.id = id)

def School.examOf (school : School) (tenantId id : Id) : Option Exam :=
  school.exams.find? fun exam => exam.id = id ∧ exam.tenantId = tenantId

def Exam.question? (exam : Exam) (questionId : Id) : Option ExamQuestion :=
  exam.questions.find? (·.questionId = questionId)

/-- A paper with its exam. -/
def paperWithExam (school : School) (db : Db) (examId studentId : Id) :
    Option (ExamParticipation × Exam) := do
  let paper ← db.paper? examId studentId
  let exam ← school.exam? paper.examId
  return (paper, exam)

/-! ### Starting -/

structure PaperOption where
  id : Id
  text : String
  (formulaHtml imageUrl : Option String)
  orderIndex : ℤ

structure PaperQuestion where
  questionId : Id
  score : ℚ
  type : QuestionType
  difficulty : DifficultyLevel
  text : String
  formulaHtml : Option String
  imageUrls : List String
  suggestedTimeSeconds : ℤ
  options : List PaperOption

structure StartedExam where
  examId : Id
  title : String
  durationMinutes : ℤ
  totalScore : ℚ
  participationId : Id
  (startedAt serverDeadline : Instant)
  status : ParticipationStatus
  questions : List PaperQuestion

def QuestionOption.shown (opt : QuestionOption) : PaperOption where
  id := opt.id
  text := opt.text
  formulaHtml := opt.formulaHtml
  imageUrl := opt.imageUrl
  orderIndex := opt.orderIndex

def ExamQuestion.shown (examQ : ExamQuestion) (options : List QuestionOption) : PaperQuestion where
  questionId := examQ.question.id
  score := examQ.score
  type := examQ.question.type
  difficulty := examQ.question.difficulty
  text := examQ.question.text
  formulaHtml := examQ.question.formulaHtml
  imageUrls := examQ.question.imageUrls
  suggestedTimeSeconds := examQ.question.suggestedTimeSeconds
  options := options.map (·.shown)

/-- The list, shuffled if this is wanted, and the draws that are left. -/
def shuffled {α : Type} (wanted : Bool) (draws : Draws) (list : List α) : List α × Draws :=
  if wanted then (shuffleArray draws list, draws.rest (list.length - 1)) else (list, draws)

/-- The loop over the questions. -/
def optionOrders (shuffleOptions : Bool) : List ExamQuestion → Draws → List (Id × List Id)
  | [], _ => []
  | eq :: questions, draws =>
    if eq.question.options = [] then optionOrders shuffleOptions questions draws
    else
      let opts := shuffled shuffleOptions draws eq.question.options
      (eq.questionId, opts.1.map (·.id)) :: optionOrders shuffleOptions questions opts.2

namespace Exam

variable (exam : Exam)

/-- `Math.min(exam.endTime, now + (durationMinutes + 1) * 60 * 1000)` -/
def deadline (now : Instant) : Instant :=
  min exam.endTime (now + (exam.durationMinutes + 1) * 60 * 1000)

/-- The new paper; its id is the table's to choose. -/
def row (studentId : Id) (now : Instant) (draws : Draws) : ExamParticipation :=
  let questionList := shuffled exam.shuffleQuestions draws exam.questions
  { id := 0, tenantId := exam.tenantId, examId := exam.id, studentId, startedAt := now
    serverDeadline := exam.deadline now
    questionOrder := questionList.1.map (·.questionId)
    optionOrders := optionOrders exam.shuffleOptions exam.questions questionList.2 }

/-- A question with its options in the order of the paper, without the key to it. -/
def orderedQuestion (participation : ExamParticipation) (qid : Id) : Option PaperQuestion :=
  (exam.question? qid).map fun examQ =>
    examQ.shown <|
      match participation.optionOrders.lookup qid with
      | some savedOptionOrder =>
        savedOptionOrder.filterMap fun oid => examQ.question.options.find? (·.id = oid)
      | none => examQ.question.options

def orderedQuestions (participation : ExamParticipation) : List PaperQuestion :=
  participation.questionOrder.filterMap (exam.orderedQuestion participation)

def reply (participation : ExamParticipation) : StartedExam where
  examId := exam.id
  title := exam.title
  durationMinutes := exam.durationMinutes
  totalScore := exam.totalScore
  participationId := participation.id
  startedAt := participation.startedAt
  serverDeadline := participation.serverDeadline
  status := participation.status
  questions := exam.orderedQuestions participation

end Exam

/-- The checks, which give the student and the exam. -/
def School.letIn (school : School) (tenantId examId studentUserId : Id) (now : Instant) :
    Result (StudentProfile × Exam) := do
  let student ← orFail (school.studentOf tenantId studentUserId)
    (.forbidden "پروفایل دانش‌آموزی یافت نشد")
  let exam ← orFail (school.examOf tenantId examId) (.notFound "آزمون یافت نشد")
  require (exam.classroomIds.any (· ∈ student.classroomIds))
    (.forbidden "شما مجاز به شرکت در این آزمون نیستید")
  require (¬ now < exam.startTime) (.badRequest "زمان برگزاری آزمون هنوز فرا نرسیده است")
  require (¬ exam.endTime < now) (.badRequest "مهلت شرکت در آزمون به پایان رسیده است")
  return (student, exam)

theorem letIn_eq_ok {school : School} {t e u : Id} {now : Instant} {student : StudentProfile}
    {exam : Exam} : school.letIn t e u now = .ok (student, exam) ↔
      school.studentOf t u = some student ∧ school.examOf t e = some exam ∧
        exam.classroomIds.any (· ∈ student.classroomIds) = true ∧ exam.startTime ≤ now ∧
        now ≤ exam.endTime := by
  simp only [School.letIn, do_eq_ok, not_lt]
  constructor
  · rintro ⟨_, isStudent, _, isExam, _, enrolled, _, begun, _, open_, ⟨⟩⟩
    exact ⟨isStudent, isExam, enrolled, begun, open_⟩
  · rintro ⟨isStudent, isExam, enrolled, begun, open_⟩
    exact ⟨_, isStudent, _, isExam, (), enrolled, (), begun, (), open_, rfl⟩

/-- What `startExam` does after its readings: show the paper there is, or make one. -/
inductive StartStep where
  | render (exam : Exam) (paper : ExamParticipation)
  | create (exam : Exam) (row : ExamParticipation)

namespace startExam

def read (school : School) (tenantId examId studentUserId : Id) (now : Instant)
    (draws : Draws) (db : Db) : Result StartStep := do
  let (student, exam) ← school.letIn tenantId examId studentUserId now
  match db.paper? examId student.id with
  | some paper => do
      require (¬ (paper.status = .submitted ∨ paper.status = .timedOut))
        (.conflict "شما قبلاً در این آزمون شرکت کرده و پاسخ‌های خود را ثبت کرده‌اید")
      return .render exam paper
  | none => return .create exam (exam.row student.id now draws)

def write (db : Db) : StartStep → Db × Result StartedExam
  | .render exam paper => (db, .ok (exam.reply paper))
  | .create exam row =>
    match db.createParticipation row with
    | .ok next => (next, .ok (exam.reply { row with id := db.participations.fresh }))
    | .error e => (db, .error e)

end startExam

def startExam (school : School) (tenantId examId studentUserId : Id) (now : Instant)
    (draws : Draws) (db : Db) : Db × Result StartedExam :=
  match startExam.read school tenantId examId studentUserId now draws db with
  | .ok step => startExam.write db step
  | .error e => (db, .error e)

/-! ### Submitting -/

structure SubmitAnswerItemDto where
  questionId : Id
  selectedOptionId : Option Id := none
  (descriptiveAnswer textAnswer : Option String := none)

structure SubmitExamAnswersDto where
  tabSwitchCount : Option ℕ := none
  answers : List SubmitAnswerItemDto

structure Submission where
  isGraded : Bool
  totalScore : Option Number
  flaggedForReview : Bool
deriving DecidableEq

/-- Whether answers to the question are marked against its key. -/
def Question.marked (q : Question) : Bool := q.type = .multipleChoice || q.type = .trueFalse

/-- The key of a question is its first correct option. -/
def Question.correct (q : Question) (selectedOptionId : Option Id) : Bool :=
  match q.options.find? (·.isCorrect) with
  | some option => selectedOptionId = some option.id
  | none => false

def ExamQuestion.award (eq : ExamQuestion) (ans : SubmitAnswerItemDto) : Option ℚ :=
  if eq.question.marked then
    some (if eq.question.correct ans.selectedOptionId then eq.score else 0)
  else none

/-- `ans.descriptiveAnswer || ans.textAnswer || null` -/
def SubmitAnswerItemDto.text (ans : SubmitAnswerItemDto) : Option String :=
  truthy ans.descriptiveAnswer <|> truthy ans.textAnswer

def ExamQuestion.record (eq : ExamQuestion) (participationId : Id) (ans : SubmitAnswerItemDto) :
    ExamAnswer :=
  { id := 0, participationId, questionId := ans.questionId,
    selectedOptionId := ans.selectedOptionId, descriptiveAnswer := ans.text,
    scoreAwarded := eq.award ans, isAutoGraded := eq.question.marked }

/-- The variables of the loop over the answers. -/
structure Grading where
  autoGradedTotalScore : Number := .finite 0
  hasDescriptiveQuestions : Bool := false
  answerRecords : List ExamAnswer := []

def gradeAnswer (exam : Exam) (participationId : Id) (g : Grading) (ans : SubmitAnswerItemDto) :
    Grading :=
  match exam.question? ans.questionId with
  | none => g
  | some eq =>
    { autoGradedTotalScore := (eq.award ans).elim g.autoGradedTotalScore fun scoreAwarded =>
        g.autoGradedTotalScore.add (.finite scoreAwarded)
      hasDescriptiveQuestions := g.hasDescriptiveQuestions || !eq.question.marked
      answerRecords := g.answerRecords ++ [eq.record participationId ans] }

def gradeAnswers (exam : Exam) (participationId : Id) (answers : List SubmitAnswerItemDto) :
    Grading :=
  answers.foldl (gradeAnswer exam participationId) {}

namespace Grading

def total (g : Grading) : Option Number :=
  if g.hasDescriptiveQuestions then none else some g.autoGradedTotalScore

def isGraded (g : Grading) : Bool := !g.hasDescriptiveQuestions

end Grading

/-- What `submitExamAnswers` does after its reading: note that the time is over, or hand in. -/
inductive SubmitStep where
  | timeOut (participationId : Id) (now : Instant)
  | handIn (participationId : Id) (now : Instant) (tabSwitchCount : ℕ) (grading : Grading)

def timeIsOver : String := "مهلت زمانی آزمون در سرور به پایان رسیده است"

/-- `upsert` by the paper and the question. -/
def upsertAnswer (db : Db) (record : ExamAnswer) : Result Db :=
  match db.answer? record.participationId record.questionId with
  | some stored => db.updateAnswer stored.id
      { set := fun a =>
          { a with
            selectedOptionId := record.selectedOptionId
            descriptiveAnswer := record.descriptiveAnswer
            scoreAwarded := record.scoreAwarded
            isAutoGraded := record.isAutoGraded } }
  | none => db.createAnswer record

namespace submitExamAnswers

def read (school : School) (tenantId examId studentUserId : Id) (now : Instant)
    (dto : SubmitExamAnswersDto) (db : Db) : Result SubmitStep := do
  let student ← orFail (school.studentOf tenantId studentUserId)
    (.forbidden "پروفایل دانش‌آموزی یافت نشد")
  let (paper, exam) ← orFail (paperWithExam school db examId student.id)
    (.notFound "برگه آزمون برای شما ایجاد نشده است")
  require (paper.status ≠ .submitted) (.conflict "پاسخ‌های شما قبلاً در سامانه ثبت شده است")
  if paper.serverDeadline < now then return .timeOut paper.id now
  else
    return .handIn paper.id now (dto.tabSwitchCount.getD 0)
      (gradeAnswers exam paper.id dto.answers)

def timedOut (now : Instant) : ParticipationUpdate where
  set p := { p with status := .timedOut, submittedAt := some now }

def submitted (now : Instant) (tabSwitchCount : ℕ) (grading : Grading) : ParticipationUpdate where
  set p :=
    { p with
      status := .submitted
      submittedAt := some now
      tabSwitchCount
      flaggedForReview := 3 ≤ tabSwitchCount
      totalScore := grading.total
      isGraded := grading.isGraded }

def transaction (participationId : Id) (now : Instant) (tabSwitchCount : ℕ) (grading : Grading)
    (db : Db) : Result Db := do
  let db ← inTurn upsertAnswer db grading.answerRecords
  db.updateParticipation participationId (submitted now tabSwitchCount grading)

def write (db : Db) : SubmitStep → Db × Result Submission
  | .timeOut participationId now =>
    match db.updateParticipation participationId (timedOut now) with
    | .ok next => (next, .error (.badRequest timeIsOver))
    | .error e => (db, .error e)
  | .handIn participationId now tabSwitchCount grading =>
    match transaction participationId now tabSwitchCount grading db with
    | .ok next => (next, .ok
        { isGraded := grading.isGraded, totalScore := grading.total,
          flaggedForReview := 3 ≤ tabSwitchCount })
    | .error e => (db, .error e)

end submitExamAnswers

def submitExamAnswers (school : School) (tenantId examId studentUserId : Id) (now : Instant)
    (dto : SubmitExamAnswersDto) (db : Db) : Db × Result Submission :=
  match submitExamAnswers.read school tenantId examId studentUserId now dto db with
  | .ok step => submitExamAnswers.write db step
  | .error e => (db, .error e)

/-! ### Grading by the teacher -/

structure GradeDescriptiveAnswerDto where
  questionId : Id
  scoreAwarded : ℚ
  teacherComment : Option String := none

structure GradeExamParticipationDto where
  teacherFeedback : Option String := none
  graceScore : Option ℚ := none
  graceReason : Option String := none
  grades : List GradeDescriptiveAnswerDto := []

/-- `Math.round(x * 100) / 100` -/
def roundToHundredths (x : Number) : Number := (x.mul (.finite 100)).round.div (.finite 100)

def rawScore (answers : List ExamAnswer) : Number :=
  answers.foldl (fun sum a => sum.add (.finite (a.scoreAwarded.getD 0))) (.finite 0)

namespace gradeDescriptiveAnswers

def grade (participationId : Id) (db : Db) (g : GradeDescriptiveAnswerDto) : Result Db := do
  let stored ← orFail (db.answer? participationId g.questionId) (.database .recordNotFound)
  db.updateAnswer stored.id
    { set := fun a =>
        { a with
          scoreAwarded := some g.scoreAwarded
          teacherComment := truthy g.teacherComment } }

def graded (dto : GradeExamParticipationDto) (totalScore : Number) : ParticipationUpdate where
  set p :=
    { p with
      totalScore := some totalScore
      graceScore := dto.graceScore.getD 0
      graceReason := truthy dto.graceReason
      isGraded := true
      teacherFeedback := truthy dto.teacherFeedback }

def totalScore (exam : Exam) (answers : List ExamAnswer) (graceScore : ℚ) : Number :=
  (Number.finite exam.totalScore).min
    (roundToHundredths ((rawScore answers).add (.finite graceScore)))

def transaction (exam : Exam) (participationId : Id) (dto : GradeExamParticipationDto) (db : Db) :
    Result Db := do
  let db ← inTurn (grade participationId) db dto.grades
  db.updateParticipation participationId
    (graded dto (totalScore exam (db.answersOf participationId) (dto.graceScore.getD 0)))

end gradeDescriptiveAnswers

def gradeDescriptiveAnswers (school : School) (tenantId participationId : Id)
    (dto : GradeExamParticipationDto) (db : Db) : Result Db := do
  let paper ← orFail ((db.participations.find? participationId).filter (·.tenantId = tenantId))
    (.notFound "برگه مشارکت آزمون یافت نشد")
  let exam ← orFail (school.exam? paper.examId) (.notFound "برگه مشارکت آزمون یافت نشد")
  gradeDescriptiveAnswers.transaction exam participationId dto db

end Rokad.Exams
