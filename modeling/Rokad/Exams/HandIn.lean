import Rokad.Exams.Grading

/-!
# Handing in once

Any number of `startExam` and `submitExamAnswers` calls of one student on one exam, each a reading
and later a write. A submission checks the paper when it reads and writes whatever has happened
since: the paper is handed in once, and stays as it was handed in, exactly if every submission that
writes still finds it not handed in (`handedInOnce_iff`). That nothing begun after the deadline
touches an answer or a score holds in any case.
-/

namespace Rokad.Exams

open Rokad.Base Rokad.Common

/-! ### Calls in progress -/

inductive StudentCall where
  | startExam
  | submitExamAnswers (dto : SubmitExamAnswersDto)

/-- What a call takes from the host when it reads. -/
structure Draw where
  now : Instant
  draws : Draws

inductive Held where
  | start (step : StartStep)
  | submit (step : SubmitStep)

inductive Stage where
  | waiting
  | holding (began : Instant) (held : Held)
  | succeeded
  | failed (error : Failure)

/-- The student, the exam, and the calls. -/
structure Sitting (ι : Type) where
  school : School
  (tenantId examId userId : Id)
  calls : ι → StudentCall

abbrev Desk (ι : Type) := Threads Db Stage ι

namespace Sitting

variable {ι : Type} (sitting : Sitting ι)

def read (call : StudentCall) (draw : Draw) (db : Db) : Result Held :=
  match call with
  | .startExam => (startExam.read sitting.school sitting.tenantId sitting.examId sitting.userId
      draw.now draw.draws db).map .start
  | .submitExamAnswers dto => (submitExamAnswers.read sitting.school sitting.tenantId
      sitting.examId sitting.userId draw.now dto db).map .submit

def write (db : Db) : Held → Db × Result Unit
  | .start step => ((startExam.write db step).1, (startExam.write db step).2.map fun _ => ())
  | .submit step =>
    ((submitExamAnswers.write db step).1, (submitExamAnswers.write db step).2.map fun _ => ())

def act (i : ι) (db : Db) (stage : Stage) (draw : Draw) : Db × Stage :=
  match stage with
  | .waiting =>
    match sitting.read (sitting.calls i) draw db with
    | .ok held => (db, .holding draw.now held)
    | .error e => (db, .failed e)
  | .holding _ held =>
    match write db held with
    | (next, .ok _) => (next, .succeeded)
    | (next, .error e) => (next, .failed e)
  | .succeeded => (db, .succeeded)
  | .failed e => (db, .failed e)

variable [DecidableEq ι]

abbrev step : Desk ι → Move ι Draw Empty → Desk ι := Threads.step sitting.act fun db _ => db

def begin (db : Db) : Desk ι := ⟨db, fun _ => .waiting⟩

/-- The student's paper. -/
def paper (db : Db) : Option ExamParticipation :=
  (sitting.school.studentOf sitting.tenantId sitting.userId).bind fun student =>
    db.paper? sitting.examId student.id

/-- Call `i` is a submission that succeeded. -/
def Submitted (p : Desk ι) (i : ι) : Prop :=
  sitting.calls i ≠ .startExam ∧ p.own i = .succeeded

/-- What must not change: the answers, and the total and the status of the paper. -/
def sheet (db : Db) : Table ExamAnswer × Option (Option Number × ParticipationStatus) :=
  (db.answers, (sitting.paper db).map fun paper => (paper.totalScore, paper.status))

def scores (db : Db) : Table ExamAnswer × Option (Option Number) :=
  (db.answers, (sitting.paper db).map (·.totalScore))

/-- The move is by a call that began after the deadline of the paper. -/
def BegunLate (p : Desk ι) : Move ι Draw Empty → Prop
  | .thread i _ => ∃ began held paper, p.own i = .holding began held ∧
      sitting.paper p.shared = some paper ∧ paper.serverDeadline < began
  | .world e => e.elim

/-- At most one submission succeeds, after a success the sheet stays, and a call begun late leaves
answers and scores alone. -/
structure HandedInOnce (p : Desk ι) (move : Move ι Draw Empty) : Prop where
  once : ∀ i j, sitting.Submitted (sitting.step p move) i → sitting.Submitted (sitting.step p move) j →
    i = j
  stays : (∃ i, sitting.Submitted p i) →
    sitting.sheet (sitting.step p move).shared = sitting.sheet p.shared
  late : sitting.BegunLate p move →
    sitting.scores (sitting.step p move).shared = sitting.scores p.shared

/-- A submission that writes finds the paper not handed in. -/
def FindsOpen (p : Desk ι) : Move ι Draw Empty → Prop
  | .thread i _ => match p.own i with
      | .holding _ (.submit _) => ∀ paper, sitting.paper p.shared = some paper →
          paper.status ≠ .submitted
      | _ => True
  | .world e => e.elim

end Sitting

/-! ### What a write does to the papers -/

section

variable {db db' : Db}

theorem ParticipationUpdate.paper (data : ParticipationUpdate) (p : ExamParticipation) :
    (data.set p).examId = p.examId ∧ (data.set p).studentId = p.studentId := by
  have same := data.unique p p
  simpa [Record.clash] using same

theorem paper?_updateParticipation {id : Id} {data : ParticipationUpdate}
    (done : db.updateParticipation id data = .ok db') (e s : Id) :
    db'.paper? e s = (db.paper? e s).map fun p => if p.id = id then data.set p else p := by
  obtain ⟨row, -, -, rows⟩ := Table.update_spec.mp (Db.updateParticipation_ok done).1
  unfold Db.paper?
  rw [rows, List.find?_map]
  congr 2
  funext p
  simp only [Function.comp]
  split
  · rw [(data.paper p).1, (data.paper p).2]
  · rfl

/-- A second paper is refused. -/
theorem createParticipation_refused {row p : ExamParticipation}
    (found : db.paper? row.examId row.studentId = some p) :
    ∃ e, db.createParticipation row = .error e := by
  cases created : db.createParticipation row with
  | error e => exact ⟨e, rfl⟩
  | ok next =>
    obtain ⟨-, -, clear⟩ := insert_spec.mp (Db.createParticipation_ok created).1
    have apart := clear p (List.mem_of_find?_eq_some found)
    obtain ⟨-, sameExam, sameStudent⟩ := paper?_spec found
    simp [Record.clash, sameExam, sameStudent] at apart

/-- Upserting records of a paper that exists goes through. -/
theorem exists_upserts {id : Id} {records : List ExamAnswer}
    (ofPaper : ∀ r ∈ records, r.participationId = id) {p : ExamParticipation}
    (found : db.participations.find? id = some p) :
    ∃ stored, inTurn upsertAnswer db records = .ok stored ∧
      stored.participations = db.participations := by
  induction records generalizing db with
  | nil => exact ⟨db, rfl, rfl⟩
  | cons r rs ih =>
    have isPaper := ofPaper r List.mem_cons_self
    obtain ⟨next, first⟩ : ∃ next, upsertAnswer db r = .ok next := by
      unfold upsertAnswer
      split
      · rename_i stored hit
        exact Db.exists_updateAnswer
          (db.answers.find?_key (Db.answer?_eq_some_iff.mp hit).1) _
      · rename_i missing
        exact Db.exists_createAnswer (isPaper ▸ found) missing
    have papers := (upsertAnswer_ok first).1
    obtain ⟨stored, rest, same⟩ := ih (fun s mem => ofPaper s (List.mem_cons_of_mem _ mem))
      (papers ▸ found)
    exact ⟨stored, by rw [inTurn_cons, first]; exact rest, same.trans papers⟩

end

/-! ### What a move does -/

namespace Sitting

variable {ι : Type} (sitting : Sitting ι)

/-- What a call in progress may count on. -/
def Own (i : ι) (db : Db) : Stage → Prop
  | .holding _ (.start step) => sitting.calls i = .startExam ∧
      match step with
      | .render _ _ => True
      | .create _ row => ∃ student,
          sitting.school.studentOf sitting.tenantId sitting.userId = some student ∧
            row.examId = sitting.examId ∧ row.studentId = student.id
  | .holding began (.submit step) => sitting.calls i ≠ .startExam ∧
      ∃ paper, sitting.paper db = some paper ∧
        match step with
        | .timeOut id _ => paper.id = id
        | .handIn id _ _ grading => paper.id = id ∧ began ≤ paper.serverDeadline ∧
            ∀ r ∈ grading.answerRecords, r.participationId = id
  | _ => True

/-- The outcomes of a move of call `i`. -/
inductive Moves (i : ι) (db : Db) (stage : Stage) : Db × Stage → Prop where
  | quiet (stage' : Stage) (own : sitting.Own i db stage')
      (idle : ∀ began step, stage ≠ .holding began (.submit step))
      (success : sitting.calls i ≠ .startExam → stage' = .succeeded → stage = .succeeded)
      (stays : stage = .succeeded → stage' = .succeeded)
      (reading : ∀ began step, stage' = .holding began (.submit step) →
        ∀ paper, sitting.paper db = some paper → paper.status ≠ .submitted) :
      Moves i db stage (db, stage')
  | opened (next : Db) (began : Instant) (step : StartStep) (held : stage = .holding began (.start step))
      (start : sitting.calls i = .startExam) (none : sitting.paper db = none)
      (answers : next.answers = db.answers) : Moves i db stage (next, .succeeded)
  | timedOut (next : Db) (began now : Instant) (paper : ExamParticipation) (e : Failure)
      (held : stage = .holding began (.submit (.timeOut paper.id now)))
      (found : sitting.paper db = some paper)
      (set : sitting.paper next = some ((submitExamAnswers.timedOut now).set paper))
      (answers : next.answers = db.answers) : Moves i db stage (next, .failed e)
  | handedIn (next : Db) (began now : Instant) (tabSwitchCount : ℕ) (grading : Grading)
      (paper : ExamParticipation)
      (held : stage = .holding began (.submit (.handIn paper.id now tabSwitchCount grading)))
      (submits : sitting.calls i ≠ .startExam) (inTime : began ≤ paper.serverDeadline)
      (found : sitting.paper db = some paper)
      (set : sitting.paper next =
        some ((submitExamAnswers.submitted now tabSwitchCount grading).set paper)) :
      Moves i db stage (next, .succeeded)

variable {sitting} {db : Db}

theorem paper_spec {paper : ExamParticipation} (found : sitting.paper db = some paper) :
    ∃ student, sitting.school.studentOf sitting.tenantId sitting.userId = some student ∧
      db.paper? sitting.examId student.id = some paper := Option.bind_eq_some_iff.mp found

theorem paper_update {paper : ExamParticipation} (found : sitting.paper db = some paper)
    {data : ParticipationUpdate} {next : Db}
    (done : db.updateParticipation paper.id data = .ok next) :
    sitting.paper next = some (data.set paper) := by
  obtain ⟨student, isStudent, isPaper⟩ := paper_spec found
  unfold Sitting.paper
  rw [isStudent, Option.bind_some, paper?_updateParticipation done, isPaper, Option.map_some,
    if_pos rfl]

/-- What a start has read lets it show a paper, or make the first one. -/
theorem own_start {i : ι} {draw : Draw} {step : StartStep}
    (call : sitting.calls i = .startExam)
    (read : startExam.read sitting.school sitting.tenantId sitting.examId sitting.userId draw.now
      draw.draws db = .ok step) : sitting.Own i db (.holding draw.now (.start step)) := by
  refine ⟨call, ?_⟩
  obtain ⟨⟨student, exam⟩, letIn, read⟩ := bind_eq_ok.mp read
  obtain ⟨isStudent, isExam, -⟩ := letIn_eq_ok.mp letIn
  dsimp only at read
  split at read
  · obtain ⟨_, -, read⟩ := bind_eq_ok.mp read
    cases read
    trivial
  · cases read
    have sameId := List.find?_some isExam
    simp only [decide_eq_true_eq] at sameId
    exact ⟨student, isStudent, sameId.1, rfl⟩

theorem own_submit {i : ι} {draw : Draw} {dto : SubmitExamAnswersDto} {step : SubmitStep}
    (call : sitting.calls i = .submitExamAnswers dto)
    (read : submitExamAnswers.read sitting.school sitting.tenantId sitting.examId sitting.userId
      draw.now dto db = .ok step) :
    sitting.Own i db (.holding draw.now (.submit step)) ∧
      ∀ paper, sitting.paper db = some paper → paper.status ≠ .submitted := by
  obtain ⟨student, paper, exam, isStudent, found, unsubmitted, rfl⟩ :=
    submitExamAnswers.read_cases read
  have isPaper : sitting.paper db = some paper := by
    unfold Sitting.paper
    rw [isStudent, Option.bind_some]
    exact (paperWithExam_spec found).1
  refine ⟨⟨by rw [call]; simp, paper, isPaper, ?_⟩, fun other isOther => ?_⟩
  · split
    · rename_i late
      split at late <;> cases late
      rfl
    · rename_i held
      split at held <;> cases held
      rename_i inTime
      exact ⟨rfl, not_lt.mp inTime, fun r mem => gradeAnswers_ofPaper mem⟩
  · rw [isPaper] at isOther
    cases isOther
    exact unsubmitted

theorem act_moves {i : ι} {stage : Stage} (own : sitting.Own i db stage) (draw : Draw) :
    sitting.Moves i db stage (sitting.act i db stage draw) := by
  match stage with
  | .succeeded => exact .quiet _ trivial (by simp) (fun _ same => same) (by simp) (by simp)
  | .failed e => exact .quiet _ trivial (by simp) (by simp) (by simp) (by simp)
  | .waiting =>
    unfold act
    dsimp only
    cases read : sitting.read (sitting.calls i) draw db with
    | error e => exact .quiet _ trivial (by simp) (by simp) (by simp) (by simp)
    | ok held =>
      cases call : sitting.calls i with
      | startExam =>
        rw [call] at read
        obtain ⟨step, ran, rfl⟩ := map_eq_ok.mp read
        exact .quiet _ (own_start call ran) (by simp) (by simp) (by simp) (by simp)
      | submitExamAnswers dto =>
        rw [call] at read
        obtain ⟨step, ran, rfl⟩ := map_eq_ok.mp read
        obtain ⟨ownStep, unsubmitted⟩ := own_submit call ran
        exact .quiet _ ownStep (by simp) (by simp) (by simp) fun _ _ _ => unsubmitted
  | .holding began (.start (.render exam paper)) =>
    exact .quiet _ trivial (by simp) (fun submits => absurd own.1 submits) (by simp) (by simp)
  | .holding began (.start (.create exam row)) =>
    obtain ⟨start, student, isStudent, ofExam, ofStudent⟩ := own
    unfold act write startExam.write
    dsimp only
    cases created : db.createParticipation row with
    | error e => exact .quiet _ trivial (by simp) (by simp) (by simp) (by simp)
    | ok next =>
      refine .opened next began _ rfl start ?_ (Db.createParticipation_ok created).2
      cases found : sitting.paper db with
      | none => rfl
      | some paper =>
        obtain ⟨owner, isOwner, isPaper⟩ := paper_spec found
        rw [isStudent] at isOwner
        cases isOwner
        obtain ⟨e, refused⟩ := @createParticipation_refused db row paper
          (ofExam ▸ ofStudent ▸ isPaper)
        rw [created] at refused
        cases refused
  | .holding began (.submit (.timeOut id now)) =>
    obtain ⟨submits, paper, found, rfl⟩ := own
    obtain ⟨student, -, isPaper⟩ := paper_spec found
    obtain ⟨next, done⟩ := Db.exists_updateParticipation (paper?_spec isPaper).1
      (submitExamAnswers.timedOut now)
    unfold act write submitExamAnswers.write
    dsimp only
    rw [done]
    exact .timedOut next began now paper _ rfl found (paper_update found done)
      (Db.updateParticipation_ok done).2
  | .holding began (.submit (.handIn id now tabSwitchCount grading)) =>
    obtain ⟨submits, paper, found, rfl, inTime, ofPaper⟩ := own
    obtain ⟨student, isStudent, isPaper⟩ := paper_spec found
    obtain ⟨stored, upserted, papers⟩ := exists_upserts ofPaper (paper?_spec isPaper).1
    have inStored : sitting.paper stored = some paper := by
      unfold Sitting.paper Db.paper?
      rw [isStudent, Option.bind_some, papers]
      exact isPaper
    obtain ⟨next, done⟩ := Db.exists_updateParticipation
      (papers ▸ (paper?_spec isPaper).1)
      (submitExamAnswers.submitted now tabSwitchCount grading)
    have ran : submitExamAnswers.transaction paper.id now tabSwitchCount grading db = .ok next := by
      unfold submitExamAnswers.transaction
      rw [upserted]
      exact done
    unfold act write submitExamAnswers.write
    dsimp only
    rw [ran]
    exact .handedIn next began now tabSwitchCount grading paper rfl submits inTime found
      (paper_update inStored done)

/-! ### Runs -/

variable (sitting) in
/-- The invariant of runs that meet the condition. -/
structure Orderly (p : Desk ι) : Prop where
  own : ∀ i, sitting.Own i p.shared (p.own i)
  once : ∀ i j, sitting.Submitted p i → sitting.Submitted p j → i = j
  handedIn : (∃ i, sitting.Submitted p i) →
    ∃ paper, sitting.paper p.shared = some paper ∧ paper.status = .submitted
  submitted : ∀ i began step, p.own i = .holding began (.submit step) →
    ∀ paper, sitting.paper p.shared = some paper → paper.status = .submitted →
      ∃ j, sitting.Submitted p j

theorem orderly_begin (db : Db) : sitting.Orderly (begin db) where
  own _ := trivial
  once i j done := by cases done.2
  handedIn := by
    rintro ⟨i, -, done⟩
    cases done
  submitted i began step held := by cases held

/-- A paper that goes on with its deadline keeps what calls count on. -/
theorem Own.carry {i : ι} {next : Db} {stage : Stage} (own : sitting.Own i db stage)
    (carried : ∀ paper, sitting.paper db = some paper → ∃ paper', sitting.paper next = some paper' ∧
      paper'.id = paper.id ∧ paper'.serverDeadline = paper.serverDeadline) :
    sitting.Own i next stage := by
  match stage with
  | .succeeded | .failed _ | .waiting => trivial
  | .holding _ (.start _) => exact own
  | .holding _ (.submit (.timeOut id now)) =>
    obtain ⟨submits, paper, found, rfl⟩ := own
    obtain ⟨paper', found', same, -⟩ := carried paper found
    exact ⟨submits, paper', found', same⟩
  | .holding _ (.submit (.handIn id now tabSwitchCount grading)) =>
    obtain ⟨submits, paper, found, rfl, inTime, ofPaper⟩ := own
    obtain ⟨paper', found', same, deadline⟩ := carried paper found
    exact ⟨submits, paper', found', same, deadline ▸ inTime, ofPaper⟩

variable [DecidableEq ι] {p : Desk ι} {move : Move ι Draw Empty}

theorem submitted_thread {i : ι} {draw : Draw} {next : Db × Stage}
    (moved : sitting.act i p.shared (p.own i) draw = next) (j : ι) :
    sitting.Submitted (sitting.step p (.thread i draw)) j ↔
      if j = i then sitting.calls i ≠ .startExam ∧ next.2 = .succeeded
      else sitting.Submitted p j := by
  subst moved
  by_cases same : j = i
  · subst same
    simp [Submitted, Threads.step]
  · simp [Submitted, Threads.step, same]

omit [DecidableEq ι] in
/-- Nobody has succeeded while the paper is not handed in. -/
theorem Orderly.nobody (orderly : sitting.Orderly p)
    (unsubmitted : ∀ paper, sitting.paper p.shared = some paper → paper.status ≠ .submitted)
    (j : ι) : ¬ sitting.Submitted p j := by
  intro done
  obtain ⟨paper, found, submitted⟩ := orderly.handedIn ⟨j, done⟩
  exact unsubmitted paper found submitted

section

variable {i : ι} {draw : Draw} {next : Db} {stage : Stage}
  (eq : sitting.act i p.shared (p.own i) draw = (next, stage))

include eq

theorem shared_thread : (sitting.step p (.thread i draw)).shared = next := by
  simp [Threads.step, eq]

theorem own_thread (j : ι) :
    (sitting.step p (.thread i draw)).own j = if j = i then stage else p.own j := by
  by_cases same : j = i
  · subst same
    simp [Threads.step, eq]
  · simp [Threads.step, same]

/-- After the move every call counts on what it may. -/
theorem Orderly.own_step (orderly : sitting.Orderly p) (own : sitting.Own i next stage)
    (carried : ∀ paper, sitting.paper p.shared = some paper → ∃ paper', sitting.paper next = some paper' ∧
      paper'.id = paper.id ∧ paper'.serverDeadline = paper.serverDeadline) (j : ι) :
    sitting.Own j (sitting.step p (.thread i draw)).shared
      ((sitting.step p (.thread i draw)).own j) := by
  rw [shared_thread eq, own_thread eq]
  split
  · rename_i same
    exact same ▸ own
  · exact (orderly.own j).carry carried

/-- A move without a success, where nobody has succeeded. -/
theorem Orderly.nobody_step (orderly : sitting.Orderly p)
    (unsubmitted : ∀ paper, sitting.paper p.shared = some paper → paper.status ≠ .submitted)
    (fails : sitting.calls i ≠ .startExam → stage ≠ .succeeded) (j : ι) :
    ¬ sitting.Submitted (sitting.step p (.thread i draw)) j := by
  rw [submitted_thread eq]
  split
  · rintro ⟨submits, done⟩
    exact fails submits done
  · exact orderly.nobody unsubmitted j

theorem Orderly.quiet (orderly : sitting.Orderly p) (same : next = p.shared)
    (own : sitting.Own i next stage)
    (success : sitting.calls i ≠ .startExam → stage = .succeeded → p.own i = .succeeded)
    (stays : p.own i = .succeeded → stage = .succeeded)
    (reading : ∀ began step, stage = .holding began (.submit step) →
      ∀ paper, sitting.paper next = some paper → paper.status ≠ .submitted) :
    sitting.Orderly (sitting.step p (.thread i draw)) := by
  have iff : ∀ j, sitting.Submitted (sitting.step p (.thread i draw)) j ↔ sitting.Submitted p j := by
    intro j
    rw [submitted_thread eq]
    split
    · rename_i isI
      subst isI
      exact ⟨fun ⟨submits, done⟩ => ⟨submits, success submits done⟩,
        fun ⟨submits, done⟩ => ⟨submits, stays done⟩⟩
    · rfl
  refine ⟨orderly.own_step eq own fun paper found => ⟨paper, same ▸ found, rfl, rfl⟩, ?_, ?_, ?_⟩
  · intro j k doneJ doneK
    exact orderly.once j k ((iff j).mp doneJ) ((iff k).mp doneK)
  · rintro ⟨j, done⟩
    rw [shared_thread eq, same]
    exact orderly.handedIn ⟨j, (iff j).mp done⟩
  · intro j began step held paper found submitted
    rw [shared_thread eq] at found
    rw [own_thread eq] at held
    split at held
    · exact absurd submitted (reading began step held paper found)
    · obtain ⟨k, done⟩ := orderly.submitted j began step held paper (same ▸ found) submitted
      exact ⟨k, (iff k).mpr done⟩

end

theorem orderly_step (orderly : sitting.Orderly p) (finds : sitting.FindsOpen p move) :
    sitting.Orderly (sitting.step p move) := by
  cases move with
  | world e => exact e.elim
  | thread i draw =>
  have moves := act_moves (orderly.own i) draw
  rcases eq : sitting.act i p.shared (p.own i) draw with ⟨next, stage⟩
  rw [eq] at moves
  cases moves with
  | quiet _ own idle success stays reading => exact orderly.quiet eq rfl own success stays reading
  | opened _ began step held start none answers =>
    have nobody := orderly.nobody_step eq (by simp [none]) fun submits => absurd start submits
    refine ⟨orderly.own_step eq trivial (by simp [none]), fun j k done => absurd done (nobody j),
      fun ⟨j, done⟩ => absurd done (nobody j), fun j began step held => ?_⟩
    rw [own_thread eq] at held
    split at held
    · cases held
    · have ownJ := orderly.own j
      rw [held] at ownJ
      obtain ⟨-, paper, found, -⟩ := ownJ
      rw [none] at found
      cases found
  | timedOut _ began now paper e held found set answers =>
    have unsubmitted : ∀ other, sitting.paper p.shared = some other → other.status ≠ .submitted := by
      simpa [FindsOpen, held] using finds
    have nobody := orderly.nobody_step eq unsubmitted (by simp)
    refine ⟨orderly.own_step eq trivial fun other isOther => ?_, fun j k done => absurd done (nobody j),
      fun ⟨j, done⟩ => absurd done (nobody j), fun j began step held other isOther submitted => ?_⟩
    · rw [found] at isOther
      cases isOther
      exact ⟨_, set, rfl, rfl⟩
    · rw [shared_thread eq, set] at isOther
      cases isOther
      cases submitted
  | handedIn _ began now tabSwitchCount grading paper held submits inTime found set =>
    have unsubmitted : ∀ other, sitting.paper p.shared = some other → other.status ≠ .submitted := by
      simpa [FindsOpen, held] using finds
    have only : ∀ j, sitting.Submitted (sitting.step p (.thread i draw)) j ↔ j = i := by
      intro j
      rw [submitted_thread eq]
      split
      · rename_i same
        exact iff_of_true ⟨submits, rfl⟩ same
      · rename_i differ
        exact iff_of_false (orderly.nobody unsubmitted j) differ
    refine ⟨orderly.own_step eq trivial fun other isOther => ?_, fun j k doneJ doneK => ?_, fun _ => ?_,
      fun _ _ _ _ _ _ _ => ⟨i, (only i).mpr rfl⟩⟩
    · rw [found] at isOther
      cases isOther
      exact ⟨_, set, rfl, rfl⟩
    · exact ((only j).mp doneJ).trans ((only k).mp doneK).symm
    · rw [shared_thread eq]
      exact ⟨_, set, rfl⟩

/-- In an orderly state the move keeps the law exactly if it finds the paper open. -/
theorem handedInOnce_iff_findsOpen (orderly : sitting.Orderly p) :
    sitting.HandedInOnce p move ↔ sitting.FindsOpen p move := by
  cases move with
  | world e => exact e.elim
  | thread i draw =>
  have moves := act_moves (orderly.own i) draw
  rcases eq : sitting.act i p.shared (p.own i) draw with ⟨next, stage⟩
  rw [eq] at moves
  have shared := shared_thread eq
  constructor
  · intro law
    cases moves with
    | quiet _ own idle success stays reading =>
      cases stands : p.own i with
      | waiting | succeeded | failed => simp [FindsOpen, stands]
      | holding began held =>
        cases held with
        | start step => simp [FindsOpen, stands]
        | submit step => exact absurd stands (idle began step)
    | opened _ began step held start none answers => simp [FindsOpen, held]
    | timedOut _ began now paper e held found set answers =>
      simp only [FindsOpen, held]
      intro other isOther submitted
      have kept := law.stays (orderly.submitted i began _ held other isOther submitted)
      rw [shared] at kept
      simp [sheet, set, isOther, submitted, submitExamAnswers.timedOut] at kept
    | handedIn _ began now tabSwitchCount grading paper held submits inTime found set =>
      simp only [FindsOpen, held]
      intro other isOther submitted
      obtain ⟨j, done⟩ := orderly.submitted i began _ held other isOther submitted
      have differ : j ≠ i := by
        rintro rfl
        rw [done.2] at held
        cases held
      refine differ (law.once j i ?_ ?_)
      · rw [submitted_thread eq, if_neg differ]
        exact done
      · rw [submitted_thread eq, if_pos rfl]
        exact ⟨submits, rfl⟩
  · intro finds
    refine ⟨(orderly_step orderly finds).once, ?_, ?_⟩
    · rintro ⟨j, done⟩
      rw [shared]
      obtain ⟨handed, isHanded, submitted⟩ := orderly.handedIn ⟨j, done⟩
      cases moves with
      | quiet _ own idle success stays reading => rfl
      | opened _ began step held start none answers =>
        rw [none] at isHanded
        cases isHanded
      | timedOut _ began now paper e held found set answers =>
        have unsubmitted : ∀ other, sitting.paper p.shared = some other →
            other.status ≠ .submitted := by
          simpa [FindsOpen, held] using finds
        exact absurd submitted (unsubmitted handed isHanded)
      | handedIn _ began now tabSwitchCount grading paper held submits inTime found set =>
        have unsubmitted : ∀ other, sitting.paper p.shared = some other →
            other.status ≠ .submitted := by
          simpa [FindsOpen, held] using finds
        exact absurd submitted (unsubmitted handed isHanded)
    · rintro ⟨began', held', paper', isHeld, isPaper, late⟩
      rw [shared]
      cases moves with
      | quiet _ own idle success stays reading => rfl
      | opened _ began step held start none answers =>
        rw [none] at isPaper
        cases isPaper
      | timedOut _ began now paper e held found set answers =>
        simp [scores, set, found, answers, submitExamAnswers.timedOut]
      | handedIn _ began now tabSwitchCount grading paper held submits inTime found set =>
        rw [held] at isHeld
        cases isHeld
        rw [found] at isPaper
        cases isPaper
        exact absurd late (not_lt.mpr inTime)

/-- **A paper is handed in once.** In every interleaving of a student's calls, the law of handing in
once holds at every move exactly if every submission that writes finds the paper not handed in. -/
theorem handedInOnce_iff (sitting : Sitting ι) (db : Db) (moves : List (Move ι Draw Empty)) :
    Along sitting.step sitting.HandedInOnce (begin db) moves ↔
      Along sitting.step sitting.FindsOpen (begin db) moves :=
  along_iff (I := sitting.Orderly) (D := fun _ _ => True)
    (fun _ _ _ orderly => handedInOnce_iff_findsOpen orderly)
    (fun _ _ _ law orderly => orderly_step orderly ((handedInOnce_iff_findsOpen orderly).mp law))
    (orderly_begin db) ((along_of_forall fun _ _ => trivial))

end Sitting

namespace Classroom

/-- The right and the wrong answer, handed in by two calls at once. -/
def twoCalls : Sitting Bool where
  school := school exam
  tenantId := 1
  examId := 5
  userId := 9
  calls b := .submitExamAnswers { answers := [if b then right else wrong] }

def bothRead : List (Move Bool Draw Empty) :=
  [.thread false ⟨60000, draws⟩, .thread true ⟨60000, draws⟩,
    .thread false ⟨60000, draws⟩, .thread true ⟨60000, draws⟩]

end Classroom

/-- Two submissions that have both found the paper open both succeed. -/
theorem not_handedInOnce : ¬ ∀ {ι : Type} [DecidableEq ι] (sitting : Sitting ι) (db : Db)
    (moves : List (Move ι Draw Empty)),
    Along sitting.step sitting.HandedInOnce (Sitting.begin db) moves := by
  intro claim
  obtain ⟨-, -, -, law, -⟩ := claim Classroom.twoCalls (Classroom.started Classroom.exam) Classroom.bothRead
  have both : ∀ b, Classroom.twoCalls.Submitted
      (run Classroom.twoCalls.step (Sitting.begin (Classroom.started Classroom.exam)) Classroom.bothRead) b := by
    intro b
    refine ⟨by cases b <;> simp [Classroom.twoCalls], ?_⟩
    cases b <;> rfl
  exact absurd (law.once false true (both false) (both true)) (by decide)

end Rokad.Exams
