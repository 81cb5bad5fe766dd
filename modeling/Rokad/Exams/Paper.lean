import Rokad.Exams.Grading

/-!
# The assembled paper

The first `startExam` of a student draws an order of the questions and of the options of each and
stores it with the deadline; a later call shows what is stored. The database lists questions and
options in any order it likes.

* `Complete`: every question once, with every option once;
* `Stays`, `ShownAgain`: whatever is called in between, a later call shows the same, and it is not
  refused while the student may sit the exam;
* `Blind`: the keys and the solutions are not told;
* `paper_complete_stable_blind`: all of these, and the bound of the deadline.
-/

namespace Rokad.Exams

open Rokad.Base Rokad.Common

/-! ### What holds of a paper -/

/-- Some order of the questions, each with some order of its options. -/
def Complete (exam : Exam) (questions : List PaperQuestion) : Prop :=
  ∃ order, order.Perm exam.questions ∧
    List.Forall₂ (fun examQ shown => ∃ options, options.Perm examQ.question.options ∧
      shown = examQ.shown options) order questions

/-- The call that hands a student the paper. -/
structure FirstStart (school : School) (tenantId examId userId : Id) (now : Instant)
    (draws : Draws) (db db' : Db) (exam : Exam) (reply : StartedExam) : Prop where
  isExam : school.examOf tenantId examId = some exam
  new : ∀ student, school.studentOf tenantId userId = some student →
    db.paper? examId student.id = none
  done : startExam school tenantId examId userId now draws db = (db', .ok reply)

/-- The question is the same; its options can be listed in another order. -/
structure ExamQuestion.Relisted (examQ examQ' : ExamQuestion) : Prop where
  shown : examQ'.shown [] = examQ.shown []
  options : examQ'.question.options.Perm examQ.question.options

/-- The exam is the same; its questions, too, can be listed in another order. -/
structure Exam.Relisted (exam exam' : Exam) : Prop where
  columns : (exam'.id, exam'.title, exam'.durationMinutes, exam'.totalScore) =
    (exam.id, exam.title, exam.durationMinutes, exam.totalScore)
  questions : ∃ order, exam'.questions.Perm order ∧
    List.Forall₂ ExamQuestion.Relisted exam.questions order

/-- Whatever is called then, a call that shows the paper shows it as it was, while the exam is the
same. -/
def Stays (exam : Exam) (db : Db) (reply : StartedExam) : Prop :=
  ∀ calls school t e u now draws db' reply' exam',
    startExam school t e u now draws (run serve db calls) = (db', .ok reply') →
      reply'.participationId = reply.participationId → school.examOf t e = some exam' →
        exam.Relisted exam' →
          reply'.questions = reply.questions ∧ reply'.serverDeadline = reply.serverDeadline

/-- And a call of its student does show it, while the paper is in progress, the exam is the same, the
student is enrolled and its time is not over. -/
def ShownAgain (exam : Exam) (db : Db) (reply : StartedExam) : Prop :=
  ∀ calls school t u now draws paper student exam',
    (run serve db calls).participations.find? reply.participationId = some paper →
      paper.status = .inProgress → school.studentOf t u = some student →
        student.id = paper.studentId → school.examOf t paper.examId = some exam' →
          exam.Relisted exam' → exam'.classroomIds.any (· ∈ student.classroomIds) = true →
            exam'.startTime ≤ now → now ≤ exam'.endTime →
              ∃ reply', startExam school t paper.examId u now draws (run serve db calls) =
                  (run serve db calls, .ok reply') ∧
                reply'.participationId = reply.participationId ∧
                reply'.questions = reply.questions ∧
                reply'.serverDeadline = reply.serverDeadline

def QuestionOption.redacted (opt : QuestionOption) : QuestionOption :=
  { opt with isCorrect := false }

def Question.redacted (q : Question) : Question :=
  { q with
    solutionExplanation := none
    options := q.options.map (·.redacted)
    options_nodup := by
      rw [List.map_map]
      exact q.options_nodup }

def ExamQuestion.redacted (eq : ExamQuestion) : ExamQuestion :=
  { eq with question := eq.question.redacted }

def Exam.redacted (exam : Exam) : Exam :=
  { exam with
    questions := exam.questions.map (·.redacted)
    questions_nodup := by
      rw [List.map_map]
      exact exam.questions_nodup }

/-- The school without the keys and the solutions. -/
def School.redacted (school : School) : School :=
  { school with exams := school.exams.map (·.redacted) }

/-- Schools that differ in keys and solutions only hand out the same paper. -/
def Blind (school : School) (t e u : Id) (now : Instant) (draws : Draws) (db : Db) : Prop :=
  ∀ school' : School, school'.redacted = school.redacted →
    startExam school' t e u now draws db = startExam school t e u now draws db

/-! ### Lookups -/

/-- Among different keys, what is found by its key is what is there. -/
theorem find?_eq_some_iff {α : Type} {key : α → Id} {l : List α} (nodup : (l.map key).Nodup)
    {k : Id} {a : α} : l.find? (key · = k) = some a ↔ a ∈ l ∧ key a = k := by
  constructor
  · intro found
    exact ⟨List.mem_of_find?_eq_some found, by simpa using List.find?_some found⟩
  · rintro ⟨mem, rfl⟩
    induction l with
    | nil => cases mem
    | cons b l ih =>
      rw [List.map_cons, List.nodup_cons] at nodup
      rw [List.find?_cons]
      rcases List.mem_cons.mp mem with rfl | mem
      · simp
      · have differ : key b ≠ key a := fun same =>
          nodup.1 (same ▸ List.mem_map_of_mem mem)
        rw [decide_eq_false differ]
        exact ih nodup.2 mem

/-- Listed in another order, the same is found. -/
theorem find?_perm {α : Type} {key : α → Id} {l l' : List α} (nodup : (l.map key).Nodup)
    (perm : l'.Perm l) (k : Id) : l'.find? (key · = k) = l.find? (key · = k) := by
  refine Option.ext fun a => ?_
  rw [find?_eq_some_iff nodup, find?_eq_some_iff ((perm.map key).nodup_iff.mpr nodup), perm.mem_iff]

/-- What is found by the keys of some of the list is those. -/
theorem filterMap_find? {α : Type} {key : α → Id} {l part : List α} (nodup : (l.map key).Nodup)
    (sub : ∀ a ∈ part, a ∈ l) :
    (part.map key).filterMap (fun k => l.find? (key · = k)) = part := by
  rw [List.filterMap_map]
  refine (List.filterMap_congr fun a mem => ?_).trans List.filterMap_some
  exact (find?_eq_some_iff nodup).mpr ⟨sub a mem, rfl⟩

/-! ### Handing out -/

section

variable {exam : Exam}

theorem shuffled_perm {α : Type} (wanted : Bool) (draws : Draws) (list : List α) :
    (shuffled wanted draws list).1.Perm list := by
  unfold shuffled
  split
  · exact shuffleArray_perm draws list
  · exact List.Perm.refl list

/-- The stored order of a question's options, if it has any. -/
theorem lookup_optionOrders (wanted : Bool) {questions : List ExamQuestion}
    (nodup : (questions.map (·.questionId)).Nodup) (draws : Draws) {eq : ExamQuestion}
    (mem : eq ∈ questions) :
    (eq.question.options = [] ∧ (optionOrders wanted questions draws).lookup eq.questionId = none) ∨
      ∃ options : List QuestionOption, options.Perm eq.question.options ∧
        (optionOrders wanted questions draws).lookup eq.questionId = some (options.map (·.id)) := by
  have absent {questions : List ExamQuestion} {id : Id}
      (other : ∀ q ∈ questions, q.questionId ≠ id) (draws : Draws) :
      (optionOrders wanted questions draws).lookup id = none := by
    induction questions generalizing draws with
    | nil => rfl
    | cons q questions ih =>
      have rest := ih fun q mem => other q (List.mem_cons_of_mem _ mem)
      unfold optionOrders
      split
      · exact rest draws
      · rw [List.lookup_cons, beq_false_of_ne (other q List.mem_cons_self).symm]
        exact rest _
  induction questions generalizing draws with
  | nil => cases mem
  | cons q questions ih =>
    rw [List.map_cons, List.nodup_cons] at nodup
    obtain ⟨first, nodup⟩ := nodup
    have others (q') (mem : q' ∈ questions) : q'.questionId ≠ q.questionId :=
      fun same => first (same ▸ List.mem_map_of_mem mem)
    unfold optionOrders
    rcases List.mem_cons.mp mem with rfl | mem
    · split
      · rename_i none
        exact .inl ⟨none, absent others draws⟩
      · refine .inr ⟨_, shuffled_perm wanted draws _, ?_⟩
        rw [List.lookup_cons, beq_self_eq_true]
    · split
      · exact ih nodup draws mem
      · rw [List.lookup_cons, beq_false_of_ne (others eq mem)]
        exact ih nodup _ mem

/-- A question is on the paper with all of its options. -/
theorem orderedQuestion_row (studentId : Id) (now : Instant) (draws : Draws) {eq : ExamQuestion}
    (mem : eq ∈ exam.questions) : ∃ options : List QuestionOption,
      options.Perm eq.question.options ∧
        exam.orderedQuestion (exam.row studentId now draws) eq.questionId =
          some (eq.shown options) := by
  have found := (find?_eq_some_iff exam.questions_nodup).mpr ⟨mem, rfl⟩
  unfold Exam.orderedQuestion Exam.question?
  rw [found, Option.map_some]
  rcases lookup_optionOrders exam.shuffleOptions exam.questions_nodup
    (shuffled exam.shuffleQuestions draws exam.questions).2 mem with
    ⟨-, saved⟩ | ⟨options, same, saved⟩
  · refine ⟨_, List.Perm.refl _, ?_⟩
    simp only [Exam.row, saved]
  · have all := filterMap_find? eq.question.options_nodup fun o mem => same.mem_iff.mp mem
    refine ⟨options, same, ?_⟩
    simp only [Exam.row, saved, all]

/-- Every question of the exam is on the paper. -/
theorem complete_row (studentId : Id) (now : Instant) (draws : Draws) :
    Complete exam (exam.orderedQuestions (exam.row studentId now draws)) := by
  have perm := shuffled_perm exam.shuffleQuestions draws exam.questions
  refine ⟨_, perm, ?_⟩
  change List.Forall₂ _ _ (((shuffled exam.shuffleQuestions draws exam.questions).1.map
    (·.questionId)).filterMap (exam.orderedQuestion (exam.row studentId now draws)))
  have sub (eq) (mem : eq ∈ (shuffled exam.shuffleQuestions draws exam.questions).1) :
      eq ∈ exam.questions := perm.mem_iff.mp mem
  generalize (shuffled exam.shuffleQuestions draws exam.questions).1 = order at sub
  induction order with
  | nil => exact .nil
  | cons eq order ih =>
    obtain ⟨options, same, shown⟩ :=
      orderedQuestion_row studentId now draws (sub eq List.mem_cons_self)
    rw [List.map_cons, List.filterMap_cons_some shown]
    exact .cons ⟨options, same, rfl⟩ (ih fun q mem => sub q (List.mem_cons_of_mem _ mem))

end

/-! ### Showing again -/

section

variable {exam exam' : Exam}

theorem Exam.Relisted.find? (relisted : exam.Relisted exam') (qid : Id) :
    Option.Rel ExamQuestion.Relisted (exam.questions.find? (·.questionId = qid))
      (exam'.questions.find? (·.questionId = qid)) := by
  obtain ⟨order, perm, same⟩ := relisted.questions
  rw [← find?_perm exam'.questions_nodup perm.symm]
  clear perm
  generalize exam.questions = questions at same
  induction same with
  | nil => exact .none
  | @cons examQ examQ' questions order one rest ih =>
    have id : examQ'.questionId = examQ.questionId := congrArg PaperQuestion.questionId one.shown
    rw [List.find?_cons, List.find?_cons, id]
    split
    · exact .some one
    · exact ih

/-- A question is shown by what is stored of its options, if the options of a question without
such an order are none. -/
theorem Exam.Relisted.orderedQuestion (relisted : exam.Relisted exam')
    {participation participation' : ExamParticipation}
    (same : participation'.optionOrders = participation.optionOrders)
    (whole : ∀ eq ∈ exam.questions, participation.optionOrders.lookup eq.questionId = none →
      eq.question.options = []) (qid : Id) :
    exam'.orderedQuestion participation' qid = exam.orderedQuestion participation qid := by
  have rel := relisted.find? qid
  unfold Exam.orderedQuestion Exam.question?
  rw [same]
  cases found : exam.questions.find? (·.questionId = qid) with
  | none =>
    rw [found] at rel
    cases found' : exam'.questions.find? (·.questionId = qid) with
    | none => rfl
    | some examQ' =>
      rw [found'] at rel
      cases rel
  | some examQ =>
    rw [found] at rel
    cases found' : exam'.questions.find? (·.questionId = qid) with
    | none =>
      rw [found'] at rel
      cases rel
    | some examQ' =>
      rw [found'] at rel
      cases rel with
      | some one =>
        have shown (options : List QuestionOption) :
            examQ'.shown options = examQ.shown options :=
          congrArg (fun q : PaperQuestion =>
            { q with options := options.map QuestionOption.shown }) one.shown
        obtain ⟨mem, id⟩ := (find?_eq_some_iff exam.questions_nodup).mp found
        rw [Option.map_some, Option.map_some, shown]
        cases saved : participation.optionOrders.lookup qid with
        | none =>
          have empty := whole examQ mem (id ▸ saved)
          have empty' : examQ'.question.options = [] := by
            have options := one.options
            rw [empty] at options
            exact options.eq_nil
          simp only [empty, empty']
        | some order =>
          simp only [find?_perm examQ.question.options_nodup one.options]

/-- What a paper is found by and shown by. -/
def SamePaper (p p' : ExamParticipation) : Prop :=
  (p'.questionOrder, p'.optionOrders, p'.serverDeadline, p'.examId, p'.studentId) =
    (p.questionOrder, p.optionOrders, p.serverDeadline, p.examId, p.studentId)

theorem SamePaper.refl (p : ExamParticipation) : SamePaper p p := rfl

theorem SamePaper.trans {a b c : ExamParticipation} (first : SamePaper a b)
    (second : SamePaper b c) : SamePaper a c := Eq.trans second first

theorem Exam.Relisted.orderedQuestions (relisted : exam.Relisted exam')
    {participation participation' : ExamParticipation}
    (same : SamePaper participation participation')
    (whole : ∀ eq ∈ exam.questions, participation.optionOrders.lookup eq.questionId = none →
      eq.question.options = []) :
    exam'.orderedQuestions participation' = exam.orderedQuestions participation := by
  obtain ⟨order, options, -⟩ := Prod.mk.inj same |>.imp_right Prod.mk.inj
  unfold Exam.orderedQuestions
  rw [order]
  exact List.filterMap_congr fun qid _ => relisted.orderedQuestion options whole qid

end

/-! ### Between the calls -/

section

variable {db db' : Db}

theorem startExam_grows (school : School) (t e u : Id) (now : Instant) (draws : Draws) :
    Table.Grows SamePaper db.participations
      (startExam school t e u now draws db).1.participations := by
  have same : Table.Grows SamePaper db.participations db.participations :=
    .refl SamePaper.refl _
  unfold startExam
  split
  · rename_i step read
    cases step with
    | render exam paper => exact same
    | create exam row =>
      unfold startExam.write
      dsimp only
      split
      · rename_i next created
        exact .insert SamePaper.refl (Db.createParticipation_ok created).1
      · exact same
  · exact same

theorem updateParticipation_grows {id : Id} {data : ParticipationUpdate}
    (updated : db.updateParticipation id data = .ok db') (keeps : ∀ p, SamePaper p (data.set p)) :
    Table.Grows SamePaper db.participations db'.participations :=
  .update SamePaper.refl (Db.updateParticipation_ok updated).1 keeps

theorem submitExamAnswers_grows (school : School) (t e u : Id) (now : Instant)
    (dto : SubmitExamAnswersDto) : Table.Grows SamePaper db.participations
      (submitExamAnswers school t e u now dto db).1.participations := by
  have same : Table.Grows SamePaper db.participations db.participations :=
    .refl SamePaper.refl _
  unfold submitExamAnswers
  split
  · rename_i step read
    unfold submitExamAnswers.write
    split
    · split
      · rename_i next updated
        exact updateParticipation_grows updated fun _ => rfl
      · exact same
    · split
      · rename_i next done
        obtain ⟨stored, upserted, updated⟩ := bind_eq_ok.mp done
        have papers : stored.participations = db.participations :=
          inTurn_keeps (I := fun x : Db => x.participations = db.participations)
            (fun x record x' _ written kept => (upsertAnswer_ok written).1.trans kept) upserted rfl
        rw [← papers]
        exact updateParticipation_grows updated fun _ => rfl
      · exact same
  · exact same

theorem gradeDescriptiveAnswers_grows {school : School} {t p : Id}
    {dto : GradeExamParticipationDto} (done : gradeDescriptiveAnswers school t p dto db = .ok db') :
    Table.Grows SamePaper db.participations db'.participations := by
  obtain ⟨paper, -, done⟩ := bind_eq_ok.mp done
  obtain ⟨exam, -, done⟩ := bind_eq_ok.mp done
  obtain ⟨marked, grades, updated⟩ := bind_eq_ok.mp done
  have papers : marked.participations = db.participations := by
    refine inTurn_keeps (I := fun x : Db => x.participations = db.participations)
      (fun x g x' _ graded kept => ?_) grades rfl
    obtain ⟨stored, -, graded⟩ := bind_eq_ok.mp graded
    exact (Db.updateAnswer_ok graded).2.trans kept
  rw [← papers]
  exact updateParticipation_grows updated fun _ => rfl

/-- No call changes what a paper is shown by. -/
theorem serve_grows (db : Db) (call : Call) :
    Table.Grows SamePaper db.participations (serve db call).participations := by
  cases call with
  | startExam school t e u now draws => exact startExam_grows school t e u now draws
  | submitExamAnswers school t e u now dto => exact submitExamAnswers_grows school t e u now dto
  | gradeDescriptiveAnswers school t p dto =>
    unfold serve
    dsimp only
    split
    · rename_i next done
      exact gradeDescriptiveAnswers_grows done
    · exact .refl SamePaper.refl _

theorem run_grows (db : Db) (calls : List Call) :
    Table.Grows SamePaper db.participations (run serve db calls).participations := by
  induction calls generalizing db with
  | nil => exact .refl SamePaper.refl _
  | cons call calls ih =>
    exact .trans (fun _ _ _ => SamePaper.trans) (serve_grows db call) (ih (serve db call))

end

/-! ### The first call and the later ones -/

section

variable {school : School} {t e u : Id} {now : Instant} {draws : Draws} {db db' : Db}
  {exam : Exam} {reply : StartedExam}

/-- A call that succeeds shows the paper there is, or makes one. -/
theorem startExam_ok (done : startExam school t e u now draws db = (db', .ok reply)) :
    ∃ student exam, school.studentOf t u = some student ∧ school.examOf t e = some exam ∧
      ((∃ paper, db.paper? e student.id = some paper ∧ reply = exam.reply paper) ∨
        ∃ row, row = { exam.row student.id now draws with id := db.participations.fresh } ∧
          db.participations.insert row = some db'.participations ∧ reply = exam.reply row) := by
  unfold startExam at done
  split at done
  · rename_i step read
    obtain ⟨⟨student, exam⟩, letIn, read⟩ := bind_eq_ok.mp read
    obtain ⟨isStudent, isExam, -⟩ := letIn_eq_ok.mp letIn
    refine ⟨student, exam, isStudent, isExam, ?_⟩
    dsimp only at read
    split at read
    · rename_i paper found
      obtain ⟨_, -, read⟩ := bind_eq_ok.mp read
      cases read
      cases done
      exact .inl ⟨paper, found, rfl⟩
    · cases read
      unfold startExam.write at done
      dsimp only at done
      split at done
      · rename_i next created
        cases done
        exact .inr ⟨_, rfl, (Db.createParticipation_ok created).1, rfl⟩
      · cases done
  · cases done

/-- A student has one paper of an exam. -/
theorem paper?_of_find? {id : Id} {paper : ExamParticipation}
    (found : db.participations.find? id = some paper) :
    db.paper? paper.examId paper.studentId = some paper := by
  have mem := mem_of_find? found
  cases hit : db.paper? paper.examId paper.studentId with
  | none => exact absurd (List.find?_eq_none.mp hit paper mem) (by simp)
  | some other =>
    obtain ⟨isOther, sameExam, sameStudent⟩ := paper?_spec hit
    by_cases same : Record.key other = Record.key paper
    · rw [db.participations.eq_of_key_eq (mem_of_find? isOther) mem same]
    · have clear := db.participations.no_clash other (mem_of_find? isOther) paper mem same
      simp [Record.clash, sameExam, sameStudent] at clear

section

variable (first : FirstStart school t e u now draws db db' exam reply)

include first

/-- The first call stores the paper that it shows. -/
theorem FirstStart.stored :
    ∃ studentId row, row = { exam.row studentId now draws with id := db.participations.fresh } ∧
      db'.participations.find? row.id = some row ∧ reply = exam.reply row := by
  obtain ⟨student, exam', isStudent, isExam, done⟩ := startExam_ok first.done
  cases first.isExam.symm.trans isExam
  rcases done with ⟨paper, found, -⟩ | ⟨row, made, inserted, shown⟩
  · cases (first.new student isStudent).symm.trans found
  · exact ⟨student.id, row, made, (Table.find?_insert inserted _).trans (if_pos rfl), shown⟩

theorem FirstStart.complete : Complete exam reply.questions := by
  obtain ⟨studentId, row, rfl, -, rfl⟩ := first.stored
  exact complete_row studentId now draws

/-- The deadline is not after the end of the exam, nor after the time allowed and a minute. -/
theorem FirstStart.deadline : reply.serverDeadline ≤
      min exam.endTime (reply.startedAt + (exam.durationMinutes + 1) * 60 * 1000) := by
  obtain ⟨studentId, row, rfl, -, rfl⟩ := first.stored
  exact le_refl _

/-- After any calls the paper is still there, and is shown as it was. -/
theorem FirstStart.kept (calls : List Call) : ∃ paper,
      (run serve db' calls).participations.find? reply.participationId = some paper ∧
        ∀ exam', exam.Relisted exam' → (exam'.reply paper).questions = reply.questions ∧
            paper.serverDeadline = reply.serverDeadline := by
  obtain ⟨studentId, row, made, found, rfl⟩ := first.stored
  obtain ⟨paper, found', same⟩ := run_grows db' calls row.id row found
  have whole (eq : ExamQuestion) (mem : eq ∈ exam.questions)
      (none : row.optionOrders.lookup eq.questionId = none) : eq.question.options = [] := by
    subst made
    rcases lookup_optionOrders exam.shuffleOptions exam.questions_nodup
      (shuffled exam.shuffleQuestions draws exam.questions).2 mem with ⟨empty, -⟩ | ⟨_, -, saved⟩
    · exact empty
    · exact absurd (saved.symm.trans none) (by simp)
  exact ⟨paper, found', fun exam' relisted =>
    ⟨relisted.orderedQuestions same whole, congrArg (·.2.2.1) same⟩⟩

theorem FirstStart.stays : Stays exam db' reply := by
  intro calls school' t' e' u' now' draws' db'' reply' exam' done same isExam' relisted
  obtain ⟨paper, found, shown⟩ := first.kept calls
  obtain ⟨student, exam'', -, isExam'', done⟩ := startExam_ok done
  cases isExam'.symm.trans isExam''
  rw [← same] at found
  rcases done with ⟨participation, isPaper, rfl⟩ | ⟨row, rfl, -, rfl⟩
  · cases (paper?_spec isPaper).1.symm.trans found
    exact shown exam' relisted
  · -- A new paper has a new id.
    cases (find?_fresh (run serve db' calls).participations).symm.trans found

theorem FirstStart.shownAgain : ShownAgain exam db' reply := by
  intro calls school' t' u' now' draws' paper student exam' found inProgress isStudent isOwner
    isExam relisted enrolled begun inTime
  obtain ⟨kept, isKept, shown⟩ := first.kept calls
  cases found.symm.trans isKept
  refine ⟨exam'.reply paper, ?_, key_of_find? found, shown exam' relisted⟩
  have letIn := letIn_eq_ok.mpr ⟨isStudent, isExam, enrolled, begun, inTime⟩
  have isPaper := paper?_of_find? found
  rw [← isOwner] at isPaper
  have read : startExam.read school' t' paper.examId u' now' draws' (run serve db' calls) =
      .ok (.render exam' paper) := by
    unfold startExam.read
    rw [letIn]
    simp only [bind, Except.bind, isPaper, inProgress]
    rfl
  unfold startExam
  rw [read]
  rfl

end

end

/-! ### Keys -/

section

theorem ExamQuestion.shown_redacted (examQ : ExamQuestion) (options : List QuestionOption) :
    examQ.redacted.shown (options.map (·.redacted)) = examQ.shown options := by
  simp only [ExamQuestion.shown, List.map_map]
  rfl

theorem School.examOf_redacted (school : School) (tenantId id : Id) :
    school.redacted.examOf tenantId id = (school.examOf tenantId id).map (·.redacted) :=
  List.find?_map ..

theorem shuffled_map {α β : Type} (f : α → β) (wanted : Bool) (draws : Draws) (list : List α) :
    shuffled wanted draws (list.map f) =
      ((shuffled wanted draws list).1.map f, (shuffled wanted draws list).2) := by
  unfold shuffled
  split
  · rw [shuffleArray_map, List.length_map]
  · rfl

theorem optionOrders_redacted (wanted : Bool) (questions : List ExamQuestion) (draws : Draws) :
    optionOrders wanted (questions.map (·.redacted)) draws =
      optionOrders wanted questions draws := by
  induction questions generalizing draws with
  | nil => rfl
  | cons eq questions ih =>
    rw [List.map_cons]
    unfold optionOrders
    have options : eq.redacted.question.options = eq.question.options.map (·.redacted) := rfl
    simp only [options, List.map_eq_nil_iff, shuffled_map, List.map_map, ih]
    rfl

theorem Exam.row_redacted (exam : Exam) (studentId : Id) (now : Instant) (draws : Draws) :
    exam.redacted.row studentId now draws = exam.row studentId now draws := by
  have questions : exam.redacted.questions = exam.questions.map (·.redacted) := rfl
  unfold Exam.row
  simp only [questions, shuffled_map, List.map_map]
  rw [show exam.redacted.shuffleOptions = exam.shuffleOptions from rfl, optionOrders_redacted]
  rfl

theorem Exam.reply_redacted (exam : Exam) (participation : ExamParticipation) :
    exam.redacted.reply participation = exam.reply participation := by
  have question (qid : Id) : exam.redacted.orderedQuestion participation qid =
      exam.orderedQuestion participation qid := by
    unfold Exam.orderedQuestion Exam.question?
    have questions : exam.redacted.questions = exam.questions.map (·.redacted) := rfl
    rw [questions, List.find?_map, Option.map_map]
    refine congrArg (Option.map · _) (funext fun examQ => ?_)
    have options : examQ.redacted.question.options = examQ.question.options.map (·.redacted) := rfl
    simp only [Function.comp, options]
    cases participation.optionOrders.lookup qid with
    | none => exact examQ.shown_redacted _
    | some savedOptionOrder =>
      simp only [List.find?_map]
      rw [← List.map_filterMap, examQ.shown_redacted]
      rfl
  unfold Exam.reply Exam.orderedQuestions
  rw [funext question]
  rfl

theorem School.letIn_redacted (school : School) (t e u : Id) (now : Instant) :
    school.redacted.letIn t e u now =
      (school.letIn t e u now).map fun (student, exam) => (student, exam.redacted) := by
  have students : school.redacted.studentOf t u = school.studentOf t u := rfl
  unfold School.letIn
  rw [School.examOf_redacted, students]
  cases school.studentOf t u with
  | none => rfl
  | some student =>
    cases school.examOf t e with
    | none => rfl
    | some exam =>
      simp only [orFail, Option.map_some, bind, Except.bind, require]
      split_ifs <;> first | rfl | contradiction

/-- Without the keys, the same is answered. -/
theorem startExam_redacted (school : School) (t e u : Id) (now : Instant) (draws : Draws)
    (db : Db) : startExam school.redacted t e u now draws db = startExam school t e u now draws db := by
  unfold startExam startExam.read
  rw [School.letIn_redacted]
  cases school.letIn t e u now with
  | error e => rfl
  | ok admitted =>
    obtain ⟨student, exam⟩ := admitted
    simp only [Except.map, bind, Except.bind]
    cases db.paper? e student.id with
    | none => simp only [pure, Except.pure, startExam.write, Exam.row_redacted, Exam.reply_redacted]
    | some paper =>
      simp only [require]
      split_ifs <;>
        simp only [pure, Except.pure, startExam.write, Exam.reply_redacted]

end

/-- **The assembled paper.** The paper of a first call is complete and its deadline is in bounds; it
is shown again as it was, whatever else is called, while the exam is the same; and it does not
depend on the keys and the solutions. -/
theorem paper_complete_stable_blind {school : School} {t e u : Id} {now : Instant} {draws : Draws}
    {db db' : Db} {exam : Exam} {reply : StartedExam}
    (first : FirstStart school t e u now draws db db' exam reply) :
    Complete exam reply.questions ∧ reply.serverDeadline ≤
        min exam.endTime (reply.startedAt + (exam.durationMinutes + 1) * 60 * 1000) ∧
      Stays exam db' reply ∧ ShownAgain exam db' reply ∧ Blind school t e u now draws db := by
  refine ⟨first.complete, first.deadline, first.stays, first.shownAgain, fun school' same => ?_⟩
  rw [← startExam_redacted school', same, startExam_redacted]

namespace Classroom

/-- The exam, its questions listed the other way round. -/
def relisted : Exam :=
  { exam with questions := exam.questions.reverse, questions_nodup := by decide +kernel }

theorem exam_relisted : exam.Relisted relisted where
  columns := rfl
  questions := ⟨exam.questions, List.reverse_perm _,
    List.forall₂_same.mpr fun _ _ => ⟨rfl, List.Perm.refl _⟩⟩

/-- The student asks for the paper again, and a teacher grades it, before it is handed in. -/
def between : List Call :=
  [.startExam (school exam) 1 5 9 30000 fun _ => ⟨1 / 2, by norm_num⟩,
    .gradeDescriptiveAnswers (school exam) 1 1 {}]

end Classroom

open Classroom in
/-- The questions and the options are handed out in the other order, and so once more later. -/
theorem paper_of_classroom : ∃ reply,
    startExam (school exam) 1 5 9 0 draws Db.empty = (started exam, .ok reply) ∧
      reply.questions.map (fun q => (q.questionId, q.options.map (·.id))) =
        [(22, [42]), (21, [32, 31])] ∧
      Complete exam reply.questions ∧
      ∃ reply', startExam (school relisted) 1 5 9 60000 draws (run serve (started exam) between) =
          (run serve (started exam) between, .ok reply') ∧
        reply'.questions = reply.questions := by
  have shown : (startExam (school exam) 1 5 9 0 draws Db.empty).2.toOption.map (·.questions.map
      fun q => (q.questionId, q.options.map (·.id))) = some [(22, [42]), (21, [32, 31])] := by
    decide +kernel
  have isFirst : (startExam (school exam) 1 5 9 0 draws Db.empty).2.toOption.map (·.participationId) =
      some 1 := by decide +kernel
  cases done : (startExam (school exam) 1 5 9 0 draws Db.empty).2 with
  | error e =>
    rw [done] at shown
    cases shown
  | ok reply =>
    rw [done] at shown isFirst
    have first : FirstStart (school exam) 1 5 9 0 draws Db.empty (started exam) exam reply :=
      ⟨rfl, fun _ _ => rfl, Prod.ext rfl done⟩
    obtain ⟨complete, -, -, again, -⟩ := paper_complete_stable_blind first
    have id : reply.participationId = 1 := Option.some.inj isFirst
    have found : (run serve (started exam) between).participations.find? reply.participationId =
        some { paper exam with totalScore := some (.finite 0), isGraded := true } := by
      rw [id]
      decide +kernel
    obtain ⟨reply', shownAgain, -, same, -⟩ := again between (school relisted) 1 9 60000 draws _ _ _
      found rfl rfl rfl rfl exam_relisted (by decide) (by decide) (by decide)
    exact ⟨reply, first.done, Option.some.inj shown, complete, reply', shownAgain, same⟩

end Rokad.Exams
