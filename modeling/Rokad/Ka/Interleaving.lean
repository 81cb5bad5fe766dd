import Rokad.Ka.Tokens

/-!
# Calls that interleave

A review, an award, a claim or a fulfilment reads, decides and writes in separate statements. The
checks are made on what was read, and an award writes a score it has computed from that, so two
calls in progress can undo each other (`not_accounted`).

Where each check still holds when the write that rests on it is made, the accounts are right in
every reachable state (`accounted_of_fits`): the scores are those of the successful awards one
after another, no submission is awarded twice, no claim is refunded twice, and no balance is
negative.
-/

namespace Rokad.Ka

open Rokad.Base Rokad.Common

/-! ### Calls in progress -/

/-- What a call answers with. -/
inductive Reply where
  | done
  | activity (row : KaStudentActivity)
  | claim (row : KaStudentReward)

def Call.program : Call → KaProg Reply
  | .submitActivity tenantId userId dto => do
      let _ ← Ka.submitActivity tenantId userId dto
      pure .done
  | .reviewSubmission tenantId id dto => do
      let row ← Ka.reviewSubmission tenantId id dto
      pure (.activity row)
  | .directAwardActivity tenantId dto => do
      let row ← Ka.directAwardActivity tenantId dto
      pure (.activity row)
  | .claimReward tenantId userId dto => do
      let row ← Ka.claimReward tenantId userId dto
      pure (.claim row)
  | .fulfillReward tenantId id status => do
      let row ← Ka.fulfillReward tenantId id status
      pure (.claim row)

/-- The points a call awards if it succeeds. -/
def Call.change : Call → Option ℚ
  | .reviewSubmission _ _ dto => dto.awards
  | .directAwardActivity _ dto => some dto.scoreAwarded
  | _ => none

section

variable {ι : Type} [DecidableEq ι]

def start (db : Db) (calls : ι → Call) : Threads Db (KaProg Reply) ι :=
  ⟨db, fun i => (calls i).program⟩

abbrev kaStep : Threads Db (KaProg Reply) ι → Move ι Unit Empty → Threads Db (KaProg Reply) ι :=
  Prog.moveStep exec fun db _ => db

variable (calls : ι → Call) (p : Threads Db (KaProg Reply) ι)

/-! ### What is right -/

/-- The record of an award that call `i` has made. -/
def awardOf (i : ι) : Option KaStudentActivity :=
  match p.own i with
  | .ret (.ok (.activity row)) => if (calls i).change.isSome then some row else none
  | _ => none

/-- From one score to another, by these awards in turn. -/
def Scored : ℚ → List ℚ → ℚ → Prop
  | before, [], after => after = before
  | before, scoreAwarded :: rest, after =>
    ∃ score, newScore before scoreAwarded = .finite score ∧ Scored score rest after

/-- The score of the student is that of the successful awards in some order. -/
def Serial (db : Db) (k : Id) : Prop :=
  ∃ order : List ι, order.Nodup ∧
    (∀ i, i ∈ order ↔ ∃ row ∈ awardOf calls p i, row.studentId = k) ∧
    Scored (scoreOf k db) (order.filterMap fun i => (calls i).change) (scoreOf k p.shared)

/-- The claim whose cost this move gives back. -/
def refunded : Move ι Unit Empty → Option Id
  | .thread i _ =>
    match calls i, p.own i with
    | .fulfillReward _ id _, .step (.write (.addToken student change)) _ =>
      match p.shared.write (.addToken student change) with
      | .ok _ => some id
      | .error _ => none
    | _, _ => none
  | .world e => e.elim

/-- A run that started on `db` and put out these refunds. -/
structure Accounted (db : Db) (refunds : List Id) : Prop where
  once : ∀ i j, ∀ row ∈ awardOf calls p i, ∀ row' ∈ awardOf calls p j, row.id = row'.id → i = j
  serial : ∀ k, Serial calls p db k
  refunds : refunds.Nodup
  tokens : ∀ s ∈ p.shared.students.rows, 0 ≤ s.kaToken

/-! ### When the checks still hold -/

/-- The call is about to set the claim to rejected. -/
def Rejecting (id : Id) : KaProg Reply → Prop
  | .step (.write (.setClaimStatus id' status)) _ => id' = id ∧ status = .rejected
  | _ => False

/-- What call `i` checked on its readings still holds when it writes. -/
def Statement.Fits (i : ι) : Statement → Prop
  -- the submission has not been reviewed since
  | .updateSubmission id _ => ∀ row ∈ p.shared.submissions.find? id, row.status = .pending
  -- no other award has changed the score
  | .award id kaScore _ => ∀ scoreAwarded ∈ (calls i).change,
      newScore (scoreOf id p.shared) scoreAwarded = .finite kaScore
  -- the balance covers the cost; a claim that is given back is not rejected, nor about to be
  | .addToken id change =>
    (∀ s ∈ p.shared.students.find? id, 0 ≤ s.kaToken + change) ∧
      match calls i with
      | .fulfillReward _ claimId _ =>
        (∃ claim ∈ p.shared.claims.find? claimId, claim.status ≠ .rejected) ∧
          ∀ j, ¬ Rejecting claimId (p.own j)
      | _ => True
  -- a rejected claim stays rejected
  | .setClaimStatus id status => ∀ claim ∈ p.shared.claims.find? id,
      claim.status = .rejected → status = .rejected
  | _ => True

def Fits : Move ι Unit Empty → Prop
  | .thread i _ =>
    match p.own i with
    | .step (.write s) _ => s.Fits calls p i
    | _ => True
  | .world e => e.elim

end

/-! ### What a call still does -/

/-- What follows when a call has recorded its activity: the award, if any, and the answer. -/
inductive Awards (call : Call) (row : KaStudentActivity) : KaProg Reply → Prop
  | award (studentId : Id) (kaScore kaToken : ℚ) (own : studentId = row.studentId)
      (change : call.change ≠ none) (nonneg : 0 ≤ kaToken) :
      Awards call row (.step (.write (.award studentId kaScore kaToken)) fun done =>
        Prog.ret done >>= fun _ => Prog.ret (.ok (.activity row)))
  | answer (change : call.change = none) : Awards call row (.ret (.ok (.activity row)))
  | fail (e : Failure) : Awards call row (.ret (.error e))

/-- A call that has not yet recorded an activity, or never does. -/
def Records (call : Call) : KaProg Reply → Prop
  | .ret r => call.change = none ∨ ∃ e, r = .error e
  | .step .read next => ∀ db, Records call (next db)
  | .step (.write s) next =>
    match s with
    | .createSubmission row =>
      (∀ e, Records call (next (.error e))) ∧ ∀ id, Records call (next (.ok id)) ∨
        row.status ≠ .pending ∧ Awards call { row with id } (next (.ok id))
    | .updateSubmission id dto =>
      (∀ e, Records call (next (.error e))) ∧ ∀ x, ∃ row, row.id = id ∧
        (call.change ≠ none → dto.status ≠ .pending) ∧ Awards call row (next (.ok x))
    | .award .. => False
    | .addToken .. | .createClaim _ | .setClaimStatus .. => ∀ r, Records call (next r)

section

variable {call : Call}

theorem records_found {α : Type} {found : Option α} {e : Failure} {f : α → KaProg Reply}
    (rest : ∀ a, found = some a → Records call (f a)) :
    Records call (Prog.ret (orFail found e) >>= f) := by
  cases found with
  | none => exact Or.inr ⟨e, rfl⟩
  | some a => exact rest a rfl

theorem records_require {cond : Prop} [Decidable cond] {e : Failure} {f : Unit → KaProg Reply}
    (rest : Records call (f ())) : Records call (Prog.ret (require cond e) >>= f) := by
  unfold require
  split
  · exact rest
  · exact Or.inr ⟨e, rfl⟩

theorem awards_awardScore {row : KaStudentActivity} {student : StudentProfile} {scoreAwarded : ℚ}
    (own : student.id = row.studentId) (change : call.change ≠ none) :
    Awards call row (awardScore student scoreAwarded >>= fun _ =>
      Prog.ret (.ok (.activity row))) := by
  simp only [awardScore, Prog.bind_assoc]
  cases column (newScore student.kaScore scoreAwarded) with
  | error e => exact .fail e
  | ok kaScore =>
    cases isToken : column ((Number.finite 0).max
        (share (newScore student.kaScore scoreAwarded))) with
    | error e => exact .fail e
    | ok kaToken =>
      simp only [Prog.ret_ok_bind, perform, Prog.step_bind]
      exact .award student.id kaScore kaToken own change
        (Number.nonneg_of_max (column_eq_ok.mp isToken))

theorem records_program (call : Call) : Records call call.program := by
  cases call with
  | submitActivity tenantId userId dto =>
    simp only [Call.program, submitActivity, snapshot, perform, Prog.bind_assoc, Prog.step_bind,
      Prog.ret_ok_bind]
    intro db
    refine records_found fun student _ db => records_found fun activity _ => ?_
    exact ⟨fun e => Or.inl rfl, fun id => Or.inl (Or.inl rfl)⟩
  | reviewSubmission tenantId id dto =>
    simp only [Call.program, reviewSubmission, snapshot, perform, Prog.bind_assoc, Prog.step_bind,
      Prog.ret_ok_bind]
    intro db
    refine records_found fun found looked => records_require ?_
    obtain ⟨submission, stored, student, ofSubmission, rfl⟩ :
        ∃ submission, (db.submissions.find? id).filter (·.tenantId = tenantId) = some submission ∧
          ∃ student, db.students.find? submission.studentId = some student ∧
            found = (submission, student) := by
      simp only [Db.submissionOf, Option.bind_eq_bind, Option.bind_eq_some_iff, Option.pure_def,
        Option.some.injEq] at looked
      obtain ⟨submission, stored, student, ofSubmission, same⟩ := looked
      exact ⟨submission, stored, student, ofSubmission, same.symm⟩
    have isSubmission : submission.id = id :=
      key_of_find? (Option.filter_eq_some_iff.mp stored).1
    have own : student.id = (dto.apply submission).studentId := key_of_find? ofSubmission
    refine ⟨fun e => Or.inr ⟨e, rfl⟩, fun x => ⟨dto.apply submission, isSubmission, ?_⟩⟩
    cases awards : dto.awards with
    | none =>
      refine ⟨fun change => absurd awards change, ?_⟩
      exact .answer awards
    | some scoreAwarded =>
      have change : (Call.reviewSubmission tenantId id dto).change ≠ none := by
        simp [Call.change, awards]
      have approved : dto.status = .approved := by
        by_contra other
        simp [Review.awards, other] at awards
      refine ⟨fun _ => by simp [approved], ?_⟩
      change Awards _ _ ((awardScore student scoreAwarded >>= fun _ =>
        (pure (dto.apply submission) : KaProg KaStudentActivity)) >>= fun row =>
          Prog.ret (.ok (.activity row)))
      rw [Prog.bind_assoc]
      exact awards_awardScore own change
  | directAwardActivity tenantId dto =>
    simp only [Call.program, directAwardActivity, snapshot, perform, Prog.bind_assoc,
      Prog.step_bind, Prog.ret_ok_bind]
    intro db
    refine records_found fun student looked db => records_found fun activity _ => ?_
    refine ⟨fun e => Or.inr ⟨e, rfl⟩, fun id => Or.inr ⟨by simp, ?_⟩⟩
    exact awards_awardScore rfl (by simp [Call.change])
  | claimReward tenantId userId dto =>
    simp only [Call.program, claimReward, snapshot, perform, Prog.bind_assoc, Prog.step_bind,
      Prog.ret_ok_bind]
    intro db
    refine records_found fun student _ db => records_found fun reward _ => records_require ?_
    split
    · rintro (e | _)
      · exact Or.inl rfl
      · rintro (e | _) <;> exact Or.inl rfl
    · rintro (e | _) <;> exact Or.inl rfl
  | fulfillReward tenantId id status =>
    simp only [Call.program, fulfillReward, snapshot, perform, Prog.bind_assoc, Prog.step_bind,
      Prog.ret_ok_bind]
    intro db
    refine records_found fun claim _ => ?_
    split
    · rintro (e | _)
      · exact Or.inl rfl
      · rintro (e | _) <;> exact Or.inl rfl
    · rintro (e | _) <;> exact Or.inl rfl

end

/-- Where a call is: before its record, at its award, or over. -/
inductive Stage (call : Call) : KaProg Reply → Prop
  | records {prog : KaProg Reply} (records : Records call prog) : Stage call prog
  | award (row : KaStudentActivity) (kaScore kaToken : ℚ) (change : call.change ≠ none)
      (nonneg : 0 ≤ kaToken) :
      Stage call (.step (.write (.award row.studentId kaScore kaToken)) fun done =>
        Prog.ret done >>= fun _ => Prog.ret (.ok (.activity row)))
  | over (r : Result Reply) : Stage call (.ret r)

/-- The call awards for this record, now or before. -/
def Credits (call : Call) (prog : KaProg Reply) (row : KaStudentActivity) : Prop :=
  call.change ≠ none ∧ (prog = .ret (.ok (.activity row)) ∨ ∃ kaScore kaToken,
    prog = .step (.write (.award row.studentId kaScore kaToken)) fun done =>
      Prog.ret done >>= fun _ => Prog.ret (.ok (.activity row)))

/-- The submission is stored and has been reviewed. -/
def Reviewed (db : Db) (id : Id) : Prop :=
  ∃ stored ∈ db.submissions.find? id, stored.status ≠ .pending

section

variable {call : Call} {prog : KaProg Reply} {row : KaStudentActivity}

theorem Awards.stage (awards : Awards call row prog) : Stage call prog := by
  cases awards with
  | award studentId kaScore kaToken own change nonneg =>
    exact own ▸ .award row kaScore kaToken change nonneg
  | answer change => exact .over _
  | fail e => exact .over _

theorem Awards.credits (awards : Awards call row prog) {row' : KaStudentActivity}
    (credits : Credits call prog row') : row' = row := by
  obtain ⟨changes, answered | ⟨kaScore', kaToken', same⟩⟩ := credits
  · cases awards with
    | award studentId kaScore kaToken own change nonneg => cases answered
    | answer change => exact absurd change changes
    | fail e => cases answered
  · cases awards with
    | award studentId kaScore kaToken own change nonneg =>
      injection same with _ next
      have answer := congrFun next (Except.ok 0)
      simpa using answer.symm
    | answer change => cases same
    | fail e => cases same

theorem Records.not_credits (records : Records call prog) : ¬ Credits call prog row := by
  rintro ⟨changes, rfl | ⟨kaScore, kaToken, rfl⟩⟩
  · rcases records with change | ⟨e, same⟩
    · exact changes change
    · cases same
  · exact records

end

/-! ### What a write changes -/

section

variable {db db' : Db} {s : Statement}

theorem Reviewed.write {id : Id} (reviewed : Reviewed db id) (done : db.write s = .ok db')
    (fits : ∀ dto, s = .updateSubmission id dto →
      ∀ row ∈ db.submissions.find? id, row.status = .pending) : Reviewed db' id := by
  obtain ⟨stored, found, status⟩ := reviewed
  have submissions := Db.write_submissions done
  cases s with
  | createSubmission row =>
    exact ⟨stored, Table.find?_insert_of_found submissions found, status⟩
  | updateSubmission id' dto =>
    by_cases own : id = id'
    · subst own
      exact absurd (fits dto rfl stored found) status
    · refine ⟨stored, ?_, status⟩
      exact (Table.find?_update_of_ne submissions own).trans found
  | _ => exact ⟨stored, submissions ▸ found, status⟩

theorem scoreOf_write (k : Id) (done : db.write s = .ok db')
    (other : ∀ kaScore kaToken, s ≠ .award k kaScore kaToken) : scoreOf k db' = scoreOf k db := by
  have students := Db.write_students done
  cases s with
  | award id kaScore kaToken =>
    have differ : k ≠ id := fun same => other kaScore kaToken (same ▸ rfl)
    rw [scoreOf, Table.find?_update_of_ne students differ, scoreOf]
  | addToken id change =>
    obtain ⟨student, kaToken, found, -, updated⟩ := students
    by_cases own : k = id
    · subst own
      simp [scoreOf, find?_update_self updated found, found, StudentProfile.setToken]
    · rw [scoreOf, Table.find?_update_of_ne updated own, scoreOf]
  | _ => rw [scoreOf, students, scoreOf]

theorem scoreOf_award {k : Id} {kaScore kaToken : ℚ}
    (done : db.write (.award k kaScore kaToken) = .ok db') : scoreOf k db' = kaScore := by
  have students := Db.write_students done
  obtain ⟨student, found⟩ := Table.find?_of_update students
  simp [scoreOf, find?_update_self students found, StudentProfile.award]

/-- A balance stays above zero under an award and under a change it covers. -/
theorem tokens_write (tokens : ∀ x ∈ db.students.rows, 0 ≤ x.kaToken)
    (done : db.write s = .ok db')
    (nonneg : ∀ id kaScore kaToken, s = .award id kaScore kaToken → 0 ≤ kaToken)
    (covered : ∀ id change, s = .addToken id change →
      ∀ x ∈ db.students.find? id, 0 ≤ x.kaToken + change) :
    ∀ x ∈ db'.students.rows, 0 ≤ x.kaToken := by
  have students := Db.write_students done
  intro x mem
  cases s with
  | award id kaScore kaToken =>
    rcases (mem_update students).mp mem with ⟨mem, -⟩ | ⟨row, -, rfl⟩
    · exact tokens x mem
    · exact nonneg id kaScore kaToken rfl
  | addToken id change =>
    obtain ⟨student, kaToken, found, isToken, updated⟩ := students
    rcases (mem_update updated).mp mem with ⟨mem, -⟩ | ⟨row, -, rfl⟩
    · exact tokens x mem
    · have above := covered id change rfl student found
      rw [StudentProfile.setToken, toDouble_finite isToken]
      exact rounded_nonneg above
  | _ => exact tokens x (students ▸ mem)

end

/-! ### The awards -/

theorem Scored.snoc {before mid after scoreAwarded : ℚ} {changes : List ℚ}
    (scored : Scored before changes mid) (last : newScore mid scoreAwarded = .finite after) :
    Scored before (changes ++ [scoreAwarded]) after := by
  induction changes generalizing before with
  | nil =>
    obtain rfl : mid = before := scored
    exact ⟨after, last, rfl⟩
  | cons first rest ih =>
    obtain ⟨score, isScore, scored⟩ := scored
    exact ⟨score, isScore, ih scored⟩

section

variable {ι : Type} [DecidableEq ι] {calls : ι → Call} {p : Threads Db (KaProg Reply) ι}
  {db : Db} {i : ι}

omit [DecidableEq ι] in
theorem mem_awardOf_iff {row : KaStudentActivity} : row ∈ awardOf calls p i ↔
    (calls i).change ≠ none ∧ p.own i = .ret (.ok (.activity row)) := by
  unfold awardOf
  split
  · rename_i row' answered
    rw [answered]
    cases (calls i).change <;> simp
  · rename_i other
    simp only [Option.mem_def, reduceCtorEq, false_iff, not_and]
    exact fun _ answered => other row answered

variable (calls p db)

structure Right : Prop where
  stage : ∀ i, Stage (calls i) (p.own i)
  reviewed : ∀ i row, Credits (calls i) (p.own i) row → Reviewed p.shared row.id
  once : ∀ i j row row', Credits (calls i) (p.own i) row → Credits (calls j) (p.own j) row' →
    row.id = row'.id → i = j
  serial : ∀ k, Serial calls p db k
  tokens : ∀ x ∈ p.shared.students.rows, 0 ≤ x.kaToken

variable {calls p db}

/-- A thread moves on, to a state in which what was reviewed still is. -/
theorem Right.advance (right : Right calls p db) {shared : Db} {prog : KaProg Reply}
    (stage : Stage (calls i) prog) (kept : ∀ id, Reviewed p.shared id → Reviewed shared id)
    (credits : ∀ row, Credits (calls i) prog row → Reviewed shared row.id ∧
      ∀ j row', j ≠ i → Credits (calls j) (p.own j) row' → row'.id ≠ row.id)
    (serial : ∀ k, Serial calls (p.put i shared prog) db k)
    (tokens : ∀ x ∈ shared.students.rows, 0 ≤ x.kaToken) :
    Right calls (p.put i shared prog) db where
  stage j := by
    by_cases own : j = i
    · subst own
      rwa [Threads.own_put_self]
    · rw [Threads.own_put_of_ne own]
      exact right.stage j
  reviewed j row credit := by
    by_cases own : j = i
    · subst own
      rw [Threads.own_put_self] at credit
      exact (credits row credit).1
    · rw [Threads.own_put_of_ne own] at credit
      exact kept row.id (right.reviewed j row credit)
  once j j' row row' credit credit' same := by
    by_cases own : j = i <;> by_cases own' : j' = i
    · exact own.trans own'.symm
    · subst own
      rw [Threads.own_put_self] at credit
      rw [Threads.own_put_of_ne own'] at credit'
      exact absurd same.symm ((credits row credit).2 j' row' own' credit')
    · subst own'
      rw [Threads.own_put_of_ne own] at credit
      rw [Threads.own_put_self] at credit'
      exact absurd same ((credits row' credit').2 j row own credit)
    · rw [Threads.own_put_of_ne own] at credit
      rw [Threads.own_put_of_ne own'] at credit'
      exact right.once j j' row row' credit credit' same
  serial
  tokens

/-- A move that neither makes nor unmakes an award, and leaves the score, keeps the order. -/
theorem Serial.quiet {k : Id} (serial : Serial calls p db k) {shared : Db} {prog : KaProg Reply}
    (score : scoreOf k shared = scoreOf k p.shared)
    (before : ∀ row, p.own i = .ret (.ok (.activity row)) → (calls i).change = none)
    (after : ∀ row, prog = .ret (.ok (.activity row)) → (calls i).change = none) :
    Serial calls (p.put i shared prog) db k := by
  obtain ⟨order, nodup, mem, scored⟩ := serial
  refine ⟨order, nodup, fun j => (mem j).trans ?_, score ▸ scored⟩
  simp only [mem_awardOf_iff]
  by_cases own : j = i
  · subst own
    rw [Threads.own_put_self]
    constructor
    · rintro ⟨row, ⟨changes, answered⟩, -⟩
      exact absurd (before row answered) changes
    · rintro ⟨row, ⟨changes, answered⟩, -⟩
      exact absurd (after row answered) changes
  · rw [Threads.own_put_of_ne own]

/-- An award that starts from the current score comes last in the order of its student. -/
theorem Serial.award {k : Id} (serial : Serial calls p db k) {shared : Db}
    {row : KaStudentActivity} {kaScore kaToken scoreAwarded : ℚ}
    (done : p.shared.write (.award row.studentId kaScore kaToken) = .ok shared)
    (change : (calls i).change = some scoreAwarded)
    (before : ∀ row, p.own i ≠ .ret (.ok (.activity row)))
    (current : newScore (scoreOf row.studentId p.shared) scoreAwarded = .finite kaScore) :
    Serial calls (p.put i shared (.ret (.ok (.activity row)))) db k := by
  obtain ⟨order, nodup, mem, scored⟩ := serial
  have absent : i ∉ order := fun present => by
    obtain ⟨row', award, -⟩ := (mem i).mp present
    exact before row' (mem_awardOf_iff.mp award).2
  have others (j : ι) (differ : j ≠ i) : awardOf calls (p.put i shared
      (.ret (.ok (.activity row)))) j = awardOf calls p j := by
    simp only [awardOf, Threads.own_put_of_ne differ]
  have itself : awardOf calls (p.put i shared (.ret (.ok (.activity row)))) i = some row :=
    mem_awardOf_iff.mpr ⟨by simp [change], Threads.own_put_self⟩
  by_cases own : row.studentId = k
  · subst own
    refine ⟨order ++ [i], ?_, fun j => ?_, ?_⟩
    · exact List.nodup_append.mpr ⟨nodup, List.nodup_singleton i, by
        rintro j mem' _ (_ | ⟨_, ⟨⟩⟩) rfl
        exact absent mem'⟩
    · by_cases differ : j = i
      · subst differ
        simp [itself]
      · simp [others j differ, mem j, differ]
    · have last : [i].filterMap (fun i => (calls i).change) = [scoreAwarded] := by simp [change]
      rw [List.filterMap_append, last, Threads.shared_put, scoreOf_award done]
      exact scored.snoc current
  · refine ⟨order, nodup, fun j => (mem j).trans ?_, ?_⟩
    · by_cases differ : j = i
      · subst differ
        simpa [itself, own] using (mem j).not.mp absent
      · rw [others j differ]
    · rw [Threads.shared_put, scoreOf_write k done fun kaScore' kaToken' same => ?_]
      · exact scored
      · cases same
        exact own rfl

theorem Records.unanswered {call : Call} {prog : KaProg Reply} (records : Records call prog)
    (row : KaStudentActivity) (answered : prog = .ret (.ok (.activity row))) :
    call.change = none := by
  by_contra changes
  exact records.not_credits ⟨changes, Or.inl answered⟩

theorem Awards.unanswered {call : Call} {prog : KaProg Reply} {row : KaStudentActivity}
    (awards : Awards call row prog) (row' : KaStudentActivity)
    (answered : prog = .ret (.ok (.activity row'))) : call.change = none := by
  cases awards with
  | award studentId kaScore kaToken own change nonneg => cases answered
  | answer change => exact change
  | fail e => cases answered

/-- A thread goes on without a record: what it writes is no award. -/
theorem Right.records (right : Right calls p db) {shared : Db} {prog : KaProg Reply}
    (before : Records (calls i) (p.own i)) (after : Records (calls i) prog)
    (kept : ∀ id, Reviewed p.shared id → Reviewed shared id)
    (scores : ∀ k, scoreOf k shared = scoreOf k p.shared)
    (tokens : ∀ x ∈ shared.students.rows, 0 ≤ x.kaToken) :
    Right calls (p.put i shared prog) db :=
  right.advance (.records after) kept (fun _ credit => absurd credit after.not_credits)
    (fun k => (right.serial k).quiet (scores k) before.unanswered after.unanswered) tokens

/-- A thread has recorded an activity that no other has. -/
theorem Right.recorded (right : Right calls p db) {shared : Db} {prog : KaProg Reply}
    {row : KaStudentActivity} (before : Records (calls i) (p.own i))
    (after : Awards (calls i) row prog) (kept : ∀ id, Reviewed p.shared id → Reviewed shared id)
    (reviewed : (calls i).change ≠ none → Reviewed shared row.id)
    (unreviewed : ¬ Reviewed p.shared row.id)
    (scores : ∀ k, scoreOf k shared = scoreOf k p.shared)
    (tokens : ∀ x ∈ shared.students.rows, 0 ≤ x.kaToken) :
    Right calls (p.put i shared prog) db := by
  refine right.advance after.stage kept (fun row' credit => ?_)
    (fun k => (right.serial k).quiet (scores k) before.unanswered after.unanswered) tokens
  obtain rfl := after.credits credit
  refine ⟨reviewed credit.1, fun j other differ credit' same => unreviewed ?_⟩
  exact same ▸ right.reviewed j other credit'

/-- A statement of a call that has not recorded an activity yet. -/
theorem Right.write_records (right : Right calls p db) {s : Statement} {shared : Db}
    {next : Result Id → KaProg Reply} (own : p.own i = .step (.write s) next)
    (records : Records (calls i) (.step (.write s) next)) (fits : s.Fits calls p i)
    (done : p.shared.write s = .ok shared) :
    Right calls (p.put i shared (next (.ok (s.target p.shared)))) db := by
  have before : Records (calls i) (p.own i) := own ▸ records
  have kept : ∀ id, Reviewed p.shared id → Reviewed shared id := fun id reviewed =>
    reviewed.write done fun dto same => by
      subst same
      exact fits
  have noAward : ∀ k kaScore kaToken, s ≠ .award k kaScore kaToken := by
    rintro k kaScore kaToken rfl
    exact records
  have scores : ∀ k, scoreOf k shared = scoreOf k p.shared := fun k =>
    scoreOf_write k done (noAward k)
  have tokens : ∀ x ∈ shared.students.rows, 0 ≤ x.kaToken :=
    tokens_write right.tokens done
      (fun id kaScore kaToken same => absurd same (noAward id kaScore kaToken))
      fun id change same => by
        subst same
        exact fits.1
  have submissions := Db.write_submissions done
  cases s with
  | createSubmission row =>
    have absent : p.shared.submissions.find? p.shared.submissions.fresh = none :=
      find?_fresh _
    rcases records.2 p.shared.submissions.fresh with records | ⟨status, awards⟩
    · exact right.records before records kept scores tokens
    · refine right.recorded before awards kept (fun _ => ?_) ?_ scores tokens
      · exact ⟨_, find?_key _ ((mem_insert submissions).mpr (Or.inr rfl)), status⟩
      · rintro ⟨stored, found, -⟩
        rw [absent] at found
        cases found
  | updateSubmission id dto =>
    obtain ⟨row, rfl, status, awards⟩ := records.2 id
    refine right.recorded before awards kept (fun changes => ?_) ?_ scores tokens
    · obtain ⟨stored, found⟩ := Table.find?_of_update submissions
      exact ⟨_, find?_update_self submissions found, status changes⟩
    · rintro ⟨stored, found, reviewed⟩
      exact reviewed (fits stored found)
  | award id kaScore kaToken => exact records.elim
  | addToken id change => exact right.records before (records _) kept scores tokens
  | createClaim row => exact right.records before (records _) kept scores tokens
  | setClaimStatus id status => exact right.records before (records _) kept scores tokens

theorem kaStep_ok {s : Statement} {next : Result Id → KaProg Reply} {shared : Db}
    (own : p.own i = .step (.write s) next) (done : p.shared.write s = .ok shared) :
    kaStep p (.thread i ()) = p.put i shared (next (.ok (s.target p.shared))) := by
  rw [kaStep, Prog.moveStep_thread, own]
  simp only [Prog.advance, exec, done]

theorem kaStep_error {s : Statement} {next : Result Id → KaProg Reply} {e : Failure}
    (own : p.own i = .step (.write s) next) (failed : p.shared.write s = .error e) :
    kaStep p (.thread i ()) = p.put i p.shared (next (.error e)) := by
  rw [kaStep, Prog.moveStep_thread, own]
  simp only [Prog.advance, exec, failed]

theorem kaStep_read {next : Db → KaProg Reply} (own : p.own i = .step .read next) :
    kaStep p (.thread i ()) = p.put i p.shared (next p.shared) := by
  rw [kaStep, Prog.moveStep_thread, own]
  rfl

theorem kaStep_ret {r : Result Reply} (own : p.own i = .ret r) :
    kaStep p (.thread i ()) = p := by
  rw [kaStep, Prog.moveStep_thread, own, Prog.advance, ← own, Threads.put_self]

theorem Right.step (right : Right calls p db) (fits : Fits calls p (.thread i ())) :
    Right calls (kaStep p (.thread i ())) db := by
  cases own : p.own i with
  | ret r =>
    rw [kaStep_ret own]
    exact right
  | step op next =>
    have stage := right.stage i
    rw [own] at stage
    cases stage with
    | records records =>
      have before : Records (calls i) (p.own i) := own ▸ records
      cases op with
      | read =>
        rw [kaStep_read own]
        exact right.records before (records _) (fun _ h => h) (fun _ => rfl) right.tokens
      | write s =>
        rw [Fits, own] at fits
        cases done : p.shared.write s with
        | ok shared =>
          rw [kaStep_ok own done]
          exact right.write_records own records fits done
        | error e =>
          rw [kaStep_error own done]
          refine right.records before ?_ (fun _ h => h) (fun _ => rfl) right.tokens
          cases s with
          | createSubmission row => exact records.1 e
          | updateSubmission id dto => exact records.1 e
          | award id kaScore kaToken => exact records.elim
          | addToken id change => exact records _
          | createClaim row => exact records _
          | setClaimStatus id status => exact records _
    | award row kaScore kaToken change nonneg =>
      rw [Fits, own] at fits
      have credit : Credits (calls i) (p.own i) row :=
        ⟨change, Or.inr ⟨kaScore, kaToken, own⟩⟩
      have pending : ∀ row', p.own i ≠ .ret (.ok (.activity row')) := by
        intro row' answered
        rw [own] at answered
        cases answered
      cases done : p.shared.write (.award row.studentId kaScore kaToken) with
      | ok shared =>
        rw [kaStep_ok own done]
        have kept : ∀ id, Reviewed p.shared id → Reviewed shared id := fun id reviewed =>
          reviewed.write done nofun
        obtain ⟨scoreAwarded, change⟩ := Option.ne_none_iff_exists'.mp change
        refine right.advance (.over _) kept (fun row' credit' => ?_)
          (fun k => (right.serial k).award done change pending (fits _ change)) ?_
        · have answered : row' = row := by
            rcases credit'.2 with same | ⟨_, _, same⟩
            · simpa using same.symm
            · cases same
          subst answered
          exact ⟨kept _ (right.reviewed i row' credit), fun j other differ credit' same =>
            differ (right.once j i other row' credit' credit same)⟩
        · refine tokens_write right.tokens done (fun id kaScore kaToken same => ?_) nofun
          cases same
          exact nonneg
      | error e =>
        rw [kaStep_error own done]
        refine right.advance (.over _) (fun _ h => h) (fun row' credit' => ?_)
          (fun k => (right.serial k).quiet rfl (fun row' answered => absurd answered
            (pending row')) nofun) right.tokens
        rcases credit'.2 with same | ⟨_, _, same⟩ <;> cases same

omit [DecidableEq ι] in
theorem Right.accounted {refunds : List Id} (right : Right calls p db) (nodup : refunds.Nodup) :
    Accounted calls p db refunds where
  once i j row awarded row' awarded' same := by
    obtain ⟨change, answered⟩ := mem_awardOf_iff.mp awarded
    obtain ⟨change', answered'⟩ := mem_awardOf_iff.mp awarded'
    exact right.once i j row row' ⟨change, Or.inl answered⟩ ⟨change', Or.inl answered'⟩ same
  serial := right.serial
  refunds := nodup
  tokens := right.tokens

omit [DecidableEq ι] in
theorem right_start (tokens : ∀ x ∈ db.students.rows, 0 ≤ x.kaToken) :
    Right calls (start db calls) db where
  stage i := .records (records_program (calls i))
  reviewed i row credit := absurd credit (records_program (calls i)).not_credits
  once i _ _ _ credit := absurd credit (records_program (calls i)).not_credits
  serial k := by
    refine ⟨[], List.nodup_nil, fun i => ?_, rfl⟩
    simp only [List.not_mem_nil, mem_awardOf_iff, false_iff, not_exists, not_and]
    rintro row ⟨change, answered⟩
    exact absurd ⟨change, Or.inl answered⟩ (records_program (calls i)).not_credits
  tokens

/-! ### The refunds -/

/-- Once it has given tokens back, the call sets the claim to rejected. -/
def Gives (id : Id) : (op : Op) → op.Answer → KaProg Reply → Prop
  | .write (.addToken _ _), .ok _, rest => Rejecting id rest
  | _, _, _ => True

theorem gives_found {α : Type} {found : Option α} {e : Failure} {id : Id} {f : α → KaProg Reply}
    (rest : ∀ a, (f a).Guarantees (fun _ _ => True) (Gives id)) :
    (Prog.ret (orFail found e) >>= f).Guarantees (fun _ _ => True) (Gives id) := by
  cases found with
  | none => exact trivial
  | some a => exact rest a

theorem gives_program (tenantId id : Id) (status : KaRewardStatus) :
    (Call.fulfillReward tenantId id status).program.Guarantees (fun _ _ => True) (Gives id) := by
  simp only [Call.program, fulfillReward, snapshot, perform, Prog.bind_assoc, Prog.step_bind,
    Prog.ret_ok_bind]
  refine fun db _ => ⟨trivial, gives_found fun claim => ?_⟩
  split
  · rename_i gives
    rintro (e | _) -
    · exact ⟨trivial, trivial⟩
    · refine ⟨⟨rfl, gives.1⟩, ?_⟩
      rintro (e | _) - <;> exact ⟨trivial, trivial⟩
  · rintro (e | _) - <;> exact ⟨trivial, trivial⟩

variable (calls) in
/-- Every fulfilment in progress sets the claim to rejected once it has given tokens back. -/
def Giving (p : Threads Db (KaProg Reply) ι) : Prop :=
  ∀ i tenantId id status, calls i = .fulfillReward tenantId id status →
    (p.own i).Guarantees (fun _ _ => True) (Gives id)

theorem Giving.step (giving : Giving calls p) : Giving calls (kaStep p (.thread i ())) := by
  intro j tenantId id status call
  have before := giving j tenantId id status call
  rw [kaStep, Prog.moveStep_thread]
  by_cases own : j = i
  · subst own
    rw [Threads.own_put_self]
    exact before.advance fun _ => trivial
  · rw [Threads.own_put_of_ne own]
    exact before

/-- The claim is rejected, or a call is about to reject it. -/
def Closed (p : Threads Db (KaProg Reply) ι) (id : Id) : Prop :=
  ∃ claim ∈ p.shared.claims.find? id, claim.status = .rejected ∨ ∃ j, Rejecting id (p.own j)

/-- A claim that is stored stays stored; only a change of its own status changes its status. -/
theorem find_claim_write {db db' : Db} {s : Statement} {id : Id} {claim : KaStudentReward}
    (found : db.claims.find? id = some claim) (done : db.write s = .ok db') :
    ∃ claim', db'.claims.find? id = some claim' ∧
      (claim'.status = claim.status ∨ s = .setClaimStatus id claim'.status) := by
  have claims := Db.write_claims done
  cases s with
  | createClaim row => exact ⟨claim, Table.find?_insert_of_found claims found, Or.inl rfl⟩
  | setClaimStatus id' status =>
    by_cases own : id = id'
    · subst own
      exact ⟨_, find?_update_self claims found, Or.inr rfl⟩
    · exact ⟨claim, (Table.find?_update_of_ne claims own).trans found, Or.inl rfl⟩
  | _ => exact ⟨claim, claims ▸ found, Or.inl rfl⟩

theorem Rejecting.eq_step {id : Id} {prog : KaProg Reply} (rejecting : Rejecting id prog) :
    ∃ next, prog = .step (.write (.setClaimStatus id .rejected)) next := by
  unfold Rejecting at rejecting
  split at rejecting
  · rename_i id' status next
    obtain ⟨rfl, rfl⟩ := rejecting
    exact ⟨next, rfl⟩
  · exact rejecting.elim

theorem Closed.step {id : Id} (closed : Closed p id) (fits : Fits calls p (.thread i ())) :
    Closed (kaStep p (.thread i ())) id := by
  obtain ⟨claim, found, status⟩ := closed
  cases own : p.own i with
  | ret r =>
    rw [kaStep_ret own]
    exact ⟨claim, found, status⟩
  | step op next =>
    -- another call that is about to reject the claim still is
    have others {shared : Db} {prog : KaProg Reply} {claim' : KaStudentReward}
        (found' : shared.claims.find? id = some claim')
        (status' : claim'.status = .rejected ∨ ∃ j, j ≠ i ∧ Rejecting id (p.own j)) :
          Closed (p.put i shared prog) id := by
      rcases status' with rejected | ⟨j, differ, rejecting⟩
      · exact ⟨claim', found', Or.inl rejected⟩
      · exact ⟨claim', found', Or.inr ⟨j, (Threads.own_put_of_ne differ).symm ▸ rejecting⟩⟩
    -- this call is about to reject it, or another one is
    have turn : (claim.status = .rejected ∨ ∃ j, j ≠ i ∧ Rejecting id (p.own j)) ∨
        op = .write (.setClaimStatus id .rejected) := by
      rcases status with rejected | ⟨j, rejecting⟩
      · exact Or.inl (Or.inl rejected)
      · by_cases differ : j = i
        · subst differ
          obtain ⟨next', same⟩ := rejecting.eq_step
          rw [own] at same
          cases same
          exact Or.inr rfl
        · exact Or.inl (Or.inr ⟨j, differ, rejecting⟩)
    cases op with
    | read =>
      rw [kaStep_read own]
      exact others found (turn.resolve_right nofun)
    | write s =>
      cases done : p.shared.write s with
      | ok shared =>
        rw [kaStep_ok own done]
        rw [Fits, own] at fits
        obtain ⟨claim', found', changed⟩ := find_claim_write found done
        refine others found' ?_
        rcases turn with (rejected | other) | same
        · rcases changed with kept | set
          · exact Or.inl (kept.trans rejected)
          · subst set
            exact Or.inl (fits claim found rejected)
        · exact Or.inr other
        · cases same
          rw [find?_update_self (Db.write_claims done) found] at found'
          cases found'
          exact Or.inl rfl
      | error e =>
        rw [kaStep_error own done]
        rcases turn with turn | same
        · exact others found turn
        · cases same
          obtain ⟨shared, stored⟩ := Db.write_setClaimStatus .rejected found
          rw [stored] at done
          cases done

theorem Closed.of_refunded {id : Id} (gives : ∀ tenantId id status,
    calls i = .fulfillReward tenantId id status → (p.own i).Guarantees (fun _ _ => True) (Gives id))
    (fits : Fits calls p (.thread i ())) (out : refunded calls p (.thread i ()) = some id) :
    ¬ Closed p id ∧ Closed (kaStep p (.thread i ())) id := by
  dsimp only [refunded] at out
  split at out
  · rename_i tenantId id' status student change next call own
    split at out
    · rename_i db' done
      cases out
      rw [Fits, own] at fits
      simp only [Statement.Fits, call] at fits
      obtain ⟨-, ⟨claim, found, open'⟩, noOther⟩ := fits
      refine ⟨?_, ?_⟩
      · rintro ⟨claim', found', rejected | ⟨j, rejecting⟩⟩
        · obtain rfl := Option.mem_unique found found'
          exact open' rejected
        · exact noOther j rejecting
      · obtain ⟨claim', found', -⟩ := find_claim_write found done
        have rest := gives tenantId id status call
        rw [own] at rest
        rw [kaStep_ok own done]
        refine ⟨claim', found', Or.inr ⟨i, ?_⟩⟩
        rw [Threads.own_put_self]
        exact (rest (.ok student) trivial).1
    · cases out
  · cases out

/-- **Accounts under interleaving.** While what each call checked still holds when it writes, the
accounts are right in every state the calls reach. -/
theorem accounted_of_fits {moves : List (Move ι Unit Empty)}
    (tokens : ∀ x ∈ db.students.rows, 0 ≤ x.kaToken)
    (fits : Along kaStep (Fits calls) (start db calls) moves) :
    Accounted calls (run kaStep (start db calls) moves) db
      (trace kaStep (fun p move => (refunded calls p move).toList) (start db calls) moves) := by
  have right : Right calls (run kaStep (start db calls) moves) db :=
    run_invariant (I := fun p => Right calls p db)
      (fun p move fits right => match move with
        | .thread _ _ => right.step fits
        | .world e => e.elim) (right_start tokens) fits
  refine right.accounted (trace_once_along (I := Giving calls) (M := Closed) ?_ ?_ ?_ ?_ fits).1
  · rintro p (⟨i, ⟨⟩⟩ | e) - giving
    · exact giving.step
    · exact e.elim
  · rintro p (⟨i, ⟨⟩⟩ | e) id fits - closed
    · exact closed.step fits
    · exact e.elim
  · rintro p (⟨i, ⟨⟩⟩ | e) id fits giving out
    · exact Closed.of_refunded (giving i) fits out
    · exact e.elim
  · rintro i tenantId id status call
    change (calls i).program.Guarantees _ _
    rw [call]
    exact gives_program tenantId id status

end

/-! ### Runs -/

instance (id : Id) (prog : KaProg Reply) : Decidable (Rejecting id prog) := by
  unfold Rejecting
  split <;> infer_instance

section

variable {ι : Type} [Fintype ι] (calls : ι → Call) (p : Threads Db (KaProg Reply) ι)

instance (i : ι) (s : Statement) : Decidable (s.Fits calls p i) := by
  unfold Statement.Fits
  split
  · infer_instance
  · infer_instance
  · have : Decidable (match calls i with
        | .fulfillReward _ claimId _ =>
          (∃ claim ∈ p.shared.claims.find? claimId, claim.status ≠ .rejected) ∧
            ∀ j, ¬ Rejecting claimId (p.own j)
        | _ => True) := by
      split <;> infer_instance
    infer_instance
  · infer_instance
  · infer_instance

instance (move : Move ι Unit Empty) : Decidable (Fits calls p move) :=
  match move with
  | .thread i _ => by
    unfold Fits
    dsimp only
    split <;> infer_instance
  | .world e => e.elim

end

namespace Desk

/-- A student with 100 points and 95 tokens who has handed in an activity and claimed a reward. -/
def visited : Db where
  students := .of [{ id := 1, tenantId := 1, userId := 1, kaScore := 100, kaToken := 95 }]
  activities := .of [{ id := 1, tenantId := 1 }]
  submissions := .of [{ id := 1, tenantId := 1, studentId := 1, activityId := 1 }]
  rewards := .of [{ id := 1, tenantId := 1, minToken := 95 }]
  claims := .of [{ id := 1, tenantId := 1, studentId := 1, rewardId := 1, tokenCost := 95 }]
  foreignKeys := by constructor <;> decide

def review : Call := .reviewSubmission 1 1 { status := .approved, scoreAwarded := some 100 }

def reject : Call := .fulfillReward 1 1 .rejected

/-- The same call twice, in step. -/
def twice (call : Call) : Fin 2 → Call := fun _ => call

def inStep : List (Move (Fin 2) Unit Empty) := moves [0, 1, 0, 1, 0, 1, 0, 1, 0, 1]

end Desk

open Desk in
/-- A review, an award that starts while a claim is made, and a rejection. -/
theorem accounted_day : Accounted ![review, award 1, claim, reject]
      (run kaStep (start visited ![review, award 1, claim, reject])
        (moves [0, 0, 0, 1, 2, 3, 2, 1, 2, 2, 3, 1, 1, 1, 3])) visited
      (trace kaStep (fun p move => (refunded ![review, award 1, claim, reject] p move).toList)
        (start visited ![review, award 1, claim, reject])
        (moves [0, 0, 0, 1, 2, 3, 2, 1, 2, 2, 3, 1, 1, 1, 3])) :=
  accounted_of_fits (by decide +kernel) (by decide +kernel)

/-- In step, two reviews award one submission twice, one of two awards is lost, two claims are paid
by one balance, and two rejections refund one claim twice. -/
theorem not_accounted :
    (∀ x ∈ Desk.visited.students.rows, 0 ≤ x.kaToken) ∧
      ∀ call ∈ [Desk.review, Desk.award 1, Desk.claim, Desk.reject], ¬ Accounted (Desk.twice call)
          (run kaStep (start Desk.visited (Desk.twice call)) Desk.inStep) Desk.visited
          (trace kaStep (fun p move => (refunded (Desk.twice call) p move).toList)
            (start Desk.visited (Desk.twice call)) Desk.inStep) := by
  refine ⟨by decide +kernel, ?_⟩
  simp only [List.forall_mem_cons, List.not_mem_nil, false_implies, implies_true, and_true]
  refine ⟨fun accounted => ?_, fun accounted => ?_, fun accounted => ?_, fun accounted => ?_⟩
  · have both : ∃ row ∈ awardOf (Desk.twice Desk.review)
          (run kaStep (start Desk.visited (Desk.twice Desk.review)) Desk.inStep) 0,
        ∃ row' ∈ awardOf (Desk.twice Desk.review)
          (run kaStep (start Desk.visited (Desk.twice Desk.review)) Desk.inStep) 1,
        row.id = row'.id := by decide +kernel
    obtain ⟨row, awarded, row', awarded', same⟩ := both
    exact absurd (accounted.once 0 1 row awarded row' awarded' same) (by decide)
  · have all : ∀ i, ∃ row ∈ awardOf (Desk.twice (Desk.award 1))
        (run kaStep (start Desk.visited (Desk.twice (Desk.award 1))) Desk.inStep) i,
        row.studentId = 1 := by decide +kernel
    have before : scoreOf 1 Desk.visited = 100 := by decide +kernel
    have after : scoreOf 1 (run kaStep (start Desk.visited (Desk.twice (Desk.award 1)))
        Desk.inStep).shared = 101 := by decide +kernel
    obtain ⟨order, nodup, mem, scored⟩ := accounted.serial 1
    have perm : order.Perm [0, 1] := (List.perm_ext_iff_of_nodup nodup (by decide)).mpr
      fun i => iff_of_true ((mem i).mpr (all i)) (by decide +revert)
    have changes : order.filterMap (fun i => (Desk.twice (Desk.award 1) i).change) = [1, 1] :=
      List.perm_replicate (n := 2).mp (perm.filterMap _)
    rw [before, after, changes] at scored
    obtain ⟨first, isFirst, second, isSecond, last⟩ := scored
    have toFirst : newScore 100 1 = .finite 101 := by decide +kernel
    have toSecond : newScore 101 1 = .finite 102 := by decide +kernel
    obtain rfl := Number.finite.inj (toFirst.symm.trans isFirst)
    obtain rfl := Number.finite.inj (toSecond.symm.trans isSecond)
    exact absurd (show (101 : ℚ) = 102 from last) (by norm_num)
  · exact absurd accounted.tokens (by decide +kernel)
  · exact absurd accounted.refunds (by decide +kernel)

end Rokad.Ka
