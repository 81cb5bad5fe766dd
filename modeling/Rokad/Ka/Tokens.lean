import Rokad.Ka.Service

/-!
# What becomes of the tokens

A student may spend the floor of 0.95 of the best score so far. An award sets the balance from the
score alone, so what was claimed before it can be claimed again (`not_onceSpent`); and a claim that
leaves the rejected state keeps what its rejection gave back.

In every run in which no award finds a standing claim of the student, no rejected claim is taken up
again and no balance is rounded, the tokens are spent once (`onceSpent_of_settled`). The invariant is
that the balance and the standing claims together stay within the share (`Holds`); `owed` is what a
call in progress has taken from the balance and not yet put on a claim.
-/

namespace Rokad.Ka

open Rokad.Base Rokad.Common

/-! ### The law -/

/-- What a claim takes of the tokens of student `k`. -/
def KaStudentReward.standing (k : Id) (c : KaStudentReward) : ℚ :=
  if c.studentId = k ∧ c.status ≠ .rejected then c.tokenCost else 0

/-- The cost of the claims of the student that are not rejected. -/
def spent (k : Id) (db : Db) : ℚ := (db.claims.rows.map (·.standing k)).sum

def scoreOf (k : Id) (db : Db) : ℚ := (db.students.find? k).elim 0 (·.kaScore)

/-- A database and the largest score the student has had. -/
structure Watched where
  db : Db
  largest : ℚ

def watch (k : Id) (w : Watched) (call : Call) : Watched :=
  let db := serve w.db call
  ⟨db, max w.largest (scoreOf k db)⟩

/-- The balance is not negative, and what stands is within the share of the best score. -/
def OnceSpent (k : Id) (w : Watched) : Prop :=
  (∃ s, w.db.students.find? k = some s ∧ 0 ≤ s.kaToken) ∧
    ∃ bound, share (.finite w.largest) = .finite bound ∧ spent k w.db ≤ bound

/-- A student without score, tokens and claims, in a school whose rewards have a price. -/
def Opened (k : Id) (db : Db) : Prop :=
  (∃ s, db.students.find? k = some s ∧ s.kaScore = 0 ∧ s.kaToken = 0) ∧
    (∀ c ∈ db.claims.rows, c.studentId ≠ k) ∧ ∀ r ∈ db.rewards.rows, 0 ≤ r.minToken

/-- An award to the student finds nothing standing, a rejected claim stays rejected, and the balance
needs no rounding when a cost is taken from it or given back. -/
def Settled (k : Id) (w : Watched) : Call → Prop
  | .submitActivity .. => True
  | .reviewSubmission tenantId id dto =>
    ∀ found ∈ w.db.submissionOf tenantId id, found.2.id = k → dto.awards ≠ none → spent k w.db = 0
  | .directAwardActivity _ dto => dto.studentId = k → spent k w.db = 0
  | .claimReward tenantId userId dto =>
    ∀ student ∈ w.db.studentOfUser userId, ∀ reward ∈ w.db.rewardOf tenantId dto.rewardId,
      student.id = k → reward.tokenCost dto.customTokens ≤ student.kaToken →
        Exact (student.kaToken - reward.tokenCost dto.customTokens)
  | .fulfillReward tenantId id status =>
    ∀ claim ∈ w.db.claimOf tenantId id, claim.studentId = k →
      (claim.status = .rejected → status = .rejected) ∧
      (claim.status ≠ .rejected → status = .rejected →
        ∀ student ∈ w.db.students.find? k, Exact (student.kaToken + claim.tokenCost))

/-! ### The share -/

theorem rate_finite : ∃ r, rate = .finite r ∧ 0 ≤ r :=
  ⟨4278419646001971 / 2 ^ 52, by decide +kernel, by positivity⟩

theorem share_zero : share (.finite 0) = .finite 0 := by decide +kernel

theorem share_finite {score t : ℚ} (shared : share (.finite score) = .finite t) :
    ∃ r p, rate = .finite r ∧ 0 ≤ r ∧ toDouble (score * r) = .finite p ∧ t = ⌊p⌋ := by
  obtain ⟨r, isRate, nonneg⟩ := rate_finite
  simp only [share, isRate, Number.mul] at shared
  cases product : toDouble (score * r) with
  | finite p =>
    rw [product] at shared
    exact ⟨r, p, isRate, nonneg, product, (Number.finite.inj shared).symm⟩
  | infinity negative =>
    rw [product] at shared
    cases shared
  | nan =>
    rw [product] at shared
    cases shared

theorem share_mono {a b x y : ℚ} (nonneg : 0 ≤ a) (le : a ≤ b)
    (ofA : share (.finite a) = .finite x) (ofB : share (.finite b) = .finite y) : x ≤ y := by
  obtain ⟨r, p, isRate, pos, product, rfl⟩ := share_finite ofA
  obtain ⟨r', q, isRate', -, product', rfl⟩ := share_finite ofB
  obtain rfl : r = r' := Number.finite.inj (isRate.symm.trans isRate')
  have ordered := toDouble_mono (mul_nonneg nonneg pos) (mul_le_mul_of_nonneg_right le pos)
    product product'
  exact Int.cast_le.mpr (Int.floor_mono ordered)

theorem share_nonneg {score t : ℚ} (nonneg : 0 ≤ score)
    (shared : share (.finite score) = .finite t) : 0 ≤ t :=
  share_mono le_rfl nonneg share_zero shared

/-- What an award writes: a score that is not negative, and its share. -/
theorem awarded_spec {kaScore scoreAwarded score token : ℚ}
    (isScore : newScore kaScore scoreAwarded = .finite score)
    (isToken : (Number.finite 0).max (share (newScore kaScore scoreAwarded)) = .finite token) :
    0 ≤ score ∧ share (.finite score) = .finite token := by
  have nonneg : 0 ≤ score := Number.nonneg_of_max isScore
  rw [isScore] at isToken
  refine ⟨nonneg, ?_⟩
  have finite : ∃ t, share (.finite score) = .finite t := by
    obtain ⟨r, isRate, pos⟩ := rate_finite
    simp only [share, isRate, Number.mul] at isToken ⊢
    unfold toDouble at isToken ⊢
    dsimp only at isToken ⊢
    split
    · rename_i large
      have up : ¬ score * r < 0 := not_lt.mpr (mul_nonneg nonneg pos)
      rw [if_pos large] at isToken
      simp [Number.floor, Number.max, Number.lt, up] at isToken
    · exact ⟨_, rfl⟩
  obtain ⟨t, shared⟩ := finite
  have positive := share_nonneg nonneg shared
  rw [shared] at isToken ⊢
  unfold Number.max at isToken
  simp only [reduceCtorEq, or_self, if_false] at isToken
  split at isToken
  · exact isToken
  · rename_i notAbove
    have zero : t = 0 := by
      simp only [Number.lt, decide_eq_true_eq, not_lt] at notAbove
      exact le_antisymm notAbove positive
    rw [zero]
    exact isToken

/-! ### The invariant -/

/-- The balance, the standing claims and what is `owed` to a claim stay within the share. -/
structure Holds (k : Id) (largest owed : ℚ) (db : Db) : Prop where
  best : 0 ≤ largest
  student : ∃ s, db.students.find? k = some s ∧ 0 ≤ s.kaToken ∧ s.kaScore ≤ largest ∧
    ∃ bound, share (.finite largest) = .finite bound ∧ s.kaToken + spent k db + owed ≤ bound
  costs : ∀ c ∈ db.claims.rows, c.studentId = k → 0 ≤ c.tokenCost
  priced : ∀ r ∈ db.rewards.rows, 0 ≤ r.minToken

section

variable {k : Id} {largest owed : ℚ} {db db' : Db}

section

variable (holds : Holds k largest owed db)
include holds

theorem Holds.congr (students : db'.students = db.students)
    (claims : db'.claims = db.claims) (rewards : db'.rewards = db.rewards) :
    Holds k largest owed db' := by
  refine ⟨holds.best, ?_, claims ▸ holds.costs, rewards ▸ holds.priced⟩
  unfold spent
  rw [students, claims]
  exact holds.student

theorem Holds.createSubmission {row : KaStudentActivity}
    (done : db.write (.createSubmission row) = .ok db') : Holds k largest owed db' :=
  holds.congr (Db.write_students done) (Db.write_claims done) (Db.write_rewards done)

theorem Holds.updateSubmission {id : Id} {data : Review}
    (done : db.write (.updateSubmission id data) = .ok db') : Holds k largest owed db' :=
  holds.congr (Db.write_students done) (Db.write_claims done) (Db.write_rewards done)

/-- As long as no award comes, the best score stays what it was. -/
theorem Holds.watched :
    Holds k (max largest (scoreOf k db)) owed db := by
  obtain ⟨s, found, -, below, -⟩ := holds.student
  have score : scoreOf k db = s.kaScore := by simp [scoreOf, found]
  rwa [score, max_eq_left below]

end

theorem Holds.award {i : Id} {kaScore scoreAwarded score token : ℚ}
    (holds : Holds k largest 0 db) (clear : i = k → spent k db = 0)
    (isScore : newScore kaScore scoreAwarded = .finite score)
    (isToken : (Number.finite 0).max (share (newScore kaScore scoreAwarded)) = .finite token)
    (done : db.write (.award i score token) = .ok db') :
    Holds k (max largest (scoreOf k db')) 0 db' := by
  have students := Db.write_students done
  have claims := Db.write_claims done
  have rewards := Db.write_rewards done
  dsimp only at students claims
  have same : spent k db' = spent k db := by rw [spent, claims, spent]
  obtain ⟨s, found, tokens, below, bound, shared, within⟩ := holds.student
  by_cases own : i = k
  · subst own
    obtain ⟨nonneg, isShare⟩ := awarded_spec isScore isToken
    have found' := find?_update_self students found
    have isBest : scoreOf i db' = score := by simp [scoreOf, found', StudentProfile.award]
    rw [isBest]
    refine ⟨holds.best.trans (le_max_left _ _), ?_, claims ▸ holds.costs, rewards ▸ holds.priced⟩
    refine ⟨_, found', share_nonneg nonneg isShare, le_max_right _ _, ?_⟩
    rw [same, clear rfl]
    rcases le_total largest score with more | less
    · refine ⟨token, by rw [max_eq_right more]; exact isShare, ?_⟩
      simp [StudentProfile.award]
    · refine ⟨bound, by rw [max_eq_left less]; exact shared, ?_⟩
      simpa [StudentProfile.award] using share_mono nonneg less isShare shared
  · refine Holds.watched ⟨holds.best, ⟨s, ?_, tokens, below, bound, shared, by rwa [same]⟩,
      claims ▸ holds.costs, rewards ▸ holds.priced⟩
    rw [Table.find?_update_of_ne students (Ne.symm own)]
    exact found

/-- An exact change of the balance is owed to a claim, or settles one. -/
theorem Holds.addToken {i : Id} {change : ℚ} (holds : Holds k largest owed db)
    (fits : ∀ s, i = k → db.students.find? k = some s →
      Exact (s.kaToken + change) ∧ 0 ≤ s.kaToken + change)
    (done : db.write (.addToken i change) = .ok db') :
    Holds k largest (if i = k then owed - change else owed) db' := by
  obtain ⟨student, kaToken, present, isToken, updated⟩ := Db.write_students done
  have claims := Db.write_claims done
  have rewards := Db.write_rewards done
  dsimp only at claims
  have same : spent k db' = spent k db := by rw [spent, claims, spent]
  obtain ⟨s, found, tokens, below, bound, shared, within⟩ := holds.student
  refine ⟨holds.best, ?_, claims ▸ holds.costs, rewards ▸ holds.priced⟩
  by_cases own : i = k
  · subst own
    obtain ⟨exact_, nonneg⟩ := fits s rfl found
    obtain rfl : student = s := Option.some_inj.mp (present.symm.trans found)
    obtain rfl : student.kaToken + change = kaToken :=
      Number.finite.inj (exact_.symm.trans isToken)
    refine ⟨_, find?_update_self updated found, nonneg, below, bound, shared, ?_⟩
    rw [if_pos rfl, same]
    simp only [StudentProfile.setToken]
    linarith
  · refine ⟨s, ?_, tokens, below, bound, shared, by rwa [if_neg own, same]⟩
    rw [Table.find?_update_of_ne updated (Ne.symm own)]
    exact found

theorem Holds.createClaim {row : KaStudentReward} (pending : row.status = .pending)
    (cost : row.studentId = k → 0 ≤ row.tokenCost)
    (holds : Holds k largest (if row.studentId = k then row.tokenCost else 0) db)
    (done : db.write (.createClaim row) = .ok db') : Holds k largest 0 db' := by
  have students := Db.write_students done
  have inserted := Db.write_claims done
  have rewards := Db.write_rewards done
  dsimp only at students inserted
  have more : spent k db' = spent k db + if row.studentId = k then row.tokenCost else 0 := by
    rw [spent, Table.sum_insert inserted, spent]
    simp [KaStudentReward.standing, pending]
  obtain ⟨s, found, tokens, below, bound, shared, within⟩ := holds.student
  refine ⟨holds.best, ⟨s, students ▸ found, tokens, below, bound, shared, ?_⟩, ?_,
    rewards ▸ holds.priced⟩
  · rw [more]
    linarith
  · intro c mem
    rcases (mem_insert inserted).mp mem with mem | rfl
    · exact holds.costs c mem
    · exact cost

theorem Holds.setClaimStatus {id : Id} {status : KaRewardStatus} {claim : KaStudentReward}
    (found : db.claims.find? id = some claim)
    (holds : Holds k largest ((claim.setStatus status).standing k - claim.standing k) db)
    (done : db.write (.setClaimStatus id status) = .ok db') : Holds k largest 0 db' := by
  have students := Db.write_students done
  have updated := Db.write_claims done
  have rewards := Db.write_rewards done
  dsimp only at students updated
  have moved : spent k db' =
      spent k db - claim.standing k + (claim.setStatus status).standing k := by
    rw [spent, Table.sum_update updated found, spent]
  obtain ⟨s, present, tokens, below, bound, shared, within⟩ := holds.student
  refine ⟨holds.best, ⟨s, students ▸ present, tokens, below, bound, shared, ?_⟩, ?_,
    rewards ▸ holds.priced⟩
  · rw [moved]
    linarith
  · intro c mem own
    rcases (mem_update updated).mp mem with ⟨mem, -⟩ | ⟨row, isRow, rfl⟩
    · exact holds.costs c mem own
    · exact holds.costs row (mem_of_find? isRow) own

end

/-! ### Calls -/

section

variable {k : Id} {largest : ℚ} {db : Db}

theorem run_then {α β : Type} (p : KaProg α) (result : β) (db : Db) :
    ((p >>= fun _ => (pure result : KaProg β)).run exec db).1 = (p.run exec db).1 := by
  rw [Prog.run_bind]
  cases ran : p.run exec db with
  | mk next answer => cases answer <;> rfl

section

variable (holds : Holds k largest 0 db)
include holds

theorem Holds.awardScore {student : StudentProfile} {scoreAwarded : ℚ}
    (clear : student.id = k → spent k db = 0) :
    let next := ((Ka.awardScore student scoreAwarded).run exec db).1
    Holds k (max largest (scoreOf k next)) 0 next := by
  intro next
  have ran : next = ((Ka.awardScore student scoreAwarded).run exec db).1 := rfl
  simp only [Ka.awardScore, run_ret_bind] at ran
  cases isScore : column (newScore student.kaScore scoreAwarded) with
  | error e =>
    rw [isScore] at ran
    exact ran ▸ holds.watched
  | ok score =>
    rw [isScore] at ran
    dsimp only at ran
    cases isToken : column ((Number.finite 0).max
        (share (newScore student.kaScore scoreAwarded))) with
    | error e =>
      rw [isToken] at ran
      exact ran ▸ holds.watched
    | ok token =>
      rw [isToken] at ran
      simp only [run_perform] at ran
      cases done : db.write (.award student.id score token) with
      | error e =>
        rw [done] at ran
        exact ran ▸ holds.watched
      | ok written =>
        rw [done] at ran
        obtain rfl : next = written := ran
        exact holds.award clear (column_eq_ok.mp isScore) (column_eq_ok.mp isToken) done

theorem Holds.submitActivity {tenantId userId : Id} {dto : SubmitKaActivityDto} :
    Holds k largest 0 (serve db (.submitActivity tenantId userId dto)) := by
  simp only [serve, Ka.submitActivity, run_snapshot, run_ret_bind]
  split
  · split
    · rw [run_perform]
      split
      · rename_i written done
        exact holds.createSubmission done
      · exact holds
    · exact holds
  · exact holds

theorem Holds.reviewSubmission {tenantId id : Id} {dto : Review}
    (settled : Settled k ⟨db, largest⟩ (.reviewSubmission tenantId id dto)) :
    let next := serve db (.reviewSubmission tenantId id dto)
    Holds k (max largest (scoreOf k next)) 0 next := by
  intro next
  have ran : next = serve db (.reviewSubmission tenantId id dto) := rfl
  simp only [serve, Ka.reviewSubmission, run_snapshot, run_ret_bind] at ran
  cases looked : db.submissionOf tenantId id with
  | none =>
    rw [looked] at ran
    exact ran ▸ holds.watched
  | some found =>
    rw [looked] at ran
    simp only [orFail] at ran
    cases waiting : require (found.1.status = .pending)
        (Failure.badRequest "Submission is already reviewed") with
    | error e =>
      rw [waiting] at ran
      exact ran ▸ holds.watched
    | ok _ =>
      rw [waiting] at ran
      simp only [run_perform] at ran
      cases done : db.write (.updateSubmission id dto) with
      | error e =>
        rw [done] at ran
        exact ran ▸ holds.watched
      | ok reviewed =>
        rw [done] at ran
        have kept := holds.updateSubmission done
        have same : spent k reviewed = spent k db := by
          rw [spent, Db.write_claims done, spent]
        cases awards : dto.awards with
        | none =>
          rw [awards] at ran
          exact ran ▸ kept.watched
        | some scoreAwarded =>
          rw [awards] at ran
          simp only [run_then] at ran
          rw [ran]
          refine kept.awardScore fun own => same.trans ?_
          exact settled found looked own (by rw [awards]; exact Option.some_ne_none _)

theorem Holds.directAwardActivity {tenantId : Id} {dto : DirectAwardKaActivityDto}
    (settled : Settled k ⟨db, largest⟩ (.directAwardActivity tenantId dto)) :
    let next := serve db (.directAwardActivity tenantId dto)
    Holds k (max largest (scoreOf k next)) 0 next := by
  intro next
  have ran : next = serve db (.directAwardActivity tenantId dto) := rfl
  simp only [serve, Ka.directAwardActivity, run_snapshot, run_ret_bind] at ran
  cases looked : (db.students.find? dto.studentId).filter (·.tenantId = tenantId) with
  | none =>
    rw [looked] at ran
    exact ran ▸ holds.watched
  | some student =>
    rw [looked] at ran
    simp only [orFail] at ran
    cases activity : db.activityOf tenantId dto.activityId with
    | none =>
      rw [activity] at ran
      exact ran ▸ holds.watched
    | some activity' =>
      rw [activity] at ran
      simp only [run_perform] at ran
      split at ran
      · rename_i recorded done
        have kept := holds.createSubmission done
        have same : spent k recorded = spent k db := by
          rw [spent, Db.write_claims done, spent]
        have isStudent : student.id = dto.studentId :=
          key_of_find? (Option.filter_eq_some_iff.mp looked).1
        simp only [run_then] at ran
        rw [ran]
        exact kept.awardScore fun own => same.trans (settled (isStudent ▸ own))
      · exact ran ▸ holds.watched

end

theorem KaReward.tokenCost_nonneg {reward : KaReward} (priced : 0 ≤ reward.minToken)
    (customTokens : Option ℚ) : 0 ≤ reward.tokenCost customTokens := by
  unfold KaReward.tokenCost
  split
  · exact priced
  · split
    · exact priced.trans (le_max_right _ _)
    · rename_i maxToken isMax
      have positive : 0 < maxToken := by simpa using (Option.filter_eq_some_iff.mp isMax).2
      exact le_min (priced.trans (le_max_right _ _)) positive.le

/-- The claim that is created holds what was taken from the balance. -/
theorem Holds.recordClaim {claim : KaStudentReward} (pending : claim.status = .pending)
    (cost : 0 ≤ claim.tokenCost)
    (holds : Holds k largest (if claim.studentId = k then claim.tokenCost else 0) db) :
    Holds k largest 0 ((perform (.createClaim claim) >>= fun id =>
      (pure { claim with id } : KaProg KaStudentReward)).run exec db).1 := by
  rw [run_perform]
  split
  · rename_i written done
    exact Holds.createClaim pending (fun _ => cost) holds done
  · refine ⟨holds.best, ?_, holds.costs, holds.priced⟩
    obtain ⟨s, found, tokens, below, bound, shared, within⟩ := holds.student
    refine ⟨s, found, tokens, below, bound, shared, le_trans ?_ within⟩
    split <;> simp [cost]

theorem Holds.claimReward {tenantId userId : Id} {dto : ClaimKaRewardDto}
    (holds : Holds k largest 0 db)
    (settled : Settled k ⟨db, largest⟩ (.claimReward tenantId userId dto)) :
    Holds k largest 0 (serve db (.claimReward tenantId userId dto)) := by
  simp only [serve, Ka.claimReward, run_snapshot, run_ret_bind]
  cases asked : db.studentOfUser userId with
  | none => exact holds
  | some student =>
    cases offered : db.rewardOf tenantId dto.rewardId with
    | none => exact holds
    | some reward =>
      have isReward := mem_of_find? (Option.filter_eq_some_iff.mp offered).1
      have nonneg := KaReward.tokenCost_nonneg (holds.priced reward isReward) dto.customTokens
      have found : db.students.find? student.id = some student :=
        db.students.find?_key (List.mem_of_find?_eq_some asked)
      simp only [orFail]
      by_cases enough : student.kaToken < reward.tokenCost dto.customTokens
      · simp only [require, enough, not_true_eq_false, if_false]
        exact holds
      · simp only [require, enough, not_false_eq_true, if_true]
        by_cases costs : 0 < reward.tokenCost dto.customTokens
        · rw [if_pos costs, run_perform]
          split
          · rename_i taken done
            refine Holds.recordClaim rfl nonneg ?_
            have moved := holds.addToken (fun s own present => ?_) done
            · simpa using moved
            · subst own
              obtain rfl : s = student := Option.some_inj.mp (present.symm.trans found)
              have exact_ := settled s asked reward offered rfl (not_lt.mp enough)
              rw [← sub_eq_add_neg]
              exact ⟨exact_, sub_nonneg.mpr (not_lt.mp enough)⟩
          · exact holds
        · rw [if_neg costs]
          refine Holds.recordClaim rfl nonneg ?_
          have free : reward.tokenCost dto.customTokens = 0 :=
            le_antisymm (not_lt.mp costs) nonneg
          simpa [free] using holds

/-- A claim takes its new status: the balance has been given its cost back if it is rejected now. -/
theorem Holds.settleClaim {id : Id} {status : KaRewardStatus} {claim : KaStudentReward}
    (found : db.claims.find? id = some claim)
    (holds : Holds k largest ((claim.setStatus status).standing k - claim.standing k) db) :
    Holds k largest 0 ((perform (.setClaimStatus id status) >>= fun _ =>
      (pure (claim.setStatus status) : KaProg KaStudentReward)).run exec db).1 := by
  obtain ⟨db', done⟩ := Db.write_setClaimStatus status found
  rw [run_perform, done]
  exact holds.setClaimStatus found done

theorem Holds.fulfillReward {tenantId id : Id} {status : KaRewardStatus}
    (holds : Holds k largest 0 db)
    (settled : Settled k ⟨db, largest⟩ (.fulfillReward tenantId id status)) :
    Holds k largest 0 (serve db (.fulfillReward tenantId id status)) := by
  simp only [serve, Ka.fulfillReward, run_snapshot, run_ret_bind]
  cases asked : db.claimOf tenantId id with
  | none => exact holds
  | some claim =>
    have found : db.claims.find? id = some claim := (Option.filter_eq_some_iff.mp asked).1
    have isClaim := mem_of_find? found
    simp only [orFail]
    by_cases refund : status = .rejected ∧ claim.status ≠ .rejected
    · rw [if_pos refund, run_perform]
      split
      · rename_i returned done
        have claims := Db.write_claims done
        dsimp only at claims
        refine Holds.settleClaim (claims ▸ found) ?_
        have moved := holds.addToken (fun s own present => ?_) done
        · simpa [KaStudentReward.standing, KaStudentReward.setStatus, refund.1, refund.2,
            neg_ite] using moved
        · have exact_ := ((settled claim asked own).2 refund.2 refund.1) s present
          obtain ⟨s', present', tokens, -⟩ := holds.student
          obtain rfl : s = s' := Option.some_inj.mp (present.symm.trans present')
          exact ⟨exact_, add_nonneg tokens (holds.costs claim isClaim own)⟩
      · exact holds
    · rw [if_neg refund]
      refine Holds.settleClaim found ?_
      have same : (claim.setStatus status).standing k = claim.standing k := by
        by_cases own : claim.studentId = k
        · have stays := (settled claim asked own).1
          simp only [KaStudentReward.standing, KaStudentReward.setStatus]
          by_cases was : claim.status = .rejected
          · simp [was, stays was]
          · have remains : status ≠ .rejected := fun h => refund ⟨h, was⟩
            simp [was, remains]
        · simp [KaStudentReward.standing, KaStudentReward.setStatus, own]
      rw [same, sub_self]
      exact holds

end

/-! ### Runs -/

theorem Holds.watch {k : Id} {w : Watched} {call : Call} (holds : Holds k w.largest 0 w.db)
    (settled : Settled k w call) :
    Holds k (Ka.watch k w call).largest 0 (Ka.watch k w call).db := by
  cases call with
  | submitActivity tenantId userId dto => exact holds.submitActivity.watched
  | reviewSubmission tenantId id dto => exact holds.reviewSubmission settled
  | directAwardActivity tenantId dto => exact holds.directAwardActivity settled
  | claimReward tenantId userId dto => exact (holds.claimReward settled).watched
  | fulfillReward tenantId id status => exact (holds.fulfillReward settled).watched

theorem Opened.holds {k : Id} {db : Db} (opened : Opened k db) : Holds k 0 0 db := by
  obtain ⟨⟨s, found, score, token⟩, unclaimed, priced⟩ := opened
  have none : spent k db = 0 := by
    refine List.sum_eq_zero fun x mem => ?_
    obtain ⟨c, isClaim, rfl⟩ := List.mem_map.mp mem
    simp [KaStudentReward.standing, unclaimed c isClaim]
  refine ⟨le_rfl, ⟨s, found, token.ge, score.le, 0, share_zero, ?_⟩, ?_, priced⟩
  · rw [none, token]
    norm_num
  · exact fun c mem own => absurd own (unclaimed c mem)

theorem Holds.onceSpent {k : Id} {w : Watched} (holds : Holds k w.largest 0 w.db) :
    OnceSpent k w := by
  obtain ⟨s, found, tokens, -, bound, shared, within⟩ := holds.student
  exact ⟨⟨s, found, tokens⟩, bound, shared, by linarith⟩

/-- In a run whose calls are all settled, what the student has claimed and was not refused never
exceeds the share of the best score. -/
theorem onceSpent_of_settled {k : Id} {db : Db} (opened : Opened k db) {calls : List Call}
    (settled : Along (watch k) (Settled k) ⟨db, 0⟩ calls) :
    OnceSpent k (run (watch k) ⟨db, 0⟩ calls) := by
  have start : Holds k (⟨db, 0⟩ : Watched).largest 0 (⟨db, 0⟩ : Watched).db := opened.holds
  exact (run_invariant (I := fun w : Watched => Holds k w.largest 0 w.db)
    (fun _ _ settled holds => holds.watch settled) start settled).onceSpent

/-! ### A student with a hundred points -/

namespace Desk

/-- One school, one activity, one reward at 95 tokens and one student. -/
def db : Db where
  students := .of [{ id := 1, tenantId := 1, userId := 1 }]
  activities := .of [{ id := 1, tenantId := 1 }]
  rewards := .of [{ id := 1, tenantId := 1, minToken := 95 }]
  foreignKeys := by constructor <;> decide

def award (scoreAwarded : ℚ) : Call :=
  .directAwardActivity 1 { studentId := 1, activityId := 1, scoreAwarded }

def claim : Call := .claimReward 1 1 { rewardId := 1 }

end Desk

instance (k : Id) (db : Db) : Decidable (Opened k db) := by
  unfold Opened
  have : Decidable (∃ s, db.students.find? k = some s ∧ s.kaScore = 0 ∧ s.kaToken = 0) :=
    decidable_of_iff (∃ s ∈ db.students.find? k, s.kaScore = 0 ∧ s.kaToken = 0) Iff.rfl
  infer_instance

instance (k : Id) (w : Watched) (call : Call) : Decidable (Settled k w call) := by
  unfold Settled
  split <;> infer_instance

/-- Settled calls: an award, a claim, its rejection, and an award after it. -/
theorem onceSpent_refund : OnceSpent 1 (run (watch 1) ⟨Desk.db, 0⟩
      [Desk.award 100, Desk.claim, .fulfillReward 1 1 .rejected, Desk.award 1, Desk.claim]) :=
  onceSpent_of_settled (by decide +kernel) (by decide +kernel)

/-- A student with 100 points claims all 95 tokens; an award of one point makes the balance 95
again, and it is claimed again. -/
theorem not_onceSpent : Opened 1 Desk.db ∧ ¬ OnceSpent 1 (run (watch 1) ⟨Desk.db, 0⟩
      [Desk.award 100, Desk.claim, Desk.award 1, Desk.claim]) := by
  refine ⟨by decide +kernel, ?_⟩
  rintro ⟨-, bound, shared, within⟩
  have isBound : share (.finite (run (watch 1) ⟨Desk.db, 0⟩
      [Desk.award 100, Desk.claim, Desk.award 1, Desk.claim]).largest) = .finite 95 := by
    decide +kernel
  have isSpent : spent 1 (run (watch 1) ⟨Desk.db, 0⟩
      [Desk.award 100, Desk.claim, Desk.award 1, Desk.claim]).db = 190 := by
    decide +kernel
  obtain rfl := Number.finite.inj (isBound.symm.trans shared)
  rw [isSpent] at within
  norm_num at within

end Rokad.Ka
