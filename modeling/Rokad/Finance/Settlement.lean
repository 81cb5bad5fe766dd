import Rokad.Finance.Postings

/-!
# Verifications in progress

Any number of `verifyPayment` calls over one database and one table of locks, one atomic
step at a time: the lock, the look-up after a refusal, the reading, the gateway's answer,
the write, and the deletion of the lock. The gateway answers anything each time it is
asked, and a lock may expire between any two steps.

A call that moves alone does what `verifyPayment` says (`verify_alone`). Over all
interleavings a transaction is settled at most once (`settled_at_most_once`): the lock
does not ensure that, the unique key on the receipt does.
-/

namespace Rokad.Finance

open Rokad.Base verifyPayment

/-! ### The machine -/

/-- What the calls share: the database, and the keys locked in the lock server. -/
structure VerifyState where
  db : Db
  locks : List String := []

structure VerifyCall where
  env : Env
  tenantId : Id
  dto : VerifyPaymentDto
  /-- The process has a client of the lock server. -/
  redis : Bool := true

def VerifyCall.lockKey (call : VerifyCall) : String := "lock:verify:" ++ call.dto.authority

/-- Where a call is: what it does next, with what it holds. -/
inductive VerifyPhase where
  | locking
  | refused
  | finding
  | answering (reading : VerifyReading)
  | cancelling (reading : VerifyReading)
  | asking (reading : VerifyReading)
  | concluding (reading : VerifyReading) (result : PaymentVerifyResult)
  | releasing (reply : Result VerifyReply)
  | done (reply : Result VerifyReply)

/-- What the gateway answers when it is asked, or the exception it throws. -/
abbrev GatewayAnswer := Result PaymentVerifyResult

def VerifyState.unlock (s : VerifyState) (key : String) : VerifyState :=
  { s with locks := s.locks.filter (· ≠ key) }

/-- After the reading: a settled transaction is answered for, a cancelled one is failed,
and for any other the gateway is asked. -/
def afterReading (dto : VerifyPaymentDto) (reading : VerifyReading) : VerifyPhase :=
  if reading.transaction.status = .successful then .answering reading
  else if isNok dto.status then .cancelling reading
  else .asking reading

/-- A write of the database, after which the lock is released. -/
def VerifyState.after (s : VerifyState) (outcome : Db × Result VerifyReply) :
    VerifyState × VerifyPhase :=
  ({ s with db := outcome.1 }, .releasing outcome.2)

/-- One atomic step of a call. -/
def VerifyCall.act (call : VerifyCall) (s : VerifyState) (phase : VerifyPhase)
    (answer : GatewayAnswer) : VerifyState × VerifyPhase :=
  match phase with
  | .locking =>
    if call.redis then
      if call.lockKey ∈ s.locks then (s, .refused)
      else ({ s with locks := call.lockKey :: s.locks }, .finding)
    else (s, .finding)
  | .refused =>
    -- The early return of a refused call is outside the `try`, so it keeps the lock.
    match existing call.tenantId call.dto s.db with
    | some reply => (s, .done (.ok reply))
    | none => (s, .finding)
  | .finding =>
    match verifyPayment.read call.tenantId call.dto s.db with
    | .error e => (s, .releasing (.error e))
    | .ok reading => (s, afterReading call.dto reading)
  | .answering reading => (s, .releasing (.ok (alreadyVerified reading s.db)))
  | .cancelling reading => s.after (cancel reading s.db)
  | .asking reading =>
    match answer with
    | .error e => (s, .releasing (.error e))
    | .ok result => (s, .concluding reading result)
  | .concluding reading result => s.after (conclude call.env call.tenantId reading result s.db)
  | .releasing reply => (if call.redis then s.unlock call.lockKey else s, .done reply)
  | .done reply => (s, .done reply)

section

variable {ι : Type} [DecidableEq ι]

abbrev Verifications (ι : Type) := Threads VerifyState VerifyPhase ι

/-- A move of a call with the gateway's answer, or the expiry of a lock. -/
abbrev VerifyMove (ι : Type) := Move ι GatewayAnswer String

abbrev verifyStep (calls : ι → VerifyCall) : Verifications ι → VerifyMove ι → Verifications ι :=
  Threads.step (fun i => (calls i).act) VerifyState.unlock

def verifyStart (s : VerifyState) : Verifications ι := ⟨s, fun _ => .locking⟩

/-! ### One call alone -/

/-- What the lock server answers a call. -/
def VerifyCall.lockAnswer (call : VerifyCall) (s : VerifyState) : LockAnswer :=
  if call.redis then if call.lockKey ∈ s.locks then .refused else .acquired else .noClient

variable (call : VerifyCall) (provider : PaymentGatewayProvider)

/-- What the call comes to from where it is, when no other call moves. -/
def VerifyCall.outcome (s : VerifyState) : VerifyPhase → Db × Result VerifyReply
  | .locking => verifyPayment call.env provider (call.lockAnswer s) call.tenantId call.dto s.db
  | .refused => verifyPayment call.env provider .refused call.tenantId call.dto s.db
  | .finding => verifyPayment call.env provider .acquired call.tenantId call.dto s.db
  | .answering reading => (s.db, .ok (alreadyVerified reading s.db))
  | .cancelling reading => cancel reading s.db
  | .asking reading =>
    match provider.verifyPayment ⟨call.dto.authority, toDouble reading.transaction.amount⟩ with
    | .error e => (s.db, .error e)
    | .ok result => conclude call.env call.tenantId reading result s.db
  | .concluding reading result => conclude call.env call.tenantId reading result s.db
  | .releasing reply | .done reply => (s.db, reply)

/-- The steps that are left at most. -/
def VerifyPhase.left : VerifyPhase → ℕ
  | .locking => 6
  | .refused => 5
  | .finding => 4
  | .asking _ => 3
  | .answering _ | .cancelling _ | .concluding .. => 2
  | .releasing _ => 1
  | .done _ => 0

variable {call provider} {answer : GatewayAnswer} (answers : ∀ o, provider.verifyPayment o = answer)

include answers

/-- A step keeps what the call comes to, and brings it nearer. -/
theorem act_outcome (s : VerifyState) (phase : VerifyPhase) :
    call.outcome provider (call.act s phase answer).1 (call.act s phase answer).2 =
        call.outcome provider s phase ∧
      (call.act s phase answer).2.left ≤ phase.left - 1 := by
  cases phase with
  | locking =>
    by_cases redis : call.redis = true <;> by_cases held : call.lockKey ∈ s.locks <;>
      simp [VerifyCall.outcome, VerifyCall.act, VerifyCall.lockAnswer, redis, held, verifyPayment,
        VerifyPhase.left]
  | refused =>
    cases known : existing call.tenantId call.dto s.db <;>
      simp [VerifyCall.outcome, VerifyCall.act, verifyPayment, known, VerifyPhase.left]
  | finding =>
    cases read : verifyPayment.read call.tenantId call.dto s.db with
    | error e => simp [VerifyCall.outcome, VerifyCall.act, verifyPayment, read, VerifyPhase.left]
    | ok reading =>
      have next : call.outcome provider s (afterReading call.dto reading) =
          call.outcome provider s .finding := by
        simp only [VerifyCall.outcome, verifyPayment, read, afterReading, reduceCtorEq, if_false]
        split_ifs <;> rfl
      refine ⟨by simpa only [VerifyCall.act, read] using next, ?_⟩
      simp only [VerifyCall.act, read, afterReading]
      split_ifs <;> simp [VerifyPhase.left]
  | asking reading =>
    simp only [VerifyCall.outcome, VerifyCall.act, answers]
    cases answer <;> simp [VerifyPhase.left]
  | releasing reply =>
    simp only [VerifyCall.outcome, VerifyCall.act]
    split <;> exact ⟨rfl, le_rfl⟩
  | _ => exact ⟨rfl, by simp [VerifyCall.act, VerifyState.after, VerifyPhase.left]⟩

/-- **A call alone.** Six moves of one call with no other in between are `verifyPayment`, with
the lock answered from the locks that are held. -/
theorem verify_alone (calls : ι → VerifyCall) (p : Verifications ι) (i : ι)
    (start : p.own i = .locking) :
    let q := run (verifyStep calls) p (List.replicate 6 (.thread i answer))
    let outcome := verifyPayment (calls i).env provider ((calls i).lockAnswer p.shared)
      (calls i).tenantId (calls i).dto p.shared.db
    q.shared.db = outcome.1 ∧ q.own i = .done outcome.2 := by
  have moves : ∀ n (p : Verifications ι), (calls i).outcome provider
          (run (verifyStep calls) p (List.replicate n (.thread i answer))).shared
          ((run (verifyStep calls) p (List.replicate n (.thread i answer))).own i) =
        (calls i).outcome provider p.shared (p.own i) ∧
      ((run (verifyStep calls) p (List.replicate n (.thread i answer))).own i).left ≤
        (p.own i).left - n := by
    intro n
    induction n with
    | zero => exact fun p => ⟨rfl, le_rfl⟩
    | succ n ih =>
      intro p
      have less : ((calls i).act p.shared (p.own i) answer).2.left ≤ (p.own i).left - 1 :=
        (act_outcome answers p.shared (p.own i)).2
      have rest := ih (verifyStep calls p (.thread i answer))
      simp only [verifyStep, Threads.step, Function.update_self] at rest
      rw [List.replicate_succ, run_cons]
      exact ⟨rest.1.trans (act_outcome answers p.shared (p.own i)).1,
        by simp only [verifyStep, Threads.step] at *; omega⟩
  obtain ⟨same, left⟩ := moves 6 p
  intro q outcome
  rw [start] at same left
  change (calls i).outcome provider q.shared (q.own i) = outcome at same
  change (q.own i).left ≤ 0 at left
  cases own : q.own i with
  | done reply =>
    rw [own] at same
    exact ⟨congrArg Prod.fst same, congrArg _ (congrArg Prod.snd same)⟩
  | _ => simp [own, VerifyPhase.left] at left

end

/-- A transaction is pending, and its payment of 4000 is confirmed. -/
theorem verify_alone_school : ∃ db contract, School.signed = .ok (db, contract) ∧
    let pending := exec db
      (.initiateOnlinePayment { now := 3 } School.gateway 1 7 { installmentId := 2 })
    let q := run (verifyStep fun _ => ⟨{ now := 4 }, 1, { authority := "A0001" }, true⟩)
      (verifyStart ⟨pending, []⟩)
      (List.replicate 6 (.thread () (.ok { isSuccess := true, refId := some "REF-1" })))
    pending.balanceOf contract.id = 10000 ∧ q.shared.db.balanceOf contract.id = 6000 ∧
      ∃ reply, q.own () = .done (.ok reply) ∧
        reply.receipt.map (·.transactionId) = some (some 1) := by
  obtain ⟨⟨db, contract⟩, signed, owed, paid, verified⟩ := Returns.exists (by decide +kernel :
    Returns School.signed fun x =>
      let pending := exec x.1
        (.initiateOnlinePayment { now := 3 } School.gateway 1 7 { installmentId := 2 })
      let outcome := verifyPayment { now := 4 } School.gateway .acquired 1 { authority := "A0001" }
        pending
      pending.balanceOf x.2.id = 10000 ∧ outcome.1.balanceOf x.2.id = 6000 ∧
        Returns outcome.2 fun reply => reply.receipt.map (·.transactionId) = some (some 1))
  obtain ⟨reply, replied, issued⟩ := verified.exists
  refine ⟨db, contract, signed, ?_⟩
  intro pending q
  obtain ⟨stored, done⟩ := verify_alone
    (fun _ => rfl : ∀ o, School.gateway.verifyPayment o = _)
    (fun _ => ⟨{ now := 4 }, 1, { authority := "A0001" }, true⟩) (verifyStart ⟨pending, []⟩) () rfl
  refine ⟨owed, ?_, reply, done.trans (congrArg _ replied), issued⟩
  rw [stored]
  exact paid

/-!
## Settlements

What a move of the verification machine does to the database (`verifyStep_cases`): it
settles a transaction, marks one as failed, or leaves the database alone. A settlement issues
the receipt that the unique key allows once, so no transaction is settled twice, whoever
holds the lock, and the ledger at the end is the ledger at the start with each settled
transaction posted once (`settled_at_most_once`).
-/

/-! ### The database of a settlement -/

/-- A receipt was issued for the transaction. -/
def Receipted (db : Db) (k : Id) : Prop := ∃ r ∈ db.receipts.rows, r.transactionId = some k
deriving Decidable

theorem Receipted.frame {db db' : Db} {k : Id} (receipted : Receipted db k)
    (frame : Frame db db') : Receipted db' k := by
  obtain ⟨r, mem, same⟩ := receipted
  exact ⟨r, frame.receipts r mem, same⟩

/-- The unique key: one receipt for a transaction at most. -/
theorem receipt_unique (db : Db) {k : Id} {a b : FeeReceipt} (memA : a ∈ db.receipts.rows)
    (memB : b ∈ db.receipts.rows) (ofA : a.transactionId = some k)
    (ofB : b.transactionId = some k) : a = b := by
  by_contra differ
  have clear := db.receipts.no_clash a memA b memB fun same =>
    differ (db.receipts.eq_of_key_eq memA memB same)
  simp [Record.clash, sameKey, ofA, ofB] at clear

theorem countP_receipts_le_one (db : Db) (k : Id) :
    db.receipts.rows.countP (·.transactionId = some k) ≤ 1 := by
  rw [List.countP_eq_length_filter]
  have nodup : (db.receipts.rows.filter (·.transactionId = some k)).Nodup :=
    (db.receipts.keys_nodup.of_map _).filter _
  match rows : db.receipts.rows.filter (·.transactionId = some k) with
  | [] => simp [rows]
  | [_] => simp [rows]
  | a :: b :: _ =>
    have mem : ∀ x ∈ [a, b], x ∈ db.receipts.rows ∧ x.transactionId = some k := by
      intro x hx
      have : x ∈ db.receipts.rows.filter (·.transactionId = some k) := by
        rw [rows]
        simp only [List.mem_cons, List.not_mem_nil, or_false] at hx ⊢
        tauto
      simpa using List.mem_filter.mp this
    obtain ⟨memA, ofA⟩ := mem a (by simp)
    obtain ⟨memB, ofB⟩ := mem b (by simp)
    rw [rows, receipt_unique db memA memB ofA ofB] at nodup
    simp at nodup

/-- A settlement goes through only for a transaction without a receipt, and issues it. -/
theorem settle_receipted {db db' : Db} {env : Env} {t : Id} {reading : VerifyReading}
    {result : PaymentVerifyResult} {receipt : FeeReceipt}
    (done : settle env t reading result db = .ok (db', receipt)) :
    ¬ Receipted db reading.transaction.id ∧ Receipted db' reading.transaction.id := by
  obtain ⟨k, db₁, db₂, db₃, -, marked, credited, debited, rfl, receipted⟩ := settle_ok done
  have before : db₃.receipts = db.receipts :=
    (debitContract_frame debited).2.2.2.2.trans
      ((creditInstallment_frame credited).2.2.2.2.trans (Db.write_receipts marked))
  have inserted := Db.write_receipts receipted
  simp only [before] at inserted
  refine ⟨?_, _, (mem_insert inserted).mpr (Or.inr rfl), rfl⟩
  rintro ⟨r, mem, same⟩
  have clear := (insert_spec.mp inserted).2.2 r mem
  simp [Record.clash, sameKey, same, receipt] at clear

/-- The posting of a transaction: its amount, on its contract and its installment. -/
def Db.postingOf (db : Db) (k : Id) : Option Posting := do
  let transaction ← db.transactions.find? k
  let contractId ← transaction.contractId
  return ⟨contractId,
    (transaction.installmentId.bind db.installments.find?).map FeeInstallment.toCredit,
    transaction.amount⟩

/-- Verifying creates no transactions and changes no core of one. -/
theorem transactions_of_verifies {db db' : Db} (executes : Executes Statement.Verifies db db')
    (k : Id) :
    (db'.transactions.find? k).map (·.core) = (db.transactions.find? k).map (·.core) := by
  refine executes.keeps (I := fun d : Db =>
    (d.transactions.find? k).map (·.core) = (db.transactions.find? k).map (·.core))
    (fun d s d' admitted done before => Eq.trans ?_ before) rfl
  have transactions := Db.write_transactions done
  cases s <;> simp only at transactions
  case createTransaction => exact admitted.elim
  case updateTransaction => exact Frame.map_core_update transactions (fun _ => rfl) k
  all_goals rw [transactions]

/-- Neither a posting nor the credit in it depends on what verifying changes. -/
theorem postingOf_verifies {db db' : Db} (executes : Executes Statement.Verifies db db') (k : Id) :
    db'.postingOf k = db.postingOf k := by
  have frame : Frame db db' := .of_executes executes fun _ _ => Statement.Verifies.ofCall
  have credit : ∀ i, (db'.installments.find? i).map FeeInstallment.toCredit =
      (db.installments.find? i).map FeeInstallment.toCredit := by
    intro i
    have same := congrArg (Option.map FeeInstallment.toCredit) (frame.installments i)
    rwa [Option.map_map, Option.map_map] at same
  have transaction := transactions_of_verifies executes k
  unfold Db.postingOf
  cases before : db.transactions.find? k with
  | none =>
    rw [before, Option.map_none, Option.map_eq_none_iff] at transaction
    rw [transaction]
    rfl
  | some x =>
    rw [before, Option.map_some, Option.map_eq_some_iff] at transaction
    obtain ⟨x', found, same⟩ := transaction
    have contract : x'.core.contractId = x.core.contractId := by rw [same]
    have installment : x'.core.installmentId = x.core.installmentId := by rw [same]
    have amount : x'.core.amount = x.core.amount := by rw [same]
    simp only [PaymentTransaction.core] at contract installment amount
    rw [found]
    simp only [Option.bind_eq_bind, Option.bind_some, contract, installment, amount,
      Option.map_bind, Function.comp_def, credit]

/-! ### Moves -/

variable {ι : Type} [DecidableEq ι]

/-- The transaction whose settlement is committed at this move. -/
def settles (calls : ι → VerifyCall) (p : Verifications ι) : VerifyMove ι → Option Id
  | .thread i _ =>
    match p.own i with
    | .concluding reading result =>
      if result.isSuccess then
        match settle (calls i).env (calls i).tenantId reading result p.shared.db with
        | .ok _ => some reading.transaction.id
        | .error _ => none
      else none
    | _ => none
  | .world _ => none

/-- The transactions settled along a run, in the order of their commits. -/
abbrev settledOrder (calls : ι → VerifyCall) : Verifications ι → List (VerifyMove ι) → List Id :=
  trace (verifyStep calls) fun p move => (settles calls p move).toList

/-- The transaction that the next write of a call marks as failed. -/
def VerifyPhase.fails : VerifyPhase → Option Id
  | .cancelling reading => some reading.transaction.id
  | .concluding reading result => if result.isSuccess then none else some reading.transaction.id
  | _ => none

/-- What a call holds of the database. -/
def VerifyPhase.reading? : VerifyPhase → Option VerifyReading
  | .answering reading | .cancelling reading | .asking reading | .concluding reading _ =>
    some reading
  | _ => none

/-- A move leaves the database alone, settles a transaction, or marks one as failed. -/
theorem verifyStep_cases (calls : ι → VerifyCall) (p : Verifications ι) (move : VerifyMove ι) :
    ((verifyStep calls p move).shared.db = p.shared.db ∧ settles calls p move = none) ∨
    (∃ i answer reading result receipt, move = .thread i answer ∧
      p.own i = .concluding reading result ∧ settles calls p move = some reading.transaction.id ∧
      settle (calls i).env (calls i).tenantId reading result p.shared.db =
        .ok ((verifyStep calls p move).shared.db, receipt)) ∨
    (∃ i answer k message, move = .thread i answer ∧ (p.own i).fails = some k ∧
      settles calls p move = none ∧
      markFailed k message p.shared.db = .ok (verifyStep calls p move).shared.db) := by
  cases move with
  | world key => exact Or.inl ⟨rfl, rfl⟩
  | thread i answer =>
  cases phase : p.own i with
  | locking =>
    refine Or.inl ⟨?_, by simp [settles, phase]⟩
    simp only [Threads.step, phase, VerifyCall.act]
    split
    · split <;> rfl
    · rfl
  | refused =>
    refine Or.inl ⟨?_, by simp [settles, phase]⟩
    simp only [Threads.step, phase, VerifyCall.act]
    split <;> rfl
  | finding =>
    refine Or.inl ⟨?_, by simp [settles, phase]⟩
    simp only [Threads.step, phase, VerifyCall.act]
    split <;> rfl
  | answering reading => exact Or.inl ⟨by simp [Threads.step, phase, VerifyCall.act],
      by simp [settles, phase]⟩
  | cancelling reading =>
    have none : settles calls p (.thread i answer) = none := by simp [settles, phase]
    have after : (verifyStep calls p (.thread i answer)).shared.db =
        (cancel reading p.shared.db).1 := by
      simp [Threads.step, phase, VerifyCall.act, VerifyState.after]
    rw [after]
    rcases cancel_cases reading p.shared.db with same | ⟨message, written⟩
    · exact Or.inl ⟨same, none⟩
    · exact Or.inr (Or.inr ⟨i, answer, _, message, rfl, by simp [phase, VerifyPhase.fails], none,
        written⟩)
  | asking reading =>
    refine Or.inl ⟨?_, by simp [settles, phase]⟩
    simp only [Threads.step, phase, VerifyCall.act]
    split <;> rfl
  | concluding reading result =>
    have after : (verifyStep calls p (.thread i answer)).shared.db =
        (conclude (calls i).env (calls i).tenantId reading result p.shared.db).1 := by
      simp [Threads.step, phase, VerifyCall.act, VerifyState.after]
    rw [after]
    cases success : result.isSuccess with
    | true =>
      cases done : settle (calls i).env (calls i).tenantId reading result p.shared.db with
      | error e => exact Or.inl ⟨by simp [conclude, success, done],
          by simp [settles, phase, success, done]⟩
      | ok outcome =>
        refine Or.inr (Or.inl ⟨i, answer, reading, result, outcome.2, rfl, phase, ?_, ?_⟩)
        · simp [settles, phase, success, done]
        · simp [conclude, success, done]
    | false =>
      have none : settles calls p (.thread i answer) = none := by
        simp [settles, phase, success]
      rcases conclude_cases (calls i).env (calls i).tenantId reading result p.shared.db with
        same | ⟨succeeded, -⟩ | ⟨-, message, written⟩
      · exact Or.inl ⟨same, none⟩
      · simp [success] at succeeded
      · exact Or.inr (Or.inr ⟨i, answer, _, message, rfl,
          by simp [phase, VerifyPhase.fails, success], none, written⟩)
  | releasing reply =>
    refine Or.inl ⟨?_, by simp [settles, phase]⟩
    simp only [Threads.step, phase, VerifyCall.act]
    split <;> rfl
  | done reply => exact Or.inl ⟨by simp [Threads.step, phase, VerifyCall.act],
      by simp [settles, phase]⟩

theorem verifyStep_executes (calls : ι → VerifyCall) (p : Verifications ι)
    (move : VerifyMove ι) :
    Executes Statement.Verifies p.shared.db (verifyStep calls p move).shared.db := by
  rcases verifyStep_cases calls p move with ⟨same, -⟩ |
    ⟨i, answer, reading, result, receipt, -, -, -, done⟩ | ⟨i, answer, k, message, -, -, -, written⟩
  · rw [same]
    exact .refl _
  · exact settle_executes done
  · exact .one written trivial

theorem verifyStep_frame (calls : ι → VerifyCall) (p : Verifications ι) (move : VerifyMove ι) :
    Frame p.shared.db (verifyStep calls p move).shared.db :=
  .of_executes (verifyStep_executes calls p move) fun _ _ => Statement.Verifies.ofCall

/-! ### What a call holds -/

/-- The transaction a call holds is a row of the table, up to what verifying changes. -/
def Held (db : Db) (phase : VerifyPhase) : Prop :=
  ∀ reading, phase.reading? = some reading →
    (db.transactions.find? reading.transaction.id).map (·.core) = some reading.transaction.core

theorem Held.of_reading? {db : Db} {phase phase' : VerifyPhase} (held : Held db phase)
    (same : ∀ reading, phase'.reading? = some reading → phase.reading? = some reading) :
    Held db phase' := fun reading holds => held reading (same reading holds)

theorem held_afterReading {db : Db} {t : Id} {dto : VerifyPaymentDto} {reading : VerifyReading}
    (read : verifyPayment.read t dto db = .ok reading) : Held db (afterReading dto reading) := by
  intro other holds
  have same : other.transaction = reading.transaction := by
    unfold afterReading at holds
    split at holds
    · exact (congrArg VerifyReading.transaction (Option.some_inj.mp holds)).symm
    · split at holds <;>
        exact (congrArg VerifyReading.transaction (Option.some_inj.mp holds)).symm
  rw [same]
  exact congrArg (Option.map PaymentTransaction.core) (verifyPayment.read_ok read)

/-- A step of a call keeps what it holds, or reads it afresh. -/
theorem act_held {call : VerifyCall} {s : VerifyState} {phase : VerifyPhase}
    {answer : GatewayAnswer} (held : Held s.db phase) :
    Held s.db (call.act s phase answer).2 := by
  cases phase with
  | locking =>
    refine held.of_reading? fun reading holds => ?_
    simp only [VerifyCall.act] at holds
    split at holds
    · split at holds <;> cases holds
    · cases holds
  | refused =>
    refine held.of_reading? fun reading holds => ?_
    simp only [VerifyCall.act] at holds
    split at holds <;> cases holds
  | finding =>
    simp only [VerifyCall.act]
    cases read : verifyPayment.read call.tenantId call.dto s.db with
    | error e => exact fun reading holds => by cases holds
    | ok reading => exact held_afterReading read
  | asking reading =>
    cases answer with
    | error e => exact fun reading holds => by cases holds
    | ok result => exact held.of_reading? fun _ holds => holds
  | _ => exact fun reading holds => by cases holds

/-- What a settlement books is the posting of the transaction it holds. -/
theorem postingOf_held {db : Db} {reading : VerifyReading}
    (held : (db.transactions.find? reading.transaction.id).map (·.core) =
      some reading.transaction.core) :
    db.postingOf reading.transaction.id = (settlementBooking reading db).map Booking.posting := by
  obtain ⟨x, found, same⟩ := Option.map_eq_some_iff.mp held
  have contract : x.core.contractId = reading.transaction.core.contractId := by rw [same]
  have installment : x.core.installmentId = reading.transaction.core.installmentId := by rw [same]
  have amount : x.core.amount = reading.transaction.core.amount := by rw [same]
  simp only [PaymentTransaction.core] at contract installment amount
  unfold Db.postingOf settlementBooking
  rw [found]
  cases key : reading.transaction.contractId with
  | none => simp [contract, key]
  | some k => simp [contract, key, installment, amount, Booking.posting]

/-! ### At most once -/

/-- A settlement moves the ledger by the posting of its transaction. -/
theorem settle_ledger {db db' : Db} {env : Env} {t : Id} {reading : VerifyReading}
    {result : PaymentVerifyResult} {receipt : FeeReceipt}
    (done : settle env t reading result db = .ok (db', receipt))
    (held : (db.transactions.find? reading.transaction.id).map (·.core) =
      some reading.transaction.core) :
    db'.ledger = match db.postingOf reading.transaction.id with
      | some posting => db.ledger.post posting
      | none => db.ledger := by
  have posts := (settle_makes done).posts
  rw [postingOf_held held]
  cases booked : settlementBooking reading db with
  | none =>
    rw [booked] at posts
    exact posts.1
  | some b =>
    rw [booked] at posts
    refine posts.books.posted ?_
    obtain ⟨k, -, rfl⟩ := Option.map_eq_some_iff.mp booked
    exact roundsCleanly_coe _

/-- The invariant of a run from `db`: what each transaction posts is as it was, and what the calls
hold is in the table. -/
def Underway (db : Db) (p : Verifications ι) : Prop :=
  (∀ k, p.shared.db.postingOf k = db.postingOf k) ∧ ∀ i, Held p.shared.db (p.own i)

theorem Underway.step {calls : ι → VerifyCall} {db : Db} {p : Verifications ι}
    (underway : Underway db p) (move : VerifyMove ι) :
    Underway db (verifyStep calls p move) := by
  obtain ⟨postings, held⟩ := underway
  have executes := verifyStep_executes calls p move
  have kept : ∀ phase, Held p.shared.db phase → Held (verifyStep calls p move).shared.db phase :=
    fun phase held reading holds =>
      (transactions_of_verifies executes _).trans (held reading holds)
  refine ⟨fun k => (postingOf_verifies executes k).trans (postings k), fun j => kept _ ?_⟩
  cases move with
  | world key => exact held j
  | thread i answer =>
    by_cases same : j = i
    · subst same
      simpa [Threads.step] using act_held (held j)
    · simpa [Threads.step, same] using held j

/-- **At most once.** Over any interleaving of any calls, whatever the locks and the gateway do,
no transaction is settled twice, the ledger is the ledger at the start with each settled
transaction posted, and no transaction has two receipts. -/
theorem settled_at_most_once (calls : ι → VerifyCall) (s : VerifyState)
    (moves : List (VerifyMove ι)) :
    (settledOrder calls (verifyStart s) moves).Nodup ∧
    (run (verifyStep calls) (verifyStart s) moves).shared.db.ledger =
      ((settledOrder calls (verifyStart s) moves).filterMap s.db.postingOf).foldl Ledger.post
        s.db.ledger ∧
    ∀ k, (run (verifyStep calls) (verifyStart s) moves).shared.db.receipts.rows.countP
      (·.transactionId = some k) ≤ 1 := by
  refine ⟨?_, ?_, countP_receipts_le_one _⟩
  · refine (trace_once (M := fun p k => Receipted p.shared.db k) ?_ ?_ _ moves).1
    · exact fun p move k receipted => receipted.frame (verifyStep_frame calls p move)
    · intro p move k settled
      rcases verifyStep_cases calls p move with ⟨-, none⟩ |
        ⟨i, answer, reading, result, receipt, -, -, some, done⟩ | ⟨_, _, _, _, -, -, none, -⟩
      · simp [none] at settled
      · obtain rfl : reading.transaction.id = k := by simpa [some] using settled
        exact settle_receipted done
      · simp [none] at settled
  · rw [List.foldl_filterMap]
    refine run_refines (I := Underway s.db) (V := (·.shared.db.ledger))
      (fun p move underway => underway.step move) (fun p move underway => ?_) ?_
    · obtain ⟨postings, held⟩ := underway
      rcases verifyStep_cases calls p move with ⟨same, none⟩ |
        ⟨i, answer, reading, result, receipt, -, phase, some, done⟩ |
        ⟨i, answer, k, message, -, -, none, written⟩
      · rw [none, same]
        rfl
      · have holds := held i reading (by simp [phase, VerifyPhase.reading?])
        rw [some, settle_ledger done holds, postings, Option.toList_some, List.foldl_cons,
          List.foldl_nil]
        cases s.db.postingOf reading.transaction.id <;> rfl
      · rw [none, ledger_updateTransaction written]
        rfl
    · exact ⟨fun _ => rfl, fun i reading holds => by cases holds⟩

end Rokad.Finance
