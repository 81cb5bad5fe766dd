import Rokad.Finance.FeeImport

/-!
# What a call that succeeds has done

One inversion lemma for each operation and each step the services share: the rows it
found, the checks that passed and the statements that went through, in order. Every
later result about an operation starts from its lemma here and never unfolds the
operation itself.
-/

namespace Rokad.Finance

open Rokad.Base

variable {db db' : Db} {env : Env} {t r : Id}

theorem creditInstallment_ok {found : Option FeeInstallment} {a : ℚ} {now : Instant}
    (done : creditInstallment db found a now = .ok db') :
    (found = none ∧ db' = db) ∨
      ∃ inst paid, found = some inst ∧ Money.store (Decimal.add inst.paidAmount a) = some paid ∧
        db.write (.updateInstallment inst.id
          { paidAmount := paid
            status := if (inst.amount : ℚ) ≤ Decimal.add inst.paidAmount a then .paid
              else .partiallyPaid
            paidAt := if (inst.amount : ℚ) ≤ Decimal.add inst.paidAmount a then some now
              else inst.paidAt }) = .ok db' := by
  cases found with
  | none =>
    cases done
    exact Or.inl ⟨rfl, rfl⟩
  | some inst =>
    simp only [creditInstallment, bind_eq_ok, column_eq_ok] at done
    obtain ⟨paid, stored, written⟩ := done
    refine Or.inr ⟨inst, paid, rfl, stored, ?_⟩
    rw [← written]
    split <;> simp

theorem writeBalance_ok {contract : StudentFeeContract} {balance : ℚ} {data : ContractUpdate}
    (done : writeBalance db contract balance data = .ok db') :
    ∃ m, Money.store balance = some m ∧ db.write (.updateContract contract.id
      { data with
        balanceRemaining := some m
        status := some (if balance = 0 then .completed else contract.status) }) = .ok db' := by
  simpa only [writeBalance, bind_eq_ok, column_eq_ok] using done

theorem recordCashPayment_ok {dto : RecordCashPaymentDto} {reply : CashReply}
    (done : recordCashPayment env t r dto db = .ok (db', reply)) :
    ∃ c amount db₁ db₂ db₃, db.contracts.find? dto.contractId = some c ∧ c.tenantId = t ∧
      dto.amount ≤ c.balanceRemaining ∧ Money.store dto.amount = some amount ∧
      db.write (.createPayment
        (recordCashPayment.payment env t r dto c db.payments.fresh amount)) = .ok db₁ ∧
      creditInstallment db₁ (recordCashPayment.installment dto c db₁) dto.amount env.now = .ok db₂ ∧
      writeBalance db₂ c (Decimal.minus c.balanceRemaining dto.amount) = .ok db₃ ∧
      db₃.write (.createReceipt reply.receipt) = .ok db' ∧
      reply.receipt.contractId = c.id ∧ reply.receipt.amount = amount ∧
      reply.receipt.transactionId = none := by
  simp only [recordCashPayment, recordCashPayment.read, recordCashPayment.transaction, do_eq_ok,
    column_eq_ok] at done
  obtain ⟨reading, ⟨c, found, -, positive, -, covered, rfl⟩, amount, stored, db₁, created, db₂,
    credited, db₃, balanced, db₄, receipted, ⟨⟩⟩ := done
  obtain ⟨found, tenant⟩ := Option.filter_eq_some_iff.mp found
  exact ⟨c, amount, db₁, db₂, db₃, found, by simpa using tenant, not_lt.mp covered, stored, created,
    credited, balanced, receipted, rfl, rfl, rfl⟩

theorem debitContract_ok {contractId : Option Id} {a : ℚ}
    (done : debitContract db contractId a = .ok db') :
    (contractId.bind db.contracts.find? = none ∧ db' = db) ∨
      ∃ c, contractId.bind db.contracts.find? = some c ∧
        writeBalance db c (finalBalance c.balanceRemaining a) = .ok db' := by
  unfold debitContract at done
  split at done
  · rename_i c found
    exact Or.inr ⟨c, found, done⟩
  · rename_i missing
    cases done
    exact Or.inl ⟨missing, rfl⟩

/-! ### Cheques -/

theorem recordChequePayment_ok {dto : RecordChequePaymentDto} {payment : FeePayment}
    (done : recordChequePayment t r dto db = .ok (db', payment)) :
    ∃ c amount, db.contracts.find? dto.contractId = some c ∧ c.tenantId = t ∧
      (∀ p ∈ db.payments.rows, p.tenantId = t → p.checkSayadId ≠ some dto.checkSayadId) ∧
      Money.store dto.amount = some amount ∧
      payment = recordChequePayment.payment t r dto c db.payments.fresh amount ∧
      db.write (.createPayment payment) = .ok db' := by
  simp only [recordChequePayment, do_eq_ok, column_eq_ok] at done
  obtain ⟨c, found, -, -, -, unused, -, -, amount, stored, db₁, created, ⟨⟩⟩ := done
  obtain ⟨found, tenant⟩ := Option.filter_eq_some_iff.mp found
  exact ⟨c, amount, found, by simpa using tenant,
    fun p mem same taken => unused ⟨p, mem, same, taken⟩, stored, rfl, created⟩

namespace updateChequeStatus

variable {p : Id} {dto : UpdateChequeStatusDto} {reading : ChequeReading}

theorem read_ok (done : read t p dto db = .ok reading) :
    db.payments.find? p = some reading.cheque ∧ reading.cheque.tenantId = t ∧
      db.contracts.find? reading.cheque.feeContractId = some reading.contract ∧
      reading.cheque.method = .cheque ∧
      (reading.cheque.checkStatus = some .cashed → dto.status = .cashed) := by
  simp only [read, do_eq_ok] at done
  obtain ⟨cheque, found, c, contract, -, isCheque, -, open_, rfl⟩ := done
  obtain ⟨found, tenant⟩ := Option.filter_eq_some_iff.mp found
  exact ⟨found, by simpa using tenant, contract, isCheque,
    fun cashed => by_contra fun other => open_ ⟨cashed, other⟩⟩

theorem cashCheque_ok (done : cashCheque env t r reading db = .ok db') :
    ∃ db₁ db₂, writeBalance db reading.contract
        (finalBalance reading.contract.balanceRemaining reading.cheque.amount)
        (holdAfterCashing reading.contract
          (otherBounced db t reading.contract reading.cheque)) = .ok db₁ ∧
      creditInstallment db₁ (reading.cheque.installmentId.bind db₁.installments.find?)
        reading.cheque.amount env.now = .ok db₂ ∧
      db₂.write (.createReceipt (cashedReceipt env t r reading db₂.receipts.fresh)) = .ok db' := by
  simpa only [cashCheque, bind_eq_ok, exists_and_left] using done

theorem replaceByCheque_ok {replacement : RecordChequePaymentDto} {id : Option Id}
    (done : replaceByCheque t r reading replacement db = .ok (db', id)) :
    ∃ amount, Money.store replacement.amount = some amount ∧
      id = some db.payments.fresh ∧
      db.write (.createPayment (replacementChequePayment t r reading replacement
        db.payments.fresh amount)) = .ok db' := by
  simp only [replaceByCheque, do_eq_ok, column_eq_ok] at done
  obtain ⟨amount, stored, db₁, created, ⟨⟩⟩ := done
  exact ⟨amount, stored, rfl, created⟩

theorem replaceByCash_ok {replacement : RecordCashPaymentDto} {id : Option Id}
    (done : replaceByCash env t r reading replacement db = .ok (db', id)) :
    ∃ amount db₁ db₂, Money.store replacement.amount = some amount ∧
      id = some db.payments.fresh ∧
      db.write (.createPayment (replacementCashPayment env t r reading replacement
        db.payments.fresh amount)) = .ok db₁ ∧
      writeBalance db₁ reading.contract
        (finalBalance reading.contract.balanceRemaining replacement.amount) = .ok db₂ ∧
      db₂.write (.createReceipt (replacementCashReceipt env r reading
        (replacementCashPayment env t r reading replacement db.payments.fresh amount)
        db₂.receipts.fresh)) = .ok db' := by
  simp only [replaceByCash, do_eq_ok, column_eq_ok] at done
  obtain ⟨amount, stored, db₁, created, db₂, balanced, db₃, receipted, ⟨⟩⟩ := done
  exact ⟨amount, db₁, db₂, stored, rfl, created, balanced, receipted⟩

theorem releaseHold_ok (done : releaseHold t reading db = .ok db') :
    (otherBounced db t reading.contract reading.cheque = true ∧ db' = db) ∨
      (otherBounced db t reading.contract reading.cheque = false ∧
        db.write (.updateContract reading.contract.id
          { hasFinancialHold := some false, financialHoldReason := some none }) = .ok db') := by
  unfold releaseHold at done
  split at done
  · rename_i bounced
    cases done
    exact Or.inl ⟨bounced, rfl⟩
  · rename_i clear
    exact Or.inr ⟨by simpa using clear, done⟩

/-- The five things a status change can do before it sets the status. -/
theorem applyStatus_ok {id : Option Id} (done : applyStatus env t r dto reading db = .ok (db', id)) :
    (dto.status = .cashed ∧ reading.cheque.checkStatus ≠ some .cashed ∧ id = none ∧
      cashCheque env t r reading db = .ok db') ∨
    (dto.status = .bounced ∧ id = none ∧ bounceCheque reading db = .ok db') ∨
    (dto.status = .replaced ∧ ∃ db₁, replacement env t r dto reading db = .ok (db₁, id) ∧
      releaseHold t reading db₁ = .ok db') ∨
    (dto.status = .cashed ∧ reading.cheque.checkStatus = some .cashed ∧ id = none ∧ db' = db) ∨
    (dto.status = .pending ∧ id = none ∧ db' = db) := by
  unfold applyStatus at done
  by_cases cashing : dto.status = .cashed ∧ reading.cheque.checkStatus ≠ some .cashed
  · simp only [if_pos cashing, do_eq_ok] at done
    obtain ⟨db₁, cashed, ⟨⟩⟩ := done
    exact Or.inl ⟨cashing.1, cashing.2, rfl, cashed⟩
  · rw [if_neg cashing] at done
    cases status : dto.status with
    | bounced =>
      simp only [status, do_eq_ok] at done
      obtain ⟨db₁, bounced, ⟨⟩⟩ := done
      exact Or.inr (Or.inl ⟨rfl, rfl, bounced⟩)
    | replaced =>
      simp only [status, do_eq_ok] at done
      obtain ⟨⟨db₁, id'⟩, replaced, db₂, released, ⟨⟩⟩ := done
      exact Or.inr (Or.inr (Or.inl ⟨rfl, db₁, replaced, released⟩))
    | pending =>
      simp only [status, Except.ok.injEq, Prod.mk.injEq] at done
      obtain ⟨rfl, rfl⟩ := done
      exact Or.inr (Or.inr (Or.inr (Or.inr ⟨rfl, rfl, rfl⟩)))
    | cashed =>
      simp only [status, Except.ok.injEq, Prod.mk.injEq] at done
      obtain ⟨rfl, rfl⟩ := done
      have again : reading.cheque.checkStatus = some .cashed :=
        by_contra fun other => cashing ⟨status, other⟩
      exact Or.inr (Or.inr (Or.inr (Or.inl ⟨rfl, again, rfl, rfl⟩)))

theorem transaction_ok {updated : FeePayment}
    (done : transaction env t r dto reading db = .ok (db', updated)) :
    ∃ db₁ id, applyStatus env t r dto reading db = .ok (db₁, id) ∧
      db₁.write (.updatePayment reading.cheque.id
        (statusUpdate env r dto reading.cheque id)) = .ok db' := by
  simp only [transaction, do_eq_ok] at done
  obtain ⟨⟨db₁, id⟩, applied, db₂, updated, _, -, ⟨⟩⟩ := done
  exact ⟨db₁, id, applied, updated⟩

end updateChequeStatus

theorem updateChequeStatus_ok {p : Id} {dto : UpdateChequeStatusDto} {updated : FeePayment}
    (done : updateChequeStatus env t p r dto db = .ok (db', updated)) :
    ∃ reading, updateChequeStatus.read t p dto db = .ok reading ∧
      updateChequeStatus.transaction env t r dto reading db = .ok (db', updated) := by
  simpa only [updateChequeStatus, bind_eq_ok] using done

/-! ### Online and offline payments -/

theorem readInstallment_ok {i : Id} {missing : String} {reading : InstallmentReading}
    (done : readInstallment t i missing db = .ok reading) :
    db.installments.find? i = some reading.installment ∧
      db.contracts.find? reading.installment.contractId = some reading.contract := by
  simp only [readInstallment, do_eq_ok] at done
  obtain ⟨inst, found, c, contract, s, -, rfl⟩ := done
  exact ⟨(Option.filter_eq_some_iff.mp found).1, contract⟩

theorem initiateOnlinePayment.create_ok {dto : InitiateOnlinePaymentDto}
    {transaction : PaymentTransaction} {reading : InstallmentReading}
    (done : create env t r dto db = .ok (db', transaction, reading)) :
    ∃ amount, db.installments.find? dto.installmentId = some reading.installment ∧
      reading.installment.status ≠ .paid ∧
      0 < Decimal.minus reading.installment.amount reading.installment.paidAmount ∧
      Money.store (Decimal.minus reading.installment.amount reading.installment.paidAmount) =
        some amount ∧
      transaction = initiateOnlinePayment.transaction env t r dto reading.installment
        db.transactions.fresh amount ∧
      db.write (.createTransaction transaction) = .ok db' := by
  simp only [create, do_eq_ok, column_eq_ok] at done
  obtain ⟨reading', read, -, open_, -, positive, amount, stored, db₁, created, rfl, ⟨⟩⟩ := done
  exact ⟨amount, (readInstallment_ok read).1, open_, not_le.mp positive, stored, rfl, created⟩

theorem verifyPayment.settle_ok {reading : VerifyReading} {result : PaymentVerifyResult}
    {receipt : FeeReceipt} (done : settle env t reading result db = .ok (db', receipt)) :
    ∃ k db₁ db₂ db₃, reading.transaction.contractId = some k ∧
      db.write (.updateTransaction reading.transaction.id
        { status := some .successful, refId := result.refId, cardPan := result.cardPan
          verifiedAt := some env.now }) = .ok db₁ ∧
      creditInstallment db₁ (reading.transaction.installmentId.bind db₁.installments.find?)
        reading.transaction.amount env.now = .ok db₂ ∧
      debitContract db₂ reading.transaction.contractId reading.transaction.amount = .ok db₃ ∧
      receipt = verifyPayment.receipt env t reading k db₃.receipts.fresh ∧
      db₃.write (.createReceipt receipt) = .ok db' := by
  simp only [settle, do_eq_ok] at done
  obtain ⟨db₁, marked, db₂, credited, db₃, debited, k, contract, db₄, receipted, ⟨⟩⟩ := done
  exact ⟨k, db₁, db₂, db₃, contract, marked, credited, debited, rfl, receipted⟩

/-- Nothing, or the transaction row, with or without the authority. -/
theorem initiateOnlinePayment_cases (env : Env) (provider : PaymentGatewayProvider) (t r : Id)
    (dto : InitiateOnlinePaymentDto) (db : Db) :
    (initiateOnlinePayment env provider t r dto db).1 = db ∨ ∃ db₁ transaction reading,
        initiateOnlinePayment.create env t r dto db = .ok (db₁, transaction, reading) ∧
        ((initiateOnlinePayment env provider t r dto db).1 = db₁ ∨
          ∃ authority, db₁.write (.updateTransaction transaction.id
            { authority := some authority }) =
              .ok (initiateOnlinePayment env provider t r dto db).1) := by
  unfold initiateOnlinePayment
  cases created : initiateOnlinePayment.create env t r dto db with
  | error e => exact Or.inl rfl
  | ok outcome =>
    obtain ⟨db₁, transaction, reading⟩ := outcome
    refine Or.inr ⟨db₁, transaction, reading, rfl, ?_⟩
    dsimp only
    split
    · exact Or.inl rfl
    · rename_i result _
      split
      · exact Or.inl rfl
      · rename_i db₂ written
        exact Or.inr ⟨result.authority, written⟩

theorem verifyPayment.failing_cases (db : Db) (write : Result Db) (thrown : Failure) :
    (failing db write thrown).1 = db ∨ write = .ok (failing db write thrown).1 := by
  cases write with
  | ok db' => exact Or.inr rfl
  | error e => exact Or.inl rfl

theorem verifyPayment.cancel_cases (reading : VerifyReading) (db : Db) :
    (cancel reading db).1 = db ∨ ∃ message,
      markFailed reading.transaction.id message db = .ok (cancel reading db).1 := by
  rcases failing_cases db _ _ with same | written
  · exact Or.inl same
  · exact Or.inr ⟨_, written⟩

theorem verifyPayment.conclude_cases (env : Env) (t : Id) (reading : VerifyReading)
    (result : PaymentVerifyResult) (db : Db) :
    (conclude env t reading result db).1 = db ∨
    (result.isSuccess = true ∧ ∃ receipt,
      settle env t reading result db = .ok ((conclude env t reading result db).1, receipt)) ∨
    (result.isSuccess = false ∧ ∃ message, markFailed reading.transaction.id message db =
      .ok (conclude env t reading result db).1) := by
  unfold conclude
  cases success : result.isSuccess with
  | true =>
    rw [if_pos rfl]
    cases settle env t reading result db with
    | error e => exact Or.inl rfl
    | ok outcome => exact Or.inr (Or.inl ⟨rfl, outcome.2, rfl⟩)
  | false =>
    rw [if_neg Bool.false_ne_true]
    rcases failing_cases db _ _ with same | written
    · exact Or.inl same
    · exact Or.inr (Or.inr ⟨rfl, _, written⟩)

theorem verifyPayment.read_ok {dto : VerifyPaymentDto} {reading : VerifyReading}
    (done : verifyPayment.read t dto db = .ok reading) :
    db.transactions.find? reading.transaction.id = some reading.transaction := by
  simp only [verifyPayment.read, verifyPayment.findTransaction, do_eq_ok] at done
  obtain ⟨x, found, rfl⟩ := done
  exact db.transactions.find?_key (List.mem_of_find?_eq_some found)

/-- What a verification does to the database: the settlement it gets to, or at most a
failure written on a transaction that it read as not settled. -/
theorem verifyPayment_cases (env : Env) (provider : PaymentGatewayProvider) (lock : LockAnswer)
    (t : Id) (dto : VerifyPaymentDto) (db : Db) :
    (∃ reading result, verifyPayment.toSettle provider lock t dto db = some (reading, result) ∧
      verifyPayment.read t dto db = .ok reading ∧
      ((verifyPayment env provider lock t dto db).1 = db ∨ ∃ receipt,
        verifyPayment.settle env t reading result db =
          .ok ((verifyPayment env provider lock t dto db).1, receipt))) ∨
    (verifyPayment.toSettle provider lock t dto db = none ∧
      ((verifyPayment env provider lock t dto db).1 = db ∨
        ∃ reading message, verifyPayment.read t dto db = .ok reading ∧
          reading.transaction.status ≠ .successful ∧
          verifyPayment.markFailed reading.transaction.id message db =
            .ok (verifyPayment env provider lock t dto db).1)) := by
  unfold verifyPayment verifyPayment.toSettle
  cases (if lock = .refused then verifyPayment.existing t dto db else none) with
  | some reply => exact Or.inr ⟨rfl, Or.inl rfl⟩
  | none =>
  cases read : verifyPayment.read t dto db with
  | error e => exact Or.inr ⟨rfl, Or.inl rfl⟩
  | ok reading =>
  by_cases settled : reading.transaction.status = .successful
  · simp [settled]
  by_cases nok : verifyPayment.isNok dto.status = true
  · simp only [settled, nok, or_true, if_true, if_false]
    refine Or.inr ⟨trivial, ?_⟩
    rcases verifyPayment.cancel_cases reading db with same | ⟨message, written⟩
    · exact Or.inl same
    · exact Or.inr ⟨reading, message, rfl, settled, written⟩
  cases answer : provider.verifyPayment ⟨dto.authority, toDouble reading.transaction.amount⟩ with
  | error e => simp [settled, nok, answer]
  | ok result =>
  cases success : result.isSuccess with
  | true =>
    simp only [settled, nok, answer, success, if_true, if_false]
    refine Or.inl ⟨reading, result, rfl, rfl, ?_⟩
    rcases verifyPayment.conclude_cases env t reading result db with
      same | ⟨-, receipt, done⟩ | ⟨failed, -⟩
    · exact Or.inl same
    · exact Or.inr ⟨receipt, done⟩
    · simp [success] at failed
  | false =>
    simp only [settled, nok, answer, success, if_false]
    refine Or.inr ⟨by simp, ?_⟩
    rcases verifyPayment.conclude_cases env t reading result db with
      same | ⟨succeeded, -⟩ | ⟨-, message, written⟩
    · exact Or.inl same
    · simp [success] at succeeded
    · exact Or.inr ⟨reading, message, rfl, settled, written⟩

theorem recordOfflinePayment_ok {dto : RecordOfflinePaymentDto} {transaction : PaymentTransaction}
    {receipt : FeeReceipt}
    (done : recordOfflinePayment env t r dto db = .ok (db', transaction, receipt)) :
    ∃ inst amount db₁ db₂ db₃, db.installments.find? dto.installmentId = some inst ∧
      inst.status ≠ .paid ∧
      Money.store (Decimal.minus inst.amount inst.paidAmount) = some amount ∧
      transaction = recordOfflinePayment.transaction env t r dto inst db.transactions.fresh amount ∧
      db.write (.createTransaction transaction) = .ok db₁ ∧
      db₁.write (.updateInstallment inst.id
        { paidAmount := inst.amount, status := .paid, paidAt := some env.now }) = .ok db₂ ∧
      debitContract db₂ (some inst.contractId) (Decimal.minus inst.amount inst.paidAmount) =
        .ok db₃ ∧
      receipt.contractId = inst.contractId ∧ receipt.amount = amount ∧
      receipt.transactionId = some transaction.id ∧
      db₃.write (.createReceipt receipt) = .ok db' := by
  simp only [recordOfflinePayment, do_eq_ok, column_eq_ok] at done
  obtain ⟨reading, read, -, open_, amount, stored, db₁, created, db₂, credited, db₃, debited, db₄,
    receipted, rfl, ⟨⟩⟩ := done
  exact ⟨reading.installment, amount, db₁, db₂, db₃, (readInstallment_ok read).1, open_, stored,
    rfl, created, credited, debited, rfl, rfl, rfl, receipted⟩

/-! ### Import -/

namespace confirmPaymentImport

variable {row : ImportFeePaymentRowDto} {s : StudentProfile} {c : StudentFeeContract} {a : ℚ}

theorem resolve_ok {identifier : String} (found : resolve db t identifier = some (s, c)) :
    findStudent db t identifier = some s ∧ findContract db t s.id = some c := by
  simp only [resolve, Option.bind_eq_bind, Option.bind_eq_some_iff, Option.pure_def,
    Option.some.injEq, Prod.mk.injEq] at found
  obtain ⟨student, first, contract, second, rfl, rfl⟩ := found
  exact ⟨first, second⟩

theorem findContract_some {studentId : Id} (found : findContract db t studentId = some c) :
    db.contracts.find? c.id = some c ∧ c.tenantId = t ∧ c.studentId = studentId ∧
      c.status = .active := by
  have holds := List.find?_some found
  simp only [decide_eq_true_eq] at holds
  exact ⟨db.contracts.find?_key (List.mem_of_find?_eq_some found), holds⟩

theorem bookCash_ok (done : bookCash env t r row a s c db = .ok db') :
    ∃ amount db₁ db₂, Money.store a = some amount ∧
      db.write (.createPayment (cashPayment env t r row c db.payments.fresh amount)) = .ok db₁ ∧
      writeBalance db₁ c (finalBalance c.balanceRemaining a) = .ok db₂ ∧
      db₂.write (.createReceipt (cashReceipt env r s
        (cashPayment env t r row c db.payments.fresh amount) db₂.receipts.fresh)) = .ok db' := by
  simp only [bookCash, bind_eq_ok, column_eq_ok] at done
  obtain ⟨amount, stored, db₁, created, db₂, balanced, receipted⟩ := done
  exact ⟨amount, db₁, db₂, stored, created, balanced, receipted⟩

theorem bookCheque_ok (done : bookCheque env t r row a c db = .ok db') :
    ∃ amount, Money.store a = some amount ∧
      db.write (.createPayment (chequePayment env t r row c db.payments.fresh amount)) =
        .ok db' := by
  simpa only [bookCheque, bind_eq_ok, column_eq_ok] using done

/-- A row is skipped, or booked as cash, or booked as a cheque. -/
theorem importRow_ok {n : ℕ} (done : importRow env t r row db = .ok (db', n)) :
    (resolve db t row.identifier = none ∧ db' = db ∧ n = 0) ∨
    ∃ s c a, resolve db t row.identifier = some (s, c) ∧ row.amount.toDecimal = some a ∧ n = 1 ∧
      ((isCash row = true ∧ bookCash env t r row a s c db = .ok db') ∨
        (isCash row = false ∧ bookCheque env t r row a c db = .ok db')) := by
  unfold importRow at done
  split at done
  · rename_i missing
    cases done
    exact Or.inl ⟨missing, rfl, rfl⟩
  · rename_i s c found
    simp only [do_eq_ok] at done
    obtain ⟨a, amount, db₁, booked, ⟨⟩⟩ := done
    refine Or.inr ⟨s, c, a, found, amount, rfl, ?_⟩
    unfold book at booked
    split at booked
    · rename_i cash
      exact Or.inl ⟨cash, booked⟩
    · rename_i cheque
      exact Or.inr ⟨by simpa using cheque, booked⟩

/-- What every row keeps, an import keeps. -/
theorem importRows_keeps {I : Db → Prop} {P : Db → ImportFeePaymentRowDto → Prop}
    (keeps : ∀ env row db db' n, importRow env t r row db = .ok (db', n) → P db row → I db → I db')
    {env : ℕ → Env} {rows : List ImportFeePaymentRowDto} {i n : ℕ}
    (done : importRows env t r i rows db = .ok (db', n))
    (meets : ∀ x ∈ rowStates env t r i rows db, P x.1 x.2) (start : I db) : I db' := by
  induction rows generalizing db i n with
  | nil =>
    cases done
    exact start
  | cons row rows ih =>
    simp only [importRows, do_eq_ok] at done
    obtain ⟨⟨db₁, n₁⟩, first, ⟨db₂, n₂⟩, rest, ⟨⟩⟩ := done
    simp only [rowStates, first, List.mem_cons, forall_eq_or_imp] at meets
    exact ih rest meets.2 (keeps _ row db db₁ n₁ first meets.1 start)

end confirmPaymentImport

theorem confirmPaymentImport_ok {env : ℕ → Env} {rows : List ImportFeePaymentRowDto}
    {reply : ConfirmReply} (done : confirmPaymentImport env t r rows db = .ok (db', reply)) :
    confirmPaymentImport.importRows env t r 0 rows db = .ok (db', reply.registeredCount) := by
  simp only [confirmPaymentImport, do_eq_ok] at done
  obtain ⟨-, -, ⟨db₁, n⟩, imported, ⟨⟩⟩ := done
  exact imported

end Rokad.Finance
