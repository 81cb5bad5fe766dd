import Rokad.Finance.Calls

/-!
# Which statements a call executes

Every call is some number of statements, and which ones it may execute depends on its
kind alone: recording a payment, changing the status of a cheque, or settling a
transaction. `exec_executes` says so for all calls; an invariant that each admitted
statement keeps is then kept by the call, whatever the call computes.
-/

namespace Rokad.Finance

open Rokad.Base

/-! ### Admitted statements -/

/-- A new payment is pending, and it is for a positive amount when it is for an installment. -/
def FeePayment.Fresh (p : FeePayment) : Prop :=
  p.checkStatus = some .pending ∧ (p.installmentId ≠ none → 0 < (p.amount : ℚ))

/-- A payment that is recorded is of the tenant of its contract. -/
def FeePayment.New (db : Db) (p : FeePayment) : Prop :=
  p.Fresh ∧ ∃ c, db.contracts.find? p.feeContractId = some c ∧ c.tenantId = p.tenantId

/-- A payment that replaces a cheque takes its contract and tenant from the cheque. -/
def FeePayment.Replaces (cheque : Id) (db : Db) (p : FeePayment) : Prop :=
  p.Fresh ∧ ∃ c, db.payments.find? cheque = some c ∧ p.feeContractId = c.feeContractId ∧
    p.tenantId = c.tenantId

/-- A transaction asks for what is left of an installment that is not paid. -/
def PaymentTransaction.Asks (db : Db) (x : PaymentTransaction) : Prop :=
  ∃ i, db.installments.find? i.id = some i ∧ x.installmentId = some i.id ∧ i.status ≠ .paid ∧
    (x.amount : ℚ) = i.amount - i.paidAmount

def ContractUpdate.KeepsHold (data : ContractUpdate) : Prop :=
  data.hasFinancialHold = none ∧ data.financialHoldReason = none

/-- The statements that record a payment. -/
def Statement.Records (db : Db) : Statement → Prop
  | .createPayment row => row.New db
  | .createReceipt row => row.transactionId = none
  | .updateContract _ data => data.KeepsHold
  | .updateInstallment .. => True
  | _ => False

/-- The statements that change the status of a cheque. -/
def Statement.Changes (cheque : Id) (db : Db) : Statement → Prop
  | .createPayment row => row.Replaces cheque db
  | .createReceipt row => row.transactionId = none
  | .updateContract .. | .updateInstallment .. => True
  | .updatePayment id _ => id = cheque
  | _ => False

/-- The statements that fail or settle a transaction. -/
def Statement.Verifies (_ : Db) : Statement → Prop
  | .updateTransaction .. | .updateInstallment .. | .createReceipt _ => True
  | .updateContract _ data => data.KeepsHold
  | _ => False

/-- The statements that open, fail or settle a transaction, of a call that starts in `start`. -/
def Statement.Settles (start db : Db) : Statement → Prop
  | .createTransaction row => row.Asks start
  | s => s.Verifies db

theorem Statement.Verifies.settles {start db : Db} {s : Statement} (verifies : s.Verifies db) :
    s.Settles start db := by
  cases s with
  | createTransaction row => exact verifies.elim
  | _ => exact verifies

/-- The statements of a call that starts in `start`. -/
def Call.Admits (start : Db) : Call → Db → Statement → Prop
  | .recordCashPayment .. | .recordChequePayment .. | .confirmPaymentImport .. =>
    Statement.Records
  | .updateChequeStatus _ _ cheque _ _ => Statement.Changes cheque
  | .initiateOnlinePayment .. | .verifyPayment .. | .recordOfflinePayment .. =>
    Statement.Settles start

abbrev Executes (P : Db → Statement → Prop) : Db → Db → Prop := Steps Db.write P

/-- Statements of calls: all but the two that set up a contract. -/
def Statement.ofCall : Statement → Prop
  | .createContract _ | .createInstallment _ => False
  | _ => True

theorem Statement.Verifies.ofCall {db : Db} {s : Statement} (verifies : s.Verifies db) :
    s.ofCall := by
  cases s with
  | createContract row => exact verifies
  | createInstallment row => exact verifies
  | _ => trivial

theorem Call.Admits.ofCall {call : Call} {start db : Db} {s : Statement}
    (admitted : call.Admits start db s) : s.ofCall := by
  cases s with
  | createContract row => cases call <;> exact admitted
  | createInstallment row => cases call <;> exact admitted
  | _ => trivial

theorem Call.Admits.fresh {call : Call} {start db : Db} {row : FeePayment}
    (admitted : call.Admits start db (.createPayment row)) : row.Fresh := by
  cases call with
  | initiateOnlinePayment | verifyPayment | recordOfflinePayment => exact admitted.elim
  | _ => exact admitted.1

theorem Call.Admits.asks {call : Call} {start db : Db} {row : PaymentTransaction}
    (admitted : call.Admits start db (.createTransaction row)) : row.Asks start := by
  cases call with
  | initiateOnlinePayment | verifyPayment | recordOfflinePayment => exact admitted
  | _ => exact admitted.elim

/-! ### The steps the calls share -/

section

variable {db db' : Db} {env : Env} {t r : Id} {P : Db → Statement → Prop}

theorem creditInstallment_executes {found : Option FeeInstallment} {a : ℚ} {now : Instant}
    (done : creditInstallment db found a now = .ok db')
    (credits : ∀ d id data, P d (.updateInstallment id data)) : Executes P db db' := by
  rcases creditInstallment_ok done with ⟨-, rfl⟩ | ⟨inst, paid, -, -, written⟩
  · exact .refl _
  · exact .one written (credits _ _ _)

theorem writeBalance_executes {c : StudentFeeContract} {balance : ℚ} {data : ContractUpdate}
    (done : writeBalance db c balance data = .ok db')
    (updates : ∀ d b s, P d (.updateContract c.id { data with balanceRemaining := b, status := s })) :
    Executes P db db' := by
  obtain ⟨m, -, written⟩ := writeBalance_ok done
  exact .one written (updates _ _ _)

theorem debitContract_executes {contractId : Option Id} {a : ℚ}
    (done : debitContract db contractId a = .ok db') : Executes Statement.Verifies db db' := by
  rcases debitContract_ok done with ⟨-, rfl⟩ | ⟨c, -, balanced⟩
  · exact .refl _
  · exact writeBalance_executes balanced fun _ _ _ => ⟨rfl, rfl⟩

/-- The amounts of requests are positive once they are stored. -/
theorem pos_of_stored {a : ℚ} {m : Money} (stored : Money.store a = some m)
    (amount_min : 1000 ≤ a) : 0 < (m : ℚ) := by
  rw [Money.store_spec stored]
  exact columnValue_pos (by linarith)

/-- A row that a look-up found is found by its own key. -/
theorem find?_self {α : Type} [Record α] {table : Table α} {k : Id} {row : α}
    (found : table.find? k = some row) : table.find? (Record.key row) = some row :=
  table.find?_key (mem_of_find? found)

end

/-! ### The calls -/

section

variable {db db' : Db} {env : Env} {t r : Id}

theorem recordCashPayment_executes {dto : RecordCashPaymentDto} {reply : CashReply}
    (done : recordCashPayment env t r dto db = .ok (db', reply)) :
    Executes Statement.Records db db' := by
  obtain ⟨c, amount, db₁, db₂, db₃, found, tenant, -, stored, created, credited, balanced, receipted,
    -, -, receipt⟩ := recordCashPayment_ok done
  have new : Executes Statement.Records db db₁ :=
    .one created ⟨⟨rfl, fun _ => pos_of_stored stored dto.amount_min⟩, c, find?_self found, tenant⟩
  have credit : Executes Statement.Records db₁ db₂ :=
    creditInstallment_executes credited fun _ _ _ => trivial
  have balance : Executes Statement.Records db₂ db₃ :=
    writeBalance_executes balanced fun _ _ _ => ⟨rfl, rfl⟩
  exact new.trans (credit.trans (balance.trans (.one receipted receipt)))

theorem recordChequePayment_executes {dto : RecordChequePaymentDto} {payment : FeePayment}
    (done : recordChequePayment t r dto db = .ok (db', payment)) :
    Executes Statement.Records db db' := by
  obtain ⟨c, amount, found, tenant, -, stored, rfl, created⟩ := recordChequePayment_ok done
  exact .one created
    ⟨⟨rfl, fun _ => pos_of_stored stored dto.amount_min⟩, c, find?_self found, tenant⟩

namespace updateChequeStatus

variable {dto : UpdateChequeStatusDto} {reading : ChequeReading} {id : Option Id}

theorem cashCheque_executes (done : cashCheque env t r reading db = .ok db') :
    Executes (Statement.Changes reading.cheque.id) db db' := by
  obtain ⟨db₁, db₂, balanced, credited, receipted⟩ := cashCheque_ok done
  have balance : Executes (Statement.Changes reading.cheque.id) db db₁ :=
    writeBalance_executes balanced fun _ _ _ => trivial
  have credit : Executes (Statement.Changes reading.cheque.id) db₁ db₂ :=
    creditInstallment_executes credited fun _ _ _ => trivial
  exact balance.trans (credit.trans (.one receipted rfl))

theorem replacement_executes (done : replacement env t r dto reading db = .ok (db', id))
    (cheque : db.payments.find? reading.cheque.id = some reading.cheque)
    (contract : reading.contract.id = reading.cheque.feeContractId)
    (tenant : reading.cheque.tenantId = t) :
    Executes (Statement.Changes reading.cheque.id) db db' := by
  unfold replacement at done
  split at done
  · rename_i replacement _
    obtain ⟨amount, stored, -, created⟩ := replaceByCheque_ok done
    exact .one created ⟨⟨rfl, fun _ => pos_of_stored stored replacement.amount_min⟩, _, cheque,
      contract, tenant.symm⟩
  · rename_i replacement _ _
    obtain ⟨amount, db₁, db₂, stored, -, created, balanced, receipted⟩ := replaceByCash_ok done
    have new : Executes (Statement.Changes reading.cheque.id) db db₁ :=
      .one created ⟨⟨rfl, fun _ => pos_of_stored stored replacement.amount_min⟩, _, cheque,
        contract, tenant.symm⟩
    have balance : Executes (Statement.Changes reading.cheque.id) db₁ db₂ :=
      writeBalance_executes balanced fun _ _ _ => trivial
    exact new.trans (balance.trans (.one receipted rfl))
  · cases done
    exact .refl _

theorem releaseHold_executes (done : releaseHold t reading db = .ok db') :
    Executes (Statement.Changes reading.cheque.id) db db' := by
  rcases releaseHold_ok done with ⟨-, rfl⟩ | ⟨-, written⟩
  · exact .refl _
  · exact .one written trivial

theorem applyStatus_executes (done : applyStatus env t r dto reading db = .ok (db', id))
    (cheque : db.payments.find? reading.cheque.id = some reading.cheque)
    (contract : reading.contract.id = reading.cheque.feeContractId)
    (tenant : reading.cheque.tenantId = t) :
    Executes (Statement.Changes reading.cheque.id) db db' := by
  rcases applyStatus_ok done with ⟨-, -, -, cashed⟩ | ⟨-, -, bounced⟩ |
    ⟨-, db₁, replaced, released⟩ | ⟨-, -, -, rfl⟩ | ⟨-, -, rfl⟩
  · exact cashCheque_executes cashed
  · exact .one bounced trivial
  · exact (replacement_executes replaced cheque contract tenant).trans
      (releaseHold_executes released)
  · exact .refl _
  · exact .refl _

end updateChequeStatus

theorem updateChequeStatus_executes {p : Id} {dto : UpdateChequeStatusDto} {updated : FeePayment}
    (done : updateChequeStatus env t p r dto db = .ok (db', updated)) :
    Executes (Statement.Changes p) db db' := by
  obtain ⟨reading, read, ran⟩ := updateChequeStatus_ok done
  obtain ⟨found, tenant, contract, -, -⟩ := updateChequeStatus.read_ok read
  obtain ⟨db₁, id, applied, updated⟩ := updateChequeStatus.transaction_ok ran
  have same : reading.cheque.id = p := key_of_find? found
  have applies : Executes (Statement.Changes reading.cheque.id) db db₁ :=
    updateChequeStatus.applyStatus_executes applied (same ▸ found) (key_of_find? contract)
      tenant
  rw [same] at applies updated
  exact applies.trans (.one updated rfl)

theorem initiateOnlinePayment_executes (provider : PaymentGatewayProvider)
    (dto : InitiateOnlinePaymentDto) :
    Executes (Statement.Settles db) db (initiateOnlinePayment env provider t r dto db).1 := by
  rcases initiateOnlinePayment_cases env provider t r dto db with
    same | ⟨db₁, transaction, reading, created, outcome⟩
  · rw [same]
    exact .refl _
  · obtain ⟨amount, found, open_, -, stored, rfl, written⟩ :=
      initiateOnlinePayment.create_ok created
    have opens : Executes (Statement.Settles db) db db₁ :=
      .one written ⟨_, find?_self found, rfl, open_, store_minus_coe stored⟩
    rcases outcome with same | ⟨authority, updated⟩
    · rwa [same]
    · exact opens.trans (.one updated trivial)

theorem verifyPayment.settle_executes {reading : VerifyReading} {result : PaymentVerifyResult}
    {receipt : FeeReceipt} (done : settle env t reading result db = .ok (db', receipt)) :
    Executes Statement.Verifies db db' := by
  obtain ⟨k, db₁, db₂, db₃, -, marked, credited, debited, -, receipted⟩ := settle_ok done
  have mark : Executes Statement.Verifies db db₁ := .one marked trivial
  have credit : Executes Statement.Verifies db₁ db₂ :=
    creditInstallment_executes credited fun _ _ _ => trivial
  exact mark.trans (credit.trans ((debitContract_executes debited).trans (.one receipted trivial)))

theorem verifyPayment_executes (provider : PaymentGatewayProvider) (lock : LockAnswer)
    (dto : VerifyPaymentDto) :
    Executes Statement.Verifies db (verifyPayment env provider lock t dto db).1 := by
  rcases verifyPayment_cases env provider lock t dto db with
    ⟨reading, result, -, -, same | ⟨receipt, done⟩⟩ | ⟨-, same | ⟨reading, message, -, -, written⟩⟩
  · rw [same]
    exact .refl _
  · exact verifyPayment.settle_executes done
  · rw [same]
    exact .refl _
  · exact .one written trivial

theorem recordOfflinePayment_executes {dto : RecordOfflinePaymentDto}
    {transaction : PaymentTransaction} {receipt : FeeReceipt}
    (done : recordOfflinePayment env t r dto db = .ok (db', transaction, receipt)) :
    Executes (Statement.Settles db) db db' := by
  obtain ⟨inst, amount, db₁, db₂, db₃, found, open_, stored, rfl, created, credited, debited, -, -,
    -, receipted⟩ := recordOfflinePayment_ok done
  have opens : Executes (Statement.Settles db) db db₁ :=
    .one created ⟨inst, find?_self found, rfl, open_, store_minus_coe stored⟩
  have credit : Executes (Statement.Settles db) db₁ db₂ := .one credited trivial
  have debit : Executes (Statement.Settles db) db₂ db₃ :=
    (debitContract_executes debited).mono fun _ _ => Statement.Verifies.settles
  exact opens.trans (credit.trans (debit.trans (.one receipted trivial)))

theorem importRow_executes {row : ImportFeePaymentRowDto} {n : ℕ}
    (done : confirmPaymentImport.importRow env t r row db = .ok (db', n)) :
    Executes Statement.Records db db' := by
  rcases confirmPaymentImport.importRow_ok done with ⟨-, rfl, -⟩ |
    ⟨s, c, a, found, -, -, booked⟩
  · exact .refl _
  obtain ⟨contract, tenant, -⟩ := confirmPaymentImport.findContract_some
    (confirmPaymentImport.resolve_ok found).2
  rcases booked with ⟨-, booked⟩ | ⟨-, booked⟩
  · obtain ⟨m, db₁, db₂, -, created, balanced, receipted⟩ :=
      confirmPaymentImport.bookCash_ok booked
    have new : Executes Statement.Records db db₁ := .one created ⟨⟨rfl, fun linked => absurd rfl linked⟩, c, contract, tenant⟩
    have balance : Executes Statement.Records db₁ db₂ :=
      writeBalance_executes balanced fun _ _ _ => ⟨rfl, rfl⟩
    exact new.trans (balance.trans (.one receipted rfl))
  · obtain ⟨m, -, created⟩ := confirmPaymentImport.bookCheque_ok booked
    exact .one created ⟨⟨rfl, fun linked => absurd rfl linked⟩, c, contract, tenant⟩

end

theorem executes_of_committed {α : Type} {P : Db → Statement → Prop} {db : Db}
    {outcome : Result (Db × α)}
    (executes : ∀ db' reply, outcome = .ok (db', reply) → Executes P db db') :
    Executes P db (committed db outcome) := by
  cases outcome with
  | error e => exact .refl _
  | ok reply => exact executes reply.1 reply.2 rfl

/-- A call is some number of statements it admits. -/
theorem exec_executes (db : Db) (call : Call) : Executes (call.Admits db) db (exec db call) := by
  cases call with
  | recordCashPayment env t r dto =>
    exact executes_of_committed fun _ _ done => recordCashPayment_executes done
  | recordChequePayment t r dto =>
    exact executes_of_committed fun _ _ done => recordChequePayment_executes done
  | updateChequeStatus env t p r dto =>
    exact executes_of_committed fun _ _ done => updateChequeStatus_executes done
  | initiateOnlinePayment env provider t r dto =>
    exact initiateOnlinePayment_executes provider dto
  | verifyPayment env provider lock t dto =>
    exact (verifyPayment_executes provider lock dto).mono fun _ _ => Statement.Verifies.settles
  | recordOfflinePayment env t r dto =>
    exact executes_of_committed fun _ _ done => recordOfflinePayment_executes done
  | confirmPaymentImport env t r rows =>
    refine executes_of_committed fun _ _ done => ?_
    exact confirmPaymentImport.importRows_keeps (I := Executes Statement.Records db)
      (P := fun _ _ => True)
      (fun _ _ _ _ _ booked _ start => start.trans (importRow_executes booked))
      (confirmPaymentImport_ok done) (fun _ _ => trivial) (.refl db)

end Rokad.Finance
