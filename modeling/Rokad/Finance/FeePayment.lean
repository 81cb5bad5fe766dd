import Rokad.Finance.Contract

/-!
# Cash and cheques

`FeePaymentService`: a cash payment, the recording of a cheque, and the life of a
cheque. `recordCashPayment` and `updateChequeStatus` read the contract first and then
run a transaction that writes a balance computed from that reading, so each is given as
a `read` and a `transaction`; a call by itself is one after the other.
-/

namespace Rokad.Finance

open Rokad.Base

/-! ### What a call draws -/

def leastReceiptDraw : Fin 900 := ⟨0, by decide⟩

def leastTrackingDraw : Fin 9000 := ⟨0, by decide⟩

/-- The clock and the random draws of one call: `Date.now()`, and the three and four
digit suffixes of receipt numbers and tracking codes. -/
structure Env where
  now : ℕ
  receiptDraw : Fin 900 := leastReceiptDraw
  trackingDraw : Fin 9000 := leastTrackingDraw

def Env.receiptNumber (env : Env) (kind : String) : String :=
  kind ++ toString env.now ++ "-" ++ toString (100 + env.receiptDraw.val)

def Env.trackingCode (env : Env) (kind : String) : String :=
  kind ++ toString env.now ++ "-" ++ toString (1000 + env.trackingDraw.val)

def payerName (student : Option StudentProfile) (unknown : String) : String :=
  match student with
  | some s => s.user.firstName ++ " " ++ s.user.lastName
  | none => unknown

/-! ### Requests -/

structure RecordCashPaymentDto where
  contractId : Id
  installmentId : Option Id := none
  amount : ℚ
  cashReceivedAt : Option Instant := none
  note : Option String := none
  amount_min : 1000 ≤ amount := by norm_num

structure RecordChequePaymentDto where
  contractId : Id
  installmentId : Option Id := none
  amount : ℚ
  (checkNumber checkSayadId bankName : String)
  (branchName checkOwnerName : Option String := none)
  checkDueDate : Instant
  note : Option String := none
  amount_min : 1000 ≤ amount := by norm_num
  checkNumber_notEmpty : checkNumber ≠ "" := by decide
  checkSayadId_matches : isDigits 16 checkSayadId = true := by decide
  bankName_notEmpty : bankName ≠ "" := by decide

structure UpdateChequeStatusDto where
  status : CheckStatus
  note : Option String := none
  replacementCheque : Option RecordChequePaymentDto := none
  replacementCash : Option RecordCashPaymentDto := none

/-! ### Steps the services share -/

/-- Adds the amount to an installment that was found; with none there is nothing to do. -/
def creditInstallment (db : Db) (found : Option FeeInstallment) (amount : ℚ) (now : Instant) :
    Result Db :=
  match found with
  | none => .ok db
  | some inst => do
      let newPaid := Decimal.add inst.paidAmount amount
      let newStatus := if inst.amount ≤ newPaid then InstallmentStatus.paid else .partiallyPaid
      let paidAmount ← column newPaid
      db.write (.updateInstallment inst.id
        { paidAmount
          status := newStatus
          paidAt := if newStatus = .paid then some now else inst.paidAt })

/-- Writes a new balance, completing the contract when it is zero. -/
def writeBalance (db : Db) (contract : StudentFeeContract) (balance : ℚ)
    (data : ContractUpdate := {}) : Result Db := do
  let balanceRemaining ← column balance
  db.write (.updateContract contract.id
    { data with
      balanceRemaining := some balanceRemaining
      status := some (if balance = 0 then .completed else contract.status) })

/-- Subtracts the amount from the contract's balance as the transaction finds it. -/
def debitContract (db : Db) (contractId : Option Id) (amount : ℚ) : Result Db :=
  match contractId.bind db.contracts.find? with
  | some contract => writeBalance db contract (finalBalance contract.balanceRemaining amount)
  | none => .ok db

/-! ### Cash -/

structure CashReading where
  contract : StudentFeeContract
  student : Option StudentProfile
deriving DecidableEq

structure CashReply where
  payment : FeePayment
  receipt : FeeReceipt
  remainingBalance : ℚ

namespace recordCashPayment

def read (tenantId : Id) (dto : RecordCashPaymentDto) (db : Db) : Result CashReading := do
  let contract ← orFail ((db.contracts.find? dto.contractId).filter (·.tenantId = tenantId))
    (.notFound "قرارداد شهریه مورد نظر یافت نشد")
  require (¬ dto.amount ≤ 0) (.badRequest "مبلغ پرداختی باید بزرگتر از صفر باشد")
  require (¬ (contract.balanceRemaining : ℚ) < dto.amount)
    (.badRequest ("مبلغ پرداختی (" ++ localeFa dto.amount ++
      ") نمی‌تواند بیشتر از مانده بدهی قرارداد (" ++ localeFa contract.balanceRemaining ++ ") باشد"))
  return ⟨contract, db.students.find? contract.studentId⟩

def payment (env : Env) (tenantId recordedById : Id) (dto : RecordCashPaymentDto)
    (contract : StudentFeeContract) (id : Id) (amount : Money) : FeePayment :=
  { id
    tenantId
    feeContractId := contract.id
    installmentId := dto.installmentId
    method := .cash
    amount
    cashReceivedAt := some (dto.cashReceivedAt.getD env.now)
    recordedById
    note := dto.note }

/-- The installment of the contract the payment is credited to, when it names one. -/
def installment (dto : RecordCashPaymentDto) (contract : StudentFeeContract) (db : Db) :
    Option FeeInstallment :=
  (dto.installmentId.bind db.installments.find?).filter (·.contractId = contract.id)

def receipt (env : Env) (recordedById : Id) (reading : CashReading) (payment : FeePayment)
    (id : Id) : FeeReceipt :=
  { id
    tenantId := payment.tenantId
    contractId := reading.contract.id
    paymentId := some payment.id
    receiptNumber := env.receiptNumber "REC-CSH-"
    amount := payment.amount
    payerName := payerName reading.student "پرداخت‌کننده محترم"
    paymentMethod := .cash
    issuedById := some recordedById }

def transaction (env : Env) (tenantId recordedById : Id) (dto : RecordCashPaymentDto)
    (reading : CashReading) (db : Db) : Result (Db × CashReply) := do
  let contract := reading.contract
  let amount ← column dto.amount
  let payment := payment env tenantId recordedById dto contract db.payments.fresh amount
  let db ← db.write (.createPayment payment)
  let db ← creditInstallment db (installment dto contract db) dto.amount env.now
  let newContractBalance := Decimal.minus contract.balanceRemaining dto.amount
  let db ← writeBalance db contract newContractBalance
  let receipt := receipt env recordedById reading payment db.receipts.fresh
  let db ← db.write (.createReceipt receipt)
  return (db, ⟨payment, receipt, newContractBalance⟩)

end recordCashPayment

def recordCashPayment (env : Env) (tenantId recordedById : Id) (dto : RecordCashPaymentDto)
    (db : Db) : Result (Db × CashReply) := do
  let reading ← recordCashPayment.read tenantId dto db
  recordCashPayment.transaction env tenantId recordedById dto reading db

/-! ### Recording a cheque -/

def recordChequePayment.payment (tenantId recordedById : Id) (dto : RecordChequePaymentDto)
    (contract : StudentFeeContract) (id : Id) (amount : Money) : FeePayment :=
  { id
    tenantId
    feeContractId := contract.id
    installmentId := dto.installmentId
    method := .cheque
    amount
    checkNumber := some dto.checkNumber
    checkSayadId := some dto.checkSayadId
    bankName := some dto.bankName
    branchName := dto.branchName
    checkOwnerName := dto.checkOwnerName
    checkDueDate := some dto.checkDueDate
    checkStatus := some .pending
    recordedById
    note := dto.note }

def recordChequePayment (tenantId recordedById : Id) (dto : RecordChequePaymentDto) (db : Db) :
    Result (Db × FeePayment) := do
  let contract ← orFail ((db.contracts.find? dto.contractId).filter (·.tenantId = tenantId))
    (.notFound "قرارداد شهریه مورد نظر یافت نشد")
  require (isDigits 16 dto.checkSayadId = true)
    (.badRequest "کد صیادی باید دقیقاً ۱۶ رقم عددی باشد")
  require (¬ ∃ p ∈ db.payments.rows, p.tenantId = tenantId ∧ p.checkSayadId = some dto.checkSayadId)
    (.conflict ("چک با کد صیادی " ++ dto.checkSayadId ++ " قبلاً در سیستم ثبت شده است"))
  require (¬ dto.amount ≤ 0) (.badRequest "مبلغ چک باید بزرگتر از صفر باشد")
  let amount ← column dto.amount
  let payment := recordChequePayment.payment tenantId recordedById dto contract
    db.payments.fresh amount
  let db ← db.write (.createPayment payment)
  return (db, payment)

/-! ### The life of a cheque -/

structure ChequeReading where
  cheque : FeePayment
  contract : StudentFeeContract
  student : Option StudentProfile
deriving DecidableEq

/-- A null column in a template string. -/
def textOr (value : Option String) (unknown : String) : String := value.getD unknown

/-- Another cheque of the contract is bounced. -/
def otherBounced (db : Db) (tenantId : Id) (contract : StudentFeeContract) (cheque : FeePayment) :
    Bool :=
  db.payments.rows.any fun p => p.tenantId = tenantId ∧ p.feeContractId = contract.id ∧
    p.id ≠ cheque.id ∧ p.checkStatus = some .bounced

namespace updateChequeStatus

def read (tenantId paymentId : Id) (dto : UpdateChequeStatusDto) (db : Db) :
    Result ChequeReading := do
  let cheque ← orFail ((db.payments.find? paymentId).filter (·.tenantId = tenantId))
    (.notFound "برگه چک مورد نظر یافت نشد")
  let contract ← orFail (db.contracts.find? cheque.feeContractId) (.database .requiredRelation)
  require (cheque.method = .cheque) (.badRequest "رکورد مورد نظر از نوع چک نمی‌باشد")
  require (¬ (cheque.checkStatus = some .cashed ∧ dto.status ≠ .cashed))
    (.badRequest "چک وصول‌شده را نمی‌توان به وضعیت دیگری تغییر داد")
  return ⟨cheque, contract, db.students.find? contract.studentId⟩

def cashedReceipt (env : Env) (tenantId changedById : Id) (reading : ChequeReading) (id : Id) :
    FeeReceipt :=
  { id
    tenantId
    contractId := reading.contract.id
    paymentId := some reading.cheque.id
    receiptNumber := env.receiptNumber "REC-CHQ-"
    amount := reading.cheque.amount
    payerName := payerName reading.student "صاحب چک"
    paymentMethod := .cheque
    issuedById := some changedById }

/-- The hold once the cheque is cashed: it stays when another one is bounced. -/
def holdAfterCashing (contract : StudentFeeContract) (bounced : Bool) : ContractUpdate :=
  { hasFinancialHold := some bounced
    financialHoldReason := some (if bounced then contract.financialHoldReason else none) }

/-- Case A: the cheque is cashed, which reduces the debt. -/
def cashCheque (env : Env) (tenantId changedById : Id) (reading : ChequeReading) (db : Db) :
    Result Db := do
  let cheque := reading.cheque
  let contract := reading.contract
  let db ← writeBalance db contract (finalBalance contract.balanceRemaining cheque.amount)
    (holdAfterCashing contract (otherBounced db tenantId contract cheque))
  let db ← creditInstallment db (cheque.installmentId.bind db.installments.find?) cheque.amount
    env.now
  db.write (.createReceipt (cashedReceipt env tenantId changedById reading db.receipts.fresh))

/-- Case B: the cheque is bounced, which puts the contract on hold. -/
def bounceCheque (reading : ChequeReading) (db : Db) : Result Db :=
  let cheque := reading.cheque
  let number := (truthy cheque.checkNumber).getD (textOr cheque.checkSayadId "null")
  db.write (.updateContract reading.contract.id
    { hasFinancialHold := some true
      financialHoldReason := some (some ("برگشت چک صیادی به شماره " ++ number ++ " به مبلغ " ++
        localeFa cheque.amount ++ " تومان عهده بانک " ++ textOr cheque.bankName "")) })

def replacementChequePayment (tenantId changedById : Id) (reading : ChequeReading)
    (replacement : RecordChequePaymentDto) (id : Id) (amount : Money) : FeePayment :=
  { id
    tenantId
    feeContractId := reading.contract.id
    installmentId := replacement.installmentId <|> reading.cheque.installmentId
    method := .cheque
    amount
    checkNumber := some replacement.checkNumber
    checkSayadId := some replacement.checkSayadId
    bankName := some replacement.bankName
    branchName := replacement.branchName
    checkOwnerName := replacement.checkOwnerName
    checkDueDate := some replacement.checkDueDate
    checkStatus := some .pending
    recordedById := changedById
    note := some ("جایگزین چک برگشتی شماره " ++ textOr reading.cheque.checkNumber "null") }

/-- Case C with a replacement cheque. -/
def replaceByCheque (tenantId changedById : Id) (reading : ChequeReading)
    (replacement : RecordChequePaymentDto) (db : Db) : Result (Db × Option Id) := do
  let amount ← column replacement.amount
  let newChq := replacementChequePayment tenantId changedById reading replacement
    db.payments.fresh amount
  let db ← db.write (.createPayment newChq)
  return (db, some newChq.id)

def replacementCashPayment (env : Env) (tenantId changedById : Id) (reading : ChequeReading)
    (replacement : RecordCashPaymentDto) (id : Id) (amount : Money) : FeePayment :=
  { id
    tenantId
    feeContractId := reading.contract.id
    installmentId := replacement.installmentId <|> reading.cheque.installmentId
    method := .cash
    amount
    cashReceivedAt := some (replacement.cashReceivedAt.getD env.now)
    recordedById := changedById
    note := some ("تسویه نقدی جایگزین چک شماره " ++ textOr reading.cheque.checkNumber "null") }

def replacementCashReceipt (env : Env) (changedById : Id) (reading : ChequeReading)
    (newCash : FeePayment) (id : Id) : FeeReceipt :=
  { id
    tenantId := newCash.tenantId
    contractId := reading.contract.id
    paymentId := some newCash.id
    receiptNumber := env.receiptNumber "REC-CSH-REP-"
    amount := newCash.amount
    payerName := payerName reading.student "ولی دانش‌آموز"
    paymentMethod := .cash
    issuedById := some changedById }

/-- Case C with replacement cash, which is settled at once. -/
def replaceByCash (env : Env) (tenantId changedById : Id) (reading : ChequeReading)
    (replacement : RecordCashPaymentDto) (db : Db) : Result (Db × Option Id) := do
  let contract := reading.contract
  let cashAmount ← column replacement.amount
  let newCash := replacementCashPayment env tenantId changedById reading replacement
    db.payments.fresh cashAmount
  let db ← db.write (.createPayment newCash)
  let db ← writeBalance db contract (finalBalance contract.balanceRemaining replacement.amount)
  let db ← db.write
    (.createReceipt (replacementCashReceipt env changedById reading newCash db.receipts.fresh))
  return (db, some newCash.id)

/-- Case C: the replacement record, when there is one. -/
def replacement (env : Env) (tenantId changedById : Id) (dto : UpdateChequeStatusDto)
    (reading : ChequeReading) (db : Db) : Result (Db × Option Id) :=
  match dto.replacementCheque, dto.replacementCash with
  | some cheque, _ => replaceByCheque tenantId changedById reading cheque db
  | none, some cash => replaceByCash env tenantId changedById reading cash db
  | none, none => .ok (db, none)

/-- Case C: the hold goes when the cheque was the last bounced one. -/
def releaseHold (tenantId : Id) (reading : ChequeReading) (db : Db) : Result Db :=
  if otherBounced db tenantId reading.contract reading.cheque then .ok db
  else
    db.write (.updateContract reading.contract.id
      { hasFinancialHold := some false, financialHoldReason := some none })

/-- What the new status does besides being set. -/
def applyStatus (env : Env) (tenantId changedById : Id) (dto : UpdateChequeStatusDto)
    (reading : ChequeReading) (db : Db) : Result (Db × Option Id) :=
  if dto.status = .cashed ∧ reading.cheque.checkStatus ≠ some .cashed then do
    let db ← cashCheque env tenantId changedById reading db
    return (db, none)
  else
    match dto.status with
    | .bounced => do
        let db ← bounceCheque reading db
        return (db, none)
    | .replaced => do
        let (db, replacedPaymentId) ← replacement env tenantId changedById dto reading db
        let db ← releaseHold tenantId reading db
        return (db, replacedPaymentId)
    | .pending | .cashed => .ok (db, none)

/-- The note of the cheque with the note of the change appended. -/
def noteAfter (cheque : FeePayment) (note : Option String) : Option String :=
  match truthy note with
  | some added => some (trim (textOr cheque.note "" ++ " | " ++ added))
  | none => cheque.note

def statusUpdate (env : Env) (changedById : Id) (dto : UpdateChequeStatusDto)
    (cheque : FeePayment) (replacedPaymentId : Option Id) : PaymentUpdate :=
  { checkStatus := dto.status
    checkStatusChangedAt := env.now
    checkStatusChangedById := changedById
    note := noteAfter cheque dto.note
    replacedByPaymentId := replacedPaymentId }

def transaction (env : Env) (tenantId changedById : Id) (dto : UpdateChequeStatusDto)
    (reading : ChequeReading) (db : Db) : Result (Db × FeePayment) := do
  let (db, replacedPaymentId) ← applyStatus env tenantId changedById dto reading db
  let db ← db.write (.updatePayment reading.cheque.id
    (statusUpdate env changedById dto reading.cheque replacedPaymentId))
  let updatedCheque ← orFail (db.payments.find? reading.cheque.id) (.database .recordNotFound)
  return (db, updatedCheque)

end updateChequeStatus

def updateChequeStatus (env : Env) (tenantId paymentId changedById : Id)
    (dto : UpdateChequeStatusDto) (db : Db) : Result (Db × FeePayment) := do
  let reading ← updateChequeStatus.read tenantId paymentId dto db
  updateChequeStatus.transaction env tenantId changedById dto reading db

end Rokad.Finance
