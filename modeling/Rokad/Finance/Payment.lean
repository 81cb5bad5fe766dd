import Rokad.Finance.FeePayment

/-!
# Online and offline payments

`PaymentService`. An online payment is a transaction row created by
`initiateOnlinePayment` and settled by `verifyPayment` when the gateway calls back. The
atomic pieces of `verifyPayment` (the look-ups, the write of a failure, the settlement)
are definitions of their own: the call by itself strings them together, and a machine
that interleaves many calls takes them one at a time.

The gateway is a parameter: what it answers to a request.
-/

namespace Rokad.Finance

open Rokad.Base

/-! ### Requests and the gateway -/

structure InitiateOnlinePaymentDto where
  installmentId : Id
  callbackUrl : Option String := none
  gateway : Option PaymentGateway := none

structure VerifyPaymentDto where
  authority : String
  status : Option String := none

structure RecordOfflinePaymentDto where
  installmentId : Id
  method : PaymentMethod
  referenceNumber : String
  notes : Option String := none
  referenceNumber_notEmpty : referenceNumber ≠ "" := by decide

structure PaymentRequestOptions where
  tenantId : Id
  amount : Number
  (description callbackUrl : String)
  mobile : Option String

structure PaymentRequestResult where
  (authority paymentUrl : String)

structure PaymentVerifyOptions where
  authority : String
  amount : Number

structure PaymentVerifyResult where
  isSuccess : Bool
  (refId cardPan message : Option String := none)

/-- The payment provider: its answer to each request, or the exception it throws. -/
structure PaymentGatewayProvider where
  requestPayment : PaymentRequestOptions → Result PaymentRequestResult
  verifyPayment : PaymentVerifyOptions → Result PaymentVerifyResult

/-! ### Initiating an online payment -/

/-- An installment with its contract and the student. -/
structure InstallmentReading where
  installment : FeeInstallment
  contract : StudentFeeContract
  student : StudentProfile

def readInstallment (tenantId installmentId : Id) (missing : String) (db : Db) :
    Result InstallmentReading := do
  let installment ← orFail ((db.installments.find? installmentId).filter (·.tenantId = tenantId))
    (.notFound missing)
  let contract ← orFail (db.contracts.find? installment.contractId) (.database .requiredRelation)
  let student ← orFail (db.students.find? contract.studentId) (.database .requiredRelation)
  return ⟨installment, contract, student⟩

structure InitiateReply where
  (trackingCode authority paymentUrl : String)
  amount : ℚ

namespace initiateOnlinePayment

def transaction (env : Env) (tenantId payerUserId : Id) (dto : InitiateOnlinePaymentDto)
    (installment : FeeInstallment) (id : Id) (amount : Money) : PaymentTransaction :=
  { id
    tenantId
    contractId := some installment.contractId
    installmentId := some installment.id
    payerUserId
    gateway := dto.gateway.getD .zarinpal
    method := .onlineGateway
    amount
    status := .pending
    trackingCode := env.trackingCode "TRK-" }

/-- The checks, and the transaction row in `PENDING` state. -/
def create (env : Env) (tenantId payerUserId : Id) (dto : InitiateOnlinePaymentDto) (db : Db) :
    Result (Db × PaymentTransaction × InstallmentReading) := do
  let reading ← readInstallment tenantId dto.installmentId "قسط شهریه مورد نظر یافت نشد" db
  let installment := reading.installment
  require (installment.status ≠ .paid) (.badRequest "این قسط قبلاً به طور کامل تسویه شده است")
  let remainingAmount := Decimal.minus installment.amount installment.paidAmount
  require (¬ remainingAmount ≤ 0) (.badRequest "مبلغ مانده این قسط صفر است")
  let amount ← column remainingAmount
  let transaction := transaction env tenantId payerUserId dto installment db.transactions.fresh
    amount
  let db ← db.write (.createTransaction transaction)
  return (db, transaction, reading)

end initiateOnlinePayment

/-- The transaction row stays, without an authority, when the gateway refuses. -/
def initiateOnlinePayment (env : Env) (provider : PaymentGatewayProvider)
    (tenantId payerUserId : Id) (dto : InitiateOnlinePaymentDto) (db : Db) :
    Db × Result InitiateReply :=
  match initiateOnlinePayment.create env tenantId payerUserId dto db with
  | .error e => (db, .error e)
  | .ok (db, transaction, reading) =>
    let remainingAmount :=
      Decimal.minus reading.installment.amount reading.installment.paidAmount
    let answer := provider.requestPayment
      { tenantId
        amount := toDouble remainingAmount
        description := "پرداخت " ++ reading.installment.title ++ " - دانش‌آموز " ++
          reading.student.user.firstName ++ " " ++ reading.student.user.lastName
        callbackUrl := (truthy dto.callbackUrl).getD
          ("http://localhost:4000/api/v1/finance/payments/verify?tenantId=" ++ toString tenantId)
        mobile := truthy reading.student.user.phone }
    match answer with
    | .error e => (db, .error e)
    | .ok result =>
      match db.write (.updateTransaction transaction.id
          { authority := some result.authority }) with
      | .error e => (db, .error e)
      | .ok db =>
        (db, .ok ⟨transaction.trackingCode, result.authority, result.paymentUrl, remainingAmount⟩)

/-! ### Verifying an online payment -/

structure VerifyReading where
  transaction : PaymentTransaction
  student : Option StudentProfile

structure VerifyReply where
  success : Bool := true
  message : String
  receipt : Option FeeReceipt
  transaction : Option PaymentTransaction := none
  (refId cardPan : Option String := none)

/-- The answer to the lock's `SET … NX`, or no client at all. -/
inductive LockAnswer where
  | noClient | acquired | refused
deriving DecidableEq

namespace verifyPayment

def findTransaction (tenantId : Id) (authority : String) (db : Db) : Option PaymentTransaction :=
  db.transactions.rows.find? fun t => t.authority = some authority ∧ t.tenantId = tenantId

def receiptOf (db : Db) (transactionId : Id) : Option FeeReceipt :=
  db.receipts.rows.find? (·.transactionId = some transactionId)

/-- The look-up of a call that was refused the lock: it answers only for a settled
transaction, and otherwise goes on. -/
def existing (tenantId : Id) (dto : VerifyPaymentDto) (db : Db) : Option VerifyReply :=
  match findTransaction tenantId dto.authority db with
  | some existingTx =>
    if existingTx.status = .successful then
      some { message := "تراکنش قبلاً با موفقیت تایید شده است"
             receipt := receiptOf db existingTx.id }
    else none
  | none => none

def read (tenantId : Id) (dto : VerifyPaymentDto) (db : Db) : Result VerifyReading := do
  let transaction ← orFail (findTransaction tenantId dto.authority db)
    (.notFound "تراکنش مالی با این شناسه مرجع یافت نشد")
  let contract := transaction.contractId.bind db.contracts.find?
  return ⟨transaction, contract.bind fun c => db.students.find? c.studentId⟩

/-- The reply for a transaction that was read as settled. -/
def alreadyVerified (reading : VerifyReading) (db : Db) : VerifyReply :=
  { message := "تراکنش قبلاً تایید شده است"
    receipt := receiptOf db reading.transaction.id
    transaction := some reading.transaction }

/-- `status && status.toUpperCase() === 'NOK'`; upper case as far as ASCII words go. -/
def isNok (status : Option String) : Bool :=
  match status with
  | some s => s.map Char.toUpper == "NOK"
  | none => false

def markFailed (transactionId : Id) (errorMessage : String) (db : Db) : Result Db :=
  db.write (.updateTransaction transactionId
    { status := some .failed, errorMessage := some errorMessage })

def receipt (env : Env) (tenantId : Id) (reading : VerifyReading) (contractId id : Id) :
    FeeReceipt :=
  { id
    tenantId
    transactionId := some reading.transaction.id
    contractId
    receiptNumber := env.receiptNumber "REC-"
    amount := reading.transaction.amount
    payerName := payerName reading.student "پرداخت‌کننده محترم"
    paymentMethod := .onlineGateway }

/-- The settlement: transaction, installment, contract and receipt at once. -/
def settle (env : Env) (tenantId : Id) (reading : VerifyReading) (result : PaymentVerifyResult)
    (db : Db) : Result (Db × FeeReceipt) := do
  let transaction := reading.transaction
  let db ← db.write (.updateTransaction transaction.id
    { status := some .successful
      refId := result.refId
      cardPan := result.cardPan
      verifiedAt := some env.now })
  let db ← creditInstallment db (transaction.installmentId.bind db.installments.find?)
    transaction.amount env.now
  let db ← debitContract db transaction.contractId transaction.amount
  let contractId ← orFail transaction.contractId (.database .requiredRelation)
  let receipt := receipt env tenantId reading contractId db.receipts.fresh
  let db ← db.write (.createReceipt receipt)
  return (db, receipt)

def settled (result : PaymentVerifyResult) (receipt : FeeReceipt) : VerifyReply :=
  { message := "پرداخت و اعتبارسنجی با موفقیت انجام شد و رسید صادر گردید"
    receipt := some receipt
    refId := result.refId
    cardPan := result.cardPan }

/-- A write that ends the call with an exception in any case. -/
def failing (db : Db) (write : Result Db) (thrown : Failure) :
    Db × Result VerifyReply :=
  match write with
  | .ok db' => (db', .error thrown)
  | .error e => (db, .error e)

/-- The payer cancelled at the gateway. -/
def cancel (reading : VerifyReading) (db : Db) : Db × Result VerifyReply :=
  failing db
    (markFailed reading.transaction.id "تراکنش توسط کاربر در درگاه پرداخت لغو گردید" db)
    (.badRequest "پرداخت توسط کاربر لغو گردید")

/-- From the gateway's answer to the end of the call. -/
def conclude (env : Env) (tenantId : Id) (reading : VerifyReading) (result : PaymentVerifyResult)
    (db : Db) : Db × Result VerifyReply :=
  if result.isSuccess then
    match settle env tenantId reading result db with
    | .ok (db', receipt) => (db', .ok (settled result receipt))
    | .error e => (db, .error e)
  else
    failing db
      (markFailed reading.transaction.id
        ((truthy result.message).getD "خطا در اعتبارسنجی درگاه") db)
      (.badRequest ((truthy result.message).getD "تایید تراکنش در درگاه پرداخت ناموفق بود"))

/-- The settlement a call gets to, when nothing ends it before. -/
def toSettle (provider : PaymentGatewayProvider) (lock : LockAnswer) (tenantId : Id)
    (dto : VerifyPaymentDto) (db : Db) : Option (VerifyReading × PaymentVerifyResult) :=
  match if lock = .refused then existing tenantId dto db else none, read tenantId dto db with
  | none, .ok reading =>
    if reading.transaction.status = .successful ∨ isNok dto.status then none
    else
      match provider.verifyPayment ⟨dto.authority, toDouble reading.transaction.amount⟩ with
      | .ok result => if result.isSuccess then some (reading, result) else none
      | .error _ => none
  | _, _ => none

end verifyPayment

open verifyPayment in
def verifyPayment (env : Env) (provider : PaymentGatewayProvider) (lock : LockAnswer)
    (tenantId : Id) (dto : VerifyPaymentDto) (db : Db) : Db × Result VerifyReply :=
  match if lock = .refused then existing tenantId dto db else none with
  | some reply => (db, .ok reply)
  | none =>
    match verifyPayment.read tenantId dto db with
    | .error e => (db, .error e)
    | .ok reading =>
      if reading.transaction.status = .successful then
        (db, .ok (alreadyVerified reading db))
      else if isNok dto.status then cancel reading db
      else
        match provider.verifyPayment
            ⟨dto.authority, toDouble reading.transaction.amount⟩ with
        | .error e => (db, .error e)
        | .ok result => conclude env tenantId reading result db

/-! ### Recording an offline payment -/

namespace recordOfflinePayment

def transaction (env : Env) (tenantId recordedById : Id) (dto : RecordOfflinePaymentDto)
    (installment : FeeInstallment) (id : Id) (amount : Money) : PaymentTransaction :=
  { id
    tenantId
    contractId := some installment.contractId
    installmentId := some installment.id
    payerUserId := recordedById
    gateway := .manualOffline
    method := dto.method
    amount
    status := .successful
    refId := some dto.referenceNumber
    trackingCode := env.trackingCode "OFF-"
    verifiedAt := some env.now
    errorMessage := dto.notes }

def receipt (env : Env) (recordedById : Id) (reading : InstallmentReading)
    (transaction : PaymentTransaction) (id : Id) : FeeReceipt :=
  { id
    tenantId := transaction.tenantId
    transactionId := some transaction.id
    contractId := reading.installment.contractId
    receiptNumber := env.receiptNumber "REC-OFF-"
    amount := transaction.amount
    payerName := payerName (some reading.student) ""
    paymentMethod := transaction.method
    issuedById := some recordedById }

end recordOfflinePayment

open recordOfflinePayment in
def recordOfflinePayment (env : Env) (tenantId recordedById : Id) (dto : RecordOfflinePaymentDto)
    (db : Db) : Result (Db × PaymentTransaction × FeeReceipt) := do
  let reading ← readInstallment tenantId dto.installmentId "قسط مورد نظر یافت نشد" db
  let installment := reading.installment
  require (installment.status ≠ .paid) (.badRequest "این قسط قبلاً تسویه شده است")
  let remainingAmount := Decimal.minus installment.amount installment.paidAmount
  let amount ← column remainingAmount
  let transaction := transaction env tenantId recordedById dto installment db.transactions.fresh
    amount
  let db ← db.write (.createTransaction transaction)
  let db ← db.write (.updateInstallment installment.id
    { paidAmount := installment.amount, status := .paid, paidAt := some env.now })
  let db ← debitContract db (some installment.contractId) remainingAmount
  let receipt := receipt env recordedById reading transaction db.receipts.fresh
  let db ← db.write (.createReceipt receipt)
  return (db, transaction, receipt)

end Rokad.Finance
