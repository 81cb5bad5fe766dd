import Rokad.Common.Http
import Rokad.Finance.Money

/-!
# The finance tables

The rows of the finance module with the columns its services read or write, the unique
constraints of their tables as `Record` instances, and the database: six tables whose
foreign keys hold. A `Db` with a dangling reference cannot be built.
-/

namespace Rokad.Finance

open Rokad.Base

export Rokad.Common (Id DatabaseProblem Failure Result insertRow insertRow_eq_ok updateRow
  updateRow_eq_ok referred referred_eq_ok)

/-- Milliseconds since the epoch. -/
abbrev Instant := ℤ

/-! ### Enumerations -/

inductive PaymentStatus where
  | pending | processing | successful | failed | cancelled | refunded
deriving DecidableEq

inductive PaymentMethod where
  | onlineGateway | posReceipt | bankTransfer | cheque | cash
deriving DecidableEq

inductive PaymentGateway where
  | zarinpal | manualOffline | mockSandbox

inductive FeeContractStatus where
  | active | completed | defaulted | cancelled
deriving DecidableEq

inductive InstallmentStatus where
  | unpaid | partiallyPaid | paid | overdue
deriving DecidableEq

inductive CheckStatus where
  | pending | cashed | bounced | replaced
deriving DecidableEq

/-! ### Rows -/

structure User where
  id : Id
  (firstName lastName : String)
  (nationalId phone : Option String := none)
deriving DecidableEq

/-- A student's profile with the user it belongs to. -/
structure StudentProfile where
  (id tenantId : Id)
  user : User
  studentCode : String
  nationalCode : Option String := none
deriving DecidableEq

structure StudentFeeContract where
  (id tenantId academicYearId studentId : Id)
  contractNumber : String
  (totalAmount discountAmount finalPayableAmount balanceRemaining : Money)
  discountReason : Option String := none
  status : FeeContractStatus := .active
  notes : Option String := none
  feePlanId : Option Id := none
  (isIndividual hasFinancialHold : Bool := false)
  financialHoldReason : Option String := none
deriving DecidableEq

structure FeeInstallment where
  (id tenantId contractId : Id)
  installmentNumber : ℤ
  title : String
  dueDate : Instant
  amount : Money
  paidAmount : Money := 0
  status : InstallmentStatus := .unpaid
  paidAt : Option Instant := none
deriving DecidableEq

structure PaymentTransaction where
  (id tenantId : Id)
  (contractId installmentId : Option Id)
  payerUserId : Id
  gateway : PaymentGateway := .zarinpal
  method : PaymentMethod := .onlineGateway
  amount : Money
  status : PaymentStatus := .pending
  (authority refId : Option String := none)
  trackingCode : String
  (cardPan errorMessage : Option String := none)
  verifiedAt : Option Instant := none

structure FeePayment where
  (id tenantId feeContractId : Id)
  installmentId : Option Id := none
  method : PaymentMethod := .cash
  amount : Money
  recordedById : Id
  note : Option String := none
  cashReceivedAt : Option Instant := none
  (checkNumber checkSayadId bankName branchName checkOwnerName : Option String := none)
  checkDueDate : Option Instant := none
  -- The column's default, which a cash payment gets as well.
  checkStatus : Option CheckStatus := some .pending
  checkStatusChangedAt : Option Instant := none
  (checkStatusChangedById replacedByPaymentId : Option Id := none)
deriving DecidableEq

structure FeeReceipt where
  (id tenantId : Id)
  (transactionId paymentId : Option Id := none)
  contractId : Id
  receiptNumber : String
  amount : Money
  payerName : String
  paymentMethod : PaymentMethod := .onlineGateway
  issuedById : Option Id := none
deriving DecidableEq

/-! ### Unique constraints -/

/-- A nullable unique column: two nulls do not clash. -/
def sameKey : Option Id → Option Id → Bool
  | some a, some b => a == b
  | _, _ => false

theorem sameKey_comm (a b : Option Id) : sameKey a b = sameKey b a := by
  cases a <;> cases b <;> simp [sameKey, Bool.beq_comm]

instance : Record StudentProfile where
  key s := s.id
  clash a b := a.user.id == b.user.id

instance : Record StudentFeeContract where
  key c := c.id
  clash a b := a.tenantId == b.tenantId &&
    (a.contractNumber == b.contractNumber ||
      (a.academicYearId == b.academicYearId && a.studentId == b.studentId))

instance : Record FeeInstallment where
  key i := i.id
  clash a b := a.contractId == b.contractId && a.installmentNumber == b.installmentNumber

instance : Record PaymentTransaction where
  key t := t.id
  clash a b := a.tenantId == b.tenantId && a.trackingCode == b.trackingCode

instance : Record FeePayment where
  key p := p.id
  clash a b := sameKey a.replacedByPaymentId b.replacedByPaymentId
  clash_comm _ _ := sameKey_comm _ _

instance : Record FeeReceipt where
  key r := r.id
  clash a b := sameKey a.transactionId b.transactionId || sameKey a.paymentId b.paymentId ||
    (a.tenantId == b.tenantId && a.receiptNumber == b.receiptNumber)
  clash_comm a b := by
    rw [sameKey_comm a.transactionId, sameKey_comm a.paymentId]
    simp only [Bool.beq_comm]

/-! ### The database -/

structure Tables where
  students : Table StudentProfile := .empty
  contracts : Table StudentFeeContract := .empty
  installments : Table FeeInstallment := .empty
  transactions : Table PaymentTransaction := .empty
  payments : Table FeePayment := .empty
  receipts : Table FeeReceipt := .empty

structure ForeignKeys (t : Tables) : Prop where
  contract_student : Table.References (fun c => some c.studentId) t.contracts t.students
  installment_contract : Table.References (fun i => some i.contractId) t.installments t.contracts
  transaction_contract : Table.References (·.contractId) t.transactions t.contracts
  transaction_installment : Table.References (·.installmentId) t.transactions t.installments
  payment_contract : Table.References (fun p => some p.feeContractId) t.payments t.contracts
  payment_installment : Table.References (·.installmentId) t.payments t.installments
  payment_replacement : Table.References (·.replacedByPaymentId) t.payments t.payments
  receipt_contract : Table.References (fun r => some r.contractId) t.receipts t.contracts
  receipt_transaction : Table.References (·.transactionId) t.receipts t.transactions
  receipt_payment : Table.References (·.paymentId) t.receipts t.payments

/-- A database: tables whose foreign keys hold. -/
structure Db extends Tables where
  foreignKeys : ForeignKeys toTables

@[ext] theorem Db.ext {a b : Db} (same : a.toTables = b.toTables) : a = b := by
  cases a; cases b; cases same; rfl

end Rokad.Finance
