import Rokad.Finance.Schema

/-!
# Statements

Every write of the finance services is one `Statement`. `Tables.write` executes it as
PostgreSQL does, refusing a broken foreign key or unique constraint, and `Db.write`
carries the foreign keys along.

What a statement does is read off per table (`write_contracts`, `write_payments` and so
on): the one table it names changes by an insertion or an update of one row, and every
other table is as before.
-/

namespace Rokad.Finance

open Rokad.Base

/-- A decimal on its way into a `Decimal(15, 2)` column. -/
def column (a : ℚ) : Result Money := orFail (Money.store a) (.database .numericOverflow)

@[simp] theorem column_eq_ok {a : ℚ} {m : Money} : column a = .ok m ↔ Money.store a = some m :=
  orFail_eq_ok

/-! ### Statements -/

/-- The columns an update of a contract sets; an absent one keeps its value. -/
structure ContractUpdate where
  balanceRemaining : Option Money := none
  status : Option FeeContractStatus := none
  hasFinancialHold : Option Bool := none
  financialHoldReason : Option (Option String) := none

def ContractUpdate.apply (data : ContractUpdate) (c : StudentFeeContract) : StudentFeeContract :=
  { c with
    balanceRemaining := data.balanceRemaining.getD c.balanceRemaining
    status := data.status.getD c.status
    hasFinancialHold := data.hasFinancialHold.getD c.hasFinancialHold
    financialHoldReason := data.financialHoldReason.getD c.financialHoldReason }

theorem ContractUpdate.key_apply (data : ContractUpdate) (c : StudentFeeContract) :
    Record.key (data.apply c) = Record.key c := rfl

structure InstallmentUpdate where
  paidAmount : Money
  status : InstallmentStatus
  paidAt : Option Instant

def InstallmentUpdate.apply (data : InstallmentUpdate) (i : FeeInstallment) : FeeInstallment :=
  { i with paidAmount := data.paidAmount, status := data.status, paidAt := data.paidAt }

theorem InstallmentUpdate.key_apply (data : InstallmentUpdate) (i : FeeInstallment) :
    Record.key (data.apply i) = Record.key i := rfl

structure TransactionUpdate where
  status : Option PaymentStatus := none
  (authority refId cardPan : Option String := none)
  verifiedAt : Option Instant := none
  errorMessage : Option String := none

def TransactionUpdate.apply (data : TransactionUpdate) (t : PaymentTransaction) :
    PaymentTransaction :=
  { t with
    status := data.status.getD t.status
    authority := data.authority <|> t.authority
    refId := data.refId <|> t.refId
    cardPan := data.cardPan <|> t.cardPan
    verifiedAt := data.verifiedAt <|> t.verifiedAt
    errorMessage := data.errorMessage <|> t.errorMessage }

theorem TransactionUpdate.key_apply (data : TransactionUpdate) (t : PaymentTransaction) :
    Record.key (data.apply t) = Record.key t := rfl

structure PaymentUpdate where
  checkStatus : CheckStatus
  checkStatusChangedAt : Instant
  checkStatusChangedById : Id
  note : Option String
  replacedByPaymentId : Option Id

def PaymentUpdate.apply (data : PaymentUpdate) (p : FeePayment) : FeePayment :=
  { p with
    checkStatus := some data.checkStatus
    checkStatusChangedAt := some data.checkStatusChangedAt
    checkStatusChangedById := some data.checkStatusChangedById
    note := data.note
    replacedByPaymentId := data.replacedByPaymentId }

theorem PaymentUpdate.key_apply (data : PaymentUpdate) (p : FeePayment) :
    Record.key (data.apply p) = Record.key p := rfl

inductive Statement where
  | createContract (row : StudentFeeContract)
  | createInstallment (row : FeeInstallment)
  | createTransaction (row : PaymentTransaction)
  | createPayment (row : FeePayment)
  | createReceipt (row : FeeReceipt)
  | updateContract (id : Id) (data : ContractUpdate)
  | updateInstallment (id : Id) (data : InstallmentUpdate)
  | updateTransaction (id : Id) (data : TransactionUpdate)
  | updatePayment (id : Id) (data : PaymentUpdate)

namespace Tables

def write (t : Tables) : Statement → Result Tables
  | .createContract row => do
      referred t.students (some row.studentId)
      let contracts ← insertRow t.contracts row
      return { t with contracts }
  | .createInstallment row => do
      referred t.contracts (some row.contractId)
      let installments ← insertRow t.installments row
      return { t with installments }
  | .createTransaction row => do
      referred t.contracts row.contractId
      referred t.installments row.installmentId
      let transactions ← insertRow t.transactions row
      return { t with transactions }
  | .createPayment row => do
      referred t.contracts (some row.feeContractId)
      referred t.installments row.installmentId
      referred t.payments row.replacedByPaymentId
      let payments ← insertRow t.payments row
      return { t with payments }
  | .createReceipt row => do
      referred t.contracts (some row.contractId)
      referred t.transactions row.transactionId
      referred t.payments row.paymentId
      let receipts ← insertRow t.receipts row
      return { t with receipts }
  | .updateContract id data => do
      let contracts ← updateRow t.contracts id data.apply data.key_apply
      return { t with contracts }
  | .updateInstallment id data => do
      let installments ← updateRow t.installments id data.apply data.key_apply
      return { t with installments }
  | .updateTransaction id data => do
      let transactions ← updateRow t.transactions id data.apply data.key_apply
      return { t with transactions }
  | .updatePayment id data => do
      referred t.payments data.replacedByPaymentId
      let payments ← updateRow t.payments id data.apply data.key_apply
      return { t with payments }

end Tables

theorem ForeignKeys.write {t t' : Tables} (keys : ForeignKeys t) {s : Statement}
    (done : t.write s = .ok t') : ForeignKeys t' := by
  cases s <;> simp only [Tables.write, do_eq_ok, referred_eq_ok, insertRow_eq_ok, updateRow_eq_ok,
    exists_const] at done
  case createContract row =>
      obtain ⟨student, contracts, inserted, rfl⟩ := done
      exact
        { keys with
          contract_student := keys.contract_student.insert_child inserted student
          installment_contract := keys.installment_contract.insert_parent inserted
          transaction_contract := keys.transaction_contract.insert_parent inserted
          payment_contract := keys.payment_contract.insert_parent inserted
          receipt_contract := keys.receipt_contract.insert_parent inserted }
  case createInstallment row =>
      obtain ⟨contract, installments, inserted, rfl⟩ := done
      exact
        { keys with
          installment_contract := keys.installment_contract.insert_child inserted contract
          transaction_installment := keys.transaction_installment.insert_parent inserted
          payment_installment := keys.payment_installment.insert_parent inserted }
  case createTransaction row =>
      obtain ⟨contract, installment, transactions, inserted, rfl⟩ := done
      exact
        { keys with
          transaction_contract := keys.transaction_contract.insert_child inserted contract
          transaction_installment := keys.transaction_installment.insert_child inserted installment
          receipt_transaction := keys.receipt_transaction.insert_parent inserted }
  case createPayment row =>
      obtain ⟨contract, installment, replacement, payments, inserted, rfl⟩ := done
      exact
        { keys with
          payment_contract := keys.payment_contract.insert_child inserted contract
          payment_installment := keys.payment_installment.insert_child inserted installment
          payment_replacement := (keys.payment_replacement.insert_parent inserted).insert_child
            inserted (Table.has_insert inserted replacement)
          receipt_payment := keys.receipt_payment.insert_parent inserted }
  case createReceipt row =>
      obtain ⟨contract, transaction, payment, receipts, inserted, rfl⟩ := done
      exact
        { keys with
          receipt_contract := keys.receipt_contract.insert_child inserted contract
          receipt_transaction := keys.receipt_transaction.insert_child inserted transaction
          receipt_payment := keys.receipt_payment.insert_child inserted payment }
  case updateContract id data =>
      obtain ⟨contracts, updated, rfl⟩ := done
      exact
        { keys with
          contract_student := keys.contract_student.update_child updated fun _ found => found
          installment_contract := keys.installment_contract.update_parent updated
          transaction_contract := keys.transaction_contract.update_parent updated
          payment_contract := keys.payment_contract.update_parent updated
          receipt_contract := keys.receipt_contract.update_parent updated }
  case updateInstallment id data =>
      obtain ⟨installments, updated, rfl⟩ := done
      exact
        { keys with
          installment_contract :=
            keys.installment_contract.update_child updated fun _ found => found
          transaction_installment := keys.transaction_installment.update_parent updated
          payment_installment := keys.payment_installment.update_parent updated }
  case updateTransaction id data =>
      obtain ⟨transactions, updated, rfl⟩ := done
      exact
        { keys with
          transaction_contract :=
            keys.transaction_contract.update_child updated fun _ found => found
          transaction_installment :=
            keys.transaction_installment.update_child updated fun _ found => found
          receipt_transaction := keys.receipt_transaction.update_parent updated }
  case updatePayment id data =>
      obtain ⟨replacement, payments, updated, rfl⟩ := done
      exact
        { keys with
          payment_contract := keys.payment_contract.update_child updated fun _ found => found
          payment_installment := keys.payment_installment.update_child updated fun _ found => found
          payment_replacement := (keys.payment_replacement.update_parent updated).update_child
            updated fun _ _ => (Table.has_update updated _).trans replacement
          receipt_payment := keys.receipt_payment.update_parent updated }

namespace Db

def write (db : Db) (s : Statement) : Result Db :=
  attach (db.toTables.write s) fun t done => ⟨t, db.foreignKeys.write done⟩

theorem write_eq_ok {db db' : Db} {s : Statement} :
    db.write s = .ok db' ↔ db.toTables.write s = .ok db'.toTables :=
  attach_eq_ok (fun _ _ => Db.ext) fun _ _ => rfl

/-- A statement goes through on a database when it does on its tables. -/
theorem exists_write {db : Db} {s : Statement} :
    (∃ db', db.write s = .ok db') ↔ ∃ t, db.toTables.write s = .ok t := by
  constructor
  · rintro ⟨db', done⟩
    exact ⟨_, write_eq_ok.mp done⟩
  · rintro ⟨t, done⟩
    exact ⟨⟨t, db.foreignKeys.write done⟩, write_eq_ok.mpr done⟩

variable {db db' : Db} {s : Statement}

section

variable (done : db.write s = .ok db')
include done

theorem write_students : db'.students = db.students := by
  rw [write_eq_ok] at done
  cases s <;> simp only [Tables.write, do_eq_ok, insertRow_eq_ok, updateRow_eq_ok] at done <;> grind

theorem write_contracts :
    match s with
    | .createContract row => db.contracts.insert row = some db'.contracts
    | .updateContract id data =>
      db.contracts.update id data.apply data.key_apply = some db'.contracts
    | _ => db'.contracts = db.contracts := by
  rw [write_eq_ok] at done
  cases s <;> simp only [Tables.write, do_eq_ok, insertRow_eq_ok, updateRow_eq_ok] at done <;> grind

theorem write_installments :
    match s with
    | .createInstallment row => db.installments.insert row = some db'.installments
    | .updateInstallment id data =>
      db.installments.update id data.apply data.key_apply = some db'.installments
    | _ => db'.installments = db.installments := by
  rw [write_eq_ok] at done
  cases s <;> simp only [Tables.write, do_eq_ok, insertRow_eq_ok, updateRow_eq_ok] at done <;> grind

theorem write_transactions :
    match s with
    | .createTransaction row => db.transactions.insert row = some db'.transactions
    | .updateTransaction id data =>
      db.transactions.update id data.apply data.key_apply = some db'.transactions
    | _ => db'.transactions = db.transactions := by
  rw [write_eq_ok] at done
  cases s <;> simp only [Tables.write, do_eq_ok, insertRow_eq_ok, updateRow_eq_ok] at done <;> grind

theorem write_payments :
    match s with
    | .createPayment row => db.payments.insert row = some db'.payments
    | .updatePayment id data =>
      db.payments.update id data.apply data.key_apply = some db'.payments
    | _ => db'.payments = db.payments := by
  rw [write_eq_ok] at done
  cases s <;> simp only [Tables.write, do_eq_ok, insertRow_eq_ok, updateRow_eq_ok] at done <;> grind

theorem write_receipts :
    match s with
    | .createReceipt row => db.receipts.insert row = some db'.receipts
    | _ => db'.receipts = db.receipts := by
  rw [write_eq_ok] at done
  cases s <;> simp only [Tables.write, do_eq_ok, insertRow_eq_ok, updateRow_eq_ok] at done <;> grind

end

/-- The contract of a receipt that was issued exists. -/
theorem contract_of_createReceipt {row : FeeReceipt} (done : db.write (.createReceipt row) = .ok db') :
    ∃ c, db.contracts.find? row.contractId = some c := by
  rw [write_eq_ok] at done
  simp only [Tables.write, bind_eq_ok, referred_eq_ok] at done
  obtain ⟨-, present, -⟩ := done
  exact has_some_iff.mp present

end Db

end Rokad.Finance
