import Rokad.Base.Run
import Rokad.Finance.Effects

/-!
# Calls

The operations of the module as the calls of one program: `exec` is the database a call
leaves, whatever it answers, and a run is `run exec`. `bookings` are the payments a
call books on contracts, each with the state it is booked in; the rows of an import
are booked one after the other, the rest books at most one.
-/

namespace Rokad.Finance

open Rokad.Base

inductive Call where
  | recordCashPayment (env : Env) (tenantId recordedById : Id) (dto : RecordCashPaymentDto)
  | recordChequePayment (tenantId recordedById : Id) (dto : RecordChequePaymentDto)
  | updateChequeStatus (env : Env) (tenantId paymentId changedById : Id)
      (dto : UpdateChequeStatusDto)
  | initiateOnlinePayment (env : Env) (provider : PaymentGatewayProvider)
      (tenantId payerUserId : Id) (dto : InitiateOnlinePaymentDto)
  | verifyPayment (env : Env) (provider : PaymentGatewayProvider) (lock : LockAnswer)
      (tenantId : Id) (dto : VerifyPaymentDto)
  | recordOfflinePayment (env : Env) (tenantId recordedById : Id) (dto : RecordOfflinePaymentDto)
  | confirmPaymentImport (env : ℕ → Env) (tenantId recordedById : Id)
      (rows : List ImportFeePaymentRowDto)

/-- A transaction that fails is rolled back. -/
def committed {α : Type} (db : Db) (outcome : Result (Db × α)) : Db :=
  match outcome with
  | .ok (db', _) => db'
  | .error _ => db

def exec (db : Db) : Call → Db
  | .recordCashPayment env t r dto => committed db (recordCashPayment env t r dto db)
  | .recordChequePayment t r dto => committed db (recordChequePayment t r dto db)
  | .updateChequeStatus env t p r dto => committed db (updateChequeStatus env t p r dto db)
  | .initiateOnlinePayment env provider t r dto =>
    (initiateOnlinePayment env provider t r dto db).1
  | .verifyPayment env provider lock t dto => (verifyPayment env provider lock t dto db).1
  | .recordOfflinePayment env t r dto => committed db (recordOfflinePayment env t r dto db)
  | .confirmPaymentImport env t r rows => committed db (confirmPaymentImport env t r rows db)

/-- The call returns. -/
def succeeds (db : Db) : Call → Bool
  | .recordCashPayment env t r dto => (recordCashPayment env t r dto db).isOk
  | .recordChequePayment t r dto => (recordChequePayment t r dto db).isOk
  | .updateChequeStatus env t p r dto => (updateChequeStatus env t p r dto db).isOk
  | .initiateOnlinePayment env provider t r dto =>
    (initiateOnlinePayment env provider t r dto db).2.isOk
  | .verifyPayment env provider lock t dto => (verifyPayment env provider lock t dto db).2.isOk
  | .recordOfflinePayment env t r dto => (recordOfflinePayment env t r dto db).isOk
  | .confirmPaymentImport env t r rows => (confirmPaymentImport env t r rows db).isOk

/-- A run of calls that all return. -/
abbrev AllSucceed (db : Db) (calls : List Call) : Prop :=
  Along exec (fun db call => succeeds db call = true) db calls

/-! ### Bookings -/

/-- A payment on a contract, and the installment the code credits with it. -/
structure Booking where
  contractId : Id
  installment : Option FeeInstallment
  amount : ℚ

/-- What a status change books: a cheque that is cashed, or replacement cash. -/
def chequeBooking (dto : UpdateChequeStatusDto) (reading : ChequeReading) (db : Db) :
    Option Booking :=
  if dto.status = .cashed ∧ reading.cheque.checkStatus ≠ some .cashed then
    some ⟨reading.contract.id, reading.cheque.installmentId.bind db.installments.find?,
      reading.cheque.amount⟩
  else
    match dto.status, dto.replacementCheque, dto.replacementCash with
    | .replaced, none, some cash => some ⟨reading.contract.id, none, cash.amount⟩
    | _, _, _ => none

/-- What a settlement books. -/
def settlementBooking (reading : VerifyReading) (db : Db) : Option Booking :=
  reading.transaction.contractId.map fun k =>
    ⟨k, reading.transaction.installmentId.bind db.installments.find?, reading.transaction.amount⟩

/-- What a row of an import books: a cash row on a contract that was found. -/
def rowBooking (tenantId : Id) (row : ImportFeePaymentRowDto) (db : Db) : Option Booking :=
  match confirmPaymentImport.resolve db tenantId row.identifier, row.amount.toDecimal with
  | some (_, contract), some amount =>
    if confirmPaymentImport.isCash row then some ⟨contract.id, none, amount⟩ else none
  | _, _ => none

def bookings (db : Db) : Call → List (Db × Booking)
  | .recordCashPayment env t r dto =>
    match recordCashPayment env t r dto db, db.contracts.find? dto.contractId with
    | .ok _, some c => [(db, ⟨c.id, recordCashPayment.installment dto c db, dto.amount⟩)]
    | _, _ => []
  | .recordChequePayment .. => []
  | .updateChequeStatus env t p r dto =>
    match updateChequeStatus env t p r dto db, updateChequeStatus.read t p dto db with
    | .ok _, .ok reading => (chequeBooking dto reading db).toList.map (db, ·)
    | _, _ => []
  | .initiateOnlinePayment .. => []
  | .verifyPayment env provider lock t dto =>
    match verifyPayment.toSettle provider lock t dto db with
    | some (reading, result) =>
      match verifyPayment.settle env t reading result db with
      | .ok _ => (settlementBooking reading db).toList.map (db, ·)
      | .error _ => []
    | none => []
  | .recordOfflinePayment env t r dto =>
    match recordOfflinePayment env t r dto db, db.installments.find? dto.installmentId with
    | .ok _, some inst =>
      [(db, ⟨inst.contractId, some inst, Decimal.minus inst.amount inst.paidAmount⟩)]
    | _, _ => []
  | .confirmPaymentImport env t r rows =>
    match confirmPaymentImport env t r rows db with
    | .ok _ => (confirmPaymentImport.rowStates env t r 0 rows db).flatMap fun (db, row) =>
      (rowBooking t row db).toList.map (db, ·)
    | .error _ => []

/-! ### Calls on the small school -/

namespace School

/-- A gateway that accepts everything. -/
def gateway : PaymentGatewayProvider where
  requestPayment _ := .ok ⟨"A0001", "https://gateway/A0001"⟩
  verifyPayment _ := .ok { isSuccess := true, refId := some "REF-1" }

/-- A Sayad number, unless the text is one. -/
def sayad (text : String) : { id : String // isDigits 16 id = true } :=
  if matching : isDigits 16 text = true then ⟨text, matching⟩ else ⟨"1234567890123456", by decide⟩

def cheque (amount : ℕ) (sayadId : String := "1234567890123456")
    (installmentId : Option Id := none) : RecordChequePaymentDto where
  contractId := 1
  installmentId
  amount := (max 1000 amount : ℕ)
  checkNumber := "123456/78"
  checkSayadId := (sayad sayadId).1
  bankName := "بانک ملی ایران"
  checkDueDate := 0
  amount_min := amount_min amount
  checkSayadId_matches := (sayad sayadId).2

def cash (amount : ℕ) (installmentId : Option Id := none) : RecordCashPaymentDto where
  contractId := 1
  installmentId
  amount := (max 1000 amount : ℕ)
  amount_min := amount_min amount

/-- The rows of an import draw one number after the other. -/
def draws (now : ℕ) : ℕ → Env := fun i => { now, receiptDraw := Fin.ofNat 900 i }

def setStatus (now : ℕ) (paymentId : Id) (dto : UpdateChequeStatusDto) : Call :=
  .updateChequeStatus { now } 1 paymentId 9 dto

/-- Cash, a cheque and a gateway payment, in turn. -/
def payments (chequeFor : Option Id) : List Call :=
  [.recordCashPayment { now := 1 } 1 9 (cash 2000 (some 1)),
   .recordChequePayment 1 9 (cheque 3000 "1234567890123456" chequeFor),
   setStatus 2 2 { status := .cashed },
   .initiateOnlinePayment { now := 3 } gateway 1 7 { installmentId := 2 },
   .verifyPayment { now := 4 } gateway .acquired 1 { authority := "A0001" }]

end School

end Rokad.Finance
