import Rokad.Finance.Books
import Rokad.Finance.Footprint

/-!
# Sayad ids

Every cheque has a Sayad id of sixteen digits, and no two cheques of a tenant share one. The
database has no such key; `recordChequePayment` checks both before it creates a cheque. The
other two ways to create one do not look: a replacement cheque may repeat the id of any cheque
(`not_sayadLaw_of_replacement`), and an imported row is booked with whatever id it carries.
`sayadLaw_of_checked` is the law for every run in which these two carry an id that the check
would have admitted.
-/

namespace Rokad.Finance

open Rokad.Base

def FeePayment.IsCheque (t : Id) (p : FeePayment) : Prop := p.method = .cheque ∧ p.tenantId = t
deriving Decidable

/-- Distinct cheques of the tenant have distinct ids, all of sixteen digits. -/
def SayadLaw (t : Id) (db : Db) : Prop :=
  (∀ p ∈ db.payments.rows, ∀ q ∈ db.payments.rows, p.IsCheque t → q.IsCheque t → p.id ≠ q.id →
    p.checkSayadId ≠ q.checkSayadId) ∧
  ∀ p ∈ db.payments.rows, p.IsCheque t → p.checkSayadId.any (isDigits 16) = true
deriving Decidable

/-- An id of sixteen digits that no cheque of the tenant carries. -/
def Admissible (t : Id) (db : Db) (sayadId : Option String) : Prop :=
  sayadId.any (isDigits 16) = true ∧
    ∀ p ∈ db.payments.rows, p.IsCheque t → p.checkSayadId ≠ sayadId
deriving Decidable

/-- A replacement cheque, and an imported row that is booked as a cheque, carry an id that is
admissible in the state they are booked in. -/
def SayadChecked (t : Id) (db : Db) : Call → Prop
  | .updateChequeStatus _ t' _ _ dto =>
    t' = t → dto.status = .replaced →
      ∀ replacement ∈ dto.replacementCheque, Admissible t db (some replacement.checkSayadId)
  | .confirmPaymentImport env t' r rows =>
    t' = t → ∀ x ∈ confirmPaymentImport.rowStates env t' r 0 rows db,
      (confirmPaymentImport.resolve x.1 t' x.2.identifier).isSome = true →
        confirmPaymentImport.isCash x.2 = false → Admissible t x.1 x.2.checkSayadId
  | _ => True

instance (t : Id) (db : Db) : (call : Call) → Decidable (SayadChecked t db call)
  | .updateChequeStatus .. | .confirmPaymentImport .. => by
    dsimp only [SayadChecked]
    infer_instance
  | .recordCashPayment .. | .recordChequePayment .. | .initiateOnlinePayment .. | .verifyPayment ..
  | .recordOfflinePayment .. => isTrue trivial

/-! ### Statements -/

section

variable {db db' : Db} {t : Id}

theorem SayadLaw.congr (law : SayadLaw t db) (payments : db'.payments = db.payments) :
    SayadLaw t db' := by
  unfold SayadLaw
  rwa [payments]

theorem SayadLaw.createPayment {row : FeePayment} (law : SayadLaw t db)
    (admissible : row.IsCheque t → Admissible t db row.checkSayadId)
    (done : db.write (.createPayment row) = .ok db') : SayadLaw t db' := by
  have inserted := Db.write_payments done
  obtain ⟨unique, digits⟩ := law
  constructor
  · intro p memP q memQ chequeP chequeQ differ
    rcases (mem_insert inserted).mp memP with memP | rfl <;>
      rcases (mem_insert inserted).mp memQ with memQ | rfl
    · exact unique p memP q memQ chequeP chequeQ differ
    · exact (admissible chequeQ).2 p memP chequeP
    · exact fun same => (admissible chequeP).2 q memQ chequeQ same.symm
    · exact absurd rfl differ
  · intro p mem cheque
    rcases (mem_insert inserted).mp mem with mem | rfl
    · exact digits p mem cheque
    · exact (admissible cheque).1

/-- An update of a payment changes neither its id, its method nor its Sayad id. -/
theorem SayadLaw.updatePayment {id : Id} {data : PaymentUpdate} (law : SayadLaw t db)
    (done : db.write (.updatePayment id data) = .ok db') : SayadLaw t db' := by
  have updated := Db.write_payments done
  obtain ⟨unique, digits⟩ := law
  have before : ∀ p ∈ db'.payments.rows, ∃ q ∈ db.payments.rows, q.id = p.id ∧
      q.checkSayadId = p.checkSayadId ∧ (p.IsCheque t → q.IsCheque t) := by
    intro p mem
    rcases (mem_update updated).mp mem with ⟨mem, -⟩ | ⟨q, found, rfl⟩
    · exact ⟨p, mem, rfl, rfl, fun h => h⟩
    · exact ⟨q, mem_of_find? found, rfl, rfl, fun h => h⟩
  constructor
  · intro p memP q memQ chequeP chequeQ differ
    obtain ⟨p', memP', idP, sameP, ofP⟩ := before p memP
    obtain ⟨q', memQ', idQ, sameQ, ofQ⟩ := before q memQ
    rw [← sameP, ← sameQ]
    exact unique p' memP' q' memQ' (ofP chequeP) (ofQ chequeQ) (by rwa [idP, idQ])
  · intro p mem cheque
    obtain ⟨p', mem', -, same, ofP⟩ := before p mem
    rw [← same]
    exact digits p' mem' (ofP cheque)

end

/-! ### Calls -/

section

variable {db db' : Db} {env : Env} {t t' r : Id}

section

variable (law : SayadLaw t db)
include law

theorem SayadLaw.recordCashPayment {dto : RecordCashPaymentDto} {reply : CashReply}
    (done : recordCashPayment env t' r dto db = .ok (db', reply)) :
    SayadLaw t db' := by
  obtain ⟨c, amount, db₁, db₂, db₃, -, -, -, -, created, credited, balanced, receipted, -⟩ :=
    recordCashPayment_ok done
  have same : db'.payments = db₁.payments :=
    (Db.write_payments receipted).trans ((writeBalance_frame balanced).2.2.2.1.trans
      (creditInstallment_frame credited).2.2.2.1)
  exact (law.createPayment (fun cheque => by cases cheque.1) created).congr same

theorem SayadLaw.recordChequePayment {dto : RecordChequePaymentDto} {payment : FeePayment}
    (done : recordChequePayment t' r dto db = .ok (db', payment)) :
    SayadLaw t db' := by
  obtain ⟨c, amount, -, -, unused, -, rfl, created⟩ := recordChequePayment_ok done
  refine law.createPayment ?_ created
  exact fun cheque => ⟨dto.checkSayadId_matches, fun p mem ofTenant =>
    unused p mem (ofTenant.2.trans cheque.2.symm)⟩

theorem SayadLaw.applyStatus {dto : UpdateChequeStatusDto} {reading : ChequeReading}
    {id : Option Id}
    (admissible : t' = t → dto.status = .replaced →
      ∀ replacement ∈ dto.replacementCheque, Admissible t db (some replacement.checkSayadId))
    (done : updateChequeStatus.applyStatus env t' r dto reading db = .ok (db', id)) :
    SayadLaw t db' := by
  rcases updateChequeStatus.applyStatus_ok done with ⟨-, -, -, cashed⟩ | ⟨-, -, bounced⟩ |
    ⟨status, db₁, replaced, released⟩ | ⟨-, -, -, rfl⟩ | ⟨-, -, rfl⟩
  · obtain ⟨db₁, db₂, balanced, credited, receipted⟩ := updateChequeStatus.cashCheque_ok cashed
    exact law.congr ((Db.write_payments receipted).trans
      ((creditInstallment_frame credited).2.2.2.1.trans (writeBalance_frame balanced).2.2.2.1))
  · exact law.congr (Db.write_payments bounced)
  · have first : SayadLaw t db₁ := by
      unfold updateChequeStatus.replacement at replaced
      split at replaced
      · rename_i replacement cheque
        obtain ⟨amount, -, -, created⟩ := updateChequeStatus.replaceByCheque_ok replaced
        exact law.createPayment (fun new => admissible new.2 status _ cheque) created
      · obtain ⟨amount, db₁, db₂, -, -, created, balanced, receipted⟩ :=
          updateChequeStatus.replaceByCash_ok replaced
        have same := (Db.write_payments receipted).trans (writeBalance_frame balanced).2.2.2.1
        exact (law.createPayment (fun cheque => by cases cheque.1) created).congr same
      · cases replaced
        exact law
    rcases updateChequeStatus.releaseHold_ok released with ⟨-, rfl⟩ | ⟨-, written⟩
    · exact first
    · exact first.congr (Db.write_payments written)
  · exact law
  · exact law

theorem SayadLaw.importRow {row : ImportFeePaymentRowDto} {n : ℕ}
    (admissible : t' = t → (confirmPaymentImport.resolve db t' row.identifier).isSome = true →
      confirmPaymentImport.isCash row = false → Admissible t db row.checkSayadId)
    (done : confirmPaymentImport.importRow env t' r row db = .ok (db', n)) : SayadLaw t db' := by
  rcases confirmPaymentImport.importRow_ok done with ⟨-, rfl, -⟩ |
    ⟨s, c, a, found, -, -, ⟨-, booked⟩ | ⟨notCash, booked⟩⟩
  · exact law
  · obtain ⟨m, db₁, db₂, -, created, balanced, receipted⟩ := confirmPaymentImport.bookCash_ok booked
    have same := (Db.write_payments receipted).trans (writeBalance_frame balanced).2.2.2.1
    exact (law.createPayment (fun cheque => by cases cheque.1) created).congr same
  · obtain ⟨m, -, created⟩ := confirmPaymentImport.bookCheque_ok booked
    exact law.createPayment (fun new => admissible new.2 (by simp [found]) notCash) created

/-- What one call keeps. -/
theorem SayadLaw.exec {call : Call} (checked : SayadChecked t db call) :
    SayadLaw t (exec db call) := by
  have executes := exec_executes db call
  cases call with
  | recordCashPayment env t' r dto =>
    cases done : Finance.recordCashPayment env t' r dto db with
    | error e => simpa only [Finance.exec, done, committed] using law
    | ok reply => simpa only [Finance.exec, done, committed] using law.recordCashPayment done
  | recordChequePayment t' r dto =>
    cases done : Finance.recordChequePayment t' r dto db with
    | error e => simpa only [Finance.exec, done, committed] using law
    | ok reply => simpa only [Finance.exec, done, committed] using law.recordChequePayment done
  | updateChequeStatus env t' p r dto =>
    cases done : Finance.updateChequeStatus env t' p r dto db with
    | error e => simpa only [Finance.exec, done, committed] using law
    | ok reply =>
      simp only [Finance.exec, done, committed]
      obtain ⟨reading, read, ran⟩ := updateChequeStatus_ok done
      obtain ⟨db₁, id, applied, updated⟩ := updateChequeStatus.transaction_ok ran
      exact (law.applyStatus checked applied).updatePayment updated
  | confirmPaymentImport env t' r rows =>
    cases done : Finance.confirmPaymentImport env t' r rows db with
    | error e => simpa only [Finance.exec, done, committed] using law
    | ok reply =>
      simp only [Finance.exec, done, committed]
      refine confirmPaymentImport.importRows_keeps (I := SayadLaw t)
        (P := fun d row => t' = t →
          (confirmPaymentImport.resolve d t' row.identifier).isSome = true →
            confirmPaymentImport.isCash row = false → Admissible t d row.checkSayadId)
        (fun _ _ _ _ _ booked admissible law => law.importRow admissible booked)
        (confirmPaymentImport_ok done) (fun x mem ofTenant => checked ofTenant x mem) law
  | initiateOnlinePayment | verifyPayment | recordOfflinePayment =>
    refine executes.keeps (I := SayadLaw t) (fun d s d' admitted written law => ?_) law
    have payments := Db.write_payments written
    cases s <;> simp only at payments
    case createPayment => exact admitted.elim
    case updatePayment => exact admitted.elim
    all_goals exact law.congr payments

end

/-- **Sayad ids.** A run in which replacement cheques and imported cheques carry admissible ids
keeps the law of the tenant's cheques. -/
theorem sayadLaw_of_checked {calls : List Call} (law : SayadLaw t db)
    (checked : Along exec (SayadChecked t) db calls) : SayadLaw t (run exec db calls) :=
  run_invariant (I := SayadLaw t) (fun _ _ checked law => law.exec checked) law checked


end

theorem sayadLaw_of_no_payments {db : Db} (none : db.payments.rows = []) (t : Id) :
    SayadLaw t db := by
  simp [SayadLaw, none]

theorem Opened.sayadLaw {db db' : Db} {contract : StudentFeeContract} {t : Id}
    (opened : Opened db db' contract) (law : SayadLaw t db) : SayadLaw t db' :=
  law.congr opened.payments

namespace School

/-- A row of an import for the school's student. -/
def row (method : String) (amount : ℚ) (checkSayadId : Option String := none) :
    ImportFeePaymentRowDto where
  rowIndex := 2
  identifier := "0012345678"
  method
  amount := .finite amount
  date := "1404/07/01"
  checkSayadId

def replacedByCheque : List Call :=
  [.recordChequePayment 1 9 (cheque 3000), setStatus 1 1 { status := .bounced }, setStatus 2 1
     { status := .replaced, replacementCheque := some (cheque 3000 "6543210987654321") },
   .confirmPaymentImport (draws 3) 1 9
     [row "CASH" 1000, row "CHEQUE" 2000 (some "1111222233334444")]]

end School

theorem sayadLaw_of_checked_school : ∃ db contract, School.signed = .ok (db, contract) ∧
    SayadLaw 1 (run exec db School.replacedByCheque) := by
  obtain ⟨⟨db, contract⟩, created, checked⟩ := Returns.exists (by decide +kernel :
    Returns School.signed fun x =>
      Along exec (SayadChecked 1) x.1 School.replacedByCheque)
  have law : SayadLaw 1 db :=
    (createContract_spec created).1.sayadLaw (sayadLaw_of_no_payments rfl 1)
  exact ⟨db, contract, created, sayadLaw_of_checked law checked⟩

/-- A cheque is replaced by a cheque with the same Sayad id. -/
theorem not_sayadLaw_of_replacement :
    ¬ ∀ (t : Id) (db : Db), SayadLaw t db → ∀ calls, AllSucceed db calls →
      SayadLaw t (run exec db calls) := by
  intro claim
  obtain ⟨⟨db, contract⟩, created, succeed, broken⟩ := Returns.exists (by decide +kernel :
    Returns School.signed fun x =>
      let calls := [.recordChequePayment 1 9 (School.cheque 3000), School.setStatus 1 1
          { status := .replaced, replacementCheque := some (School.cheque 3000) }]
      AllSucceed x.1 calls ∧ ¬ SayadLaw 1 (run exec x.1 calls))
  have law : SayadLaw 1 db :=
    (createContract_spec created).1.sayadLaw (sayadLaw_of_no_payments rfl 1)
  exact broken (claim 1 db law _ succeed)

end Rokad.Finance
