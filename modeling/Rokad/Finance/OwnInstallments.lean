import Rokad.Finance.Postings

/-!
# Payments and the installments of their contract

A cash payment credits an installment of its own contract only. A cheque keeps whatever installment
its request names, and so does its replacement; when it is cashed that installment is looked up
without the contract. Where every cheque that is cashed names none of another contract, no other
contract's installment changes (`stays_inside`).
-/

namespace Rokad.Finance

open Rokad.Base

/-- The status of a payment that was not there yet is changed. -/
def Call.OnNew (db : Db) : Call → Prop
  | .updateChequeStatus _ _ paymentId _ _ => db.payments.find? paymentId = none
  | _ => False

/-- Payments on the contract: in cash; or by a cheque, with changes of the status of this cheque and
of its replacements. -/
inductive PaysOn (db : Db) (k : Id) : List Call → Prop where
  | cash {env : Env} {t r : Id} {dto : RecordCashPaymentDto} (contract : dto.contractId = k) :
      PaysOn db k [.recordCashPayment env t r dto]
  | cheque {t r : Id} {dto : RecordChequePaymentDto} {updates : List Call}
      (contract : dto.contractId = k) (own : ∀ u ∈ updates, u.OnNew db) :
      PaysOn db k (.recordChequePayment t r dto :: updates)

/-- A cheque that is to be cashed names no installment of another contract. -/
def Call.Inside (k : Id) (db : Db) : Call → Prop
  | .updateChequeStatus _ _ paymentId _ dto => dto.status = .cashed →
      ∀ cheque ∈ db.payments.find? paymentId, cheque.checkStatus ≠ some .cashed →
        ∀ inst ∈ cheque.installmentId.bind db.installments.find?, inst.contractId = k
  | _ => True

instance (k : Id) (db : Db) : (call : Call) → Decidable (call.Inside k db)
  | .updateChequeStatus .. => by
    dsimp only [Call.Inside]
    infer_instance
  | .recordCashPayment .. | .recordChequePayment .. | .initiateOnlinePayment .. | .verifyPayment ..
  | .recordOfflinePayment .. | .confirmPaymentImport .. => isTrue trivial

/-- The installments of the other contracts are as they were. -/
def OthersKept (k : Id) (db db' : Db) : Prop :=
  ∀ i ∈ db.installments.rows, i.contractId ≠ k → i ∈ db'.installments.rows

/-- Payments that were not there at the start are on the contract. -/
def NewOn (k : Id) (start db : Db) : Prop :=
  ∀ p ∈ db.payments.rows, start.payments.find? p.id = none → p.feeContractId = k

section

variable {start db db' : Db} {k : Id}

/-- A booking on an installment of the contract leaves those of the others. -/
theorem OthersKept.posts {b : Option Booking} (kept : OthersKept k start db)
    (posts : Posts db db' b) (own : ∀ b' ∈ b, ∀ inst ∈ b'.installment, inst.contractId = k) :
    OthersKept k start db' := by
  intro i mem other
  have here := kept i mem other
  cases b with
  | none =>
    rw [posts.2]
    exact here
  | some b =>
    have credits := posts.credits
    unfold Credits at credits
    cases inst : b.installment with
    | none =>
      simp only [inst] at credits
      rw [credits]
      exact here
    | some inst' =>
      simp only [inst] at credits
      obtain ⟨found, paid, paidAt, -, updated⟩ := credits
      refine (mem_update updated).mpr (.inl ⟨here, fun same => other ?_⟩)
      have row : i = inst' :=
        db.installments.eq_of_key_eq here (mem_of_find? found) same
      rw [row]
      exact own b rfl inst' inst

theorem OthersKept.exec {call : Call} (kept : OthersKept k start db)
    (own : ∀ x ∈ bookings db call, ∀ inst ∈ x.2.installment, inst.contractId = k) :
    OthersKept k start (exec db call) :=
  exec_posts (I := OthersKept k start)
    (C := fun _ b => ∀ inst ∈ b.installment, inst.contractId = k)
    (fun _ _ _ _ posts meets here => here.posts posts meets) db call own kept

/-- Cash is credited to the contract that is paid. -/
theorem bookings_cash {env : Env} {t r : Id} {dto : RecordCashPaymentDto}
    (contract : dto.contractId = k) : ∀ x ∈ bookings db (.recordCashPayment env t r dto),
      ∀ inst ∈ x.2.installment, inst.contractId = k := by
  rintro ⟨d, b⟩ mem inst credits
  simp only [bookings] at mem
  split at mem
  · rename_i c _ found
    obtain ⟨-, rfl⟩ := Prod.mk.inj (List.mem_singleton.mp mem)
    have own := (Option.filter_eq_some_iff.mp credits).2
    exact (of_decide_eq_true own).trans ((key_of_find? found).trans contract)
  · simp at mem

/-- A cheque that is cashed credits the installment that it names. -/
theorem bookings_status {env : Env} {t p r : Id} {dto : UpdateChequeStatusDto}
    (inside : (Call.updateChequeStatus env t p r dto).Inside k db) :
    ∀ x ∈ bookings db (.updateChequeStatus env t p r dto),
      ∀ inst ∈ x.2.installment, inst.contractId = k := by
  rintro ⟨d, b⟩ mem inst credits
  simp only [bookings] at mem
  split at mem
  · rename_i reading _ read
    simp only [List.mem_map, Option.mem_toList, Prod.mk.injEq] at mem
    obtain ⟨b', booked, rfl, rfl⟩ := mem
    unfold chequeBooking at booked
    split at booked
    · rename_i cashing
      obtain rfl := Option.some_inj.mp booked
      have found := (updateChequeStatus.read_ok read).1
      exact inside cashing.1 _ found cashing.2 inst credits
    · split at booked
      · obtain rfl := Option.some_inj.mp booked
        simp at credits
      · simp at booked
  · simp at mem

/-- A replacement is on the contract of its cheque. -/
theorem NewOn.exec {call : Call} (new : NewOn k start db) (own : call.OnNew start) :
    NewOn k start (exec db call) := by
  cases call with
  | updateChequeStatus env t p r dto =>
    refine (exec_executes db (.updateChequeStatus env t p r dto)).keeps (I := NewOn k start)
      (fun d s d' admitted done before => ?_) new
    have payments := Db.write_payments done
    cases s <;> simp only at payments
    case createPayment row =>
        intro q mem notThere
        rcases (mem_insert payments).mp mem with old | rfl
        · exact before q old notThere
        · obtain ⟨-, c, found, contract, -⟩ := admitted
          have named : c.id = p := key_of_find? found
          exact contract.trans (before c (mem_of_find? found) (named ▸ own))
    case updatePayment id data =>
        intro q mem notThere
        rcases (mem_update payments).mp mem with ⟨old, -⟩ | ⟨old, found, rfl⟩
        · exact before q old notThere
        · exact before old (mem_of_find? found) notThere
    all_goals
      intro q mem
      rw [payments] at mem
      exact before q mem
  | _ => exact own.elim

theorem newOn_recordChequePayment {t r : Id} {dto : RecordChequePaymentDto}
    (contract : dto.contractId = k) : NewOn k db (exec db (.recordChequePayment t r dto)) := by
  have same : NewOn k db db := fun p mem notThere =>
    absurd mem fun there => (Table.find?_eq_none_iff _).mp notThere p there rfl
  cases done : recordChequePayment t r dto db with
  | error e => simpa only [Finance.exec, done, committed] using same
  | ok outcome =>
    obtain ⟨c, amount, found, -, -, -, is, created⟩ := recordChequePayment_ok done
    have payments := Db.write_payments created
    simp only at payments
    simp only [Finance.exec, done, committed]
    intro p mem notThere
    rcases (mem_insert payments).mp mem with old | rfl
    · exact same p old notThere
    · rw [is]
      exact (key_of_find? found).trans contract

/-- **The changes of status**, one after the other. -/
theorem run_updates {updates : List Call} (own : ∀ u ∈ updates, u.OnNew start)
    (inside : Along Finance.exec (fun d call => call.Inside k d) db updates)
    (kept : OthersKept k start db) (new : NewOn k start db) :
    OthersKept k start (run Finance.exec db updates) := by
  have both : OthersKept k start (run Finance.exec db updates) ∧
      NewOn k start (run Finance.exec db updates) :=
    run_invariant (I := fun d => OthersKept k start d ∧ NewOn k start d)
      (P := fun d call => call.Inside k d ∧ call.OnNew start)
      (fun d call meets both => by
        obtain ⟨here, ofNew⟩ := meets
        refine ⟨both.1.exec ?_, both.2.exec ofNew⟩
        cases call with
        | updateChequeStatus env t p r dto => exact bookings_status here
        | _ => exact ofNew.elim)
      ⟨kept, new⟩ (inside.and (along_of_forall own))
  exact both.1

end

/-- **Payments stay inside their contract** where no cheque is cashed that names an installment of
another contract. -/
theorem stays_inside {db : Db} {k : Id} {calls : List Call} (pays : PaysOn db k calls)
    (inside : Along exec (fun d call => call.Inside k d) db calls) :
    OthersKept k db (run exec db calls) := by
  have start : OthersKept k db db := fun _ mem _ => mem
  cases pays with
  | cash contract => exact start.exec (bookings_cash contract)
  | @cheque t r dto updates contract own =>
    have none : ∀ x ∈ bookings db (.recordChequePayment t r dto),
        ∀ inst ∈ x.2.installment, inst.contractId = k := by simp [bookings]
    rw [run_cons]
    exact run_updates own inside.2 (start.exec none) (newOn_recordChequePayment contract)

namespace School

/-- Contracts of two years, each with two installments. -/
def twoYears : Result Db := do
  let (db, _) ← createContract db 1 (contractDto 6000 4000 10000)
  let (db, _) ← createContract db 1
    { contractDto 6000 4000 10000 with
      academicYearId := 2
      contractNumber := "FEE-1405-001"
      contractNumber_notEmpty := by decide }
  return db

/-- A cheque on the first contract, for this installment, is replaced and then cashed. -/
def replacedCheque (first second : Id) : List Call :=
  [.recordChequePayment 1 9 (cheque 3000 "1234567890123456" (some first)),
   setStatus 2 1 { status := .bounced },
   setStatus 3 1
    { status := .replaced
      replacementCheque := some (cheque 3000 "1234567890123457" (some second)) },
   setStatus 4 2 { status := .cashed }]

theorem paysOn_replacedCheque {start : Db} (none : start.payments = .empty) (first second : Id) :
    PaysOn start 1 (replacedCheque first second) := by
  refine .cheque rfl fun u mem => ?_
  simp only [List.mem_cons, List.not_mem_nil, or_false] at mem
  rcases mem with rfl | rfl | rfl <;> simp [setStatus, Call.OnNew, none, Table.empty, Table.find?]

end School

theorem stays_inside_school : ∃ db, School.twoYears = .ok db ∧
    OthersKept 1 db (run exec db (School.replacedCheque 3 1)) := by
  obtain ⟨db, created, none, inside⟩ := Returns.exists (by decide +kernel :
    Returns School.twoYears fun db => db.payments.rows = [] ∧
      Along exec (fun d call => call.Inside 1 d) db (School.replacedCheque 3 1))
  exact ⟨db, created, stays_inside (School.paysOn_replacedCheque (Table.ext none) 3 1) inside⟩

/-- The replacement names the first installment of the other contract. -/
theorem not_stays_inside : ¬ ∀ (db : Db) (k : Id) (calls : List Call),
    PaysOn db k calls → OthersKept k db (run exec db calls) := by
  intro claim
  obtain ⟨db, -, none, i, mem, other, changed⟩ := Returns.exists (by decide +kernel :
    Returns School.twoYears fun db => db.payments.rows = [] ∧ ∃ i ∈ db.installments.rows,
      i.contractId ≠ 1 ∧ i ∉ (run exec db (School.replacedCheque 1 3)).installments.rows)
  exact changed (claim db 1 _ (School.paysOn_replacedCheque (Table.ext none) 1 3) i mem other)

end Rokad.Finance
