import Rokad.Finance.Postings

/-!
# One collection for one cheque

A cheque is collected by cashing it or by replacement cash. Both close it: its status
becomes `CASHED` or `REPLACED`. The code refuses to take a cashed cheque to another status, and
cashing it again does nothing. It does not refuse to take a replaced cheque back, so the same
debt can be collected twice (`not_collectedOnce_of_replaced`). In every run that leaves replaced
cheques replaced, a closed cheque is never collected again (`collectedOnce_of_keepsReplaced`).
-/

namespace Rokad.Finance

open Rokad.Base

def Db.chequeStatus (db : Db) (k : Id) : Option CheckStatus :=
  (db.payments.find? k).bind (·.checkStatus)

/-- The cheque has been cashed or replaced. -/
def Closed (db : Db) (k : Id) : Prop :=
  db.chequeStatus k = some .cashed ∨ db.chequeStatus k = some .replaced
deriving Decidable

/-- The cheque whose status a call changes. -/
def Call.cheque? : Call → Option Id
  | .updateChequeStatus _ _ k _ _ => some k
  | _ => none

/-- No balance is changed, no payment created and no receipt issued. -/
def Untouched (db db' : Db) : Prop :=
  (∀ k, db'.balanceOf k = db.balanceOf k) ∧
    db'.payments.rows.map (·.id) = db.payments.rows.map (·.id) ∧ db'.receipts = db.receipts

/-- The balance of some contract is changed. -/
def Deducts (db db' : Db) : Prop := ∃ k, db'.balanceOf k ≠ db.balanceOf k

/-- Once a cheque is closed, no status change of it touches anything; and of all status
changes of one cheque at most one deducts. -/
def CollectedOnce (db : Db) (calls : List Call) : Prop :=
  (∀ k before mid call after, calls = before ++ mid ++ call :: after → call.cheque? = some k →
    Closed (run exec db before) k →
    Untouched (run exec db (before ++ mid)) (run exec db (before ++ mid ++ [call]))) ∧
  ∀ k before call mid call' after, calls = before ++ call :: mid ++ call' :: after →
    call.cheque? = some k → call'.cheque? = some k →
    Deducts (run exec db before) (run exec db (before ++ [call])) →
    ¬ Deducts (run exec db (before ++ call :: mid)) (run exec db (before ++ call :: mid ++ [call']))

/-- A status change of a replaced cheque leaves it replaced, with no new replacement. -/
def KeepsReplaced (db : Db) : Call → Prop
  | .updateChequeStatus _ _ k _ dto => db.chequeStatus k = some .replaced →
      dto.status = .replaced ∧ dto.replacementCheque.isNone ∧ dto.replacementCash.isNone
  | _ => True

instance (db : Db) (call : Call) : Decidable (KeepsReplaced db call) := by
  unfold KeepsReplaced
  split <;> infer_instance

/-! ### The status of a cheque -/

section

variable {db db' : Db} {env : Env} {t r : Id}

/-- Only a status change of a payment changes its row. -/
theorem find?_payment_of_other {k : Id} {p : FeePayment} (found : db.payments.find? k = some p)
    {call : Call} (other : call.cheque? ≠ some k) : (exec db call).payments.find? k = some p := by
  refine (exec_executes db call).keeps (I := fun d => d.payments.find? k = some p)
    (fun d s d' admitted done found => ?_) found
  have payments := Db.write_payments done
  cases s <;> simp only at payments
  case createPayment row =>
      rw [Table.find?_insert payments, if_neg]
      · exact found
      · exact fun same => (insert_spec.mp payments).2.1 p (mem_of_find? found)
          ((key_of_find? found).trans same.symm)
  case updatePayment id data =>
      cases call with
      | updateChequeStatus env t cheque r dto =>
        have differ : k ≠ id := fun same => other (by
          rw [same, show id = cheque from admitted]
          rfl)
        rw [Table.find?_update_of_ne payments differ]
        exact found
      | _ => exact admitted.elim
  all_goals rw [payments]; exact found

/-- A status change that goes through sets the status. -/
theorem updateChequeStatus_status {k : Id} {dto : UpdateChequeStatusDto} {updated : FeePayment}
    (done : updateChequeStatus env t k r dto db = .ok (db', updated)) :
    db'.chequeStatus k = some dto.status := by
  obtain ⟨reading, read, ran⟩ := updateChequeStatus_ok done
  obtain ⟨found, -⟩ := updateChequeStatus.read_ok read
  obtain ⟨db₁, id, -, written⟩ := updateChequeStatus.transaction_ok ran
  have same : reading.cheque.id = k := key_of_find? found
  have payments := Db.write_payments written
  simp only [same] at payments
  obtain ⟨row, here⟩ := Table.find?_of_update payments
  simp [Db.chequeStatus, find?_update_self payments here, PaymentUpdate.apply,
    updateChequeStatus.statusUpdate]

end

/-! ### Closed cheques -/

section

variable {db : Db} {call : Call} {k : Id}

section

variable (closed : Closed db k)
include closed

theorem Closed.exists : ∃ p, db.payments.find? k = some p := by
  cases found : db.payments.find? k with
  | some p => exact ⟨p, rfl⟩
  | none =>
    rcases closed with status | status <;> simp [Db.chequeStatus, found] at status

theorem Closed.stays (keeps : KeepsReplaced db call) :
    Closed (exec db call) k := by
  by_cases own : call.cheque? = some k
  · cases call with
    | updateChequeStatus env t cheque r dto =>
      obtain rfl : cheque = k := Option.some_inj.mp own
      cases done : updateChequeStatus env t cheque r dto db with
      | error e => simpa only [Finance.exec, done, committed] using closed
      | ok reply =>
        have status := updateChequeStatus_status done
        simp only [Finance.exec, done, committed]
        rcases closed with cashed | replaced
        · obtain ⟨reading, read, -⟩ := updateChequeStatus_ok done
          obtain ⟨found, -, -, -, stays⟩ := updateChequeStatus.read_ok read
          refine Or.inl (status.trans (congrArg some (stays ?_)))
          simpa [Db.chequeStatus, found] using cashed
        · exact Or.inr (status.trans (congrArg some (keeps replaced).1))
    | _ => cases own
  · obtain ⟨p, found⟩ := closed.exists
    have same := find?_payment_of_other found own
    unfold Closed Db.chequeStatus at *
    rwa [same, ← found]

theorem Closed.stays_run {calls : List Call}
    (keeps : Along exec KeepsReplaced db calls) : Closed (run exec db calls) k :=
  run_invariant (I := fun db => Closed db k) (fun _ _ keeps closed => closed.stays keeps) closed
    keeps

/-- A status change of a closed cheque touches nothing. -/
theorem Closed.untouched (keeps : KeepsReplaced db call)
    (own : call.cheque? = some k) : Untouched db (exec db call) := by
  cases call with
  | updateChequeStatus env t cheque r dto =>
    obtain rfl : cheque = k := Option.some_inj.mp own
    simp only [exec]
    cases done : updateChequeStatus env t cheque r dto db with
    | error e => exact ⟨fun _ => rfl, rfl, rfl⟩
    | ok reply =>
      obtain ⟨reading, read, ran⟩ := updateChequeStatus_ok done
      obtain ⟨found, -, -, -, stays⟩ := updateChequeStatus.read_ok read
      obtain ⟨db₁, id, applied, updated⟩ := updateChequeStatus.transaction_ok ran
      -- Either the cheque is cashed and cashed again, or replaced and replaced by nothing.
      have same : reading.cheque.checkStatus = some .cashed ∧ dto.status = .cashed ∨
          dto.status = .replaced ∧ dto.replacementCheque = none ∧ dto.replacementCash = none := by
        rcases closed with cashed | replaced
        · have cashed : reading.cheque.checkStatus = some .cashed := by
            simpa [Db.chequeStatus, found] using cashed
          exact Or.inl ⟨cashed, stays cashed⟩
        · obtain ⟨status, noCheque, noCash⟩ := keeps replaced
          exact Or.inr ⟨status, by simpa using noCheque, by simpa using noCash⟩
      have before : db₁.ledger = db.ledger ∧ db₁.payments = db.payments ∧
          db₁.receipts = db.receipts := by
        rcases updateChequeStatus.applyStatus_ok applied with ⟨status, notCashed, -⟩ |
          ⟨status, -⟩ | ⟨status, db₂, replaced, released⟩ | ⟨-, -, -, rfl⟩ | ⟨status, -⟩
        · simp [status, notCashed] at same
        · simp [status] at same
        · obtain ⟨-, noCheque, noCash⟩ : dto.status = .replaced ∧
              dto.replacementCheque = none ∧ dto.replacementCash = none := by
            simpa [status] using same
          simp only [updateChequeStatus.replacement, noCheque, noCash, Except.ok.injEq,
            Prod.mk.injEq] at replaced
          obtain ⟨rfl, -⟩ := replaced
          refine ⟨(updateChequeStatus.releaseHold_makes released).posts.1, ?_⟩
          rcases updateChequeStatus.releaseHold_ok released with ⟨-, rfl⟩ | ⟨-, written⟩
          · exact ⟨rfl, rfl⟩
          · exact ⟨Db.write_payments written, Db.write_receipts written⟩
        · exact ⟨rfl, rfl, rfl⟩
        · simp [status] at same
      obtain ⟨ledger, payments, receipts⟩ := before
      refine ⟨fun c => ?_, ?_, (Db.write_receipts updated).trans receipts⟩
      · exact congrFun (congrArg Ledger.balance ((ledger_updatePayment updated).trans ledger)) c
      · exact (Table.map_key_update (Db.write_payments updated)).trans (by rw [payments]; rfl)
  | _ => cases own

end

/-- A status change that deducts closes its cheque. -/
theorem closed_of_deducts (own : call.cheque? = some k) (deducts : Deducts db (exec db call)) :
    Closed (exec db call) k := by
  cases call with
  | updateChequeStatus env t cheque r dto =>
    obtain rfl : cheque = k := Option.some_inj.mp own
    simp only [exec] at *
    cases done : updateChequeStatus env t cheque r dto db with
    | error e =>
      obtain ⟨c, differ⟩ := deducts
      simp [done, committed] at differ
    | ok reply =>
      simp only [done, committed] at deducts ⊢
      obtain ⟨reading, read, ran⟩ := updateChequeStatus_ok done
      have posts := (updateChequeStatus.transaction_makes ran
        (updateChequeStatus.read_current read)).posts
      have status := updateChequeStatus_status done
      unfold Closed
      rw [status]
      cases new : dto.status with
      | cashed => exact Or.inl rfl
      | replaced => exact Or.inr rfl
      | _ =>
        obtain ⟨c, differ⟩ := deducts
        simp only [chequeBooking, new, reduceCtorEq, false_and, if_false] at posts
        exact absurd (congrFun (congrArg Ledger.balance posts.1) c) differ
  | _ => cases own

end

/-- **One collection.** In a run in which replaced cheques stay replaced, nothing is touched on
account of a closed cheque, and at most one call deducts on account of a cheque. -/
theorem collectedOnce_of_keepsReplaced {db : Db} {calls : List Call}
    (keeps : Along exec KeepsReplaced db calls) : CollectedOnce db calls := by
  -- What happens after a call on a cheque that is closed by then.
  have closedAt : ∀ k before mid call after, calls = before ++ mid ++ call :: after →
      call.cheque? = some k → Closed (run exec db before) k →
      Untouched (run exec db (before ++ mid)) (run exec db (before ++ mid ++ [call])) := by
    rintro k before mid call after rfl own closed
    obtain ⟨first, last⟩ := along_append.mp keeps
    obtain ⟨-, middle⟩ := along_append.mp first
    have closed' := closed.stays_run middle
    rw [← run_append] at closed'
    rw [run_append db (before ++ mid) [call]]
    exact closed'.untouched last.1 own
  refine ⟨closedAt, ?_⟩
  rintro k before call mid call' after split own own' deducts ⟨c, differ⟩
  have closed : Closed (run exec db (before ++ [call])) k := by
    rw [run_append] at deducts ⊢
    exact closed_of_deducts own deducts
  have untouched := closedAt k (before ++ [call]) mid call' after (by simpa using split) own' closed
  simp only [List.append_assoc, List.cons_append] at untouched differ
  exact differ (untouched.1 c)

/-- A cheque bounces, is replaced by cash and is said to be replaced once more. -/
def School.replacedTwice : List Call :=
  [.recordChequePayment 1 9 (cheque 3000), setStatus 1 1 { status := .bounced },
   setStatus 2 1 { status := .replaced, replacementCash := some (cash 3000) },
   setStatus 3 1 { status := .replaced }]

theorem collectedOnce_of_keepsReplaced_school : ∃ db contract, School.signed = .ok (db, contract) ∧
    CollectedOnce db School.replacedTwice := by
  obtain ⟨⟨db, contract⟩, created, keeps⟩ := Returns.exists (by decide +kernel :
    Returns School.signed fun x =>
      Along exec KeepsReplaced x.1 School.replacedTwice)
  exact ⟨db, contract, created, collectedOnce_of_keepsReplaced keeps⟩

/-- A cheque of 3000 that was replaced by 3000 in cash is cashed: the debt goes down by 6000. -/
theorem not_collectedOnce_of_replaced :
    ¬ ∀ (db₀ db : Db) (t : Id) (dto : CreateFeeContractDto) (contract : StudentFeeContract),
      createContract db₀ t dto = .ok (db, contract) →
      ∀ calls, AllSucceed db calls → CollectedOnce db calls := by
  intro claim
  let calls : List Call := [.recordChequePayment 1 9 (School.cheque 3000),
    School.setStatus 1 1 { status := .replaced, replacementCash := some (School.cash 3000) }]
  let cashing := School.setStatus 2 1 { status := .cashed }
  obtain ⟨⟨db, contract⟩, created, succeed, closed, before, after⟩ :=
    Returns.exists (by decide +kernel : Returns School.signed fun x =>
        AllSucceed x.1 (calls ++ [cashing]) ∧ Closed (run exec x.1 calls) 1 ∧
          (run exec x.1 calls).balanceOf 1 = 7000 ∧
          (run exec x.1 (calls ++ [cashing])).balanceOf 1 = 4000)
  have untouched := (claim _ db _ _ contract created _ succeed).1 1 calls [] cashing [] rfl rfl closed
  have same := untouched.1 1
  rw [List.append_nil, before, after] at same
  norm_num at same

end Rokad.Finance
