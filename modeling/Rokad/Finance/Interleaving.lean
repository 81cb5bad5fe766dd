import Rokad.Finance.Books

/-!
# Interleaved desk calls

`recordCashPayment` and `updateChequeStatus` read the contract outside their transaction and
write a balance computed from that reading. Two calls that both read before either
commits lose one of the two payments (`not_serialBalance_of_interleaving`). When every
call commits while what it uses of its reading still holds, any interleaving of any
number of calls leaves the database some serial order of them leaves.
-/

namespace Rokad.Finance

open Rokad.Base

/-- A call of the cash desk. -/
inductive DeskCall where
  | cash (env : Env) (tenantId recordedById : Id) (dto : RecordCashPaymentDto)
  | cheque (env : Env) (tenantId paymentId changedById : Id) (dto : UpdateChequeStatusDto)

inductive DeskReading where
  | cash (reading : CashReading)
  | cheque (reading : ChequeReading)
deriving DecidableEq

namespace DeskCall

def toCall : DeskCall → Call
  | .cash env t r dto => .recordCashPayment env t r dto
  | .cheque env t p r dto => .updateChequeStatus env t p r dto

def read : DeskCall → Db → Result DeskReading
  | .cash _ t _ dto, db => do
      let reading ← recordCashPayment.read t dto db
      return .cash reading
  | .cheque _ t p _ dto, db => do
      let reading ← updateChequeStatus.read t p dto db
      return .cheque reading

/-- A call commits a reading of its own. -/
def commit : DeskCall → DeskReading → Db → Result Db
  | .cash env t r dto, .cash reading, db => do
      let (db, _) ← recordCashPayment.transaction env t r dto reading db
      return db
  | .cheque env t _ r dto, .cheque reading, db => do
      let (db, _) ← updateChequeStatus.transaction env t r dto reading db
      return db
  | _, _, _ => .error (.database .recordNotFound)

/-- The status change writes a balance. -/
def writesBalance (dto : UpdateChequeStatusDto) (cheque : FeePayment) : Bool :=
  (dto.status = .cashed && cheque.checkStatus ≠ some .cashed) ||
    (dto.status = .replaced && dto.replacementCheque.isNone && dto.replacementCash.isSome)

/-- What a transaction that writes a balance uses of the contract. -/
def SameBalance (c c' : StudentFeeContract) : Prop :=
  c.balanceRemaining = c'.balanceRemaining ∧ c.status = c'.status ∧
    c.financialHoldReason = c'.financialHoldReason
deriving Decidable

/-- Two readings agree on what the transaction uses of them. -/
def Same : DeskCall → DeskReading → DeskReading → Prop
  | .cash .., .cash a, .cash b =>
    a.student = b.student ∧ a.contract.id = b.contract.id ∧
      a.contract.balanceRemaining = b.contract.balanceRemaining ∧
      a.contract.status = b.contract.status
  | .cheque _ _ _ _ dto, .cheque a, .cheque b =>
    a.cheque = b.cheque ∧ a.student = b.student ∧ a.contract.id = b.contract.id ∧
      (writesBalance dto a.cheque = true → SameBalance a.contract b.contract)
  | _, _, _ => False

instance (call : DeskCall) : DecidableRel call.Same := fun a b => by
  unfold Same
  split <;> infer_instance

section

variable {env : Env} {t r : Id} {dto : UpdateChequeStatusDto} {a b : ChequeReading} {db : Db}
  (cheque : a.cheque = b.cheque) (student : a.student = b.student)
  (id : a.contract.id = b.contract.id)

include cheque student id

omit student in
theorem otherBounced_same : otherBounced db t a.contract a.cheque =
    otherBounced db t b.contract b.cheque := by
  unfold otherBounced
  rw [cheque, id]

theorem cashCheque_same (balance : SameBalance a.contract b.contract) :
    updateChequeStatus.cashCheque env t r a db = updateChequeStatus.cashCheque env t r b db := by
  obtain ⟨amount, status, reason⟩ := balance
  unfold updateChequeStatus.cashCheque updateChequeStatus.cashedReceipt writeBalance
    updateChequeStatus.holdAfterCashing
  dsimp only
  rw [otherBounced_same cheque id, cheque, student, id, amount, status, reason]

theorem replacement_same
    (balance : dto.replacementCheque = none → dto.replacementCash.isSome = true →
      SameBalance a.contract b.contract) :
    updateChequeStatus.replacement env t r dto a db =
      updateChequeStatus.replacement env t r dto b db := by
  unfold updateChequeStatus.replacement
  cases newCheque : dto.replacementCheque with
  | some replacement =>
    simp only [updateChequeStatus.replaceByCheque, updateChequeStatus.replacementChequePayment,
      cheque, id]
  | none =>
  cases cash : dto.replacementCash with
  | none => rfl
  | some replacement =>
    obtain ⟨amount, status, -⟩ := balance newCheque (by simp [cash])
    simp only [updateChequeStatus.replaceByCash, updateChequeStatus.replacementCashPayment,
      updateChequeStatus.replacementCashReceipt, writeBalance, cheque, student, id, amount,
      status]

theorem applyStatus_same
    (writes : writesBalance dto a.cheque = true → SameBalance a.contract b.contract) :
    updateChequeStatus.applyStatus env t r dto a db =
      updateChequeStatus.applyStatus env t r dto b db := by
  unfold updateChequeStatus.applyStatus
  by_cases cashing : dto.status = .cashed ∧ a.cheque.checkStatus ≠ some .cashed
  · rw [if_pos cashing, if_pos (cheque ▸ cashing),
      cashCheque_same cheque student id (writes (by simp [writesBalance, cashing]))]
  · rw [if_neg cashing, if_neg (cheque ▸ cashing)]
    cases status : dto.status with
    | bounced => simp only [updateChequeStatus.bounceCheque, cheque, id]
    | replaced =>
      unfold updateChequeStatus.releaseHold
      simp only [otherBounced_same cheque id, id]
      rw [replacement_same cheque student id fun newCheque cash =>
        writes (by simp [writesBalance, status, newCheque, cash])]
    | pending => rfl
    | cashed => rfl

end

theorem commit_same (call : DeskCall) (a b : DeskReading) (db : Db) (same : call.Same a b) :
    call.commit a db = call.commit b db := by
  cases call with
  | cash env t r dto =>
    cases a with
    | cheque a => exact same.elim
    | cash a =>
    cases b with
    | cheque b => exact same.elim
    | cash b =>
    obtain ⟨student, id, balance, status⟩ := same
    simp only [commit, recordCashPayment.transaction, recordCashPayment.payment,
      recordCashPayment.installment, recordCashPayment.receipt, writeBalance, student, id, balance,
      status]
  | cheque env t p r dto =>
    cases a with
    | cash a => exact same.elim
    | cheque a =>
    cases b with
    | cash b => exact same.elim
    | cheque b =>
    obtain ⟨cheque, student, id, writes⟩ := same
    simp only [commit, updateChequeStatus.transaction, cheque,
      applyStatus_same cheque student id writes]

/-- The call as a read and a commit. -/
def readCommit (call : DeskCall) : ReadCommit Db DeskReading Failure where
  read := call.read
  commit := call.commit
  same := call.Same
  commit_same := call.commit_same

instance (call : DeskCall) : DecidableRel call.readCommit.same :=
  inferInstanceAs (DecidableRel call.Same)

/-- A read followed at once by its commit is the call. -/
theorem commit_read {call : DeskCall} {reading : DeskReading} {db db' : Db}
    (read : call.read db = .ok reading) (committed : call.commit reading db = .ok db') :
    exec db call.toCall = db' := by
  cases call with
  | cash env t r dto =>
    simp only [DeskCall.read, do_eq_ok] at read
    obtain ⟨reading, read, rfl⟩ := read
    simp only [commit, do_eq_ok] at committed
    obtain ⟨⟨db₁, reply⟩, ran, rfl⟩ := committed
    simp [toCall, exec, recordCashPayment, read, ran, bind, Except.bind, Finance.committed]
  | cheque env t p r dto =>
    simp only [DeskCall.read, do_eq_ok] at read
    obtain ⟨reading, read, rfl⟩ := read
    simp only [commit, do_eq_ok] at committed
    obtain ⟨⟨db₁, reply⟩, ran, rfl⟩ := committed
    simp [toCall, exec, updateChequeStatus, read, ran, bind, Except.bind, Finance.committed]

end DeskCall

section

variable {ι : Type} [DecidableEq ι]

/-- Several calls in progress over one database. -/
abbrev Desk (ι : Type) := Threads Db (Phase DeskReading Failure) ι

abbrev deskStep (calls : ι → DeskCall) : Desk ι → Move ι Unit Empty → Desk ι :=
  ReadCommit.moveStep fun i => (calls i).readCommit

/-- All calls are done, and succeeded. -/
abbrev AllCommitted (p : Desk ι) : Prop := ∀ i, p.own i = .committed

/-- The contract's balance is one that some serial order of the calls produces. -/
def SerialBalance (calls : ι → DeskCall) (db final : Db) (contractId : Id) : Prop :=
  ∃ order : List ι, order.Nodup ∧ (∀ i, i ∈ order) ∧
    (run exec db (order.map fun i => (calls i).toCall)).balanceOf contractId =
      final.balanceOf contractId

/-- At each commit, what the call uses of its reading is still in the database. -/
abbrev NoStaleCommit (calls : ι → DeskCall) : Desk ι → List (Move ι Unit Empty) → Prop :=
  Along (deskStep calls) (ReadCommit.Current fun i => (calls i).readCommit)

omit [DecidableEq ι] in
theorem run_of_serial {calls : ι → DeskCall} {order : List ι} {db db' : Db}
    (serial : ReadCommit.serial (fun i => (calls i).readCommit) order db = .ok db') :
    run exec db (order.map fun i => (calls i).toCall) = db' := by
  induction order generalizing db with
  | nil =>
    cases serial
    rfl
  | cons i order ih =>
    simp only [ReadCommit.serial, bind_eq_ok] at serial
    obtain ⟨reading, read, db₁, committed, rest⟩ := serial
    rw [List.map_cons, run_cons, DeskCall.commit_read read committed]
    exact ih rest

/-- **No lost payment.** Calls that all succeed, in any interleaving in which none commits
on a stale reading, leave every contract the balance of a serial order. -/
theorem serialBalance_of_noStaleCommit (calls : ι → DeskCall) (db : Db)
    (moves : List (Move ι Unit Empty))
    (current : NoStaleCommit calls (ReadCommit.start db) moves)
    (all : AllCommitted (run (deskStep calls) (ReadCommit.start db) moves)) (contractId : Id) :
    SerialBalance calls db (run (deskStep calls) (ReadCommit.start db) moves).shared contractId := by
  obtain ⟨order, nodup, mem, serial⟩ := ReadCommit.exists_serial_order current all
  exact ⟨order, nodup, mem, by rw [run_of_serial serial]⟩

end

/-- Two cash payments on the school's contract of 10000. -/
def School.twoPayments : Bool → DeskCall
  | false => .cash { now := 1 } 1 9 (School.cash 3000)
  | true => .cash { now := 2 } 1 9 (School.cash 4000)

/-- A cash payment, and a cheque that bounces: its transaction writes no balance. -/
def School.paymentAndBounce : Bool → DeskCall
  | false => .cash { now := 1 } 1 9 (School.cash 3000)
  | true => .cheque { now := 2 } 1 1 9 { status := .bounced }

/-- The payment commits between the reading of the cheque and its transaction. -/
theorem serialBalance_of_noStaleCommit_school : ∃ db contract, School.signed = .ok (db, contract) ∧
    let start := exec db (.recordChequePayment 1 9 (School.cheque 3000))
    SerialBalance School.paymentAndBounce start (run (deskStep School.paymentAndBounce)
      (ReadCommit.start start) (moves [true, false, false, true])).shared contract.id := by
  obtain ⟨⟨db, contract⟩, created, current, all⟩ := Returns.exists (by decide +kernel :
    Returns School.signed fun x =>
      let start := ReadCommit.start (exec x.1 (.recordChequePayment 1 9 (School.cheque 3000)))
      NoStaleCommit School.paymentAndBounce start (moves [true, false, false, true]) ∧
      AllCommitted (run (deskStep School.paymentAndBounce) start (moves [true, false, false, true])))
  exact ⟨db, contract, created, serialBalance_of_noStaleCommit _ _ _ current all contract.id⟩

/-- Both payments read the balance before either writes it: one of them is lost. -/
theorem not_serialBalance_of_interleaving :
    ¬ ∀ (calls : Bool → DeskCall) (db : Db) (moves : List (Move Bool Unit Empty))
      (contractId : Id), AllCommitted (run (deskStep calls) (ReadCommit.start db) moves) →
        SerialBalance calls db (run (deskStep calls) (ReadCommit.start db) moves).shared
          contractId := by
  intro claim
  obtain ⟨⟨db, contract⟩, -, all, final, serial⟩ := Returns.exists (by decide +kernel :
    Returns School.signed fun x =>
      let moves := [.thread false (), .thread true (), .thread false (), .thread true ()]
      let final := run (deskStep School.twoPayments) (ReadCommit.start x.1) moves
      AllCommitted final ∧ final.shared.balanceOf x.2.id = 6000 ∧
        ∀ order ∈ [false, true].permutations',
          (run exec x.1 (order.map fun i => (School.twoPayments i).toCall)).balanceOf x.2.id = 3000)
  obtain ⟨order, nodup, mem, same⟩ := claim _ db _ contract.id all
  have perm : order.Perm [false, true] :=
    (List.perm_ext_iff_of_nodup nodup (by decide)).mpr fun b => by cases b <;> simp [mem]
  rw [serial order (List.mem_permutations'.mpr perm), final] at same
  norm_num at same

end Rokad.Finance
