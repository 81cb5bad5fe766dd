import Rokad.Finance.Footprint

/-!
# What no call changes

A call books payments; it does not create contracts or installments, and of the rows
that exist it changes only the columns that record payments. The `core` of a row is the
row without those columns. `Frame` says that the cores survive: every statement a call
executes has it (`Frame.of_write`), so every call has it (`exec_frame`) and every run
(`run_frame`).
-/

namespace Rokad.Finance

open Rokad.Base

def StudentFeeContract.core (c : StudentFeeContract) : StudentFeeContract :=
  { c with balanceRemaining := 0, status := .active, hasFinancialHold := false,
           financialHoldReason := none }

def FeeInstallment.core (i : FeeInstallment) : FeeInstallment :=
  { i with paidAmount := 0, status := .unpaid, paidAt := none }

def PaymentTransaction.core (t : PaymentTransaction) : PaymentTransaction :=
  { t with status := .pending, authority := none, refId := none, cardPan := none,
           verifiedAt := none, errorMessage := none }

def FeePayment.core (p : FeePayment) : FeePayment :=
  { p with checkStatus := none, checkStatusChangedAt := none, checkStatusChangedById := none,
           note := none, replacedByPaymentId := none }

structure Frame (db db' : Db) : Prop where
  students : db'.students = db.students
  contracts : ∀ k, (db'.contracts.find? k).map (·.core) = (db.contracts.find? k).map (·.core)
  installments :
    ∀ k, (db'.installments.find? k).map (·.core) = (db.installments.find? k).map (·.core)
  transactions : ∀ k x, db.transactions.find? k = some x →
    ∃ x', db'.transactions.find? k = some x' ∧ x'.core = x.core
  payments : ∀ k p, db.payments.find? k = some p →
    ∃ p', db'.payments.find? k = some p' ∧ p'.core = p.core
  receipts : ∀ r ∈ db.receipts.rows, r ∈ db'.receipts.rows

namespace Frame

variable {db db' db'' : Db}

theorem refl (db : Db) : Frame db db :=
  ⟨rfl, fun _ => rfl, fun _ => rfl, fun _ x h => ⟨x, h, rfl⟩, fun _ p h => ⟨p, h, rfl⟩,
    fun _ h => h⟩

theorem trans (first : Frame db db') (second : Frame db' db'') : Frame db db'' where
  students := second.students.trans first.students
  contracts k := (second.contracts k).trans (first.contracts k)
  installments k := (second.installments k).trans (first.installments k)
  transactions k x found := by
    obtain ⟨x', found', same⟩ := first.transactions k x found
    obtain ⟨x'', found'', same'⟩ := second.transactions k x' found'
    exact ⟨x'', found'', same'.trans same⟩
  payments k p found := by
    obtain ⟨p', found', same⟩ := first.payments k p found
    obtain ⟨p'', found'', same'⟩ := second.payments k p' found'
    exact ⟨p'', found'', same'.trans same⟩
  receipts r mem := second.receipts r (first.receipts r mem)

/-! ### Statements -/

section

variable {α : Type} [Record α] {t t' : Table α} {core : α → α}

theorem core_insert {row x : α} {k : Id} (inserted : t.insert row = some t')
    (found : t.find? k = some x) : ∃ x', t'.find? k = some x' ∧ core x' = core x :=
  ⟨x, Table.find?_insert_of_found inserted found, rfl⟩

theorem map_core_update {f : α → α} {keep : ∀ a, Record.key (f a) = Record.key a} {id : Id}
    (updated : t.update id f keep = some t') (same : ∀ a, core (f a) = core a) (k : Id) :
    (t'.find? k).map core = (t.find? k).map core := by
  rw [Table.find?_update updated, Option.map_map]
  congr 1
  funext a
  by_cases hit : k = id <;> simp [hit, same]

theorem core_update {f : α → α} {keep : ∀ a, Record.key (f a) = Record.key a} {id k : Id} {x : α}
    (updated : t.update id f keep = some t') (same : ∀ a, core (f a) = core a)
    (found : t.find? k = some x) : ∃ x', t'.find? k = some x' ∧ core x' = core x := by
  have mapped := map_core_update updated same k
  rw [found] at mapped
  exact Option.map_eq_some_iff.mp mapped

end

section

variable {s : Statement} (done : db.write s = .ok db')

include done

theorem contracts_of_write (ofCall : s.ofCall) (k : Id) :
    (db'.contracts.find? k).map (·.core) = (db.contracts.find? k).map (·.core) := by
  have contracts := Db.write_contracts done
  cases s <;> simp only at contracts
  case createContract => exact ofCall.elim
  case updateContract => exact map_core_update contracts (fun _ => rfl) k
  all_goals rw [contracts]

theorem installments_of_write (ofCall : s.ofCall) (k : Id) :
    (db'.installments.find? k).map (·.core) = (db.installments.find? k).map (·.core) := by
  have installments := Db.write_installments done
  cases s <;> simp only at installments
  case createInstallment => exact ofCall.elim
  case updateInstallment => exact map_core_update installments (fun _ => rfl) k
  all_goals rw [installments]

theorem transactions_of_write {k : Id} {x : PaymentTransaction}
    (found : db.transactions.find? k = some x) :
    ∃ x', db'.transactions.find? k = some x' ∧ x'.core = x.core := by
  have transactions := Db.write_transactions done
  cases s <;> simp only at transactions
  case createTransaction => exact core_insert transactions found
  case updateTransaction => exact core_update transactions (fun _ => rfl) found
  all_goals exact ⟨x, by rw [transactions]; exact found, rfl⟩

theorem payments_of_write {k : Id} {p : FeePayment} (found : db.payments.find? k = some p) :
    ∃ p', db'.payments.find? k = some p' ∧ p'.core = p.core := by
  have payments := Db.write_payments done
  cases s <;> simp only at payments
  case createPayment => exact core_insert payments found
  case updatePayment => exact core_update payments (fun _ => rfl) found
  all_goals exact ⟨p, by rw [payments]; exact found, rfl⟩

theorem receipts_of_write {r : FeeReceipt} (mem : r ∈ db.receipts.rows) :
    r ∈ db'.receipts.rows := by
  have receipts := Db.write_receipts done
  cases s <;> simp only at receipts
  case createReceipt => exact (mem_insert receipts).mpr (Or.inl mem)
  all_goals rwa [receipts]

theorem of_write (ofCall : s.ofCall) : Frame db db' where
  students := Db.write_students done
  contracts := contracts_of_write done ofCall
  installments := installments_of_write done ofCall
  transactions _ _ found := transactions_of_write done found
  payments _ _ found := payments_of_write done found
  receipts _ mem := receipts_of_write done mem

end

theorem of_executes {P : Db → Statement → Prop} (executes : Executes P db db')
    (ofCall : ∀ d s, P d s → s.ofCall) : Frame db db' :=
  executes.preorder .refl (fun _ _ _ => .trans) fun d s _ admitted done =>
    .of_write done (ofCall d s admitted)

end Frame

/-! ### Calls -/

theorem exec_frame (db : Db) (call : Call) : Frame db (exec db call) :=
  .of_executes (exec_executes db call) fun _ _ => Call.Admits.ofCall

theorem importRow_frame {env : Env} {t r : Id} {row : ImportFeePaymentRowDto} {n : ℕ} {db db' : Db}
    (done : confirmPaymentImport.importRow env t r row db = .ok (db', n)) : Frame db db' :=
  .of_executes (importRow_executes done) fun _ s records => by cases s <;> trivial

theorem run_frame (db : Db) (calls : List Call) : Frame db (run exec db calls) :=
  run_keeps (I := Frame db) (fun d call start => start.trans (exec_frame d call)) (.refl db) calls

/-- A payment after a call was there before it, or is positive when it is for an installment. -/
theorem exec_payments (db : Db) (call : Call) : ∀ p ∈ (exec db call).payments.rows,
    (∃ q ∈ db.payments.rows, q.core = p.core) ∨ (p.installmentId ≠ none → 0 < (p.amount : ℚ)) := by
  refine (exec_executes db call).keeps (I := fun d => ∀ p ∈ d.payments.rows,
    (∃ q ∈ db.payments.rows, q.core = p.core) ∨ (p.installmentId ≠ none → 0 < (p.amount : ℚ)))
    (fun d s d' admitted done before => ?_) fun p mem => Or.inl ⟨p, mem, rfl⟩
  have payments := Db.write_payments done
  cases s <;> simp only at payments
  case createPayment row =>
      intro p mem
      rcases (mem_insert payments).mp mem with mem | rfl
      · exact before p mem
      · exact Or.inr admitted.fresh.2
  case updatePayment id data =>
      intro p mem
      rcases (mem_update payments).mp mem with ⟨mem, -⟩ | ⟨q, found, rfl⟩
      · exact before p mem
      · exact before q (mem_of_find? found)
  all_goals rwa [payments]

/-- A transaction after a call was there before it, or asks for what an installment lacked. -/
theorem exec_transactions (db : Db) (call : Call) : ∀ x ∈ (exec db call).transactions.rows,
    (∃ y ∈ db.transactions.rows, y.core = x.core) ∨ x.Asks db := by
  refine (exec_executes db call).keeps (I := fun d => ∀ x ∈ d.transactions.rows,
    (∃ y ∈ db.transactions.rows, y.core = x.core) ∨ x.Asks db)
    (fun d s d' admitted done before => ?_) fun x mem => Or.inl ⟨x, mem, rfl⟩
  have transactions := Db.write_transactions done
  cases s <;> simp only at transactions
  case createTransaction row =>
      intro x mem
      rcases (mem_insert transactions).mp mem with mem | rfl
      · exact before x mem
      · exact Or.inr admitted.asks
  case updateTransaction id data =>
      intro x mem
      rcases (mem_update transactions).mp mem with ⟨mem, -⟩ | ⟨y, found, rfl⟩
      · exact before x mem
      · exact before y (mem_of_find? found)
  all_goals rwa [transactions]

/-- A contract that exists is there in every state of a run, payable as before. -/
theorem run_contract {db : Db} {k : Id} {c : StudentFeeContract}
    (found : db.contracts.find? k = some c) (calls : List Call) :
    ∃ c', (run exec db calls).contracts.find? k = some c' ∧ c'.core = c.core := by
  have same := (run_frame db calls).contracts k
  rw [found] at same
  exact Option.map_eq_some_iff.mp same

end Rokad.Finance
