import Rokad.Finance.Calls

/-!
# The ledger

What the finance tables are for: per contract the amount payable, the debt that remains,
the money receipted and what its installments still ask for, and per installment what
was paid on it. A payment is a `Posting`: an amount against one contract, credited to at
most one installment.

`Conserved` says that the debt went down by exactly the receipted money, `Agrees` that the
installments ask for exactly the debt. A posting keeps the first if the debt covers it, and
the second if it is also credited to an installment of its contract.
-/

namespace Rokad.Finance

structure Ledger where
  (payable balance receipted owed paid : Id → ℚ)

/-- The installment a payment is credited to, and the contract that installment is of. -/
structure Credit where
  (installmentId contractId : Id)

structure Posting where
  contractId : Id
  credit : Option Credit
  amount : ℚ

namespace Ledger

@[ext] theorem ext {l m : Ledger} (payable : l.payable = m.payable) (balance : l.balance = m.balance)
    (receipted : l.receipted = m.receipted) (owed : l.owed = m.owed) (paid : l.paid = m.paid) :
    l = m := by
  cases l; cases m; simp_all

def setBalance (l : Ledger) (k : Id) (balance : ℚ) : Ledger :=
  { l with balance := Function.update l.balance k balance }

def receipt (l : Ledger) (k : Id) (amount : ℚ) : Ledger :=
  { l with receipted := Function.update l.receipted k (l.receipted k + amount) }

def credit (l : Ledger) (c : Option Credit) (amount : ℚ) : Ledger :=
  match c with
  | none => l
  | some c =>
    { l with
      paid := Function.update l.paid c.installmentId (l.paid c.installmentId + amount)
      owed := Function.update l.owed c.contractId (l.owed c.contractId - amount) }

/-- A payment: the debt goes down by the amount, though not below zero, the amount is
receipted, and it is credited. -/
def post (l : Ledger) (p : Posting) : Ledger :=
  ((l.setBalance p.contractId (max 0 (l.balance p.contractId - p.amount))).receipt p.contractId
    p.amount).credit p.credit p.amount

section

variable (l : Ledger) (p : Posting) (k : Id)

@[simp] theorem post_payable : (l.post p).payable k = l.payable k := by
  unfold post credit
  split <;> rfl

@[simp] theorem post_balance : (l.post p).balance k =
    if k = p.contractId then max 0 (l.balance k - p.amount) else l.balance k := by
  unfold post credit
  split <;> by_cases h : k = p.contractId <;> simp [setBalance, receipt, h]

@[simp] theorem post_receipted : (l.post p).receipted k =
    if k = p.contractId then l.receipted k + p.amount else l.receipted k := by
  unfold post credit
  split <;> by_cases h : k = p.contractId <;> simp [setBalance, receipt, h]

@[simp] theorem post_owed : (l.post p).owed k =
    if p.credit.map Credit.contractId = some k then l.owed k - p.amount else l.owed k := by
  unfold post credit
  split
  · rename_i none
    simp [none, setBalance, receipt]
  · rename_i c some
    by_cases h : k = c.contractId
    · simp [some, setBalance, receipt, h]
    · simp [some, setBalance, receipt, h, Ne.symm h]

end

/-! The elementary changes commute, so a posting can be made in any order. -/

theorem setBalance_credit (l : Ledger) (c : Option Credit) (a : ℚ) (k : Id) (b : ℚ) :
    (l.credit c a).setBalance k b = (l.setBalance k b).credit c a := by
  cases c <;> rfl

theorem receipt_credit (l : Ledger) (c : Option Credit) (a : ℚ) (k : Id) (b : ℚ) :
    (l.credit c a).receipt k b = (l.receipt k b).credit c a := by
  cases c <;> rfl

/-! ### Conservation -/

/-- The debt of the contract went down by exactly the money receipted for it. -/
def Conserved (l : Ledger) (k : Id) : Prop := l.payable k - l.balance k = l.receipted k

/-- The debt covers the posting, if it is one on this contract. -/
def Covers (l : Ledger) (k : Id) (p : Posting) : Prop :=
  p.contractId = k → p.amount ≤ l.balance k

theorem Conserved.post {l : Ledger} {k : Id} {p : Posting} (conserved : l.Conserved k)
    (covers : l.Covers k p) : (l.post p).Conserved k := by
  unfold Conserved at *
  by_cases same : k = p.contractId
  · have le := covers same.symm
    simp only [post_payable, post_balance, post_receipted, if_pos same]
    rw [max_eq_right (by linarith)]
    linarith
  · simpa [same] using conserved

/-! ### Agreement of the installments with the contract -/

/-- The installments of the contract together ask for exactly its debt. -/
def Agrees (l : Ledger) (k : Id) : Prop := l.owed k = l.balance k

/-- The posting is on the contract exactly when its credit is. -/
def Placed (k : Id) (p : Posting) : Prop :=
  p.contractId = k ↔ p.credit.map Credit.contractId = some k

theorem Agrees.post {l : Ledger} {k : Id} {p : Posting} (agrees : l.Agrees k)
    (covers : l.Covers k p) (placed : Placed k p) : (l.post p).Agrees k := by
  unfold Agrees at *
  by_cases same : p.contractId = k
  · have le := covers same
    rw [post_owed, post_balance, if_pos (placed.mp same), if_pos same.symm,
      max_eq_right (by linarith), agrees]
  · rw [post_owed, post_balance, if_neg fun h => same (placed.mpr h), if_neg (Ne.symm same), agrees]

end Ledger

/-!
## The tables refine the ledger

`Db.ledger` reads a ledger off the tables. Each statement moves it by one of the
ledger's elementary changes (`ledger_createReceipt`, `ledger_updateContract` and so on), and
each step the services share by the change it is named for.

`Books` is what a booking does to the ledger: it posts the amount, provided the amount
rounds cleanly, and in any case moves only its own contract and installment. `Credits` is
what it does to the row of the installment.
-/

open Rokad.Base

namespace Db

def balanceOf (db : Db) (k : Id) : ℚ := (db.contracts.find? k).elim 0 (·.balanceRemaining)

def payableOf (db : Db) (k : Id) : ℚ := (db.contracts.find? k).elim 0 (·.finalPayableAmount)

/-- The amounts of the receipts issued for the contract. -/
def receiptsOf (db : Db) (k : Id) : ℚ :=
  (db.receipts.rows.map fun r => if r.contractId = k then (r.amount : ℚ) else 0).sum

/-- What the installments of the contract still ask for. -/
def owedOf (db : Db) (k : Id) : ℚ :=
  (db.installments.rows.map fun i =>
    if i.contractId = k then (i.amount : ℚ) - i.paidAmount else 0).sum

def paidOf (db : Db) (i : Id) : ℚ := (db.installments.find? i).elim 0 (·.paidAmount)

def ledger (db : Db) : Ledger where
  payable := db.payableOf
  balance := db.balanceOf
  receipted := db.receiptsOf
  owed := db.owedOf
  paid := db.paidOf

variable (db : Db) (k : Id)

@[simp] theorem ledger_payable : db.ledger.payable k = db.payableOf k := rfl

@[simp] theorem ledger_balance : db.ledger.balance k = db.balanceOf k := rfl

@[simp] theorem ledger_receipted : db.ledger.receipted k = db.receiptsOf k := rfl

@[simp] theorem ledger_owed : db.ledger.owed k = db.owedOf k := rfl

@[simp] theorem ledger_paid : db.ledger.paid k = db.paidOf k := rfl

end Db

/-! ### Statements -/

section

variable {db db' : Db}

theorem ledger_congr (contracts : db'.contracts = db.contracts)
    (installments : db'.installments = db.installments) (receipts : db'.receipts = db.receipts) :
    db'.ledger = db.ledger := by
  unfold Db.ledger Db.payableOf Db.balanceOf Db.receiptsOf Db.owedOf Db.paidOf
  rw [contracts, installments, receipts]

theorem ledger_createPayment {row : FeePayment}
    (done : db.write (.createPayment row) = .ok db') : db'.ledger = db.ledger :=
  ledger_congr (Db.write_contracts done) (Db.write_installments done) (Db.write_receipts done)

theorem ledger_updatePayment {id : Id} {data : PaymentUpdate}
    (done : db.write (.updatePayment id data) = .ok db') : db'.ledger = db.ledger :=
  ledger_congr (Db.write_contracts done) (Db.write_installments done) (Db.write_receipts done)

theorem ledger_createTransaction {row : PaymentTransaction}
    (done : db.write (.createTransaction row) = .ok db') : db'.ledger = db.ledger :=
  ledger_congr (Db.write_contracts done) (Db.write_installments done) (Db.write_receipts done)

theorem ledger_updateTransaction {id : Id} {data : TransactionUpdate}
    (done : db.write (.updateTransaction id data) = .ok db') : db'.ledger = db.ledger :=
  ledger_congr (Db.write_contracts done) (Db.write_installments done) (Db.write_receipts done)

theorem ledger_createReceipt {row : FeeReceipt} (done : db.write (.createReceipt row) = .ok db') :
    db'.ledger = db.ledger.receipt row.contractId row.amount := by
  have inserted := Db.write_receipts done
  have contracts := Db.write_contracts done
  have installments := Db.write_installments done
  simp only at inserted contracts installments
  ext k
  · simp [Db.ledger, Db.payableOf, contracts, Ledger.receipt]
  · simp [Db.ledger, Db.balanceOf, contracts, Ledger.receipt]
  · have sum := Table.sum_insert inserted fun r => if r.contractId = k then (r.amount : ℚ) else 0
    by_cases same : k = row.contractId
    · subst same
      simpa [Db.ledger, Db.receiptsOf, Ledger.receipt] using sum
    · simpa [Db.ledger, Db.receiptsOf, Ledger.receipt, same, Ne.symm same] using sum
  · simp [Db.ledger, Db.owedOf, installments, Ledger.receipt]
  · simp [Db.ledger, Db.paidOf, installments, Ledger.receipt]

/-- An update of a contract moves its balance when it sets it. -/
theorem ledger_updateContract {id : Id} {data : ContractUpdate}
    (done : db.write (.updateContract id data) = .ok db') :
    db'.ledger = match data.balanceRemaining with
      | some m => db.ledger.setBalance id m
      | none => db.ledger := by
  have updated := Db.write_contracts done
  have installments := Db.write_installments done
  have receipts := Db.write_receipts done
  simp only at updated installments receipts
  obtain ⟨row, found⟩ := Table.find?_of_update updated
  have contracts := Table.find?_update updated
  have payable : db'.payableOf = db.payableOf := by
    funext k
    unfold Db.payableOf
    rw [contracts k]
    cases db.contracts.find? k with
    | none => rfl
    | some c =>
      by_cases same : k = id <;> simp [same, ContractUpdate.apply]
  have balance : db'.balanceOf = match data.balanceRemaining with
      | some m => Function.update db.balanceOf id m
      | none => db.balanceOf := by
    cases set : data.balanceRemaining with
    | none =>
      funext k
      simp only [Db.balanceOf, contracts k]
      cases db.contracts.find? k with
      | none => rfl
      | some c => by_cases same : k = id <;> simp [same, ContractUpdate.apply, set]
    | some m =>
      funext k
      unfold Db.balanceOf
      rw [contracts k]
      by_cases same : k = id
      · subst same
        simp [found, ContractUpdate.apply, set]
      · simp [same]
  have rest : db'.receiptsOf = db.receiptsOf ∧ db'.owedOf = db.owedOf ∧ db'.paidOf = db.paidOf := by
    unfold Db.receiptsOf Db.owedOf Db.paidOf
    rw [installments, receipts]
    exact ⟨rfl, rfl, rfl⟩
  unfold Db.ledger
  rw [payable, balance, rest.1, rest.2.1, rest.2.2]
  cases data.balanceRemaining <;> rfl

/-- An update of an installment credits it with the difference. -/
theorem ledger_updateInstallment {inst : FeeInstallment} {data : InstallmentUpdate}
    (found : db.installments.find? inst.id = some inst)
    (done : db.write (.updateInstallment inst.id data) = .ok db') :
    db'.ledger = db.ledger.credit (some ⟨inst.id, inst.contractId⟩)
      (data.paidAmount - inst.paidAmount) := by
  have updated := Db.write_installments done
  have contracts := Db.write_contracts done
  have receipts := Db.write_receipts done
  simp only at updated contracts receipts
  ext k
  · simp [Db.ledger, Db.payableOf, contracts, Ledger.credit]
  · simp [Db.ledger, Db.balanceOf, contracts, Ledger.credit]
  · simp [Db.ledger, Db.receiptsOf, receipts, Ledger.credit]
  · have sum := Table.sum_update updated found fun i =>
      if i.contractId = k then (i.amount : ℚ) - i.paidAmount else 0
    by_cases same : k = inst.contractId
    · subst same
      simp only [Db.ledger, Db.owedOf, Ledger.credit, Function.update_self] at sum ⊢
      rw [sum]
      simp only [InstallmentUpdate.apply, if_true]
      ring
    · simpa [Db.ledger, Db.owedOf, Ledger.credit, same, Ne.symm same, InstallmentUpdate.apply]
        using sum
  · have paid := Table.find?_update updated k
    by_cases same : k = inst.id
    · subst same
      simp [Db.ledger, Db.paidOf, Ledger.credit, paid, found, InstallmentUpdate.apply]
    · simp [Db.ledger, Db.paidOf, Ledger.credit, paid, same]

end

/-! ### Postings -/

def FeeInstallment.toCredit (i : FeeInstallment) : Credit := ⟨i.id, i.contractId⟩

/-- The posting of a booking: the amount as the columns keep it. -/
def Booking.posting (b : Booking) : Posting :=
  ⟨b.contractId, b.installment.map FeeInstallment.toCredit, columnValue b.amount⟩

/-- The ledger after a booking: the amount fits its column, only its contract and the installment
it credits move, and when the amount rounds cleanly they move by the posting. -/
structure Books (l : Ledger) (b : Booking) (l' : Ledger) : Prop where
  stored : ∃ s, Money.store b.amount = some s
  moved : ∃ balance receipted credited : ℚ,
    l' = ((l.setBalance b.contractId balance).receipt b.contractId receipted).credit
      (b.installment.map FeeInstallment.toCredit) credited
  posted : RoundsCleanly b.amount → l' = l.post b.posting

/-- The status a credit leaves an installment in. -/
def creditedStatus (inst : FeeInstallment) (amount : ℚ) : InstallmentStatus :=
  if (inst.amount : ℚ) ≤ Decimal.add inst.paidAmount amount then .paid else .partiallyPaid

/-- The installments after a booking: the one it credits has the amount added. -/
def Credits (db db' : Db) (b : Booking) : Prop :=
  match b.installment with
  | none => db'.installments = db.installments
  | some inst => db.installments.find? inst.id = some inst ∧
      ∃ paid paidAt, Money.store (Decimal.add inst.paidAmount b.amount) = some paid ∧
        db.installments.update inst.id
          (InstallmentUpdate.apply ⟨paid, creditedStatus inst b.amount, paidAt⟩)
          (InstallmentUpdate.key_apply _) = some db'.installments

structure Booked (db db' : Db) (b : Booking) : Prop where
  books : Books db.ledger b db'.ledger
  credits : Credits db db' b

/-- A step that books at most one payment, and otherwise touches neither a balance nor an
installment. -/
def Posts (db db' : Db) : Option Booking → Prop
  | none => db'.ledger = db.ledger ∧ db'.installments = db.installments
  | some b => Booked db db' b

variable {db db' : Db}

theorem balanceOf_eq {k : Id} {c : StudentFeeContract} (found : db.contracts.find? k = some c) :
    db.balanceOf k = c.balanceRemaining := by
  simp [Db.balanceOf, found]

theorem creditInstallment_frame {found : Option FeeInstallment} {a : ℚ} {now : Instant}
    (done : creditInstallment db found a now = .ok db') :
    db'.students = db.students ∧ db'.contracts = db.contracts ∧
      db'.transactions = db.transactions ∧ db'.payments = db.payments ∧
      db'.receipts = db.receipts := by
  rcases creditInstallment_ok done with ⟨-, rfl⟩ | ⟨inst, paid, -, -, written⟩
  · exact ⟨rfl, rfl, rfl, rfl, rfl⟩
  · exact ⟨Db.write_students written, Db.write_contracts written, Db.write_transactions written,
      Db.write_payments written, Db.write_receipts written⟩

theorem writeBalance_frame {c : StudentFeeContract} {balance : ℚ} {data : ContractUpdate}
    (done : writeBalance db c balance data = .ok db') :
    db'.students = db.students ∧ db'.installments = db.installments ∧
      db'.transactions = db.transactions ∧ db'.payments = db.payments ∧
      db'.receipts = db.receipts := by
  obtain ⟨m, -, written⟩ := writeBalance_ok done
  exact ⟨Db.write_students written, Db.write_installments written, Db.write_transactions written,
    Db.write_payments written, Db.write_receipts written⟩

theorem debitContract_frame {contractId : Option Id} {a : ℚ}
    (done : debitContract db contractId a = .ok db') :
    db'.students = db.students ∧ db'.installments = db.installments ∧
      db'.transactions = db.transactions ∧ db'.payments = db.payments ∧
      db'.receipts = db.receipts := by
  rcases debitContract_ok done with ⟨-, rfl⟩ | ⟨c, -, balanced⟩
  · exact ⟨rfl, rfl, rfl, rfl, rfl⟩
  · exact writeBalance_frame balanced

/-- Crediting an amount that rounds cleanly credits what the column keeps of it. -/
theorem creditInstallment_ledger {found : Option FeeInstallment} {a : ℚ} {now : Instant}
    {s : Money} (done : creditInstallment db found a now = .ok db')
    (current : ∀ inst, found = some inst → db.installments.find? inst.id = some inst)
    (stored : Money.store a = some s) :
    ∃ credited, db'.ledger = db.ledger.credit (found.map FeeInstallment.toCredit) credited ∧
      (RoundsCleanly a → credited = s) := by
  rcases creditInstallment_ok done with ⟨rfl, rfl⟩ | ⟨inst, paid, rfl, storedPaid, written⟩
  · exact ⟨s, rfl, fun _ => rfl⟩
  · refine ⟨_, ledger_updateInstallment (current inst rfl) written, fun clean => ?_⟩
    rw [(Money.store_spec storedPaid).trans (columnValue_add inst.paidAmount stored clean)]
    exact add_sub_cancel_left _ _

/-- Writing the balance that a payment leaves, on a contract as it was found. -/
theorem writeFinalBalance_ledger {c : StudentFeeContract} {a : ℚ} {s : Money}
    {data : ContractUpdate}
    (done : writeBalance db c (finalBalance c.balanceRemaining a) data = .ok db')
    (stored : Money.store a = some s) :
    ∃ balance, db'.ledger = db.ledger.setBalance c.id balance ∧
      (RoundsCleanly a → balance = max 0 ((c.balanceRemaining : ℚ) - s)) := by
  obtain ⟨m, storedBalance, written⟩ := writeBalance_ok done
  exact ⟨m, ledger_updateContract written,
    fun clean => store_finalBalance stored clean storedBalance⟩

theorem debitContract_ledger {contractId : Option Id} {s : Money}
    (done : debitContract db contractId s = .ok db') {k : Id} {c : StudentFeeContract}
    (contract : contractId = some k) (found : db.contracts.find? k = some c) :
    db'.ledger = db.ledger.setBalance k (max 0 ((c.balanceRemaining : ℚ) - s)) := by
  subst contract
  rcases debitContract_ok done with ⟨missing, -⟩ | ⟨c', found', balanced⟩
  · simp [found] at missing
  · obtain rfl : c' = c := by simpa [found] using found'.symm
    obtain ⟨balance, moved, exact⟩ := writeFinalBalance_ledger balanced (Money.store_coe s)
    rw [moved, exact (roundsCleanly_coe s), show c'.id = k from key_of_find? found]

/-- An installment that a look-up by an optional key found. -/
theorem current_of_bind {key : Option Id} {inst : FeeInstallment}
    (found : key.bind db.installments.find? = some inst) :
    db.installments.find? inst.id = some inst := by
  obtain ⟨i, -, hit⟩ := Option.bind_eq_some_iff.mp found
  exact db.installments.find?_key (mem_of_find? hit)

/-- A booking made of its three parts, in the order credit, balance, receipt or balance,
credit, receipt. -/
theorem Books.of_parts {l l' : Ledger} {b : Booking} {s : Money} {balance credited : ℚ}
    {c : StudentFeeContract}
    (stored : Money.store b.amount = some s) (before : l.balance b.contractId = c.balanceRemaining)
    (exactBalance : RoundsCleanly b.amount → balance = max 0 ((c.balanceRemaining : ℚ) - s))
    (exactCredit : RoundsCleanly b.amount → credited = s)
    (parts : l' = ((l.setBalance b.contractId balance).receipt b.contractId s).credit
      (b.installment.map FeeInstallment.toCredit) credited) : Books l b l' := by
  refine ⟨⟨s, stored⟩, ⟨balance, s, credited, parts⟩, fun clean => ?_⟩
  rw [parts, exactBalance clean, exactCredit clean, Ledger.post]
  simp only [Booking.posting, ← Money.store_spec stored, before]

/-- An installment after a booking was there before, or is the one the booking credited. -/
theorem Credits.mem {b : Booking} (credits : Credits db db' b) {i : FeeInstallment}
    (mem : i ∈ db'.installments.rows) : i ∈ db.installments.rows ∨
      ∃ inst paid paidAt, b.installment = some inst ∧ inst ∈ db.installments.rows ∧
        Money.store (Decimal.add inst.paidAmount b.amount) = some paid ∧
        i = InstallmentUpdate.apply ⟨paid, creditedStatus inst b.amount, paidAt⟩ inst := by
  unfold Credits at credits
  cases own : b.installment with
  | none =>
    simp only [own] at credits
    exact Or.inl (credits ▸ mem)
  | some inst =>
    simp only [own] at credits
    obtain ⟨found, paid, paidAt, stored, updated⟩ := credits
    rcases (mem_update updated).mp mem with ⟨before, -⟩ | ⟨row, hit, rfl⟩
    · exact Or.inl before
    · obtain rfl : row = inst := Option.some_inj.mp (hit.symm.trans found)
      exact Or.inr ⟨row, paid, paidAt, rfl, mem_of_find? found, stored, rfl⟩

theorem Credits.congr {db₁ db₂ : Db} {b : Booking} (credits : Credits db₁ db₂ b)
    (before : db₁.installments = db.installments) (after : db'.installments = db₂.installments) :
    Credits db db' b := by
  unfold Credits at *
  rwa [← before, after]

theorem creditInstallment_credits {b : Booking} {now : Instant}
    (done : creditInstallment db b.installment b.amount now = .ok db')
    (current : ∀ inst, b.installment = some inst →
      db.installments.find? inst.id = some inst) : Credits db db' b := by
  unfold Credits
  rcases creditInstallment_ok done with ⟨none, rfl⟩ | ⟨inst, paid, some, stored, written⟩
  · rw [none]
  · rw [some]
    exact ⟨current inst some, paid, _, stored, Db.write_installments written⟩

end Rokad.Finance
