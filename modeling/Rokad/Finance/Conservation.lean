import Rokad.Finance.Postings

/-!
# Conservation of receipted money

The debt of a contract goes down by the money receipted for it. A booking keeps that when
it is booked in full: the balance covers the amount, which the clamp at zero would
otherwise cut off, and the amount rounds the same in the balance as on the receipt. The
cash path is the only one that checks the first; no path checks the second.
-/

namespace Rokad.Finance

open Rokad.Base

/-- The balance covers the amount its column keeps, and rounding does not part the two. -/
def InFull (db : Db) (b : Booking) : Prop :=
  RoundsCleanly b.amount ∧ columnValue b.amount ≤ db.balanceOf b.contractId
deriving Decidable

/-- A booking in full conserves its contract; any other booking leaves it alone. -/
theorem Books.conserved {db : Db} {b : Booking} {l' : Ledger} {k : Id}
    (books : Books db.ledger b l') (inFull : b.contractId = k → InFull db b)
    (conserved : db.ledger.Conserved k) : l'.Conserved k := by
  by_cases own : b.contractId = k
  · obtain ⟨clean, covered⟩ := inFull own
    rw [books.posted clean]
    exact conserved.post fun _ => own ▸ covered
  · obtain ⟨balance, receipted, credited, rfl⟩ := books.moved
    have other : k ≠ b.contractId := fun same => own same.symm
    unfold Ledger.Conserved Ledger.credit at *
    split <;> simpa [Ledger.setBalance, Ledger.receipt, other] using conserved

theorem Posts.conserved {db db' : Db} {b : Option Booking} {k : Id} (posts : Posts db db' b)
    (inFull : ∀ b' ∈ b, b'.contractId = k → InFull db b') (conserved : db.ledger.Conserved k) :
    db'.ledger.Conserved k := by
  cases b with
  | none => rwa [posts.1]
  | some b => exact posts.books.conserved (inFull b rfl) conserved

theorem receiptsOf_eq_zero {db : Db} {k : Id} (none : ∀ r ∈ db.receipts.rows, r.contractId ≠ k) :
    db.receiptsOf k = 0 := by
  unfold Db.receiptsOf
  refine List.sum_eq_zero fun x mem => ?_
  obtain ⟨r, issued, rfl⟩ := List.mem_map.mp mem
  exact if_neg (none r issued)

theorem Opened.conserved {db db' : Db} {contract : StudentFeeContract}
    (opened : Opened db db' contract) : db'.ledger.Conserved contract.id := by
  have zero : db'.receiptsOf contract.id = 0 := by
    refine receiptsOf_eq_zero fun r mem => ?_
    rw [opened.receipts] at mem
    rw [opened.fresh]
    exact contract_ne_fresh db.foreignKeys.receipt_contract mem
  simp [Ledger.Conserved, zero, Db.payableOf, Db.balanceOf, opened.found, opened.unpaid]

/-- What was paid off the debt of the contract is what its receipts add up to. -/
def Accounted (db : Db) (k : Id) : Prop :=
  ∃ c, db.contracts.find? k = some c ∧
    (c.finalPayableAmount : ℚ) - c.balanceRemaining = db.receiptsOf k

/-- **Conservation.** From the contract `createContract` wrote, every run whose bookings on
it are booked in full leaves it accounted for. -/
theorem accounted_of_inFull {db₀ db : Db} {t : Id} {dto : CreateFeeContractDto}
    {contract : StudentFeeContract} (created : createContract db₀ t dto = .ok (db, contract))
    {calls : List Call}
    (inFull : Along exec (fun db call => ∀ x ∈ bookings db call,
      x.2.contractId = contract.id → InFull x.1 x.2) db calls) :
    Accounted (run exec db calls) contract.id := by
  have opened := (createContract_spec created).1
  obtain ⟨c, found, -⟩ := run_contract opened.found calls
  have conserved : (run exec db calls).ledger.Conserved contract.id :=
    run_posts (I := fun d => d.ledger.Conserved contract.id)
      (C := fun d b => b.contractId = contract.id → InFull d b)
      (fun _ _ _ _ => Posts.conserved) inFull opened.conserved
  refine ⟨c, found, ?_⟩
  simpa [Ledger.Conserved, Db.payableOf, Db.balanceOf, found] using conserved

theorem accounted_of_inFull_school : ∃ db contract, School.signed = .ok (db, contract) ∧
    Accounted (run exec db (School.payments none)) contract.id := by
  obtain ⟨⟨db, contract⟩, created, inFull⟩ := Returns.exists (by decide +kernel :
    Returns School.signed fun x =>
      Along exec (fun db call => ∀ b ∈ bookings db call,
        b.2.contractId = x.2.id → InFull b.1 b.2) x.1 (School.payments none))
  exact ⟨db, contract, created, accounted_of_inFull created inFull⟩

/-- A cheque larger than the debt is receipted in full and subtracted only down to zero. -/
theorem not_accounted_of_large_cheque :
    ¬ ∀ (db₀ db : Db) (t : Id) (dto : CreateFeeContractDto) (contract : StudentFeeContract),
      createContract db₀ t dto = .ok (db, contract) → ∀ calls, AllSucceed db calls →
        Accounted (run exec db calls) contract.id := by
  intro claim
  obtain ⟨⟨db, contract⟩, created, succeed, settled⟩ := Returns.exists (by decide +kernel :
    Returns (createContract School.db 1 (School.contractDto 2000 1000 3000)) fun x =>
      let calls := [.recordChequePayment 1 9 (School.cheque 5000),
        School.setStatus 1 1 { status := .cashed }]
      AllSucceed x.1 calls ∧ (run exec x.1 calls).payableOf x.2.id = 3000 ∧
        (run exec x.1 calls).balanceOf x.2.id = 0 ∧ (run exec x.1 calls).receiptsOf x.2.id = 5000)
  obtain ⟨c, found, accounted⟩ := claim _ db _ _ contract created _ succeed
  obtain ⟨payable, balance, receipts⟩ := settled
  simp only [Db.payableOf, Db.balanceOf, found, Option.elim_some] at payable balance
  rw [payable, balance, receipts] at accounted
  norm_num at accounted

/-!
## Agreement of the installments with the contract

The same money is booked twice, on a contract and on an installment, and a payment asks
for what an installment lacks. As long as each booking credits an installment of its own
contract with no more than it lacks, the installments together ask for exactly the debt,
and so no payment asks for more than the debt. Replacement cash and imported cash rows
credit no installment at all, and no path checks the amount against the installment.
-/

/-! ### Bookings on one installment -/

/-- The booking moves the contract or one of its installments. -/
def Booking.On (b : Booking) (k : Id) : Prop :=
  b.contractId = k ∨ b.installment.map (·.contractId) = some k
deriving Decidable

/-- The booking credits an installment of its contract with no more than it lacks. -/
def OnOneInstallment (b : Booking) : Prop :=
  match b.installment with
  | none => False
  | some inst => inst.contractId = b.contractId ∧ RoundsCleanly b.amount ∧
      columnValue b.amount ≤ (inst.amount : ℚ) - inst.paidAmount

instance (b : Booking) : Decidable (OnOneInstallment b) := by
  unfold OnOneInstallment
  split <;> infer_instance

/-- A booking elsewhere leaves the debt of the contract and what its installments ask for. -/
theorem Books.agrees_elsewhere {l l' : Ledger} {b : Booking} {k : Id} (books : Books l b l')
    (elsewhere : ¬ b.On k) (agrees : l.Agrees k) : l'.Agrees k := by
  obtain ⟨other, otherCredit⟩ := not_or.mp elsewhere
  obtain ⟨balance, receipted, credited, rfl⟩ := books.moved
  have other' : k ≠ b.contractId := fun same => other same.symm
  unfold Ledger.Agrees Ledger.credit at *
  cases own : b.installment with
  | none => simpa [Ledger.setBalance, Ledger.receipt, other'] using agrees
  | some inst =>
    have other'' : k ≠ inst.contractId := by
      rintro rfl
      exact otherCredit (by simp [own])
    simpa [Ledger.setBalance, Ledger.receipt, FeeInstallment.toCredit, other', other'']
      using agrees

/-! ### The invariant -/

/-- The installments of the contract ask for its debt, and none of them is overpaid. -/
structure InStep (db : Db) (k : Id) : Prop where
  agrees : db.ledger.Agrees k
  inBounds : ∀ i ∈ db.installments.rows, i.contractId = k → (i.paidAmount : ℚ) ≤ i.amount

section

variable {db db' : Db} {k : Id}

/-- What one installment lacks is part of the debt. -/
theorem InStep.lacks_le (inStep : InStep db k) {i : FeeInstallment}
    (mem : i ∈ db.installments.rows) (own : i.contractId = k) :
    (i.amount : ℚ) - i.paidAmount ≤ db.balanceOf k := by
  have nonneg : ∀ x ∈ db.installments.rows.map fun j =>
      if j.contractId = k then (j.amount : ℚ) - j.paidAmount else 0, 0 ≤ x := by
    intro x mem
    obtain ⟨j, row, rfl⟩ := List.mem_map.mp mem
    by_cases own : j.contractId = k
    · have inBounds := inStep.inBounds j row own
      simp only [own, if_true]
      linarith
    · simp [own]
  have single := List.single_le_sum nonneg _ (List.mem_map_of_mem mem)
  rw [if_pos own] at single
  exact single.trans_eq inStep.agrees

/-- A booking on one installment keeps the invariant. -/
theorem InStep.booked {b : Booking} (inStep : InStep db k) (booked : Booked db db' b)
    (onOne : b.On k → OnOneInstallment b) : InStep db' k := by
  by_cases on : b.On k
  · have fits := onOne on
    unfold OnOneInstallment at fits
    cases own : b.installment with
    | none => simp [own] at fits
    | some inst =>
      simp only [own] at fits
      obtain ⟨same, clean, le⟩ := fits
      have contract : b.contractId = k := by
        rcases on with contract | credit
        · exact contract
        · simpa [own, same] using credit
      obtain ⟨s, stored⟩ := booked.books.stored
      have current : inst ∈ db.installments.rows := by
        have credits := booked.credits
        simp only [Credits, own] at credits
        exact mem_of_find? credits.1
      constructor
      · rw [booked.books.posted clean]
        refine inStep.agrees.post (fun _ => ?_) ?_
        · exact le.trans (inStep.lacks_le current (same.trans contract))
        · simp [Ledger.Placed, Booking.posting, own, FeeInstallment.toCredit, contract, same]
      · intro i mem ofContract
        rcases booked.credits.mem mem with before | ⟨inst', paid, paidAt, own', -, added, rfl⟩
        · exact inStep.inBounds i before ofContract
        · obtain rfl : inst = inst' := Option.some_inj.mp (own.symm.trans own')
          simp only [InstallmentUpdate.apply]
          rw [Money.store_spec added, columnValue_add inst.paidAmount stored clean,
            Money.store_spec stored]
          linarith
  · refine ⟨booked.books.agrees_elsewhere on inStep.agrees, fun i mem ofContract => ?_⟩
    rcases booked.credits.mem mem with before | ⟨inst, paid, paidAt, own, -, -, rfl⟩
    · exact inStep.inBounds i before ofContract
    · exact absurd (Or.inr (by rw [own]; exact congrArg some ofContract)) on

theorem InStep.posts {b : Option Booking} (inStep : InStep db k) (posts : Posts db db' b)
    (onOne : ∀ b' ∈ b, b'.On k → OnOneInstallment b') : InStep db' k := by
  cases b with
  | none =>
    obtain ⟨ledger, installments⟩ := posts
    exact ⟨by rw [ledger]; exact inStep.agrees, by rw [installments]; exact inStep.inBounds⟩
  | some b => exact inStep.booked posts (onOne b rfl)

end

/-! ### Agreement -/

/-- What the installments of the contract are for. -/
def Db.amountsOf (db : Db) (k : Id) : ℚ :=
  (db.installments.rows.map fun i => if i.contractId = k then (i.amount : ℚ) else 0).sum

/-- The transactions a call opens for installments of the contract ask for at most its debt. -/
def AsksWithin (db : Db) (k : Id) : Prop :=
  ∀ call, ∀ x ∈ (exec db call).transactions.rows, db.transactions.find? x.id = none →
    ∀ i, db.installments.find? i.id = some i → x.installmentId = some i.id → i.contractId = k →
      (x.amount : ℚ) ≤ db.balanceOf k

/-- The installments of the contract ask for its debt, and no payment for more. -/
def Agreed (db : Db) (k : Id) : Prop := db.owedOf k = db.balanceOf k ∧ AsksWithin db k

theorem InStep.asksWithin {db : Db} {k : Id} (inStep : InStep db k) : AsksWithin db k := by
  intro call x mem new i found linked own
  rcases exec_transactions db call x mem with ⟨y, before, same⟩ | ⟨i', found', linked', -, amount⟩
  · have id : y.core.id = x.core.id := by rw [same]
    have hit := db.transactions.find?_key before
    rw [show Record.key y = x.id from id, new] at hit
    cases hit
  · have id : i'.id = i.id := Option.some_inj.mp (linked'.symm.trans linked)
    rw [id, found] at found'
    obtain rfl := Option.some_inj.mp found'
    rw [amount]
    exact inStep.lacks_le (mem_of_find? found) own

theorem Opened.inStep {db db' : Db} {contract : StudentFeeContract}
    (opened : Opened db db' contract)
    (exact : db'.amountsOf contract.id = contract.finalPayableAmount) : InStep db' contract.id := by
  have unpaid : db'.owedOf contract.id = db'.amountsOf contract.id := by
    unfold Db.owedOf Db.amountsOf
    refine congrArg List.sum (List.map_congr_left fun i mem => ?_)
    by_cases own : i.contractId = contract.id
    · simp [own, (opened.installments i mem own).1]
    · simp [own]
  constructor
  · simp [Ledger.Agrees, unpaid, exact, Db.balanceOf, opened.found, opened.unpaid]
  · intro i mem own
    obtain ⟨paid, -, positive⟩ := opened.installments i mem own
    rw [paid, Money.coe_zero]
    exact positive.le

/-- **Agreement.** From a contract whose installments add up to the amount payable, every run
whose bookings on it credit one of its installments with no more than it lacks leaves the
installments and the contract in agreement. -/
theorem agreed_of_onOneInstallment {db₀ db : Db} {t : Id} {dto : CreateFeeContractDto}
    {contract : StudentFeeContract} (created : createContract db₀ t dto = .ok (db, contract))
    (exact : db.amountsOf contract.id = contract.finalPayableAmount) {calls : List Call}
    (onOne : Along exec (fun db call => ∀ x ∈ bookings db call,
      x.2.On contract.id → OnOneInstallment x.2) db calls) :
    Agreed (run exec db calls) contract.id := by
  have inStep : InStep (run exec db calls) contract.id :=
    run_posts (I := fun d => InStep d contract.id)
      (C := fun _ b => b.On contract.id → OnOneInstallment b)
      (fun _ _ _ _ posts meets start => start.posts posts meets) onOne
      ((createContract_spec created).1.inStep exact)
  exact ⟨inStep.agrees, inStep.asksWithin⟩

theorem agreed_of_onOneInstallment_school : ∃ db contract, School.signed = .ok (db, contract) ∧
    Agreed (run exec db (School.payments (some 1))) contract.id := by
  obtain ⟨⟨db, contract⟩, created, exact, onOne⟩ := Returns.exists (by decide +kernel :
    Returns School.signed fun x =>
      x.1.amountsOf x.2.id = x.2.finalPayableAmount ∧
      Along exec (fun db call => ∀ b ∈ bookings db call, b.2.On x.2.id → OnOneInstallment b.2) x.1
        (School.payments (some 1)))
  exact ⟨db, contract, created, agreed_of_onOneInstallment created exact onOne⟩

/-- Cash without an installment lowers the debt and no installment. -/
theorem not_agreed_of_cash :
    ¬ ∀ (db₀ db : Db) (t : Id) (dto : CreateFeeContractDto) (contract : StudentFeeContract),
      createContract db₀ t dto = .ok (db, contract) →
      db.amountsOf contract.id = contract.finalPayableAmount → ∀ calls, AllSucceed db calls →
        Agreed (run exec db calls) contract.id := by
  intro claim
  obtain ⟨⟨db, contract⟩, created, exact, succeed, owed, balance⟩ :=
    Returns.exists (by decide +kernel : Returns School.signed fun x =>
        let calls := [.recordCashPayment { now := 1 } 1 9 (School.cash 3000)]
        x.1.amountsOf x.2.id = x.2.finalPayableAmount ∧ AllSucceed x.1 calls ∧
          (run exec x.1 calls).owedOf x.2.id = 10000 ∧
          (run exec x.1 calls).balanceOf x.2.id = 7000)
  have agreed := (claim _ db _ _ contract created exact _ succeed).1
  rw [owed, balance] at agreed
  norm_num at agreed

end Rokad.Finance
