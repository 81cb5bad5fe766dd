import Rokad.Finance.AllocationAgreement
import Rokad.Finance.FeePlan
import Rokad.Finance.Postings

/-!
# Contracts in order

A contract is in order while its balance lies between zero and what was payable, and it is completed
exactly when nothing remains.

A payment keeps that if its amount is not negative and does not leave a remainder that the column
rounds away (`Standing.InOrder.pays`). The cash and cheque requests and the preview of an import
refuse amounts that are not positive; the confirmation of an import takes them. A new contract is in
order when its discount leaves something to pay: with a total discount it starts with nothing
remaining and is not completed (`not_inOrder`).
-/

namespace Rokad.Finance

open Rokad.Base

/-! ### One payment -/

structure Standing.InOrder (payable : Money) (s : Standing) : Prop where
  nonneg : 0 ≤ (s.balance : ℚ)
  le_payable : (s.balance : ℚ) ≤ payable
  completed : s.status = .completed ↔ (s.balance : ℚ) = 0

/-- The amount is not negative, and covers the balance or stays half a hundredth below it. -/
def PaysCleanly (balance amount : ℚ) : Prop :=
  0 ≤ amount ∧ (balance ≤ amount ∨ amount + 1 / 200 ≤ balance)
deriving Decidable

section

variable {balance payable left : Money} {a b : ℚ}

theorem coe_hundredths (m : Money) : (m : ℚ) = (m.hundredths : ℚ) / 10 ^ 2 := by
  unfold Money.value
  norm_num

/-- A difference of at least half a hundredth is more than nothing in its column. -/
theorem columnValue_minus_pos (below : |a - b| < 10 ^ (14 : ℤ)) (le : b + 1 / 200 ≤ a) :
    0 < columnValue (Decimal.minus a b) := by
  have half : (1 : ℚ) / 200 ≤ Decimal.minus a b := by
    have digits : ((5 : ℤ) : ℚ) / 10 ^ 3 ≤ toPrecision 20 (a - b) :=
      le_toPrecision below (by norm_num) (by norm_num; linarith)
    unfold Decimal.minus
    norm_num at digits ⊢
    linarith
  have one : (1 : ℤ) ≤ inHundredths (Decimal.minus a b) := by
    have rounded : halfAway (1 / 2) ≤ inHundredths (Decimal.minus a b) :=
      halfAway_mono (by linarith)
    exact le_trans (by decide +kernel) rounded
  have : (1 : ℚ) ≤ inHundredths (Decimal.minus a b) := by exact_mod_cast one
  unfold columnValue
  linarith

theorem abs_sub_lt (nonneg : 0 ≤ a) (le : a ≤ balance) : |(balance : ℚ) - a| < 10 ^ (14 : ℤ) := by
  have bound := (abs_lt.mp balance.abs_coe_lt).2
  rw [abs_of_nonneg (by linarith)]
  norm_num at bound ⊢
  linarith

theorem Standing.InOrder.pays {before after : Standing} (inOrder : before.InOrder payable)
    (pays : Pays before a after) (clean : PaysCleanly before.balance a) :
    after.InOrder payable := by
  obtain ⟨nonneg, covers | below⟩ := clean
  · -- Nothing is left, and the contract is completed.
    have zero : finalBalance before.balance a = 0 := by
      have nonpos := minus_nonpos covers
      unfold finalBalance
      split
      · rfl
      · rename_i h
        exact le_antisymm nonpos (not_lt.mp h)
    have left : (after.balance : ℚ) = 0 := by
      rw [Money.store_spec pays.balance, zero, columnValue_zero]
    have status := pays.status
    rw [if_pos zero] at status
    exact ⟨left.ge, left.le.trans (inOrder.nonneg.trans inOrder.le_payable),
      iff_of_true status left⟩
  · have le : a ≤ before.balance := by linarith
    have bound := abs_sub_lt nonneg le
    have positive := columnValue_minus_pos bound below
    have final : finalBalance before.balance a = Decimal.minus before.balance a :=
      if_neg (not_lt.mpr (minus_nonneg le))
    have left : (after.balance : ℚ) = columnValue (Decimal.minus before.balance a) := by
      rw [Money.store_spec pays.balance, final]
    have some_left : finalBalance before.balance a ≠ 0 := by
      intro zero
      rw [← final, zero, columnValue_zero] at positive
      exact positive.false
    have status := pays.status
    rw [if_neg some_left] at status
    have less : columnValue (Decimal.minus before.balance a) ≤ before.balance := by
      refine columnValue_le ?_
      rw [coe_hundredths before.balance] at bound ⊢
      exact toPrecision_le bound (by norm_num) (by linarith)
    refine ⟨by linarith, by linarith [inOrder.le_payable], ?_⟩
    rw [status, inOrder.completed]
    exact iff_of_false (by linarith) (by linarith)

end

/-! ### Creation -/

inductive Creation where
  | createContract (tenantId : Id) (dto : CreateFeeContractDto)
  | applyFeePlan (env : ℕ → Env) (plans : List FeePlanDetails) (enrollments : List ClassEnrollment)
      (tenantId planId : Id)
  | confirmAllocationImport (env : ℕ → Env) (plans : Table FeePlan) (tenantId : Id)
      (dto : ConfirmFeeAllocationImportDto)

def Creation.exec (db : Db) : Creation → Result Db
  | .createContract t dto => (Finance.createContract db t dto).map (·.1)
  | .applyFeePlan env plans enrollments t planId =>
    (Finance.applyFeePlan env plans enrollments t planId db).map (·.1)
  | .confirmAllocationImport env plans t dto =>
    (Finance.confirmAllocationImport env plans t dto db).map (·.1)

/-- The discount leaves at least half a hundredth to pay. -/
def LeavesPayable (total discount : ℚ) : Prop := discount + 1 / 200 ≤ total
deriving Decidable

/-- So does the discount of the row. -/
def ImportFeeAllocationRowDto.LeavesPayable (row : ImportFeeAllocationRowDto) : Prop :=
  ∀ total ∈ row.amount.toDecimal,
    ∀ discount ∈ (confirmAllocationImport.orZero row.discountAmount).toDecimal,
      Finance.LeavesPayable total discount

/-- The request that creates the contract leaves something to pay; of an import these are the rows
for its student. -/
def Creation.Fits (db : Db) (contract : StudentFeeContract) : Creation → Prop
  | .createContract _ dto => LeavesPayable dto.totalAmount (dto.discountAmount.getD 0)
  | .applyFeePlan .. => True
  | .confirmAllocationImport _ _ t dto => ∀ row ∈ dto.rows,
      (∃ s ∈ confirmPaymentImport.findStudent db t row.identifier, s.id = contract.studentId) →
        row.LeavesPayable

/-- The contract was not there before and is there now. -/
structure Created (db db' : Db) (contract : StudentFeeContract) : Prop where
  new : db.contracts.find? contract.id = none
  found : db'.contracts.find? contract.id = some contract

/-- Nothing of the contract has been paid, and there is something to pay. -/
structure StudentFeeContract.Unpaid (c : StudentFeeContract) : Prop where
  balance : c.balanceRemaining = c.finalPayableAmount
  active : c.status = .active
  payable : 0 < (c.finalPayableAmount : ℚ)

theorem StudentFeeContract.Unpaid.inOrder {c : StudentFeeContract} (unpaid : c.Unpaid) :
    c.standing.InOrder c.finalPayableAmount where
  nonneg := by rw [standing, unpaid.balance]; exact unpaid.payable.le
  le_payable := by rw [standing, unpaid.balance]
  completed := by
    rw [standing, unpaid.balance, unpaid.active]
    exact iff_of_false (by simp) unpaid.payable.ne'

section

variable {db db' : Db} {t : Id}

theorem payable_pos {total discount : ℚ} {t d final : Money} (storedTotal : Money.store total = some t)
    (storedDiscount : Money.store discount = some d)
    (stored : Money.store (Decimal.minus total discount) = some final)
    (leaves : LeavesPayable total discount) : 0 < (final : ℚ) := by
  rw [Money.store_spec stored]
  refine columnValue_minus_pos ?_ leaves
  have first := abs_le_of_store storedTotal
  have second := abs_le_of_store storedDiscount
  have := abs_sub total discount
  norm_num at *
  linarith

/-- Whatever contract a step adds is as `C` says. -/
def Adds (C : StudentFeeContract → Prop) (db db' : Db) : Prop :=
  ∀ c ∈ db'.contracts.rows, c ∈ db.contracts.rows ∨ C c

theorem Adds.trans {C : StudentFeeContract → Prop} {db₁ : Db} (first : Adds C db db₁)
    (second : Adds C db₁ db') : Adds C db db' := fun c mem =>
  (second c mem).elim (first c) Or.inr

theorem Adds.created {C : StudentFeeContract → Prop} {contract : StudentFeeContract}
    (adds : Adds C db db') (created : Created db db' contract) : C contract := by
  rcases adds contract (mem_of_find? created.found) with old | new
  · have found := db.contracts.find?_key old
    rw [show Record.key contract = contract.id from rfl, created.new] at found
    cases found
  · exact new

/-- A contract is written, and nothing after it writes another. -/
theorem adds_of_write {C : StudentFeeContract → Prop} {db₁ : Db} {contract : StudentFeeContract}
    (written : db.write (.createContract contract) = .ok db₁)
    (same : db'.contracts = db₁.contracts) (is : C contract) : Adds C db db' := by
  have inserted := Db.write_contracts written
  simp only at inserted
  intro c mem
  rw [same] at mem
  rcases (mem_insert inserted).mp mem with old | rfl
  · exact Or.inl old
  · exact Or.inr is

theorem createContract_adds {dto : CreateFeeContractDto} {contract : StudentFeeContract}
    (done : createContract db t dto = .ok (db', contract))
    (leaves : LeavesPayable dto.totalAmount (dto.discountAmount.getD 0)) :
    Adds StudentFeeContract.Unpaid db db' := by
  have opened := (createContract_spec done).1
  simp only [createContract, do_eq_ok, column_eq_ok] at done
  obtain ⟨_, -, -, -, -, -, -, -, -, -, total, storedTotal, discount, storedDiscount, payable, stored,
    db₁, written, db₂, filled, ⟨⟩⟩ := done
  refine adds_of_write written ?_
    ⟨opened.unpaid, opened.active, payable_pos storedTotal storedDiscount stored leaves⟩
  refine inTurn_keeps (I := fun d => d.contracts = db₁.contracts) (fun d item d' _ step same => ?_)
    filled rfl
  simp only [createInstallment, bind_eq_ok] at step
  obtain ⟨_, -, created⟩ := step
  exact (Db.write_contracts created).trans same

namespace applyFeePlan

variable {plan : FeePlanDetails} {env : Env}

theorem createInstallments_contracts {contractId : Id}
    (done : createInstallments env t plan contractId db = .ok db') :
    db'.contracts = db.contracts := by
  unfold createInstallments at done
  split at done
  · refine inTurn_keeps (I := fun d => d.contracts = db.contracts) (fun d i d' _ step same => ?_)
      done rfl
    simp only [evenInstallment, bind_eq_ok] at step
    obtain ⟨_, -, created⟩ := step
    exact (Db.write_contracts created).trans same
  · refine inTurn_keeps (I := fun d => d.contracts = db.contracts) (fun d i d' _ step same => ?_)
      done rfl
    exact (confirmAllocationImport.planInstallment_spec step).1.contracts.trans same

theorem allocate_adds {studentId : Id} (done : allocate env t plan studentId db = .ok db') :
    Adds StudentFeeContract.Unpaid db db' := by
  simp only [allocate, bind_eq_ok] at done
  obtain ⟨db₁, written, filled⟩ := done
  refine adds_of_write written (createInstallments_contracts filled) ⟨rfl, rfl, ?_⟩
  exact lt_of_lt_of_le (by norm_num) plan.amount_min

theorem allocateAll_adds {env : ℕ → Env} {i : ℕ} {studentIds : List Id}
    (done : allocateAll env t plan i studentIds db = .ok db') :
    Adds StudentFeeContract.Unpaid db db' := by
  induction studentIds generalizing db i with
  | nil =>
    cases done
    exact fun c mem => Or.inl mem
  | cons studentId studentIds ih =>
    simp only [allocateAll, bind_eq_ok] at done
    obtain ⟨db₁, first, rest⟩ := done
    exact (allocate_adds first).trans (ih rest)

end applyFeePlan

namespace confirmAllocationImport

variable {plans : Table FeePlan} {dto : ConfirmFeeAllocationImportDto}

theorem allocate_adds {env : Env} {row : ImportFeeAllocationRowDto} {s : StudentProfile}
    (done : allocate env plans t dto row s db = .ok db') :
    Adds (fun c => c.studentId = s.id ∧ (row.LeavesPayable → c.Unpaid)) db db' := by
  simp only [allocate, do_eq_ok, column_eq_ok, exists_const] at done
  obtain ⟨totalAmt, total, discountAmt, discount, ta, storedTotal, da, storedDiscount, fa,
    storedFinal, -, db₁, created, filled⟩ := done
  refine adds_of_write created (createInstallments_sameContracts filled).contracts
    ⟨rfl, fun leaves => ⟨rfl, rfl, ?_⟩⟩
  exact payable_pos storedTotal storedDiscount storedFinal (leaves _ total _ discount)

/-- A contract of an import comes from a row for its student. -/
theorem importRows_adds {env : ℕ → Env} {i n : ℕ} {rows : List ImportFeeAllocationRowDto}
    (done : importRows env plans t dto i rows db = .ok (db', n)) :
    Adds (fun c => ∃ row ∈ rows,
      (∃ s ∈ confirmPaymentImport.findStudent db t row.identifier, s.id = c.studentId) ∧
        (row.LeavesPayable → c.Unpaid)) db db' := by
  induction rows generalizing db i n with
  | nil =>
    cases done
    exact fun c mem => Or.inl mem
  | cons row rows ih =>
    simp only [importRows, do_eq_ok] at done
    obtain ⟨⟨db₁, n₁⟩, first, ⟨db₂, n₂⟩, rest, ⟨⟩⟩ := done
    have later := ih rest
    rcases importRow_spec first with ⟨-, rfl⟩ | ⟨s, found, -, allocated⟩
    · intro c mem
      refine (later c mem).imp id ?_
      rintro ⟨other, memRow, from_⟩
      exact ⟨other, List.mem_cons_of_mem _ memRow, from_⟩
    · have students := (allocate_spec allocated).2.1
      intro c mem
      rcases later c mem with before | ⟨other, memRow, student, unpaid⟩
      · refine (allocate_adds allocated c before).imp id ?_
        rintro ⟨own, unpaid⟩
        exact ⟨row, List.mem_cons_self, ⟨s, found, own.symm⟩, unpaid⟩
      · unfold confirmPaymentImport.findStudent at student
        rw [students] at student
        exact Or.inr ⟨other, List.mem_cons_of_mem _ memRow, student, unpaid⟩

end confirmAllocationImport

/-- A contract whose creation leaves something to pay starts in order. -/
theorem Creation.unpaid {creation : Creation} {contract : StudentFeeContract}
    (done : creation.exec db = .ok db') (created : Created db db' contract)
    (fits : creation.Fits db contract) : contract.Unpaid := by
  cases creation with
  | createContract t dto =>
    simp only [Creation.exec, map_eq_ok] at done
    obtain ⟨⟨_, _⟩, done, rfl⟩ := done
    exact (createContract_adds done fits).created created
  | applyFeePlan env plans enrollments t planId =>
    simp only [Creation.exec, map_eq_ok, Finance.applyFeePlan, do_eq_ok] at done
    obtain ⟨_, ⟨plan, -, -, -, _, allocated, rfl⟩, rfl⟩ := done
    exact (applyFeePlan.allocateAll_adds allocated).created created
  | confirmAllocationImport env plans t dto =>
    simp only [Creation.exec, map_eq_ok, Finance.confirmAllocationImport, do_eq_ok] at done
    obtain ⟨_, ⟨-, -, _, imported, rfl⟩, rfl⟩ := done
    obtain ⟨row, mem, student, unpaid⟩ :=
      (confirmAllocationImport.importRows_adds imported).created created
    exact unpaid (fits row mem student)

end

/-! ### Runs -/

/-- The contract is in order in this state. -/
def InOrder (db : Db) (k : Id) : Prop :=
  ∃ c, db.contracts.find? k = some c ∧ 0 ≤ (c.balanceRemaining : ℚ) ∧
    (c.balanceRemaining : ℚ) ≤ c.finalPayableAmount ∧
    (c.status = .completed ↔ (c.balanceRemaining : ℚ) = 0)

/-- The booking is a payment that leaves no remainder its column rounds away. -/
def BooksCleanly (db : Db) (b : Booking) : Prop := PaysCleanly (db.balanceOf b.contractId) b.amount
deriving Decidable

section

variable {db db' : Db} {k : Id} {payable : Money}

theorem Moves.inOrder {b : Option Booking} (moves : Moves db db' b)
    (clean : ∀ b' ∈ b, b'.contractId = k → BooksCleanly db b')
    (inOrder : ∃ s ∈ db.standing k, s.InOrder payable) :
    ∃ s ∈ db'.standing k, s.InOrder payable := by
  cases b with
  | none => rwa [show db'.standing = db.standing from moves]
  | some b =>
    obtain ⟨before, after, found, pays, moved⟩ := moves
    rw [moved]
    by_cases own : k = b.contractId
    · subst own
      obtain ⟨s, standing, inOrder⟩ := inOrder
      obtain rfl : s = before := Option.some_inj.mp (standing.symm.trans found)
      have balance : db.balanceOf b.contractId = s.balance := by
        obtain ⟨c, row, rfl⟩ := Option.map_eq_some_iff.mp found
        exact balanceOf_eq row
      have cleanly := clean b rfl rfl
      rw [BooksCleanly, balance] at cleanly
      exact ⟨after, by rw [Function.update_self]; rfl, inOrder.pays pays cleanly⟩
    · rw [Function.update_of_ne own]
      exact inOrder

/-- **Contracts stay in order.** From a creation that leaves something to pay, every run whose
payments on the contract are clean leaves the contract in order. -/
theorem inOrder_of_fits {creation : Creation} {contract : StudentFeeContract} {calls : List Call}
    (done : creation.exec db = .ok db') (created : Created db db' contract)
    (fits : creation.Fits db contract)
    (clean : Along exec (fun d call => ∀ x ∈ bookings d call,
      x.2.contractId = contract.id → BooksCleanly x.1 x.2) db' calls) :
    InOrder (run exec db' calls) contract.id := by
  have start : ∃ s ∈ db'.standing contract.id, s.InOrder contract.finalPayableAmount :=
    ⟨_, standing_of_find created.found, (creation.unpaid done created fits).inOrder⟩
  obtain ⟨s, standing, inOrder⟩ :=
    run_described (I := fun d => ∃ s ∈ d.standing contract.id, s.InOrder contract.finalPayableAmount)
      (C := fun d b => b.contractId = contract.id → BooksCleanly d b) describes_makes
      (fun _ _ _ _ makes meets => makes.moves.inOrder meets) clean start
  obtain ⟨c, found, core⟩ := run_contract created.found calls
  obtain rfl : c.standing = s := Option.some_inj.mp ((standing_of_find found).symm.trans standing)
  have payable : c.core.finalPayableAmount = contract.core.finalPayableAmount := by rw [core]
  refine ⟨c, found, inOrder.nonneg, ?_, inOrder.completed⟩
  rw [show c.finalPayableAmount = contract.finalPayableAmount from payable]
  exact inOrder.le_payable

end

/-- The payments, then an import. -/
def School.imported : List Call :=
  School.payments none ++
  [.confirmPaymentImport (School.draws 5) 1 9
     [{ rowIndex := 2, identifier := "1001", method := "نقدی", amount := .finite 1000
        date := "1404/07/01" }]]

theorem inOrder_of_fits_school : ∃ db contract, School.signed = .ok (db, contract) ∧
      InOrder (run exec db School.imported) contract.id ∧
      (run exec db School.imported).balanceOf contract.id = 0 := by
  obtain ⟨⟨db, contract⟩, done, new, found, clean, settled⟩ := Returns.exists (by decide +kernel :
    Returns School.signed fun x =>
      School.db.contracts.find? x.2.id = none ∧ x.1.contracts.find? x.2.id = some x.2 ∧
      Along exec (fun d call => ∀ b ∈ bookings d call,
        b.2.contractId = x.2.id → BooksCleanly b.1 b.2) x.1 School.imported ∧
      (run exec x.1 School.imported).balanceOf x.2.id = 0)
  have creates : (Creation.createContract 1 (School.contractDto 6000 4000 10000)).exec School.db =
      .ok db := by simp [Creation.exec, done, Except.map]
  refine ⟨db, contract, done, inOrder_of_fits creates ⟨new, found⟩ ?_ clean, settled⟩
  show LeavesPayable _ _
  decide +kernel

/-- A contract with a total discount. -/
def School.scholarship : CreateFeeContractDto where
  academicYearId := 1
  studentId := 1
  contractNumber := "FEE-1404-002"
  totalAmount := 35000000
  discountAmount := some 35000000
  discountReason := some "بورسیه کامل"
  installments := []

/-- Nothing remains of it from the start, and it is never completed. -/
theorem not_inOrder : ¬ ∀ (db₀ db : Db) (creation : Creation) (contract : StudentFeeContract),
      creation.exec db₀ = .ok db → Created db₀ db contract → ∀ calls, AllSucceed db calls →
        InOrder (run exec db calls) contract.id := by
  intro claim
  obtain ⟨⟨db, contract⟩, done, new, found, balance, status⟩ :=
    Returns.exists (by decide +kernel :
      Returns (createContract School.db 1 School.scholarship) fun x =>
        School.db.contracts.find? x.2.id = none ∧ x.1.contracts.find? x.2.id = some x.2 ∧
          (x.2.balanceRemaining : ℚ) = 0 ∧ x.2.status = .active)
  have creates : (Creation.createContract 1 School.scholarship).exec School.db = .ok db := by
    simp [Creation.exec, done, Except.map]
  obtain ⟨c, here, -, -, completed⟩ := claim _ _ _ contract creates ⟨new, found⟩ [] trivial
  obtain rfl : c = contract := Option.some_inj.mp (here.symm.trans found)
  rw [completed.mpr balance] at status
  cases status

end Rokad.Finance
