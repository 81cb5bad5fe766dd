import Rokad.Finance.AllocationImport
import Rokad.Finance.Calls

/-!
# When a statement goes through

The conditions under which the database takes a new row: the rows it refers to exist and its
unique columns are new. The services draw fresh identifiers, so only the columns they choose
themselves can clash.
-/

namespace Rokad.Finance

open Rokad.Base

variable {db db' : Db} {t : Id}

/-- An installment of a contract that exists is created when its number is new to the contract. -/
theorem createInstallment_iff (row : FeeInstallment) (fresh : row.id = db.installments.fresh)
    (contract : db.contracts.has (some row.contractId) = true) :
    (∃ db', db.write (.createInstallment row) = .ok db') ↔
      ∀ i ∈ db.installments.rows, i.contractId = row.contractId →
        i.installmentNumber ≠ row.installmentNumber := by
  rw [Db.exists_write]
  simp only [Tables.write, do_eq_ok, referred_eq_ok, contract, insertRow_eq_ok]
  constructor
  · rintro ⟨_, _, -, installments, inserted, -⟩ i mem same number
    have clear := (insert_spec.mp inserted).2.2 i mem
    simp [Record.clash, same, number] at clear
  · intro unused
    obtain ⟨installments, inserted⟩ := Table.insert_of_fresh db.installments row fresh
      (fun i mem => by
        by_contra clash
        simp only [Record.clash, Bool.not_eq_false, Bool.and_eq_true, beq_iff_eq] at clash
        exact unused i mem clash.1 clash.2)
    exact ⟨_, (), trivial, installments, inserted, rfl⟩

/-- The contract numbers a tenant has used. -/
def takenNumbers (db : Db) (t : Id) : List String :=
  (db.contracts.rows.filter (·.tenantId = t)).map (·.contractNumber)

theorem createContract_iff (c : StudentFeeContract) (fresh : c.id = db.contracts.fresh)
    (student : db.students.has (some c.studentId) = true) :
    (∃ db', db.write (.createContract c) = .ok db') ↔
      c.contractNumber ∉ takenNumbers db c.tenantId ∧
        c.studentId ∉ contractedStudentIds db c.tenantId c.academicYearId := by
  rw [Db.exists_write]
  simp only [Tables.write, do_eq_ok, referred_eq_ok, student, insertRow_eq_ok, takenNumbers,
    contractedStudentIds, List.mem_map, List.mem_filter, decide_eq_true_eq, not_exists, not_and,
    and_imp]
  constructor
  · rintro ⟨_, _, -, contracts, inserted, -⟩
    have clear := (insert_spec.mp inserted).2.2
    constructor
    · intro x mem tenant number
      simpa [Record.clash, tenant, number] using clear x mem
    · intro x mem tenant year student
      simpa [Record.clash, tenant, year, student] using clear x mem
  · rintro ⟨number, student⟩
    obtain ⟨contracts, inserted⟩ := Table.insert_of_fresh db.contracts c fresh
      (fun x mem => by
        by_contra clash
        simp only [Record.clash, Bool.not_eq_false, Bool.and_eq_true, Bool.or_eq_true,
          beq_iff_eq] at clash
        rcases clash with ⟨tenant, same | ⟨year, same⟩⟩
        · exact number x mem tenant same
        · exact student x mem tenant year same)
    exact ⟨_, (), trivial, contracts, inserted, rfl⟩

theorem createPayment_exists (p : FeePayment) (fresh : p.id = db.payments.fresh)
    (contract : db.contracts.has (some p.feeContractId) = true) (noInstallment : p.installmentId = none)
    (noReplacement : p.replacedByPaymentId = none) :
    ∃ db', db.write (.createPayment p) = .ok db' := by
  obtain ⟨payments, inserted⟩ := Table.insert_of_fresh db.payments p fresh
    (fun x mem => by
      simp only [Record.clash, noReplacement]
      exact sameKey_comm _ _)
  rw [Db.exists_write]
  simp only [Tables.write, do_eq_ok, referred_eq_ok, contract, noInstallment, noReplacement,
    insertRow_eq_ok]
  exact ⟨_, (), trivial, (), rfl, (), rfl, payments, inserted, rfl⟩

theorem updateContract_exists {c : StudentFeeContract} {k : Id}
    (found : db.contracts.find? k = some c) (data : ContractUpdate) :
    ∃ db', db.write (.updateContract k data) = .ok db' := by
  obtain ⟨contracts, updated⟩ : ∃ contracts,
      db.contracts.update k data.apply data.key_apply = some contracts :=
    update_isSome found fun _ _ => rfl
  rw [Db.exists_write]
  simp only [Tables.write, do_eq_ok, updateRow_eq_ok]
  exact ⟨_, contracts, updated, rfl⟩

/-- The receipt numbers a tenant has used. -/
def takenReceiptNumbers (db : Db) (t : Id) : List String :=
  (db.receipts.rows.filter (·.tenantId = t)).map (·.receiptNumber)

theorem createReceipt_iff (row : FeeReceipt) (fresh : row.id = db.receipts.fresh)
    (contract : db.contracts.has (some row.contractId) = true) (noTransaction : row.transactionId = none)
    (payment : db.payments.has row.paymentId = true)
    (first : ∀ x ∈ db.receipts.rows, sameKey x.paymentId row.paymentId = false) :
    (∃ db', db.write (.createReceipt row) = .ok db') ↔
      row.receiptNumber ∉ takenReceiptNumbers db row.tenantId := by
  rw [Db.exists_write]
  simp only [Tables.write, do_eq_ok, referred_eq_ok, contract, payment, noTransaction,
    insertRow_eq_ok, takenReceiptNumbers, List.mem_map, List.mem_filter, decide_eq_true_eq,
    not_exists, not_and, and_imp]
  constructor
  · rintro ⟨_, _, -, _, -, _, -, receipts, inserted, -⟩ x mem tenant number
    have clear := (insert_spec.mp inserted).2.2 x mem
    simp [Record.clash, tenant, number] at clear
  · intro unused
    obtain ⟨receipts, inserted⟩ := Table.insert_of_fresh db.receipts row fresh
      (fun x mem => by
        have apart : sameKey x.transactionId row.transactionId = false := by
          rw [noTransaction, sameKey_comm]
          rfl
        simp only [Record.clash, apart, first x mem, Bool.false_or, Bool.and_eq_false_iff,
          beq_eq_false_iff_ne]
        by_cases tenant : x.tenantId = row.tenantId
        · exact Or.inr (unused x mem tenant)
        · exact Or.inl tenant)
    exact ⟨_, (), trivial, (), rfl, (), trivial, receipts, inserted, rfl⟩

/-- No receipt is for a payment that does not exist yet. -/
theorem receipt_ne_fresh {x : FeeReceipt} (mem : x ∈ db.receipts.rows) :
    sameKey x.paymentId (some db.payments.fresh) = false := by
  have known := db.foreignKeys.receipt_payment x mem
  cases key : x.paymentId with
  | none => rfl
  | some k =>
    simp only [key] at known
    obtain ⟨p, found⟩ := has_some_iff.mp known
    have older : k ≠ db.payments.fresh := by
      rintro rfl
      rw [find?_fresh] at found
      cases found
    exact beq_eq_false_iff_ne.mpr older

end Rokad.Finance

/-!
## Booking one row of a payment import

`RowBooked` is all that a booked row does to the database. `bookCash_spec` and `bookCheque_spec`
read it off a row that was booked; `bookCash_exists` and `bookCheque_exists` say when a row is.
-/

namespace Rokad.Finance

open Rokad.Base confirmPaymentImport

variable {db db' : Db} {t r : Id}

/-! ### One row -/

variable {env : Env} {row : ImportFeePaymentRowDto} {s : StudentProfile} {c : StudentFeeContract}
  {m : Money}

/-- What a cash row makes of the contracts. -/
def afterCash (c : StudentFeeContract) (left : Money) (x : StudentFeeContract) :
    StudentFeeContract :=
  if x.id = c.id then
    { x with
      balanceRemaining := left
      status := if (left : ℚ) = 0 then .completed else c.status }
  else x

/-- What a booked row has done: one payment, and for cash a lower balance and a receipt. -/
structure RowBooked (env : Env) (t : Id) (cash : Bool) (c : StudentFeeContract) (m : Money)
    (db db' : Db) : Prop where
  students : db'.students = db.students
  payment : ∃ p : FeePayment, db'.payments.rows = db.payments.rows ++ [p] ∧ p.tenantId = t ∧
    p.feeContractId = c.id ∧ p.method = (if cash then .cash else .cheque) ∧ p.amount = m
  contracts : if cash then
      ∃ left : Money, (left : ℚ) = c.balanceRemaining - m ∧
        db'.contracts.rows = db.contracts.rows.map (afterCash c left)
    else db'.contracts = db.contracts
  receipts : takenReceiptNumbers db' t =
    takenReceiptNumbers db t ++ (if cash then [receiptNumber env] else [])
  unused : cash → receiptNumber env ∉ takenReceiptNumbers db t

/-- A balance is written on the one contract and nowhere else. -/
theorem writeBalance_spec {left : ℚ} (done : writeBalance db c left = .ok db') :
    ∃ m : Money, Money.store left = some m ∧ (db'.contracts.rows = db.contracts.rows.map fun x =>
        if x.id = c.id then
          { x with
            balanceRemaining := m
            status := if left = 0 then .completed else c.status }
        else x) ∧
      db'.students = db.students ∧ db'.payments = db.payments ∧ db'.receipts = db.receipts := by
  obtain ⟨m, stored, written⟩ := writeBalance_ok done
  have updated := Db.write_contracts written
  simp only at updated
  obtain ⟨-, -, -, rows⟩ := Table.update_spec.mp updated
  exact ⟨m, stored, rows, Db.write_students written, Db.write_payments written,
    Db.write_receipts written⟩

theorem bookCash_spec (covered : (m : ℚ) ≤ c.balanceRemaining)
    (done : bookCash env t r row m s c db = .ok db') : RowBooked env t true c m db db' := by
  obtain ⟨amount, db₁, db₂, stored, created, balanced, receipted⟩ := bookCash_ok done
  obtain rfl : amount = m := by simpa using stored.symm
  obtain ⟨left, storedLeft, contracts, students₂, payments₂, receipts₂⟩ :=
    writeBalance_spec balanced
  have difference : finalBalance c.balanceRemaining amount = c.balanceRemaining - amount := by
    rw [finalBalance_coe, max_eq_right (by linarith)]
  have value : (left : ℚ) = c.balanceRemaining - amount := by
    rw [← minus_coe] at difference ⊢
    rw [difference] at storedLeft
    rw [store_minus_coe storedLeft, minus_coe]
  have payments := Db.write_payments created
  have payments' := Db.write_payments receipted
  have receipts := Db.write_receipts created
  have receipts' := Db.write_receipts receipted
  have contracts₁ := Db.write_contracts created
  have contracts' := Db.write_contracts receipted
  simp only at payments payments' receipts receipts' contracts₁ contracts'
  exact
    { students := (Db.write_students receipted).trans
        (students₂.trans (Db.write_students created))
      payment := ⟨_, by
        rw [payments', payments₂]
        exact (insert_spec.mp payments).1, rfl, rfl, rfl, rfl⟩
      contracts := ⟨left, value, by
        rw [contracts', contracts, contracts₁, difference, ← value]
        rfl⟩
      receipts := by
        simp [takenReceiptNumbers, (insert_spec.mp receipts').1, receipts₂, receipts,
          cashReceipt, cashPayment]
      unused := fun _ taken => by
        obtain ⟨x, mem, number⟩ := List.mem_map.mp taken
        obtain ⟨mem, tenant⟩ := List.mem_filter.mp mem
        rw [← receipts, ← receipts₂] at mem
        have clear := (insert_spec.mp receipts').2.2 x mem
        simp [Record.clash, cashReceipt, cashPayment, of_decide_eq_true tenant, number] at clear }

theorem bookCheque_spec (done : bookCheque env t r row m c db = .ok db') :
    RowBooked env t false c m db db' := by
  obtain ⟨amount, stored, created⟩ := bookCheque_ok done
  obtain rfl : amount = m := by simpa using stored.symm
  have payments := Db.write_payments created
  have receipts := Db.write_receipts created
  have contracts := Db.write_contracts created
  simp only at payments receipts contracts
  exact
    { students := Db.write_students created
      payment := ⟨_, (insert_spec.mp payments).1, rfl, rfl, rfl, rfl⟩
      contracts
      receipts := by simp [takenReceiptNumbers, receipts]
      unused := nofun }

theorem bookCash_exists (found : db.contracts.find? c.id = some c) (nonneg : 0 ≤ (m : ℚ))
    (covered : (m : ℚ) ≤ c.balanceRemaining)
    (unused : receiptNumber env ∉ takenReceiptNumbers db t) :
    ∃ db', bookCash env t r row m s c db = .ok db' := by
  obtain ⟨left, storedLeft⟩ : ∃ left, Money.store (finalBalance c.balanceRemaining m) = some left := by
    have bounds : 0 ≤ m.hundredths ∧ m.hundredths ≤ c.balanceRemaining.hundredths := by
      unfold Money.value at nonneg covered
      constructor
      · have : (0 : ℚ) ≤ m.hundredths := by linarith
        exact_mod_cast this
      · have : (m.hundredths : ℚ) ≤ c.balanceRemaining.hundredths := by linarith
        exact_mod_cast this
    have fits : (c.balanceRemaining.hundredths - m.hundredths).natAbs < 10 ^ 15 := by
      have := c.balanceRemaining.fits
      omega
    have value : finalBalance c.balanceRemaining m =
        ((⟨c.balanceRemaining.hundredths - m.hundredths, fits⟩ : Money) : ℚ) := by
      rw [finalBalance_coe, max_eq_right (by linarith)]
      unfold Money.value
      push_cast
      ring
    exact ⟨_, by rw [value, Money.store_coe]⟩
  have present : db.contracts.has (some c.id) = true := has_some_iff.mpr ⟨c, found⟩
  obtain ⟨db₁, created⟩ := createPayment_exists
    (cashPayment env t r row c db.payments.fresh m) rfl present rfl rfl
  have payments := Db.write_payments created
  have receipts := Db.write_receipts created
  have contracts₁ := Db.write_contracts created
  simp only at payments receipts contracts₁
  have foundLater : db₁.contracts.find? c.id = some c := by
    rw [contracts₁]
    exact found
  obtain ⟨db₂, written⟩ := updateContract_exists foundLater
    { balanceRemaining := some left
      status := some (if finalBalance c.balanceRemaining m = 0 then .completed else c.status) }
  have balanced : writeBalance db₁ c (finalBalance c.balanceRemaining m) = .ok db₂ :=
    bind_eq_ok.mpr ⟨left, column_eq_ok.mpr storedLeft, written⟩
  have payments₂ := Db.write_payments written
  have receipts₂ := Db.write_receipts written
  have contracts₂ := Db.write_contracts written
  simp only at payments₂ receipts₂ contracts₂
  have free : receiptNumber env ∉ takenReceiptNumbers db₂ t := by
    rw [takenReceiptNumbers, receipts₂, receipts]
    exact unused
  obtain ⟨db', receipted⟩ := (createReceipt_iff
    (cashReceipt env r s (cashPayment env t r row c db.payments.fresh m) db₂.receipts.fresh) rfl
    (has_some_iff.mpr ⟨_, find?_update_self contracts₂ foundLater⟩) rfl
    (has_some_iff.mpr ⟨_, by
      rw [payments₂, Table.find?_insert payments]
      exact if_pos rfl⟩)
    (by
      rw [receipts₂, receipts]
      exact fun x mem => receipt_ne_fresh mem)).mpr free
  refine ⟨db', ?_⟩
  simp only [bookCash, bind_eq_ok, column_eq_ok]
  exact ⟨m, Money.store_coe m, db₁, created, db₂, balanced, receipted⟩

theorem bookCheque_exists (found : db.contracts.find? c.id = some c) :
    ∃ db', bookCheque env t r row m c db = .ok db' := by
  obtain ⟨db', created⟩ := createPayment_exists
    (chequePayment env t r row c db.payments.fresh m) rfl (has_some_iff.mpr ⟨c, found⟩) rfl rfl
  exact ⟨db', bind_eq_ok.mpr ⟨m, column_eq_ok.mpr (Money.store_coe m), created⟩⟩

end Rokad.Finance
