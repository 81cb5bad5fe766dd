import Rokad.Base.Text
import Rokad.Finance.Statement

/-!
# Fee contracts

`FeeService.createContract`: the checks on a new contract, and the transaction that
writes it with its installments. Every other operation of the module starts from a
contract written here; `createContract_spec` says in what state it starts.
-/

namespace Rokad.Finance

open Rokad.Base

/-- `Number(amount).toLocaleString('fa-IR')` -/
def localeFa (amount : ℚ) : String := (toDouble amount).toLocaleStringFa

/-- An amount in a request is the decimal its number prints as, which is the value
`new Prisma.Decimal` takes. -/
structure CreateInstallmentItemDto where
  installmentNumber : ℤ
  title : String
  dueDate : Instant
  amount : ℚ
  number_min : 1 ≤ installmentNumber := by decide
  title_notEmpty : title ≠ "" := by decide
  amount_min : 1000 ≤ amount := by norm_num

structure CreateFeeContractDto where
  (academicYearId studentId : Id)
  contractNumber : String
  totalAmount : ℚ
  discountAmount : Option ℚ := none
  (discountReason notes : Option String := none)
  feePlanId : Option Id := none
  isIndividual : Option Bool := none
  installments : List CreateInstallmentItemDto
  contractNumber_notEmpty : contractNumber ≠ "" := by decide
  totalAmount_min : 0 ≤ totalAmount := by norm_num

def installmentsSum (items : List CreateInstallmentItemDto) : Number :=
  items.foldl (fun sum item => sum.add (toDouble item.amount)) (.finite 0)

def createInstallment (tenantId contractId : Id) (db : Db) (item : CreateInstallmentItemDto) :
    Result Db := do
  let amount ← column item.amount
  db.write (.createInstallment
    { id := db.installments.fresh
      tenantId
      contractId
      installmentNumber := item.installmentNumber
      title := item.title
      dueDate := item.dueDate
      amount
      paidAmount := 0
      status := .unpaid })

def createContract (db : Db) (tenantId : Id) (dto : CreateFeeContractDto) :
    Result (Db × StudentFeeContract) := do
  let _ ← orFail ((db.students.find? dto.studentId).filter (·.tenantId = tenantId))
    (.notFound "پروفایل دانش‌آموز مورد نظر یافت نشد")
  let finalPayableAmount := Decimal.minus dto.totalAmount (dto.discountAmount.getD 0)
  require (¬ finalPayableAmount < 0)
    (.badRequest "مبلغ تخفیف نمی‌تواند بیشتر از کل مبلغ شهریه باشد")
  let sum := installmentsSum dto.installments
  require (¬ (sum.add (toDouble finalPayableAmount).neg).absExceeds 1)
    (.badRequest ("مجموع اقساط (" ++ sum.toLocaleStringFa ++ ") با مبلغ نهایی قابل پرداخت (" ++
      localeFa finalPayableAmount ++ ") برابر نیست"))
  require (¬ ∃ c ∈ db.contracts.rows, c.tenantId = tenantId ∧ c.contractNumber = dto.contractNumber)
    (.conflict "شماره قرارداد تکراری است")
  require (¬ ∃ c ∈ db.contracts.rows, c.tenantId = tenantId ∧
      c.academicYearId = dto.academicYearId ∧ c.studentId = dto.studentId)
    (.conflict "قرارداد شهریه برای این دانش‌آموز در این سال تحصیلی قبلاً ثبت شده است")
  let totalAmount ← column dto.totalAmount
  let discountAmount ← column (dto.discountAmount.getD 0)
  let payable ← column finalPayableAmount
  let contract : StudentFeeContract :=
    { id := db.contracts.fresh
      tenantId
      academicYearId := dto.academicYearId
      studentId := dto.studentId
      contractNumber := dto.contractNumber
      totalAmount
      discountAmount
      finalPayableAmount := payable
      balanceRemaining := payable
      discountReason := dto.discountReason
      notes := dto.notes
      feePlanId := dto.feePlanId
      isIndividual := dto.isIndividual.getD dto.feePlanId.isNone
      status := .active }
  let db ← db.write (.createContract contract)
  let db ← inTurn (createInstallment tenantId contract.id) db dto.installments
  return (db, contract)

/-! ### The state a contract starts in -/

section

variable {db db' : Db} {t : Id}

/-- No row refers to a contract that does not exist yet. -/
theorem contract_ne_fresh {α : Type} [Record α] {fk : α → Id} {child : Table α}
    (refs : Table.References (fun a => some (fk a)) child db.contracts) {row : α}
    (mem : row ∈ child.rows) : fk row ≠ db.contracts.fresh := by
  intro same
  obtain ⟨c, found⟩ := has_some_iff.mp (refs row mem)
  rw [same, find?_fresh] at found
  cases found

/-- What a contract and its tables look like before any payment. -/
structure Opened (db db' : Db) (contract : StudentFeeContract) : Prop where
  fresh : contract.id = db.contracts.fresh
  unpaid : contract.balanceRemaining = contract.finalPayableAmount
  active : contract.status = .active
  noHold : contract.hasFinancialHold = false ∧ contract.financialHoldReason = none
  found : db'.contracts.find? contract.id = some contract
  transactions : db'.transactions = db.transactions
  payments : db'.payments = db.payments
  receipts : db'.receipts = db.receipts
  installments : ∀ i ∈ db'.installments.rows, i.contractId = contract.id →
    i.paidAmount = 0 ∧ i.status = .unpaid ∧ 0 < (i.amount : ℚ)
  kept : ∀ k i, db.installments.find? k = some i → db'.installments.find? k = some i

theorem createContract_spec {dto : CreateFeeContractDto} {contract : StudentFeeContract}
    (done : createContract db t dto = .ok (db', contract)) :
    Opened db db' contract ∧ contract.tenantId = t := by
  simp only [createContract, do_eq_ok, column_eq_ok] at done
  obtain ⟨_, -, -, -, -, -, -, -, -, -, total, -, discount, -, payable, -, db₁, opened, db₂, filled,
    ⟨⟩⟩ := done
  have inserted := Db.write_contracts opened
  have before := Db.write_installments opened
  simp only at inserted before
  refine ⟨inTurn_keeps (I := fun d => Opened db d _) ?_ filled ?_, rfl⟩
  · intro d item d' mem created start
    simp only [createInstallment, bind_eq_ok, column_eq_ok] at created
    obtain ⟨amount, stored, written⟩ := created
    have contracts := Db.write_contracts written
    have installments := Db.write_installments written
    simp only at contracts installments
    exact
      { start with
        found := by rw [contracts]; exact start.found
        transactions := (Db.write_transactions written).trans start.transactions
        payments := (Db.write_payments written).trans start.payments
        receipts := (Db.write_receipts written).trans start.receipts
        installments := by
          intro i mem own
          rcases (mem_insert installments).mp mem with mem | rfl
          · exact start.installments i mem own
          · refine ⟨rfl, rfl, ?_⟩
            rw [Money.store_spec stored]
            exact columnValue_pos (by linarith [item.amount_min])
        kept := fun k i found =>
          Table.find?_insert_of_found installments (start.kept k i found) }
  · exact
      { fresh := rfl
        unpaid := rfl
        active := rfl
        noHold := ⟨rfl, rfl⟩
        found := by rw [Table.find?_insert inserted]; exact if_pos rfl
        transactions := Db.write_transactions opened
        payments := Db.write_payments opened
        receipts := Db.write_receipts opened
        installments := by
          rw [before]
          exact fun i mem own =>
            (contract_ne_fresh db.foreignKeys.installment_contract mem own).elim
        kept := by
          rw [before]
          exact fun _ _ found => found }

end

/-! ### A small school

One tenant with one student and no contract yet, for evaluating runs. -/

namespace School

def student : StudentProfile where
  id := 1
  tenantId := 1
  user := { id := 1, firstName := "Sara", lastName := "Ahmadi", nationalId := some "0012345678" }
  studentCode := "1001"

def db : Db where
  students := ⟨[student], by decide, by decide⟩
  foreignKeys := by constructor <;> simp [Table.References, Table.empty]

theorem amount_min (amount : ℕ) : (1000 : ℚ) ≤ (max 1000 amount : ℕ) := by
  exact_mod_cast le_max_left 1000 amount

/-- A contract in two installments. -/
def contractDto (first second total : ℕ) : CreateFeeContractDto where
  academicYearId := 1
  studentId := 1
  contractNumber := "FEE-1404-001"
  totalAmount := total
  installments :=
    [{ installmentNumber := 1, title := "قسط ۱", dueDate := 0, amount := (max 1000 first : ℕ),
       amount_min := amount_min first },
     { installmentNumber := 2, title := "قسط ۲", dueDate := 0, amount := (max 1000 second : ℕ),
       amount_min := amount_min second }]
  totalAmount_min := Nat.cast_nonneg total

/-- The contract over 10000, in installments of 6000 and 4000. -/
abbrev signed : Result (Db × StudentFeeContract) :=
  createContract db 1 (contractDto 6000 4000 10000)

end School

end Rokad.Finance
