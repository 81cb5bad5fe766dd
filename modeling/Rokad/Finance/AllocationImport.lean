import Rokad.Common.Jalali
import Rokad.Finance.FeeImport

/-!
# Allocation import

`FeeImportService`: the preview of a spreadsheet of fees and the confirmation that creates a
contract for each of its rows. The preview resolves an identifier through a map over the students
and refuses students who have a contract; the confirmation looks the student up again and passes
over those who have one by then.

The plans are read and never written here: they are given with the request.
-/

namespace Rokad.Finance

open Rokad.Base
open Rokad.Common (addMonths)

/-! ### Preview -/

/-- A row the preview accepts. -/
structure ValidAllocationRow where
  rowIndex : ℕ
  identifier : String
  studentId : Id
  studentName : String
  (amount discountAmount finalPayable : Number)
  notes : Option String
deriving DecidableEq

structure AllocationPreview where
  (totalRowsProcessed validCount errorCount : ℕ)
  errors : List ImportErrorDetail
  validRows : List ValidAllocationRow

/-- What the map over the students holds, in the order it is filled. -/
def studentEntries (db : Db) (tenantId : Id) : List (String × StudentProfile) :=
  (db.students.rows.filter (·.tenantId = tenantId)).flatMap fun s =>
    (mapKeys s).map fun key => (key, s)

/-- `studentMap.get(identifier)`: the entry written last. -/
def studentMap (db : Db) (tenantId : Id) (identifier : String) : Option StudentProfile :=
  ((studentEntries db tenantId).reverse.find? (·.1 = identifier)).map (·.2)

def contractedStudentIds (db : Db) (tenantId academicYearId : Id) : List Id :=
  (db.contracts.rows.filter fun c =>
    c.tenantId = tenantId ∧ c.academicYearId = academicYearId).map (·.studentId)

namespace previewAllocationExcel

/-- One row of the sheet: skipped, refused or accepted. -/
def previewRow (db : Db) (tenantId academicYearId : Id) (rowIndex : ℕ) (row : SheetRow) :
    Option (ImportErrorDetail ⊕ ValidAllocationRow) :=
  if row.all Cell.isBlank then none
  else
    let rawIdentifier := trim ((row.cell 0).orText "")
    let rawAmount := parseFloat (withoutCommas ((row.cell 1).orText "0"))
    let rawDiscount := parseFloat (withoutCommas ((row.cell 2).orText "0"))
    let notes := trim ((row.cell 3).orText "")
    let refuse := fun field message =>
      some (Sum.inl ⟨rowIndex, rawIdentifier, some field, message⟩)
    if rawIdentifier = "" then refuse "کد ملی" "کد ملی یا شماره دانش‌آموزی خالی است"
    else
      match studentMap db tenantId rawIdentifier with
      | none =>
        refuse "کد ملی" ("دانش‌آموزی با شناسه \"" ++ rawIdentifier ++ "\" در این مدرسه یافت نشد")
      | some student =>
        if student.id ∈ contractedStudentIds db tenantId academicYearId then
          refuse "قرارداد" ("برای " ++ student.user.firstName ++ " " ++ student.user.lastName ++
            " در این سال تحصیلی قبلاً قرارداد شهریه ثبت شده است")
        else if rawAmount = .nan ∨ rawAmount.isNonPositive then
          refuse "مبلغ شهریه" "مبلغ شهریه نامعتبر است (باید عدد مثبت باشد)"
        else if rawDiscount = .nan ∨ rawDiscount.lt (.finite 0) then
          refuse "مبلغ تخفیف" "مبلغ تخفیف نمی‌تواند منفی باشد"
        else if rawAmount.lt rawDiscount then
          refuse "مبلغ تخفیف" "مبلغ تخفیف نمی‌تواند بیشتر از کل مبلغ شهریه باشد"
        else
          some (Sum.inr
            { rowIndex
              identifier := rawIdentifier
              studentId := student.id
              studentName := student.user.firstName ++ " " ++ student.user.lastName
              amount := rawAmount
              discountAmount := rawDiscount
              finalPayable := rawAmount.sub rawDiscount
              notes := truthy (some notes) })

end previewAllocationExcel

def previewAllocationExcel (db : Db) (tenantId academicYearId : Id) (rawData : List SheetRow) :
    Result AllocationPreview := do
  require (¬ rawData.length < 2) (.badRequest "فایل اکسل ارسالی خالی است یا سطر داده ندارد")
  let outcomes := (numbered rawData).filterMap fun (row, i) =>
    previewAllocationExcel.previewRow db tenantId academicYearId i row
  let errors := outcomes.filterMap Sum.getLeft?
  let validRows := outcomes.filterMap Sum.getRight?
  return { totalRowsProcessed := rawData.length - 1
           validCount := validRows.length
           errorCount := errors.length
           errors
           validRows }

/-! ### Plans -/

structure FeePlanInstallmentConfigItemDto where
  number : ℤ
  title : String
  percentOrAmount : Number
  dueMonthOffset : ℤ

structure FeePlan where
  (id tenantId : Id)
  installmentConfig : Option (List FeePlanInstallmentConfigItemDto) := none

instance : Record FeePlan where
  key p := p.id

def planInstallments (plans : Table FeePlan) (tenantId : Id) (feePlanId : Option Id) :
    List FeePlanInstallmentConfigItemDto :=
  (((feePlanId.bind plans.find?).filter (·.tenantId = tenantId)).bind (·.installmentConfig)).getD []

/-! ### Confirmation -/

structure ImportFeeAllocationRowDto where
  rowIndex : ℕ
  identifier : String
  amount : Number
  discountAmount : Option Number := none
  notes : Option String := none

structure ConfirmFeeAllocationImportDto where
  academicYearId : Id
  feePlanId : Option Id := none
  rows : List ImportFeeAllocationRowDto

structure AllocationReply where
  success : Bool := true
  message : String
  createdCount : ℕ

/-- An accepted row as it is sent back for confirmation. -/
def ValidAllocationRow.toDto (row : ValidAllocationRow) : ImportFeeAllocationRowDto :=
  { rowIndex := row.rowIndex
    identifier := row.identifier
    amount := row.amount
    discountAmount := some row.discountAmount
    notes := row.notes }

/-- An integer column takes the number. -/
def FitsInt (n : ℤ) : Prop := -2 ^ 31 ≤ n ∧ n < 2 ^ 31
deriving Decidable

namespace confirmAllocationImport

/-- `row.discountAmount || 0` -/
def orZero (x : Option Number) : Number := (x.filter (· ≠ .nan)).getD (.finite 0)

def contractNumber (env : Env) : String :=
  "FEE-IMP-" ++ lastChars 6 (toString env.now) ++ "-" ++ toString (100 + env.receiptDraw.val)

/-- The share of one installment of a plan of `count`. -/
def percent (item : FeePlanInstallmentConfigItemDto) (count : ℕ) : Number :=
  let percentOrAmount :=
    if item.percentOrAmount = .nan ∨ item.percentOrAmount = .finite 0 then
      (Number.finite 100).div (.finite count)
    else item.percentOrAmount
  percentOrAmount.div (.finite 100)

/-- The amount of one installment, when the column can take it. -/
def installmentAmount (finalAmt : ℚ) (count : ℕ) (item : FeePlanInstallmentConfigItemDto) :
    Option Money := do
  let percent ← (percent item count).toDecimal
  Money.store (Decimal.times finalAmt percent)

/-- `item.number || 1` -/
def installmentNumber (item : FeePlanInstallmentConfigItemDto) : ℤ :=
  if item.number = 0 then 1 else item.number

def installment (env : Env) (tenantId contractId : Id) (item : FeePlanInstallmentConfigItemDto)
    (id : Id) (amount : Money) : FeeInstallment :=
  { id
    tenantId
    contractId
    installmentNumber := installmentNumber item
    title := (truthy (some item.title)).getD ("قسط شماره " ++ toString item.number)
    dueDate := addMonths env.now item.dueMonthOffset
    amount
    paidAmount := 0
    status := .unpaid }

def planInstallment (env : Env) (tenantId contractId : Id) (finalAmt : ℚ) (count : ℕ) (db : Db)
    (item : FeePlanInstallmentConfigItemDto) : Result Db := do
  let amount ← orFail (installmentAmount finalAmt count item) (.database .numericOverflow)
  require (FitsInt (installmentNumber item)) (.database .numericOverflow)
  db.write (.createInstallment
    (installment env tenantId contractId item db.installments.fresh amount))

/-- Without a plan there is one installment, due in thirty days. -/
def lumpInstallment (env : Env) (tenantId contractId id : Id) (amount : Money) : FeeInstallment :=
  { id
    tenantId
    contractId
    installmentNumber := 1
    title := "کل مبلغ مصوب شهریه"
    dueDate := env.now + 30 * 86400000
    amount
    paidAmount := 0
    status := .unpaid }

def lumpSum (env : Env) (tenantId contractId : Id) (finalAmt : ℚ) (db : Db) :
    Result Db := do
  let amount ← column finalAmt
  db.write (.createInstallment
    (lumpInstallment env tenantId contractId db.installments.fresh amount))

def contract (env : Env) (tenantId : Id) (dto : ConfirmFeeAllocationImportDto)
    (row : ImportFeeAllocationRowDto) (student : StudentProfile) (id : Id)
    (totalAmount discountAmount finalPayableAmount : Money) : StudentFeeContract :=
  { id
    tenantId
    academicYearId := dto.academicYearId
    studentId := student.id
    contractNumber := contractNumber env
    totalAmount
    discountAmount
    finalPayableAmount
    balanceRemaining := finalPayableAmount
    discountReason := row.notes
    feePlanId := dto.feePlanId
    isIndividual := dto.feePlanId.isNone
    status := .active }

def createInstallments (env : Env) (plans : Table FeePlan) (tenantId : Id) (feePlanId : Option Id)
    (contractId : Id) (finalAmt : ℚ) (db : Db) : Result Db :=
  match planInstallments plans tenantId feePlanId with
  | [] => lumpSum env tenantId contractId finalAmt db
  | items => inTurn (planInstallment env tenantId contractId finalAmt items.length) db items

/-- The contract of a row with its installments. -/
def allocate (env : Env) (plans : Table FeePlan) (tenantId : Id)
    (dto : ConfirmFeeAllocationImportDto) (row : ImportFeeAllocationRowDto)
    (student : StudentProfile) (db : Db) : Result Db := do
  let totalAmt ← orFail row.amount.toDecimal (.database .numericOverflow)
  let discountAmt ← orFail (orZero row.discountAmount).toDecimal (.database .numericOverflow)
  let finalAmt := Decimal.minus totalAmt discountAmt
  let totalAmount ← column totalAmt
  let discountAmount ← column discountAmt
  let finalPayableAmount ← column finalAmt
  require (plans.has dto.feePlanId = true) (.database .foreignKey)
  let contract := contract env tenantId dto row student db.contracts.fresh totalAmount
    discountAmount finalPayableAmount
  let db ← db.write (.createContract contract)
  createInstallments env plans tenantId dto.feePlanId contract.id finalAmt db

/-- One row: how many contracts it creates, none or one. -/
def importRow (env : Env) (plans : Table FeePlan) (tenantId : Id)
    (dto : ConfirmFeeAllocationImportDto) (row : ImportFeeAllocationRowDto) (db : Db) :
    Result (Db × ℕ) :=
  match confirmPaymentImport.findStudent db tenantId row.identifier with
  | none => .ok (db, 0)
  | some student =>
    if student.id ∈ contractedStudentIds db tenantId dto.academicYearId then .ok (db, 0)
    else do
      let db ← allocate env plans tenantId dto row student db
      return (db, 1)

/-- The rows in order; row `i` draws from `env i`. -/
def importRows (env : ℕ → Env) (plans : Table FeePlan) (tenantId : Id)
    (dto : ConfirmFeeAllocationImportDto) :
    ℕ → List ImportFeeAllocationRowDto → Db → Result (Db × ℕ)
  | _, [], db => .ok (db, 0)
  | i, row :: rows, db => do
      let (db, created) ← importRow (env i) plans tenantId dto row db
      let (db, count) ← importRows env plans tenantId dto (i + 1) rows db
      return (db, created + count)

end confirmAllocationImport

def confirmAllocationImport (env : ℕ → Env) (plans : Table FeePlan) (tenantId : Id)
    (dto : ConfirmFeeAllocationImportDto) (db : Db) : Result (Db × AllocationReply) := do
  require (dto.rows ≠ []) (.badRequest "هیچ ردیف معتبری برای ثبت ارسال نشده است")
  let (db, createdCount) ←
    confirmAllocationImport.importRows env plans tenantId dto 0 dto.rows db
  return (db,
    { message := "تعداد " ++ toString createdCount ++ " قرارداد شهریه با موفقیت ایجاد شد"
      createdCount })

end Rokad.Finance
