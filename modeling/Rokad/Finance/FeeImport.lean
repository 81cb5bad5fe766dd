import Rokad.Finance.Payment

/-!
# Payment import

`FeeImportService`: the preview of a payment spreadsheet and the confirmation that books
its rows. The preview resolves an identifier through a map over the active contracts;
the confirmation looks the student up again and takes the first active contract.

The spreadsheet is given as the reader delivers it: a list of rows of cells, the header
first. `findFirst` and `findMany` without an order take the rows in the order of the table.
-/

namespace Rokad.Finance

open Rokad.Base

/-! ### Cells -/

inductive Cell where
  | undefined
  | null
  | text (s : String)
  | number (x : Number)
  | bool (b : Bool)
deriving DecidableEq

/-- `String(cell || fallback)` -/
def Cell.orText (fallback : String) : Cell → String
  | .undefined | .null => fallback
  | .text s => if s = "" then fallback else s
  | .number x => if x = .nan ∨ x = .finite 0 then fallback else x.toString
  | .bool b => if b then "true" else fallback

/-- `cell === undefined || cell === ''` -/
def Cell.isBlank (cell : Cell) : Bool := cell = .undefined || cell = .text ""

abbrev SheetRow := List Cell

def SheetRow.cell (row : SheetRow) (i : ℕ) : Cell := row.getD i .undefined

/-! ### Preview -/

structure ImportErrorDetail where
  rowIndex : ℕ
  identifier : String
  field : Option String
  message : String

/-- A row the preview accepts. -/
structure ValidRow where
  rowIndex : ℕ
  identifier : String
  contractId : Id
  studentName : String
  method : PaymentMethod
  amount : Number
  date : String
  (checkNumber checkSayadId bankName notes : Option String)
deriving DecidableEq

structure PreviewReply where
  (totalRowsProcessed validCount errorCount : ℕ)
  errors : List ImportErrorDetail
  validRows : List ValidRow

/-- The identifiers of a student, as the map enters them: the ones that are present,
trimmed. -/
def mapKeys (s : StudentProfile) : List String :=
  [truthy s.user.nationalId, truthy (some s.studentCode), truthy s.nationalCode].reduceOption.map
    trim

/-- What the map over the active contracts holds, in the order it is filled. -/
def contractEntries (db : Db) (tenantId : Id) :
    List (String × StudentFeeContract × Option StudentProfile) :=
  (db.contracts.rows.filter fun c => c.tenantId = tenantId ∧ c.status = .active).flatMap fun c =>
    let student := db.students.find? c.studentId
    (student.elim [] mapKeys).map fun key => (key, c, student)

/-- `contractMap.get(identifier)`: the entry written last. -/
def contractMap (db : Db) (tenantId : Id) (identifier : String) :
    Option (StudentFeeContract × Option StudentProfile) :=
  ((contractEntries db tenantId).reverse.find? (·.1 = identifier)).map (·.2)

def existingSayadSet (db : Db) (tenantId : Id) : List String :=
  (db.payments.rows.filter fun p => p.tenantId = tenantId ∧ p.method = .cheque).filterMap
    fun p => truthy p.checkSayadId

def isChequeMethod (rawMethodStr : String) : Bool :=
  includes rawMethodStr "چک" || rawMethodStr = "cheque" || rawMethodStr = "check"

def isCashMethod (rawMethodStr : String) : Bool :=
  includes rawMethodStr "نقد" || rawMethodStr = "cash"

/-- One row of the sheet: skipped, refused or accepted. -/
def previewRow (db : Db) (tenantId : Id) (rowIndex : ℕ) (row : SheetRow) :
    Option (ImportErrorDetail ⊕ ValidRow) :=
  if row.all Cell.isBlank then none
  else
    let rawIdentifier := trim ((row.cell 0).orText "")
    let rawMethodStr := toLowerCase (trim ((row.cell 1).orText ""))
    let rawAmount := parseFloat (withoutCommas ((row.cell 2).orText "0"))
    let checkSayadId := onlyDigits (trim ((row.cell 5).orText ""))
    let refuse := fun field message =>
      some (Sum.inl ⟨rowIndex, rawIdentifier, some field, message⟩)
    if rawIdentifier = "" then refuse "کد ملی" "کد ملی الزامی است"
    else
      match contractMap db tenantId rawIdentifier with
      | none =>
        refuse "قرارداد" ("قرارداد شهریه فعالی برای شناسه \"" ++ rawIdentifier ++ "\" یافت نشد")
      | some (contract, student) =>
        if rawAmount = .nan ∨ rawAmount.isNonPositive then
          refuse "مبلغ" "مبلغ پرداختی باید مثبت باشد"
        else if ¬ isChequeMethod rawMethodStr ∧ ¬ isCashMethod rawMethodStr then
          refuse "نوع پرداخت" "نوع پرداخت باید \"نقدی\" یا \"چک\" باشد"
        else if isChequeMethod rawMethodStr ∧ checkSayadId.length ≠ 16 then
          refuse "کد صیادی"
            ("کد صیادی چک باید دقیقاً ۱۶ رقم باشد (داده دریافتی: " ++ checkSayadId ++ ")")
        else if isChequeMethod rawMethodStr ∧ checkSayadId ∈ existingSayadSet db tenantId then
          refuse "کد صیادی تکراری" ("چک با کد صیادی " ++ checkSayadId ++
            " قبلاً در سامانه ثبت گردیده است (هشدار ثبت مضاعف)")
        else
          some (Sum.inr
            { rowIndex
              identifier := rawIdentifier
              contractId := contract.id
              studentName := (student.elim "" (·.user.firstName)) ++ " " ++
                (student.elim "" (·.user.lastName))
              method := if isChequeMethod rawMethodStr then .cheque else .cash
              amount := rawAmount
              date := trim ((row.cell 3).orText "")
              checkNumber := truthy (some (trim ((row.cell 4).orText "")))
              checkSayadId := truthy (some checkSayadId)
              bankName := truthy (some (trim ((row.cell 6).orText "")))
              notes := truthy (some (trim ((row.cell 7).orText ""))) })

/-- The data rows with the row number a spreadsheet shows. -/
def numbered (rawData : List SheetRow) : List (SheetRow × ℕ) := (rawData.drop 1).zipIdx 2

def previewPaymentExcel (db : Db) (tenantId : Id) (rawData : List SheetRow) :
    Result PreviewReply := do
  require (¬ rawData.length < 2) (.badRequest "فایل اکسل ارسالی خالی است")
  let outcomes := (numbered rawData).filterMap fun (row, i) => previewRow db tenantId i row
  let errors := outcomes.filterMap Sum.getLeft?
  let validRows := outcomes.filterMap Sum.getRight?
  return { totalRowsProcessed := rawData.length - 1
           validCount := validRows.length
           errorCount := errors.length
           errors
           validRows }

/-! ### Confirmation -/

structure ImportFeePaymentRowDto where
  rowIndex : ℕ
  (identifier method : String)
  amount : Number
  date : String
  (checkNumber checkSayadId bankName notes : Option String := none)

structure ConfirmReply where
  success : Bool := true
  message : String
  registeredCount : ℕ

/-- The text of an enumeration value. -/
def PaymentMethod.text : PaymentMethod → String
  | .onlineGateway => "ONLINE_GATEWAY"
  | .posReceipt => "POS_RECEIPT"
  | .bankTransfer => "BANK_TRANSFER"
  | .cheque => "CHEQUE"
  | .cash => "CASH"

/-- An accepted row as it is sent back for confirmation. -/
def ValidRow.toDto (row : ValidRow) : ImportFeePaymentRowDto :=
  { rowIndex := row.rowIndex
    identifier := row.identifier
    method := row.method.text
    amount := row.amount
    date := row.date
    checkNumber := row.checkNumber
    checkSayadId := row.checkSayadId
    bankName := row.bankName
    notes := row.notes }

namespace confirmPaymentImport

def isCash (row : ImportFeePaymentRowDto) : Bool :=
  row.method = PaymentMethod.cash.text || row.method = "نقدی"

def findStudent (db : Db) (tenantId : Id) (identifier : String) : Option StudentProfile :=
  db.students.rows.find? fun s => s.tenantId = tenantId ∧ (s.user.nationalId = some identifier ∨
    s.studentCode = identifier ∨ s.nationalCode = some identifier)

def findContract (db : Db) (tenantId studentId : Id) : Option StudentFeeContract :=
  db.contracts.rows.find? fun c =>
    c.tenantId = tenantId ∧ c.studentId = studentId ∧ c.status = .active

/-- The student and the contract a row is booked on. -/
def resolve (db : Db) (tenantId : Id) (identifier : String) :
    Option (StudentProfile × StudentFeeContract) := do
  let student ← findStudent db tenantId identifier
  let contract ← findContract db tenantId student.id
  return (student, contract)

def receiptNumber (env : Env) : String :=
  "REC-CSH-IMP-" ++ lastChars 6 (toString env.now) ++ "-" ++ toString (100 + env.receiptDraw.val)

def cashPayment (env : Env) (tenantId recordedById : Id) (row : ImportFeePaymentRowDto)
    (contract : StudentFeeContract) (id : Id) (amount : Money) : FeePayment :=
  { id
    tenantId
    feeContractId := contract.id
    method := .cash
    amount
    cashReceivedAt := some env.now
    recordedById
    note := row.notes }

def cashReceipt (env : Env) (recordedById : Id) (student : StudentProfile) (payment : FeePayment)
    (id : Id) : FeeReceipt :=
  { id
    tenantId := payment.tenantId
    contractId := payment.feeContractId
    paymentId := some payment.id
    receiptNumber := receiptNumber env
    amount := payment.amount
    payerName := payerName (some student) "ولی دانش‌آموز"
    paymentMethod := .cash
    issuedById := some recordedById }

/-- A cash row reduces the balance. -/
def bookCash (env : Env) (tenantId recordedById : Id) (row : ImportFeePaymentRowDto) (payAmt : ℚ)
    (student : StudentProfile) (contract : StudentFeeContract) (db : Db) : Result Db := do
  let amount ← column payAmt
  let payment := cashPayment env tenantId recordedById row contract db.payments.fresh amount
  let db ← db.write (.createPayment payment)
  let db ← writeBalance db contract (finalBalance contract.balanceRemaining payAmt)
  db.write (.createReceipt (cashReceipt env recordedById student payment db.receipts.fresh))

def chequePayment (env : Env) (tenantId recordedById : Id) (row : ImportFeePaymentRowDto)
    (contract : StudentFeeContract) (id : Id) (amount : Money) : FeePayment :=
  { id
    tenantId
    feeContractId := contract.id
    method := .cheque
    amount
    checkNumber := some ((truthy row.checkNumber).getD "چک ایمپورت")
    checkSayadId := row.checkSayadId
    bankName := some ((truthy row.bankName).getD "بانک نامشخص")
    checkDueDate := some (env.now + 60 * 86400000)
    checkStatus := some .pending
    recordedById
    note := row.notes }

/-- Any other row is a cheque, which stays pending. -/
def bookCheque (env : Env) (tenantId recordedById : Id) (row : ImportFeePaymentRowDto)
    (payAmt : ℚ) (contract : StudentFeeContract) (db : Db) : Result Db := do
  let amount ← column payAmt
  db.write (.createPayment
    (chequePayment env tenantId recordedById row contract db.payments.fresh amount))

def book (env : Env) (tenantId recordedById : Id) (row : ImportFeePaymentRowDto) (payAmt : ℚ)
    (student : StudentProfile) (contract : StudentFeeContract) (db : Db) : Result Db :=
  if isCash row then bookCash env tenantId recordedById row payAmt student contract db
  else bookCheque env tenantId recordedById row payAmt contract db

/-- One row: how many payments it registers, none or one. -/
def importRow (env : Env) (tenantId recordedById : Id) (row : ImportFeePaymentRowDto) (db : Db) :
    Result (Db × ℕ) :=
  match resolve db tenantId row.identifier with
  | none => .ok (db, 0)
  | some (student, contract) => do
      let payAmt ← orFail row.amount.toDecimal (.database .numericOverflow)
      let db ← book env tenantId recordedById row payAmt student contract db
      return (db, 1)

/-- The rows in order; row `i` draws from `env i`. -/
def importRows (env : ℕ → Env) (tenantId recordedById : Id) :
    ℕ → List ImportFeePaymentRowDto → Db → Result (Db × ℕ)
  | _, [], db => .ok (db, 0)
  | i, row :: rows, db => do
      let (db, registered) ← importRow (env i) tenantId recordedById row db
      let (db, count) ← importRows env tenantId recordedById (i + 1) rows db
      return (db, registered + count)

/-- Each row with the state it is taken from. -/
def rowStates (env : ℕ → Env) (tenantId recordedById : Id) :
    ℕ → List ImportFeePaymentRowDto → Db → List (Db × ImportFeePaymentRowDto)
  | _, [], _ => []
  | i, row :: rows, db =>
    (db, row) ::
      match importRow (env i) tenantId recordedById row db with
      | .ok (db, _) => rowStates env tenantId recordedById (i + 1) rows db
      | .error _ => []

end confirmPaymentImport

def confirmPaymentImport (env : ℕ → Env) (tenantId recordedById : Id)
    (rows : List ImportFeePaymentRowDto) (db : Db) : Result (Db × ConfirmReply) := do
  require (rows ≠ []) (.badRequest "هیچ ردیف معتبری برای ثبت پرداخت ارسال نشده است")
  let (db, registeredCount) ←
    confirmPaymentImport.importRows env tenantId recordedById 0 rows db
  return (db,
    { message := "تعداد " ++ toString registeredCount ++
        " پرداخت (نقدی/چک) با موفقیت در سیستم ثبت گردید"
      registeredCount })

end Rokad.Finance
