import Rokad.Base.Run
import Rokad.Payroll.Calculation

/-!
# Payslips

The other operations on slips and adjustments, and the calls of the payroll service as one
step function: a call that fails leaves the database as it was.
-/

namespace Rokad.Payroll

open Rokad.Base Rokad.Common

def slipById (db : Db) (tenantId slipId : Id) : Option PayrollSlip :=
  (db.slips.find? slipId).filter (·.tenantId = tenantId)

/-- The signed-in administrator. -/
structure AdminUser where
  id : UserId
  isPlatformAdmin : Bool := false
  permissions : Option (List String) := none

/-! ### Review -/

structure ReviewPayrollSlipDto where
  finalAmount : ℕ
  editReason : String
  editReason_notEmpty : editReason ≠ "" := by decide

def reviewed (finalAmount : Toman) (dto : ReviewPayrollSlipDto) (adminUser : AdminUser)
    (now : Instant) : SlipUpdate where
  set s :=
    { s with
      finalAmount
      netPay := finalAmount
      grossPay := finalAmount
      status := .reviewed
      editReason := some (trim dto.editReason)
      editedById := some adminUser.id
      editedAt := some now }

def reviewAndEditSlip (db : Db) (tenantId slipId : Id) (dto : ReviewPayrollSlipDto)
    (adminUser : AdminUser) (now : Instant) : Result (Db × Unit) := do
  let slip ← orFail (slipById db tenantId slipId) (.notFound "فیش حقوقی مورد نظر یافت نشد")
  require (¬ slip.status.isIssued) (.badRequest ("این فیش قبلاً صادر قطعی شده و امکان ویرایش " ++
    "مستقیم آن وجود ندارد. لطفاً در صورت نیاز، تعدیل حقوق (PayrollAdjustment) ثبت فرمایید."))
  require (slip.status ≠ .cancelled) (.badRequest "این فیش باطل شده است و امکان ویرایش ندارد")
  let finalAmount ← column (toDouble dto.finalAmount)
  let db ← db.write (.updateSlip slipId (reviewed finalAmount dto adminUser now))
  return (db, ())

/-! ### Cancellation -/

structure CancelPayrollSlipDto where
  cancelReason : String
  cancelReason_notEmpty : cancelReason ≠ "" := by decide

def cancelled (dto : CancelPayrollSlipDto) (adminUser : AdminUser) (now : Instant) :
    SlipUpdate where
  set s :=
    { s with
      status := .cancelled
      cancelReason := some (trim dto.cancelReason)
      cancelledById := some adminUser.id
      cancelledAt := some now }

/-- Whether the administrator may take back an issued slip. -/
def mayFinalize (adminUser : AdminUser) : Bool :=
  adminUser.isPlatformAdmin || (adminUser.permissions.getD []).contains "finance.payroll.finalize"

def cancelSlip (db : Db) (tenantId slipId : Id) (dto : CancelPayrollSlipDto)
    (adminUser : AdminUser) (now : Instant) : Result (Db × Unit) := do
  let slip ← orFail (slipById db tenantId slipId) (.notFound "فیش حقوقی یافت نشد")
  require (slip.status ≠ .settled ∧ slip.status ≠ .paid) (.badRequest
    ("امکان ابطال فیشی که تسویه بانکی آن ثبت شده وجود ندارد. " ++
      "در صورت نیاز از ثبت تعدیلات استفاده نمایید."))
  require (¬ (slip.status = .issued ∧ ¬ mayFinalize adminUser))
    (.forbidden "فقط مدیر ارشد مجاز به ابطال فیش صادرشده است")
  let db ← db.write (.updateSlip slipId (cancelled dto adminUser now))
  return (db, ())

/-! ### Issue -/

structure FinalizeMonthlyPayrollDto where
  (year month : ℕ)
  year_range : 1400 ≤ year ∧ year ≤ 1450 := by decide
  month_range : 1 ≤ month ∧ month ≤ 12 := by decide

/-- The drafts and reviewed slips of a month. -/
def activeSlips (db : Db) (tenantId : Id) (year month : ℕ) : List PayrollSlip :=
  db.slips.rows.filter fun s => s.tenantId = tenantId ∧ s.year = year ∧ s.month = month ∧
    (s.status = .draft ∨ s.status = .reviewed)

structure FinalizeReply where
  message : String
  count : ℕ

def finalizeMonthlySlips (db : Db) (tenantId : Id) (dto : FinalizeMonthlyPayrollDto)
    (now : Instant) : Result (Db × FinalizeReply) := do
  let active := activeSlips db tenantId dto.year dto.month
  require (active ≠ [])
    (.badRequest "هیچ فیش پیش‌نویس یا بازبینی‌شده‌ای برای صدور در این ماه وجود ندارد")
  let slipIds := active.map (·.id)
  let db ← db.write (.issueSlips slipIds)
  let db ← db.write (.applyAdjustments slipIds now)
  return (db,
    { message := toString active.length ++ " فیش حقوقی برای ماه " ++ monthName dto.month ++ " " ++
        toString dto.year ++ " با موفقیت صادر قطعی گردید"
      count := active.length })

/-! ### Adjustments -/

structure CreatePayrollAdjustmentDto where
  teacherId : UserId
  originalSlipId : Option Id := none
  amount : ℤ
  reason : String
  teacherId_notEmpty : teacherId.text ≠ "" := by decide
  reason_notEmpty : reason ≠ "" := by decide

def createAdjustment (staff : Staff) (db : Db) (tenantId : Id) (createdById : UserId)
    (dto : CreatePayrollAdjustmentDto) : Result (Db × PayrollAdjustment) := do
  let _ ← orFail (staff.users.find? fun u => u.id = dto.teacherId ∧ u.tenantId = tenantId)
    (.notFound "مدرس مورد نظر یافت نشد")
  let amount ← column (toDouble dto.amount)
  let adjustment : PayrollAdjustment :=
    { id := db.adjustments.fresh
      tenantId
      teacherId := dto.teacherId
      originalSlipId := dto.originalSlipId
      amount
      reason := trim dto.reason
      createdById
      status := .pending }
  let db ← db.write (.createAdjustment adjustment)
  return (db, adjustment)

/-! ### Payment -/

structure ApproveAndPaySlipDto where
  paymentRefNumber : String
  paymentRefNumber_notEmpty : paymentRefNumber ≠ "" := by decide

def disbursed (approverUserId : UserId) (dto : ApproveAndPaySlipDto) (now : Instant) :
    SlipUpdate where
  set s :=
    { s with
      status := .paid
      paidAt := some now
      paidById := some approverUserId
      paymentRefNumber := some dto.paymentRefNumber }

def approveAndDisburse (db : Db) (tenantId slipId : Id) (approverUserId : UserId)
    (dto : ApproveAndPaySlipDto) (now : Instant) : Result (Db × Unit) := do
  let _ ← orFail (slipById db tenantId slipId) (.notFound "فیش حقوقی مورد نظر یافت نشد")
  let db ← db.write (.updateSlip slipId (disbursed approverUserId dto now))
  return (db, ())

/-! ### A slip from the payroll profile -/

/-- An amount in a request is the decimal its number prints as. -/
structure CreatePayrollItemDto where
  type : PayrollItemType
  title : String
  amount : ℚ
  multiplierOrHours : Option Number := none
  notes : Option String := none
  title_notEmpty : title ≠ "" := by decide

structure GeneratePayrollSlipDto where
  userId : UserId
  (year month : ℕ)
  customItems : Option (List CreatePayrollItemDto) := none
  userId_notEmpty : userId.text ≠ "" := by decide
  year_range : 1400 ≤ year ∧ year ≤ 1450 := by decide
  month_range : 1 ≤ month ∧ month ≤ 12 := by decide

def CreatePayrollItemDto.toDraft (item : CreatePayrollItemDto) : ItemDraft :=
  { type := item.type
    title := item.title
    amount := toDouble item.amount
    multiplierOrHours := item.multiplierOrHours
    notes := item.notes }

structure Pay where
  items : List ItemDraft
  (grossPay totalDeductions : Number)

def Pay.netPay (pay : Pay) : Number := (Number.finite 0).max (pay.grossPay.sub pay.totalDeductions)

def sumOf (items : List ItemDraft) : Number :=
  items.foldl (fun sum item => sum.add item.amount) (.finite 0)

def customPay (customItems : List CreatePayrollItemDto) : Pay :=
  let items := customItems.map (·.toDraft)
  { items
    grossPay := sumOf (items.filter fun item => Number.lt (.finite 0) item.amount)
    totalDeductions := (sumOf (items.filter fun item => item.amount.lt (.finite 0))).abs }

/-- The base salary, less insurance and tax. The month's name is looked up by its number, which
is the name of the next one. -/
def profilePay (month : ℕ) (baseSalary : Number) : Pay :=
  let grossPay := baseSalary
  let insuranceDeduction := (grossPay.mul (toDouble (7 / 100))).round
  let taxable := (Number.finite 0).max (grossPay.sub (.finite 15000000))
  let taxDeduction :=
    if Number.lt (.finite 0) taxable then (taxable.mul (toDouble (1 / 10))).round else .finite 0
  let name := (PERSIAN_MONTH_NAMES[month]?).getD ("ماه " ++ toString month)
  { items :=
      [{ type := .baseSalary, title := "حقوق پایه ماهانه (" ++ name ++ ")", amount := grossPay }] ++
      (if Number.lt (.finite 0) insuranceDeduction then
        [{ type := .insuranceDeduction
           title := "بیمه تأمین اجتماعی سهم کارمند (۷٪)"
           amount := insuranceDeduction.neg }] else []) ++
      (if Number.lt (.finite 0) taxDeduction then
        [{ type := .taxDeduction, title := "مالیات بر حقوق", amount := taxDeduction.neg }] else [])
    grossPay
    totalDeductions := insuranceDeduction.add taxDeduction }

def payOf (profile : StaffPayrollProfile) (dto : GeneratePayrollSlipDto) : Pay :=
  match dto.customItems with
  | some (item :: items) => customPay (item :: items)
  | _ => profilePay dto.month profile.baseMonthlySalary.toNumber

structure PayColumns where
  (grossPay totalDeductions netPay : Toman)

def payColumns (pay : Pay) : Result PayColumns := do
  let grossPay ← column pay.grossPay
  let totalDeductions ← column pay.totalDeductions
  let netPay ← column pay.netPay
  return { grossPay, totalDeductions, netPay }

def regenerated (columns : PayColumns) : SlipUpdate where
  set s :=
    { s with
      calculatedAmount := columns.grossPay
      finalAmount := columns.netPay
      grossPay := columns.grossPay
      totalDeductions := columns.totalDeductions
      netPay := columns.netPay
      status := .draft }

def generatedSlip (id tenantId : Id) (slipNumber : String) (dto : GeneratePayrollSlipDto)
    (columns : PayColumns) : PayrollSlip where
  id
  tenantId
  userId := dto.userId
  year := dto.year
  month := dto.month
  slipNumber
  calculatedAmount := columns.grossPay
  finalAmount := columns.netPay
  grossPay := columns.grossPay
  totalDeductions := columns.totalDeductions
  netPay := columns.netPay
  status := .draft

def generateSlipForUser (staff : Staff) (db : Db) (tenantId : Id) (dto : GeneratePayrollSlipDto) :
    Result (Db × Id) := do
  let profile ← orFail
    (staff.profiles.find? fun p => p.tenantId = tenantId ∧ p.user.id = dto.userId)
    (.notFound "پروفایل حقوقی برای این کاربر یافت نشد")
  let pay := payOf profile dto
  let columns ← payColumns pay
  match db.slipOf tenantId dto.userId dto.year dto.month with
  | some existingSlip => do
      let db ← db.write (.deleteItems existingSlip.id)
      let db ← db.write (.updateSlip existingSlip.id (regenerated columns))
      let db ← inTurn (createItem tenantId existingSlip.id) db pay.items
      return (db, existingSlip.id)
  | none => do
      let slip := generatedSlip db.slips.fresh tenantId
        (slipNumber dto.year dto.month profile.user.id) dto columns
      let db ← db.write (.createSlip slip)
      let db ← inTurn (createItem tenantId slip.id) db pay.items
      return (db, slip.id)

/-! ### Calls -/

inductive PayrollCall where
  | createAdjustment (createdById : UserId) (dto : CreatePayrollAdjustmentDto)
  | calculateMonthlyPayroll (dto : CalculateMonthlyPayrollDto)
  | generateSlipForUser (dto : GeneratePayrollSlipDto)
  | reviewAndEditSlip (slipId : Id) (dto : ReviewPayrollSlipDto) (adminUser : AdminUser)
  | cancelSlip (slipId : Id) (dto : CancelPayrollSlipDto) (adminUser : AdminUser)
  | finalizeMonthlySlips (dto : FinalizeMonthlyPayrollDto)
  | approveAndDisburse (slipId : Id) (approverUserId : UserId) (dto : ApproveAndPaySlipDto)

/-- A call with its tenant, its time and the staff as it finds them. -/
structure Request where
  tenantId : Id
  now : Instant := 0
  staff : Staff := {}
  call : PayrollCall

/-- The state a call returns, if it does not fail. -/
def reply (jalaali : Jalaali) (db : Db) (r : Request) : Result Db :=
  match r.call with
  | .createAdjustment createdById dto =>
    (createAdjustment r.staff db r.tenantId createdById dto).map (·.1)
  | .calculateMonthlyPayroll dto =>
    (calculateMonthlyPayroll jalaali r.staff db r.tenantId dto).map (·.1)
  | .generateSlipForUser dto => (generateSlipForUser r.staff db r.tenantId dto).map (·.1)
  | .reviewAndEditSlip slipId dto adminUser =>
    (reviewAndEditSlip db r.tenantId slipId dto adminUser r.now).map (·.1)
  | .cancelSlip slipId dto adminUser =>
    (cancelSlip db r.tenantId slipId dto adminUser r.now).map (·.1)
  | .finalizeMonthlySlips dto => (finalizeMonthlySlips db r.tenantId dto r.now).map (·.1)
  | .approveAndDisburse slipId approverUserId dto =>
    (approveAndDisburse db r.tenantId slipId approverUserId dto r.now).map (·.1)

def exec (jalaali : Jalaali) (db : Db) (r : Request) : Db :=
  match reply jalaali db r with
  | .ok db' => db'
  | .error _ => db

/-- A condition on the calls that go through; one that fails changes nothing. -/
def OnReturn (P : Db → Request → Prop) (jalaali : Jalaali) (db : Db) (r : Request) : Prop :=
  match reply jalaali db r with
  | .ok _ => P db r
  | .error _ => True

instance (P : Db → Request → Prop) [∀ db r, Decidable (P db r)] (jalaali : Jalaali) (db : Db)
    (r : Request) : Decidable (OnReturn P jalaali db r) := by
  unfold OnReturn
  split <;> infer_instance

/-! ### A small school

One teacher, paid by the session, in the year 1404. -/

namespace School

/-- The calendar of 1404, which begins on 2025-03-21 and is no leap year. -/
def jalaali : Jalaali where
  jalaaliMonthLength _ jm := CommonYear.monthLength jm
  isValidJalaaliDate _ _ _ := true
  toGregorian _ jm jd := civilFromDays (daysFromCivil 2025 3 21 + CommonYear.dayOfYear jm jd - 1)

example : jalaliToGregorianDate jalaali "1404-07-01" .start = .ok (dateUTC 2025 9 22 73800000) := by
  decide +kernel

def teacherId : UserId := { text := "a1b2c3d4" }

def adminId : UserId := { text := "b0" }

def teacher : User := { id := teacherId, tenantId := 1, teacherProfileId := some 1 }

def staff : Staff where
  users := [teacher]
  contracts := [{ id := 1, tenantId := 1, teacher, rateType := .perSession,
                  rateAmount := ⟨400000, by decide⟩, effectiveFrom := 0 }]
  attendance := [{ tenantId := 1, teacherId := 1, date := "1404-07-05" },
                 { tenantId := 1, teacherId := 1, date := "2025-10-28" }]
  profiles := [{ tenantId := 1, user := teacher, baseMonthlySalary := ⟨18000000, by decide⟩ }]

def admin : AdminUser :=
  { id := adminId, permissions := some ["finance.payroll.write", "finance.payroll.finalize"] }

def request (call : PayrollCall) : Request := { tenantId := 1, staff, call }

def adjust : Request :=
  request (.createAdjustment adminId { teacherId, amount := 500000, reason := "+1" })

def calculate (month : ℕ) : Request := request (.calculateMonthlyPayroll (monthOf month))

def finalize (month : ℕ) : Request :=
  request (.finalizeMonthlySlips ⟨1404, (inYear month).1, year_range, month_range month⟩)

theorem userId_notEmpty : teacherId.text ≠ "" := by decide

/-- A slip of the items, or of the profile. -/
def generated (month : ℕ) (customItems : Option (List CreatePayrollItemDto)) : Request :=
  request (.generateSlipForUser ⟨teacherId, 1404, (inYear month).1, customItems, userId_notEmpty,
    year_range, month_range month⟩)

def generate (month : ℕ) : Request := generated month none

def disburse (slipId : Id) : Request :=
  request (.approveAndDisburse slipId adminId { paymentRefNumber := "77" })

def cancel (slipId : Id) : Request := request (.cancelSlip slipId { cancelReason := "error" } admin)

end School

end Rokad.Payroll
