import Rokad.Payroll.Schema

/-!
# Monthly calculation

`calculateMonthlyPayroll`: for each contract in force in the month, the slip of the teacher
is written anew from the attendance and the pending adjustments, unless it was issued.
-/

namespace Rokad.Payroll

open Rokad.Base Rokad.Common

/-! ### The month -/

structure CalculateMonthlyPayrollDto where
  (year month : ℕ)
  year_range : 1400 ≤ year ∧ year ≤ 1450 := by decide
  month_range : 1 ≤ month ∧ month ≤ 12 := by decide
deriving DecidableEq

theorem School.year_range : 1400 ≤ 1404 ∧ 1404 ≤ 1450 := by decide

/-- The month of this number, or the first. -/
def School.inYear (month : ℕ) : { m : ℕ // 1 ≤ m ∧ m ≤ 12 } :=
  if range : 1 ≤ month ∧ month ≤ 12 then ⟨month, range⟩ else ⟨1, by decide⟩

theorem School.month_range (month : ℕ) : 1 ≤ (inYear month).1 ∧ (inYear month).1 ≤ 12 :=
  (inYear month).2

def School.monthOf (month : ℕ) : CalculateMonthlyPayrollDto :=
  ⟨1404, (inYear month).1, year_range, month_range month⟩

/-- A month in both calendars. -/
structure MonthRange where
  (startStr endStr : String)
  (gStartDate gEndDate : Instant)
deriving DecidableEq

def MonthRange.gStartDateStr (range : MonthRange) : String := isoDate range.gStartDate

def MonthRange.gEndDateStr (range : MonthRange) : String := isoDate range.gEndDate

def monthRange (jalaali : Jalaali) (year month : ℕ) : Result MonthRange := do
  let daysInMonth := jalaali.jalaaliMonthLength year month
  let startStr := toString year ++ "-" ++ pad2 month ++ "-01"
  let endStr := toString year ++ "-" ++ pad2 month ++ "-" ++ pad2 daysInMonth
  let gStartDate ← (jalaliToGregorianDate jalaali startStr .start).mapError .thrown
  let gEndDate ← (jalaliToGregorianDate jalaali endStr .end).mapError .thrown
  return { startStr, endStr, gStartDate, gEndDate }

/-- The contracts in force in the month. -/
def contractsInForce (staff : Staff) (tenantId : Id) (range : MonthRange) : List TeacherContract :=
  staff.contracts.filter fun c => c.tenantId = tenantId ∧ c.effectiveFrom ≤ range.gEndDate ∧
    ∀ effectiveTo ∈ c.effectiveTo, range.gStartDate ≤ effectiveTo

/-- The days a teacher was present, written in either calendar. -/
def countSessions (staff : Staff) (tenantId : Id) (range : MonthRange)
    (teacherProfileId : Option Id) : ℕ :=
  match teacherProfileId with
  | none => 0
  | some teacherId => staff.attendance.countP fun a =>
    a.tenantId = tenantId ∧ a.teacherId = teacherId ∧ a.status = .present ∧
      (range.startStr ≤ a.date ∧ a.date ≤ range.endStr ∨
        range.gStartDateStr ≤ a.date ∧ a.date ≤ range.gEndDateStr)

/-! ### The amount of a contract -/

structure Calculation where
  sessionCount : ℕ
  (baseSalary calculatedAmount : Number)
  sourceHours : Option Number := none
  capWarningDetails : Option String := none

def Calculation.hasCapWarning (worked : Calculation) : Bool := worked.capWarningDetails.isSome

/-- `monthlyHourCap && value > monthlyHourCap` -/
def exceedsCap (cap : Option ℕ) (value : Number) : Option ℕ :=
  cap.filter fun cap => cap ≠ 0 ∧ Number.lt (.finite cap) value

def calculation (contract : TeacherContract) (sessionCount : ℕ) : Calculation :=
  let rateAmount := contract.rateAmount.toNumber
  let baseSalary := contract.baseSalary.elim (.finite 0) Toman.toNumber
  match contract.rateType with
  | .perSession =>
    { sessionCount
      baseSalary
      calculatedAmount := ((toDouble sessionCount).mul rateAmount).add baseSalary
      capWarningDetails := (exceedsCap contract.monthlyHourCap (toDouble sessionCount)).map
        fun cap => "تعداد جلسات تدریس (" ++ toString sessionCount ++
          ") فراتر از سقف ماهانه قرارداد (" ++ toString cap ++ ") است" }
  | .hourly =>
    -- Each session counts as an hour and a half.
    let sourceHours := ((toDouble sessionCount).mul (.finite (3 / 2))).toFixed2
    { sessionCount
      baseSalary
      calculatedAmount := ((sourceHours.mul rateAmount).add baseSalary).round
      sourceHours := some sourceHours
      capWarningDetails := (exceedsCap contract.monthlyHourCap sourceHours).map
        fun cap => "ساعات تدریس (" ++ sourceHours.toString ++
          " ساعت) فراتر از سقف ماهانه قرارداد (" ++ toString cap ++ " ساعت) است" }

/-! ### The slip of a contract -/

def PayrollStatus.isIssued (status : PayrollStatus) : Bool :=
  status ∈ [.issued, .settled, .paid]

/-- `teacher.id.slice(0, 5).toUpperCase()` in the number of a slip: a character of an id is one code
unit, and only ASCII letters change case. -/
def slipNumber (year month : ℕ) (userId : UserId) : String :=
  "PAY-" ++ toString year ++ "-" ++ pad2 month ++ "-" ++
    (String.ofList (userId.text.toList.take 5)).toUpper

/-- The one slip of a user and a month. -/
def Db.slipOf (db : Db) (tenantId : Id) (userId : UserId) (year month : ℕ) : Option PayrollSlip :=
  db.slips.rows.find? fun s =>
    s.tenantId = tenantId ∧ s.userId = userId ∧ s.year = year ∧ s.month = month

def pendingAdjustments (db : Db) (tenantId : Id) (teacherId : UserId) : List PayrollAdjustment :=
  db.adjustments.rows.filter fun a =>
    a.tenantId = tenantId ∧ a.teacherId = teacherId ∧ a.status = .pending

/-- An item before it is stored. -/
structure ItemDraft where
  type : PayrollItemType
  title : String
  amount : Number
  multiplierOrHours : Option Number := none
  notes : Option String := none
  source : Option Id := none

def createItem (tenantId slipId : Id) (db : Db) (draft : ItemDraft) : Result Db := do
  let amount ← column draft.amount
  db.write (.createItem
    { id := db.items.fresh
      tenantId
      payrollSlipId := slipId
      type := draft.type
      title := draft.title
      amount
      multiplierOrHours := draft.multiplierOrHours
      notes := draft.notes
      source := draft.source })

def monthName (month : ℕ) : String := PERSIAN_MONTH_NAMES.getD (month - 1) "undefined"

def teachingItems (contract : TeacherContract) (month : ℕ) (worked : Calculation) : List ItemDraft :=
  let teachingAmount := worked.calculatedAmount.sub worked.baseSalary
  let units := worked.sourceHours.getD (toDouble worked.sessionCount)
  (if Number.lt (.finite 0) worked.baseSalary then
    [{ type := .baseSalary
       title := "حقوق ثابت پایه ماهیانه (" ++ monthName month ++ ")"
       amount := worked.baseSalary }] else []) ++
  (if Number.lt (.finite 0) teachingAmount then
    [{ type := .hourlyTeaching
       title := "حق‌التدریس " ++ units.toString ++ (match contract.rateType with
          | .perSession => " جلسه تدریس رسمی"
          | .hourly => " ساعت تدریس رسمی")
       amount := teachingAmount
       multiplierOrHours := some units }] else [])

/-- An adjustment becomes an item of the slip and is linked to it. -/
def addAdjustment (tenantId slipId : Id) (db : Db) (adj : PayrollAdjustment) :
    Result Db := do
  let db ← createItem tenantId slipId db
    { type := .adjustment
      title := "تعدیلات و اصلاحات معوقه: " ++ adj.reason
      amount := adj.amount.toNumber
      source := some adj.id }
  db.write (.linkAdjustment adj.id slipId)

def fillSlip (tenantId slipId : Id) (drafts : List ItemDraft) (pending : List PayrollAdjustment)
    (db : Db) : Result Db := do
  let db ← inTurn (createItem tenantId slipId) db drafts
  inTurn (addAdjustment tenantId slipId) db pending

/-- The columns of a calculated slip, before it is stored. -/
structure SlipColumns where
  (calculatedAmount finalAmount : Toman)
  sourceHours : Option ℚ

def slipColumns (worked : Calculation) (pending : List PayrollAdjustment) :
    Result SlipColumns := do
  let totalAdjustment := pending.foldl (fun sum adj => sum.add adj.amount.toNumber) (.finite 0)
  let initialFinalAmount := (Number.finite 0).max (worked.calculatedAmount.add totalAdjustment)
  let calculatedAmount ← column worked.calculatedAmount
  let finalAmount ← column initialFinalAmount
  match worked.sourceHours with
  | none => return { calculatedAmount, finalAmount, sourceHours := none }
  | some hours => do
      let stored ← hoursColumn hours
      return { calculatedAmount, finalAmount, sourceHours := some stored }

/-- What a calculation writes over a slip that exists. -/
def recalculated (columns : SlipColumns) (worked : Calculation) : SlipUpdate where
  set s :=
    { s with
      calculatedAmount := columns.calculatedAmount
      finalAmount := columns.finalAmount
      grossPay := columns.finalAmount
      totalDeductions := 0
      netPay := columns.finalAmount
      sourceSessionCount := worked.sessionCount
      sourceHours := columns.sourceHours
      hasCapWarning := worked.hasCapWarning
      capWarningDetails := worked.capWarningDetails
      status := .draft }

def calculatedSlip (id tenantId : Id) (userId : UserId) (year month : ℕ) (columns : SlipColumns)
    (worked : Calculation) : PayrollSlip where
  id
  tenantId
  userId
  year
  month
  slipNumber := slipNumber year month userId
  calculatedAmount := columns.calculatedAmount
  finalAmount := columns.finalAmount
  grossPay := columns.finalAmount
  totalDeductions := 0
  netPay := columns.finalAmount
  sourceSessionCount := worked.sessionCount
  sourceHours := columns.sourceHours
  hasCapWarning := worked.hasCapWarning
  capWarningDetails := worked.capWarningDetails
  status := .draft

/-- One contract: the state it leaves, with the slips generated so far. -/
def calculateContract (range : MonthRange) (staff : Staff) (tenantId : Id) (year month : ℕ)
    (acc : Db × List Id) (contract : TeacherContract) : Result (Db × List Id) := do
  let (db, generatedSlips) := acc
  let teacher := contract.teacher
  let worked := calculation contract
    (countSessions staff tenantId range teacher.teacherProfileId)
  let pending := pendingAdjustments db tenantId teacher.id
  match db.slipOf tenantId teacher.id year month with
  | some existingSlip =>
    if existingSlip.status.isIssued then return (db, generatedSlips)
    else do
      let columns ← slipColumns worked pending
      let db ← db.write (.updateSlip existingSlip.id (recalculated columns worked))
      let db ← db.write (.deleteItems existingSlip.id)
      let db ← fillSlip tenantId existingSlip.id (teachingItems contract month worked) pending db
      return (db, generatedSlips ++ [existingSlip.id])
  | none => do
      let columns ← slipColumns worked pending
      let slip := calculatedSlip db.slips.fresh tenantId teacher.id year month columns worked
      let db ← db.write (.createSlip slip)
      let db ← fillSlip tenantId slip.id (teachingItems contract month worked) pending db
      return (db, generatedSlips ++ [slip.id])

structure CalculationReply where
  message : String
  (year month processedCount : ℕ)

def calculateMonthlyPayroll (jalaali : Jalaali) (staff : Staff) (db : Db) (tenantId : Id)
    (dto : CalculateMonthlyPayrollDto) : Result (Db × CalculationReply) := do
  let range ← monthRange jalaali dto.year dto.month
  let contracts := contractsInForce staff tenantId range
  require (contracts ≠ []) (.badRequest "هیچ قرارداد فعالی برای مدرسین در این ماه یافت نشد")
  let (db, generatedSlips) ←
    inTurn (calculateContract range staff tenantId dto.year dto.month) (db, []) contracts
  return (db,
    { message := "محاسبه خودکار کارکرد برای " ++ toString generatedSlips.length ++
        " مدرس با موفقیت انجام شد"
      year := dto.year
      month := dto.month
      processedCount := generatedSlips.length })

end Rokad.Payroll
