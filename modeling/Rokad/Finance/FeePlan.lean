import Rokad.Finance.AllocationImport

/-!
# Fee plans

`FeeService.previewFeePlanAllocation` and `applyFeePlan`: one contract for each enrolled student of
the plan's scope who has none in its year. The enrollments and the plans are read and never written
here: they are given with the request. A plan's amount is what `createFeePlan` admits.
-/

namespace Rokad.Finance

open Rokad.Base
open Rokad.Common (addMonths)

inductive FeePlanScope where
  | allSchool | educationalLevel | classroom | individual

/-- An enrollment with the level of its classroom. -/
structure ClassEnrollment where
  (tenantId academicYearId classroomId levelId studentId : Id)
  isActive : Bool := true

/-- A plan with its academic year. -/
structure FeePlanDetails extends FeePlan where
  academicYearId : Id
  (academicYearName title : String)
  amount : Money
  appliesTo : FeePlanScope := .allSchool
  (educationalLevelId classroomId : Option Id := none)
  installmentCount : ℕ := 1
  amount_min : (1000 : ℚ) ≤ amount

structure AppliedReply where
  success : Bool := true
  message : String
  createdCount : ℕ

namespace Decimal

/-- `a.dividedBy(b)` -/
def dividedBy (a b : ℚ) : ℚ := toPrecision 20 (a / b)

end Decimal

def getFeePlan (plans : List FeePlanDetails) (tenantId planId : Id) : Result FeePlanDetails :=
  orFail (plans.find? fun plan => plan.id = planId ∧ plan.tenantId = tenantId)
    (.notFound "طرح شهریه مورد نظر یافت نشد")

namespace previewFeePlanAllocation

def inScope (plan : FeePlanDetails) (e : ClassEnrollment) : Bool :=
  match plan.appliesTo with
  | .allSchool => true
  | .educationalLevel => plan.educationalLevelId = some e.levelId
  | .classroom => plan.classroomId = some e.classroomId
  | .individual => false

/-- The students of the scope, each once. -/
def eligibleStudents (enrollments : List ClassEnrollment) (tenantId : Id) (plan : FeePlanDetails) :
    List Id :=
  ((enrollments.filter fun e => e.tenantId = tenantId ∧ e.academicYearId = plan.academicYearId ∧
    e.isActive ∧ inScope plan e).map (·.studentId)).eraseDups

def readyStudents (enrollments : List ClassEnrollment) (tenantId : Id) (plan : FeePlanDetails)
    (db : Db) : List Id :=
  (eligibleStudents enrollments tenantId plan).filter
    (· ∉ contractedStudentIds db tenantId plan.academicYearId)

end previewFeePlanAllocation

namespace applyFeePlan

def contractNumber (env : Env) (plan : FeePlanDetails) : String :=
  "FEE-" ++ (truthy (some (onlyDigits plan.academicYearName))).getD "1404" ++ "-" ++
    toString (1000 + env.trackingDraw.val)

def contract (env : Env) (tenantId : Id) (plan : FeePlanDetails) (studentId id : Id) :
    StudentFeeContract :=
  { id
    tenantId
    academicYearId := plan.academicYearId
    studentId
    contractNumber := contractNumber env plan
    totalAmount := plan.amount
    discountAmount := 0
    finalPayableAmount := plan.amount
    balanceRemaining := plan.amount
    feePlanId := some plan.id
    isIndividual := false
    status := .active }

def evenInstallment (env : Env) (tenantId contractId : Id) (singleAmount : ℚ) (db : Db) (i : ℕ) :
    Result Db := do
  let amount ← column singleAmount
  db.write (.createInstallment
    { id := db.installments.fresh
      tenantId
      contractId
      installmentNumber := i + 1
      title := if i = 0 then "پیش‌پرداخت شهریه" else "قسط شماره " ++ toString (i + 1)
      dueDate := addMonths env.now (i * 2)
      amount
      paidAmount := 0
      status := .unpaid })

/-- The installments the plan configures, or equal ones. -/
def createInstallments (env : Env) (tenantId : Id) (plan : FeePlanDetails) (contractId : Id)
    (db : Db) : Result Db :=
  match plan.installmentConfig.getD [] with
  | [] =>
    let installmentCount := if plan.installmentCount = 0 then 1 else plan.installmentCount
    inTurn (evenInstallment env tenantId contractId
      (Decimal.dividedBy plan.amount installmentCount)) db (List.range installmentCount)
  | items =>
    inTurn (confirmAllocationImport.planInstallment env tenantId contractId plan.amount
      items.length) db items

def allocate (env : Env) (tenantId : Id) (plan : FeePlanDetails) (studentId : Id) (db : Db) :
    Result Db := do
  let contract := contract env tenantId plan studentId db.contracts.fresh
  let db ← db.write (.createContract contract)
  createInstallments env tenantId plan contract.id db

/-- The students in order; student `i` draws from `env i`. -/
def allocateAll (env : ℕ → Env) (tenantId : Id) (plan : FeePlanDetails) :
    ℕ → List Id → Db → Result Db
  | _, [], db => .ok db
  | i, studentId :: studentIds, db => do
      let db ← allocate (env i) tenantId plan studentId db
      allocateAll env tenantId plan (i + 1) studentIds db

end applyFeePlan

def applyFeePlan (env : ℕ → Env) (plans : List FeePlanDetails) (enrollments : List ClassEnrollment)
    (tenantId planId : Id) (db : Db) : Result (Db × AppliedReply) := do
  let plan ← getFeePlan plans tenantId planId
  let readyStudents := previewFeePlanAllocation.readyStudents enrollments tenantId plan db
  require (readyStudents.length ≠ 0)
    (.badRequest ("هیچ دانش‌آموز جدیدی برای اعمال این طرح شهریه وجود ندارد " ++
      "(تمام مشمولین دارای قرارداد هستند)"))
  let db ← applyFeePlan.allocateAll env tenantId plan 0 readyStudents db
  let createdCount := readyStudents.length
  return (db,
    { message := "طرح شهریه \"" ++ plan.title ++ "\" با موفقیت روی " ++ toString createdCount ++
        " دانش‌آموز اعمال گردید و همه آنها بدهکار شدند"
      createdCount })

end Rokad.Finance
