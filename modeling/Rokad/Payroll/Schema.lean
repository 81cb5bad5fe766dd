import Rokad.Common.Http
import Rokad.Common.Jalali

/-!
# The payroll tables

Payslips, their items and the adjustments, with the columns the payroll services read or
write, and the database: three tables whose foreign keys hold. Contracts, attendance and
profiles are the `Staff` a call reads and never writes.

An item that was made of an adjustment carries it as `source`. The table has no such column;
it is what makes it sayable that an adjustment appears in a slip.
-/

namespace Rokad.Payroll

open Rokad.Base Rokad.Common

/-! ### Columns -/

/-- A value of a `Decimal(15, 0)` column: whole tomans. -/
structure Toman where
  tomans : ℤ
  fits : tomans.natAbs < 10 ^ 15

namespace Toman

instance : DecidableEq Toman := fun a b =>
  decidable_of_iff (a.tomans = b.tomans) (by cases a; cases b; simp)

theorem zero_fits : (0 : ℤ).natAbs < 10 ^ 15 := by decide

@[coe] def value (m : Toman) : ℚ := m.tomans

instance : Coe Toman ℚ := ⟨value⟩

instance : Zero Toman := ⟨⟨0, zero_fits⟩⟩

/-- `Number(column)` -/
def toNumber (m : Toman) : Number := toDouble m

/-- Writing a decimal to a column rounds it to whole tomans. -/
def store (a : ℚ) : Option Toman :=
  if fits : (halfAway a).natAbs < 10 ^ 15 then some ⟨halfAway a, fits⟩ else none

end Toman

/-- A number on its way into a `Decimal(15, 0)` column. -/
def column (x : Number) : Result Toman :=
  orFail (x.toDecimal.bind Toman.store) (.database .numericOverflow)

/-- A number on its way into a `Decimal(6, 2)` column. -/
def hoursColumn (x : Number) : Result ℚ :=
  orFail (x.toDecimal.bind fun a =>
    if (halfAway (a * 100)).natAbs < 10 ^ 6 then some (halfAway (a * 100) / 100) else none)
    (.database .numericOverflow)

/-! ### Enumerations -/

inductive PayrollStatus where
  | draft | reviewed | issued | settled | approved | paid | cancelled
deriving DecidableEq

inductive PayRateType where
  | hourly | perSession
deriving DecidableEq

inductive AdjustmentStatus where
  | pending | applied | cancelled
deriving DecidableEq

inductive PayrollItemType where
  | baseSalary | hourlyTeaching | bonus | overtime | insuranceDeduction | taxDeduction
  | advanceDeduction | adjustment | other
deriving DecidableEq

inductive TeacherAttendanceStatus where
  | present | absent | leaveAuthorized | leaveUnauthorized
deriving DecidableEq

/-! ### Rows -/

/-- The id of a user: a UUID, so of ASCII characters. -/
structure UserId where
  text : String
  ascii : text.toList.all (·.toNat < 128) = true := by decide +kernel
deriving DecidableEq

structure PayrollSlip where
  (id tenantId : Id)
  userId : UserId
  (year month : ℕ)
  slipNumber : String
  (calculatedAmount finalAmount grossPay totalDeductions netPay : Toman := 0)
  status : PayrollStatus := .draft
  editReason : Option String := none
  editedById : Option UserId := none
  editedAt : Option Instant := none
  cancelReason : Option String := none
  cancelledById : Option UserId := none
  cancelledAt : Option Instant := none
  sourceSessionCount : ℕ := 0
  sourceHours : Option ℚ := none
  hasCapWarning : Bool := false
  capWarningDetails : Option String := none
  paidAt : Option Instant := none
  paidById : Option UserId := none
  paymentRefNumber : Option String := none
deriving DecidableEq

structure PayrollAdjustment where
  (id tenantId : Id)
  teacherId : UserId
  originalSlipId : Option Id := none
  amount : Toman
  reason : String
  status : AdjustmentStatus := .pending
  appliedToSlipId : Option Id := none
  createdById : UserId
  appliedAt : Option Instant := none

structure PayrollItem where
  (id tenantId payrollSlipId : Id)
  type : PayrollItemType := .baseSalary
  title : String
  amount : Toman
  multiplierOrHours : Option Number := none
  notes : Option String := none
  source : Option Id := none

/-! ### What payroll reads -/

structure User where
  id : UserId
  tenantId : Id
  teacherProfileId : Option Id := none
deriving DecidableEq

structure TeacherContract where
  (id tenantId : Id)
  teacher : User
  rateType : PayRateType := .hourly
  rateAmount : Toman
  monthlyHourCap : Option ℕ := none
  baseSalary : Option Toman := none
  effectiveFrom : Instant
  effectiveTo : Option Instant := none
deriving DecidableEq

structure TeacherAttendance where
  (tenantId teacherId : Id)
  date : String
  status : TeacherAttendanceStatus := .present

structure StaffPayrollProfile where
  tenantId : Id
  user : User
  baseMonthlySalary : Toman := 0

/-- The rows a call reads and leaves alone, in the order the database returns them. -/
structure Staff where
  users : List User := []
  contracts : List TeacherContract := []
  attendance : List TeacherAttendance := []
  profiles : List StaffPayrollProfile := []

/-! ### The database -/

instance : Record PayrollSlip where
  key s := s.id
  clash a b := a.tenantId == b.tenantId && (a.slipNumber == b.slipNumber ||
    (a.userId == b.userId && a.year == b.year && a.month == b.month))

instance : Record PayrollAdjustment where
  key a := a.id

instance : Record PayrollItem where
  key i := i.id

structure Tables where
  slips : Table PayrollSlip := .empty
  adjustments : Table PayrollAdjustment := .empty
  items : Table PayrollItem := .empty

structure ForeignKeys (t : Tables) : Prop where
  adjustment_original : Table.References (·.originalSlipId) t.adjustments t.slips
  adjustment_applied : Table.References (·.appliedToSlipId) t.adjustments t.slips
  item_slip : Table.References (fun i => some i.payrollSlipId) t.items t.slips
  item_source : Table.References (·.source) t.items t.adjustments

/-- A database: tables whose foreign keys hold. -/
structure Db extends Tables where
  foreignKeys : ForeignKeys toTables

@[ext] theorem Db.ext {a b : Db} (same : a.toTables = b.toTables) : a = b := by
  cases a; cases b; cases same; rfl

def Db.empty : Db where
  foreignKeys := by constructor <;> simp [Table.References, Table.empty]

/-!
## Payroll statements

Every write of the payroll services is one `Statement`; `Db.write` carries the foreign keys
along. As for the finance tables, what a statement does is read off per table
(`write_slips`, `write_adjustments`, `write_items`).
-/

/-- What an update sets of a slip, never its key or its unique columns. -/
structure SlipUpdate where
  set : PayrollSlip → PayrollSlip
  key : ∀ s, Record.key (set s) = Record.key s := by intros; rfl
  unique : ∀ s t, Record.clash (set s) t = Record.clash s t := by intros; rfl

inductive Statement where
  | createSlip (row : PayrollSlip)
  | updateSlip (id : Id) (data : SlipUpdate)
  | issueSlips (ids : List Id)
  | createItem (row : PayrollItem)
  | deleteItems (slipId : Id)
  | createAdjustment (row : PayrollAdjustment)
  | linkAdjustment (id slipId : Id)
  | applyAdjustments (slipIds : List Id) (now : Instant)

namespace PayrollAdjustment

def link (slipId : Id) (a : PayrollAdjustment) : PayrollAdjustment :=
  { a with appliedToSlipId := some slipId }

def apply (now : Instant) (a : PayrollAdjustment) : PayrollAdjustment :=
  { a with status := .applied, appliedAt := some now }

/-- A pending adjustment that is linked to one of the slips. -/
def due (slipIds : List Id) (a : PayrollAdjustment) : Bool :=
  a.appliedToSlipId ∈ slipIds.map some ∧ a.status = .pending

end PayrollAdjustment

theorem PayrollAdjustment.key_link (slipId : Id) (a : PayrollAdjustment) :
    Record.key (a.link slipId) = Record.key a := rfl

theorem PayrollAdjustment.key_apply (now : Instant) (a : PayrollAdjustment) :
    Record.key (a.apply now) = Record.key a := rfl

theorem PayrollAdjustment.clash_apply (now : Instant) (a b : PayrollAdjustment) :
    Record.clash (a.apply now) b = Record.clash a b := rfl

def PayrollSlip.issue (s : PayrollSlip) : PayrollSlip := { s with status := .issued }

theorem PayrollSlip.key_issue (s : PayrollSlip) : Record.key s.issue = Record.key s := rfl

theorem PayrollSlip.clash_issue (s t : PayrollSlip) :
    Record.clash s.issue t = Record.clash s t := rfl

def Tables.write (t : Tables) : Statement → Result Tables
  | .createSlip row => do
      let slips ← insertRow t.slips row
      return { t with slips }
  | .updateSlip id data => do
      let slips ← updateRow t.slips id data.set data.key
      return { t with slips }
  | .issueSlips ids =>
    .ok { t with
      slips := t.slips.updateMany (·.id ∈ ids) PayrollSlip.issue PayrollSlip.key_issue
        PayrollSlip.clash_issue }
  | .createItem row => do
      referred t.slips (some row.payrollSlipId)
      referred t.adjustments row.source
      let items ← insertRow t.items row
      return { t with items }
  | .deleteItems slipId =>
    .ok { t with items := t.items.deleteMany (·.payrollSlipId = slipId) }
  | .createAdjustment row => do
      referred t.slips row.originalSlipId
      referred t.slips row.appliedToSlipId
      let adjustments ← insertRow t.adjustments row
      return { t with adjustments }
  | .linkAdjustment id slipId => do
      referred t.slips (some slipId)
      let adjustments ← updateRow t.adjustments id (PayrollAdjustment.link slipId)
        (PayrollAdjustment.key_link slipId)
      return { t with adjustments }
  | .applyAdjustments slipIds now =>
    .ok { t with
      adjustments := t.adjustments.updateMany (·.due slipIds) (PayrollAdjustment.apply now)
        (PayrollAdjustment.key_apply now) (PayrollAdjustment.clash_apply now) }

theorem ForeignKeys.write {t t' : Tables} (keys : ForeignKeys t) {s : Statement}
    (done : t.write s = .ok t') : ForeignKeys t' := by
  cases s <;> simp only [Tables.write, do_eq_ok, referred_eq_ok, insertRow_eq_ok, updateRow_eq_ok,
    exists_const, Except.ok.injEq] at done
  case createSlip row =>
      obtain ⟨slips, inserted, rfl⟩ := done
      exact
        { keys with
          adjustment_original := keys.adjustment_original.insert_parent inserted
          adjustment_applied := keys.adjustment_applied.insert_parent inserted
          item_slip := keys.item_slip.insert_parent inserted }
  case updateSlip id data =>
      obtain ⟨slips, updated, rfl⟩ := done
      exact
        { keys with
          adjustment_original := keys.adjustment_original.update_parent updated
          adjustment_applied := keys.adjustment_applied.update_parent updated
          item_slip := keys.item_slip.update_parent updated }
  case issueSlips ids =>
      subst done
      exact
        { keys with
          adjustment_original := keys.adjustment_original.updateMany_parent PayrollSlip.key_issue
            PayrollSlip.clash_issue
          adjustment_applied := keys.adjustment_applied.updateMany_parent PayrollSlip.key_issue
            PayrollSlip.clash_issue
          item_slip := keys.item_slip.updateMany_parent PayrollSlip.key_issue
            PayrollSlip.clash_issue }
  case createItem row =>
      obtain ⟨slip, source, items, inserted, rfl⟩ := done
      exact
        { keys with
          item_slip := keys.item_slip.insert_child inserted slip
          item_source := keys.item_source.insert_child inserted source }
  case deleteItems slipId =>
      subst done
      exact
        { keys with
          item_slip := keys.item_slip.deleteMany_child _
          item_source := keys.item_source.deleteMany_child _ }
  case createAdjustment row =>
      obtain ⟨original, applied, adjustments, inserted, rfl⟩ := done
      exact
        { keys with
          adjustment_original := keys.adjustment_original.insert_child inserted original
          adjustment_applied := keys.adjustment_applied.insert_child inserted applied
          item_source := keys.item_source.insert_parent inserted }
  case linkAdjustment id slipId =>
      obtain ⟨slip, adjustments, updated, rfl⟩ := done
      exact
        { keys with
          adjustment_original := keys.adjustment_original.update_child updated fun _ found => found
          adjustment_applied := keys.adjustment_applied.update_child updated fun _ _ => slip
          item_source := keys.item_source.update_parent updated }
  case applyAdjustments slipIds now =>
      subst done
      exact
        { keys with
          adjustment_original := keys.adjustment_original.updateMany_child (PayrollAdjustment.key_apply now)
            (PayrollAdjustment.clash_apply now) fun _ found => found
          adjustment_applied := keys.adjustment_applied.updateMany_child (PayrollAdjustment.key_apply now)
            (PayrollAdjustment.clash_apply now) fun _ found => found
          item_source := keys.item_source.updateMany_parent (PayrollAdjustment.key_apply now)
            (PayrollAdjustment.clash_apply now) }

namespace Db

def write (db : Db) (s : Statement) : Result Db :=
  attach (db.toTables.write s) fun t done => ⟨t, db.foreignKeys.write done⟩

theorem write_eq_ok {db db' : Db} {s : Statement} :
    db.write s = .ok db' ↔ db.toTables.write s = .ok db'.toTables :=
  attach_eq_ok (fun _ _ => Db.ext) fun _ _ => rfl

variable {db db' : Db} {s : Statement}

theorem write_slips (done : db.write s = .ok db') :
    match s with
    | .createSlip row => db.slips.insert row = some db'.slips
    | .updateSlip id data => db.slips.update id data.set data.key = some db'.slips
    | .issueSlips ids => db'.slips =
        db.slips.updateMany (·.id ∈ ids) PayrollSlip.issue PayrollSlip.key_issue
          PayrollSlip.clash_issue
    | _ => db'.slips = db.slips := by
  rw [write_eq_ok] at done
  cases s <;> simp only [Tables.write, do_eq_ok, insertRow_eq_ok, updateRow_eq_ok,
    Except.ok.injEq] at done <;> grind

theorem write_adjustments (done : db.write s = .ok db') :
    match s with
    | .createAdjustment row => db.adjustments.insert row = some db'.adjustments
    | .linkAdjustment id slipId =>
      db.adjustments.update id (PayrollAdjustment.link slipId)
        (PayrollAdjustment.key_link slipId) = some db'.adjustments
    | .applyAdjustments slipIds now => db'.adjustments =
        db.adjustments.updateMany (·.due slipIds) (PayrollAdjustment.apply now)
          (PayrollAdjustment.key_apply now) (PayrollAdjustment.clash_apply now)
    | _ => db'.adjustments = db.adjustments := by
  rw [write_eq_ok] at done
  cases s <;> simp only [Tables.write, do_eq_ok, insertRow_eq_ok, updateRow_eq_ok,
    Except.ok.injEq] at done <;> grind

theorem write_items (done : db.write s = .ok db') :
    match s with
    | .createItem row => db.items.insert row = some db'.items
    | .deleteItems slipId => db'.items = db.items.deleteMany (·.payrollSlipId = slipId)
    | _ => db'.items = db.items := by
  rw [write_eq_ok] at done
  cases s <;> simp only [Tables.write, do_eq_ok, insertRow_eq_ok, updateRow_eq_ok,
    Except.ok.injEq] at done <;> grind

end Db

end Rokad.Payroll
