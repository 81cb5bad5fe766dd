import Rokad.Base.Periods
import Rokad.Base.Run
import Rokad.Payroll.Schema

/-!
# Teacher contracts

`TeacherContractService`: a new contract ends the contracts of the teacher in that academic year
which have no end or a later one, at its own start. So no instant lies strictly inside two of them.
But the contracts it ends are not asked when they start: one that starts later is left with an end
before its start, and nothing compares the start and the end of the new one. A history stays well
formed exactly when no call does either, and leaves no instant with two active contracts exactly
when no call reaches into the teacher's contracts of other years (`history_iff`).
-/

namespace Rokad.Payroll

open Rokad.Base Rokad.Common

/-! ### Rows -/

/-- A contract with the columns that the contract service alone reads or writes. -/
structure ContractRow extends TeacherContract where
  academicYearId : Id
  createdById : UserId

structure AcademicYear where
  (id tenantId : Id)

instance : Record ContractRow where
  key c := c.id

structure ContractDb where
  users : List User := []
  academicYears : List AcademicYear := []
  contracts : Table ContractRow := .empty

structure CreateTeacherContractDto where
  teacherId : UserId
  academicYearId : Id
  rateType : PayRateType
  rateAmount : ℕ
  (monthlyHourCap baseSalary : Option ℕ := none)
  effectiveFrom : String
  effectiveTo : Option String := none

/-- `new Date(text)`, with no value where it is invalid. -/
abbrev DateParser := String → Option Instant

/-! ### The service -/

/-- A contract of the teacher and the year that has no end, or a later one. -/
def CreateTeacherContractDto.overlaps (dto : CreateTeacherContractDto) (tenantId : Id)
    (effectiveFrom : Instant) (c : ContractRow) : Bool :=
  c.tenantId = tenantId ∧ c.teacher.id = dto.teacherId ∧ c.academicYearId = dto.academicYearId ∧
    ∀ effectiveTo ∈ c.effectiveTo, effectiveFrom < effectiveTo

def ContractRow.endAt (t : Instant) (c : ContractRow) : ContractRow :=
  { c with effectiveTo := some t }

/-- The amount of a request on its way into its column. -/
def amountColumn (amount : ℕ) : Result Toman := column (toDouble amount)

/-- What is made of a value that is given. -/
def ifGiven {α β : Type} (f : α → Result β) : Option α → Result (Option β)
  | some a => (f a).map some
  | none => .ok none

theorem ifGiven_eq_ok {α β : Type} {f : α → Result β} {value : Option α} {b : Option β} :
    ifGiven f value = .ok b ↔
      value = none ∧ b = none ∨ ∃ a, value = some a ∧ (f a).map some = .ok b := by
  cases value with
  | none => simp [ifGiven, eq_comm]
  | some a => simp [ifGiven]

def createContract (date : DateParser) (db : ContractDb) (tenantId : Id) (createdById : UserId)
    (dto : CreateTeacherContractDto) : Result (ContractDb × ContractRow) := do
  let teacher ← orFail (db.users.find? fun u => u.id = dto.teacherId ∧ u.tenantId = tenantId)
    (.notFound "مدرس مورد نظر در این مدرسه یافت نشد")
  let _ ← orFail
    (db.academicYears.find? fun y => y.id = dto.academicYearId ∧ y.tenantId = tenantId)
    (.notFound "سال تحصیلی مورد نظر یافت نشد")
  let effectiveFrom ← orFail (date dto.effectiveFrom)
    (.badRequest "فرمت تاریخ شروع قرارداد نامعتبر است")
  let effectiveTo ← ifGiven (fun text => orFail (date text)
    (.badRequest "فرمت تاریخ پایان قرارداد نامعتبر است")) (truthy dto.effectiveTo)
  let contracts := db.contracts.updateMany (dto.overlaps tenantId effectiveFrom)
    (·.endAt effectiveFrom) (fun _ => rfl) (fun _ _ => rfl)
  let rateAmount ← amountColumn dto.rateAmount
  let baseSalary ← ifGiven amountColumn dto.baseSalary
  let monthlyHourCap : Option ℕ := dto.monthlyHourCap.filter (· ≠ 0)
  require (∀ cap ∈ dto.monthlyHourCap, cap < 2 ^ 31) (.database .numericOverflow)
  require (∃ u ∈ db.users, u.id = createdById) (.database .foreignKey)
  let contract : ContractRow :=
    { id := contracts.fresh, tenantId, teacher, academicYearId := dto.academicYearId
      rateType := dto.rateType, rateAmount, monthlyHourCap, baseSalary, effectiveFrom, effectiveTo
      createdById }
  let contracts ← insertRow contracts contract
  return ({ db with contracts }, contract)

/-- The contracts active at an instant, in any academic year. -/
def activeContracts (db : ContractDb) (tenantId : Id) (teacherId : UserId) (targetDate : Instant) :
    List ContractRow :=
  db.contracts.rows.filter fun c => c.tenantId = tenantId ∧ c.teacher.id = teacherId ∧
    c.effectiveFrom ≤ targetDate ∧ ∀ effectiveTo ∈ c.effectiveTo, targetDate ≤ effectiveTo

def deleteContract (db : ContractDb) (tenantId contractId : Id) : Result ContractDb := do
  let _ ← orFail (db.contracts.rows.find? fun c => c.id = contractId ∧ c.tenantId = tenantId)
    (.notFound "قرارداد مورد نظر یافت نشد")
  return { db with contracts := db.contracts.deleteMany (·.id = contractId) }

inductive ContractCall where
  | createContract (tenantId : Id) (createdById : UserId) (dto : CreateTeacherContractDto)
  | deleteContract (tenantId contractId : Id)

namespace ContractDb

/-- The state a call returns, if it does not fail. -/
def reply (date : DateParser) (db : ContractDb) : ContractCall → Result ContractDb
  | .createContract tenantId createdById dto =>
    (createContract date db tenantId createdById dto).map (·.1)
  | .deleteContract tenantId contractId => deleteContract db tenantId contractId

def exec (date : DateParser) (db : ContractDb) (call : ContractCall) : ContractDb :=
  match db.reply date call with
  | .ok db' => db'
  | .error _ => db

end ContractDb

/-! ### Histories -/

def ContractRow.period (c : ContractRow) : Period Instant := ⟨c.effectiveFrom, c.effectiveTo⟩

/-- Two contracts of one teacher. -/
def ContractRow.SameTeacher (c c' : ContractRow) : Prop :=
  c.tenantId = c'.tenantId ∧ c.teacher.id = c'.teacher.id

/-- No contract ends before it starts, and no instant lies strictly inside two contracts of one
teacher and academic year. -/
structure ContractDb.WellFormed (db : ContractDb) : Prop where
  ordered : ∀ c ∈ db.contracts.rows, c.period.Ordered
  apart : ∀ c ∈ db.contracts.rows, ∀ c' ∈ db.contracts.rows, c.id ≠ c'.id → c.SameTeacher c' →
    c.academicYearId = c'.academicYearId → c.period.Apart c'.period

/-- Two contracts are active at an instant only where one ends and the other starts. -/
def ContractDb.Unambiguous (db : ContractDb) : Prop :=
  ∀ tenantId teacherId t, ∀ c ∈ activeContracts db tenantId teacherId t,
    ∀ c' ∈ activeContracts db tenantId teacherId t, c.id ≠ c'.id →
      c.effectiveTo = some t ∧ c'.effectiveFrom = t ∨ c'.effectiveTo = some t ∧ c.effectiveFrom = t

/-- The period that a request asks for. -/
def CreateTeacherContractDto.period? (date : DateParser) (dto : CreateTeacherContractDto) :
    Option (Period Instant) :=
  (date dto.effectiveFrom).map fun start => ⟨start, (truthy dto.effectiveTo).bind date⟩

/-- A contract that goes through starts after those it ends, and does not end before it starts. -/
def KeepsOrder (date : DateParser) (db : ContractDb) : ContractCall → Prop
  | .createContract tenantId createdById dto =>
    (createContract date db tenantId createdById dto).isOk → ∀ p ∈ dto.period? date,
      p.Ordered ∧ ∀ c ∈ db.contracts.rows, dto.overlaps tenantId p.start c →
        c.effectiveFrom ≤ p.start
  | .deleteContract .. => True

/-- A contract that goes through starts when the teacher's contracts of other years have ended, or
has ended when they start. -/
def KeepsYears (date : DateParser) (db : ContractDb) : ContractCall → Prop
  | .createContract tenantId createdById dto =>
    (createContract date db tenantId createdById dto).isOk → ∀ p ∈ dto.period? date,
      ∀ c ∈ db.contracts.rows, c.tenantId = tenantId → c.teacher.id = dto.teacherId →
        c.academicYearId ≠ dto.academicYearId → c.period.Before p ∨ p.Before c.period
  | .deleteContract .. => True

instance (date : DateParser) (db : ContractDb) :
    ∀ call, Decidable (KeepsOrder date db call)
  | .createContract .. => inferInstanceAs (Decidable (_ → ∀ p ∈ (_ : Option _), _))
  | .deleteContract .. => inferInstanceAs (Decidable True)

instance (date : DateParser) (db : ContractDb) :
    ∀ call, Decidable (KeepsYears date db call)
  | .createContract .. => inferInstanceAs (Decidable (_ → ∀ p ∈ (_ : Option _), _))
  | .deleteContract .. => inferInstanceAs (Decidable True)

/-! ### What a call does -/

section

variable {date : DateParser} {db db' : ContractDb} {tenantId : Id} {createdById : UserId}
  {dto : CreateTeacherContractDto} {row : ContractRow}

/-- A contract after a new one that starts at `start`. -/
def CreateTeacherContractDto.left (dto : CreateTeacherContractDto) (tenantId : Id) (start : Instant)
    (c : ContractRow) : ContractRow :=
  if dto.overlaps tenantId start c then c.endAt start else c

theorem createContract_spec
    (done : createContract date db tenantId createdById dto = .ok (db', row)) :
    dto.period? date = some row.period ∧ row.tenantId = tenantId ∧
      row.teacher.id = dto.teacherId ∧ row.academicYearId = dto.academicYearId ∧
      (∀ c ∈ db.contracts.rows, c.id ≠ row.id) ∧
      db'.contracts.rows =
        db.contracts.rows.map (dto.left tenantId row.effectiveFrom) ++ [row] := by
  simp only [createContract, do_eq_ok, exists_const, insertRow_eq_ok] at done
  obtain ⟨teacher, found, -, -, start, starts, stop, stops, rate, -, salary, -, -, -, contracts,
    inserted, ⟨⟩⟩ := done
  obtain ⟨rows, fresh, -⟩ := insert_spec.mp inserted
  have isStop : (truthy dto.effectiveTo).bind date = stop := by
    rcases ifGiven_eq_ok.mp stops with ⟨none, rfl⟩ | ⟨text, given, read⟩
    · rw [none, Option.bind_none]
    · simp only [map_eq_ok, orFail_eq_ok] at read
      obtain ⟨t, isT, rfl⟩ := read
      rw [given, Option.bind_some, isT]
  have ofTeacher := List.find?_some found
  simp only [decide_eq_true_eq] at ofTeacher
  refine ⟨?_, rfl, ofTeacher.1, rfl, fun c mem same => ?_, rows⟩
  · unfold CreateTeacherContractDto.period?
    rw [starts, isStop]
    rfl
  · refine fresh (dto.left tenantId start c) (List.mem_map_of_mem mem) ?_
    unfold CreateTeacherContractDto.left
    split
    · exact same
    · exact same

theorem mem_deleteContract {contractId : Id}
    (done : deleteContract db tenantId contractId = .ok db')
    {c : ContractRow} (mem : c ∈ db'.contracts.rows) : c ∈ db.contracts.rows := by
  simp only [deleteContract, do_eq_ok] at done
  obtain ⟨-, -, rfl⟩ := done
  exact List.mem_of_mem_filter mem

/-- The contracts after a new one. -/
theorem forall_mem_createContract {P : ContractRow → Prop}
    (done : createContract date db tenantId createdById dto = .ok (db', row)) :
    (∀ c ∈ db'.contracts.rows, P c) ↔
      (∀ c ∈ db.contracts.rows, P (dto.left tenantId row.effectiveFrom c)) ∧ P row := by
  obtain ⟨-, -, -, -, -, rows⟩ := createContract_spec done
  rw [rows, List.forall_mem_append, List.forall_mem_map, List.forall_mem_singleton]

section

variable {start : Instant} {c c' : ContractRow}

theorem left_of_overlaps (overlaps : dto.overlaps tenantId start c = true) :
    dto.left tenantId start c = c.endAt start := if_pos overlaps

theorem left_of_not (other : dto.overlaps tenantId start c = false) :
    dto.left tenantId start c = c := if_neg (by rw [other]; decide)

@[simp] theorem left_id : (dto.left tenantId start c).id = c.id := by
  unfold CreateTeacherContractDto.left
  split <;> rfl

@[simp] theorem left_year : (dto.left tenantId start c).academicYearId = c.academicYearId := by
  unfold CreateTeacherContractDto.left
  split <;> rfl

@[simp] theorem left_sameTeacher :
    (dto.left tenantId start c).SameTeacher c' ↔ c.SameTeacher c' := by
  unfold CreateTeacherContractDto.left
  split <;> rfl

@[simp] theorem sameTeacher_left :
    c.SameTeacher (dto.left tenantId start c') ↔ c.SameTeacher c' := by
  unfold CreateTeacherContractDto.left
  split <;> rfl

@[simp] theorem left_start : (dto.left tenantId start c).period.start = c.period.start := by
  unfold CreateTeacherContractDto.left
  split <;> rfl

theorem overlaps_iff : dto.overlaps tenantId start c = true ↔ c.tenantId = tenantId ∧
    c.teacher.id = dto.teacherId ∧ c.academicYearId = dto.academicYearId ∧
      ∀ effectiveTo ∈ c.effectiveTo, start < effectiveTo :=
  decide_eq_true_iff

/-- A contract of the same year has ended when the new one starts. -/
theorem left_before (tenant : c.tenantId = tenantId) (teacher : c.teacher.id = dto.teacherId)
    (year : c.academicYearId = dto.academicYearId) {p : Period Instant} (starts : p.start = start) :
    (dto.left tenantId start c).period.Before p := by
  cases overlaps : dto.overlaps tenantId start c with
  | true =>
    rw [left_of_overlaps overlaps]
    exact Period.before_cut (p := c.period) starts.ge
  | false =>
    rw [left_of_not overlaps]
    have ended : ¬ ∀ effectiveTo ∈ c.effectiveTo, start < effectiveTo := fun later => by
      rw [overlaps_iff.mpr ⟨tenant, teacher, year, later⟩] at overlaps
      exact absurd overlaps (by decide)
    push Not at ended
    obtain ⟨stop, isStop, ended⟩ := ended
    exact ⟨stop, isStop, starts ▸ ended⟩

theorem left_of_other_year (year : c.academicYearId ≠ dto.academicYearId) :
    dto.left tenantId start c = c :=
  left_of_not (decide_eq_false fun overlaps => year overlaps.2.2.1)

/-- What had ended before a point still has. -/
theorem left_before_of_before {p : Period Instant} (before : c.period.Before p) :
    (dto.left tenantId start c).period.Before p := by
  cases overlaps : dto.overlaps tenantId start c with
  | true =>
    rw [left_of_overlaps overlaps]
    exact before.cut (overlaps_iff.mp overlaps).2.2.2
  | false =>
    rw [left_of_not overlaps]
    exact before

theorem left_apart {p : Period Instant} (apart : c.period.Apart p) :
    (dto.left tenantId start c).period.Apart p := by
  cases overlaps : dto.overlaps tenantId start c with
  | true =>
    rw [left_of_overlaps overlaps]
    exact apart.cut (overlaps_iff.mp overlaps).2.2.2
  | false =>
    rw [left_of_not overlaps]
    exact apart

theorem before_left_iff {p : Period Instant} :
    p.Before (dto.left tenantId start c).period ↔ p.Before c.period := by
  unfold Period.Before
  rw [left_start]

end

/-- The pairs of contracts after a new one. -/
theorem forall_pairs_createContract {R : ContractRow → ContractRow → Prop}
    (symm : ∀ c c', R c c' → R c' c)
    (done : createContract date db tenantId createdById dto = .ok (db', row)) :
    (∀ c ∈ db'.contracts.rows, ∀ c' ∈ db'.contracts.rows, c.id ≠ c'.id → R c c') ↔
      (∀ c ∈ db.contracts.rows, ∀ c' ∈ db.contracts.rows, c.id ≠ c'.id →
        R (dto.left tenantId row.effectiveFrom c) (dto.left tenantId row.effectiveFrom c')) ∧
      ∀ c ∈ db.contracts.rows, R (dto.left tenantId row.effectiveFrom c) row := by
  obtain ⟨-, -, -, -, fresh, -⟩ := createContract_spec done
  simp only [forall_mem_createContract done, left_id, ne_eq, not_true_eq_false, false_implies,
    and_true]
  constructor
  · rintro ⟨old, -⟩
    exact ⟨fun c mem => (old c mem).1, fun c mem => (old c mem).2 (fresh c mem)⟩
  · rintro ⟨old, new⟩
    exact ⟨fun c mem => ⟨old c mem, fun _ => new c mem⟩, fun c mem _ => symm _ _ (new c mem)⟩

theorem SameTeacher.symm {c c' : ContractRow} (same : c.SameTeacher c') : c'.SameTeacher c :=
  ⟨same.1.symm, same.2.symm⟩

/-- A new contract keeps the history well formed exactly when it keeps the order: whatever the
order, it starts when those of its year have ended. -/
theorem wellFormed_createContract_iff (wellFormed : db.WellFormed)
    (done : createContract date db tenantId createdById dto = .ok (db', row)) :
    db'.WellFormed ↔ row.period.Ordered ∧ ∀ c ∈ db.contracts.rows,
      dto.overlaps tenantId row.effectiveFrom c → c.effectiveFrom ≤ row.effectiveFrom := by
  obtain ⟨-, tenant, teacher, year, fresh, -⟩ := createContract_spec done
  have ordered_iff : (∀ c ∈ db'.contracts.rows, c.period.Ordered) ↔
      row.period.Ordered ∧ ∀ c ∈ db.contracts.rows,
        dto.overlaps tenantId row.effectiveFrom c → c.effectiveFrom ≤ row.effectiveFrom := by
    rw [forall_mem_createContract done, and_comm]
    refine and_congr_right fun _ => forall₂_congr fun c mem => ?_
    cases overlaps : dto.overlaps tenantId row.effectiveFrom c with
    | true =>
      rw [left_of_overlaps overlaps]
      change (c.period.cut row.effectiveFrom).Ordered ↔ _
      rw [Period.ordered_cut_iff]
      exact ⟨fun starts _ => starts, fun starts => starts rfl⟩
    | false =>
      rw [left_of_not overlaps]
      exact iff_of_true (wellFormed.ordered c mem) (by simp)
  have apart : ∀ c ∈ db'.contracts.rows, ∀ c' ∈ db'.contracts.rows, c.id ≠ c'.id →
      c.SameTeacher c' → c.academicYearId = c'.academicYearId → c.period.Apart c'.period := by
    refine (forall_pairs_createContract (fun c c' apart same ofYear =>
      (apart (SameTeacher.symm same) ofYear.symm).symm) done).mpr ⟨?_, ?_⟩
    · intro c mem c' mem' differ same ofYear
      rw [left_sameTeacher, sameTeacher_left] at same
      rw [left_year, left_year] at ofYear
      exact (left_apart (left_apart (wellFormed.apart c mem c' mem' differ same ofYear)).symm).symm
    · intro c mem same ofYear
      rw [left_sameTeacher] at same
      rw [left_year] at ofYear
      have before : (dto.left tenantId row.effectiveFrom c).period.Before row.period :=
        left_before (same.1.trans tenant) (same.2.trans teacher) (ofYear.trans year) rfl
      exact before.apart
  exact ⟨fun kept => ordered_iff.mp kept.ordered, fun kept => ⟨ordered_iff.mpr kept, apart⟩⟩

theorem mem_activeContracts {teacherId : UserId} {t : Instant} {c : ContractRow} :
    c ∈ activeContracts db tenantId teacherId t ↔ c ∈ db.contracts.rows ∧
      c.tenantId = tenantId ∧ c.teacher.id = teacherId ∧ c.period.Covers t := by
  rw [activeContracts, List.mem_filter, decide_eq_true_eq]
  rfl

/-- Of two contracts of a teacher one has ended when the other starts. -/
def ContractDb.InTurn (db : ContractDb) : Prop :=
  ∀ c ∈ db.contracts.rows, ∀ c' ∈ db.contracts.rows, c.id ≠ c'.id → c.SameTeacher c' →
    c.period.Before c'.period ∨ c'.period.Before c.period

theorem unambiguous_iff (ordered : ∀ c ∈ db.contracts.rows, c.period.Ordered) :
    db.Unambiguous ↔ db.InTurn := by
  have meet_iff : db.Unambiguous ↔ ∀ c ∈ db.contracts.rows, ∀ c' ∈ db.contracts.rows,
      c.id ≠ c'.id → c.SameTeacher c' → c.period.MeetOnly c'.period := by
    simp only [ContractDb.Unambiguous, mem_activeContracts]
    constructor
    · intro meet c mem c' mem' differ same t covers covers'
      exact meet _ _ t c ⟨mem, rfl, rfl, covers⟩ c' ⟨mem', same.1.symm, same.2.symm, covers'⟩ differ
    · rintro meet _ _ t c ⟨mem, rfl, rfl, covers⟩ c' ⟨mem', tenant, teacher, covers'⟩ differ
      exact meet c mem c' mem' differ ⟨tenant.symm, teacher.symm⟩ t covers covers'
  rw [meet_iff]
  refine forall₂_congr fun c mem => forall₂_congr fun c' mem' => forall₂_congr fun _ _ => ?_
  exact Period.meetOnly_iff (ordered c mem) (ordered c' mem')

/-- A new contract keeps the contracts of a teacher in turn exactly when it does with those of other
years. -/
theorem inTurn_createContract_iff (inTurn : db.InTurn)
    (done : createContract date db tenantId createdById dto = .ok (db', row)) :
    db'.InTurn ↔ ∀ c ∈ db.contracts.rows, c.tenantId = tenantId → c.teacher.id = dto.teacherId →
      c.academicYearId ≠ dto.academicYearId →
        c.period.Before row.period ∨ row.period.Before c.period := by
  obtain ⟨-, tenant, teacher, year, -, -⟩ := createContract_spec done
  have old : ∀ c ∈ db.contracts.rows, ∀ c' ∈ db.contracts.rows, c.id ≠ c'.id →
      (dto.left tenantId row.effectiveFrom c).SameTeacher
        (dto.left tenantId row.effectiveFrom c') →
      (dto.left tenantId row.effectiveFrom c).period.Before
          (dto.left tenantId row.effectiveFrom c').period ∨
        (dto.left tenantId row.effectiveFrom c').period.Before
          (dto.left tenantId row.effectiveFrom c).period := by
    intro c mem c' mem' differ same
    rw [left_sameTeacher, sameTeacher_left] at same
    simp only [before_left_iff]
    exact (inTurn c mem c' mem' differ same).imp left_before_of_before left_before_of_before
  unfold ContractDb.InTurn
  rw [forall_pairs_createContract (fun c c' turn same => (turn (SameTeacher.symm same)).symm) done,
    and_iff_right old]
  refine forall₂_congr fun c mem => ?_
  rw [left_sameTeacher, before_left_iff]
  constructor
  · intro turn ofTenant ofTeacher other
    rw [left_of_other_year other] at turn
    exact turn ⟨ofTenant.trans tenant.symm, ofTeacher.trans teacher.symm⟩
  · intro turn same
    by_cases ofYear : c.academicYearId = dto.academicYearId
    · exact .inl (left_before (same.1.trans tenant) (same.2.trans teacher) ofYear rfl)
    · rw [left_of_other_year ofYear]
      exact turn (same.1.trans tenant) (same.2.trans teacher) ofYear

end

/-! ### Runs -/

section

variable {date : DateParser} {db : ContractDb}

theorem isOk_of_eq {ε α : Type} {x : Except ε α} {a : α} (done : x = .ok a) : x.isOk = true := by
  rw [done]
  rfl

theorem keepsOrder_of_done {tenantId : Id} {createdById : UserId} {dto : CreateTeacherContractDto}
    {db' : ContractDb} {row : ContractRow}
    (done : createContract date db tenantId createdById dto = .ok (db', row)) :
    KeepsOrder date db (.createContract tenantId createdById dto) ↔ row.period.Ordered ∧
      ∀ c ∈ db.contracts.rows, dto.overlaps tenantId row.effectiveFrom c →
        c.effectiveFrom ≤ row.effectiveFrom := by
  obtain ⟨period, -⟩ := createContract_spec done
  simp only [KeepsOrder, isOk_of_eq done, forall_const, period, Option.mem_def, Option.some.injEq,
    forall_eq']
  rfl

theorem wellFormed_exec_iff (call : ContractCall) (wellFormed : db.WellFormed) :
    (db.exec date call).WellFormed ↔ KeepsOrder date db call := by
  unfold ContractDb.exec
  cases call with
  | createContract tenantId createdById dto =>
    cases done : createContract date db tenantId createdById dto with
    | ok out =>
      obtain ⟨db', row⟩ := out
      simp only [ContractDb.reply, done, Except.map]
      rw [keepsOrder_of_done done, wellFormed_createContract_iff wellFormed done]
    | error e =>
      simp only [ContractDb.reply, done, Except.map, KeepsOrder]
      exact iff_of_true wellFormed fun went =>
        absurd went (by simp [Except.isOk, Except.toBool])
  | deleteContract tenantId contractId =>
    cases done : deleteContract db tenantId contractId with
    | ok db' =>
      simp only [ContractDb.reply, done, KeepsOrder, iff_true]
      exact
        { ordered := fun c mem => wellFormed.ordered c (mem_deleteContract done mem)
          apart := fun c mem c' mem' => wellFormed.apart c (mem_deleteContract done mem) c'
            (mem_deleteContract done mem') }
    | error e =>
      simp only [ContractDb.reply, done, KeepsOrder, iff_true]
      exact wellFormed

theorem inTurn_exec_iff (call : ContractCall) (inTurn : db.InTurn) :
    (db.exec date call).InTurn ↔ KeepsYears date db call := by
  unfold ContractDb.exec
  cases call with
  | createContract tenantId createdById dto =>
    cases done : createContract date db tenantId createdById dto with
    | ok out =>
      obtain ⟨db', row⟩ := out
      obtain ⟨period, -⟩ := createContract_spec done
      simp only [ContractDb.reply, done, Except.map, KeepsYears, isOk_of_eq rfl, forall_const,
        period, Option.mem_def, Option.some.injEq, forall_eq']
      exact inTurn_createContract_iff inTurn done
    | error e =>
      simp only [ContractDb.reply, done, Except.map, KeepsYears]
      exact iff_of_true inTurn fun went => absurd went (by simp [Except.isOk, Except.toBool])
  | deleteContract tenantId contractId =>
    cases done : deleteContract db tenantId contractId with
    | ok db' =>
      simp only [ContractDb.reply, done, KeepsYears, iff_true]
      exact fun c mem c' mem' => inTurn c (mem_deleteContract done mem) c'
        (mem_deleteContract done mem')
    | error e =>
      simp only [ContractDb.reply, done, KeepsYears, iff_true]
      exact inTurn

/-- **Histories.** From a well-formed history every state of a run is well formed exactly when no
call breaks the order; if two contracts of a teacher were never active at once, they never are
exactly when no call reaches into other years either. -/
theorem history_iff (date : DateParser) {db : ContractDb} (wellFormed : db.WellFormed)
    (calls : List ContractCall) :
    ((∀ before, before <+: calls → (run (ContractDb.exec date) db before).WellFormed) ↔
      Along (ContractDb.exec date) (KeepsOrder date) db calls) ∧
    (db.Unambiguous →
      ((∀ before, before <+: calls → (run (ContractDb.exec date) db before).WellFormed ∧
          (run (ContractDb.exec date) db before).Unambiguous) ↔
        Along (ContractDb.exec date)
          (fun db call => KeepsOrder date db call ∧ KeepsYears date db call) db calls)) := by
  have everywhere : Along (ContractDb.exec date) (fun _ _ => True) db calls :=
    along_of_forall fun _ _ => trivial
  constructor
  · rw [forall_run_iff, and_iff_right wellFormed]
    exact along_iff (I := ContractDb.WellFormed)
      (fun db call _ wellFormed => wellFormed_exec_iff call wellFormed)
      (fun db call _ kept _ => kept) wellFormed everywhere
  · intro unambiguous
    refine (forall_run_iff (I := fun db : ContractDb => db.WellFormed ∧ db.Unambiguous)).trans ?_
    rw [and_iff_right ⟨wellFormed, unambiguous⟩]
    refine along_iff (I := fun db : ContractDb => db.WellFormed ∧ db.Unambiguous)
      (fun db call _ kept => ?_)
      (fun db call _ kept _ => kept) ⟨wellFormed, unambiguous⟩ everywhere
    obtain ⟨wellFormed, unambiguous⟩ := kept
    have turns := (unambiguous_iff wellFormed.ordered).mp unambiguous
    rw [← wellFormed_exec_iff call wellFormed, ← inTurn_exec_iff call turns]
    exact and_congr_right fun kept => unambiguous_iff kept.ordered

end

/-! ### A school that hires -/

namespace Hiring

def teacherId : UserId := { text := "a1b2c3d5" }

def adminId : UserId := { text := "b1" }

def db : ContractDb where
  users := [{ id := teacherId, tenantId := 1, teacherProfileId := some 1 },
    { id := adminId, tenantId := 1 }]
  academicYears := [⟨1404, 1⟩, ⟨1405, 1⟩]

def date : DateParser
  | "2025-09-23" => some (dateUTC 2025 9 23 0)
  | "2025-10-08" => some (dateUTC 2025 10 8 0)
  | "2026-06-21" => some (dateUTC 2026 6 21 0)
  | "2026-09-23" => some (dateUTC 2026 9 23 0)
  | _ => none

def hire (effectiveFrom : String) (rateAmount : ℕ) (effectiveTo : Option String := none)
    (academicYearId : Id := 1404) : ContractCall :=
  .createContract 1 adminId
    { teacherId, academicYearId, rateType := .perSession, rateAmount, effectiveFrom
      effectiveTo }

/-- A rate that changes within a month, and a contract for the next year. -/
def calls : List ContractCall :=
  [hire "2025-09-23" 400000, hire "2025-10-08" 500000 (some "2026-06-21"),
    hire "2026-09-23" 600000 none 1405]

theorem wellFormed : db.WellFormed where
  ordered := List.forall_mem_nil _
  apart := List.forall_mem_nil _

end Hiring

theorem history_iff_hiring :
    (run (ContractDb.exec Hiring.date) Hiring.db Hiring.calls).WellFormed ∧
      (run (ContractDb.exec Hiring.date) Hiring.db Hiring.calls).Unambiguous :=
  ((history_iff Hiring.date Hiring.wellFormed Hiring.calls).2 fun _ _ _ _ mem =>
    absurd mem List.not_mem_nil).mpr (by decide +kernel) _ List.prefix_rfl

/-- A contract that is entered after a later one leaves that with an end before its start. -/
theorem not_history :
    ¬ ∀ calls, (run (ContractDb.exec Hiring.date) Hiring.db calls).WellFormed := by
  intro all
  have late : ∃ c ∈ (run (ContractDb.exec Hiring.date) Hiring.db
      [Hiring.hire "2025-10-08" 500000, Hiring.hire "2025-09-23" 400000]).contracts.rows,
        ¬ c.period.Ordered := by
    decide +kernel
  obtain ⟨c, mem, disordered⟩ := late
  exact disordered ((all _).ordered c mem)

end Rokad.Payroll
