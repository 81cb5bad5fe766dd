import Rokad.Payroll.OnSlip

/-!
# Issued slips do not change

A slip is closed once it is issued, settled, paid or cancelled. Review, cancellation and issue
look at the status first. A calculation spares what was issued but rewrites a cancelled slip,
a direct generation looks at no status, and neither does a payment. A run that keeps them from
closed slips (`LeavesClosed`) leaves every issued slip as it was.
-/

namespace Rokad.Payroll

open Rokad.Base Rokad.Common

def PayrollStatus.isClosed (status : PayrollStatus) : Bool := status.isIssued || status = .cancelled

/-! ### The law -/

/-- What a stretch of a run leaves of the slips it finds. -/
structure Preserves (db db' : Db) : Prop where
  issued : ∀ k s, db.slips.find? k = some s → s.status.isIssued = true →
    ∃ s', db'.slips.find? k = some s' ∧ s'.finalAmount = s.finalAmount ∧ s'.netPay = s.netPay ∧
      db'.itemsOf k = db.itemsOf k ∧ s'.status ≠ .draft ∧ s'.status ≠ .reviewed
  cancelled : ∀ k s, db.slips.find? k = some s → s.status = .cancelled →
    ∃ s', db'.slips.find? k = some s' ∧ s'.status = .cancelled

/-- A slip that is paid after a call was paid or issued before it. -/
def PaidFromIssued (db db' : Db) : Prop :=
  ∀ k s', db'.slips.find? k = some s' → s'.status = .paid →
    ∃ s, db.slips.find? k = some s ∧ (s.status = .paid ∨ s.status = .issued)

/-- A closed slip stays closed, with its amounts and its items. -/
def KeepsClosed (db db' : Db) : Prop :=
  ∀ k s, db.slips.find? k = some s → s.status.isClosed = true →
    ∃ s', db'.slips.find? k = some s' ∧ s'.status.isClosed = true ∧
      (s.status = .cancelled → s'.status = .cancelled) ∧ s'.finalAmount = s.finalAmount ∧
      s'.netPay = s.netPay ∧ db'.itemsOf k = db.itemsOf k

section

variable {db db' db'' : Db}

theorem KeepsClosed.refl (db : Db) : KeepsClosed db db :=
  fun _ s found closed => ⟨s, found, closed, fun same => same, rfl, rfl, rfl⟩

theorem KeepsClosed.trans (first : KeepsClosed db db') (second : KeepsClosed db' db'') :
    KeepsClosed db db'' := by
  intro k s found closed
  obtain ⟨s', found', closed', cancelled', finalAmount', netPay', items'⟩ := first k s found closed
  obtain ⟨s'', found'', closed'', cancelled'', finalAmount'', netPay'', items''⟩ :=
    second k s' found' closed'
  exact ⟨s'', found'', closed'', fun same => cancelled'' (cancelled' same),
    finalAmount''.trans finalAmount', netPay''.trans netPay', items''.trans items'⟩

theorem KeepsClosed.preserves (keeps : KeepsClosed db db') : Preserves db db' where
  issued := by
    intro k s found issued
    obtain ⟨s', found', closed, -, finalAmount, netPay, items⟩ :=
      keeps k s found (by simp [PayrollStatus.isClosed, issued])
    refine ⟨s', found', finalAmount, netPay, items, ?_, ?_⟩ <;> intro status <;>
      rw [status] at closed <;> cases closed
  cancelled := by
    intro k s found status
    obtain ⟨s', found', -, cancelled, -⟩ := keeps k s found (by rw [status]; rfl)
    exact ⟨s', found', cancelled status⟩

/-! ### Work on one slip -/

/-- One step of the law. -/
def Lawful (db db' : Db) : Prop := KeepsClosed db db' ∧ PaidFromIssued db db'

theorem Lawful.refl (db : Db) : Lawful db db :=
  ⟨KeepsClosed.refl db, fun _ s found paid => ⟨s, found, Or.inl paid⟩⟩

theorem lawful_of_same (slips : db'.slips = db.slips) (items : db'.items = db.items) :
    Lawful db db' := by
  refine ⟨fun k s found closed => ⟨s, slips ▸ found, closed, fun same => same, rfl, rfl,
    OnSlip.itemsOf_congr items k⟩, fun k s found paid => ⟨s, slips ▸ found, Or.inl paid⟩⟩

variable {k : Id}

/-- On work on slip `k`, the law is about `k` alone. -/
theorem OnSlip.lawful (on : OnSlip k db db')
    (keeps : ∀ s, db.slips.find? k = some s → s.status.isClosed = true →
      ∃ s', db'.slips.find? k = some s' ∧ s'.status.isClosed = true ∧
        (s.status = .cancelled → s'.status = .cancelled) ∧ s'.finalAmount = s.finalAmount ∧
        s'.netPay = s.netPay ∧ db'.itemsOf k = db.itemsOf k)
    (paid : ∀ s', db'.slips.find? k = some s' → s'.status = .paid →
      ∃ s, db.slips.find? k = some s ∧ (s.status = .paid ∨ s.status = .issued)) :
    Lawful db db' := by
  constructor
  · intro j s found closed
    by_cases other : j = k
    · subst other
      exact keeps s found closed
    · exact ⟨s, (on.slips j other).trans found, closed, fun same => same, rfl, rfl,
        on.items j other⟩
  · intro j s' found isPaid
    by_cases other : j = k
    · subst other
      exact paid s' found isPaid
    · exact ⟨s', (on.slips j other).symm.trans found, Or.inl isPaid⟩

/-- A slip that is not closed may become a draft. -/
theorem Redrafts.lawful (redrafts : Redrafts k db db')
    (isOpen : ∀ s, db.slips.find? k = some s → s.status.isClosed = false) : Lawful db db' := by
  obtain ⟨draft, foundDraft, status⟩ := redrafts.draft
  refine redrafts.toOnSlip.lawful (fun s found closed => ?_) fun s' found paid => ?_
  · rw [isOpen s found] at closed
    cases closed
  · rw [foundDraft] at found
    cases found
    rw [status] at paid
    cases paid

/-- A closed slip may change its columns if it stays closed, cancelled if it was, with its amounts;
and it may only be paid if it was issued or paid. -/
theorem Rewrites.lawful {s s' : PayrollSlip} (rewrites : Rewrites k s s' db db')
    (keeps : s.status.isClosed = true → s'.status.isClosed = true ∧
      (s.status = .cancelled → s'.status = .cancelled) ∧ s'.finalAmount = s.finalAmount ∧
      s'.netPay = s.netPay)
    (paid : s'.status = .paid → s.status = .paid ∨ s.status = .issued) : Lawful db db' := by
  refine rewrites.toOnSlip.lawful (fun row found closed => ?_) fun row found isPaid => ?_
  · rw [rewrites.before] at found
    cases found
    obtain ⟨closed', cancelled, finalAmount, netPay⟩ := keeps closed
    exact ⟨s', rewrites.after, closed', cancelled, finalAmount, netPay,
      OnSlip.itemsOf_congr rewrites.sameItems k⟩
  · rw [rewrites.after] at found
    cases found
    exact ⟨s, rewrites.before, paid isPaid⟩

end

/-! ### The calls -/

section

variable {db db' : Db} {tenantId : Id}

/-- No teacher whose contract is in force in the month has a cancelled slip for it. -/
def NoneCancelled (jalaali : Jalaali) (staff : Staff) (tenantId : Id) (year month : ℕ) (db : Db) :
    Prop :=
  match monthRange jalaali year month with
  | .ok range => ∀ contract ∈ contractsInForce staff tenantId range, ∀ s ∈ db.slips.rows,
      s.tenantId = tenantId → s.userId = contract.teacher.id → s.year = year → s.month = month →
        s.status ≠ .cancelled
  | .error _ => True

/-- No slip that one of the contracts is for is cancelled. -/
def NoneCancelledOf (contracts : List TeacherContract) (tenantId : Id) (year month : ℕ) (db : Db) :
    Prop :=
  ∀ contract ∈ contracts, ∀ s ∈ db.slips.rows, s.tenantId = tenantId →
    s.userId = contract.teacher.id → s.year = year → s.month = month → s.status ≠ .cancelled

theorem noneCancelled_iff {jalaali : Jalaali} {staff : Staff} {year month : ℕ}
    {range : MonthRange} (inMonth : monthRange jalaali year month = .ok range) :
    NoneCancelled jalaali staff tenantId year month db ↔
      NoneCancelledOf (contractsInForce staff tenantId range) tenantId year month db := by
  unfold NoneCancelled
  rw [inMonth]
  rfl

theorem Redrafts.noneCancelledOf {contracts : List TeacherContract} {year month : ℕ} {k : Id}
    (redrafts : Redrafts k db db') (before : NoneCancelledOf contracts tenantId year month db) :
    NoneCancelledOf contracts tenantId year month db' := by
  intro contract mem s memS
  by_cases own : s.id = k
  · obtain ⟨draft, found, status⟩ := redrafts.draft
    have same := db'.slips.find?_key memS
    change db'.slips.find? s.id = some s at same
    rw [own, found] at same
    cases same
    rw [status]
    exact fun _ _ _ _ => nofun
  · have found := (redrafts.slips s.id own).symm.trans (db'.slips.find?_key memS)
    exact before contract mem s (mem_of_find? found)

theorem lawful_of_calculate {staff : Staff} {dto : CalculateMonthlyPayrollDto} {range : MonthRange}
    (steps : Relation.ReflTransGen (fun d d' => ∃ contract ∈ contractsInForce staff tenantId range,
      CalculatesSlip tenantId contract.teacher.id dto.year dto.month d d') db db')
    (before : NoneCancelledOf (contractsInForce staff tenantId range) tenantId dto.year dto.month
      db) : Lawful db db' := by
  have both : KeepsClosed db db' ∧ (∀ k s', db'.slips.find? k = some s' → s'.status = .paid →
      ∃ s, db.slips.find? k = some s ∧ s.status = .paid) ∧
      NoneCancelledOf (contractsInForce staff tenantId range) tenantId dto.year dto.month db' := by
    induction steps with
    | refl => exact ⟨KeepsClosed.refl db, fun k s found paid => ⟨s, found, paid⟩, before⟩
    | @tail d _ _ step ih =>
      obtain ⟨keeps, paid, noneNow⟩ := ih
      obtain ⟨contract, mem, k, redrafts, isOpen⟩ := step
      have open' : ∀ s, d.slips.find? k = some s → s.status.isClosed = false := by
        intro s found
        obtain ⟨notIssued, slip⟩ := isOpen s found
        obtain ⟨-, tenant, user, year, month⟩ := Db.slipOf_spec slip
        have notCancelled :=
          noneNow contract mem s (mem_of_find? found) tenant user year month
        simp [PayrollStatus.isClosed, notIssued, notCancelled]
      refine ⟨keeps.trans (redrafts.lawful open').1, fun j s' found isPaid => ?_,
        redrafts.noneCancelledOf noneNow⟩
      by_cases own : j = k
      · obtain ⟨draft, foundDraft, status⟩ := redrafts.draft
        rw [own, foundDraft] at found
        cases found
        rw [status] at isPaid
        cases isPaid
      · exact paid j s' ((redrafts.slips j own).symm.trans found) isPaid
  refine ⟨both.1, fun k s' found isPaid => ?_⟩
  obtain ⟨s, found, status⟩ := both.2.1 k s' found isPaid
  exact ⟨s, found, Or.inl status⟩

theorem lawful_of_finalize {dto : FinalizeMonthlyPayrollDto} {now : Instant}
    {answer : FinalizeReply}
    (done : finalizeMonthlySlips db tenantId dto now = .ok (db', answer)) : Lawful db db' := by
  obtain ⟨items, slipAfter, activeOpen, -⟩ := finalizeMonthlySlips_spec rfl done
  constructor
  · intro k s found closed
    refine ⟨s, ?_, closed, fun same => same, rfl, rfl, OnSlip.itemsOf_congr items k⟩
    rw [slipAfter, found, Option.map_some, if_neg]
    intro active
    obtain ⟨row, foundRow, notIssued, notCancelled⟩ := activeOpen s.id active
    rw [show s.id = k from key_of_find? found, found] at foundRow
    cases foundRow
    simp [PayrollStatus.isClosed, notIssued, notCancelled] at closed
  · intro k s' found paid
    rw [slipAfter] at found
    obtain ⟨s, foundBefore, rfl⟩ := Option.map_eq_some_iff.mp found
    split at paid
    · cases paid
    · exact ⟨s, foundBefore, Or.inl paid⟩

/-- What a call that goes through must find, so that it does not rewrite a closed slip, nor pay one
that is not issued. -/
def LeavesClosed (jalaali : Jalaali) (db : Db) (r : Request) : Prop :=
  match r.call with
  | .createAdjustment .. | .reviewAndEditSlip .. | .cancelSlip .. | .finalizeMonthlySlips _ => True
  | .calculateMonthlyPayroll dto =>
    NoneCancelled jalaali r.staff r.tenantId dto.year dto.month db
  | .generateSlipForUser dto => ∀ s ∈ db.slipOf r.tenantId dto.userId dto.year dto.month,
      s.status.isClosed = false
  | .approveAndDisburse slipId .. => ∀ s ∈ slipById db r.tenantId slipId,
      s.status = .issued ∨ s.status = .paid

instance (jalaali : Jalaali) (staff : Staff) (tenantId : Id) (year month : ℕ) (db : Db) :
    Decidable (NoneCancelled jalaali staff tenantId year month db) := by
  unfold NoneCancelled
  split <;> infer_instance

instance (jalaali : Jalaali) (db : Db) (r : Request) : Decidable (LeavesClosed jalaali db r) := by
  obtain ⟨_, _, _, call⟩ := r
  unfold LeavesClosed
  cases call <;> infer_instance

/-- One call. -/
theorem lawful_exec {jalaali : Jalaali} {r : Request}
    (leaves : OnReturn (LeavesClosed jalaali) jalaali db r) : Lawful db (exec jalaali db r) := by
  unfold exec
  unfold OnReturn at leaves
  cases replied : reply jalaali db r with
  | error e => exact Lawful.refl db
  | ok db' =>
    simp only [replied] at leaves ⊢
    obtain ⟨tenantId, now, staff, call⟩ := r
    cases call <;> simp only [reply, map_eq_ok, Prod.exists] at replied <;>
      obtain ⟨after, answer, replied, rfl⟩ := replied
    case createAdjustment createdById dto =>
        simp only [createAdjustment, do_eq_ok] at replied
        obtain ⟨_, -, amount, -, db₁, created, ⟨⟩⟩ := replied
        exact lawful_of_same (Db.write_slips created) (Db.write_items created)
    case calculateMonthlyPayroll dto =>
        obtain ⟨range, inMonth, steps⟩ := calculateMonthlyPayroll_steps replied
        simp only [LeavesClosed, noneCancelled_iff inMonth] at leaves
        exact lawful_of_calculate steps leaves
    case generateSlipForUser dto =>
        obtain ⟨redrafts, same⟩ := generateSlipForUser_spec replied
        exact redrafts.lawful fun s found => leaves s (same s found)
    case reviewAndEditSlip slipId dto adminUser =>
        obtain ⟨s, s', rewrites, notIssued, notCancelled, status⟩ :=
          reviewAndEditSlip_spec replied
        refine rewrites.lawful (fun closed => ?_) fun paid => ?_
        · simp [PayrollStatus.isClosed, notIssued, notCancelled] at closed
        · rw [status] at paid
          cases paid
    case cancelSlip slipId dto adminUser =>
        obtain ⟨s, rewrites, -⟩ := cancelSlip_spec replied
        exact rewrites.lawful (fun _ => ⟨rfl, fun _ => rfl, rfl, rfl⟩) fun paid => by cases paid
    case finalizeMonthlySlips dto => exact lawful_of_finalize replied
    case approveAndDisburse slipId approverUserId dto =>
        obtain ⟨s, rewrites, found⟩ := approveAndDisburse_spec replied
        have status : s.status = .issued ∨ s.status = .paid := leaves s found
        refine rewrites.lawful (fun _ => ⟨rfl, fun cancelled => ?_, rfl, rfl⟩) fun _ => status.symm
        rcases status with status | status <;> rw [cancelled] at status <;> cases status

end

/-! ### Runs -/

/-- **Issued slips are immutable.** A run whose calls leave closed slips alone preserves every
issued and every cancelled slip, and each of its calls pays only what was issued. -/
theorem preserves_of_leavesClosed (jalaali : Jalaali) {db : Db} {rs : List Request}
    (leaves : Along (exec jalaali) (OnReturn (LeavesClosed jalaali) jalaali) db rs) :
    Preserves db (run (exec jalaali) db rs) ∧
      Along (exec jalaali) (fun db r => PaidFromIssued db (exec jalaali db r)) db rs := by
  refine ⟨KeepsClosed.preserves ?_, leaves.mono fun db r meets => (lawful_exec meets).2⟩
  exact run_invariant (I := KeepsClosed db)
    (fun _ _ meets keeps => keeps.trans (lawful_exec meets).1) (KeepsClosed.refl db) leaves

/-- A month that is issued is calculated again and paid, and another is generated and cancelled. -/
theorem preserves_of_leavesClosed_school :
    let issued := run (exec School.jalaali) Db.empty [School.calculate 7, School.finalize 7]
    let later := [School.calculate 7, School.disburse 1, School.generate 8, School.cancel 2]
    ((issued.slips.find? 1).any (·.status.isIssued) = true ∧
      Preserves issued (run (exec School.jalaali) issued later)) ∧
    Along (exec School.jalaali) (fun db r => PaidFromIssued db (exec School.jalaali db r)) issued
      later := by
  intro issued later
  obtain ⟨preserves, paid⟩ := @preserves_of_leavesClosed School.jalaali issued later
    (by decide +kernel)
  exact ⟨⟨by decide +kernel, preserves⟩, paid⟩

/-- A slip that is issued and generated again is a draft. -/
theorem not_preserves_of_generate :
    ¬ ∀ (jalaali : Jalaali) (rs rs' : List Request), Preserves (run (exec jalaali) Db.empty rs)
      (run (exec jalaali) (run (exec jalaali) Db.empty rs) rs') := by
  intro claim
  have preserves := claim School.jalaali [School.generate 7, School.finalize 7] [School.generate 7]
  have issued : ∃ s ∈ (run (exec School.jalaali) Db.empty
      [School.generate 7, School.finalize 7]).slips.find? 1, s.status.isIssued = true := by
    decide +kernel
  have drafts : ∀ s ∈ (run (exec School.jalaali) (run (exec School.jalaali) Db.empty
      [School.generate 7, School.finalize 7]) [School.generate 7]).slips.find? 1,
      s.status = .draft := by
    decide +kernel
  obtain ⟨s, found, status⟩ := issued
  obtain ⟨s', found', -, -, -, notDraft, -⟩ := preserves.issued 1 s found status
  exact notDraft (drafts s' found')

end Rokad.Payroll
