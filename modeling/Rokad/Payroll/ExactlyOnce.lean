import Rokad.Payroll.OnSlip

/-!
# Each adjustment is paid once

An adjustment is paid by the issued slip that carries an item made of it. While it is linked
to a draft it stays pending, and nothing keeps the link and the item together: a calculation
of another month carries the adjustment a second time, a slip written anew loses its items,
and a cancellation or a payment never looks at them. A run keeps the law as long as what is
issued is what is linked, and no slip that carries an adjustment is issued, reopened or
cancelled behind its back (`PaysOnce`).
-/

namespace Rokad.Payroll

open Rokad.Base Rokad.Common

namespace Db

/-- Slip `k` has an item made of the adjustment. -/
def Carries (db : Db) (k : Id) (a : PayrollAdjustment) : Prop :=
  ∃ i ∈ db.items.rows, i.payrollSlipId = k ∧ i.type = .adjustment ∧ i.source = some a.id ∧
    i.amount = a.amount
deriving Decidable

def Issued (db : Db) (k : Id) : Prop :=
  ∃ s, db.slips.find? k = some s ∧ s.status.isIssued = true

/-- The adjustment appears in slip `k`, which is issued. -/
def PaidIn (db : Db) (k : Id) (a : PayrollAdjustment) : Prop := db.Issued k ∧ db.Carries k a

instance (db : Db) (k : Id) : Decidable (db.Issued k) :=
  decidable_of_iff ((db.slips.find? k).any (·.status.isIssued) = true) (Option.any_eq_true ..)

instance (db : Db) (k : Id) (a : PayrollAdjustment) : Decidable (db.PaidIn k a) :=
  inferInstanceAs (Decidable (_ ∧ _))

end Db

/-- **The law.** An adjustment appears in one issued slip at most; it is applied exactly when it
appears in one, which is then the one it is applied to. -/
structure ExactlyOnce (db : Db) : Prop where
  atMostOne : ∀ a ∈ db.adjustments.rows, ∀ k k', db.PaidIn k a → db.PaidIn k' a → k = k'
  applied_iff : ∀ a ∈ db.adjustments.rows, a.status = .applied ↔ ∃! k, db.PaidIn k a
  named : ∀ a ∈ db.adjustments.rows, a.status = .applied → ∀ k, db.PaidIn k a →
    a.appliedToSlipId = some k

/-! ### The law of one adjustment -/

/-- The slip that pays the adjustment is the one it is applied to. -/
structure Tied (db : Db) (a : PayrollAdjustment) : Prop where
  applied : ∀ k, db.PaidIn k a → a.status = .applied ∧ a.appliedToSlipId = some k
  paid : a.status = .applied → ∃ k, db.PaidIn k a

theorem exactlyOnce_iff {db : Db} : ExactlyOnce db ↔ ∀ a ∈ db.adjustments.rows, Tied db a := by
  constructor
  · intro once a mem
    have unique := once.atMostOne a mem
    refine ⟨fun k paid => ?_, fun applied => ((once.applied_iff a mem).mp applied).exists⟩
    have applied := (once.applied_iff a mem).mpr ⟨k, paid, fun k' paid' => unique k' k paid' paid⟩
    exact ⟨applied, once.named a mem applied k paid⟩
  · intro tied
    have unique : ∀ a ∈ db.adjustments.rows, ∀ k k', db.PaidIn k a → db.PaidIn k' a → k = k' := by
      intro a mem k k' paid paid'
      have link := ((tied a mem).applied k paid).2
      have link' := ((tied a mem).applied k' paid').2
      exact Option.some.inj (link.symm.trans link')
    refine ⟨unique, fun a mem => ⟨fun applied => ?_, ?_⟩, fun a mem _ k paid =>
      ((tied a mem).applied k paid).2⟩
    · obtain ⟨k, paid⟩ := (tied a mem).paid applied
      exact ⟨k, paid, fun k' paid' => unique a mem k' k paid' paid⟩
    · rintro ⟨k, paid, -⟩
      exact ((tied a mem).applied k paid).1

section

variable {db db' : Db} {k : Id}

theorem Tied.continue {a a' : PayrollAdjustment} (tied : Tied db a) (continues : Continues a a')
    (same : ∀ k, db'.PaidIn k a' ↔ db.PaidIn k a) : Tied db' a' := by
  obtain ⟨-, -, status, link⟩ := continues
  refine ⟨fun k paid => ?_, fun applied => ?_⟩
  · obtain ⟨applied, named⟩ := tied.applied k ((same k).mp paid)
    refine ⟨status.trans applied, ?_⟩
    rcases link with pending | link
    · rw [applied] at pending
      cases pending
    · exact link.trans named
  · obtain ⟨k, paid⟩ := tied.paid (status.symm.trans applied)
    exact ⟨k, (same k).mpr paid⟩

theorem carries_of_itemsOf {a a' : PayrollAdjustment} (items : db'.itemsOf k = db.itemsOf k)
    (id : a'.id = a.id) (amount : a'.amount = a.amount) :
    db'.Carries k a' ↔ db.Carries k a := by
  have mem : ∀ i : PayrollItem, i ∈ db'.items.rows ∧ i.payrollSlipId = k ↔
      i ∈ db.items.rows ∧ i.payrollSlipId = k := by
    intro i
    rw [← Db.mem_itemsOf, items, Db.mem_itemsOf]
  simp only [Db.Carries, id, amount, ← and_assoc, mem]

/-- Work on slip `k` keeps the law when it leaves open whether `k` pays, adjustment by adjustment. -/
theorem ExactlyOnce.onSlip (once : ExactlyOnce db) (on : OnSlip k db db')
    (same : ∀ a ∈ db.adjustments.rows, ∀ a' ∈ db'.adjustments.rows, Continues a a' →
      (db'.PaidIn k a' ↔ db.PaidIn k a)) : ExactlyOnce db' := by
  rw [exactlyOnce_iff] at once ⊢
  intro a' mem'
  obtain ⟨a, mem, continues⟩ := on.adjustments a' mem'
  refine (once a mem).continue continues fun j => ?_
  by_cases other : j = k
  · rw [other]
    exact same a mem a' mem' continues
  · obtain ⟨id, amount, -⟩ := continues
    unfold Db.PaidIn Db.Issued
    rw [on.slips j other, carries_of_itemsOf (on.items j other) id amount]

/-- A slip that pays nothing may become a draft. -/
theorem ExactlyOnce.redrafts (once : ExactlyOnce db) (redrafts : Redrafts k db db')
    (free : ∀ a ∈ db.adjustments.rows, ¬ db.PaidIn k a) : ExactlyOnce db' := by
  refine once.onSlip redrafts.toOnSlip fun a mem a' _ _ => iff_of_false ?_ (free a mem)
  rintro ⟨⟨s, found, issued⟩, -⟩
  obtain ⟨s', found', draft⟩ := redrafts.draft
  rw [found] at found'
  cases found'
  rw [draft] at issued
  cases issued

/-- A slip may change its columns when it is issued before and after, or pays nothing. -/
theorem ExactlyOnce.rewrites {s s' : PayrollSlip} (once : ExactlyOnce db)
    (rewrites : Rewrites k s s' db db')
    (status : s'.status.isIssued = s.status.isIssued ∨
      ∀ a ∈ db.adjustments.rows, ¬ db.Carries k a) : ExactlyOnce db' := by
  refine once.onSlip rewrites.toOnSlip fun a mem a' _ continues => ?_
  obtain ⟨id, amount, -⟩ := continues
  have carries : db'.Carries k a' ↔ db.Carries k a :=
    carries_of_itemsOf (OnSlip.itemsOf_congr rewrites.sameItems k) id amount
  rcases status with same | free
  · unfold Db.PaidIn Db.Issued
    rw [carries, rewrites.before, rewrites.after]
    simp [same]
  · have none := free a mem
    exact iff_of_false (fun paid => none (carries.mp paid.2)) fun paid => none paid.2

end

/-! ### The calls -/

section

variable {db db' : Db} {tenantId : Id}

theorem ExactlyOnce.calculate (once : ExactlyOnce db) {jalaali : Jalaali} {staff : Staff}
    {dto : CalculateMonthlyPayrollDto} {answer : CalculationReply}
    (done : calculateMonthlyPayroll jalaali staff db tenantId dto = .ok (db', answer)) :
    ExactlyOnce db' := by
  obtain ⟨range, -, steps⟩ := calculateMonthlyPayroll_steps done
  clear done
  induction steps with
  | refl => exact once
  | tail _ step ih =>
    obtain ⟨contract, -, k, redrafts, isOpen⟩ := step
    refine ih.redrafts redrafts ?_
    rintro a - ⟨⟨s, found, issued⟩, -⟩
    rw [(isOpen s found).1] at issued
    cases issued

theorem ExactlyOnce.createAdjustment (once : ExactlyOnce db) {staff : Staff} {createdById : UserId}
    {dto : CreatePayrollAdjustmentDto} {row : PayrollAdjustment}
    (done : createAdjustment staff db tenantId createdById dto = .ok (db', row)) :
    ExactlyOnce db' := by
  simp only [Payroll.createAdjustment, do_eq_ok] at done
  obtain ⟨_, -, amount, -, _, created, ⟨⟩⟩ := done
  have slips : db'.slips = db.slips := Db.write_slips created
  have items : db'.items = db.items := Db.write_items created
  have same : ∀ k a, db'.PaidIn k a ↔ db.PaidIn k a := by
    intro k a
    unfold Db.PaidIn Db.Issued Db.Carries
    rw [slips, items]
  rw [exactlyOnce_iff] at once ⊢
  intro a mem
  rcases (mem_insert (Db.write_adjustments created)).mp mem with mem | rfl
  · exact (once a mem).continue (Continues.refl a) fun k => same k a
  · refine ⟨fun k paid => ?_, fun applied => by cases applied⟩
    -- No item is made of an adjustment that did not exist.
    obtain ⟨-, i, mem, -, -, source, -⟩ := (same k _).mp paid
    have present : db.adjustments.has i.source = true := db.foreignKeys.item_source i mem
    rw [source] at present
    obtain ⟨old, found⟩ := has_some_iff.mp present
    rw [find?_fresh] at found
    cases found

/-- What is issued is what is linked: each slip about to be issued carries the pending adjustments
that are linked to it, and no other. -/
def LinkedAsCarried (db : Db) (slips : List PayrollSlip) : Prop :=
  ∀ s ∈ slips, ∀ a ∈ db.adjustments.rows,
    db.Carries s.id a ↔ a.status = .pending ∧ a.appliedToSlipId = some s.id
deriving Decidable

theorem ExactlyOnce.finalize (once : ExactlyOnce db) {dto : FinalizeMonthlyPayrollDto}
    {now : Instant} {answer : FinalizeReply}
    (done : finalizeMonthlySlips db tenantId dto now = .ok (db', answer))
    (linked : LinkedAsCarried db (activeSlips db tenantId dto.year dto.month)) :
    ExactlyOnce db' := by
  obtain ⟨ids, isIds⟩ :
      ∃ ids, (activeSlips db tenantId dto.year dto.month).map (·.id) = ids := ⟨_, rfl⟩
  obtain ⟨items, slipAfter, activeOf, adjustments⟩ := finalizeMonthlySlips_spec isIds done
  replace linked : ∀ k ∈ ids, ∀ a ∈ db.adjustments.rows,
      db.Carries k a ↔ a.status = .pending ∧ a.appliedToSlipId = some k := by
    rw [← isIds]
    exact List.forall_mem_map.mpr linked
  have issuedIff : ∀ k, db'.Issued k ↔ db.Issued k ∨ k ∈ ids := by
    intro k
    unfold Db.Issued
    constructor
    · rintro ⟨s, found, status⟩
      rw [slipAfter] at found
      obtain ⟨row, foundRow, rfl⟩ := Option.map_eq_some_iff.mp found
      have key : row.id = k := key_of_find? foundRow
      by_cases own : row.id ∈ ids
      · exact Or.inr (key ▸ own)
      · rw [if_neg own] at status
        exact Or.inl ⟨row, foundRow, status⟩
    · rintro (⟨row, found, status⟩ | mem)
      · refine ⟨if row.id ∈ ids then row.issue else row, by rw [slipAfter, found]; rfl, ?_⟩
        split
        · rfl
        · exact status
      · obtain ⟨s, found, -⟩ := activeOf k mem
        have key : s.id = k := key_of_find? found
        refine ⟨s.issue, ?_, rfl⟩
        rw [slipAfter, found, Option.map_some, key, if_pos mem]
  have paidIff : ∀ k a, db'.PaidIn k a ↔ (db.Issued k ∨ k ∈ ids) ∧ db.Carries k a := by
    intro k a
    unfold Db.PaidIn Db.Carries
    rw [issuedIff, items]
  rw [exactlyOnce_iff] at once ⊢
  intro a' mem'
  rw [adjustments] at mem'
  obtain ⟨a, memA, rfl⟩ := List.mem_map.mp mem'
  obtain ⟨paidApplied, appliedPaid⟩ := once a memA
  cases due : a.due ids with
  | true =>
    simp only [if_true]
    simp only [PayrollAdjustment.due, decide_eq_true_eq] at due
    obtain ⟨link, pending⟩ := due
    obtain ⟨k, memK, named⟩ := List.mem_map.mp link
    refine ⟨fun j paid => ⟨rfl, ?_⟩, fun _ => ⟨k, (paidIff _ _).mpr ⟨Or.inr memK, ?_⟩⟩⟩
    · obtain ⟨wasOrIs, carries⟩ := (paidIff j _).mp paid
      rcases wasOrIs with was | mem
      · have := (paidApplied j ⟨was, carries⟩).1
        rw [pending] at this
        cases this
      · exact ((linked j mem a memA).mp carries).2
    · exact (linked k memK a memA).mpr ⟨pending, named.symm⟩
  | false =>
    simp only [Bool.false_eq_true, if_false]
    refine ⟨fun j paid => ?_, fun applied => ?_⟩
    · obtain ⟨wasOrIs, carries⟩ := (paidIff j _).mp paid
      rcases wasOrIs with was | mem
      · exact paidApplied j ⟨was, carries⟩
      · obtain ⟨pending, link⟩ := (linked j mem a memA).mp carries
        have isDue : a.due ids = true := by
          simp only [PayrollAdjustment.due, decide_eq_true_eq]
          exact ⟨link ▸ List.mem_map_of_mem mem, pending⟩
        rw [isDue] at due
        cases due
    · obtain ⟨k, issued, carries⟩ := appliedPaid applied
      exact ⟨k, (paidIff _ _).mpr ⟨Or.inl issued, carries⟩⟩

end

/-! ### Runs -/

/-- The slip carries no adjustment. -/
def CarriesNone (db : Db) (s : PayrollSlip) : Prop :=
  ∀ a ∈ db.adjustments.rows, ¬ db.Carries s.id a
deriving Decidable

/-- What a call that goes through must find, so that no adjustment is lost or paid twice. -/
def PaysOnce (db : Db) (r : Request) : Prop :=
  match r.call with
  | .createAdjustment .. | .calculateMonthlyPayroll _ | .reviewAndEditSlip .. => True
  | .generateSlipForUser dto => ∀ s ∈ db.slipOf r.tenantId dto.userId dto.year dto.month,
      s.status.isIssued = true → CarriesNone db s
  | .cancelSlip slipId .. => ∀ s ∈ slipById db r.tenantId slipId,
      s.status = .issued → CarriesNone db s
  | .finalizeMonthlySlips dto =>
    LinkedAsCarried db (activeSlips db r.tenantId dto.year dto.month)
  | .approveAndDisburse slipId .. => ∀ s ∈ slipById db r.tenantId slipId,
      s.status.isIssued = false → CarriesNone db s

section

instance (db : Db) (r : Request) : Decidable (PaysOnce db r) := by
  unfold PaysOnce
  split <;> infer_instance

end

/-- One call. -/
theorem ExactlyOnce.exec {jalaali : Jalaali} {db : Db} {r : Request} (once : ExactlyOnce db)
    (pays : OnReturn PaysOnce jalaali db r) : ExactlyOnce (exec jalaali db r) := by
  unfold Payroll.exec
  unfold OnReturn at pays
  cases replied : reply jalaali db r with
  | error e => exact once
  | ok db' =>
    simp only [replied] at pays ⊢
    obtain ⟨tenantId, now, staff, call⟩ := r
    cases call <;> simp only [reply, map_eq_ok, Prod.exists] at replied <;>
      obtain ⟨after, answer, replied, rfl⟩ := replied
    case createAdjustment createdById dto => exact once.createAdjustment replied
    case calculateMonthlyPayroll dto => exact once.calculate replied
    case generateSlipForUser dto =>
        obtain ⟨redrafts, same⟩ := generateSlipForUser_spec replied
        refine once.redrafts redrafts ?_
        rintro a mem ⟨⟨s, found, issued⟩, carries⟩
        have key : s.id = answer := key_of_find? found
        exact pays s (same s found) issued a mem (key ▸ carries)
    case reviewAndEditSlip slipId dto adminUser =>
        obtain ⟨s, s', rewrites, notIssued, -, status⟩ := reviewAndEditSlip_spec replied
        refine once.rewrites rewrites (Or.inl ?_)
        rw [notIssued, status]
        rfl
    case cancelSlip slipId dto adminUser =>
        obtain ⟨s, rewrites, found, notSettled, notPaid⟩ := cancelSlip_spec replied
        by_cases issued : s.status = .issued
        · have key : s.id = slipId := key_of_find? rewrites.before
          exact once.rewrites rewrites (Or.inr (key ▸ pays s found issued))
        · refine once.rewrites rewrites (Or.inl ?_)
          have notIssued : s.status.isIssued = false := by
            simp [PayrollStatus.isIssued, issued, notSettled, notPaid]
          rw [notIssued]
          rfl
    case finalizeMonthlySlips dto => exact once.finalize replied pays
    case approveAndDisburse slipId approverUserId dto =>
        obtain ⟨s, rewrites, found⟩ := approveAndDisburse_spec replied
        cases issued : s.status.isIssued with
        | true => exact once.rewrites rewrites (Or.inl issued.symm)
        | false =>
          have key : s.id = slipId := key_of_find? rewrites.before
          exact once.rewrites rewrites (Or.inr (key ▸ pays s found issued))

/-- **Exactly once.** A run whose calls issue what is linked, and neither reopen nor cancel nor pay
past an adjustment, pays every adjustment exactly once. -/
theorem exactlyOnce_of_paysOnce (jalaali : Jalaali) {db : Db} {rs : List Request}
    (once : ExactlyOnce db) (pays : Along (exec jalaali) (OnReturn PaysOnce jalaali) db rs) :
    ExactlyOnce (run (exec jalaali) db rs) :=
  run_invariant (fun _ _ pays once => once.exec pays) once pays

theorem exactlyOnce_empty : ExactlyOnce Db.empty :=
  exactlyOnce_iff.mpr (by simp [Db.empty, Table.empty])

/-- A month with an adjustment, calculated, issued and paid. -/
theorem exactlyOnce_of_paysOnce_school : ExactlyOnce (run (exec School.jalaali) Db.empty
    [School.adjust, School.calculate 7, School.finalize 7, School.disburse 1]) :=
  exactlyOnce_of_paysOnce School.jalaali exactlyOnce_empty (by decide +kernel)

/-- The state after two months that were calculated before either was issued. -/
def School.twoMonths : Db := run (exec School.jalaali) Db.empty
  [School.adjust, School.calculate 7, School.calculate 8, School.finalize 7, School.finalize 8]

/-- Both months carry the adjustment. -/
theorem not_exactlyOnce_of_two_months :
    ¬ ∀ (jalaali : Jalaali) (rs : List Request), ExactlyOnce (run (exec jalaali) Db.empty rs) := by
  intro claim
  have once : ExactlyOnce School.twoMonths := claim School.jalaali _
  have twice : ∃ a ∈ School.twoMonths.adjustments.rows,
      School.twoMonths.PaidIn 1 a ∧ School.twoMonths.PaidIn 2 a := by
    decide +kernel
  obtain ⟨a, mem, first, second⟩ := twice
  cases once.atMostOne a mem 1 2 first second

end Rokad.Payroll
