import Rokad.Payroll.Slips

/-!
# Work on one slip

A call on a slip leaves every other slip with its items, and of the adjustments it moves
only the links of pending ones (`OnSlip`). Both operations that write a slip anew leave it a
draft (`Redrafts`); a monthly calculation is a sequence of these, each on a slip that is not
issued (`calculateMonthlyPayroll_steps`).
-/

namespace Rokad.Payroll

open Rokad.Base Rokad.Common

def Db.itemsOf (db : Db) (k : Id) : List PayrollItem :=
  db.items.rows.filter fun i => i.payrollSlipId = k

theorem Db.mem_itemsOf {db : Db} {k : Id} {i : PayrollItem} :
    i ∈ db.itemsOf k ↔ i ∈ db.items.rows ∧ i.payrollSlipId = k := by
  simp [itemsOf]

/-- The adjustment of before that an adjustment is. -/
def Continues (a a' : PayrollAdjustment) : Prop :=
  a'.id = a.id ∧ a'.amount = a.amount ∧ a'.status = a.status ∧
    (a.status = .pending ∨ a'.appliedToSlipId = a.appliedToSlipId)

theorem Continues.refl (a : PayrollAdjustment) : Continues a a := ⟨rfl, rfl, rfl, Or.inr rfl⟩

theorem Continues.trans {a b c : PayrollAdjustment} (first : Continues a b)
    (second : Continues b c) : Continues a c := by
  obtain ⟨id, amount, status, link⟩ := first
  obtain ⟨id', amount', status', link'⟩ := second
  refine ⟨id'.trans id, amount'.trans amount, status'.trans status, ?_⟩
  rcases link with pending | same
  · exact Or.inl pending
  · exact link'.imp (fun pending => status ▸ pending) fun same' => same'.trans same

/-- Only slip `k`, its items and the links of pending adjustments differ. -/
structure OnSlip (k : Id) (db db' : Db) : Prop where
  slips : ∀ j, j ≠ k → db'.slips.find? j = db.slips.find? j
  items : ∀ j, j ≠ k → db'.itemsOf j = db.itemsOf j
  adjustments : ∀ a' ∈ db'.adjustments.rows, ∃ a ∈ db.adjustments.rows, Continues a a'

namespace OnSlip

variable {k : Id} {db db' db'' : Db}

theorem of_adjustments_eq (slips : ∀ j, j ≠ k → db'.slips.find? j = db.slips.find? j)
    (items : ∀ j, j ≠ k → db'.itemsOf j = db.itemsOf j)
    (adjustments : db'.adjustments = db.adjustments) : OnSlip k db db' where
  slips
  items
  adjustments := fun a mem => ⟨a, adjustments ▸ mem, Continues.refl a⟩

theorem refl (db : Db) : OnSlip k db db := of_adjustments_eq (fun _ _ => rfl) (fun _ _ => rfl) rfl

theorem trans (first : OnSlip k db db') (second : OnSlip k db' db'') : OnSlip k db db'' where
  slips := fun j other => (second.slips j other).trans (first.slips j other)
  items := fun j other => (second.items j other).trans (first.items j other)
  adjustments := by
    intro a'' mem
    obtain ⟨a', mem', later⟩ := second.adjustments a'' mem
    obtain ⟨a, mem, before⟩ := first.adjustments a' mem'
    exact ⟨a, mem, before.trans later⟩

/-! ### Statements -/

theorem itemsOf_congr (same : db'.items = db.items) (j : Id) : db'.itemsOf j = db.itemsOf j := by
  unfold Db.itemsOf
  rw [same]

theorem of_updateSlip {data : SlipUpdate} (done : db.write (.updateSlip k data) = .ok db') :
    OnSlip k db db' :=
  of_adjustments_eq (fun _ other => Table.find?_update_of_ne (Db.write_slips done) other)
    (fun j _ => itemsOf_congr (Db.write_items done) j) (Db.write_adjustments done)

theorem of_createSlip {row : PayrollSlip} (done : db.write (.createSlip row) = .ok db') :
    OnSlip row.id db db' := by
  refine of_adjustments_eq (fun j other => ?_)
    (fun j _ => itemsOf_congr (Db.write_items done) j) (Db.write_adjustments done)
  rw [Table.find?_insert (Db.write_slips done)]
  exact if_neg (Ne.symm other)

theorem of_createItem {row : PayrollItem} (done : db.write (.createItem row) = .ok db') :
    OnSlip row.payrollSlipId db db' := by
  have inserted := Db.write_items done
  refine of_adjustments_eq (fun j _ => by rw [show db'.slips = db.slips from Db.write_slips done])
    (fun j other => ?_) (Db.write_adjustments done)
  unfold Db.itemsOf
  rw [(insert_spec.mp inserted).1, List.filter_append]
  simp [Ne.symm other]

theorem of_deleteItems (done : db.write (.deleteItems k) = .ok db') : OnSlip k db db' := by
  refine of_adjustments_eq (fun j _ => by rw [show db'.slips = db.slips from Db.write_slips done])
    (fun j other => ?_) (Db.write_adjustments done)
  have items : db'.items = _ := Db.write_items done
  unfold Db.itemsOf
  rw [items, Table.deleteMany, List.filter_filter]
  refine List.filter_congr fun i _ => ?_
  by_cases own : i.payrollSlipId = j <;> simp [own, other]

/-- A link is only moved while the adjustment is pending. -/
theorem of_linkAdjustment {id slipId : Id}
    (done : db.write (.linkAdjustment id slipId) = .ok db')
    (pending : ∀ a ∈ db.adjustments.rows, a.id = id → a.status = .pending) : OnSlip k db db' where
  slips := fun j _ => by rw [show db'.slips = db.slips from Db.write_slips done]
  items := fun j _ => itemsOf_congr (Db.write_items done) j
  adjustments := by
    intro a' mem
    rcases (mem_update (Db.write_adjustments done)).mp mem with ⟨mem, -⟩ | ⟨a, found, rfl⟩
    · exact ⟨a', mem, Continues.refl a'⟩
    · have mem := mem_of_find? found
      exact ⟨a, mem, rfl, rfl, rfl, Or.inl (pending a mem (key_of_find? found))⟩

/-! ### Filling a slip -/

theorem of_createItems {tenantId : Id} {drafts : List ItemDraft}
    (done : inTurn (createItem tenantId k) db drafts = .ok db') :
    OnSlip k db db' ∧ db'.slips = db.slips := by
  refine inTurn_keeps (I := fun d => OnSlip k db d ∧ d.slips = db.slips) ?_ done ⟨refl db, rfl⟩
  rintro d draft d' - created ⟨before, slips⟩
  simp only [createItem, bind_eq_ok] at created
  obtain ⟨amount, -, written⟩ := created
  exact ⟨before.trans (of_createItem written), (Db.write_slips written).trans slips⟩

theorem of_fillSlip {tenantId : Id} {drafts : List ItemDraft} {pending : List PayrollAdjustment}
    (done : fillSlip tenantId k drafts pending db = .ok db')
    (all : ∀ adj ∈ pending, adj ∈ db.adjustments.rows ∧ adj.status = .pending) :
    OnSlip k db db' ∧ db'.slips = db.slips := by
  simp only [fillSlip, bind_eq_ok] at done
  obtain ⟨db₁, created, added⟩ := done
  refine inTurn_keeps (I := fun d => OnSlip k db d ∧ d.slips = db.slips) ?_ added
    (of_createItems created)
  rintro d adj d' mem done ⟨before, slips⟩
  simp only [addAdjustment, createItem, bind_eq_ok] at done
  obtain ⟨d₁, ⟨amount, -, written⟩, linked⟩ := done
  have item := before.trans (of_createItem written)
  refine ⟨item.trans (of_linkAdjustment linked ?_), ?_⟩
  · -- The row with this key is the pending one that was read.
    intro a' mem' id
    obtain ⟨a, memA, sameId, -, status, -⟩ := item.adjustments a' mem'
    obtain ⟨memAdj, isPending⟩ := all adj mem
    have : a = adj := db.adjustments.eq_of_key_eq memA memAdj (sameId.symm.trans id)
    rw [status, this, isPending]
  · exact (Db.write_slips linked).trans ((Db.write_slips written).trans slips)

end OnSlip

/-! ### Slips written anew -/

/-- Work on slip `k` that leaves it a draft. -/
structure Redrafts (k : Id) (db db' : Db) : Prop extends OnSlip k db db' where
  draft : ∃ s, db'.slips.find? k = some s ∧ s.status = .draft

theorem Db.slipOf_spec {db : Db} {tenantId : Id} {userId : UserId} {year month : ℕ}
    {s : PayrollSlip} (found : db.slipOf tenantId userId year month = some s) :
    db.slips.find? s.id = some s ∧ s.tenantId = tenantId ∧ s.userId = userId ∧ s.year = year ∧
      s.month = month :=
  ⟨db.slips.find?_key (List.mem_of_find?_eq_some found),
    by simpa [Db.slipOf] using List.find?_some found⟩

variable {db db' : Db}

theorem redrafts_of_created {row : PayrollSlip} {k : Id} {db₁ : Db}
    (created : db.write (.createSlip row) = .ok db₁) (id : row.id = k)
    (status : row.status = .draft) (rest : OnSlip k db₁ db' ∧ db'.slips = db₁.slips) :
    Redrafts k db db' := by
  obtain rfl := id
  refine ⟨(OnSlip.of_createSlip created).trans rest.1, row, ?_, status⟩
  rw [rest.2, Table.find?_insert (Db.write_slips created)]
  exact if_pos rfl

/-- One contract: its slip is issued and nothing happens, or its slip is written anew. -/
def CalculatesSlip (tenantId : Id) (userId : UserId) (year month : ℕ) (db db' : Db) : Prop :=
  ∃ k, Redrafts k db db' ∧ ∀ s, db.slips.find? k = some s →
    s.status.isIssued = false ∧ db.slipOf tenantId userId year month = some s

theorem calculateContract_spec {range : MonthRange} {staff : Staff} {tenantId : Id}
    {year month : ℕ} {acc acc' : Db × List Id} {contract : TeacherContract}
    (done : calculateContract range staff tenantId year month acc contract = .ok acc') :
    acc'.1 = acc.1 ∨ CalculatesSlip tenantId contract.teacher.id year month acc.1 acc'.1 := by
  obtain ⟨db, ids⟩ := acc
  have pending : ∀ adj ∈ pendingAdjustments db tenantId contract.teacher.id,
      adj ∈ db.adjustments.rows ∧ adj.status = .pending := by
    intro adj mem
    simp only [pendingAdjustments, List.mem_filter, decide_eq_true_eq] at mem
    exact ⟨mem.1, mem.2.2.2⟩
  unfold calculateContract at done
  cases slip : db.slipOf tenantId contract.teacher.id year month with
  | none =>
    simp only [slip, do_eq_ok] at done
    obtain ⟨columns, -, db₁, created, db₂, filled, rfl⟩ := done
    refine Or.inr ⟨db.slips.fresh, redrafts_of_created created rfl rfl ?_, ?_⟩
    · refine OnSlip.of_fillSlip filled fun adj mem => ?_
      rw [show db₁.adjustments = db.adjustments from Db.write_adjustments created]
      exact pending adj mem
    · intro s found
      rw [find?_fresh] at found
      cases found
  | some existing =>
    simp only [slip] at done
    split at done
    · cases done
      exact Or.inl rfl
    · rename_i open'
      simp only [do_eq_ok] at done
      obtain ⟨columns, -, db₁, updated, db₂, deleted, db₃, filled, rfl⟩ := done
      obtain ⟨found, -⟩ := Db.slipOf_spec slip
      obtain ⟨fill, slips⟩ := OnSlip.of_fillSlip filled fun adj mem => by
        rw [show db₂.adjustments = db₁.adjustments from Db.write_adjustments deleted,
          show db₁.adjustments = db.adjustments from Db.write_adjustments updated]
        exact pending adj mem
      refine Or.inr ⟨existing.id, ⟨?_, ?_⟩, fun s same => ?_⟩
      · exact (OnSlip.of_updateSlip updated).trans ((OnSlip.of_deleteItems deleted).trans fill)
      · have redrafted := find?_update_self (Db.write_slips updated) found
        refine ⟨_, (?_ : db₃.slips.find? existing.id = _).trans redrafted, rfl⟩
        rw [slips, show db₂.slips = db₁.slips from Db.write_slips deleted]
      · rw [found] at same
        cases same
        exact ⟨by simpa using open', slip⟩

/-- A monthly calculation works on the slips of the teachers in force, one after the other. -/
theorem calculateMonthlyPayroll_steps {jalaali : Jalaali} {staff : Staff} {tenantId : Id}
    {dto : CalculateMonthlyPayrollDto} {answer : CalculationReply}
    (done : calculateMonthlyPayroll jalaali staff db tenantId dto = .ok (db', answer)) :
    ∃ range, monthRange jalaali dto.year dto.month = .ok range ∧
      Relation.ReflTransGen (fun d d' => ∃ contract ∈ contractsInForce staff tenantId range,
        CalculatesSlip tenantId contract.teacher.id dto.year dto.month d d') db db' := by
  simp only [calculateMonthlyPayroll, do_eq_ok, exists_const] at done
  obtain ⟨range, inMonth, -, ⟨dbₙ, ids⟩, steps, ⟨⟩⟩ := done
  refine ⟨range, inMonth, ?_⟩
  refine inTurn_keeps (I := fun acc : Db × List Id => Relation.ReflTransGen _ db acc.1) ?_ steps
    Relation.ReflTransGen.refl
  intro acc contract acc' mem step before
  rcases calculateContract_spec step with same | calculates
  · rw [same]
    exact before
  · exact before.tail ⟨contract, mem, calculates⟩

theorem generateSlipForUser_spec {staff : Staff} {tenantId k : Id} {dto : GeneratePayrollSlipDto}
    (done : generateSlipForUser staff db tenantId dto = .ok (db', k)) :
    Redrafts k db db' ∧ ∀ s, db.slips.find? k = some s →
      db.slipOf tenantId dto.userId dto.year dto.month = some s := by
  simp only [generateSlipForUser, bind_eq_ok] at done
  obtain ⟨profile, -, columns, -, done⟩ := done
  cases slip : db.slipOf tenantId dto.userId dto.year dto.month with
  | none =>
    simp only [slip, do_eq_ok] at done
    obtain ⟨db₁, created, db₂, filled, ⟨⟩⟩ := done
    refine ⟨redrafts_of_created created rfl rfl (OnSlip.of_createItems filled), ?_⟩
    intro s found
    change db.slips.find? db.slips.fresh = some s at found
    rw [find?_fresh] at found
    cases found
  | some existing =>
    simp only [slip, do_eq_ok, Prod.mk.injEq] at done
    obtain ⟨db₁, deleted, db₂, updated, db₃, filled, rfl, rfl⟩ := done
    obtain ⟨found, -⟩ := Db.slipOf_spec slip
    obtain ⟨fill, slips⟩ := OnSlip.of_createItems filled
    have found₁ : db₁.slips.find? existing.id = some existing := by
      rw [show db₁.slips = db.slips from Db.write_slips deleted]
      exact found
    have redrafted := find?_update_self (Db.write_slips updated) found₁
    refine ⟨⟨?_, _, (?_ : db₃.slips.find? existing.id = _).trans redrafted, rfl⟩, ?_⟩
    · exact (OnSlip.of_deleteItems deleted).trans ((OnSlip.of_updateSlip updated).trans fill)
    · rw [slips]
    · intro s same
      rw [found] at same
      exact same

/-! ### Slips that only change their columns -/

/-- The columns of slip `k` change from `s` to `s'`; every item and adjustment stays. -/
structure Rewrites (k : Id) (s s' : PayrollSlip) (db db' : Db) : Prop extends
    OnSlip k db db' where
  before : db.slips.find? k = some s
  after : db'.slips.find? k = some s'
  sameItems : db'.items = db.items

theorem rewrites_of_updateSlip {k : Id} {data : SlipUpdate} {s : PayrollSlip}
    (done : db.write (.updateSlip k data) = .ok db') (found : db.slips.find? k = some s) :
    Rewrites k s (data.set s) db db' where
  toOnSlip := OnSlip.of_updateSlip done
  before := found
  after := find?_update_self (Db.write_slips done) found
  sameItems := Db.write_items done

theorem slipById_spec {tenantId slipId : Id} {s : PayrollSlip}
    (found : slipById db tenantId slipId = some s) :
    db.slips.find? slipId = some s ∧ s.tenantId = tenantId := by
  simpa [slipById, Option.filter_eq_some_iff] using found

variable {tenantId slipId : Id} {adminUser : AdminUser} {now : Instant}

theorem reviewAndEditSlip_spec {dto : ReviewPayrollSlipDto}
    (done : reviewAndEditSlip db tenantId slipId dto adminUser now = .ok (db', ())) :
    ∃ s s', Rewrites slipId s s' db db' ∧ s.status.isIssued = false ∧ s.status ≠ .cancelled ∧
      s'.status = .reviewed := by
  simp only [reviewAndEditSlip, do_eq_ok, Prod.mk.injEq, exists_const, and_true] at done
  obtain ⟨s, found, notIssued, notCancelled, finalAmount, -, db₁, updated, rfl⟩ := done
  exact ⟨s, _, rewrites_of_updateSlip updated (slipById_spec found).1, by simpa using notIssued,
    notCancelled, rfl⟩

/-- A cancellation finds its slip neither settled nor paid, and issued only for who may. -/
theorem cancelSlip_spec {dto : CancelPayrollSlipDto}
    (done : cancelSlip db tenantId slipId dto adminUser now = .ok (db', ())) :
    ∃ s, Rewrites slipId s ((cancelled dto adminUser now).set s) db db' ∧
      slipById db tenantId slipId = some s ∧ s.status ≠ .settled ∧ s.status ≠ .paid := by
  simp only [cancelSlip, do_eq_ok, Prod.mk.injEq, exists_const, and_true] at done
  obtain ⟨s, found, ⟨notSettled, notPaid⟩, -, db₁, updated, rfl⟩ := done
  exact ⟨s, rewrites_of_updateSlip updated (slipById_spec found).1, found, notSettled, notPaid⟩

/-- A payment finds a slip of any status. -/
theorem approveAndDisburse_spec {approverUserId : UserId} {dto : ApproveAndPaySlipDto}
    (done : approveAndDisburse db tenantId slipId approverUserId dto now = .ok (db', ())) :
    ∃ s, Rewrites slipId s ((disbursed approverUserId dto now).set s) db db' ∧
      slipById db tenantId slipId = some s := by
  simp only [approveAndDisburse, do_eq_ok, Prod.mk.injEq, and_true] at done
  obtain ⟨s, found, db₁, updated, rfl⟩ := done
  exact ⟨s, rewrites_of_updateSlip updated (slipById_spec found).1, found⟩

/-- A finalization issues the drafts and reviewed slips of the month and pays what is linked to
them. -/
theorem finalizeMonthlySlips_spec {dto : FinalizeMonthlyPayrollDto} {answer : FinalizeReply}
    {ids : List Id} (isIds : (activeSlips db tenantId dto.year dto.month).map (·.id) = ids)
    (done : finalizeMonthlySlips db tenantId dto now = .ok (db', answer)) :
    db'.items = db.items ∧ (∀ k, db'.slips.find? k =
        (db.slips.find? k).map fun s => if s.id ∈ ids then s.issue else s) ∧
      (∀ k ∈ ids, ∃ s, db.slips.find? k = some s ∧ s.status.isIssued = false ∧
        s.status ≠ .cancelled) ∧
      db'.adjustments.rows = db.adjustments.rows.map fun a =>
        if a.due ids then a.apply now else a := by
  simp only [finalizeMonthlySlips, isIds, do_eq_ok, exists_const] at done
  obtain ⟨-, db₁, issued, db₂, applied, ⟨⟩⟩ := done
  have slips := (Db.write_slips applied).trans (Db.write_slips issued)
  refine ⟨(Db.write_items applied).trans (Db.write_items issued), fun k => ?_, fun k mem => ?_, ?_⟩
  · simp only [slips, Table.find?_updateMany, decide_eq_true_eq]
  · rw [← isIds] at mem
    obtain ⟨s, active, rfl⟩ := List.mem_map.mp mem
    simp only [activeSlips, List.mem_filter, decide_eq_true_eq] at active
    refine ⟨s, db.slips.find?_key active.1, ?_⟩
    rcases active.2.2.2.2 with status | status <;> simp [status, PayrollStatus.isIssued]
  · rw [← show db₁.adjustments = db.adjustments from Db.write_adjustments issued,
      show db'.adjustments = _ from Db.write_adjustments applied]
    rfl

end Rokad.Payroll
