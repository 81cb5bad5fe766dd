import Rokad.Payroll.Balance
import Rokad.Payroll.Immutable

/-!
# Slips and their items

A draft says what its items come to along every run that loses nothing (`totals_match`): at each
calculation the adjustments of a teacher add up without rounding, and the amounts of a request are
whole. The request for a slip admits fractions of a toman, which are rounded in each item and again
in the total (`not_totals_match`).
-/

namespace Rokad.Payroll

open Rokad.Base Rokad.Common

/-- Every draft says what its items come to. -/
def Db.Balanced (db : Db) : Prop :=
  ∀ k s, db.slips.find? k = some s → s.status = .draft → (s.sheet (db.linesOf k)).Balanced

/-- What the requests for contracts and for profiles demand of their amounts. -/
structure Staff.Valid (staff : Staff) : Prop where
  priced : ∀ c ∈ staff.contracts, c.Priced
  salaries : ∀ p ∈ staff.profiles, 0 ≤ p.baseMonthlySalary.tomans

/-- The amounts of the adjustments of a teacher that are pending. -/
def pendingAmounts (db : Db) (tenantId : Id) (teacherId : UserId) : List ℚ :=
  (pendingAdjustments db tenantId teacherId).map fun adj => (adj.amount.tomans : ℚ)

/-- The adjustments of each teacher add up without rounding, and the amounts of a request are
whole. -/
def Lossless (jalaali : Jalaali) (db : Db) (r : Request) : Prop :=
  match r.call with
  | .calculateMonthlyPayroll dto =>
    match monthRange jalaali dto.year dto.month with
    | .ok range => ∀ c ∈ contractsInForce r.staff r.tenantId range,
        AddsExactly (pendingAmounts db r.tenantId c.teacher.id)
    | .error _ => True
  | .generateSlipForUser dto => ∀ items ∈ dto.customItems, ∀ item ∈ items, item.amount.den = 1
  | _ => True

instance (jalaali : Jalaali) (db : Db) : (r : Request) → Decidable (Lossless jalaali db r)
  | ⟨_, _, _, .calculateMonthlyPayroll _⟩ => by
    dsimp only [Lossless]
    split <;> infer_instance
  | ⟨_, _, _, .generateSlipForUser _⟩ =>
    inferInstanceAs (Decidable (∀ items ∈ (_ : Option (List CreatePayrollItemDto)), _))
  | ⟨_, _, _, .createAdjustment ..⟩ | ⟨_, _, _, .reviewAndEditSlip ..⟩ | ⟨_, _, _, .cancelSlip ..⟩
  | ⟨_, _, _, .finalizeMonthlySlips _⟩ | ⟨_, _, _, .approveAndDisburse ..⟩ => isTrue trivial

/-! ### The book -/

/-- Every draft of the book says what its items come to. -/
def Book.Balanced (book : Book) : Prop :=
  ∀ key sheet, book.sheet key = some sheet → sheet.status = .draft → sheet.Balanced

section

variable {db : Db} {book book' : Book} {staff : Staff} {tenantId : Id}

theorem Db.balanced_iff : db.Balanced ↔ db.book.Balanced := by
  constructor
  · intro balanced key sheet found draft
    obtain ⟨s, slip, rfl⟩ := Option.map_eq_some_iff.mp found
    exact balanced s.id s (Db.slipAt_eq_some_iff.mp slip).1 draft
  · intro balanced k s found draft
    have id : s.id = k := key_of_find? found
    subst id
    have slip : db.slipAt s.slipKey = some s := Db.slipAt_eq_some_iff.mpr ⟨found, rfl⟩
    exact balanced s.slipKey _ (congrArg (Option.map _) slip) draft

theorem Book.Balanced.put {key : SlipKey} {number : String} {sheet : Sheet}
    (balanced : book.Balanced) (new : sheet.Balanced)
    (put : book.put key number sheet = some book') : book'.Balanced := by
  unfold Book.put at put
  split_ifs at put
  obtain rfl := Option.some.inj put
  intro key' sheet' found draft
  change Function.update book.sheet key (some sheet) key' = some sheet' at found
  by_cases same : key' = key
  · subst same
    rw [Function.update_self, Option.some.injEq] at found
    exact found ▸ new
  · rw [Function.update_of_ne same] at found
    exact balanced key' sheet' found draft

theorem Book.Balanced.postContract {range : MonthRange} {year month : ℕ}
    {pending : Id → UserId → List PayrollAdjustment} {c : TeacherContract} (priced : c.Priced)
    (adds : AddsExactly ((pending tenantId c.teacher.id).map fun adj => (adj.amount.tomans : ℚ)))
    (balanced : book.Balanced)
    (posted : postContract range staff tenantId year month pending book c = some book') :
    book'.Balanced := by
  unfold Payroll.postContract at posted
  dsimp only at posted
  split_ifs at posted with issued
  · rw [← Option.some.inj posted]
    exact balanced
  · obtain ⟨sheet, written, put⟩ := Option.bind_eq_some_iff.mp posted
    exact balanced.put ((tells_of_calculatedSheet priced written).balanced priced adds) put

theorem Book.Balanced.foldlM {α : Type} {post : Book → α → Option Book} {as : List α}
    (each : ∀ a ∈ as, ∀ book book', Book.Balanced book → post book a = some book' → book'.Balanced)
    (balanced : book.Balanced) (posted : as.foldlM post book = some book') : book'.Balanced := by
  induction as generalizing book with
  | nil =>
    cases posted
    exact balanced
  | cons a as ih =>
    obtain ⟨next, first, rest⟩ := Option.bind_eq_some_iff.mp posted
    exact ih (fun a mem => each a (List.mem_cons_of_mem _ mem))
      (each a List.mem_cons_self book next balanced first) rest

theorem Book.Balanced.postGenerated {dto : GeneratePayrollSlipDto} (valid : staff.Valid)
    (whole : ∀ items ∈ dto.customItems, ∀ item ∈ items, item.amount.den = 1)
    (balanced : book.Balanced) (posted : postGenerated staff tenantId dto book = some book') :
    book'.Balanced := by
  obtain ⟨profile, found, posted⟩ := Option.bind_eq_some_iff.mp posted
  obtain ⟨sheet, written, put⟩ := Option.bind_eq_some_iff.mp posted
  have nonneg := valid.salaries profile (List.mem_of_find?_eq_some found)
  exact balanced.put (balanced_of_generatedSheet written nonneg whole) put

end

/-! ### The calls -/

section

variable {db db' : Db} {tenantId : Id}

/-- Where each draft is one of before, with its items, nothing comes out of balance. -/
theorem Db.Balanced.of_drafts (balanced : db.Balanced)
    (drafts : ∀ k s, db'.slips.find? k = some s → s.status = .draft →
      db.slips.find? k = some s ∧ db'.itemsOf k = db.itemsOf k) : db'.Balanced := by
  intro k s found draft
  obtain ⟨before, items⟩ := drafts k s found draft
  rw [Db.linesOf, items]
  exact balanced k s before draft

theorem Db.Balanced.of_rewrites {k : Id} {s s' : PayrollSlip} (balanced : db.Balanced)
    (rewrites : Rewrites k s s' db db') (status : s'.status ≠ .draft) : db'.Balanced := by
  refine balanced.of_drafts fun j row found draft =>
    ⟨?_, OnSlip.itemsOf_congr rewrites.sameItems j⟩
  by_cases own : j = k
  · subst own
    rw [rewrites.after, Option.some.injEq] at found
    exact absurd (found ▸ draft) status
  · exact (rewrites.slips j own).symm.trans found

theorem Db.Balanced.calculate {jalaali : Jalaali} {staff : Staff} {dto : CalculateMonthlyPayrollDto}
    {reply : CalculationReply} (valid : staff.Valid)
    (lossless : ∀ range, monthRange jalaali dto.year dto.month = .ok range →
      ∀ c ∈ contractsInForce staff tenantId range,
        AddsExactly (pendingAmounts db tenantId c.teacher.id))
    (balanced : db.Balanced)
    (done : calculateMonthlyPayroll jalaali staff db tenantId dto = .ok (db', reply)) :
    db'.Balanced := by
  obtain ⟨range, inMonth, inForce⟩ := inForce_of_done done
  obtain ⟨book, ran, same, -⟩ := (mirrors_calculateMonthlyPayroll inMonth inForce).of_ok done
  rw [Db.balanced_iff] at balanced ⊢
  rw [same]
  refine balanced.foldlM (fun c mem book book' balanced posted => ?_) ran
  have priced := valid.priced c (List.mem_of_mem_filter mem)
  refine balanced.postContract priced ?_ posted
  rw [Db.pending, List.map_map]
  exact lossless range inMonth c mem

theorem Db.Balanced.generate {staff : Staff} {dto : GeneratePayrollSlipDto} {k : Id}
    (valid : staff.Valid) (whole : ∀ items ∈ dto.customItems, ∀ item ∈ items, item.amount.den = 1)
    (balanced : db.Balanced)
    (done : generateSlipForUser staff db tenantId dto = .ok (db', k)) : db'.Balanced := by
  obtain ⟨book, posted, same, -⟩ := (mirrors_generateSlipForUser staff dto).of_ok done
  rw [Db.balanced_iff] at balanced ⊢
  rw [same]
  exact balanced.postGenerated valid whole posted

theorem Db.Balanced.finalize {dto : FinalizeMonthlyPayrollDto} {now : Instant}
    {answer : FinalizeReply} (balanced : db.Balanced)
    (done : finalizeMonthlySlips db tenantId dto now = .ok (db', answer)) : db'.Balanced := by
  obtain ⟨items, slipAfter, -⟩ := finalizeMonthlySlips_spec rfl done
  refine balanced.of_drafts fun k s found draft => ⟨?_, OnSlip.itemsOf_congr items k⟩
  rw [slipAfter] at found
  obtain ⟨row, before, rfl⟩ := Option.map_eq_some_iff.mp found
  split_ifs at draft with active
  · cases draft
  · rw [if_neg active]
    exact before

/-- One call. -/
theorem Db.Balanced.exec {jalaali : Jalaali} {r : Request} (valid : r.staff.Valid)
    (lossless : OnReturn (Lossless jalaali) jalaali db r) (balanced : db.Balanced) :
    (exec jalaali db r).Balanced := by
  unfold Payroll.exec
  unfold OnReturn at lossless
  cases replied : reply jalaali db r with
  | error e => exact balanced
  | ok db' =>
    simp only [replied] at lossless ⊢
    obtain ⟨tenantId, now, staff, call⟩ := r
    cases call <;> simp only [reply, map_eq_ok, Prod.exists] at replied <;>
      obtain ⟨after, answer, replied, rfl⟩ := replied
    case createAdjustment createdById dto =>
        simp only [createAdjustment, do_eq_ok] at replied
        obtain ⟨_, -, amount, -, db₁, created, ⟨⟩⟩ := replied
        refine balanced.of_drafts fun k s found _ => ⟨?_, ?_⟩
        · rw [← show after.slips = db.slips from Db.write_slips created]
          exact found
        · exact OnSlip.itemsOf_congr (Db.write_items created) k
    case calculateMonthlyPayroll dto =>
        refine balanced.calculate valid (fun range inMonth => ?_) replied
        simp only [Lossless, inMonth] at lossless
        exact lossless
    case generateSlipForUser dto => exact balanced.generate valid lossless replied
    case reviewAndEditSlip slipId dto adminUser =>
        obtain ⟨s, s', rewrites, -, -, status⟩ := reviewAndEditSlip_spec replied
        exact balanced.of_rewrites rewrites (by simp [status])
    case cancelSlip slipId dto adminUser =>
        obtain ⟨s, rewrites, -⟩ := cancelSlip_spec replied
        exact balanced.of_rewrites rewrites (by simp [cancelled])
    case finalizeMonthlySlips dto => exact balanced.finalize replied
    case approveAndDisburse slipId approverUserId dto =>
        obtain ⟨s, rewrites, -⟩ := approveAndDisburse_spec replied
        exact balanced.of_rewrites rewrites (by simp [disbursed])

end

/-! ### Runs -/

/-- **Slips match their items.** While nothing is lost to rounding, each draft of each state says
what its items come to. -/
theorem totals_match (jalaali : Jalaali) {db : Db} (balanced : db.Balanced) {rs : List Request}
    (valid : ∀ r ∈ rs, r.staff.Valid)
    (lossless : Along (exec jalaali) (OnReturn (Lossless jalaali) jalaali) db rs) :
    ∀ before, before <+: rs → (run (exec jalaali) db before).Balanced := by
  rw [forall_run_iff]
  refine ⟨balanced, along_of_step (I := Db.Balanced) (fun d r meets balanced => ?_) balanced
    ((along_of_forall valid).and lossless)⟩
  have after := balanced.exec meets.1 meets.2
  exact ⟨after, after⟩

namespace School

theorem valid : staff.Valid where
  priced := by
    intro c mem
    rw [List.mem_singleton.mp mem]
    exact ⟨by decide, fun b salary => by cases salary⟩
  salaries := by
    intro p mem
    rw [List.mem_singleton.mp mem]
    decide

/-- A slip of these amounts. -/
def generateOf (amounts : List ℚ) : Request :=
  generated 7 (some (amounts.map fun amount => { type := .bonus, title := "+", amount }))

end School

theorem balanced_empty : Db.empty.Balanced := by
  intro k s found
  cases found

/-- A slip of whole amounts, calculated again with an adjustment, and another from the profile. -/
theorem totals_match_school : (run (exec School.jalaali) Db.empty
    [School.generateOf [700000, -200000], School.adjust, School.calculate 7,
      School.generate 8]).Balanced := by
  refine totals_match School.jalaali balanced_empty (fun r mem => ?_) (by decide +kernel) _
    (List.prefix_refl _)
  simp only [List.mem_cons, List.not_mem_nil, or_false] at mem
  rcases mem with rfl | rfl | rfl | rfl <;> exact School.valid

/-- Two halves of a toman are two tomans among the items and one in all. -/
theorem not_totals_match : ¬ ∀ (jalaali : Jalaali) (rs : List Request),
    (∀ r ∈ rs, r.staff.Valid) → (run (exec jalaali) Db.empty rs).Balanced := by
  intro claim
  have balanced := claim School.jalaali [School.generateOf [1 / 2, 1 / 2]] (by
    intro r mem
    rw [List.mem_singleton.mp mem]
    exact School.valid)
  have found : ∃ s ∈ (run (exec School.jalaali) Db.empty
      [School.generateOf [1 / 2, 1 / 2]]).slips.find? 1, s.status = .draft ∧
        s.finalAmount.tomans = 1 := by
    decide +kernel
  have items : total ((run (exec School.jalaali) Db.empty
      [School.generateOf [1 / 2, 1 / 2]]).linesOf 1) = 2 := by
    decide +kernel
  obtain ⟨s, found, draft, one⟩ := found
  have final := (balanced 1 s found draft).final
  change s.finalAmount.tomans = max 0 (total (Db.linesOf _ 1)) at final
  rw [one, items] at final
  exact absurd final (by decide)

end Rokad.Payroll
