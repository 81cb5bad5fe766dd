import Rokad.Finance.Admission

/-!
# The allocation import creates what its preview accepted

`importRow_spec` and `allocate_spec` say what one row of the confirmation does, and
`allocate_exists` when it goes through. `allocatable_cons` moves the condition on the rows past the
first; with it the two directions of `createsAll_iff` are one induction on the rows each.
-/

namespace Rokad.Finance

open Rokad.Base

variable {db db' : Db} {plans : Table FeePlan} {t : Id}

namespace confirmAllocationImport

/-! ### Installments of a new contract -/

section

variable {env : Env} {contractId : Id} {finalAmt : ℚ} {count : ℕ}

/-- The numbers a contract's installments have taken. -/
def numbers (db : Db) (contractId : Id) : List ℤ :=
  (db.installments.rows.filter (·.contractId = contractId)).map (·.installmentNumber)

theorem notMem_numbers {n : ℤ} : n ∉ numbers db contractId ↔
    ∀ i ∈ db.installments.rows, i.contractId = contractId → i.installmentNumber ≠ n := by
  simp only [numbers, List.mem_map, List.mem_filter, decide_eq_true_eq, not_exists, not_and,
    and_imp]

theorem numbers_createInstallment {row : FeeInstallment}
    (done : db.write (.createInstallment row) = .ok db') (own : row.contractId = contractId) :
    numbers db' contractId = numbers db contractId ++ [row.installmentNumber] := by
  have inserted := Db.write_installments done
  simp only at inserted
  simp [numbers, (insert_spec.mp inserted).1, own]

/-- What the services leave alone while they fill a contract. -/
structure SameContracts (db db' : Db) : Prop where
  students : db'.students = db.students
  contracts : db'.contracts = db.contracts

theorem SameContracts.createInstallment {row : FeeInstallment}
    (done : db.write (.createInstallment row) = .ok db') : SameContracts db db' where
  students := Db.write_students done
  contracts := Db.write_contracts done

theorem planInstallment_spec {item : FeePlanInstallmentConfigItemDto}
    (done : planInstallment env t contractId finalAmt count db item = .ok db') :
    SameContracts db db' ∧
      numbers db' contractId = numbers db contractId ++ [installmentNumber item] := by
  simp only [planInstallment, do_eq_ok, exists_const] at done
  obtain ⟨amount, -, -, written⟩ := done
  exact ⟨.createInstallment written, numbers_createInstallment written rfl⟩

/-- The columns take an installment of the plan. -/
def ItemFits (finalAmt : ℚ) (count : ℕ) (item : FeePlanInstallmentConfigItemDto) : Prop :=
  (installmentAmount finalAmt count item).isSome ∧ FitsInt (installmentNumber item)
deriving Decidable

theorem planInstallment_iff {item : FeePlanInstallmentConfigItemDto}
    (contract : db.contracts.has (some contractId) = true) :
    (∃ db', planInstallment env t contractId finalAmt count db item = .ok db') ↔
      ItemFits finalAmt count item ∧ installmentNumber item ∉ numbers db contractId := by
  simp only [planInstallment, do_eq_ok, exists_const, ItemFits, Option.isSome_iff_exists,
    notMem_numbers]
  constructor
  · rintro ⟨db', amount, stored, small, written⟩
    exact ⟨⟨⟨amount, stored⟩, small⟩, (createInstallment_iff _ rfl contract).mp ⟨db', written⟩⟩
  · rintro ⟨⟨⟨amount, stored⟩, small⟩, unused⟩
    obtain ⟨db', written⟩ := (createInstallment_iff
      (installment env t contractId item db.installments.fresh amount) rfl contract).mpr unused
    exact ⟨db', amount, stored, small, written⟩

/-- The installments of a plan are created when each can be stored and no number comes twice. -/
theorem planInstallments_iff {items : List FeePlanInstallmentConfigItemDto}
    (contract : db.contracts.has (some contractId) = true) :
    (∃ db', inTurn (planInstallment env t contractId finalAmt count) db items = .ok db') ↔
      (∀ item ∈ items, ItemFits finalAmt count item) ∧ (items.map installmentNumber).Nodup ∧
        ∀ item ∈ items, installmentNumber item ∉ numbers db contractId := by
  induction items generalizing db with
  | nil => simp
  | cons item items ih =>
    simp only [inTurn_cons, bind_eq_ok, List.forall_mem_cons, List.map_cons, List.nodup_cons,
      List.mem_map, not_exists, not_and]
    constructor
    · rintro ⟨db', db₁, first, rest⟩
      obtain ⟨same, taken⟩ := planInstallment_spec first
      obtain ⟨stored, new⟩ := (planInstallment_iff contract).mp ⟨db₁, first⟩
      obtain ⟨fit, distinct, unused⟩ :=
        (ih (by rw [same.contracts]; exact contract)).mp ⟨db', rest⟩
      simp only [taken, List.mem_append, List.mem_singleton, not_or] at unused
      exact ⟨⟨stored, fit⟩, ⟨fun other mem => (unused other mem).2, distinct⟩, new,
        fun other mem => (unused other mem).1⟩
    · rintro ⟨⟨stored, fit⟩, ⟨apart, distinct⟩, new, unused⟩
      obtain ⟨db₁, first⟩ := (planInstallment_iff contract).mpr ⟨stored, new⟩
      obtain ⟨same, taken⟩ := planInstallment_spec first
      obtain ⟨db', rest⟩ := (ih (by rw [same.contracts]; exact contract)).mpr
        ⟨fit, distinct, fun other mem => by
          simp only [taken, List.mem_append, List.mem_singleton, not_or]
          exact ⟨unused other mem, apart other mem⟩⟩
      exact ⟨db', db₁, first, rest⟩

variable {feePlanId : Option Id}

/-- The plan of an import exists, and no number comes twice in it. -/
structure PlanFits (plans : Table FeePlan) (t : Id) (feePlanId : Option Id) : Prop where
  found : plans.has feePlanId = true
  numbers : ((planInstallments plans t feePlanId).map installmentNumber).Nodup

/-- Each installment of the plan can be stored. -/
def InstallmentsFit (plans : Table FeePlan) (t : Id) (feePlanId : Option Id) (finalAmt : ℚ) : Prop :=
  ∀ item ∈ planInstallments plans t feePlanId,
    ItemFits finalAmt (planInstallments plans t feePlanId).length item

theorem createInstallments_sameContracts
    (done : createInstallments env plans t feePlanId contractId finalAmt db = .ok db') :
    SameContracts db db' := by
  unfold createInstallments at done
  split at done
  · simp only [lumpSum, bind_eq_ok] at done
    obtain ⟨amount, -, written⟩ := done
    exact .createInstallment written
  · refine inTurn_keeps (I := fun d => SameContracts db d) (fun d item d' _ first same => ?_) done
      ⟨rfl, rfl⟩
    have next := (planInstallment_spec first).1
    exact ⟨next.students.trans same.students, next.contracts.trans same.contracts⟩

theorem createInstallments_iff (contract : db.contracts.has (some contractId) = true)
    (empty : numbers db contractId = []) (storable : (Money.store finalAmt).isSome) :
    (∃ db', createInstallments env plans t feePlanId contractId finalAmt db = .ok db') ↔
      InstallmentsFit plans t feePlanId finalAmt ∧
        ((planInstallments plans t feePlanId).map installmentNumber).Nodup := by
  unfold createInstallments InstallmentsFit
  split
  · rename_i none
    obtain ⟨amount, stored⟩ := Option.isSome_iff_exists.mp storable
    have unused : (1 : ℤ) ∉ numbers db contractId := by simp [empty]
    obtain ⟨db', written⟩ := (createInstallment_iff
      (lumpInstallment env t contractId db.installments.fresh amount) rfl contract).mpr
      (notMem_numbers.mp unused)
    simp only [none, List.not_mem_nil, false_implies, implies_true, List.map_nil, List.nodup_nil,
      and_self, iff_true]
    exact ⟨db', bind_eq_ok.mpr ⟨amount, column_eq_ok.mpr stored, written⟩⟩
  · rw [planInstallments_iff contract]
    simp [empty]

end

/-! ### The contract of a row -/

variable {env : Env} {dto : ConfirmFeeAllocationImportDto} {row : ImportFeeAllocationRowDto}
  {s : StudentProfile}

/-- The database can take the amounts of a row; `final` is what it keeps of the sum to pay. -/
def Storable (plans : Table FeePlan) (t : Id) (feePlanId : Option Id)
    (row : ImportFeeAllocationRowDto) (final : Money) : Prop :=
  ∃ total discount, row.amount.toDecimal = some total ∧
    (orZero row.discountAmount).toDecimal = some discount ∧ (Money.store total).isSome ∧
    (Money.store discount).isSome ∧ Money.store (Decimal.minus total discount) = some final ∧
    InstallmentsFit plans t feePlanId (Decimal.minus total discount)

theorem Storable.unique {feePlanId : Option Id} {a b : Money}
    (first : Storable plans t feePlanId row a) (second : Storable plans t feePlanId row b) :
    a = b := by
  obtain ⟨_, _, total, discount, -, -, stored, -⟩ := first
  obtain ⟨_, _, total', discount', -, -, stored', -⟩ := second
  rw [total, Option.some.injEq] at total'
  rw [discount, Option.some.injEq] at discount'
  rw [← total', ← discount', stored, Option.some.injEq] at stored'
  exact stored'

/-- A new contract has no installments yet. -/
theorem numbers_createContract {c : StudentFeeContract} (fresh : c.id = db.contracts.fresh)
    (created : db.write (.createContract c) = .ok db') :
    db'.contracts.has (some c.id) = true ∧ numbers db' c.id = [] := by
  have inserted := Db.write_contracts created
  have before := Db.write_installments created
  simp only at inserted before
  refine ⟨has_some_iff.mpr ⟨c, ?_⟩, ?_⟩
  · rw [Table.find?_insert inserted]
    exact if_pos rfl
  · rw [numbers, before, List.map_eq_nil_iff, List.filter_eq_nil_iff, fresh]
    intro i mem own
    exact contract_ne_fresh db.foreignKeys.installment_contract mem (of_decide_eq_true own)

/-- What the contract of a row is like. -/
structure Allocated (env : Env) (plans : Table FeePlan) (t : Id)
    (dto : ConfirmFeeAllocationImportDto) (row : ImportFeeAllocationRowDto) (s : StudentProfile)
    (c : StudentFeeContract) : Prop where
  tenant : c.tenantId = t
  year : c.academicYearId = dto.academicYearId
  student : c.studentId = s.id
  number : c.contractNumber = contractNumber env
  final : Storable plans t dto.feePlanId row c.finalPayableAmount

/-- One contract is added, and it is the row's. -/
theorem allocate_spec (done : allocate env plans t dto row s db = .ok db') :
    (∃ c, Allocated env plans t dto row s c ∧ db'.contracts.rows = db.contracts.rows ++ [c]) ∧
      db'.students = db.students ∧ PlanFits plans t dto.feePlanId ∧
      contractNumber env ∉ takenNumbers db t := by
  simp only [allocate, do_eq_ok, column_eq_ok, exists_const] at done
  obtain ⟨totalAmt, total, discountAmt, discount, ta, storedTotal, da, storedDiscount, fa,
    storedFinal, plan, db₁, created, filled⟩ := done
  have inserted := Db.write_contracts created
  simp only at inserted
  obtain ⟨present, empty⟩ := numbers_createContract rfl created
  have same := createInstallments_sameContracts filled
  obtain ⟨fit, distinct⟩ := (createInstallments_iff present empty
    (Option.isSome_of_mem storedFinal)).mp ⟨db', filled⟩
  refine ⟨⟨contract env t dto row s db.contracts.fresh ta da fa, ⟨rfl, rfl, rfl, rfl, totalAmt,
    discountAmt, total, discount, Option.isSome_of_mem storedTotal,
    Option.isSome_of_mem storedDiscount, storedFinal, fit⟩, ?_⟩,
    same.students.trans (Db.write_students created), ⟨plan, distinct⟩, ?_⟩
  · rw [same.contracts]
    exact (insert_spec.mp inserted).1
  · intro taken
    obtain ⟨c, mem, number⟩ := List.mem_map.mp taken
    obtain ⟨mem, tenant⟩ := List.mem_filter.mp mem
    have clear := (insert_spec.mp inserted).2.2 c mem
    simp [Record.clash, contract, of_decide_eq_true tenant, number] at clear

theorem allocate_exists {final : Money} (storable : Storable plans t dto.feePlanId row final)
    (plan : PlanFits plans t dto.feePlanId) (student : s ∈ db.students.rows)
    (number : contractNumber env ∉ takenNumbers db t)
    (new : s.id ∉ contractedStudentIds db t dto.academicYearId) :
    ∃ db', allocate env plans t dto row s db = .ok db' := by
  obtain ⟨totalAmt, discountAmt, total, discount, storedTotal, storedDiscount, storedFinal, fit⟩ :=
    storable
  obtain ⟨ta, storedTotal⟩ := Option.isSome_iff_exists.mp storedTotal
  obtain ⟨da, storedDiscount⟩ := Option.isSome_iff_exists.mp storedDiscount
  obtain ⟨db₁, created⟩ := (createContract_iff
    (contract env t dto row s db.contracts.fresh ta da final) rfl
    (has_some_iff.mpr ⟨s, db.students.find?_key student⟩)).mpr ⟨number, new⟩
  obtain ⟨present, empty⟩ := numbers_createContract rfl created
  obtain ⟨db', filled⟩ := (createInstallments_iff present empty
    (Option.isSome_of_mem storedFinal)).mpr ⟨fit, plan.numbers⟩
  refine ⟨db', ?_⟩
  simp only [allocate, do_eq_ok, column_eq_ok, exists_const]
  exact ⟨totalAmt, total, discountAmt, discount, ta, storedTotal, da, storedDiscount, final,
    storedFinal, plan.found, db₁, created, filled⟩

theorem importRow_spec {n : ℕ} (done : importRow env plans t dto row db = .ok (db', n)) :
    (n = 0 ∧ db' = db) ∨ ∃ s, confirmPaymentImport.findStudent db t row.identifier = some s ∧
      s.id ∉ contractedStudentIds db t dto.academicYearId ∧
      allocate env plans t dto row s db = .ok db' := by
  unfold importRow at done
  split at done
  · cases done
    exact Or.inl ⟨rfl, rfl⟩
  · rename_i s found
    split at done
    · cases done
      exact Or.inl ⟨rfl, rfl⟩
    · rename_i new
      simp only [do_eq_ok] at done
      obtain ⟨_, allocated, ⟨⟩⟩ := done
      exact Or.inr ⟨s, found, new, allocated⟩

theorem importRow_of_allocate (found : confirmPaymentImport.findStudent db t row.identifier = some s)
    (new : s.id ∉ contractedStudentIds db t dto.academicYearId)
    (done : allocate env plans t dto row s db = .ok db') :
    importRow env plans t dto row db = .ok (db', 1) := by
  simp only [importRow, found, if_neg new, done]
  rfl

end confirmAllocationImport

/-! ### What the confirmation should create -/

/-- The contract a previewed row stands for. -/
structure ForRow (t academicYearId : Id) (row : ValidAllocationRow) (c : StudentFeeContract) :
    Prop where
  tenant : c.tenantId = t
  year : c.academicYearId = academicYearId
  student : c.studentId = row.studentId
  final : row.finalPayable.toDecimal = some (c.finalPayableAmount : ℚ)

/-- Exactly one contract is added for each row. -/
def CreatesAll (t academicYearId : Id) (rows : List ValidAllocationRow) (db db' : Db) : Prop :=
  ∃ created, db'.contracts.rows = db.contracts.rows ++ created ∧
    List.Forall₂ (ForRow t academicYearId) rows created

open confirmAllocationImport

/-- The confirmation finds the student of the preview, and what it stores of the difference of
the amounts is their difference as the preview computes it. -/
structure Fit (plans : Table FeePlan) (t : Id) (feePlanId : Option Id) (db : Db)
    (row : ValidAllocationRow) : Prop where
  student : ∃ s, confirmPaymentImport.findStudent db t row.identifier = some s ∧
    s.id = row.studentId
  amounts : ∃ final, Storable plans t feePlanId row.toDto final ∧
    (row.amount.sub row.discountAmount).toDecimal = some (final : ℚ)

/-- The condition: every row fits, no student comes twice, and the contract numbers drawn are new
and distinct. -/
structure Allocatable (env : ℕ → Env) (plans : Table FeePlan) (t : Id) (feePlanId : Option Id)
    (i : ℕ) (rows : List ValidAllocationRow) (db : Db) : Prop where
  fit : ∀ row ∈ rows, Fit plans t feePlanId db row
  students : (rows.map (·.studentId)).Nodup
  numbers : ((List.range' i rows.length).map fun j => contractNumber (env j)).Nodup
  unused : ∀ j ∈ List.range' i rows.length, contractNumber (env j) ∉ takenNumbers db t
  plan : rows ≠ [] → PlanFits plans t feePlanId

/-! ### The rows of an import -/

section

variable {env : ℕ → Env} {dto : ConfirmFeeAllocationImportDto} {i n : ℕ} {row : ValidAllocationRow}
  {rows : List ValidAllocationRow} {c : StudentFeeContract}

/-- None of the students has a contract yet. -/
def New (t academicYearId : Id) (rows : List ValidAllocationRow) (db : Db) : Prop :=
  ∀ row ∈ rows, row.studentId ∉ contractedStudentIds db t academicYearId

/-- The condition on the rows is the condition on the first, and on the rest with its contract
in the books. -/
theorem allocatable_cons (students : db'.students = db.students)
    (added : db'.contracts.rows = db.contracts.rows ++ [c]) (tenant : c.tenantId = t)
    (year : c.academicYearId = dto.academicYearId) (student : c.studentId = row.studentId)
    (number : c.contractNumber = contractNumber (env i)) :
    (Allocatable env plans t dto.feePlanId i (row :: rows) db ∧
        New t dto.academicYearId (row :: rows) db) ↔
      (Fit plans t dto.feePlanId db row ∧ PlanFits plans t dto.feePlanId ∧
          contractNumber (env i) ∉ takenNumbers db t ∧
          row.studentId ∉ contractedStudentIds db t dto.academicYearId) ∧
        Allocatable env plans t dto.feePlanId (i + 1) rows db' ∧
          New t dto.academicYearId rows db' := by
  have taken : takenNumbers db' t = takenNumbers db t ++ [contractNumber (env i)] := by
    simp [takenNumbers, added, tenant, number]
  have contracted : contractedStudentIds db' t dto.academicYearId =
      contractedStudentIds db t dto.academicYearId ++ [row.studentId] := by
    simp [contractedStudentIds, added, tenant, year, student]
  have fit : ∀ r, Fit plans t dto.feePlanId db' r ↔ Fit plans t dto.feePlanId db r := by
    intro r
    have same : confirmPaymentImport.findStudent db' = confirmPaymentImport.findStudent db := by
      funext t identifier
      rw [confirmPaymentImport.findStudent, confirmPaymentImport.findStudent, students]
    constructor
    · rintro ⟨s, a⟩
      exact ⟨same ▸ s, a⟩
    · rintro ⟨s, a⟩
      exact ⟨same.symm ▸ s, a⟩
  constructor
  · rintro ⟨all, new⟩
    have numbers := all.numbers
    have unused := all.unused
    have distinct := all.students
    simp only [List.length_cons, List.range'_succ, List.map_cons, List.nodup_cons, List.mem_map,
      not_exists, not_and, List.forall_mem_cons] at numbers unused distinct
    refine ⟨⟨all.fit row List.mem_cons_self, all.plan (List.cons_ne_nil _ _), unused.1,
      new row List.mem_cons_self⟩,
      ⟨fun r mem => (fit r).mpr (all.fit r (List.mem_cons_of_mem _ mem)), distinct.2, numbers.2,
        fun j mem => ?_, fun _ => all.plan (List.cons_ne_nil _ _)⟩, fun r mem => ?_⟩
    · rw [taken, List.mem_append, List.mem_singleton, not_or]
      exact ⟨unused.2 j mem, numbers.1 j mem⟩
    · rw [contracted, List.mem_append, List.mem_singleton, not_or]
      exact ⟨new r (List.mem_cons_of_mem _ mem), distinct.1 r mem⟩
  · rintro ⟨⟨first, plan, unused, new⟩, rest, news⟩
    have restUnused := rest.unused
    simp only [taken, List.mem_append, List.mem_singleton, not_or] at restUnused
    simp only [New, contracted, List.mem_append, List.mem_singleton, not_or] at news
    refine ⟨⟨List.forall_mem_cons.mpr ⟨first, fun r mem => (fit r).mp (rest.fit r mem)⟩, ?_, ?_, ?_,
      fun _ => plan⟩, List.forall_mem_cons.mpr ⟨new, fun r mem => (news r mem).1⟩⟩
    · rw [List.map_cons, List.nodup_cons, List.mem_map]
      refine ⟨?_, rest.students⟩
      rintro ⟨r, mem, same⟩
      exact (news r mem).2 same
    · rw [List.length_cons, List.range'_succ, List.map_cons, List.nodup_cons, List.mem_map]
      refine ⟨?_, rest.numbers⟩
      rintro ⟨j, mem, same⟩
      exact (restUnused j mem).2 same
    · rw [List.length_cons, List.range'_succ]
      exact List.forall_mem_cons.mpr ⟨unused, fun j mem => (restUnused j mem).1⟩

/-- A row adds one contract at most. -/
theorem importRows_length {rows : List ImportFeeAllocationRowDto}
    (done : importRows env plans t dto i rows db = .ok (db', n)) :
    ∃ created, db'.contracts.rows = db.contracts.rows ++ created ∧ created.length ≤ rows.length := by
  induction rows generalizing db i n with
  | nil =>
    cases done
    exact ⟨[], (List.append_nil _).symm, le_rfl⟩
  | cons row rows ih =>
    simp only [importRows, do_eq_ok] at done
    obtain ⟨⟨db₁, _⟩, first, ⟨_, _⟩, rest, ⟨⟩⟩ := done
    obtain ⟨created, added, short⟩ := ih rest
    rcases importRow_spec first with ⟨-, rfl⟩ | ⟨s, -, -, allocated⟩
    · exact ⟨created, added, short.trans (Nat.le_succ _)⟩
    · obtain ⟨⟨c, -, one⟩, -⟩ := allocate_spec allocated
      refine ⟨c :: created, ?_, Nat.succ_le_succ short⟩
      rw [added, one, List.append_assoc, List.singleton_append]

/-- The preview computed what is to be paid from the amounts. -/
def Computed (rows : List ValidAllocationRow) : Prop :=
  ∀ row ∈ rows, row.finalPayable = row.amount.sub row.discountAmount

theorem importRows_allocatable (computed : Computed rows)
    (done : importRows env plans t dto i (rows.map (·.toDto)) db = .ok (db', n))
    (creates : CreatesAll t dto.academicYearId rows db db') :
    Allocatable env plans t dto.feePlanId i rows db ∧ New t dto.academicYearId rows db := by
  induction rows generalizing db i n with
  | nil =>
    have none {p : ValidAllocationRow → Prop} : ∀ row ∈ [], p row := List.forall_mem_nil _
    exact ⟨⟨none, List.nodup_nil, List.nodup_nil, by simp, fun h => absurd rfl h⟩, none⟩
  | cons row rows ih =>
    simp only [List.map_cons, importRows, do_eq_ok] at done
    obtain ⟨⟨db₁, _⟩, first, ⟨_, _⟩, rest, ⟨⟩⟩ := done
    obtain ⟨created, added, agree⟩ := creates
    obtain ⟨others, addedRest, short⟩ := importRows_length rest
    rcases importRow_spec first with ⟨-, rfl⟩ | ⟨s, found, new, allocated⟩
    · -- A row that is passed over leaves one contract too few.
      obtain rfl : created = others := List.append_cancel_left (added.symm.trans addedRest)
      have length := agree.length_eq
      simp only [List.length_cons, List.length_map] at length short
      omega
    · obtain ⟨⟨c, is, one⟩, students, plan, unused⟩ := allocate_spec allocated
      obtain rfl : created = c :: others := by
        refine List.append_cancel_left (added.symm.trans ?_)
        rw [addedRest, one, List.append_assoc, List.singleton_append]
      obtain ⟨forRow, agree⟩ := List.forall₂_cons.mp agree
      have same : s.id = row.studentId := is.student.symm.trans forRow.student
      refine (allocatable_cons students one is.tenant is.year forRow.student is.number).mpr
        ⟨⟨⟨⟨s, found, same⟩, _, is.final, ?_⟩, plan, unused, same ▸ new⟩,
          ih (fun r mem => computed r (List.mem_cons_of_mem _ mem)) rest
            ⟨others, addedRest, agree⟩⟩
      rw [← computed row List.mem_cons_self]
      exact forRow.final

theorem importRows_creates (computed : Computed rows)
    (all : Allocatable env plans t dto.feePlanId i rows db) (new : New t dto.academicYearId rows db) :
    ∃ db' n, importRows env plans t dto i (rows.map (·.toDto)) db = .ok (db', n) ∧
      CreatesAll t dto.academicYearId rows db db' := by
  induction rows generalizing db i with
  | nil => exact ⟨db, 0, rfl, [], (List.append_nil _).symm, .nil⟩
  | cons row rows ih =>
    obtain ⟨s, found, same⟩ := (all.fit row List.mem_cons_self).student
    obtain ⟨final, storable, prints⟩ := (all.fit row List.mem_cons_self).amounts
    have uncontracted := new row List.mem_cons_self
    rw [← same] at uncontracted
    obtain ⟨db₁, allocated⟩ := allocate_exists storable (all.plan (List.cons_ne_nil _ _))
      (List.mem_of_find?_eq_some found) (all.unused i (by simp)) uncontracted
    obtain ⟨⟨c, is, one⟩, students, -⟩ := allocate_spec allocated
    have student : c.studentId = row.studentId := is.student.trans same
    obtain ⟨-, rest, news⟩ :=
      (allocatable_cons students one is.tenant is.year student is.number).mp ⟨all, new⟩
    obtain ⟨db', n, done, others, added, agree⟩ :=
      ih (fun r mem => computed r (List.mem_cons_of_mem _ mem)) rest news
    refine ⟨db', 1 + n, ?_, c :: others, ?_, .cons ⟨is.tenant, is.year, student, ?_⟩ agree⟩
    · simp only [List.map_cons, importRows, do_eq_ok]
      exact ⟨_, importRow_of_allocate found uncontracted allocated, _, done, rfl⟩
    · rw [added, one, List.append_assoc, List.singleton_append]
    · rw [computed row List.mem_cons_self, is.final.unique storable]
      exact prints

end

/-! ### The preview and the confirmation -/

theorem previewRow_spec {academicYearId : Id} {rowIndex : ℕ} {cells : SheetRow}
    {row : ValidAllocationRow}
    (accepted : previewAllocationExcel.previewRow db t academicYearId rowIndex cells =
      some (.inr row)) :
    row.finalPayable = row.amount.sub row.discountAmount ∧
      row.studentId ∉ contractedStudentIds db t academicYearId := by
  simp only [previewAllocationExcel.previewRow] at accepted
  split at accepted
  · cases accepted
  · split at accepted
    · cases accepted
    · split at accepted
      · cases accepted
      · split_ifs at accepted with contracted
        all_goals simp only [Option.some.injEq, Sum.inr.injEq, reduceCtorEq] at accepted
        subst accepted
        refine ⟨?_, contracted⟩
        dsimp only

theorem previewAllocationExcel_spec {academicYearId : Id} {sheet : List SheetRow}
    {reply : AllocationPreview}
    (previewed : previewAllocationExcel db t academicYearId sheet = .ok reply) :
    Computed reply.validRows ∧ New t academicYearId reply.validRows db := by
  simp only [previewAllocationExcel, do_eq_ok, exists_const] at previewed
  obtain ⟨-, rfl⟩ := previewed
  have accepted : ∀ row ∈ ((numbered sheet).filterMap fun x =>
      previewAllocationExcel.previewRow db t academicYearId x.2 x.1).filterMap Sum.getRight?,
      row.finalPayable = row.amount.sub row.discountAmount ∧
        row.studentId ∉ contractedStudentIds db t academicYearId := by
    intro row mem
    obtain ⟨outcome, mem, right⟩ := List.mem_filterMap.mp mem
    obtain ⟨⟨cells, i⟩, -, done⟩ := List.mem_filterMap.mp mem
    obtain rfl := Sum.getRight?_eq_some_iff.mp right
    exact previewRow_spec done
  exact ⟨fun row mem => (accepted row mem).1, fun row mem => (accepted row mem).2⟩

/-- **The preview and the confirmation agree.** Confirming the rows of a preview on the database it
was made on creates exactly the contracts it announced if and only if each row finds its student
and its sum again, no student comes twice, and the numbers drawn are new. -/
theorem createsAll_iff (db : Db) (env : ℕ → Env) (plans : Table FeePlan) (t academicYearId : Id)
    (feePlanId : Option Id) (sheet : List SheetRow) (reply : AllocationPreview)
    (previewed : previewAllocationExcel db t academicYearId sheet = .ok reply) :
    CreatesAll t academicYearId reply.validRows db
        (committed db (confirmAllocationImport env plans t
          { academicYearId, feePlanId, rows := reply.validRows.map (·.toDto) } db)) ↔
      Allocatable env plans t feePlanId 0 reply.validRows db := by
  obtain ⟨computed, new⟩ := previewAllocationExcel_spec previewed
  generalize reply.validRows = rows at computed new ⊢
  constructor
  · intro creates
    cases outcome : confirmAllocationImport env plans t
        { academicYearId, feePlanId, rows := rows.map (·.toDto) } db with
    | ok result =>
      rw [outcome] at creates
      simp only [confirmAllocationImport, do_eq_ok, exists_const] at outcome
      obtain ⟨-, ⟨db', n⟩, done, rfl⟩ := outcome
      exact (importRows_allocatable computed done creates).1
    | error e =>
      -- Nothing is created, so nothing was announced.
      rw [outcome] at creates
      obtain ⟨created, added, agree⟩ := creates
      obtain rfl : created = [] := List.self_eq_append_right.mp added
      cases agree
      exact ⟨by simp, List.nodup_nil, List.nodup_nil, (by simp), fun h => absurd rfl h⟩
  · intro all
    cases rows with
    | nil => exact ⟨[], (List.append_nil _).symm, .nil⟩
    | cons row rest =>
      let dto : ConfirmFeeAllocationImportDto :=
        { academicYearId, feePlanId, rows := (row :: rest).map (·.toDto) }
      have imported : ∃ db' n, importRows env plans t dto 0 ((row :: rest).map (·.toDto)) db =
          .ok (db', n) ∧ CreatesAll t academicYearId (row :: rest) db db' :=
        importRows_creates computed all new
      obtain ⟨db', n, done, creates⟩ := imported
      have confirmed : ∃ answer, confirmAllocationImport env plans t dto db =
          .ok (db', answer) := by
        simp only [confirmAllocationImport, do_eq_ok, exists_const]
        exact ⟨_, List.cons_ne_nil _ _, (db', n), done, rfl⟩
      obtain ⟨answer, confirmed⟩ := confirmed
      rw [confirmed]
      exact creates

theorem CreatesAll.length {academicYearId : Id} {rows : List ValidAllocationRow}
    (creates : CreatesAll t academicYearId rows db db') :
    db'.contracts.rows.length = db.contracts.rows.length + rows.length := by
  obtain ⟨created, added, agree⟩ := creates
  rw [added, List.length_append, agree.length_eq]

namespace School

/-- A fee of 36 000 000 for the student. -/
def feeRow : SheetRow := [.text "0012345678", .text "36,000,000"]

def feeHeader : SheetRow := [.text "کد ملی دانش‌آموز", .text "مبلغ شهریه (تومان)"]

def previewedFee : ValidAllocationRow where
  rowIndex := 2
  identifier := "0012345678"
  studentId := 1
  studentName := "Sara Ahmadi"
  amount := .finite 36000000
  discountAmount := .finite 0
  finalPayable := .finite 36000000
  notes := none

end School

/-- The second of two rows for one student is accepted and then dropped. -/
theorem not_createsAll : ∃ reply, previewAllocationExcel School.db 1 1
        [School.feeHeader, School.feeRow, School.feeRow] = .ok reply ∧
      ¬ CreatesAll 1 1 reply.validRows School.db
        (committed School.db (confirmAllocationImport (School.draws 3) .empty 1
          { academicYearId := 1, rows := reply.validRows.map (·.toDto) } School.db)) := by
  have counts : Returns (previewAllocationExcel School.db 1 1
      [School.feeHeader, School.feeRow, School.feeRow]) fun reply =>
        reply.validRows.length = 2 ∧
          (committed School.db (confirmAllocationImport (School.draws 3) .empty 1
            { academicYearId := 1, rows := reply.validRows.map (·.toDto) }
              School.db)).contracts.rows.length = 1 := by
    decide +kernel
  obtain ⟨reply, previewed, accepted, created⟩ := counts.exists
  refine ⟨reply, previewed, fun creates => ?_⟩
  have length := creates.length
  rw [accepted, created] at length
  simp [School.db, Table.empty] at length

/-- One row, created as it was announced. -/
theorem createsAll_once :
    ∃ reply, previewAllocationExcel School.db 1 1 [School.feeHeader, School.feeRow] = .ok reply ∧
      reply.validRows = [School.previewedFee] ∧
      CreatesAll 1 1 reply.validRows School.db
        (committed School.db (confirmAllocationImport (School.draws 3) .empty 1
          { academicYearId := 1, rows := reply.validRows.map (·.toDto) } School.db)) := by
  have accepted : Returns (previewAllocationExcel School.db 1 1
      [School.feeHeader, School.feeRow]) fun reply => reply.validRows = [School.previewedFee] := by
    decide +kernel
  obtain ⟨reply, previewed, rows⟩ := accepted.exists
  refine ⟨reply, previewed, rows, (createsAll_iff School.db (School.draws 3) .empty 1 1 none _
    reply previewed).mpr ?_⟩
  rw [rows]
  refine ⟨?_, List.nodup_singleton _, List.nodup_singleton _, ?_, fun _ => ⟨rfl, List.nodup_nil⟩⟩
  · intro row mem
    obtain rfl := List.mem_singleton.mp mem
    refine ⟨⟨School.student, by decide, rfl⟩, ⟨3600000000, by decide⟩, ⟨36000000, 0, ?_⟩, ?_⟩
    · exact ⟨by decide +kernel, by decide +kernel, by decide +kernel, by decide +kernel,
        by decide +kernel, nofun⟩
    · decide +kernel
  · intro j _ taken
    cases taken

end Rokad.Finance
