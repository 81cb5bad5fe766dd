import Rokad.Finance.Schedules

/-!
# Group allocation

`applyFeePlan` writes the contracts of all students of a plan in one transaction. It goes through if
the numbers drawn for the contracts are distinct and new to the school, and the columns take the
installments of the plan; then every student of the scope has one contract in the year of the plan,
and nothing is left for a second time (`allocates_all_iff`).
-/

namespace Rokad.Finance

open Rokad.Base
open previewFeePlanAllocation (eligibleStudents readyStudents)

namespace applyFeePlan

variable {db db' : Db} {t : Id} {plan : FeePlanDetails}

/-! ### One contract -/

section

variable {env : Env} {studentId contractId : Id}

/-- The columns take the installments of the plan, and no number comes twice. -/
def PlanFits (plan : FeePlanDetails) : Prop :=
  let items := plan.installmentConfig.getD []
  (items.map confirmAllocationImport.installmentNumber).Nodup ∧
    ∀ item ∈ items, confirmAllocationImport.ItemFits plan.amount items.length item
deriving Decidable

/-- A share of an amount fits where the amount does. -/
theorem store_dividedBy (amount : Money) (nonneg : 0 ≤ (amount : ℚ)) {n : ℕ} (some : 0 < n) :
    (Money.store (Decimal.dividedBy amount n)).isSome = true := by
  have one : (1 : ℚ) ≤ n := by exact_mod_cast some
  have least : 0 ≤ (amount : ℚ) / n := by positivity
  have le : (amount : ℚ) / n ≤ amount := div_le_self nonneg one
  have below : |(amount : ℚ) / n| < 10 ^ (14 : ℤ) := by
    have bound := (abs_lt.mp amount.abs_coe_lt).2
    rw [abs_of_nonneg least]
    exact (le.trans_lt bound).trans (by norm_num)
  have most : Decimal.dividedBy amount n ≤ amount := by
    rw [coe_hundredths] at le below ⊢
    exact toPrecision_le below (by norm_num) le
  have lower : 0 ≤ inHundredths (Decimal.dividedBy amount n) := by
    refine le_halfAway ?_
    have := toPrecision_nonneg (p := 20) least
    unfold Decimal.dividedBy
    push_cast
    linarith
  have upper : inHundredths (Decimal.dividedBy amount n) ≤ amount.hundredths := by
    refine halfAway_le ?_
    have scaled : (amount : ℚ) * 100 = amount.hundredths := by
      unfold Money.value
      ring
    linarith
  have fits : (inHundredths (Decimal.dividedBy amount n)).natAbs < 10 ^ 15 := by
    have := amount.fits
    omega
  rw [Money.store, dif_pos fits]
  rfl

/-- The even installments from a number on, none of which is taken. -/
theorem evenInstallments_exist (contract : db.contracts.has (some contractId) = true) {a : ℚ}
    (stored : (Money.store a).isSome = true) {first count : ℕ}
    (unused : ∀ n ∈ confirmAllocationImport.numbers db contractId, n ≤ first) :
    ∃ db', inTurn (evenInstallment env t contractId a) db (List.range' first count) = .ok db' := by
  induction count generalizing db first with
  | zero => exact ⟨db, rfl⟩
  | succ count ih =>
    obtain ⟨amount, stored⟩ := Option.isSome_iff_exists.mp stored
    let row : FeeInstallment :=
      { id := db.installments.fresh
        tenantId := t
        contractId
        installmentNumber := first + 1
        title := if first = 0 then "پیش‌پرداخت شهریه" else "قسط شماره " ++ toString (first + 1)
        dueDate := Common.addMonths env.now (first * 2)
        amount }
    have new : (first + 1 : ℤ) ∉ confirmAllocationImport.numbers db contractId := fun taken => by
      have le := unused _ taken
      omega
    obtain ⟨db₁, written⟩ := (createInstallment_iff row rfl contract).mpr
      (confirmAllocationImport.notMem_numbers.mp new)
    have same := confirmAllocationImport.SameContracts.createInstallment written
    have taken : confirmAllocationImport.numbers db₁ contractId =
        confirmAllocationImport.numbers db contractId ++ [(first + 1 : ℤ)] :=
      confirmAllocationImport.numbers_createInstallment written rfl
    obtain ⟨db', rest⟩ := @ih db₁ (by rw [same.contracts]; exact contract) (first + 1) (by
      intro n mem
      rw [taken] at mem
      rcases List.mem_append.mp mem with old | last
      · have le := unused n old
        push_cast
        omega
      · rw [List.mem_singleton.mp last]
        push_cast
        exact le_rfl)
    refine ⟨db', ?_⟩
    rw [List.range'_succ, inTurn_cons, bind_eq_ok]
    exact ⟨db₁, bind_eq_ok.mpr ⟨amount, column_eq_ok.mpr stored, written⟩, rest⟩

theorem createInstallments_iff (contract : db.contracts.has (some contractId) = true)
    (empty : confirmAllocationImport.numbers db contractId = []) :
    (∃ db', createInstallments env t plan contractId db = .ok db') ↔ PlanFits plan := by
  unfold createInstallments PlanFits
  generalize plan.installmentConfig.getD [] = items
  cases items with
  | nil =>
    have positive : (0 : ℚ) ≤ plan.amount := le_trans (by norm_num) plan.amount_min
    have some : 0 < if plan.installmentCount = 0 then 1 else plan.installmentCount := by
      split <;> omega
    refine iff_of_true ?_ ⟨List.nodup_nil, nofun⟩
    dsimp only
    rw [List.range_eq_range']
    exact evenInstallments_exist contract (store_dividedBy plan.amount positive some)
      (by simp [empty])
  | cons item items =>
    dsimp only
    rw [confirmAllocationImport.planInstallments_iff contract, empty]
    simp [and_comm]

theorem allocate_iff (student : db.students.has (some studentId) = true) :
    (∃ db', allocate env t plan studentId db = .ok db') ↔
      (contractNumber env plan ∉ takenNumbers db t ∧
        studentId ∉ contractedStudentIds db t plan.academicYearId) ∧ PlanFits plan := by
  have create := createContract_iff (contract env t plan studentId db.contracts.fresh) rfl student
  simp only [allocate, bind_eq_ok]
  constructor
  · rintro ⟨db', db₁, created, filled⟩
    obtain ⟨present, empty⟩ := confirmAllocationImport.numbers_createContract rfl created
    exact ⟨create.mp ⟨db₁, created⟩, (createInstallments_iff present empty).mp ⟨db', filled⟩⟩
  · rintro ⟨new, fits⟩
    obtain ⟨db₁, created⟩ := create.mpr new
    obtain ⟨present, empty⟩ := confirmAllocationImport.numbers_createContract rfl created
    obtain ⟨db', filled⟩ := (createInstallments_iff present empty).mpr fits
    exact ⟨db', db₁, created, filled⟩

theorem createInstallments_students (done : createInstallments env t plan contractId db = .ok db') :
    db'.students = db.students := by
  unfold createInstallments at done
  split at done
  · refine inTurn_keeps (I := fun d => d.students = db.students) (fun d i d' _ step same => ?_)
      done rfl
    simp only [evenInstallment, bind_eq_ok] at step
    obtain ⟨_, -, created⟩ := step
    exact (Db.write_students created).trans same
  · refine inTurn_keeps (I := fun d => d.students = db.students) (fun d i d' _ step same => ?_)
      done rfl
    exact (confirmAllocationImport.planInstallment_spec step).1.students.trans same

/-- One contract is added, for the student. -/
theorem allocate_rows (done : allocate env t plan studentId db = .ok db') :
    db'.students = db.students ∧ ∃ c, db'.contracts.rows = db.contracts.rows ++ [c] ∧
      c.tenantId = t ∧ c.academicYearId = plan.academicYearId ∧ c.studentId = studentId ∧
      c.contractNumber = contractNumber env plan := by
  simp only [allocate, bind_eq_ok] at done
  obtain ⟨db₁, written, filled⟩ := done
  have inserted := Db.write_contracts written
  simp only at inserted
  refine ⟨(createInstallments_students filled).trans (Db.write_students written),
    contract env t plan studentId db.contracts.fresh, ?_, rfl, rfl, rfl, rfl⟩
  rw [createInstallments_contracts filled]
  exact (insert_spec.mp inserted).1

end

/-! ### All contracts -/

variable {env : ℕ → Env} {i : ℕ} {studentIds : List Id}

/-- One contract is added for each student. -/
def AddsFor (t : Id) (plan : FeePlanDetails) (studentIds : List Id) (db db' : Db) : Prop :=
  ∃ created, db'.contracts.rows = db.contracts.rows ++ created ∧
    created.map (·.studentId) = studentIds ∧
    ∀ c ∈ created, c.tenantId = t ∧ c.academicYearId = plan.academicYearId

theorem allocateAll_addsFor (done : allocateAll env t plan i studentIds db = .ok db') :
    AddsFor t plan studentIds db db' := by
  induction studentIds generalizing db i with
  | nil =>
    cases done
    exact ⟨[], (List.append_nil _).symm, rfl, List.forall_mem_nil _⟩
  | cons studentId studentIds ih =>
    simp only [allocateAll, bind_eq_ok] at done
    obtain ⟨db₁, first, rest⟩ := done
    obtain ⟨-, c, one, tenant, year, student, -⟩ := allocate_rows first
    obtain ⟨others, added, students, own⟩ := ih rest
    refine ⟨c :: others, ?_, by rw [List.map_cons, student, students], ?_⟩
    · rw [added, one, List.append_assoc, List.singleton_append]
    · exact List.forall_mem_cons.mpr ⟨⟨tenant, year⟩, own⟩

/-- The numbers drawn for the contracts are distinct, and none is taken. -/
structure Drawn (env : ℕ → Env) (t : Id) (plan : FeePlanDetails) (i count : ℕ) (db : Db) :
    Prop where
  distinct : ((List.range' i count).map fun j => contractNumber (env j) plan).Nodup
  unused : ∀ j ∈ List.range' i count, contractNumber (env j) plan ∉ takenNumbers db t

/-- The numbers are drawn well if the first is, and the rest with its contract there. -/
theorem drawn_succ_iff {count : ℕ} (taken : takenNumbers db' t =
      takenNumbers db t ++ [contractNumber (env i) plan]) :
    Drawn env t plan i (count + 1) db ↔ contractNumber (env i) plan ∉ takenNumbers db t ∧
      Drawn env t plan (i + 1) count db' := by
  constructor
  · rintro ⟨distinct, unused⟩
    simp only [List.range'_succ, List.map_cons, List.nodup_cons, List.mem_map, not_exists, not_and,
      List.forall_mem_cons] at distinct unused
    refine ⟨unused.1, distinct.2, fun j mem => ?_⟩
    rw [taken, List.mem_append, List.mem_singleton, not_or]
    exact ⟨unused.2 j mem, distinct.1 j mem⟩
  · rintro ⟨first, distinct, unused⟩
    simp only [taken, List.mem_append, List.mem_singleton, not_or] at unused
    refine ⟨?_, ?_⟩
    · rw [List.range'_succ, List.map_cons, List.nodup_cons, List.mem_map]
      exact ⟨fun ⟨j, mem, same⟩ => (unused j mem).2 same, distinct⟩
    · rw [List.range'_succ]
      exact List.forall_mem_cons.mpr ⟨first, fun j mem => (unused j mem).1⟩

/-- **All contracts or none.** -/
theorem allocateAll_iff (students : ∀ s ∈ studentIds, db.students.has (some s) = true)
    (nodup : studentIds.Nodup)
    (new : ∀ s ∈ studentIds, s ∉ contractedStudentIds db t plan.academicYearId) :
    (∃ db', allocateAll env t plan i studentIds db = .ok db') ↔
      Drawn env t plan i studentIds.length db ∧ (studentIds ≠ [] → PlanFits plan) := by
  induction studentIds generalizing db i with
  | nil =>
    exact iff_of_true ⟨db, rfl⟩
      ⟨⟨List.nodup_nil, List.forall_mem_nil _⟩, fun some => absurd rfl some⟩
  | cons studentId studentIds ih =>
    obtain ⟨student, students⟩ := List.forall_mem_cons.mp students
    obtain ⟨firstNew, new⟩ := List.forall_mem_cons.mp new
    obtain ⟨apart, nodup⟩ := List.nodup_cons.mp nodup
    have first : (∃ db', allocate (env i) t plan studentId db = .ok db') ↔ _ :=
      allocate_iff student
    -- What holds of the rest once the first contract is there.
    have after : ∀ db₁, allocate (env i) t plan studentId db = .ok db₁ →
        ((∃ db', allocateAll env t plan (i + 1) studentIds db₁ = .ok db') ↔
          Drawn env t plan (i + 1) studentIds.length db₁ ∧ (studentIds ≠ [] → PlanFits plan)) ∧
        takenNumbers db₁ t = takenNumbers db t ++ [contractNumber (env i) plan] := by
      intro db₁ done
      obtain ⟨same, c, one, tenant, year, owner, number⟩ := allocate_rows done
      refine ⟨ih (by rw [same]; exact students) nodup fun s mem => ?_, ?_⟩
      · have added : contractedStudentIds db₁ t plan.academicYearId =
            contractedStudentIds db t plan.academicYearId ++ [studentId] := by
          simp [contractedStudentIds, one, tenant, year, owner]
        rw [added, List.mem_append, List.mem_singleton, not_or]
        exact ⟨new s mem, fun same => apart (same ▸ mem)⟩
      · simp [takenNumbers, one, tenant, number]
    simp only [allocateAll, bind_eq_ok, List.length_cons]
    constructor
    · rintro ⟨db', db₁, done, rest⟩
      obtain ⟨iff, taken⟩ := after db₁ done
      obtain ⟨⟨unused, -⟩, fits⟩ := first.mp ⟨db₁, done⟩
      exact ⟨(drawn_succ_iff taken).mpr ⟨unused, (iff.mp ⟨db', rest⟩).1⟩, fun _ => fits⟩
    · rintro ⟨drawn, fits⟩
      have fits := fits (List.cons_ne_nil _ _)
      have unused := drawn.unused i (by simp [List.range'_succ])
      obtain ⟨db₁, done⟩ := first.mpr ⟨⟨unused, firstNew⟩, fits⟩
      obtain ⟨iff, taken⟩ := after db₁ done
      obtain ⟨db', rest⟩ := iff.mpr ⟨((drawn_succ_iff taken).mp drawn).2, fun _ => fits⟩
      exact ⟨db', db₁, done, rest⟩

end applyFeePlan

/-! ### The whole request -/

/-- The request commits. Then each student of the scope has exactly one contract in the year of the
plan, no other student gained one, and asking again changes nothing. -/
def AllocatesAll (env : ℕ → Env) (plans : List FeePlanDetails) (enrollments : List ClassEnrollment)
    (t : Id) (plan : FeePlanDetails) (db : Db) : Prop :=
  ∃ db' reply, applyFeePlan env plans enrollments t plan.id db = .ok (db', reply) ∧
    (∀ s ∈ eligibleStudents enrollments t plan, ∃! c, c ∈ db'.contracts.rows ∧ c.tenantId = t ∧
      c.academicYearId = plan.academicYearId ∧ c.studentId = s) ∧
    (∀ c ∈ db'.contracts.rows, c ∉ db.contracts.rows →
      c.studentId ∈ eligibleStudents enrollments t plan) ∧
    ∀ env', committed db' (applyFeePlan env' plans enrollments t plan.id db') = db'

section

variable {db : Db} {t : Id} {plan : FeePlanDetails} {plans : List FeePlanDetails}
  {enrollments : List ClassEnrollment}

theorem nodup_eraseDups {α : Type} [BEq α] [LawfulBEq α] (as : List α) : as.eraseDups.Nodup := by
  induction len : as.length using Nat.strong_induction_on generalizing as with
  | _ n ih =>
    cases as with
    | nil => exact List.nodup_nil
    | cons a as =>
      rw [List.eraseDups_cons, List.nodup_cons]
      have shorter : (as.filter fun b => !b == a).length < n := by
        have le := List.length_filter_le (fun b => !b == a) as
        rw [List.length_cons] at len
        omega
      exact ⟨by simp [List.mem_eraseDups], ih _ shorter _ rfl⟩

theorem nodup_eligibleStudents : (eligibleStudents enrollments t plan).Nodup := nodup_eraseDups _

/-- Of two contracts of a student in a year one is the other. -/
theorem contract_unique {c c' : StudentFeeContract} (mem : c ∈ db.contracts.rows)
    (mem' : c' ∈ db.contracts.rows) (tenant : c.tenantId = c'.tenantId)
    (year : c.academicYearId = c'.academicYearId) (student : c.studentId = c'.studentId) :
    c = c' := by
  by_contra differ
  have keys : Record.key c ≠ Record.key c' := fun same =>
    differ (db.contracts.eq_of_key_eq mem mem' same)
  have clear := db.contracts.no_clash c mem c' mem' keys
  simp [Record.clash, tenant, year, student] at clear

theorem applyFeePlan_iff {env : ℕ → Env} {db' : Db} (found : getFeePlan plans t plan.id = .ok plan)
    (ready : readyStudents enrollments t plan db ≠ []) :
    (∃ reply, applyFeePlan env plans enrollments t plan.id db = .ok (db', reply)) ↔
      applyFeePlan.allocateAll env t plan 0 (readyStudents enrollments t plan db) db = .ok db' := by
  have some : (readyStudents enrollments t plan db).length ≠ 0 :=
    fun none => ready (List.length_eq_zero_iff.mp none)
  simp only [applyFeePlan, do_eq_ok, exists_const]
  constructor
  · rintro ⟨_, other, same, -, _, done, ⟨⟩⟩
    obtain rfl : plan = other := Except.ok.inj (found.symm.trans same)
    exact done
  · exact fun done => ⟨_, plan, found, some, db', done, rfl⟩

/-- With nobody left there is nothing to commit. -/
theorem committed_applyFeePlan {env : ℕ → Env} (found : getFeePlan plans t plan.id = .ok plan)
    (none : readyStudents enrollments t plan db = []) :
    committed db (applyFeePlan env plans enrollments t plan.id db) = db := by
  simp only [applyFeePlan, found, none, bind, Except.bind, List.length_nil, ne_eq,
    not_true_eq_false]
  rfl

/-- What the contracts of the students who were ready make of the roster. -/
theorem allocatesAll_of_addsFor {db' : Db}
    (adds : applyFeePlan.AddsFor t plan (readyStudents enrollments t plan db) db db') :
    (∀ s ∈ eligibleStudents enrollments t plan, ∃! c, c ∈ db'.contracts.rows ∧ c.tenantId = t ∧
      c.academicYearId = plan.academicYearId ∧ c.studentId = s) ∧
    (∀ c ∈ db'.contracts.rows, c ∉ db.contracts.rows →
      c.studentId ∈ eligibleStudents enrollments t plan) ∧
    readyStudents enrollments t plan db' = [] := by
  obtain ⟨created, rows, students, own⟩ := adds
  have one : ∀ s ∈ eligibleStudents enrollments t plan, ∃ c ∈ db'.contracts.rows,
      c.tenantId = t ∧ c.academicYearId = plan.academicYearId ∧ c.studentId = s := by
    intro s eligible
    rw [rows]
    by_cases contracted : s ∈ contractedStudentIds db t plan.academicYearId
    · obtain ⟨c, there, rfl⟩ := List.mem_map.mp contracted
      simp only [List.mem_filter, decide_eq_true_eq] at there
      exact ⟨c, List.mem_append_left _ there.1, there.2.1, there.2.2, rfl⟩
    · have ready : s ∈ readyStudents enrollments t plan db :=
        List.mem_filter.mpr ⟨eligible, decide_eq_true contracted⟩
      rw [← students] at ready
      obtain ⟨c, there, rfl⟩ := List.mem_map.mp ready
      exact ⟨c, List.mem_append_right _ there, (own c there).1, (own c there).2, rfl⟩
  refine ⟨fun s eligible => ?_, fun c mem new => ?_, ?_⟩
  · obtain ⟨c, there, tenant, year, student⟩ := one s eligible
    refine ⟨c, ⟨there, tenant, year, student⟩, ?_⟩
    rintro c' ⟨there', tenant', year', student'⟩
    exact contract_unique there' there (tenant'.trans tenant.symm) (year'.trans year.symm)
      (student'.trans student.symm)
  · rw [rows] at mem
    have added := (List.mem_append.mp mem).resolve_left new
    have ready : c.studentId ∈ readyStudents enrollments t plan db := by
      rw [← students]
      exact List.mem_map_of_mem added
    exact List.mem_of_mem_filter ready
  · refine List.filter_eq_nil_iff.mpr fun s eligible => ?_
    obtain ⟨c, there, tenant, year, rfl⟩ := one s eligible
    have contracted : c.studentId ∈ contractedStudentIds db' t plan.academicYearId :=
      List.mem_map_of_mem (List.mem_filter.mpr ⟨there, by simp [tenant, year]⟩)
    simpa using contracted

/-- **Group allocation is total exactly if the numbers drawn are new and the plan fits its
columns.** -/
theorem allocates_all_iff (env : ℕ → Env) (found : getFeePlan plans t plan.id = .ok plan)
    (roster : ∀ e ∈ enrollments, db.students.has (some e.studentId) = true)
    (ready : readyStudents enrollments t plan db ≠ []) :
    AllocatesAll env plans enrollments t plan db ↔
      applyFeePlan.Drawn env t plan 0 (readyStudents enrollments t plan db).length db ∧
        applyFeePlan.PlanFits plan := by
  have isReady : ∀ s ∈ readyStudents enrollments t plan db,
      s ∈ eligibleStudents enrollments t plan ∧
        s ∉ contractedStudentIds db t plan.academicYearId := by
    intro s mem
    simpa [readyStudents, List.mem_filter] using mem
  have students : ∀ s ∈ readyStudents enrollments t plan db, db.students.has (some s) = true := by
    intro s mem
    obtain ⟨e, there, rfl⟩ := List.mem_map.mp (List.mem_eraseDups.mp (isReady s mem).1)
    exact roster e (List.mem_of_mem_filter there)
  have goesThrough : (∃ db', applyFeePlan.allocateAll env t plan 0
      (readyStudents enrollments t plan db) db = .ok db') ↔ _ :=
    applyFeePlan.allocateAll_iff students (List.Nodup.filter _ nodup_eligibleStudents)
      fun s mem => (isReady s mem).2
  constructor
  · rintro ⟨db', reply, done, -⟩
    obtain ⟨drawn, fits⟩ := goesThrough.mp ⟨db', (applyFeePlan_iff found ready).mp ⟨reply, done⟩⟩
    exact ⟨drawn, fits ready⟩
  · rintro ⟨drawn, fits⟩
    obtain ⟨db', allocated⟩ := goesThrough.mpr ⟨drawn, fun _ => fits⟩
    obtain ⟨reply, done⟩ := (applyFeePlan_iff found ready).mpr allocated
    obtain ⟨once, scope, none⟩ :=
      allocatesAll_of_addsFor (applyFeePlan.allocateAll_addsFor allocated)
    exact ⟨db', reply, done, once, scope, fun env' => committed_applyFeePlan found none⟩

end

namespace School

def classmates : Db where
  students := ⟨[student, { student with id := 2, user := { student.user with id := 2 } }],
    by decide, by decide⟩
  foreignKeys := by
    constructor <;> intro row mem <;> cases mem

def roster : List ClassEnrollment := [enrollment, { enrollment with studentId := 2 }]

/-- The numbers of the two contracts. -/
def lots (first second : Fin 9000) : ℕ → Env := fun i =>
  { now := 1, trackingDraw := if i = 0 then first else second }

end School

open School in
theorem allocates_all_school :
    AllocatesAll (lots 7 8) [School.plan 3 []] roster 1 (School.plan 3 []) classmates :=
  (allocates_all_iff _ rfl (by decide +kernel) (by decide +kernel)).mpr
    ⟨⟨by decide +kernel, by decide +kernel⟩, by decide +kernel⟩

open School in
/-- Two of the students draw one number: nobody gets a contract. -/
theorem not_allocates_all :
    ¬ AllocatesAll (lots 7 7) [School.plan 3 []] roster 1 (School.plan 3 []) classmates := by
  rintro ⟨db', reply, done, -⟩
  have fails : ¬ Returns (applyFeePlan (lots 7 7) [School.plan 3 []] roster 1 1 classmates)
      fun _ => True := by
    decide +kernel
  have same : applyFeePlan (lots 7 7) [School.plan 3 []] roster 1 1 classmates =
      .ok (db', reply) := done
  exact fails (by rw [same]; trivial)

end Rokad.Finance
