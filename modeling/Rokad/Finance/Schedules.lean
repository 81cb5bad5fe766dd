import Rokad.Finance.InOrder

/-!
# Schedules of installments

A plan splits the amount of a contract by percentages, or evenly. Each share is rounded to its
column by itself, nothing puts the rest into one of them, and the percentages need not total a
hundred.

* `sum_even_iff`: an even split adds up exactly if the number of installments divides the amount in
  hundredths.
* `sumsTo_config_iff`: shares that are whole numbers of hundredths are kept by their columns, and add
  up exactly if the percentages total a hundred. Other shares lose what their columns round off.
* `adds_up_iff`: so do the schedules of `applyFeePlan` and of an import.
* `not_adds_up`: seven equal installments of 36 000 000.
-/

namespace Rokad.Finance

open Rokad.Base

/-! ### Shares -/

section

variable {a : ℚ}

theorem one_le_halfAway_iff {x : ℚ} : 1 ≤ halfAway x ↔ 1 / 2 ≤ x := by
  by_cases nonneg : 0 ≤ x
  · rw [halfAway, if_pos nonneg, Int.le_floor]
    constructor <;> intro le <;> push_cast at * <;> linarith
  · have nonpos : halfAway x ≤ 0 := halfAway_le (by push_cast; linarith)
    exact iff_of_false (by omega) (by linarith)

/-- The column keeps something of half a hundredth, and of more. -/
theorem columnValue_pos_iff : 0 < columnValue a ↔ 1 / 200 ≤ a := by
  have hundredths : 0 < columnValue a ↔ 1 ≤ inHundredths a := by
    rw [columnValue, div_pos_iff_of_pos_right (by norm_num), Int.cast_pos, Int.lt_iff_add_one_le,
      zero_add]
  rw [hundredths, inHundredths, one_le_halfAway_iff]
  constructor <;> intro le <;> linarith

/-- A column keeps a whole number of hundredths. -/
theorem columnValue_hundredths (n : ℤ) : columnValue ((n : ℚ) / 10 ^ 2) = n / 10 ^ 2 := by
  have grid : (n : ℚ) / 10 ^ 2 * 100 = n := by ring
  rw [columnValue, inHundredths, grid, halfAway_intCast]
  norm_num

/-- So does it a share that is one. -/
theorem columnValue_times {q : ℚ} (bound : |a| ≤ 10 ^ 13 + 1) (nonneg : 0 ≤ q) (le : q ≤ 1)
    (whole : (a * q * 100).den = 1) : columnValue (Decimal.times a q) = a * q := by
  have isWhole : a * q = ((a * q * 100).num : ℚ) / 10 ^ 2 := by
    rw [Rat.coe_int_num_of_den_eq_one whole]
    ring
  have below : |a * q| < 10 ^ (14 : ℤ) := by
    rw [abs_mul, abs_of_nonneg nonneg]
    calc |a| * q ≤ |a| := mul_le_of_le_one_right (abs_nonneg a) le
      _ < 10 ^ (14 : ℤ) := bound.trans_lt (by norm_num)
  rw [isWhole] at below
  rw [Decimal.times, isWhole, toPrecision_hundredths _ below, columnValue_hundredths]

/-- An even split adds up if the amount can be divided in hundredths. -/
theorem sum_even_iff {amount : Money} {n : ℕ} (pos : 0 < n) :
    n * columnValue (Decimal.dividedBy amount n) = amount ↔ (n : ℤ) ∣ amount.hundredths := by
  have posQ : (0 : ℚ) < n := by exact_mod_cast pos
  constructor
  · intro total
    refine ⟨inHundredths (Decimal.dividedBy amount n), ?_⟩
    unfold columnValue at total
    generalize inHundredths (Decimal.dividedBy amount n) = part at total ⊢
    unfold Money.value at total
    have scaled : (amount.hundredths : ℚ) = n * part := by linarith
    exact_mod_cast scaled
  · rintro ⟨part, whole⟩
    have quotient : (amount : ℚ) / n = (part : ℚ) / 10 ^ 2 := by
      rw [coe_hundredths, whole]
      push_cast
      field_simp
    have below : |(part : ℚ) / 10 ^ 2| < 10 ^ (14 : ℤ) := by
      have bound := amount.abs_coe_lt
      have one : (1 : ℚ) ≤ n := by exact_mod_cast pos
      rw [← quotient, abs_div, abs_of_pos posQ]
      calc |(amount : ℚ)| / n ≤ |(amount : ℚ)| := div_le_self (abs_nonneg _) one
        _ < 10 ^ (14 : ℤ) := bound.trans_le (by norm_num)
    have exact : Decimal.dividedBy amount n = (part : ℚ) / 10 ^ 2 := by
      rw [Decimal.dividedBy, quotient]
      exact toPrecision_hundredths part below
    rw [exact, columnValue_hundredths, ← quotient]
    field_simp

end

/-! ### Installments written -/

/-- The amounts of the installments of a contract. -/
def schedule (db : Db) (k : Id) : List Money :=
  (db.installments.rows.filter (·.contractId = k)).map (·.amount)

section

variable {db db' db'' : Db} {k : Id}

/-- The contract has these installments more, and no other contract has. -/
structure Fills (k : Id) (amounts : List Money) (db db' : Db) : Prop where
  own : schedule db' k = schedule db k ++ amounts
  others : ∀ j ≠ k, schedule db' j = schedule db j

theorem Fills.refl (k : Id) (db : Db) : Fills k [] db db :=
  ⟨(List.append_nil _).symm, fun _ _ => rfl⟩

theorem Fills.trans {first second : List Money} (fills : Fills k first db db')
    (fills' : Fills k second db' db'') : Fills k (first ++ second) db db'' where
  own := by rw [fills'.own, fills.own, List.append_assoc]
  others j other := (fills'.others j other).trans (fills.others j other)

theorem fills_createInstallment {row : FeeInstallment} (own : row.contractId = k)
    (done : db.write (.createInstallment row) = .ok db') : Fills k [row.amount] db db' := by
  have inserted := Db.write_installments done
  simp only at inserted
  have rows := (insert_spec.mp inserted).1
  constructor
  · simp [schedule, rows, own]
  · intro j other
    have apart : row.contractId ≠ j := own ▸ other.symm
    simp [schedule, rows, apart]

/-- Each statement of the list fills the contract with one amount, which its item determines. -/
theorem inTurn_fills {α : Type} {step : Db → α → Result Db} {amount : α → Option Money}
    (each : ∀ d item d', step d item = .ok d' → ∃ m, amount item = some m ∧ Fills k [m] d d')
    {items : List α} (done : inTurn step db items = .ok db') :
    ∃ amounts, items.map amount = amounts.map some ∧ Fills k amounts db db' := by
  induction items generalizing db with
  | nil =>
    cases done
    exact ⟨[], rfl, Fills.refl k _⟩
  | cons item items ih =>
    obtain ⟨d, first, rest⟩ := bind_eq_ok.mp done
    obtain ⟨m, stored, fills⟩ := each db item d first
    obtain ⟨amounts, others, fills'⟩ := ih rest
    exact ⟨m :: amounts, by simp [stored, others], fills.trans fills'⟩

end

/-! ### What a plan promises -/

namespace confirmAllocationImport

/-- The share of an installment, as the decimal it is multiplied by. -/
def share (item : FeePlanInstallmentConfigItemDto) (count : ℕ) : ℚ :=
  (percent item count).toDecimal.getD 0

theorem installmentAmount_eq {a : ℚ} {count : ℕ} {item : FeePlanInstallmentConfigItemDto}
    {m : Money} (stored : installmentAmount a count item = some m) :
    (m : ℚ) = columnValue (Decimal.times a (share item count)) := by
  obtain ⟨q, percent, stored⟩ := Option.bind_eq_some_iff.mp stored
  rw [Money.store_spec stored, share, percent, Option.getD_some]

theorem planInstallment_fills {env : Env} {t contractId : Id} {a : ℚ} {count : ℕ} {db db' : Db}
    {item : FeePlanInstallmentConfigItemDto}
    (done : planInstallment env t contractId a count db item = .ok db') :
    ∃ m, installmentAmount a count item = some m ∧ Fills contractId [m] db db' := by
  simp only [planInstallment, do_eq_ok, exists_const] at done
  obtain ⟨m, stored, -, written⟩ := done
  exact ⟨m, stored, fills_createInstallment rfl written⟩

end confirmAllocationImport

open confirmAllocationImport (share)

/-- The amount and each configured share of it are whole numbers of hundredths, and no share is more
than the whole. -/
structure WholeShares (a : ℚ) (items : List FeePlanInstallmentConfigItemDto) : Prop where
  amount : (a * 100).den = 1
  shares : ∀ item ∈ items, 0 ≤ share item items.length ∧ share item items.length ≤ 1 ∧
    (a * share item items.length * 100).den = 1

instance (a : ℚ) (items : List FeePlanInstallmentConfigItemDto) : Decidable (WholeShares a items) :=
  decidable_of_iff (_ ∧ _) ⟨fun both => ⟨both.1, both.2⟩, fun whole => ⟨whole.1, whole.2⟩⟩

/-- The percentages total a hundred, and each is of something. -/
structure ConfigSplits (a : ℚ) (items : List FeePlanInstallmentConfigItemDto) : Prop where
  total : (items.map (share · items.length)).sum = 1
  positive : ∀ item ∈ items, 0 < a * share item items.length

instance (a : ℚ) (items : List FeePlanInstallmentConfigItemDto) :
    Decidable (ConfigSplits a items) :=
  decidable_of_iff (_ ∧ _) ⟨fun both => ⟨both.1, both.2⟩, fun splits => ⟨splits.1, splits.2⟩⟩

/-- What a schedule has to do for the amount that is payable. -/
structure SumsTo (payable : ℚ) (amounts : List Money) : Prop where
  sum : (amounts.map Money.value).sum = payable
  positive : ∀ amount ∈ amounts, 0 < (amount : ℚ)

section

variable {a : ℚ} {amounts : List Money}

theorem sumsTo_config_iff {items : List FeePlanInstallmentConfigItemDto} (nonempty : items ≠ [])
    (bound : |a| ≤ 10 ^ 13 + 1) (whole : WholeShares a items)
    (stored : items.map (confirmAllocationImport.installmentAmount a items.length) =
      amounts.map some) :
    SumsTo (columnValue a) amounts ↔ ConfigSplits a items := by
  have values : amounts.map Money.value = items.map fun item => a * share item items.length := by
    have shares := whole.shares
    generalize items.length = count at stored shares ⊢
    clear nonempty whole
    induction items generalizing amounts with
    | nil => simpa using stored
    | cons item items ih =>
      cases amounts with
      | nil => simp at stored
      | cons m amounts =>
        simp only [List.map_cons, List.cons.injEq] at stored ⊢
        obtain ⟨⟨nonneg, le, isWhole⟩, rest⟩ := List.forall_mem_cons.mp shares
        refine ⟨?_, ih stored.2 rest⟩
        rw [confirmAllocationImport.installmentAmount_eq stored.1,
          columnValue_times bound nonneg le isWhole]
  have payable : columnValue a = a := by
    have isWhole : a = ((a * 100).num : ℚ) / 10 ^ 2 := by
      rw [Rat.coe_int_num_of_den_eq_one whole.amount]
      ring
    rw [isWhole, columnValue_hundredths]
  have positive : (∀ amount ∈ amounts, 0 < (amount : ℚ)) ↔
      ∀ item ∈ items, 0 < a * share item items.length := by
    have all : (∀ x ∈ amounts.map Money.value, 0 < x) ↔
        ∀ item ∈ items, 0 < a * share item items.length := by
      rw [values, List.forall_mem_map]
    simpa only [List.forall_mem_map] using all
  have sum : (amounts.map Money.value).sum = a * (items.map (share · items.length)).sum := by
    rw [values, List.sum_map_mul_left]
  constructor
  · intro sums
    have shares := positive.mp sums.positive
    have nonzero : a ≠ 0 := by
      rintro rfl
      obtain ⟨item, mem⟩ := List.exists_mem_of_ne_nil items nonempty
      simpa using shares item mem
    refine ⟨?_, shares⟩
    have total := sums.sum
    rw [sum, payable] at total
    exact mul_left_cancel₀ nonzero (total.trans (mul_one a).symm)
  · intro splits
    exact ⟨by rw [sum, splits.total, payable, mul_one], positive.mpr splits.positive⟩

theorem sumsTo_lump_iff {amount : Money} (stored : Money.store a = some amount) :
    SumsTo (columnValue a) [amount] ↔ 1 / 200 ≤ a := by
  have value := Money.store_spec stored
  constructor
  · intro sums
    have pos := sums.positive amount List.mem_cons_self
    rwa [value, columnValue_pos_iff] at pos
  · intro le
    refine ⟨by simp [value], fun m mem => ?_⟩
    rw [List.mem_singleton.mp mem, value]
    exact columnValue_pos_iff.mpr le

theorem sumsTo_even_iff {amount : Money} {n : ℕ} (pos : 0 < (amount : ℚ)) (some : 0 < n)
    (stored : (List.range n).map (fun _ => Money.store (Decimal.dividedBy amount n)) =
      amounts.map Option.some) :
    SumsTo amount amounts ↔ (n : ℤ) ∣ amount.hundredths := by
  have length : amounts.length = n := by simpa using (congrArg List.length stored).symm
  have each : ∀ m ∈ amounts, (m : ℚ) = columnValue (Decimal.dividedBy amount n) := by
    intro m mem
    have there : Option.some m ∈ amounts.map Option.some := List.mem_map_of_mem mem
    rw [← stored] at there
    obtain ⟨_, -, same⟩ := List.mem_map.mp there
    exact Money.store_spec same
  have sum : (amounts.map Money.value).sum = n * columnValue (Decimal.dividedBy amount n) := by
    rw [List.map_congr_left each, List.map_const', List.sum_replicate, length, nsmul_eq_mul]
  rw [← sum_even_iff some, ← sum]
  refine ⟨SumsTo.sum, fun total => ⟨total, fun m mem => ?_⟩⟩
  have posN : (0 : ℚ) < n := by exact_mod_cast some
  rw [sum] at total
  rw [← total] at pos
  rw [each m mem]
  exact pos_of_mul_pos_right pos posN.le

end

/-! ### Contracts added -/

/-- Contracts that were there stay, with their schedules, and what is added is as `C` says. -/
structure AddsSchedules (C : StudentFeeContract → List Money → Prop) (db db' : Db) : Prop where
  stays : ∀ c ∈ db.contracts.rows, c ∈ db'.contracts.rows
  kept : ∀ c ∈ db.contracts.rows, schedule db' c.id = schedule db c.id
  adds : ∀ c ∈ db'.contracts.rows, c ∈ db.contracts.rows ∨ C c (schedule db' c.id)

section

variable {db db₁ db' : Db} {t : Id} {C : StudentFeeContract → List Money → Prop}

theorem AddsSchedules.refl (db : Db) : AddsSchedules C db db :=
  ⟨fun _ mem => mem, fun _ _ => rfl, fun _ mem => .inl mem⟩

theorem AddsSchedules.trans (first : AddsSchedules C db db₁) (second : AddsSchedules C db₁ db') :
    AddsSchedules C db db' where
  stays c mem := second.stays c (first.stays c mem)
  kept c mem := (second.kept c (first.stays c mem)).trans (first.kept c mem)
  adds c mem := by
    rcases second.adds c mem with before | new
    · rw [second.kept c before]
      exact first.adds c before
    · exact .inr new

/-- A contract is written, and then its installments. -/
theorem addsSchedules_of_fills {contract : StudentFeeContract} {amounts : List Money}
    (fresh : contract.id = db.contracts.fresh)
    (written : db.write (.createContract contract) = .ok db₁)
    (same : db'.contracts = db₁.contracts) (fills : Fills contract.id amounts db₁ db')
    (is : C contract amounts) : AddsSchedules C db db' := by
  have inserted := Db.write_contracts written
  have installments := Db.write_installments written
  simp only at inserted installments
  have rows : db'.contracts.rows = db.contracts.rows ++ [contract] := by
    rw [same, (insert_spec.mp inserted).1]
  have before : ∀ k, schedule db₁ k = schedule db k := fun k => by rw [schedule, installments]; rfl
  have empty : schedule db contract.id = [] := by
    rw [schedule, List.map_eq_nil_iff, List.filter_eq_nil_iff, fresh]
    intro i mem own
    exact contract_ne_fresh db.foreignKeys.installment_contract mem (of_decide_eq_true own)
  refine ⟨fun c mem => ?_, fun c mem => ?_, fun c mem => ?_⟩
  · rw [rows]
    exact List.mem_append_left _ mem
  · have older : c.id ≠ contract.id := by
      have lt : c.id < db.contracts.fresh := db.contracts.key_lt_fresh mem
      rw [fresh]
      exact lt.ne
    rw [fills.others c.id older, before]
  · rw [rows] at mem
    rcases List.mem_append.mp mem with old | new
    · exact .inl old
    · obtain rfl := List.mem_singleton.mp new
      rw [fills.own, before, empty, List.nil_append]
      exact .inr is

theorem AddsSchedules.created {contract : StudentFeeContract} (adds : AddsSchedules C db db')
    (created : Created db db' contract) : C contract (schedule db' contract.id) := by
  rcases adds.adds contract (mem_of_find? created.found) with old | new
  · have found := db.contracts.find?_key old
    rw [show Record.key contract = contract.id from rfl, created.new] at found
    cases found
  · exact new

end

/-! ### Group allocation -/

namespace applyFeePlan

variable {db db' : Db} {t : Id} {plan : FeePlanDetails} {env : Env}

/-- The configured shares, if there are any, are whole. -/
def Whole (plan : FeePlanDetails) : Prop :=
  match plan.installmentConfig.getD [] with
  | [] => True
  | items => WholeShares plan.amount items

/-- The configured shares make up the amount; without any, the count divides it in hundredths. -/
def Splits (plan : FeePlanDetails) : Prop :=
  match plan.installmentConfig.getD [] with
  | [] => ((if plan.installmentCount = 0 then 1 else plan.installmentCount : ℕ) : ℤ) ∣
      plan.amount.hundredths
  | items => ConfigSplits plan.amount items

theorem createInstallments_fills {contractId : Id}
    (done : createInstallments env t plan contractId db = .ok db') :
    ∃ amounts, Fills contractId amounts db db' ∧
      (Whole plan → (SumsTo plan.amount amounts ↔ Splits plan)) := by
  unfold createInstallments at done
  unfold Splits Whole
  generalize plan.installmentConfig.getD [] = items at done ⊢
  cases items with
  | nil =>
    dsimp only at done ⊢
    generalize count : (if plan.installmentCount = 0 then 1 else plan.installmentCount) = n
      at done ⊢
    have some : 0 < n := by
      rw [← count]
      split <;> omega
    have positive : 0 < (plan.amount : ℚ) := lt_of_lt_of_le (by norm_num) plan.amount_min
    have each : ∀ d i d',
        evenInstallment env t contractId (Decimal.dividedBy plan.amount n) d i = .ok d' →
          ∃ m, Money.store (Decimal.dividedBy plan.amount n) = Option.some m ∧
            Fills contractId [m] d d' := by
      intro d i d' step
      simp only [evenInstallment, bind_eq_ok, column_eq_ok] at step
      obtain ⟨m, stored, written⟩ := step
      exact ⟨m, stored, fills_createInstallment rfl written⟩
    obtain ⟨amounts, stored, fills⟩ := inTurn_fills each done
    exact ⟨amounts, fills, fun _ => sumsTo_even_iff positive some stored⟩
  | cons item items =>
    dsimp only at done ⊢
    obtain ⟨amounts, stored, fills⟩ := inTurn_fills
      (fun d i d' step => confirmAllocationImport.planInstallment_fills step) done
    refine ⟨amounts, fills, fun whole => ?_⟩
    have sums := sumsTo_config_iff (List.cons_ne_nil _ _)
      (plan.amount.abs_coe_lt.le.trans (by norm_num)) whole stored
    rwa [columnValue_coe] at sums

/-- The contract has the plan's amount, and adds up if the plan splits it. -/
def Scheduled (plan : FeePlanDetails) (c : StudentFeeContract) (amounts : List Money) : Prop :=
  Whole plan → (SumsTo c.finalPayableAmount amounts ↔ Splits plan)

theorem allocate_schedules {studentId : Id} (done : allocate env t plan studentId db = .ok db') :
    AddsSchedules (Scheduled plan) db db' := by
  simp only [allocate, bind_eq_ok] at done
  obtain ⟨db₁, written, filled⟩ := done
  obtain ⟨amounts, fills, sums⟩ := createInstallments_fills filled
  exact addsSchedules_of_fills rfl written (createInstallments_contracts filled) fills sums

theorem allocateAll_schedules {env : ℕ → Env} {i : ℕ} {studentIds : List Id}
    (done : allocateAll env t plan i studentIds db = .ok db') :
    AddsSchedules (Scheduled plan) db db' := by
  induction studentIds generalizing db i with
  | nil =>
    cases done
    exact AddsSchedules.refl _
  | cons studentId studentIds ih =>
    simp only [allocateAll, bind_eq_ok] at done
    obtain ⟨db₁, first, rest⟩ := done
    exact (allocate_schedules first).trans (ih rest)

end applyFeePlan

namespace confirmAllocationImport

variable {db db' : Db} {plans : Table FeePlan} {t : Id} {env : Env}
  {dto : ConfirmFeeAllocationImportDto}

/-- The configured shares of the amount, if there are any, are whole. -/
def Whole (plans : Table FeePlan) (t : Id) (feePlanId : Option Id) (finalAmt : ℚ) : Prop :=
  match planInstallments plans t feePlanId with
  | [] => True
  | items => WholeShares finalAmt items

/-- The configured shares make up the amount; without any, there is something to pay. -/
def Splits (plans : Table FeePlan) (t : Id) (feePlanId : Option Id) (finalAmt : ℚ) : Prop :=
  match planInstallments plans t feePlanId with
  | [] => 1 / 200 ≤ finalAmt
  | items => ConfigSplits finalAmt items

/-- A property of what the row leaves to pay. -/
def OfRow (P : ℚ → Prop) (row : ImportFeeAllocationRowDto) : Prop :=
  ∀ total ∈ row.amount.toDecimal, ∀ discount ∈ (orZero row.discountAmount).toDecimal,
    P (Decimal.minus total discount)

theorem createInstallments_fills {feePlanId : Option Id} {contractId : Id} {finalAmt : ℚ}
    (bound : |finalAmt| ≤ 10 ^ 13 + 1)
    (done : createInstallments env plans t feePlanId contractId finalAmt db = .ok db') :
    ∃ amounts, Fills contractId amounts db db' ∧ (Whole plans t feePlanId finalAmt →
        (SumsTo (columnValue finalAmt) amounts ↔ Splits plans t feePlanId finalAmt)) := by
  unfold createInstallments at done
  unfold Splits Whole
  generalize planInstallments plans t feePlanId = items at done ⊢
  cases items with
  | nil =>
    simp only [lumpSum, bind_eq_ok, column_eq_ok] at done
    obtain ⟨amount, stored, written⟩ := done
    exact ⟨[amount], fills_createInstallment rfl written, fun _ => sumsTo_lump_iff stored⟩
  | cons item items =>
    dsimp only at done ⊢
    obtain ⟨amounts, stored, fills⟩ :=
      inTurn_fills (fun d i d' step => planInstallment_fills step) done
    exact ⟨amounts, fills, fun whole =>
      sumsTo_config_iff (List.cons_ne_nil _ _) bound whole stored⟩

/-- The row is for the student. -/
def isFor (db : Db) (t studentId : Id) (row : ImportFeeAllocationRowDto) : Bool :=
  (confirmPaymentImport.findStudent db t row.identifier).any (·.id = studentId)

/-- The contract is of the year of the import, and of the first row for its student. -/
def Scheduled (plans : Table FeePlan) (t : Id) (dto : ConfirmFeeAllocationImportDto) (db : Db)
    (rows : List ImportFeeAllocationRowDto) (c : StudentFeeContract) (amounts : List Money) :
    Prop :=
  c.tenantId = t ∧ c.academicYearId = dto.academicYearId ∧
    ∃ row, rows.find? (isFor db t c.studentId) = some row ∧
      (OfRow (Whole plans t dto.feePlanId) row →
        (SumsTo c.finalPayableAmount amounts ↔ OfRow (Splits plans t dto.feePlanId) row))

theorem allocate_schedules {row : ImportFeeAllocationRowDto} {s : StudentProfile}
    (done : allocate env plans t dto row s db = .ok db') :
    AddsSchedules (fun c amounts => c.tenantId = t ∧ c.academicYearId = dto.academicYearId ∧
      c.studentId = s.id ∧ (OfRow (Whole plans t dto.feePlanId) row →
        (SumsTo c.finalPayableAmount amounts ↔ OfRow (Splits plans t dto.feePlanId) row)))
      db db' := by
  simp only [allocate, do_eq_ok, column_eq_ok, exists_const] at done
  obtain ⟨totalAmt, total, discountAmt, discount, ta, -, da, -, fa, storedFinal, -, db₁, created,
    filled⟩ := done
  obtain ⟨amounts, fills, sums⟩ := createInstallments_fills (abs_le_of_store storedFinal) filled
  refine addsSchedules_of_fills rfl created (createInstallments_sameContracts filled).contracts
    fills ⟨rfl, rfl, rfl, ?_⟩
  have ofRow (P : ℚ → Prop) : OfRow P row ↔ P (Decimal.minus totalAmt discountAmt) := by
    simp only [OfRow, total, discount, Option.mem_def, Option.some.injEq, forall_eq']
  rw [show (contract env t dto row s db.contracts.fresh ta da fa).finalPayableAmount = fa from rfl,
    Money.store_spec storedFinal, ofRow, ofRow]
  exact sums

/-- A contract that was added is not of a student who had one. -/
theorem not_contracted_of_added {c : StudentFeeContract} (mem : c ∈ db'.contracts.rows)
    (stays : ∀ c ∈ db.contracts.rows, c ∈ db'.contracts.rows) (new : c ∉ db.contracts.rows)
    (tenant : c.tenantId = t) (year : c.academicYearId = dto.academicYearId) :
    c.studentId ∉ contractedStudentIds db t dto.academicYearId := by
  intro contracted
  obtain ⟨old, there, student⟩ := List.mem_map.mp contracted
  simp only [List.mem_filter, decide_eq_true_eq] at there
  obtain ⟨there, oldTenant, oldYear⟩ := there
  have clash : Record.clash old c = true := by
    simp [Record.clash, oldTenant, tenant, oldYear, year, student]
  have differ : Record.key old ≠ Record.key c := fun same =>
    new (db'.contracts.eq_of_key_eq (stays old there) mem same ▸ there)
  rw [db'.contracts.no_clash old (stays old there) c mem differ] at clash
  cases clash

/-- A row is for nobody, for a student who has a contract, or allocates. -/
theorem importRow_cases {row : ImportFeeAllocationRowDto} {n : ℕ}
    (done : importRow env plans t dto row db = .ok (db', n)) :
    (db' = db ∧ ∀ s, confirmPaymentImport.findStudent db t row.identifier = some s →
      s.id ∈ contractedStudentIds db t dto.academicYearId) ∨
    ∃ s, confirmPaymentImport.findStudent db t row.identifier = some s ∧
      allocate env plans t dto row s db = .ok db' := by
  rcases importRow_spec done with ⟨-, rfl⟩ | ⟨s, found, -, allocated⟩
  · unfold importRow at done
    split at done
    · rename_i none
      exact .inl ⟨rfl, fun s found => by rw [none] at found; cases found⟩
    · rename_i s found
      split at done
      · rename_i contracted
        refine .inl ⟨rfl, fun s' found' => ?_⟩
        obtain rfl := Option.some.inj (found.symm.trans found')
        exact contracted
      · simp only [do_eq_ok] at done
        obtain ⟨_, allocated, ⟨⟩⟩ := done
        exact .inr ⟨s, found, allocated⟩
  · exact .inr ⟨s, found, allocated⟩

/-- **The rows of an import.** A contract that they add is of the first row for its student: once
that row is passed the student has a contract. -/
theorem importRows_schedules {env : ℕ → Env} {i n : ℕ} {rows : List ImportFeeAllocationRowDto}
    (done : importRows env plans t dto i rows db = .ok (db', n)) :
    AddsSchedules (Scheduled plans t dto db rows) db db' := by
  induction rows generalizing db i n with
  | nil =>
    cases done
    exact AddsSchedules.refl _
  | cons row rows ih =>
    simp only [importRows, do_eq_ok] at done
    obtain ⟨⟨db₁, n₁⟩, first, ⟨db₂, n₂⟩, rest, ⟨⟩⟩ := done
    have later := ih rest
    -- A row whose student has a contract by now is not for one whose contract comes later.
    have passed : ∀ c ∈ db₂.contracts.rows, c ∉ db₁.contracts.rows →
        Scheduled plans t dto db₁ rows c (schedule db₂ c.id) → (∀ s,
          confirmPaymentImport.findStudent db t row.identifier = some s →
            s.id ∈ contractedStudentIds db₁ t dto.academicYearId) →
        isFor db t c.studentId row = false := by
      rintro c mem new ⟨tenant, year, -⟩ contracted
      cases found : confirmPaymentImport.findStudent db t row.identifier with
      | none => simp [isFor, found]
      | some s =>
        have differ : s.id ≠ c.studentId := fun same =>
          not_contracted_of_added mem later.stays new tenant year (same ▸ contracted s found)
        simp [isFor, found, differ]
    rcases importRow_cases first with ⟨rfl, contracted⟩ | ⟨s, found, allocated⟩
    · refine ⟨later.stays, later.kept, fun c mem => ?_⟩
      by_cases old : c ∈ db₁.contracts.rows
      · exact .inl old
      · have new := (later.adds c mem).resolve_left old
        have skipped := passed c mem old new contracted
        obtain ⟨tenant, year, other, here, sums⟩ := new
        exact .inr ⟨tenant, year, other, by rw [List.find?_cons, skipped]; exact here, sums⟩
    · have adds := allocate_schedules allocated
      obtain ⟨⟨c₀, is, rows₁⟩, students, -⟩ := allocate_spec allocated
      have isFor_eq : isFor db₁ t = isFor db t := by
        funext studentId r
        rw [isFor, isFor, confirmPaymentImport.findStudent, confirmPaymentImport.findStudent,
          students]
      refine ⟨fun c mem => later.stays c (adds.stays c mem),
        fun c mem => (later.kept c (adds.stays c mem)).trans (adds.kept c mem), fun c mem => ?_⟩
      by_cases before : c ∈ db₁.contracts.rows
      · rw [later.kept c before]
        refine (adds.adds c before).imp id ?_
        rintro ⟨tenant, year, student, sums⟩
        refine ⟨tenant, year, row, ?_, sums⟩
        rw [List.find?_cons, isFor, found]
        simp [student]
      · have new := (later.adds c mem).resolve_left before
        have skipped := passed c mem before new fun s' found' => by
          obtain rfl := Option.some.inj (found.symm.trans found')
          refine List.mem_map.mpr ⟨c₀, List.mem_filter.mpr ⟨?_, ?_⟩, is.student⟩
          · rw [rows₁]
            exact List.mem_append_right _ List.mem_cons_self
          · simp [is.tenant, is.year]
        obtain ⟨tenant, year, other, here, sums⟩ := new
        rw [isFor_eq] at here
        exact .inr ⟨tenant, year, other, by rw [List.find?_cons, skipped]; exact here, sums⟩

end confirmAllocationImport

/-! ### Both ways -/

/-- The requests that split a plan. -/
inductive Allocation where
  | applyFeePlan (env : ℕ → Env) (plans : List FeePlanDetails) (enrollments : List ClassEnrollment)
      (tenantId planId : Id)
  | confirmAllocationImport (env : ℕ → Env) (plans : Table FeePlan) (tenantId : Id)
      (dto : ConfirmFeeAllocationImportDto)

namespace Allocation

def creation : Allocation → Creation
  | .applyFeePlan env plans enrollments t planId => .applyFeePlan env plans enrollments t planId
  | .confirmAllocationImport env plans t dto => .confirmAllocationImport env plans t dto

/-- The shares of the contract's amount are whole; of an import this is the amount of the first row
for its student. -/
def Whole (db : Db) (contract : StudentFeeContract) : Allocation → Prop
  | .applyFeePlan _ plans _ t planId =>
    ∀ plan, getFeePlan plans t planId = .ok plan → Finance.applyFeePlan.Whole plan
  | .confirmAllocationImport _ plans t dto =>
    ∀ row, dto.rows.find? (Finance.confirmAllocationImport.isFor db t contract.studentId) =
      some row → confirmAllocationImport.OfRow
        (Finance.confirmAllocationImport.Whole plans t dto.feePlanId) row

/-- The plan splits the amount. -/
def Splits (db : Db) (contract : StudentFeeContract) : Allocation → Prop
  | .applyFeePlan _ plans _ t planId =>
    ∀ plan, getFeePlan plans t planId = .ok plan → Finance.applyFeePlan.Splits plan
  | .confirmAllocationImport _ plans t dto =>
    ∀ row, dto.rows.find? (Finance.confirmAllocationImport.isFor db t contract.studentId) =
      some row → confirmAllocationImport.OfRow
        (Finance.confirmAllocationImport.Splits plans t dto.feePlanId) row

end Allocation

/-- The installments of the contract are positive and add up to what is payable. -/
def AddsUp (db : Db) (contract : StudentFeeContract) : Prop :=
  SumsTo contract.finalPayableAmount (schedule db contract.id)

namespace School

def enrollment : ClassEnrollment := ⟨1, 1, 1, 1, 1, true⟩

/-- A plan of 36 000 000 for the whole school. -/
def plan (installmentCount : ℕ) (shares : List ℚ) : FeePlanDetails where
  id := 1
  tenantId := 1
  installmentConfig := some ((shares.zipIdx 1).map fun (share, i) =>
    { number := i, title := "قسط", percentOrAmount := .finite share, dueMonthOffset := i - 1 })
  academicYearId := 1
  academicYearName := "1404-1405"
  title := "شهریه سالانه"
  amount := ⟨3600000000, by decide⟩
  installmentCount
  amount_min := by norm_num [Money.value]

def allocation (installmentCount : ℕ) (shares : List ℚ) : Allocation :=
  .applyFeePlan (draws 1) [plan installmentCount shares] [enrollment] 1 1

end School

end Rokad.Finance
