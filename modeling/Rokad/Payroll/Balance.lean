import Rokad.Payroll.Amounts

/-!
# Sheets that balance

A sheet balances when its columns say what its lines come to (`Sheet.Balanced`). The columns and the
lines are computed apart, and each is rounded to whole tomans when it is stored. They agree where
nothing is lost on the way: the sheet of a contract balances when its adjustments add up without
rounding (`Tells.balanced`), that of a request when its amounts are whole, and that of a payroll
profile always (`balanced_of_generatedSheet`).
-/

namespace Rokad.Payroll

open Rokad.Base Rokad.Common

/-! ### Signs of whole amounts -/

theorem lt_zero_eq (x : Number) : x.lt (.finite 0) = Number.lt (.finite 0) x.neg := by
  cases x with
  | nan => rfl
  | infinity s => cases s <;> rfl
  | finite a => exact decide_eq_decide.mpr neg_pos.symm

theorem zero_lt_toDouble (z : ℤ) : Number.lt (.finite 0) (toDouble z) = decide (0 < z) := by
  rcases lt_trichotomy z 0 with negative | rfl | positive
  · have above : Number.lt (.finite 0) (toDouble z).neg = true := by
      have opposite := pos_toDouble (z := -z) (by omega)
      rwa [Int.cast_neg, toDouble_neg] at opposite
    rw [decide_eq_false (by omega)]
    cases double : toDouble (z : ℚ) with
    | nan => rfl
    | infinity s =>
      rw [double] at above
      cases s
      · cases above
      · rfl
    | finite a =>
      rw [double] at above
      have less : 0 < -a := of_decide_eq_true above
      exact decide_eq_false (by linarith)
  · rw [toDouble_intCast (by norm_num), Int.cast_zero]
    rfl
  · rw [pos_toDouble positive, decide_eq_true positive]

theorem toDouble_lt_zero (z : ℤ) : (toDouble (z : ℚ)).lt (.finite 0) = decide (z < 0) := by
  rw [lt_zero_eq, ← toDouble_neg, ← Int.cast_neg, zero_lt_toDouble]
  exact decide_eq_decide.mpr (by omega)

theorem rounded_whole {x : ℚ} (nonneg : 0 ≤ x) :
    (∃ n : ℤ, 0 ≤ n ∧ (toDouble x).round = .finite (n : ℚ)) ∨ Large (toDouble x).round := by
  cases double : toDouble x with
  | nan => exact absurd double (toDouble_ne_nan x)
  | infinity s =>
    refine .inr fun v finite => ?_
    cases finite
  | finite a =>
    have above : 0 ≤ a := by
      rw [toDouble_finite double]
      exact rounded_nonneg nonneg
    exact .inl ⟨⌊a + 1 / 2⌋, Int.floor_nonneg.mpr (by linarith), rfl⟩

/-! ### Totals -/

/-- What the lines of a sheet come to. -/
def total (lines : List Line) : ℤ := (lines.map (·.amount.tomans)).sum

/-- The columns of a sheet say what its lines come to. -/
structure Sheet.Balanced (sheet : Sheet) : Prop where
  final : sheet.finalAmount.tomans = max 0 (total sheet.lines)
  net : sheet.netPay.tomans = max 0 (total sheet.lines)
  gross : 0 ≤ total sheet.lines →
    sheet.grossPay.tomans - sheet.totalDeductions.tomans = total sheet.lines

/-! ### Whole amounts -/

section

variable {x y : Number} {n k : ℤ} {m : Toman}

theorem large_add (large : Large x) (other : Large y ∨ ∃ b : ℚ, 0 ≤ b ∧ y = .finite b) :
    Large (x.add y) := by
  rcases other with large' | ⟨b, nonneg, rfl⟩
  · cases x with
    | nan =>
      intro v finite
      cases y <;> cases finite
    | infinity s =>
      intro v finite
      cases y with
      | infinity t =>
        simp only [Number.add] at finite
        split_ifs at finite
      | nan => cases finite
      | finite b => cases finite
    | finite a =>
      cases y with
      | nan =>
        intro v finite
        cases finite
      | infinity t =>
        intro v finite
        cases finite
      | finite b =>
        exact large.add (le_trans (by norm_num) (large' b rfl))
  · exact large.add nonneg

theorem large_add_left (nonneg : 0 ≤ n) (large : Large y) :
    Large ((Number.finite (n : ℚ)).add y) := by
  cases y with
  | nan =>
    intro v finite
    cases finite
  | infinity t =>
    intro v finite
    cases finite
  | finite b =>
    have cast : (0 : ℚ) ≤ n := by exact_mod_cast nonneg
    exact large_toDouble ((large b rfl).trans (by linarith))

theorem Large.abs (large : Large x) : Large x.abs := by
  cases x with
  | nan =>
    intro v finite
    cases finite
  | infinity s =>
    intro v finite
    cases finite
  | finite a =>
    intro v finite
    cases finite
    exact (large a rfl).trans (le_abs_self a)

/-- What goes into its column in place of a whole number is the number, or nothing below zero. -/
theorem column_max_toDouble
    (stored : column ((Number.finite 0).max (toDouble k)) = .ok m) : m.tomans = max 0 k := by
  have value : (Number.finite 0).max (toDouble k) = if 0 < k then toDouble k else .finite 0 := by
    simp [Number.max, toDouble_ne_nan, zero_lt_toDouble]
  rw [value] at stored
  split_ifs at stored with positive
  · rcases toDouble_whole_or_large positive.le with whole | large
    · rw [whole] at stored
      rw [(column_whole positive.le stored).1, max_eq_right positive.le]
    · exact absurd stored (large.not_stored m)
  · have zero : column (.finite ((0 : ℤ) : ℚ)) = .ok m := by
      rw [Int.cast_zero]
      exact stored
    rw [(column_whole le_rfl zero).1, max_eq_left (not_lt.mp positive)]

end

/-! ### Amounts of a request -/

/-- The whole tomans of a draft. -/
def ItemDraft.tomans (d : ItemDraft) : ℤ :=
  match d.amount with
  | .finite a => ⌊a⌋
  | _ => 0

theorem ItemDraft.tomans_of_finite {d : ItemDraft} {z : ℤ} (is : d.amount = .finite (z : ℚ)) :
    d.tomans = z := by
  unfold ItemDraft.tomans
  rw [is]
  exact Int.floor_intCast z

section

variable {drafts : List ItemDraft}

/-- The amounts are these whole numbers, and so is their sum; or the sum fits in no column. -/
theorem sumOf_cases (nonneg : ∀ d ∈ drafts, 0 ≤ d.tomans)
    (amounts : ∀ d ∈ drafts, d.amount = .finite (d.tomans : ℚ) ∨ Large d.amount) :
    ((∀ d ∈ drafts, d.amount = .finite (d.tomans : ℚ)) ∧
      sumOf drafts = .finite (((drafts.map (·.tomans)).sum : ℤ) : ℚ)) ∨ Large (sumOf drafts) := by
  induction drafts using List.reverseRecOn with
  | nil => exact .inl ⟨List.forall_mem_nil _, by simp [sumOf]⟩
  | append_singleton drafts d ih =>
    have sum : sumOf (drafts ++ [d]) = (sumOf drafts).add d.amount := List.foldl_append
    have nonnegD := nonneg d (by simp)
    have amountD := amounts d (by simp)
    rw [sum]
    rcases ih (fun d mem => nonneg d (List.mem_append_left _ mem))
      (fun d mem => amounts d (List.mem_append_left _ mem)) with ⟨each, before⟩ | large
    · have beforeNonneg : 0 ≤ (drafts.map (·.tomans)).sum := List.sum_nonneg fun n mem => by
        obtain ⟨d, memD, rfl⟩ := List.mem_map.mp mem
        exact nonneg d (List.mem_append_left _ memD)
      rw [before]
      rcases amountD with whole | large
      · rw [whole]
        have added : (Number.finite (((drafts.map (·.tomans)).sum : ℤ) : ℚ)).add
            (.finite (d.tomans : ℚ)) =
              toDouble (((drafts.map (·.tomans)).sum + d.tomans : ℤ) : ℚ) := by
          push_cast
          rfl
        rw [added]
        refine (toDouble_whole_or_large (by omega)).imp_left fun exact' => ⟨?_, ?_⟩
        · intro e mem
          rcases List.mem_append.mp mem with mem | mem
          · exact each e mem
          · rw [List.mem_singleton.mp mem, whole]
        · rw [exact', List.map_append, List.sum_append, List.map_singleton, List.sum_singleton]
      · exact .inr (large_add_left beforeNonneg large)
    · refine .inr (large_add large ?_)
      rcases amountD with whole | large
      · exact .inr ⟨d.tomans, by exact_mod_cast nonnegD, whole⟩
      · exact .inl large

/-- A draft with the opposite amount. -/
def ItemDraft.opposite (d : ItemDraft) : ItemDraft := { d with amount := d.amount.neg }

theorem sumOf_opposite (drafts : List ItemDraft) :
    sumOf (drafts.map (·.opposite)) = (sumOf drafts).neg := by
  induction drafts using List.reverseRecOn with
  | nil => simp [sumOf, Number.neg]
  | append_singleton drafts d ih =>
    have sum : sumOf (drafts ++ [d]) = (sumOf drafts).add d.amount := List.foldl_append
    have sum' : sumOf ((drafts ++ [d]).map (·.opposite)) =
        (sumOf (drafts.map (·.opposite))).add d.opposite.amount := by
      rw [List.map_append]
      exact List.foldl_append
    rw [sum, sum', ih, Number.minus_add]
    rfl

/-- The lines of drafts whose amounts are whole numbers that fit. -/
theorem total_of_linesOf {lines : List Line} (written : linesOf drafts = some lines)
    (amounts : ∀ d ∈ drafts, d.amount = .finite (d.tomans : ℚ) ∧ |d.tomans| < 10 ^ 15) :
    total lines = (drafts.map (·.tomans)).sum := by
  induction drafts generalizing lines with
  | nil =>
    cases written
    rfl
  | cons d drafts ih =>
    obtain ⟨whole, small⟩ := amounts d List.mem_cons_self
    obtain ⟨m, stored, is⟩ := column_intCast small
    simp only [linesOf, lineOf, whole, stored, Except.toOption, Option.map_some,
      Option.bind_eq_bind, Option.bind_some, Option.bind_eq_some_iff, Option.some.injEq]
      at written
    obtain ⟨rest, writtenRest, rfl⟩ := written
    have sum := ih writtenRest fun d mem => amounts d (List.mem_cons_of_mem _ mem)
    rw [List.map_cons, List.sum_cons, ← sum, ← is]
    rfl

end

/-! ### The sheet of a contract -/

section

variable {c : TeacherContract} {sessions month : ℕ} {pending : List PayrollAdjustment}

theorem total_append (lines others : List Line) :
    total (lines ++ others) = total lines + total others := by
  unfold total
  rw [List.map_append, List.sum_append]

theorem total_lines {base teaching : Toman} (base_nonneg : 0 ≤ base.tomans)
    (teaching_nonneg : 0 ≤ teaching.tomans) :
    total (c.lines sessions month base teaching) = base.tomans + teaching.tomans := by
  unfold TeacherContract.lines
  rw [total_append]
  congr 1
  · split_ifs with positive
    · simp [total]
    · simp only [total, List.map_nil, List.sum_nil]
      omega
  · split_ifs with positive
    · simp [total]
    · simp only [total, List.map_nil, List.sum_nil]
      omega

theorem totalAdjustment_eq
    (adds : AddsExactly (pending.map fun adj => (adj.amount.tomans : ℚ))) :
    totalAdjustment pending = .finite ((total (pending.map (·.line)) : ℤ) : ℚ) := by
  have sum := foldl_add_of_addsExactly adds
  rw [List.foldl_map] at sum
  unfold totalAdjustment total
  simp only [Toman.toNumber_eq]
  rw [sum, Int.cast_list_sum, List.map_map, List.map_map]
  rfl

/-- What the adjustments add up to without rounding makes a sheet that balances. -/
theorem Tells.balanced {sheet : Sheet} (priced : c.Priced)
    (tells : Tells c sessions month pending sheet)
    (adds : AddsExactly (pending.map fun adj => (adj.amount.tomans : ℚ))) : sheet.Balanced := by
  obtain ⟨base, teaching, isBase, isTeaching, lines⟩ := tells.lines
  have sum : total sheet.lines = c.teaching sessions + c.base + total (pending.map (·.line)) := by
    rw [lines, total_append, total_lines (isBase ▸ priced.base_nonneg)
      (isTeaching ▸ priced.teaching_nonneg sessions), isBase, isTeaching]
    ring
  have final := tells.final
  rw [totalAdjustment_eq adds] at final
  have exact' : (Number.finite ((c.teaching sessions + c.base : ℤ) : ℚ)).add
      (.finite ((total (pending.map (·.line)) : ℤ) : ℚ)) =
        toDouble ((total sheet.lines : ℤ) : ℚ) := by
    rw [sum]
    push_cast
    rfl
  rw [exact'] at final
  have is := column_max_toDouble final
  refine ⟨is, tells.net ▸ is, fun nonneg => ?_⟩
  rw [tells.gross, tells.deductions, is, max_eq_right nonneg]
  exact sub_zero _

end

/-! ### A slip generated from a request -/

section

variable {drafts : List ItemDraft}

/-- The positive amounts of a request. -/
def gains (drafts : List ItemDraft) : List ItemDraft :=
  drafts.filter fun item => Number.lt (.finite 0) item.amount

/-- The negative amounts of a request, turned. -/
def losses (drafts : List ItemDraft) : List ItemDraft :=
  (drafts.filter fun item => item.amount.lt (.finite 0)).map (·.opposite)

theorem amount_of_positive {d : ItemDraft} {z : ℤ} (positive : 0 < z)
    (is : d.amount = toDouble z) :
    0 ≤ d.tomans ∧ (d.amount = .finite (d.tomans : ℚ) ∨ Large d.amount) := by
  rcases toDouble_whole_or_large positive.le with whole | large
  · rw [whole] at is
    rw [ItemDraft.tomans_of_finite is]
    exact ⟨positive.le, .inl is⟩
  · rw [← is] at large
    refine ⟨?_, .inr large⟩
    unfold ItemDraft.tomans
    cases amount : d.amount with
    | nan => exact le_rfl
    | infinity s => exact le_rfl
    | finite a =>
      have above := large a amount
      exact Int.floor_nonneg.mpr (by linarith)

theorem amount_of_gain (whole : ∀ d ∈ drafts, ∃ z : ℤ, d.amount = toDouble z) :
    ∀ d ∈ gains drafts, 0 ≤ d.tomans ∧ (d.amount = .finite (d.tomans : ℚ) ∨ Large d.amount) := by
  intro d mem
  obtain ⟨mem, positive⟩ := List.mem_filter.mp mem
  obtain ⟨z, is⟩ := whole d mem
  rw [is, zero_lt_toDouble] at positive
  exact amount_of_positive (of_decide_eq_true positive) is

theorem amount_of_loss (whole : ∀ d ∈ drafts, ∃ z : ℤ, d.amount = toDouble z) :
    ∀ d ∈ losses drafts, 0 ≤ d.tomans ∧ (d.amount = .finite (d.tomans : ℚ) ∨ Large d.amount) := by
  intro d mem
  obtain ⟨d, negative, rfl⟩ := List.mem_map.mp mem
  obtain ⟨mem, negative⟩ := List.mem_filter.mp negative
  obtain ⟨z, is⟩ := whole d mem
  rw [is, toDouble_lt_zero] at negative
  refine amount_of_positive (z := -z) (by simpa using negative) ?_
  rw [Int.cast_neg, toDouble_neg, ← is]
  rfl

theorem ItemDraft.tomans_opposite {d : ItemDraft}
    (is : d.opposite.amount = .finite (d.opposite.tomans : ℚ)) :
    d.amount = .finite (d.tomans : ℚ) ∧ d.opposite.tomans = -d.tomans := by
  have amount : d.amount = .finite ((-d.opposite.tomans : ℤ) : ℚ) := by
    change d.amount.neg = _ at is
    cases value : d.amount with
    | nan => rw [value] at is; cases is
    | infinity s => rw [value] at is; cases is
    | finite a =>
      rw [value] at is
      have turned : -a = (d.opposite.tomans : ℚ) := Number.finite.inj is
      rw [Int.cast_neg, ← turned, neg_neg]
  have tomans := ItemDraft.tomans_of_finite amount
  exact ⟨by rw [amount, tomans], by rw [tomans, neg_neg]⟩

/-- Amounts whose gains and losses are whole numbers are whole numbers. -/
theorem amount_of_parts (whole : ∀ d ∈ drafts, ∃ z : ℤ, d.amount = toDouble z)
    (ofGains : ∀ d ∈ gains drafts, d.amount = .finite (d.tomans : ℚ))
    (ofLosses : ∀ d ∈ losses drafts, d.amount = .finite (d.tomans : ℚ)) :
    ∀ d ∈ drafts, d.amount = .finite (d.tomans : ℚ) := by
  intro d mem
  obtain ⟨z, is⟩ := whole d mem
  have positive := zero_lt_toDouble z
  have negative := toDouble_lt_zero z
  rw [← is] at positive negative
  rcases lt_trichotomy z 0 with less | rfl | more
  · rw [decide_eq_true less] at negative
    exact (ItemDraft.tomans_opposite
      (ofLosses _ (List.mem_map_of_mem (List.mem_filter.mpr ⟨mem, negative⟩)))).1
  · rw [toDouble_intCast (by norm_num)] at is
    rw [is, ItemDraft.tomans_of_finite is]
  · rw [decide_eq_true more] at positive
    exact ofGains d (List.mem_filter.mpr ⟨mem, positive⟩)

theorem sum_by_sign {α : Type} (f : α → ℤ) (as : List α) : (as.map f).sum =
    ((as.filter fun a => 0 < f a).map f).sum - ((as.filter fun a => f a < 0).map (-f ·)).sum := by
  induction as with
  | nil => rfl
  | cons a as ih =>
    rw [List.map_cons, List.sum_cons, ih, List.filter_cons, List.filter_cons]
    rcases lt_trichotomy (f a) 0 with less | zero | more
    · simp only [less, not_lt.mpr less.le, decide_true, decide_false, if_true, Bool.false_eq_true,
        if_false, List.map_cons, List.sum_cons]
      ring
    · simp [zero]
    · simp only [more, not_lt.mpr more.le, decide_true, decide_false, if_true, Bool.false_eq_true,
        if_false, List.map_cons, List.sum_cons]
      ring

/-- Whole amounts: what is gained and what is lost. -/
theorem tomans_by_sign (exact' : ∀ d ∈ drafts, d.amount = .finite (d.tomans : ℚ)) :
    (drafts.map (·.tomans)).sum =
      ((gains drafts).map (·.tomans)).sum - ((losses drafts).map (·.tomans)).sum := by
  have gainsEq : gains drafts = drafts.filter fun d => 0 < d.tomans :=
    List.filter_congr fun d mem => by
      rw [exact' d mem]
      exact decide_eq_decide.mpr Int.cast_pos
  have lossesEq : (losses drafts).map (·.tomans) =
      (drafts.filter fun d => d.tomans < 0).map fun d => -d.tomans := by
    have same : (drafts.filter fun item => item.amount.lt (.finite 0)) =
        drafts.filter fun d => d.tomans < 0 := List.filter_congr fun d mem => by
      rw [exact' d mem]
      exact decide_eq_decide.mpr Int.cast_lt_zero
    rw [losses, same, List.map_map]
    refine List.map_congr_left fun d mem => ?_
    refine ItemDraft.tomans_of_finite (d := d.opposite) ?_
    change d.amount.neg = _
    rw [exact' d (List.mem_of_mem_filter mem), Int.cast_neg]
    rfl
  rw [sum_by_sign, gainsEq, lossesEq]

/-- What is stored for gains or losses is what they come to. -/
theorem sum_of_stored (amounts : ∀ d ∈ drafts, 0 ≤ d.tomans ∧
      (d.amount = .finite (d.tomans : ℚ) ∨ Large d.amount))
    {x : Number} (is : x = sumOf drafts ∨ x = (sumOf drafts).abs) {m : Toman}
    (stored : column x = .ok m) :
    (∀ d ∈ drafts, d.amount = .finite (d.tomans : ℚ)) ∧
      x = .finite (((drafts.map (·.tomans)).sum : ℤ) : ℚ) ∧
      m.tomans = (drafts.map (·.tomans)).sum ∧
      ∀ d ∈ drafts, 0 ≤ d.tomans ∧ d.tomans < 10 ^ 15 := by
  have nonneg : 0 ≤ (drafts.map (·.tomans)).sum := List.sum_nonneg fun n mem => by
    obtain ⟨d, memD, rfl⟩ := List.mem_map.mp mem
    exact (amounts d memD).1
  rcases sumOf_cases (fun d mem => (amounts d mem).1) (fun d mem => (amounts d mem).2)
    with ⟨each, sum⟩ | large
  · have value : x = .finite (((drafts.map (·.tomans)).sum : ℤ) : ℚ) := by
      rcases is with rfl | rfl
      · exact sum
      · rw [sum]
        exact congrArg Number.finite (abs_of_nonneg (by exact_mod_cast nonneg))
    rw [value] at stored
    obtain ⟨same, small⟩ := column_whole nonneg stored
    refine ⟨each, value, same, fun d mem => ⟨(amounts d mem).1, lt_of_le_of_lt ?_ small⟩⟩
    refine List.single_le_sum (fun n memN => ?_) _ (List.mem_map_of_mem mem)
    obtain ⟨d, memD, rfl⟩ := List.mem_map.mp memN
    exact (amounts d memD).1
  · rcases is with rfl | rfl
    · exact absurd stored (large.not_stored m)
    · exact absurd stored (large.abs.not_stored m)

/-- The sheet of a slip is that of its columns and its items. -/
theorem generatedSheet_spec {pay : Pay} {sheet : Sheet}
    (written : generatedSheet pay = some sheet) :
    column pay.grossPay = .ok sheet.grossPay ∧
      column pay.totalDeductions = .ok sheet.totalDeductions ∧
      column pay.netPay = .ok sheet.netPay ∧ sheet.finalAmount = sheet.netPay ∧
      linesOf pay.items = some sheet.lines := by
  unfold generatedSheet at written
  cases stored : payColumns pay with
  | error e =>
    simp only [stored, Except.toOption, Option.bind_eq_bind, Option.bind_none, reduceCtorEq]
      at written
  | ok cols =>
    simp only [stored, Except.toOption, Option.bind_eq_bind, Option.bind_some,
      Option.bind_eq_some_iff, Option.some.injEq] at written
    obtain ⟨lines, ofItems, rfl⟩ := written
    simp only [payColumns, do_eq_ok] at stored
    obtain ⟨g, gross, d, deductions, n, net, rfl⟩ := stored
    exact ⟨gross, deductions, net, rfl, ofItems⟩

/-- A slip whose whole amounts fit. -/
theorem balanced_of_whole {pay : Pay} {sheet : Sheet} {gross deductions : ℤ}
    (written : generatedSheet pay = some sheet) (ofGross : pay.grossPay = .finite (gross : ℚ))
    (ofDeductions : pay.totalDeductions = .finite (deductions : ℚ))
    (isGross : sheet.grossPay.tomans = gross)
    (isDeductions : sheet.totalDeductions.tomans = deductions)
    (sum : total sheet.lines = gross - deductions) : sheet.Balanced := by
  obtain ⟨-, -, inNet, final, -⟩ := generatedSheet_spec written
  have rest : pay.grossPay.sub pay.totalDeductions = toDouble ((gross - deductions : ℤ) : ℚ) := by
    rw [ofGross, ofDeductions, Int.cast_sub, sub_eq_add_neg]
    rfl
  rw [Pay.netPay, rest] at inNet
  have net : sheet.netPay.tomans = max 0 (total sheet.lines) := sum ▸ column_max_toDouble inNet
  exact ⟨final ▸ net, net, fun _ => by rw [isGross, isDeductions, sum]⟩

/-- Whole amounts make a sheet that balances. -/
theorem balanced_of_customPay {items : List CreatePayrollItemDto} {sheet : Sheet}
    (written : generatedSheet (customPay items) = some sheet)
    (whole : ∀ item ∈ items, item.amount.den = 1) : sheet.Balanced := by
  obtain ⟨inGross, inDeductions, -, -, ofLines⟩ := generatedSheet_spec written
  change linesOf (items.map (·.toDraft)) = _ at ofLines
  change column (sumOf (gains (items.map (·.toDraft)))) = _ at inGross
  have turned : (customPay items).totalDeductions =
      (sumOf (losses (items.map (·.toDraft)))).abs := by
    rw [losses, sumOf_opposite, Number.abs_minus]
    rfl
  have ofItems : ∀ d ∈ items.map (·.toDraft), ∃ z : ℤ, d.amount = toDouble z := by
    intro d mem
    obtain ⟨item, memItem, rfl⟩ := List.mem_map.mp mem
    exact ⟨item.amount.num, congrArg toDouble ((Rat.den_eq_one_iff _).mp (whole item memItem)).symm⟩
  obtain ⟨ofGains, gross, isGross, smallGains⟩ :=
    sum_of_stored (amount_of_gain ofItems) (.inl rfl) inGross
  obtain ⟨ofLosses, deductions, isDeductions, smallLosses⟩ :=
    sum_of_stored (amount_of_loss ofItems) (.inr turned) inDeductions
  have each := amount_of_parts ofItems ofGains ofLosses
  refine balanced_of_whole written gross deductions isGross isDeductions ?_
  rw [total_of_linesOf ofLines fun d mem => ⟨each d mem, ?_⟩, tomans_by_sign each]
  rcases lt_trichotomy d.tomans 0 with less | zero | more
  · have lost : d.opposite ∈ losses (items.map (·.toDraft)) := by
      refine List.mem_map_of_mem (List.mem_filter.mpr ⟨mem, ?_⟩)
      rw [each d mem]
      exact decide_eq_true (Int.cast_lt_zero.mpr less)
    have opposite := (ItemDraft.tomans_opposite (ofLosses _ lost)).2
    have small := (smallLosses _ lost).2
    rw [abs_of_neg less]
    omega
  · rw [zero]
    norm_num
  · have gained : d ∈ gains (items.map (·.toDraft)) := by
      refine List.mem_filter.mpr ⟨mem, ?_⟩
      rw [each d mem]
      exact decide_eq_true (Int.cast_pos.mpr more)
    rw [abs_of_pos more]
    exact (smallGains d gained).2

end

/-! ### A slip generated from the profile -/

/-- A share of a whole amount, rounded. -/
theorem share_whole_or_large {b : ℤ} {r : ℚ} (nonneg : 0 ≤ b) (rate : 0 ≤ r) :
    (∃ n : ℤ, 0 ≤ n ∧ ((Number.finite (b : ℚ)).mul (toDouble r)).round = .finite (n : ℚ)) ∨
      Large ((Number.finite (b : ℚ)).mul (toDouble r)).round := by
  cases double : toDouble r with
  | nan => exact absurd double (toDouble_ne_nan r)
  | infinity s =>
    refine .inr fun v finite => ?_
    simp only [Number.mul] at finite
    split_ifs at finite <;> cases finite
  | finite a =>
    have above : 0 ≤ a := by
      rw [toDouble_finite double]
      exact rounded_nonneg rate
    exact rounded_whole (mul_nonneg (by exact_mod_cast nonneg) above)

theorem tax_whole_or_large {taxable : Number} {k : ℤ} (is : taxable = .finite (k : ℚ))
    (nonneg : 0 ≤ k) :
    (∃ n : ℤ, 0 ≤ n ∧ (if Number.lt (.finite 0) taxable then
      (taxable.mul (toDouble (1 / 10))).round else .finite 0) = .finite (n : ℚ)) ∨
    Large (if Number.lt (.finite 0) taxable then
      (taxable.mul (toDouble (1 / 10))).round else .finite 0) := by
  subst is
  split_ifs
  · exact share_whole_or_large nonneg (by norm_num)
  · exact .inl ⟨0, le_rfl, by rw [Int.cast_zero]⟩

/-- What is stored of an insurance and a tax is their sum. -/
theorem deductions_whole {x y : Number} {m : Toman}
    (first : (∃ n : ℤ, 0 ≤ n ∧ x = .finite (n : ℚ)) ∨ Large x)
    (second : (∃ n : ℤ, 0 ≤ n ∧ y = .finite (n : ℚ)) ∨ Large y)
    (stored : column (x.add y) = .ok m) :
    ∃ i t : ℤ, 0 ≤ i ∧ 0 ≤ t ∧ x = .finite (i : ℚ) ∧ y = .finite (t : ℚ) ∧
      x.add y = .finite ((i + t : ℤ) : ℚ) ∧ m.tomans = i + t ∧ i + t < 10 ^ 15 := by
  rcases first with ⟨i, nonnegI, rfl⟩ | large
  · rcases second with ⟨t, nonnegT, rfl⟩ | large
    · have sum : (Number.finite (i : ℚ)).add (.finite (t : ℚ)) = toDouble ((i + t : ℤ) : ℚ) := by
        rw [Int.cast_add]
        rfl
      rw [sum] at stored ⊢
      rcases toDouble_whole_or_large (add_nonneg nonnegI nonnegT) with whole | large
      · rw [whole] at stored
        obtain ⟨same, small⟩ := column_whole (add_nonneg nonnegI nonnegT) stored
        exact ⟨i, t, nonnegI, nonnegT, rfl, rfl, whole, same, small⟩
      · exact absurd stored (large.not_stored m)
    · exact absurd stored ((large_add_left nonnegI large).not_stored m)
  · refine absurd stored ((large_add large ?_).not_stored m)
    rcases second with ⟨t, nonnegT, rfl⟩ | large'
    · exact .inr ⟨t, by exact_mod_cast nonnegT, rfl⟩
    · exact .inl large'

/-- The items of a base salary: itself, and what is taken from it unless there is nothing. -/
theorem total_of_salary {b i t : ℤ} {base insurance tax : ItemDraft} {lines : List Line}
    (ofBase : base.amount = .finite (b : ℚ)) (smallB : |b| < 10 ^ 15)
    (ofInsurance : insurance.amount = (Number.finite (i : ℚ)).neg) (nonnegI : 0 ≤ i)
    (ofTax : tax.amount = (Number.finite (t : ℚ)).neg) (nonnegT : 0 ≤ t) (small : i + t < 10 ^ 15)
    (written : linesOf ([base] ++
      (if Number.lt (.finite 0) (.finite (i : ℚ)) then [insurance] else []) ++
      (if Number.lt (.finite 0) (.finite (t : ℚ)) then [tax] else [])) = some lines) :
    total lines = b - (i + t) := by
  have valueB := ItemDraft.tomans_of_finite ofBase
  have turnedI : insurance.amount = .finite ((-i : ℤ) : ℚ) := by
    rw [ofInsurance, Int.cast_neg]
    rfl
  have turnedT : tax.amount = .finite ((-t : ℤ) : ℚ) := by
    rw [ofTax, Int.cast_neg]
    rfl
  have valueI := ItemDraft.tomans_of_finite turnedI
  have valueT := ItemDraft.tomans_of_finite turnedT
  have smallI : |-i| < 10 ^ 15 := by
    rw [abs_neg, abs_of_nonneg nonnegI]
    omega
  have smallT : |-t| < 10 ^ 15 := by
    rw [abs_neg, abs_of_nonneg nonnegT]
    omega
  rw [total_of_linesOf written]
  · simp only [TeacherContract.lt_finite, decide_eq_true_eq, List.map_append, List.sum_append]
    split_ifs <;> simp [valueB, valueI, valueT] <;> omega
  · intro d mem
    simp only [List.mem_append, List.mem_singleton, or_assoc] at mem
    rcases mem with rfl | mem | mem
    · exact ⟨valueB ▸ ofBase, valueB ▸ smallB⟩
    · split_ifs at mem
      · rw [List.mem_singleton.mp mem, valueI]
        exact ⟨turnedI, smallI⟩
      · exact absurd mem List.not_mem_nil
    · split_ifs at mem
      · rw [List.mem_singleton.mp mem, valueT]
        exact ⟨turnedT, smallT⟩
      · exact absurd mem List.not_mem_nil

theorem taxable_eq {b : ℤ} (nonneg : 0 ≤ b) (small : b < 10 ^ 15) :
    (Number.finite 0).max ((Number.finite (b : ℚ)).sub (.finite 15000000)) =
      .finite ((max 0 (b - 15000000) : ℤ) : ℚ) := by
  have rest : (Number.finite (b : ℚ)).sub (.finite 15000000) =
      .finite ((b - 15000000 : ℤ) : ℚ) := by
    have double : toDouble ((b - 15000000 : ℤ) : ℚ) = .finite ((b - 15000000 : ℤ) : ℚ) :=
      toDouble_intCast (by rw [abs_le]; constructor <;> norm_num <;> omega)
    rw [← double, Int.cast_sub, sub_eq_add_neg]
    rfl
  rw [rest]
  simp only [Number.max, reduceCtorEq, or_self, if_false, TeacherContract.lt_finite,
    decide_eq_true_eq]
  split_ifs with positive
  · rw [max_eq_right positive.le]
  · rw [max_eq_left (not_lt.mp positive), Int.cast_zero]

/-- A base salary that is not negative makes a sheet that balances. -/
theorem balanced_of_profilePay {month : ℕ} {salary : Toman} {sheet : Sheet}
    (nonneg : 0 ≤ salary.tomans)
    (written : generatedSheet (profilePay month salary.toNumber) = some sheet) :
    sheet.Balanced := by
  obtain ⟨inGross, inDeductions, -, -, ofLines⟩ := generatedSheet_spec written
  have isGross : sheet.grossPay.tomans = salary.tomans := by
    change column salary.toNumber = _ at inGross
    rw [column_toNumber, Except.ok.injEq] at inGross
    rw [inGross]
  rw [Toman.toNumber_eq] at *
  have smallB := salary.abs_lt
  have taxable := taxable_eq nonneg (by rwa [abs_of_nonneg nonneg] at smallB)
  obtain ⟨i, t, nonnegI, nonnegT, ofInsurance, ofTax, sum, isDeductions, small⟩ :=
    deductions_whole (share_whole_or_large nonneg (by norm_num))
      (tax_whole_or_large taxable (le_max_left _ _)) inDeductions
  refine balanced_of_whole written rfl sum isGross isDeductions ?_
  unfold profilePay at ofLines
  dsimp only at ofLines
  rw [ofInsurance, ofTax] at ofLines
  exact total_of_salary rfl smallB rfl nonnegI rfl nonnegT small ofLines

theorem balanced_of_generatedSheet {profile : StaffPayrollProfile} {dto : GeneratePayrollSlipDto}
    {sheet : Sheet} (written : generatedSheet (payOf profile dto) = some sheet)
    (nonneg : 0 ≤ profile.baseMonthlySalary.tomans)
    (whole : ∀ items ∈ dto.customItems, ∀ item ∈ items, item.amount.den = 1) :
    sheet.Balanced := by
  unfold payOf at written
  split at written
  case h_1 item items custom => exact balanced_of_customPay written (whole _ custom)
  case h_2 => exact balanced_of_profilePay nonneg written

end Rokad.Payroll
