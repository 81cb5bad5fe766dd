import Rokad.Payroll.Amounts
import Rokad.Base.LastWrite
import Rokad.Payroll.Contracts

/-!
# The order of the contracts

A monthly calculation goes through the contracts in force in whatever order the database returns
them. It keeps one slip for a teacher, so where two contracts of one teacher are in force in the
month, as after a change of the rate, the second overwrites what the first came to and what is paid
depends on the order (`not_same_slips`). The slips are the same in every order exactly when the
contracts of each teacher whose slip is not issued yet come to the same pay (`same_slips_iff`).
-/

namespace Rokad.Payroll

open Rokad.Base Rokad.Common

/-! ### What is compared -/

/-- The amounts and the items of a slip. -/
def Sheet.contents (sheet : Sheet) : Toman × Toman × List Line :=
  (sheet.calculatedAmount, sheet.finalAmount, sheet.lines)

/-- Every user has the same slips, with the same amounts and items. -/
def SameSlips (db db' : Db) : Prop :=
  ∀ key, (db.book.sheet key).map Sheet.contents = (db'.book.sheet key).map Sheet.contents

/-- The database returns the contracts in another order. -/
def Reordered (staff staff' : Staff) : Prop :=
  ∃ contracts, contracts.Perm staff.contracts ∧ staff' = { staff with contracts }

/-- For a number of sessions two contracts pay alike: the base salary is the same and, unless there
was no session, the rate, and unless it is nothing the kind of it. -/
def SameTerms (sessions : ℕ) (c c' : TeacherContract) : Prop :=
  c.base = c'.base ∧ (sessions = 0 ∨ c.rateAmount.tomans = c'.rateAmount.tomans ∧
      (c.rateAmount.tomans = 0 ∨ c.rateType = c'.rateType))

/-- What is on the slip of each contract is what a calculation for it alone comes to. -/
def NoneOverwritten (jalaali : Jalaali) (range : MonthRange) (staff : Staff) (db db' : Db)
    (tenantId : Id) (dto : CalculateMonthlyPayrollDto) : Prop :=
  ∀ c ∈ contractsInForce staff tenantId range, ∃ alone,
    calculateMonthlyPayroll jalaali { staff with contracts := [c] } db tenantId dto = .ok alone ∧
      (alone.1.book.sheet ⟨tenantId, c.teacher.id, dto.year, dto.month⟩).map Sheet.contents =
        (db'.book.sheet ⟨tenantId, c.teacher.id, dto.year, dto.month⟩).map Sheet.contents

/-- The contracts of each teacher whose slip for the month is not issued pay alike. -/
def OneTerms (range : MonthRange) (staff : Staff) (db : Db) (tenantId : Id) (year month : ℕ) :
    Prop :=
  ∀ c ∈ contractsInForce staff tenantId range, ∀ c' ∈ contractsInForce staff tenantId range,
    c.teacher.id = c'.teacher.id →
      (db.slipOf tenantId c.teacher.id year month).any (·.status.isIssued) = true ∨
        SameTerms (countSessions staff tenantId range c.teacher.teacherProfileId) c c'

/-- A contract is joined with the one row of its teacher, and its amounts are not negative. -/
structure Staff.Sound (staff : Staff) : Prop where
  priced : ∀ c ∈ staff.contracts, c.Priced
  teachers : ∀ c ∈ staff.contracts, ∀ c' ∈ staff.contracts, c.teacher.id = c'.teacher.id →
    c.teacher = c'.teacher

/-! ### Contracts that pay alike -/

section

variable {c c' : TeacherContract} {sessions month : ℕ}

theorem teaching_eq_zero_iff (priced : c.Priced) :
    c.teaching sessions = 0 ↔ sessions = 0 ∨ c.rateAmount.tomans = 0 := by
  have rate := priced.rate
  have product : (sessions : ℤ) * c.rateAmount.tomans = 0 ↔
      sessions = 0 ∨ c.rateAmount.tomans = 0 := by
    rw [mul_eq_zero, Int.natCast_eq_zero]
  have nonneg : 0 ≤ (sessions : ℤ) * c.rateAmount.tomans :=
    mul_nonneg (Int.natCast_nonneg _) rate
  rw [← product]
  unfold TeacherContract.teaching
  split
  · rfl
  · omega

theorem rate_eq_of_teaching (some' : sessions ≠ 0) (type : c.rateType = c'.rateType)
    (same : c.teaching sessions = c'.teaching sessions) :
    c.rateAmount.tomans = c'.rateAmount.tomans := by
  have positive : 0 < (sessions : ℤ) := by omega
  have products : (sessions : ℤ) * c.rateAmount.tomans = sessions * c'.rateAmount.tomans →
      c.rateAmount.tomans = c'.rateAmount.tomans := mul_left_cancel₀ positive.ne'
  unfold TeacherContract.teaching at same
  rw [← type] at same
  cases kind : c.rateType with
  | perSession =>
    simp only [kind] at same
    exact products same
  | hourly =>
    simp only [kind] at same
    by_contra differ
    rcases lt_or_gt_of_ne differ with less | more
    · have step : (sessions : ℤ) * (c.rateAmount.tomans + 1) ≤ sessions * c'.rateAmount.tomans :=
        mul_le_mul_of_nonneg_left (by omega) positive.le
      rw [mul_add, mul_one] at step
      omega
    · have step : (sessions : ℤ) * (c'.rateAmount.tomans + 1) ≤ sessions * c.rateAmount.tomans :=
        mul_le_mul_of_nonneg_left (by omega) positive.le
      rw [mul_add, mul_one] at step
      omega

/-- The lines of one type. -/
def ofType (type : PayrollItemType) (lines : List Line) : List Line :=
  lines.filter (·.type = type)

theorem ofType_lines (base teaching : Toman) :
    ofType .baseSalary (c.lines sessions month base teaching) = (if 0 < base.tomans then
          [{ type := .baseSalary
             title := "حقوق ثابت پایه ماهیانه (" ++ monthName month ++ ")"
             amount := base }] else []) ∧
      ofType .hourlyTeaching (c.lines sessions month base teaching) = (if 0 < teaching.tomans then
          [{ type := .hourlyTeaching
             title := c.teachingTitle (c.units sessions)
             amount := teaching
             multiplierOrHours := some (c.units sessions) }] else []) := by
  unfold ofType TeacherContract.lines
  rw [List.filter_append, List.filter_append]
  constructor
  · split_ifs <;> rfl
  · split_ifs <;> rfl

/-- A title tells the kind of the rate. -/
theorem rateType_eq_of_title {units units' : Number}
    (same : c.teachingTitle units = c'.teachingTitle units') : c.rateType = c'.rateType := by
  unfold TeacherContract.teachingTitle at same
  have letters := congrArg String.toList same
  rw [String.toList_append, String.toList_append (s := "حق‌التدریس " ++ units'.toString)] at letters
  cases kind : c.rateType with
  | perSession =>
    cases kind' : c'.rateType with
    | perSession => rfl
    | hourly =>
      simp only [kind, kind'] at letters
      exact absurd (List.append_inj' letters (by decide)).2 (by decide)
  | hourly =>
    cases kind' : c'.rateType with
    | hourly => rfl
    | perSession =>
      simp only [kind, kind'] at letters
      exact absurd (List.append_inj' letters (by decide)).2 (by decide)

theorem units_eq (type : c.rateType = c'.rateType) (sessions : ℕ) :
    c.units sessions = c'.units sessions := by
  unfold TeacherContract.units calculation
  rw [type]
  cases c'.rateType with
  | perSession => rfl
  | hourly => rfl

theorem lines_of_no_teaching {base teaching : Toman} (none : teaching.tomans = 0) :
    c.lines sessions month base teaching = c'.lines sessions month base teaching := by
  unfold TeacherContract.lines
  rw [none]
  rfl

theorem lines_of_type (type : c.rateType = c'.rateType) (base teaching : Toman) :
    c.lines sessions month base teaching = c'.lines sessions month base teaching := by
  unfold TeacherContract.lines TeacherContract.teachingTitle
  rw [type, units_eq type]

theorem single_eq_iff {n n' : ℤ} (nonneg : 0 ≤ n) (nonneg' : 0 ≤ n') {line line' : Line}
    (amount : line.amount.tomans = n) (amount' : line'.amount.tomans = n')
    (same : (if 0 < n then [line] else []) = if 0 < n' then [line'] else []) :
    n = n' ∧ (0 < n → line = line') := by
  split_ifs at same
  · rw [List.singleton_inj] at same
    subst same
    exact ⟨amount.symm.trans amount', fun _ => rfl⟩
  · exact ⟨by omega, fun positive => by omega⟩

/-- Two contracts come to the same sheet exactly when they pay alike. -/
theorem contents_eq_iff (priced : c.Priced) (priced' : c'.Priced)
    {pending : List PayrollAdjustment} {sheet sheet' : Sheet}
    (tells : Tells c sessions month pending sheet)
    (tells' : Tells c' sessions month pending sheet') :
    sheet.contents = sheet'.contents ↔ SameTerms sessions c c' := by
  obtain ⟨b, t, base, teaching, lines⟩ := tells.lines
  obtain ⟨b', t', base', teaching', lines'⟩ := tells'.lines
  have nonneg := priced.teaching_nonneg sessions
  have nonneg' := priced'.teaching_nonneg sessions
  unfold Sheet.contents
  rw [lines, lines', Prod.mk.injEq, Prod.mk.injEq, List.append_left_inj]
  constructor
  · rintro ⟨-, -, same⟩
    have bases := congrArg (ofType .baseSalary) same
    have earned := congrArg (ofType .hourlyTeaching) same
    rw [(ofType_lines b t).1, (ofType_lines b' t').1] at bases
    rw [(ofType_lines b t).2, (ofType_lines b' t').2] at earned
    have inB : 0 ≤ b.tomans := base ▸ priced.base_nonneg
    have inB' : 0 ≤ b'.tomans := base' ▸ priced'.base_nonneg
    have inT : 0 ≤ t.tomans := teaching ▸ nonneg
    have inT' : 0 ≤ t'.tomans := teaching' ▸ nonneg'
    have sameBase := (single_eq_iff inB inB' rfl rfl bases).1
    obtain ⟨sameTeaching, line⟩ := single_eq_iff inT inT' rfl rfl earned
    rw [teaching, teaching'] at sameTeaching
    refine ⟨by rw [← base, ← base', sameBase], ?_⟩
    by_cases none : c.teaching sessions = 0
    · rcases (teaching_eq_zero_iff priced).mp none with noSession | free
      · exact .inl noSession
      · rcases (teaching_eq_zero_iff priced').mp (sameTeaching ▸ none) with noSession | free'
        · exact .inl noSession
        · exact .inr ⟨free.trans free'.symm, .inl free⟩
    · have type := rateType_eq_of_title (congrArg Line.title (line (by omega)))
      have some' : sessions ≠ 0 := fun noSession =>
        none ((teaching_eq_zero_iff priced).mpr (.inl noSession))
      exact .inr ⟨rate_eq_of_teaching some' type sameTeaching, .inr type⟩
  · rintro ⟨sameBase, terms⟩
    obtain ⟨sameTeaching, sameLines⟩ : c.teaching sessions = c'.teaching sessions ∧
        (c.teaching sessions = 0 ∨ c.rateType = c'.rateType) := by
      rcases terms with noSession | ⟨rate, free | type⟩
      · have none := (teaching_eq_zero_iff priced).mpr (.inl noSession)
        exact ⟨none.trans ((teaching_eq_zero_iff priced').mpr (.inl noSession)).symm, .inl none⟩
      · have none : c.teaching sessions = 0 := (teaching_eq_zero_iff priced).mpr (.inr free)
        exact ⟨none.trans ((teaching_eq_zero_iff priced').mpr (.inr (rate ▸ free))).symm, .inl none⟩
      · refine ⟨?_, .inr type⟩
        unfold TeacherContract.teaching
        rw [rate, type]
    have calculated : sheet.calculatedAmount = sheet'.calculatedAmount :=
      Toman.ext (by rw [tells.calculated, tells'.calculated, sameTeaching, sameBase])
    have final := tells.final
    rw [sameTeaching, sameBase, tells'.final, Except.ok.injEq] at final
    have sameB : b = b' := Toman.ext (by rw [base, base', sameBase])
    have sameT : t = t' := Toman.ext (by rw [teaching, teaching', sameTeaching])
    refine ⟨calculated, final.symm, ?_⟩
    subst sameB sameT
    rcases sameLines with none | type
    · exact lines_of_no_teaching (teaching.trans none)
    · exact lines_of_type type b t

end

/-! ### Contracts in turn -/

section

variable (range : MonthRange) (staff : Staff) (tenantId : Id) (year month : ℕ)
  (pending : Id → UserId → List PayrollAdjustment)

/-- The slip of a contract. -/
def contractKey (c : TeacherContract) : SlipKey := ⟨tenantId, c.teacher.id, year, month⟩

def sessionsOf (c : TeacherContract) : ℕ :=
  countSessions staff tenantId range c.teacher.teacherProfileId

def contractSheet (c : TeacherContract) : Option Sheet :=
  calculatedSheet c (sessionsOf range staff tenantId c) month (pending tenantId c.teacher.id)

def Book.issued (book : Book) (key : SlipKey) : Bool := (book.sheet key).any (·.status.isIssued)

/-- What is on a slip after the contract. -/
def contentsAfter (book : Book) (c : TeacherContract) : Option (Toman × Toman × List Line) :=
  if book.issued (contractKey tenantId year month c) then
    (book.sheet (contractKey tenantId year month c)).map Sheet.contents
  else (contractSheet range staff tenantId month pending c).map Sheet.contents

variable {range staff tenantId year month pending} {book book' : Book} {c : TeacherContract}
  {contracts : List TeacherContract}

theorem status_of_calculatedSheet {sessions : ℕ} {adjustments : List PayrollAdjustment}
    {sheet : Sheet} (written : calculatedSheet c sessions month adjustments = some sheet) :
    sheet.status = .draft := by
  unfold calculatedSheet at written
  simp only [Option.bind_eq_bind, Option.bind_eq_some_iff, Option.some.injEq] at written
  obtain ⟨columns, -, lines, -, rfl⟩ := written
  rfl

section

variable (posted : postContract range staff tenantId year month pending book c = some book')
include posted

theorem postContract_spec :
    (book.issued (contractKey tenantId year month c) = true ∧ book' = book) ∨
      (book.issued (contractKey tenantId year month c) = false ∧
        ∃ sheet, contractSheet range staff tenantId month pending c = some sheet ∧
          sheet.status = .draft ∧
          book'.sheet =
            Function.update book.sheet (contractKey tenantId year month c) (some sheet)) := by
  unfold postContract at posted
  dsimp only at posted
  split_ifs at posted with issued
  · exact .inl ⟨issued, (Option.some.inj posted).symm⟩
  · simp only [Option.bind_eq_bind, Option.bind_eq_some_iff] at posted
    obtain ⟨sheet, written, put⟩ := posted
    unfold Book.put at put
    split_ifs at put
    obtain rfl := Option.some.inj put
    exact .inr
      ⟨Bool.eq_false_iff.mpr issued, sheet, written, status_of_calculatedSheet written, rfl⟩

theorem issued_of_postContract
    (key : SlipKey) : book'.issued key = book.issued key := by
  rcases postContract_spec posted with ⟨-, rfl⟩ | ⟨open', sheet, -, draft, sheets⟩
  · rfl
  · unfold Book.issued at open' ⊢
    rw [sheets]
    by_cases here : key = contractKey tenantId year month c
    · subst here
      rw [Function.update_self, Option.any_some, draft, open']
      rfl
    · rw [Function.update_of_ne here]

theorem contentsAfter_of_postContract :
    contentsAfter range staff tenantId year month pending book' =
      contentsAfter range staff tenantId year month pending book := by
  funext d
  unfold contentsAfter
  rw [issued_of_postContract posted]
  split_ifs with issued
  · rcases postContract_spec posted with ⟨-, rfl⟩ | ⟨open', sheet, -, -, sheets⟩
    · rfl
    · rw [sheets, Function.update_of_ne]
      intro same
      rw [same, open'] at issued
      cases issued
  · rfl

end

/-- After the run each slip has what the last contract of its teacher came to. -/
theorem contents_of_run
    (ran : contracts.foldlM (postContract range staff tenantId year month pending) book =
      some book') (key : SlipKey) :
    (book'.sheet key).map Sheet.contents = (lastWrite (contractKey tenantId year month)
        (contentsAfter range staff tenantId year month pending book) contracts key).getD
          ((book.sheet key).map Sheet.contents) := by
  induction contracts generalizing book with
  | nil =>
    obtain rfl := Option.some.inj ran
    rfl
  | cons c contracts ih =>
    rw [List.foldlM_cons, Option.bind_eq_bind, Option.bind_eq_some_iff] at ran
    obtain ⟨book₁, posted, rest⟩ := ran
    rw [ih rest, contentsAfter_of_postContract posted, lastWrite_cons]
    cases lastWrite (contractKey tenantId year month)
      (contentsAfter range staff tenantId year month pending book) contracts key with
    | some contents => rfl
    | none =>
      rw [Option.getD_none, Option.none_or]
      by_cases here : contractKey tenantId year month c = key
      · subst here
        rw [if_pos rfl, Option.getD_some, contentsAfter]
        rcases postContract_spec posted with ⟨issued, rfl⟩ | ⟨open', sheet, written, -, sheets⟩
        · rw [if_pos issued]
        · rw [if_neg (by simp [open']), sheets, Function.update_self, written]
      · rw [if_neg here, Option.getD_none]
        rcases postContract_spec posted with ⟨-, rfl⟩ | ⟨-, sheet, -, -, sheets⟩
        · rfl
        · rw [sheets, Function.update_of_ne (Ne.symm here)]

variable (range staff tenantId year month pending) in
/-- Each contract whose slip is open fits its columns, and the slips that are new have numbers that
are new and differ. -/
def Runs (book : Book) (contracts : List TeacherContract) : Prop :=
  ∀ c ∈ contracts, book.issued (contractKey tenantId year month c) = true ∨
    (contractSheet range staff tenantId month pending c ≠ none ∧
      (book.sheet (contractKey tenantId year month c) = none →
        ¬ book.taken tenantId (slipNumber year month c.teacher.id) ∧
          ∀ d ∈ contracts, contractKey tenantId year month d ≠ contractKey tenantId year month c →
            book.sheet (contractKey tenantId year month d) = none →
              slipNumber year month d.teacher.id ≠ slipNumber year month c.teacher.id))

theorem Runs.subset {others : List TeacherContract} (sub : others ⊆ contracts)
    (runs : Runs range staff tenantId year month pending book contracts) :
    Runs range staff tenantId year month pending book others :=
  fun c mem => (runs c (sub mem)).imp_right fun ⟨written, new⟩ =>
    ⟨written, fun none => ⟨(new none).1, fun d memD => (new none).2 d (sub memD)⟩⟩

theorem sheet_ne_none_of_issued {key : SlipKey} (issued : book.issued key = true) :
    book.sheet key ≠ none := by
  intro none
  rw [Book.issued, none] at issued
  cases issued

theorem postContract_of_issued (issued : book.issued (contractKey tenantId year month c) = true) :
    postContract range staff tenantId year month pending book c = some book :=
  if_pos issued

theorem postContract_of_open (open' : ¬ book.issued (contractKey tenantId year month c) = true) :
    postContract range staff tenantId year month pending book c =
      (contractSheet range staff tenantId month pending c).bind fun sheet =>
        book.put (contractKey tenantId year month c) (slipNumber year month c.teacher.id) sheet :=
  if_neg open'

theorem slipNumber_eq {d : TeacherContract}
    (same : contractKey tenantId year month d = contractKey tenantId year month c) :
    slipNumber year month d.teacher.id = slipNumber year month c.teacher.id := by
  rw [show d.teacher.id = c.teacher.id from congrArg SlipKey.userId same]

/-- What is left to run after a contract has been written. -/
theorem runs_cons_of_put (open' : ¬ book.issued (contractKey tenantId year month c) = true)
    {sheet : Sheet} (written : contractSheet range staff tenantId month pending c = some sheet)
    (put : book.put (contractKey tenantId year month c) (slipNumber year month c.teacher.id) sheet =
      some book') :
    Runs range staff tenantId year month pending book' contracts ↔
      Runs range staff tenantId year month pending book (c :: contracts) := by
  have posted : postContract range staff tenantId year month pending book c = some book' := by
    rw [postContract_of_open open', written]
    exact put
  have issued := issued_of_postContract posted
  unfold Book.put at put
  split_ifs at put with taken
  have sheets (key : SlipKey) : book'.sheet key = none ↔
      book.sheet key = none ∧ key ≠ contractKey tenantId year month c := by
    rw [← Option.some.inj put]
    by_cases here : key = contractKey tenantId year month c
    · subst here
      simp
    · simp [here]
  have numbers (n : String) : book'.taken tenantId n ↔ book.taken tenantId n ∨
      (book.sheet (contractKey tenantId year month c) = none ∧
        n = slipNumber year month c.teacher.id) := by
    rw [← Option.some.inj put]
    simp [contractKey]
  constructor
  · intro runs
    have others {e : TeacherContract} (mem : e ∈ contracts)
        (other : contractKey tenantId year month e ≠ contractKey tenantId year month c)
        (none : book.sheet (contractKey tenantId year month e) = none) :
        ¬ book'.taken tenantId (slipNumber year month e.teacher.id) :=
      ((runs e mem).resolve_left fun issued' =>
        sheet_ne_none_of_issued (issued _ ▸ issued') none).2 ((sheets _).mpr ⟨none, other⟩) |>.1
    have here : ∀ d ∈ contracts,
        contractKey tenantId year month d = contractKey tenantId year month c →
          contractSheet range staff tenantId month pending d ≠ none := fun d mem same =>
      ((runs d mem).resolve_left fun issued' => open' (same ▸ issued _ ▸ issued')).1
    intro d mem
    by_cases same : contractKey tenantId year month d = contractKey tenantId year month c
    · refine .inr ⟨?_, fun none => ⟨fun taken' => ?_, fun e memE other noneE number => ?_⟩⟩
      · rcases List.mem_cons.mp mem with rfl | mem
        · rw [written]
          exact Option.some_ne_none sheet
        · exact here d mem same
      · exact taken ⟨same ▸ none, slipNumber_eq same ▸ taken'⟩
      · rw [same] at other none
        rcases List.mem_cons.mp memE with rfl | memE
        · exact other rfl
        · exact others memE other noneE
            ((numbers _).mpr (.inr ⟨none, number.trans (slipNumber_eq same)⟩))
    · have memD : d ∈ contracts := by
        rcases List.mem_cons.mp mem with rfl | memD
        · exact absurd rfl same
        · exact memD
      refine (runs d memD).imp (issued _ ▸ ·) fun ⟨written', new⟩ => ⟨written', fun none => ?_⟩
      obtain ⟨free, apart⟩ := new ((sheets _).mpr ⟨none, same⟩)
      have differ (noneC : book.sheet (contractKey tenantId year month c) = Option.none) :
          slipNumber year month d.teacher.id ≠ slipNumber year month c.teacher.id :=
        fun number => free ((numbers _).mpr (.inr ⟨noneC, number⟩))
      refine ⟨fun taken' => free ((numbers _).mpr (.inl taken')), fun e memE other noneE => ?_⟩
      by_cases sameE : contractKey tenantId year month e = contractKey tenantId year month c
      · rw [slipNumber_eq sameE]
        exact (differ (sameE ▸ noneE)).symm
      · rcases List.mem_cons.mp memE with rfl | memE
        · exact absurd rfl sameE
        · exact apart e memE other ((sheets _).mpr ⟨noneE, sameE⟩)
  · intro runs d mem
    refine (runs d (List.mem_cons_of_mem c mem)).imp (fun issued' => (issued _).trans issued')
      fun ⟨written', new⟩ => ⟨written', fun none => ?_⟩
    obtain ⟨none, other⟩ := (sheets _).mp none
    obtain ⟨free, apart⟩ := new none
    refine ⟨fun taken' => ?_, fun e memE otherE noneE =>
      apart e (List.mem_cons_of_mem c memE) otherE ((sheets _).mp noneE).1⟩
    rcases (numbers _).mp taken' with taken' | ⟨noneC, number⟩
    · exact free taken'
    · exact apart c List.mem_cons_self (Ne.symm other) noneC number.symm

/-- The calculation goes through whatever the order, or in no order. -/
theorem run_isSome_iff :
    (contracts.foldlM (postContract range staff tenantId year month pending) book).isSome = true ↔
      Runs range staff tenantId year month pending book contracts := by
  induction contracts generalizing book with
  | nil => exact iff_of_true rfl (List.forall_mem_nil _)
  | cons c contracts ih =>
    rw [List.foldlM_cons]
    by_cases issued : book.issued (contractKey tenantId year month c) = true
    · have some' := sheet_ne_none_of_issued issued
      rw [postContract_of_issued issued, Option.bind_eq_bind, Option.bind_some, ih]
      unfold Runs
      simp only [List.forall_mem_cons, issued, true_or, true_and, some', false_implies,
        implies_true]
    · rw [postContract_of_open issued]
      cases written : contractSheet range staff tenantId month pending c with
      | none =>
        refine iff_of_false (by simp) fun runs => ?_
        rcases runs c List.mem_cons_self with issued' | ⟨some', -⟩
        · exact issued issued'
        · exact some' written
      | some sheet =>
        rw [Option.bind_some]
        cases put : book.put (contractKey tenantId year month c)
          (slipNumber year month c.teacher.id) sheet with
        | some book' =>
          rw [Option.bind_eq_bind, Option.bind_some, ih]
          exact runs_cons_of_put issued written put
        | none =>
          unfold Book.put at put
          split_ifs at put with taken
          refine iff_of_false (by simp) fun runs => ?_
          rcases runs c List.mem_cons_self with issued' | ⟨-, new⟩
          · exact issued issued'
          · exact (new taken.1).1 taken.2

end

/-! ### A month -/

section

variable {jalaali : Jalaali} {staff : Staff} {db db' : Db} {tenantId : Id}
  {dto : CalculateMonthlyPayrollDto} {range : MonthRange}

theorem goes_through_iff :
    (∃ out, calculateMonthlyPayroll jalaali staff db tenantId dto = .ok out) ↔
    ∃ range, monthRange jalaali dto.year dto.month = .ok range ∧
      contractsInForce staff tenantId range ≠ [] ∧
        Runs range staff tenantId dto.year dto.month db.pending db.book
          (contractsInForce staff tenantId range) := by
  constructor
  · rintro ⟨⟨db', reply⟩, done⟩
    obtain ⟨range, inMonth, inForce⟩ := inForce_of_done done
    obtain ⟨book, ran, -⟩ := (mirrors_calculateMonthlyPayroll inMonth inForce).of_ok done
    exact ⟨range, inMonth, inForce, run_isSome_iff.mp (Option.isSome_iff_exists.mpr ⟨book, ran⟩)⟩
  · rintro ⟨range, inMonth, inForce, runs⟩
    obtain ⟨book, ran⟩ := Option.isSome_iff_exists.mp (run_isSome_iff.mpr runs)
    obtain ⟨out, done, -⟩ := (mirrors_calculateMonthlyPayroll inMonth inForce).of_some ran
    exact ⟨out, done⟩

theorem contents_of_done (inMonth : monthRange jalaali dto.year dto.month = .ok range)
    {reply : CalculationReply}
    (done : calculateMonthlyPayroll jalaali staff db tenantId dto = .ok (db', reply))
    (key : SlipKey) : (db'.book.sheet key).map Sheet.contents =
      (lastWrite (contractKey tenantId dto.year dto.month)
        (contentsAfter range staff tenantId dto.year dto.month db.pending db.book)
        (contractsInForce staff tenantId range) key).getD
          ((db.book.sheet key).map Sheet.contents) := by
  obtain ⟨range', inMonth', inForce, -⟩ := goes_through_iff.mp ⟨_, done⟩
  rw [inMonth, Except.ok.injEq] at inMonth'
  subst inMonth'
  obtain ⟨book, ran, rfl, -⟩ := (mirrors_calculateMonthlyPayroll inMonth inForce).of_ok done
  exact contents_of_run ran key

/-- The contracts in force are those of the staff in another order. -/
theorem perm_inForce {contracts : List TeacherContract} (perm : contracts.Perm staff.contracts)
    (range : MonthRange) : (contractsInForce { staff with contracts } tenantId range).Perm
      (contractsInForce staff tenantId range) :=
  perm.filter _

theorem runs_reordered {contracts others : List TeacherContract} {book : Book}
    {pending : Id → UserId → List PayrollAdjustment} :
    Runs range { staff with contracts } tenantId dto.year dto.month pending book others ↔
      Runs range staff tenantId dto.year dto.month pending book others :=
  Iff.rfl

/-- Every order of the contracts in force is the one of some order of all of them. -/
theorem exists_order {others : List TeacherContract}
    (perm : others.Perm (contractsInForce staff tenantId range)) :
    ∃ contracts, contracts.Perm staff.contracts ∧
      contractsInForce { staff with contracts } tenantId range = others :=
  exists_perm_filter _ perm

variable {reply : CalculationReply}

/-- Contracts of one teacher leave the same on his slip exactly when it is issued or they pay
alike. -/
theorem contentsAfter_eq_iff (sound : staff.Sound) {c c' : TeacherContract}
    (runs : Runs range staff tenantId dto.year dto.month db.pending db.book
      (contractsInForce staff tenantId range))
    (mem : c ∈ contractsInForce staff tenantId range)
    (mem' : c' ∈ contractsInForce staff tenantId range) (same : c.teacher.id = c'.teacher.id) :
    contentsAfter range staff tenantId dto.year dto.month db.pending db.book c =
        contentsAfter range staff tenantId dto.year dto.month db.pending db.book c' ↔
      (db.slipOf tenantId c.teacher.id dto.year dto.month).any (·.status.isIssued) = true ∨
        SameTerms (countSessions staff tenantId range c.teacher.teacherProfileId) c c' := by
  have memC := (List.mem_filter.mp mem).1
  have memC' := (List.mem_filter.mp mem').1
  have teacher := sound.teachers c memC c' memC' same
  have key : contractKey tenantId dto.year dto.month c' =
      contractKey tenantId dto.year dto.month c := by
    unfold contractKey
    rw [teacher]
  have issued_iff : db.book.issued (contractKey tenantId dto.year dto.month c) =
      (db.slipOf tenantId c.teacher.id dto.year dto.month).any (·.status.isIssued) := by
    unfold Book.issued
    change (Option.map _ (db.slipOf tenantId c.teacher.id dto.year dto.month)).any _ = _
    cases db.slipOf tenantId c.teacher.id dto.year dto.month with
    | none => rfl
    | some s => rfl
  unfold contentsAfter
  rw [key, ← issued_iff]
  by_cases issued : db.book.issued (contractKey tenantId dto.year dto.month c) = true
  · simp only [issued, if_true, true_or]
  · have written := ((runs c mem).resolve_left issued).1
    have written' := ((runs c' mem').resolve_left (key ▸ issued)).1
    obtain ⟨sheet, isSheet⟩ := Option.ne_none_iff_exists'.mp written
    obtain ⟨sheet', isSheet'⟩ := Option.ne_none_iff_exists'.mp written'
    rw [if_neg issued, if_neg issued, isSheet, isSheet', Option.map_some, Option.map_some,
      Option.some.injEq]
    unfold contractSheet sessionsOf at isSheet isSheet'
    rw [← teacher] at isSheet'
    rw [contents_eq_iff (sound.priced c memC) (sound.priced c' memC')
      (tells_of_calculatedSheet (sound.priced c memC) isSheet)
      (tells_of_calculatedSheet (sound.priced c' memC') isSheet')]
    rw [or_iff_right issued]

/-- A calculation for one contract of those in force. -/
theorem alone_goes_through (inMonth : monthRange jalaali dto.year dto.month = .ok range)
    (runs : Runs range staff tenantId dto.year dto.month db.pending db.book
      (contractsInForce staff tenantId range)) {c : TeacherContract}
    (mem : c ∈ contractsInForce staff tenantId range) :
    ∃ alone, calculateMonthlyPayroll jalaali { staff with contracts := [c] } db tenantId dto =
        .ok alone ∧
      (alone.1.book.sheet (contractKey tenantId dto.year dto.month c)).map Sheet.contents =
        contentsAfter range staff tenantId dto.year dto.month db.pending db.book c := by
  have inForce : contractsInForce { staff with contracts := [c] } tenantId range = [c] :=
    List.filter_eq_self.mpr fun d memD => by
      rw [List.mem_singleton.mp memD]
      exact (List.mem_filter.mp mem).2
  obtain ⟨alone, done⟩ : ∃ alone,
      calculateMonthlyPayroll jalaali { staff with contracts := [c] } db tenantId dto =
        .ok alone := by
    refine goes_through_iff.mpr ⟨range, inMonth, by simp [inForce], ?_⟩
    rw [inForce]
    exact runs_reordered.mpr (runs.subset (by simpa using mem))
  refine ⟨alone, done, ?_⟩
  rw [contents_of_done inMonth done, inForce]
  simp only [lastWrite, List.reverse_singleton, List.find?_singleton, decide_true, if_true,
    Option.map_some, Option.getD_some]
  rfl

variable (staff) in
theorem reordered_goes_through {contracts : List TeacherContract}
    (perm : contracts.Perm staff.contracts)
    (goes : ∃ out, calculateMonthlyPayroll jalaali staff db tenantId dto = .ok out) :
    ∃ out, calculateMonthlyPayroll jalaali { staff with contracts } db tenantId dto = .ok out := by
  obtain ⟨range, inMonth, inForce, runs⟩ := goes_through_iff.mp goes
  have order : (contractsInForce { staff with contracts } tenantId range).Perm
      (contractsInForce staff tenantId range) := perm_inForce perm range
  refine goes_through_iff.mpr ⟨range, inMonth, fun none => ?_, ?_⟩
  · rw [none] at order
    exact inForce order.nil_eq.symm
  · exact runs_reordered.mpr (runs.subset fun c mem => order.mem_iff.mp mem)

/-- **The slips and the order of the contracts.** Whether the calculation goes through never depends
on the order; what it writes does not, and keeps what each contract came to, exactly when the
contracts of each teacher whose slip is not issued pay alike. -/
theorem same_slips_iff (jalaali : Jalaali) {staff : Staff} (sound : staff.Sound) (db : Db)
    (tenantId : Id) (dto : CalculateMonthlyPayrollDto) :
    (∀ staff', Reordered staff staff' →
      ((∃ out, calculateMonthlyPayroll jalaali staff' db tenantId dto = .ok out) ↔
        ∃ out, calculateMonthlyPayroll jalaali staff db tenantId dto = .ok out)) ∧
    ∀ db' reply range, calculateMonthlyPayroll jalaali staff db tenantId dto = .ok (db', reply) →
      monthRange jalaali dto.year dto.month = .ok range →
        ((∀ staff', Reordered staff staff' → ∀ db'' reply',
            calculateMonthlyPayroll jalaali staff' db tenantId dto = .ok (db'', reply') →
              SameSlips db' db'') ∧
          NoneOverwritten jalaali range staff db db' tenantId dto ↔
        OneTerms range staff db tenantId dto.year dto.month) := by
  constructor
  · rintro staff' ⟨contracts, perm, rfl⟩
    exact ⟨reordered_goes_through { staff with contracts } perm.symm,
      reordered_goes_through staff perm⟩
  · intro db' reply range done inMonth
    obtain ⟨range', inMonth', inForce, runs⟩ := goes_through_iff.mp ⟨_, done⟩
    rw [inMonth, Except.ok.injEq] at inMonth'
    subst inMonth'
    have agree_iff : (∀ c ∈ contractsInForce staff tenantId range,
        ∀ c' ∈ contractsInForce staff tenantId range,
          contractKey tenantId dto.year dto.month c = contractKey tenantId dto.year dto.month c' →
            contentsAfter range staff tenantId dto.year dto.month db.pending db.book c =
              contentsAfter range staff tenantId dto.year dto.month db.pending db.book c') ↔
        OneTerms range staff db tenantId dto.year dto.month := by
      refine forall₂_congr fun c mem => forall₂_congr fun c' mem' => ?_
      simp only [contractKey, SlipKey.mk.injEq, true_and, and_true]
      exact imp_congr_right fun same => contentsAfter_eq_iff sound runs mem mem' same
    rw [← agree_iff]
    constructor
    · rintro ⟨same, -⟩
      refine (lastWrite_perm_iff fun key => (db.book.sheet key).map Sheet.contents).mp
        fun others perm key => ?_
      obtain ⟨contracts, order, rfl⟩ := exists_order perm
      obtain ⟨⟨db'', reply'⟩, done'⟩ := reordered_goes_through staff order ⟨_, done⟩
      have sameKey := same _ ⟨contracts, order, rfl⟩ db'' reply' done' key
      rw [contents_of_done inMonth done, contents_of_done inMonth done'] at sameKey
      exact sameKey.symm
    · intro agree
      refine ⟨?_, fun c mem => ?_⟩
      · rintro staff' ⟨contracts, perm, rfl⟩ db'' reply' done' key
        rw [contents_of_done inMonth done, contents_of_done inMonth done']
        exact ((lastWrite_perm_iff fun key => (db.book.sheet key).map Sheet.contents).mpr agree _
          (perm_inForce perm range) key).symm
      · obtain ⟨alone, doneAlone, contents⟩ := alone_goes_through inMonth runs mem
        refine ⟨alone, doneAlone, contents.trans ?_⟩
        have last := lastWrite_eq_some (fun d memD same => agree d memD c mem same) mem
        have held := contents_of_done inMonth done (contractKey tenantId dto.year dto.month c)
        rw [last, Option.getD_some] at held
        exact held.symm

end

/-! ### A rate that changes within a month -/

namespace Hiring

def mehr : CalculateMonthlyPayrollDto := School.monthOf 7

def range : MonthRange where
  startStr := "1404-07-01"
  endStr := "1404-07-30"
  gStartDate := dateUTC 2025 9 22 73800000
  gEndDate := dateUTC 2025 10 22 73799999

/-- The staff after these calls, with one session in Mehr. -/
def staff (calls : List ContractCall) : Staff where
  users := db.users
  contracts := (run (ContractDb.exec date) db calls).contracts.rows.map (·.toTeacherContract)
  attendance := [{ tenantId := 1, teacherId := 1, date := "1404-07-05" }]

def changed : List ContractCall := [hire "2025-09-23" 400000, hire "2025-10-08" 500000]

/-- The second contract renews the first on its terms. -/
def renewed : List ContractCall := [hire "2025-09-23" 400000, hire "2025-10-08" 400000]

theorem priced_of {contracts : List TeacherContract}
    (all : ∀ c ∈ contracts, 0 ≤ c.rateAmount.tomans ∧ ∀ b ∈ c.baseSalary, 0 ≤ b.tomans) :
    ∀ c ∈ contracts, c.Priced :=
  fun c mem => ⟨(all c mem).1, (all c mem).2⟩

def slipInMehr (out : Db × CalculationReply) : Option (Toman × Toman × List Line) :=
  (out.1.book.sheet ⟨1, teacherId, 1404, 7⟩).map Sheet.contents

def calculate (staff : Staff) : Result (Db × CalculationReply) :=
  calculateMonthlyPayroll School.jalaali staff .empty 1 mehr

end Hiring

/-- A contract renewed within the month on the same terms: the two are in force, and their order is
indifferent. -/
theorem same_slips_iff_hiring : ∃ db' reply range,
    Hiring.calculate (Hiring.staff Hiring.renewed) = .ok (db', reply) ∧
      (contractsInForce (Hiring.staff Hiring.renewed) 1 range).length = 2 ∧
      (∀ staff', Reordered (Hiring.staff Hiring.renewed) staff' → ∀ db'' reply',
        Hiring.calculate staff' = .ok (db'', reply') → SameSlips db' db'') ∧
      NoneOverwritten School.jalaali range (Hiring.staff Hiring.renewed) .empty db' 1
        Hiring.mehr := by
  have done : Returns (Hiring.calculate (Hiring.staff Hiring.renewed)) fun _ => True := by
    decide +kernel
  obtain ⟨⟨db', reply⟩, done, -⟩ := done.exists
  have inMonth : monthRange School.jalaali Hiring.mehr.year Hiring.mehr.month = .ok Hiring.range := by
    decide +kernel
  have alike : ∀ c ∈ (Hiring.staff Hiring.renewed).contracts,
      ∀ c' ∈ (Hiring.staff Hiring.renewed).contracts, c.teacher = c'.teacher ∧
        c.base = c'.base ∧ c.rateAmount.tomans = c'.rateAmount.tomans ∧
          c.rateType = c'.rateType := by
    decide +kernel
  have exact' := (same_slips_iff School.jalaali ⟨Hiring.priced_of (by decide +kernel),
    fun c mem c' mem' _ => (alike c mem c' mem').1⟩ .empty 1 Hiring.mehr).2 db' reply Hiring.range
      done inMonth
  refine ⟨db', reply, Hiring.range, done, by decide +kernel,
    exact'.mpr fun c mem c' mem' _ => .inr ?_⟩
  obtain ⟨-, base, amount, type⟩ := alike c (List.mem_filter.mp mem).1 c' (List.mem_filter.mp mem').1
  exact ⟨base, .inr ⟨amount, .inr type⟩⟩

/-- The later contract is paid in one order and the earlier one in the other. -/
theorem not_same_slips : ¬ ∀ staff', Reordered (Hiring.staff Hiring.changed) staff' →
    ∀ out out', Hiring.calculate (Hiring.staff Hiring.changed) = .ok out →
      Hiring.calculate staff' = .ok out' → SameSlips out.1 out'.1 := by
  intro same
  have differ : Returns (Hiring.calculate (Hiring.staff Hiring.changed)) fun out =>
      Returns (Hiring.calculate { Hiring.staff Hiring.changed with
        contracts := (Hiring.staff Hiring.changed).contracts.reverse }) fun out' =>
          (Hiring.slipInMehr out).map (·.1.tomans) = some 500000 ∧
            (Hiring.slipInMehr out').map (·.1.tomans) = some 400000 := by
    decide +kernel
  obtain ⟨out, done, rest⟩ := differ.exists
  obtain ⟨out', done', paid, paid'⟩ := rest.exists
  have slip := same _ ⟨_, List.reverse_perm _, rfl⟩ out out' done done' ⟨1, Hiring.teacherId, 1404, 7⟩
  change Hiring.slipInMehr out = Hiring.slipInMehr out' at slip
  rw [slip, paid'] at paid
  exact absurd paid (by decide)

end Rokad.Payroll
