import Rokad.Payroll.RowOrder

/-!
# The whole staff

A calculation writes the slips of a month in one transaction, and the number of a slip ends with
the first five letters of the user's id. So the staff is covered exactly if these letters tell
the users apart, none of the numbers has been given before, and each amount fits its column
(`staff_covered_iff`).
-/

namespace Rokad.Payroll

open Rokad.Base Rokad.Common

/-! ### Slips for everyone -/

/-- There is one slip of a key, a draft. -/
def OneDraft (db : Db) (key : SlipKey) : Prop :=
  ∃ s ∈ db.slips.rows, (∀ t ∈ db.slips.rows, t.slipKey = key ↔ t = s) ∧ s.status = .draft

/-- Slips generated for users one after another. -/
def generateInTurn (staff : Staff) (tenantId : Id) (db : Db)
    (dtos : List GeneratePayrollSlipDto) : Result Db :=
  inTurn (fun db dto => do
    let out ← generateSlipForUser staff db tenantId dto
    return out.1) db dtos

/-- Requests for users of the month who are no teachers in force, each with a payroll profile. -/
structure Further (jalaali : Jalaali) (staff : Staff) (tenantId : Id)
    (dto : CalculateMonthlyPayrollDto) (others : List GeneratePayrollSlipDto) : Prop where
  month : ∀ other ∈ others, other.year = dto.year ∧ other.month = dto.month
  differ : (others.map (·.userId)).Nodup
  apart : ∀ range, monthRange jalaali dto.year dto.month = .ok range →
    ∀ c ∈ contractsInForce staff tenantId range, ∀ other ∈ others, c.teacher.id ≠ other.userId
  profile : ∀ other ∈ others, ∃ p ∈ staff.profiles, p.tenantId = tenantId ∧ p.user.id = other.userId

/-- The calculation commits with one draft for each teacher with a contract in force, and none for
anyone else, and slips are then generated for the others. -/
def Covers (jalaali : Jalaali) (staff : Staff) (db : Db) (tenantId : Id)
    (dto : CalculateMonthlyPayrollDto) (others : List GeneratePayrollSlipDto) : Prop :=
  ∃ range out, monthRange jalaali dto.year dto.month = .ok range ∧
    calculateMonthlyPayroll jalaali staff db tenantId dto = .ok out ∧
    (∀ userId, OneDraft out.1 ⟨tenantId, userId, dto.year, dto.month⟩ ↔
      ∃ c ∈ contractsInForce staff tenantId range, c.teacher.id = userId) ∧
    ∃ db', generateInTurn staff tenantId out.1 others = .ok db'

/-- The sheet of a generated slip, for the payroll profile of the user. -/
def profileSheet (staff : Staff) (tenantId : Id) (dto : GeneratePayrollSlipDto) : Option Sheet :=
  (staff.profiles.find? fun p => p.tenantId = tenantId ∧ p.user.id = dto.userId).bind fun profile =>
    generatedSheet (payOf profile dto)

/-- The users who get a slip. -/
def usersOf (staff : Staff) (tenantId : Id) (range : MonthRange)
    (others : List GeneratePayrollSlipDto) : List UserId :=
  (contractsInForce staff tenantId range).map (·.teacher.id) ++ others.map (·.userId)

/-- There are contracts in force, each amount fits its column, and the slip numbers are new and
tell the users apart. -/
def Numberable (jalaali : Jalaali) (staff : Staff) (db : Db) (tenantId : Id)
    (dto : CalculateMonthlyPayrollDto) (others : List GeneratePayrollSlipDto) : Prop :=
  ∃ range, monthRange jalaali dto.year dto.month = .ok range ∧
    contractsInForce staff tenantId range ≠ [] ∧
    (∀ c ∈ contractsInForce staff tenantId range,
      (contractSheet range staff tenantId dto.month db.pending c).isSome = true) ∧
    (∀ other ∈ others, (profileSheet staff tenantId other).isSome = true) ∧
    (∀ u ∈ usersOf staff tenantId range others, ∀ s ∈ db.slips.rows, s.tenantId = tenantId →
      s.slipNumber ≠ slipNumber dto.year dto.month u) ∧
    ∀ u ∈ usersOf staff tenantId range others, ∀ v ∈ usersOf staff tenantId range others,
      slipNumber dto.year dto.month u = slipNumber dto.year dto.month v → u = v

/-! ### On the book -/

section

variable {range : MonthRange} {staff : Staff} {tenantId : Id} {year month : ℕ}
  {pending : Id → UserId → List PayrollAdjustment} {book book' : Book}
  {contracts : List TeacherContract}

variable (tenantId year month) in
/-- What posting contracts does to a book without an issued slip of theirs. -/
structure Posted (contracts : List TeacherContract) (book book' : Book) : Prop where
  others : ∀ key, (∀ c ∈ contracts, contractKey tenantId year month c ≠ key) →
    book'.sheet key = book.sheet key
  drafts : ∀ c ∈ contracts, ∃ sheet,
    book'.sheet (contractKey tenantId year month c) = some sheet ∧ sheet.status = .draft
  numbers : ∀ n, book'.taken tenantId n ↔ book.taken tenantId n ∨
    ∃ c ∈ contracts, book.sheet (contractKey tenantId year month c) = none ∧
      n = slipNumber year month c.teacher.id

theorem posted_of_run
    (open' : ∀ c ∈ contracts, book.issued (contractKey tenantId year month c) = false)
    (ran : contracts.foldlM (postContract range staff tenantId year month pending) book =
      some book') : Posted tenantId year month contracts book book' := by
  induction contracts generalizing book with
  | nil =>
    obtain rfl := Option.some.inj ran
    exact ⟨fun _ _ => rfl, List.forall_mem_nil _, fun n => by simp⟩
  | cons c contracts ih =>
    rw [List.foldlM_cons, Option.bind_eq_bind, Option.bind_eq_some_iff] at ran
    obtain ⟨book₁, posted, rest⟩ := ran
    have issued := issued_of_postContract posted
    have run := ih (fun d mem => (issued _).trans (open' d (List.mem_cons_of_mem c mem))) rest
    rw [postContract_of_open (by rw [open' c List.mem_cons_self]; decide),
      Option.bind_eq_some_iff] at posted
    obtain ⟨sheet, written, put⟩ := posted
    unfold Book.put at put
    split_ifs at put with taken
    have first := Option.some.inj put
    have sheets : book₁.sheet =
        Function.update book.sheet (contractKey tenantId year month c) (some sheet) := by
      rw [← first]
    refine ⟨fun key not => ?_, fun d mem => ?_, fun n => ?_⟩
    · rw [run.others key fun d mem => not d (List.mem_cons_of_mem c mem), sheets,
        Function.update_of_ne (not c List.mem_cons_self).symm]
    · by_cases again : ∃ e ∈ contracts,
          contractKey tenantId year month e = contractKey tenantId year month d
      · obtain ⟨e, memE, same⟩ := again
        rw [← same]
        exact run.drafts e memE
      · obtain rfl : d = c := (List.mem_cons.mp mem).resolve_right fun later =>
          again ⟨d, later, rfl⟩
        refine ⟨sheet, ?_, status_of_calculatedSheet written⟩
        rw [run.others _ fun e memE same => again ⟨e, memE, same⟩, sheets, Function.update_self]
    · have numbers : book₁.taken tenantId n ↔ book.taken tenantId n ∨
          (book.sheet (contractKey tenantId year month c) = none ∧
            n = slipNumber year month c.teacher.id) := by
        rw [← first]
        simp [contractKey]
      rw [run.numbers, numbers, or_assoc]
      simp only [List.mem_cons, exists_eq_or_imp]
      refine or_congr_right ⟨?_, ?_⟩
      · rintro (first | ⟨d, mem, none, is⟩)
        · exact .inl first
        · refine .inr ⟨d, mem, ?_, is⟩
          by_cases same : contractKey tenantId year month d = contractKey tenantId year month c
          · rw [sheets, same, Function.update_self] at none
            cases none
          · rwa [sheets, Function.update_of_ne same] at none
      · rintro (first | ⟨d, mem, none, is⟩)
        · exact .inl first
        · by_cases same : contractKey tenantId year month d = contractKey tenantId year month c
          · exact .inl ⟨same ▸ none, is.trans (slipNumber_eq same)⟩
          · exact .inr ⟨d, mem, by rwa [sheets, Function.update_of_ne same], is⟩

/-- Slips of users who have none are posted exactly if their sheets are written and their numbers
are new and differ. -/
theorem generated_isSome_iff {others : List GeneratePayrollSlipDto}
    (ofMonth : ∀ other ∈ others, other.year = year ∧ other.month = month)
    (differ : (others.map (·.userId)).Nodup)
    (new : ∀ other ∈ others, book.sheet ⟨tenantId, other.userId, year, month⟩ = none) :
    (others.foldlM (fun book dto => postGenerated staff tenantId dto book) book).isSome = true ↔
      (∀ other ∈ others, (profileSheet staff tenantId other).isSome = true) ∧
      (∀ other ∈ others, ¬ book.taken tenantId (slipNumber year month other.userId)) ∧
      ((others.map (·.userId)).map (slipNumber year month)).Nodup := by
  induction others generalizing book with
  | nil => simp
  | cons other others ih =>
    obtain ⟨rfl, rfl⟩ := ofMonth other List.mem_cons_self
    rw [List.map_cons, List.nodup_cons] at differ
    have posted : postGenerated staff tenantId other book =
        (profileSheet staff tenantId other).bind fun sheet =>
          book.put ⟨tenantId, other.userId, other.year, other.month⟩
            (slipNumber other.year other.month other.userId) sheet := by
      unfold postGenerated profileSheet
      cases found : staff.profiles.find? fun p =>
        decide (p.tenantId = tenantId ∧ p.user.id = other.userId) with
      | none => rfl
      | some profile =>
        have own := List.find?_some found
        simp only [decide_eq_true_eq] at own
        simp only [Option.bind_eq_bind, Option.bind_some, own.2]
    rw [List.foldlM_cons, posted, List.forall_mem_cons, List.forall_mem_cons, List.map_cons,
      List.map_cons, List.nodup_cons]
    cases written : profileSheet staff tenantId other with
    | none => simp
    | some sheet =>
      rw [Option.bind_some]
      cases put : book.put ⟨tenantId, other.userId, other.year, other.month⟩
          (slipNumber other.year other.month other.userId) sheet with
      | none =>
        unfold Book.put at put
        split_ifs at put with taken
        exact iff_of_false (by simp) fun ⟨_, free, _⟩ => free.1 taken.2
      | some book₁ =>
        unfold Book.put at put
        split_ifs at put with taken
        have isNew := new other List.mem_cons_self
        have free : ¬ book.taken tenantId (slipNumber other.year other.month other.userId) :=
          fun is => taken ⟨isNew, is⟩
        have first := Option.some.inj put
        have numbers (n : String) : book₁.taken tenantId n ↔
            book.taken tenantId n ∨ n = slipNumber other.year other.month other.userId := by
          rw [← first]
          simp [isNew]
        rw [Option.bind_eq_bind, Option.bind_some,
          ih (fun d mem => ofMonth d (List.mem_cons_of_mem _ mem)) differ.2 fun d mem => by
            rw [← first]
            dsimp only
            rw [Function.update_of_ne fun same => differ.1 (List.mem_map.mpr
              ⟨d, mem, congrArg SlipKey.userId same⟩)]
            exact new d (List.mem_cons_of_mem _ mem)]
        simp only [numbers, not_or, Option.isSome_some, true_and, free, not_false_eq_true]
        simp only [List.mem_map, exists_exists_and_eq_and, not_exists, not_and]
        constructor
        · rintro ⟨sheets, apart, pairs⟩
          exact ⟨sheets, fun d mem => (apart d mem).1, fun d mem => (apart d mem).2, pairs⟩
        · rintro ⟨sheets, frees, apart, pairs⟩
          exact ⟨sheets, fun d mem => ⟨frees d mem, apart d mem⟩, pairs⟩

/-- Contracts whose slips are all new. -/
theorem runs_iff_of_new
    (new : ∀ userId, book.sheet ⟨tenantId, userId, year, month⟩ = none) :
    Runs range staff tenantId year month pending book contracts ↔
      (∀ c ∈ contracts, (contractSheet range staff tenantId month pending c).isSome = true) ∧
      (∀ u ∈ contracts.map (·.teacher.id), ¬ book.taken tenantId (slipNumber year month u)) ∧
      ∀ u ∈ contracts.map (·.teacher.id), ∀ v ∈ contracts.map (·.teacher.id),
        slipNumber year month u = slipNumber year month v → u = v := by
  have open' (c : TeacherContract) : book.issued (contractKey tenantId year month c) = false := by
    rw [Book.issued, contractKey, new]
    rfl
  simp only [List.forall_mem_map]
  constructor
  · intro runs
    have each (c : TeacherContract) (mem : c ∈ contracts) := (runs c mem).resolve_left fun issued =>
      Bool.false_ne_true ((open' c).symm.trans issued)
    refine ⟨fun c mem => Option.isSome_iff_ne_none.mpr (each c mem).1,
      fun c mem => ((each c mem).2 (new _)).1, fun c memC d memD same => ?_⟩
    by_contra differ
    exact ((each c memC).2 (new _)).2 d memD
      (fun sameKey => differ (congrArg SlipKey.userId sameKey).symm) (new _) same.symm
  · rintro ⟨written, free, apart⟩ c mem
    refine .inr ⟨Option.isSome_iff_ne_none.mp (written c mem), fun _ => ⟨free c mem, ?_⟩⟩
    intro d memD differ _ same
    exact differ (congrArg (SlipKey.mk tenantId · year month) (apart d memD c mem same))

end

/-- A function that is one-to-one on two lists together. -/
theorem injOn_append_iff {α β : Type} {f : α → β} {as bs : List α}
    (apart : ∀ a ∈ as, ∀ b ∈ bs, a ≠ b) :
    (∀ u ∈ as ++ bs, ∀ v ∈ as ++ bs, f u = f v → u = v) ↔
      (∀ u ∈ as, ∀ v ∈ as, f u = f v → u = v) ∧ (∀ a ∈ as, ∀ b ∈ bs, f b ≠ f a) ∧
        ∀ u ∈ bs, ∀ v ∈ bs, f u = f v → u = v := by
  simp only [List.forall_mem_append]
  constructor
  · rintro ⟨first, second⟩
    exact ⟨fun u mem => (first u mem).1,
      fun a memA b memB same => apart a memA b memB ((second b memB).1 a memA same).symm,
      fun u mem => (second u mem).2⟩
  · rintro ⟨first, across, second⟩
    exact ⟨fun u mem => ⟨first u mem, fun v memV same => absurd same.symm (across u mem v memV)⟩,
      fun u mem => ⟨fun v memV same => absurd same (across v memV u mem), second u mem⟩⟩

/-! ### A month -/

section

variable {jalaali : Jalaali} {staff : Staff} {db : Db} {tenantId : Id}
  {dto : CalculateMonthlyPayrollDto} {others : List GeneratePayrollSlipDto}

/-- Slips generated in turn are posted in turn. -/
theorem mirrors_generateInTurn : Mirrors (fun db' book => db'.book = book)
    (generateInTurn staff tenantId db others)
    (others.foldlM (fun book dto => postGenerated staff tenantId dto book) db.book) :=
  Mirrors.inTurn (fun dto _ db' book same => by
    rw [← same]
    exact (mirrors_generateSlipForUser staff dto).returning fun _ _ related => related.1) rfl

theorem sheet_eq_none_iff {key : SlipKey} :
    db.book.sheet key = none ↔ ∀ s ∈ db.slips.rows, s.slipKey ≠ key := by
  rw [← Db.slipAt_eq_none_iff]
  exact Option.map_eq_none_iff

theorem oneDraft_iff {key : SlipKey} :
    OneDraft db key ↔ ∃ sheet, db.book.sheet key = some sheet ∧ sheet.status = .draft := by
  constructor
  · rintro ⟨s, mem, only, draft⟩
    have found := Db.slipAt_eq_some_iff.mpr ⟨db.slips.find?_key mem, (only s mem).mpr rfl⟩
    exact ⟨_, congrArg (Option.map _) found, draft⟩
  · rintro ⟨sheet, written, draft⟩
    obtain ⟨s, found, rfl⟩ := Option.map_eq_some_iff.mp written
    obtain ⟨here, ofKey⟩ := Db.slipAt_eq_some_iff.mp found
    refine ⟨s, mem_of_find? here, fun t mem => ⟨fun same => ?_, fun same => same ▸ ofKey⟩, draft⟩
    have other := Db.slipAt_eq_some_iff.mpr ⟨db.slips.find?_key mem, same⟩
    exact Option.some.inj (other.symm.trans found)

/-- A calculation that goes through where there was no slip of the month has covered the staff. The
others remain, whose numbers must differ from those of the staff. -/
theorem covers_of_done {range : MonthRange} {out : Db × CalculationReply}
    (further : Further jalaali staff tenantId dto others)
    (new : ∀ userId, db.book.sheet ⟨tenantId, userId, dto.year, dto.month⟩ = none)
    (inMonth : monthRange jalaali dto.year dto.month = .ok range)
    (done : calculateMonthlyPayroll jalaali staff db tenantId dto = .ok out) :
    (∀ userId, OneDraft out.1 ⟨tenantId, userId, dto.year, dto.month⟩ ↔
      ∃ c ∈ contractsInForce staff tenantId range, c.teacher.id = userId) ∧
    ((∃ db', generateInTurn staff tenantId out.1 others = .ok db') ↔
      (∀ other ∈ others, (profileSheet staff tenantId other).isSome = true) ∧
      (∀ u ∈ others.map (·.userId), ¬ db.book.taken tenantId (slipNumber dto.year dto.month u)) ∧
      (∀ u ∈ (contractsInForce staff tenantId range).map (·.teacher.id),
        ∀ v ∈ others.map (·.userId),
          slipNumber dto.year dto.month v ≠ slipNumber dto.year dto.month u) ∧
      ∀ u ∈ others.map (·.userId), ∀ v ∈ others.map (·.userId),
        slipNumber dto.year dto.month u = slipNumber dto.year dto.month v → u = v) := by
  obtain ⟨range', inMonth', inForce, -⟩ := goes_through_iff.mp ⟨out, done⟩
  rw [inMonth, Except.ok.injEq] at inMonth'
  subst inMonth'
  obtain ⟨book, ran, isBook, -⟩ := (mirrors_calculateMonthlyPayroll inMonth inForce).of_ok done
  have posted := posted_of_run (fun c _ => by rw [Book.issued, contractKey, new]; rfl) ran
  rw [← isBook] at posted
  have stillNew (userId : UserId)
      (not : ∀ c ∈ contractsInForce staff tenantId range, c.teacher.id ≠ userId) :
      out.1.book.sheet ⟨tenantId, userId, dto.year, dto.month⟩ = none := by
    rw [posted.others ⟨tenantId, userId, dto.year, dto.month⟩ fun c mem same =>
      not c mem (congrArg SlipKey.userId same), new]
  constructor
  · intro userId
    constructor
    · intro one
      by_contra not
      obtain ⟨sheet, written, -⟩ := oneDraft_iff.mp one
      rw [stillNew userId fun c mem same => not ⟨c, mem, same⟩] at written
      cases written
    · rintro ⟨c, mem, rfl⟩
      exact oneDraft_iff.mpr (posted.drafts c mem)
  · have mirrored : (∃ db', generateInTurn staff tenantId out.1 others = .ok db') ↔
        (others.foldlM (fun book dto => postGenerated staff tenantId dto book)
          out.1.book).isSome = true := by
      rw [Option.isSome_iff_exists]
      constructor
      · rintro ⟨db', generated⟩
        obtain ⟨book', ran', -⟩ := mirrors_generateInTurn.of_ok generated
        exact ⟨book', ran'⟩
      · rintro ⟨book', ran'⟩
        obtain ⟨db', generated, -⟩ := mirrors_generateInTurn.of_some ran'
        exact ⟨db', generated⟩
    rw [mirrored, generated_isSome_iff further.month further.differ fun other mem =>
      stillNew other.userId fun c memC => further.apart range inMonth c memC other mem]
    refine and_congr_right fun _ => ?_
    rw [List.nodup_map_iff_inj_on further.differ]
    simp only [List.forall_mem_map, posted.numbers, contractKey, new, true_and, not_or, not_exists,
      not_and, forall_and]
    rw [and_assoc]
    exact and_congr_right fun _ => and_congr_left fun _ =>
      ⟨fun differ c memC other mem => differ other mem c memC,
        fun differ other mem c memC => differ c memC other mem⟩

/-- Starting from no slips for the month, the calculation covers the staff, and the slips of the
others are then generated, exactly if the numbers of all of them are new and differ and each amount
fits its column. -/
theorem staff_covered_iff (jalaali : Jalaali) (staff : Staff) (db : Db) (tenantId : Id)
    (dto : CalculateMonthlyPayrollDto) (others : List GeneratePayrollSlipDto)
    (further : Further jalaali staff tenantId dto others)
    (none : ∀ s ∈ db.slips.rows,
      ¬ (s.tenantId = tenantId ∧ s.year = dto.year ∧ s.month = dto.month)) :
    Covers jalaali staff db tenantId dto others ↔
      Numberable jalaali staff db tenantId dto others := by
  have start (userId : UserId) :
      db.book.sheet ⟨tenantId, userId, dto.year, dto.month⟩ = Option.none :=
    sheet_eq_none_iff.mpr fun s mem same => none s mem
      ⟨congrArg SlipKey.tenantId same, congrArg SlipKey.year same, congrArg SlipKey.month same⟩
  have free (u : UserId) : ¬ db.book.taken tenantId (slipNumber dto.year dto.month u) ↔
      ∀ s ∈ db.slips.rows, s.tenantId = tenantId →
        s.slipNumber ≠ slipNumber dto.year dto.month u := by
    simp [Db.book]
  have apart {range : MonthRange} (inMonth : monthRange jalaali dto.year dto.month = .ok range) :
      ∀ u ∈ (contractsInForce staff tenantId range).map (·.teacher.id),
        ∀ v ∈ others.map (·.userId), u ≠ v := by
    simp only [List.forall_mem_map]
    exact further.apart range inMonth
  constructor
  · rintro ⟨range, out, inMonth, done, -, generated⟩
    obtain ⟨range', inMonth', inForce, runs⟩ := goes_through_iff.mp ⟨out, done⟩
    rw [inMonth, Except.ok.injEq] at inMonth'
    subst inMonth'
    obtain ⟨fits, freeStaff, staffDiffer⟩ := (runs_iff_of_new start).mp runs
    obtain ⟨sheets, freeOthers, across, othersDiffer⟩ :=
      (covers_of_done further start inMonth done).2.mp generated
    refine ⟨range, inMonth, inForce, fits, sheets, fun u mem => ?_,
      (injOn_append_iff (apart inMonth)).mpr ⟨staffDiffer, across, othersDiffer⟩⟩
    rw [← free]
    rcases List.mem_append.mp mem with mem | mem
    · exact freeStaff u mem
    · exact freeOthers u mem
  · rintro ⟨range, inMonth, inForce, fits, sheets, new, differ⟩
    obtain ⟨staffDiffer, across, othersDiffer⟩ := (injOn_append_iff (apart inMonth)).mp differ
    have isFree (u : UserId) (mem : u ∈ usersOf staff tenantId range others) :=
      (free u).mpr (new u mem)
    obtain ⟨out, done⟩ := goes_through_iff.mpr ⟨range, inMonth, inForce, (runs_iff_of_new start).mpr
      ⟨fits, fun u mem => isFree u (List.mem_append_left _ mem), staffDiffer⟩⟩
    obtain ⟨covered, generated⟩ := covers_of_done further start inMonth done
    exact ⟨range, out, inMonth, done, covered, generated.mpr
      ⟨sheets, fun u mem => isFree u (List.mem_append_right _ mem), across, othersDiffer⟩⟩

end

/-! ### Two teachers and a secretary -/

namespace Secretary

def amir : UserId := { text := "a1b2c3" }

def sara : UserId := { text := "b1b2c3" }

def nima : UserId := { text := "c1b2c3" }

/-- She is told apart from Amir by the sixth letter only. -/
def mina : UserId := { text := "a1b2c4" }

theorem rate_fits : (400000 : ℤ).natAbs < 10 ^ 15 := by decide

def contract (id : Id) (userId : UserId) : TeacherContract where
  id
  tenantId := 1
  teacher := { id := userId, tenantId := 1 }
  rateType := .perSession
  rateAmount := ⟨400000, rate_fits⟩
  effectiveFrom := 0

/-- The teachers and the secretary have the ids given. -/
def staff (first second secretary : UserId) : Staff where
  contracts := [contract 1 first, contract 2 second]
  profiles := [{ tenantId := 1, user := { id := secretary, tenantId := 1 } }]

def dto : CalculateMonthlyPayrollDto := School.monthOf 7

def generate (userId : UserId) (nonempty : userId.text ≠ "" := by decide) : GeneratePayrollSlipDto where
  userId
  year := 1404
  month := 7
  userId_notEmpty := nonempty
  year_range := School.year_range
  month_range := (School.inYear 7).2

end Secretary

open Secretary

/-- Three ids that differ in their first letters. -/
theorem covers_secretary : Covers School.jalaali (staff amir sara nima) Db.empty 1 dto
    [generate nima] := by
  refine (staff_covered_iff School.jalaali (staff amir sara nima) Db.empty 1 dto
    [generate nima] ⟨by decide, by decide, fun range _ c mem => ?_, by decide⟩
    (List.forall_mem_nil _)).mpr
    ⟨Hiring.range, by decide +kernel, by decide +kernel, by decide +kernel, by decide +kernel,
      fun _ _ _ mem => absurd mem List.not_mem_nil, by decide +kernel⟩
  have known : ∀ c ∈ (staff amir sara nima).contracts,
      ∀ other ∈ [generate nima], c.teacher.id ≠ other.userId := by decide
  exact known c (List.mem_of_mem_filter mem)

/-- With two teachers whose ids begin alike nothing is written, and a secretary whose id begins like
a teacher's gets no slip. -/
theorem not_covers :
    ¬ Covers School.jalaali (staff amir mina nima) Db.empty 1 dto [] ∧
      ¬ Covers School.jalaali (staff amir sara mina) Db.empty 1 dto
        [generate mina] := by
  constructor
  · rintro ⟨range, out, -, done, -⟩
    have fails : (calculateMonthlyPayroll School.jalaali (staff amir mina nima) Db.empty
        1 dto).isOk = false := by
      decide +kernel
    rw [done] at fails
    cases fails
  · rintro ⟨range, out, -, done, -, db', generated⟩
    have fails : (do
        let out ← calculateMonthlyPayroll School.jalaali (staff amir sara mina) Db.empty
          1 dto
        generateInTurn (staff amir sara mina) 1 out.1
          [generate mina] : Result Db).isOk = false := by
      decide +kernel
    rw [done, ok_bind, generated] at fails
    cases fails

end Rokad.Payroll
