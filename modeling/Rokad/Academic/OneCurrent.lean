import Rokad.Academic.Service

/-!
# One current year and term

A school should have one current year at most, and a year one current term; and a call that fails
should change nothing.

The mark is taken from the others by one statement and set by another, so two calls in step both set
it; and a call that fails after the first statement leaves nothing marked (`not_current_kept`). The
mark stays with one row exactly if every statement that sets it finds it on no other, and a failing
call changes nothing exactly if none was marked or what is left to do goes through
(`current_kept_iff`).
-/

namespace Rokad.Academic

open Rokad.Base Rokad.Common

/-! ### Marked rows -/

section

variable {α κ : Type} [Record α] {group : α → κ} {current : α → Bool} {t t' : Table α}

/-- One row of each group is current at most. -/
def AtMostOne (group : α → κ) (current : α → Bool) (t : Table α) : Prop :=
  ∀ a ∈ t.rows, ∀ b ∈ t.rows, current a = true → current b = true → group a = group b → a = b

theorem AtMostOne.insert_iff (one : AtMostOne group current t) {row : α}
    (inserted : t.insert row = some t') : AtMostOne group current t' ↔
      (current row = true → ∀ x ∈ t.rows, group x = group row → current x = false) := by
  have mem {x : α} : x ∈ t'.rows ↔ x ∈ t.rows ∨ x = row := mem_insert inserted
  constructor
  · intro after marked x among same
    by_contra other
    have row_eq := after x (mem.mpr (.inl among)) row (mem.mpr (.inr rfl))
      (eq_true_of_ne_false other) marked same
    exact (insert_spec.mp inserted).2.1 x among (congrArg Record.key row_eq)
  · intro none a ofA b ofB markedA markedB same
    rcases mem.mp ofA with ofA | rfl <;> rcases mem.mp ofB with ofB | rfl
    · exact one a ofA b ofB markedA markedB same
    · rw [none markedB a ofA same] at markedA
      cases markedA
    · rw [none markedA b ofB same.symm] at markedB
      cases markedB
    · rfl

theorem AtMostOne.update_iff (one : AtMostOne group current t) {k : ℕ} {f : α → α}
    {keep : ∀ a, Record.key (f a) = Record.key a} {row : α} (found : t.find? k = some row)
    (updated : t.update k f keep = some t') (stays : group (f row) = group row) :
    AtMostOne group current t' ↔ (current (f row) = true →
        ∀ x ∈ t.rows, group x = group row → Record.key x ≠ k → current x = false) := by
  have mem {x : α} : x ∈ t'.rows ↔
      (x ∈ t.rows ∧ Record.key x ≠ k) ∨ ∃ row, t.find? k = some row ∧ x = f row :=
    mem_update updated
  have own : Record.key row = k := key_of_find? found
  constructor
  · intro after marked x among same other
    by_contra current'
    have row_eq := after x (mem.mpr (.inl ⟨among, other⟩)) (f row)
      (mem.mpr (.inr ⟨row, found, rfl⟩)) (eq_true_of_ne_false current') marked
      (same.trans stays.symm)
    exact other (by rw [row_eq, keep, own])
  · intro none a ofA b ofB markedA markedB same
    rcases mem.mp ofA with ⟨ofA, otherA⟩ | ⟨_, found', rfl⟩ <;>
      rcases mem.mp ofB with ⟨ofB, otherB⟩ | ⟨_, found'', rfl⟩
    · exact one a ofA b ofB markedA markedB same
    · cases found.symm.trans found''
      rw [none markedB a ofA (same.trans stays) otherA] at markedA
      cases markedA
    · cases found.symm.trans found'
      rw [none markedA b ofB (same.symm.trans stays) otherB] at markedB
      cases markedB
    · cases found'.symm.trans found''
      rfl

variable {p : α → Bool} {f : α → α}

theorem AtMostOne.updateMany (keep : ∀ a, Record.key (f a) = Record.key a)
    (unique : ∀ a b, Record.clash (f a) b = Record.clash a b) (one : AtMostOne group current t)
    (unmarks : ∀ a, current (f a) = false) :
    AtMostOne group current (t.updateMany p f keep unique) := by
  have before {x : α} (mem : x ∈ (t.updateMany p f keep unique).rows)
      (marked : current x = true) : x ∈ t.rows := by
    obtain ⟨y, ofY, rfl⟩ := List.mem_map.mp mem
    split at marked
    · rw [unmarks] at marked
      cases marked
    · rename_i stays
      rw [if_neg stays]
      exact ofY
  intro a ofA b ofB markedA markedB same
  exact one a (before ofA markedA) b (before ofB markedB) markedA markedB same

/-- The update changes no row. -/
theorem updateMany_eq_iff {keep : ∀ a, Record.key (f a) = Record.key a}
    {unique : ∀ a b, Record.clash (f a) b = Record.clash a b} :
    t.updateMany p f keep unique = t ↔ ∀ x ∈ t.rows, p x = true → f x = x := by
  constructor
  · intro same x mem meets
    have rows : t.rows.map (fun x => if p x then f x else x) = t.rows.map id :=
      (congrArg Table.rows same).trans (List.map_id _).symm
    have here := List.map_inj_left.mp rows x mem
    rwa [if_pos meets] at here
  · intro same
    refine Table.ext ((List.map_congr_left fun x mem => ?_).trans (List.map_id _))
    split
    · rename_i meets
      exact same x mem meets
    · rfl

end

/-! ### The law -/

def OneCurrent (db : Db) : Prop :=
  AtMostOne (·.tenantId) (·.isCurrent) db.years ∧
    AtMostOne (·.academicYearId) (·.isCurrent) db.terms

/-- A call that fails, with no other in progress, leaves the tables as they were. -/
def Unchanged (date : DateParser) (db : Db) (call : Call) : Prop :=
  ∀ e, ((call.program date).run (Sql.exec write) db).2 = .error e →
    ((call.program date).run (Sql.exec write) db).1 = db

/-! ### Where it is kept -/

/-- A statement that sets the mark finds it on no other row. -/
def FindsNone : Statement → Db → Prop
  | .createYear tenantId data, db => data.isCurrent = true →
      ∀ y ∈ db.years.rows, y.tenantId = tenantId → y.isCurrent = false
  | .updateYear id data, db => data.isCurrent = some true → ∀ year ∈ db.years.find? id,
      ∀ y ∈ db.years.rows, y.tenantId = year.tenantId → y.id ≠ id → y.isCurrent = false
  | .createTerm _ academicYearId data, db => data.isCurrent = true →
      ∀ t ∈ db.terms.rows, t.academicYearId = academicYearId → t.isCurrent = false
  | .updateTerm id data, db => data.isCurrent = some true → ∀ term ∈ db.terms.find? id,
      ∀ t ∈ db.terms.rows, t.academicYearId = term.academicYearId → t.id ≠ id → t.isCurrent = false
  | .clearYears _ _, _ | .clearTerms _ _ _, _ => True

/-- Of a call that clears the mark: no other row has it, or the dates can be read and the name is
free. -/
def FailsClean (date : DateParser) (db : Db) : Call → Prop
  | .createAcademicYear tenantId dto =>
    dto.isCurrent = some true → db.nameFree tenantId dto.name none = true →
      (∀ y ∈ db.years.rows, y.tenantId = tenantId → y.isCurrent = false) ∨
        (dto.data date).isOk = true
  | .updateAcademicYear tenantId id dto =>
    dto.isCurrent = some (some true) → ∀ year ∈ db.yearOf tenantId id, (∀ name ∈ truthy dto.name,
        name = year.name ∨ db.nameFree tenantId name (some id) = true) →
      (∀ y ∈ db.years.rows, y.tenantId = tenantId → y.id ≠ id → y.isCurrent = false) ∨
        (dto.data date).isOk = true
  | .createTerm tenantId dto =>
    dto.isCurrent = some true → (db.yearOf tenantId dto.academicYearId).isSome = true →
      (∀ t ∈ db.terms.rows, t.tenantId = tenantId → t.academicYearId = dto.academicYearId →
        t.isCurrent = false) ∨
      ((dto.data date).isOk = true ∧
        ∀ t ∈ db.terms.rows, t.academicYearId = dto.academicYearId → t.name ≠ dto.name)
  | .updateTerm tenantId id dto =>
    dto.isCurrent = some (some true) → ∀ term ∈ db.termOf tenantId id,
      (∀ t ∈ db.terms.rows, t.tenantId = tenantId → t.academicYearId = term.academicYearId →
        t.id ≠ id → t.isCurrent = false) ∨
      ((dto.data date).isOk = true ∧ ∀ name ∈ truthy dto.name, ∀ t ∈ db.terms.rows,
        t.academicYearId = term.academicYearId → t.id ≠ id → t.name ≠ name)

/-! ### Statements -/

section

variable {db db' : Db} {made : Made}

theorem findsNone_exact (s : Statement) (one : OneCurrent db)
    (done : write s db = .ok (db', made)) : OneCurrent db' ↔ FindsNone s db := by
  obtain ⟨years, terms⟩ := one
  cases s with
  | clearYears tenantId other =>
    cases done
    refine iff_of_true ⟨?_, terms⟩ trivial
    exact AtMostOne.updateMany AcademicYear.key_unmark AcademicYear.clash_unmark years
      fun _ => rfl
  | clearTerms tenantId academicYearId other =>
    cases done
    refine iff_of_true ⟨years, ?_⟩ trivial
    exact AtMostOne.updateMany Term.key_unmark Term.clash_unmark terms fun _ => rfl
  | createYear tenantId data =>
    simp only [write, do_eq_ok, insertRow_eq_ok] at done
    obtain ⟨years', inserted, ⟨⟩⟩ := done
    exact (and_iff_left terms).trans (years.insert_iff inserted)
  | createTerm tenantId academicYearId data =>
    simp only [write, do_eq_ok, insertRow_eq_ok, referred_eq_ok] at done
    obtain ⟨_, -, terms', inserted, ⟨⟩⟩ := done
    exact (and_iff_right years).trans (terms.insert_iff inserted)
  | updateYear id data =>
    simp only [write, do_eq_ok, updateRow_eq_ok] at done
    obtain ⟨year, found, years', updated, ⟨⟩⟩ := done
    have own : year.id = id := key_of_find? found
    refine (and_iff_left terms).trans ((years.update_iff found updated rfl).trans ?_)
    simp only [FindsNone, found, Option.mem_def, Option.some.injEq, forall_eq']
    change (data.isCurrent.getD year.isCurrent = true → _) ↔ _
    cases data.isCurrent with
    | some marks => simp only [Option.getD_some, Option.some.injEq]; exact Iff.rfl
    | none =>
      -- a mark that stays is the only one already
      refine iff_of_true (fun marked y mem same other => ?_) (by simp)
      by_contra current
      cases years y mem year (mem_of_find? found) (eq_true_of_ne_false current) marked
        same
      exact other own
  | updateTerm id data =>
    simp only [write, do_eq_ok, updateRow_eq_ok] at done
    obtain ⟨term, found, terms', updated, ⟨⟩⟩ := done
    have own : term.id = id := key_of_find? found
    refine (and_iff_right years).trans ((terms.update_iff found updated rfl).trans ?_)
    simp only [FindsNone, found, Option.mem_def, Option.some.injEq, forall_eq']
    change (data.isCurrent.getD term.isCurrent = true → _) ↔ _
    cases data.isCurrent with
    | some marks => simp only [Option.getD_some, Option.some.injEq]; exact Iff.rfl
    | none =>
      refine iff_of_true (fun marked t mem same other => ?_) (by simp)
      by_contra current
      cases terms t mem term (mem_of_find? found) (eq_true_of_ne_false current) marked
        same
      exact other own

end

/-! ### A call alone -/

section

variable {db db₁ : Db} {made : Made}

/-- After the first statement, the call has to go through, or there was nothing to clear. -/
theorem unchanged_replacing {δ : Type} {isCurrent : Bool} {clear : Statement}
    {data : Result δ} {store : δ → Statement} (cleared : write clear db = .ok (db₁, made)) :
    (∀ e, ((replacing isCurrent clear data store).run (Sql.exec write) db).2 = .error e →
      ((replacing isCurrent clear data store).run (Sql.exec write) db).1 = db) ↔
    (isCurrent = true → db₁ = db ∨ ∃ d, data = .ok d ∧ ∃ r, write (store d) db₁ = .ok r) := by
  unfold replacing
  cases isCurrent with
  | false =>
    refine iff_of_true (fun e => ?_) nofun
    simp only [Bool.false_eq_true, if_false, Prog.pure_eq, Prog.ret_ok_bind]
    cases data with
    | error e' => exact fun _ => rfl
    | ok d =>
      rw [Prog.ret_ok_bind, Sql.run_perform]
      cases write (store d) db with
      | error e' => exact fun _ => rfl
      | ok r => exact fun failed => nomatch failed
  | true =>
    simp only [if_true, Sql.run_perform_bind, cleared, forall_const]
    cases data with
    | error e' => simp
    | ok d =>
      simp only [Prog.ret_ok_bind, Sql.run_perform]
      cases done : write (store d) db₁ with
      | error e' => simp [done]
      | ok r => exact iff_of_true (fun _ failed => nomatch failed) (.inr ⟨d, rfl, r, done⟩)

theorem cleared_years_iff {tenantId : Id} {other : Option Id} :
    ({ db with years := clearedYears db.years tenantId other } : Db) = db ↔
      ∀ y ∈ db.years.rows, y.tenantId = tenantId → other ≠ some y.id → y.isCurrent = false := by
  have parts : ({ db with years := clearedYears db.years tenantId other } : Db) = db ↔
      clearedYears db.years tenantId other = db.years :=
    ⟨congrArg Db.years, fun same => by rw [same]⟩
  refine parts.trans (updateMany_eq_iff.trans (forall₂_congr fun y _ => ?_))
  simp only [clearsYear, Bool.and_eq_true, decide_eq_true_eq, and_imp]
  refine forall₂_congr fun _ _ => ?_
  obtain ⟨id, tenantId, name, startDate, endDate, isCurrent⟩ := y
  simp [AcademicYear.unmark, eq_comm]

theorem cleared_terms_iff {tenantId academicYearId : Id} {other : Option Id} :
    ({ db with terms := clearedTerms db.terms tenantId academicYearId other } : Db) = db ↔
      ∀ t ∈ db.terms.rows, t.tenantId = tenantId → t.academicYearId = academicYearId →
        other ≠ some t.id → t.isCurrent = false := by
  have parts : ({ db with terms := clearedTerms db.terms tenantId academicYearId other } : Db) =
      db ↔ clearedTerms db.terms tenantId academicYearId other = db.terms :=
    ⟨congrArg Db.terms, fun same => by rw [same]⟩
  refine parts.trans (updateMany_eq_iff.trans (forall₂_congr fun t _ => ?_))
  simp only [clearsTerm, Bool.and_eq_true, decide_eq_true_eq, and_imp]
  refine forall₃_congr fun _ _ _ => ?_
  obtain ⟨id, tenantId, academicYearId, name, startDate, endDate, isCurrent⟩ := t
  simp [Term.unmark, eq_comm]

theorem mem_clearedYears {tenantId : Id} {other : Option Id} {x : AcademicYear}
    (mem : x ∈ (clearedYears db.years tenantId other).rows) :
    ∃ y ∈ db.years.rows, x.id = y.id ∧ x.tenantId = y.tenantId ∧ x.name = y.name := by
  obtain ⟨y, ofY, rfl⟩ := List.mem_map.mp mem
  refine ⟨y, ofY, ?_⟩
  split <;> exact ⟨rfl, rfl, rfl⟩

theorem all_clearedTerms {tenantId academicYearId : Id} {other : Option Id}
    {P : Id → Id → String → Prop} :
    (∀ x ∈ (clearedTerms db.terms tenantId academicYearId other).rows,
      P x.id x.academicYearId x.name) ↔
      ∀ t ∈ db.terms.rows, P t.id t.academicYearId t.name := by
  unfold clearedTerms Table.updateMany
  rw [List.forall_mem_map]
  refine forall₂_congr fun t _ => ?_
  split <;> exact Iff.rfl

theorem createData_name {date : DateParser} {name startDate endDate : String}
    {isCurrent : Option Bool} {data : CreateData}
    (read : createData date name startDate endDate isCurrent = .ok data) : data.name = name := by
  simp only [createData, do_eq_ok] at read
  obtain ⟨_, -, _, -, rfl⟩ := read
  rfl

theorem updateData_name {date : DateParser} {dto : UpdateDto} {data : UpdateData}
    (read : dto.data date = .ok data) : data.name = truthy dto.name := by
  simp only [UpdateDto.data, do_eq_ok] at read
  obtain ⟨_, -, _, -, _, -, rfl⟩ := read
  rfl

theorem nameFree_iff {tenantId : Id} {name : String} {other : Option Id} :
    db.nameFree tenantId name other = true ↔
      ∀ y ∈ db.years.rows, y.tenantId = tenantId → y.name = name → other = some y.id := by
  simp [Db.nameFree, List.all_eq_true]
  refine forall₂_congr fun y _ => ?_
  by_cases own : y.tenantId = tenantId <;> by_cases named : y.name = name <;> simp [own, named]

theorem createYear_isOk {tenantId : Id} {other : Option Id} {data : CreateData}
    (free : db.nameFree tenantId data.name none = true) : ∃ r, write (.createYear tenantId data)
      { db with years := clearedYears db.years tenantId other } = .ok r := by
  let years := clearedYears db.years tenantId other
  obtain ⟨years', inserted⟩ := years.insert_of_fresh (data.year tenantId years.fresh) rfl
    fun x mem => by
      obtain ⟨y, ofY, -, ofTenant, named⟩ := mem_clearedYears mem
      change (x.tenantId == tenantId && x.name == data.name) = false
      rw [ofTenant, named]
      by_contra clashes
      simp only [Bool.not_eq_false, Bool.and_eq_true, beq_iff_eq] at clashes
      exact nomatch nameFree_iff.mp free y ofY clashes.1 clashes.2
  refine ⟨({ db with years := years' }, .year (data.year tenantId years.fresh)), ?_⟩
  simp only [write, do_eq_ok, insertRow_eq_ok]
  exact ⟨years', inserted, rfl⟩

theorem updateYear_isOk {tenantId id : Id} {data : UpdateData} {year : AcademicYear}
    (found : db.yearOf tenantId id = some year)
    (free : ∀ name ∈ data.name, name = year.name ∨ db.nameFree tenantId name (some id) = true) :
    ∃ r, write (.updateYear id data)
      { db with years := clearedYears db.years tenantId (some id) } = .ok r := by
  let years := clearedYears db.years tenantId (some id)
  obtain ⟨found, ofTenant⟩ := Option.filter_eq_some_iff.mp found
  simp only [decide_eq_true_eq] at ofTenant
  have own : year.id = id := key_of_find? found
  have stays : years.find? id = some year := by
    change (clearedYears db.years tenantId (some id)).find? id = _
    rw [clearedYears, Table.find?_updateMany, found]
    simp [clearsYear, own]
  obtain ⟨years', updated⟩ := @Table.update_of_clear _ _ years id data.year data.key_year year stays
    fun x mem other => by
      obtain ⟨y, ofY, sameId, sameTenant, sameName⟩ := mem_clearedYears mem
      change (year.tenantId == x.tenantId && data.name.getD year.name == x.name) = false
      rw [sameTenant, sameName]
      have apart : y.id ≠ id := sameId ▸ other
      have unclashed : (year.tenantId == y.tenantId && year.name == y.name) = false :=
        db.years.no_clash year (mem_of_find? found) y ofY fun same =>
          apart (same.symm.trans own)
      cases named : data.name with
      | none => exact unclashed
      | some name =>
        rcases free name named with rfl | free
        · exact unclashed
        · by_contra clashes
          simp only [Option.getD_some, Bool.not_eq_false, Bool.and_eq_true, beq_iff_eq] at clashes
          have same := nameFree_iff.mp free y ofY (clashes.1.symm.trans ofTenant)
            clashes.2.symm
          exact apart (Option.some.inj same).symm
  refine ⟨({ db with years := years' }, .yearWithTerms (data.year year)
    (db.terms.rows.filter (·.academicYearId = id))), ?_⟩
  simp only [write, do_eq_ok, updateRow_eq_ok]
  exact ⟨year, stays, years', updated, rfl⟩

theorem createTerm_isOk {tenantId academicYearId : Id} {data : CreateData} {year : AcademicYear}
    (found : db.yearOf tenantId academicYearId = some year) :
    (∃ r, write (.createTerm tenantId academicYearId data)
      { db with terms := clearedTerms db.terms tenantId academicYearId none } = .ok r) ↔
      ∀ t ∈ db.terms.rows, t.academicYearId = academicYearId → t.name ≠ data.name := by
  let terms := clearedTerms db.terms tenantId academicYearId none
  have present : db.years.has (some academicYearId) = true :=
    has_some_iff.mpr ⟨year, (Option.filter_eq_some_iff.mp found).1⟩
  have clear_iff : (∀ x ∈ terms.rows,
      Record.clash x (data.term tenantId academicYearId terms.fresh) = false) ↔
        ∀ t ∈ db.terms.rows, t.academicYearId = academicYearId → t.name ≠ data.name := by
    refine (all_clearedTerms (P := fun _ year name =>
      (year == academicYearId && name == data.name) = false)).trans
        (forall₂_congr fun t _ => ?_)
    by_cases own : t.academicYearId = academicYearId <;> simp [own]
  rw [← clear_iff]
  simp only [write, do_eq_ok, insertRow_eq_ok, referred_eq_ok]
  constructor
  · rintro ⟨r, _, -, terms', inserted, -⟩
    exact (insert_spec.mp inserted).2.2
  · intro clear
    obtain ⟨terms', inserted⟩ := terms.insert_of_fresh
      (data.term tenantId academicYearId terms.fresh) rfl clear
    exact ⟨_, (), present, terms', inserted, rfl⟩

theorem updateTerm_isOk {tenantId id : Id} {data : UpdateData} {term : Term}
    (found : db.termOf tenantId id = some term) :
    (∃ r, write (.updateTerm id data)
      { db with terms := clearedTerms db.terms tenantId term.academicYearId (some id) } = .ok r) ↔
      ∀ name ∈ data.name, ∀ t ∈ db.terms.rows, t.academicYearId = term.academicYearId → t.id ≠ id →
        t.name ≠ name := by
  let terms := clearedTerms db.terms tenantId term.academicYearId (some id)
  obtain ⟨found, -⟩ := Option.filter_eq_some_iff.mp found
  have own : term.id = id := key_of_find? found
  have stays : terms.find? id = some term := by
    change (clearedTerms db.terms tenantId term.academicYearId (some id)).find? id = _
    rw [clearedTerms, Table.find?_updateMany, found]
    simp [clearsTerm, own]
  have clear_iff : (∀ x ∈ terms.rows, Record.key x ≠ id →
      Record.clash (data.term term) x = false) ↔ ∀ name ∈ data.name, ∀ t ∈ db.terms.rows,
        t.academicYearId = term.academicYearId → t.id ≠ id → t.name ≠ name := by
    refine (all_clearedTerms (P := fun k year name => k ≠ id →
      (term.academicYearId == year && data.name.getD term.name == name) = false)).trans ?_
    cases data.name with
    | none =>
      refine iff_of_true (fun t mem other => ?_) nofun
      exact db.terms.no_clash term (mem_of_find? found) t mem fun same =>
        other (same.symm.trans own)
    | some name =>
      simp only [Option.mem_def, Option.some.injEq, forall_eq', Option.getD_some]
      refine forall₂_congr fun t _ => ?_
      by_cases same : t.academicYearId = term.academicYearId
      · simp only [same, beq_self_eq_true, Bool.true_and, forall_const, beq_eq_false_iff_ne]
        exact forall_congr' fun _ => ne_comm
      · refine iff_of_true (fun _ => ?_) fun contra => absurd contra same
        rw [beq_false_of_ne (Ne.symm same), Bool.false_and]
  rw [← clear_iff]
  simp only [write, do_eq_ok, updateRow_eq_ok]
  constructor
  · rintro ⟨r, term', found', terms', updated, -⟩
    obtain ⟨row, here, clear, -⟩ := Table.update_spec.mp updated
    cases stays.symm.trans here
    exact clear
  · intro clear
    obtain ⟨terms', updated⟩ :=
      @Table.update_of_clear _ _ terms id data.term data.key_term term stays clear
    exact ⟨_, term, stays, terms', updated, rfl⟩

theorem run_checkName {tenantId : Id} {year : AcademicYear} {dto : UpdateAcademicYearDto}
    (f : Unit → AcademicCall Made) :
    if ∀ name ∈ truthy dto.name,
        name = year.name ∨ db.nameFree tenantId name (some year.id) = true then
      (checkName tenantId year dto >>= f).run (Sql.exec write) db = (f ()).run (Sql.exec write) db
    else ∃ e, (checkName tenantId year dto >>= f).run (Sql.exec write) db = (db, .error e) := by
  unfold checkName
  cases truthy dto.name with
  | none => simp
  | some name =>
    simp only [Option.mem_def, Option.some.injEq, forall_eq']
    by_cases same : name = year.name
    · simp [same]
    · by_cases free : db.nameFree tenantId name (some year.id) = true
      · rw [if_pos (.inr free)]
        simp [same, Prog.bind_assoc, Sql.run_snapshot, require, free]
      · rw [if_neg (by simp [same, free])]
        refine ⟨alreadyRegistered name, ?_⟩
        simp [same, Prog.bind_assoc, Sql.run_snapshot, require, free]

theorem others_iff {id k : Id} : some id ≠ some k ↔ k ≠ id := Option.some_inj.not.trans ne_comm

theorem unchanged_iff (date : DateParser) (call : Call) :
    Unchanged date db call ↔ FailsClean date db call := by
  unfold Unchanged FailsClean
  cases call with
  | createAcademicYear tenantId dto =>
    dsimp only [Call.program]
    unfold createAcademicYear
    simp only [Sql.run_snapshot, Sql.run_ret_bind]
    by_cases free : db.nameFree tenantId dto.name none = true
    · simp only [require, if_pos free]
      rw [unchanged_replacing rfl, cleared_years_iff]
      have marks : dto.isCurrent.getD false = true ↔ dto.isCurrent = some true := by
        cases dto.isCurrent <;> simp
      simp only [marks, ne_eq, reduceCtorEq, not_false_eq_true, forall_const, free]
      refine imp_congr_right fun _ => or_congr_right ?_
      cases read : dto.data date with
      | error e => exact iff_of_false (by simp) Bool.false_ne_true
      | ok data =>
        refine iff_of_true ⟨data, rfl, createYear_isOk ?_⟩ rfl
        rw [createData_name read]
        exact free
    · simp [require, free]
  | updateAcademicYear tenantId id dto =>
    dsimp only [Call.program]
    unfold updateAcademicYear
    simp only [Sql.run_snapshot, Sql.run_ret_bind]
    cases found : db.yearOf tenantId id with
    | none => simp [orFail]
    | some year =>
      have own : year.id = id := key_of_find? (Option.filter_eq_some_iff.mp found).1
      simp only [orFail, Option.mem_some, forall_eq']
      have run := @run_checkName db tenantId year dto fun _ =>
        replacing (dto.isCurrent = some (some true)) (.clearYears tenantId (some id))
          (dto.data date) (.updateYear id)
      rw [own] at run
      split at run
      · rename_i free
        rw [run, unchanged_replacing rfl, cleared_years_iff]
        simp only [decide_eq_true_eq, others_iff]
        refine imp_congr_right fun _ => ⟨fun clean _ => clean.imp_right ?_,
          fun clean => (clean free).imp_right ?_⟩
        · rintro ⟨data, read, -⟩
          rw [read]
          rfl
        · intro readable
          cases read : dto.data date with
          | error e => rw [read] at readable; cases readable
          | ok data =>
            refine ⟨data, rfl, updateYear_isOk found fun name named => free name ?_⟩
            rwa [← updateData_name read]
      · rename_i taken
        obtain ⟨e, run⟩ := run
        rw [run]
        exact iff_of_true (fun _ _ => rfl) fun _ free => absurd free taken
  | createTerm tenantId dto =>
    dsimp only [Call.program]
    unfold createTerm
    simp only [Sql.run_snapshot, Sql.run_ret_bind]
    cases found : db.yearOf tenantId dto.academicYearId with
    | none => simp [orFail]
    | some year =>
      simp only [orFail]
      rw [unchanged_replacing rfl, cleared_terms_iff]
      have marks : dto.isCurrent.getD false = true ↔ dto.isCurrent = some true := by
        cases dto.isCurrent <;> simp
      simp only [marks, ne_eq, reduceCtorEq, not_false_eq_true, forall_const, Option.isSome_some]
      refine imp_congr_right fun _ => or_congr_right ?_
      cases read : dto.data date with
      | error e => exact iff_of_false (by simp) (Bool.false_ne_true ·.1)
      | ok data =>
        simp only [Except.ok.injEq, exists_eq_left']
        rw [createTerm_isOk found, createData_name read]
        exact (and_iff_right rfl).symm
  | updateTerm tenantId id dto =>
    dsimp only [Call.program]
    unfold updateTerm
    simp only [Sql.run_snapshot, Sql.run_ret_bind]
    cases found : db.termOf tenantId id with
    | none => simp [orFail]
    | some term =>
      simp only [orFail]
      rw [unchanged_replacing rfl, cleared_terms_iff]
      simp only [decide_eq_true_eq, Option.mem_some, forall_eq', others_iff]
      refine imp_congr_right fun _ => or_congr_right ?_
      cases read : dto.data date with
      | error e => exact iff_of_false (by simp) (Bool.false_ne_true ·.1)
      | ok data =>
        simp only [Except.ok.injEq, exists_eq_left']
        rw [updateTerm_isOk found, updateData_name read]
        exact (and_iff_right rfl).symm

end

/-! ### Runs -/

def FindsNoneAt {ι : Type} (p : Threads Db (AcademicCall Made) ι) (move : Move ι Unit Empty) :
    Prop :=
  ∀ s ∈ Sql.committed write p move, FindsNone s p.shared

/-- **One current year and term.** In any interleaving of calls the mark is unique after every step,
exactly if every statement that sets it finds it on no other row; and a call on its own that fails
has changed nothing, exactly if it fails clean. -/
theorem current_kept_iff {ι : Type} [DecidableEq ι] (date : DateParser) {db : Db}
    (one : OneCurrent db) (calls : ι → Call) (moves : List (Move ι Unit Empty)) (before : Db)
    (call : Call) :
    (Along (Sql.moveStep write) (fun p move => OneCurrent (Sql.moveStep write p move).shared)
        (start date db calls) moves ∧ Unchanged date before call) ↔
      Along (Sql.moveStep write) FindsNoneAt (start date db calls) moves ∧
        FailsClean date before call :=
  and_congr (Sql.keeps_iff (fun s _ _ _ one done => findsNone_exact s one done) one)
    (unchanged_iff date call)

instance (db : Db) : Decidable (OneCurrent db) := by
  unfold OneCurrent AtMostOne
  infer_instance

instance (s : Statement) (db : Db) : Decidable (FindsNone s db) := by
  cases s <;> unfold FindsNone <;> infer_instance

instance {ι : Type} (p : Threads Db (AcademicCall Made) ι) (move : Move ι Unit Empty) :
    Decidable (FindsNoneAt p move) :=
  inferInstanceAs (Decidable (∀ s ∈ Sql.committed write p move, FindsNone s p.shared))

instance (date : DateParser) (db : Db) (call : Call) : Decidable (FailsClean date db call) := by
  cases call <;> unfold FailsClean <;> infer_instance

/-! ### A new year -/

namespace Autumn

/-- Three years, the first of them with a term. -/
def db : Db where
  years := ⟨[⟨1, 1, "1402", 0, 0, true⟩, ⟨2, 1, "1403", 0, 0, false⟩, ⟨3, 1, "1404", 0, 0, false⟩],
    by decide, by decide⟩
  terms := ⟨[⟨1, 1, 1, "اول", 0, 0, true⟩], by decide, by decide⟩

def date : DateParser := fun text => if text = "" then none else some 0

/-- The year becomes the current one. -/
def mark (id : Id) : Call := .updateAcademicYear 1 id { isCurrent := some (some true) }

def term (name : String) : Call := .createTerm 1 ⟨1, name, "2025-09-23", "2026-01-20", some true⟩

end Autumn

open Autumn

/-- The second call has read before the first writes, and clears after it. -/
theorem current_kept_autumn :
    Along (Sql.moveStep write) (fun p move => OneCurrent (Sql.moveStep write p move).shared)
      (start date Autumn.db ![mark 2, mark 3]) (moves [0, 1, 0, 0, 1, 1]) ∧
    Unchanged date Autumn.db (Autumn.term "دوم") :=
  (current_kept_iff date (by decide) _ _ _ _).mpr (by decide +kernel)

/-- Two years are marked in step, and both are current; and a term with the name of another takes
the mark from it, and is refused. -/
theorem not_current_kept :
    (OneCurrent Autumn.db ∧
      let p := run (Sql.moveStep write) (start date Autumn.db ![mark 2, mark 3])
        (moves [0, 0, 1, 1, 0, 1])
      (∀ i, (p.own i).returned.isSome = true) ∧ ¬ OneCurrent p.shared) ∧
    ¬ Unchanged date Autumn.db (Autumn.term "اول") := by
  refine ⟨by decide +kernel, fun unchanged => ?_⟩
  have same := unchanged (.database .uniqueConstraint) (by decide +kernel)
  exact absurd (congrArg (fun db => db.terms.rows.map (·.isCurrent)) same) (by decide +kernel)

end Rokad.Academic
