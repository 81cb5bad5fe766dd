import Rokad.Payroll.OnSlip

/-!
# The book of slips

What the slips of a database say, by whom and which month they are for, without the keys of the
rows: a `Book`. A calculation for a contract and the generation of a slip both come to writing one
sheet of the book (`Book.put`), and fail exactly where that does (`mirrors_calculateContract`,
`mirrors_generateSlipForUser`); a monthly calculation writes the sheets of its contracts in turn
(`mirrors_calculateMonthlyPayroll`).
-/

namespace Rokad.Payroll

open Rokad.Base Rokad.Common

/-! ### Sheets -/

/-- An item of a slip. -/
structure Line where
  type : PayrollItemType
  title : String
  amount : Toman
  multiplierOrHours : Option Number := none
  notes : Option String := none
deriving DecidableEq

def PayrollItem.line (i : PayrollItem) : Line :=
  ⟨i.type, i.title, i.amount, i.multiplierOrHours, i.notes⟩

structure Sheet where
  status : PayrollStatus
  (calculatedAmount finalAmount grossPay totalDeductions netPay : Toman)
  lines : List Line

/-- Whom a slip is for, and which month. -/
structure SlipKey where
  tenantId : Id
  userId : UserId
  (year month : ℕ)
deriving DecidableEq

def PayrollSlip.slipKey (s : PayrollSlip) : SlipKey := ⟨s.tenantId, s.userId, s.year, s.month⟩

/-- The sheets, and the slip numbers that a school has given. -/
@[ext] structure Book where
  sheet : SlipKey → Option Sheet
  taken : Id → String → Prop

/-- Writes a sheet; where there was none its number must be new. -/
noncomputable def Book.put (key : SlipKey) (number : String) (sheet : Sheet) (book : Book) :
    Option Book :=
  open Classical in
  if book.sheet key = none ∧ book.taken key.tenantId number then none
  else some
    { sheet := Function.update book.sheet key (some sheet)
      taken := fun tenantId n => book.taken tenantId n ∨
        (book.sheet key = none ∧ tenantId = key.tenantId ∧ n = number) }

def PayrollSlip.sheet (s : PayrollSlip) (lines : List Line) : Sheet where
  status := s.status
  calculatedAmount := s.calculatedAmount
  finalAmount := s.finalAmount
  grossPay := s.grossPay
  totalDeductions := s.totalDeductions
  netPay := s.netPay
  lines

/-- The lines of slip `k`. -/
def Db.linesOf (db : Db) (k : Id) : List Line := (db.itemsOf k).map (·.line)

def Db.slipAt (db : Db) (key : SlipKey) : Option PayrollSlip :=
  db.slipOf key.tenantId key.userId key.year key.month

def Db.book (db : Db) : Book where
  sheet key := (db.slipAt key).map fun s => s.sheet (db.linesOf s.id)
  taken tenantId number := ∃ s ∈ db.slips.rows, s.tenantId = tenantId ∧ s.slipNumber = number

/-! ### Lines -/

def lineOf (draft : ItemDraft) : Option Line :=
  (column draft.amount).toOption.map fun amount =>
    { type := draft.type
      title := draft.title
      amount
      multiplierOrHours := draft.multiplierOrHours
      notes := draft.notes }

/-- The item that an adjustment becomes. -/
def PayrollAdjustment.draft (adj : PayrollAdjustment) : ItemDraft :=
  { type := .adjustment
    title := "تعدیلات و اصلاحات معوقه: " ++ adj.reason
    amount := adj.amount.toNumber
    source := some adj.id }

/-- An adjustment whatever slip it is linked to. -/
def PayrollAdjustment.unlinked (adj : PayrollAdjustment) : PayrollAdjustment :=
  { adj with appliedToSlipId := none }

def Db.pending (db : Db) (tenantId : Id) (userId : UserId) : List PayrollAdjustment :=
  (pendingAdjustments db tenantId userId).map (·.unlinked)

/-- The lines of drafts, if each amount fits its column. -/
def linesOf : List ItemDraft → Option (List Line)
  | [] => some []
  | draft :: drafts => do
      let line ← lineOf draft
      let lines ← linesOf drafts
      some (line :: lines)

/-- The sheet of a contract. -/
def calculatedSheet (contract : TeacherContract) (sessions month : ℕ)
    (pending : List PayrollAdjustment) : Option Sheet := do
  let worked := calculation contract sessions
  let columns ← (slipColumns worked pending).toOption
  let lines ← linesOf (teachingItems contract month worked ++ pending.map (·.draft))
  some
    { status := .draft
      calculatedAmount := columns.calculatedAmount
      finalAmount := columns.finalAmount
      grossPay := columns.finalAmount
      totalDeductions := 0
      netPay := columns.finalAmount
      lines }

/-- The sheet of a generated slip. -/
def generatedSheet (pay : Pay) : Option Sheet := do
  let columns ← (payColumns pay).toOption
  let lines ← linesOf pay.items
  some
    { status := .draft
      calculatedAmount := columns.grossPay
      finalAmount := columns.netPay
      grossPay := columns.grossPay
      totalDeductions := columns.totalDeductions
      netPay := columns.netPay
      lines }

/-! ### Statements that go through -/

section

variable {db db' : Db}

theorem Db.exists_write {s : Statement} {t : Tables} (done : db.toTables.write s = .ok t) :
    ∃ db', db.write s = .ok db' ∧ db'.toTables = t :=
  ⟨⟨t, db.foreignKeys.write done⟩, Db.write_eq_ok.mpr done, rfl⟩

theorem Db.exists_updateSlip {k : Id} {s : PayrollSlip} (found : db.slips.find? k = some s)
    (data : SlipUpdate) : ∃ db', db.write (.updateSlip k data) = .ok db' := by
  obtain ⟨slips, updated⟩ : ∃ slips, db.slips.update k data.set data.key = some slips :=
    update_isSome found data.unique
  have done : db.toTables.write (.updateSlip k data) = .ok { db.toTables with slips } := by
    simp only [Tables.write, do_eq_ok, updateRow_eq_ok]
    exact ⟨slips, updated, rfl⟩
  obtain ⟨db', done, -⟩ := Db.exists_write done
  exact ⟨db', done⟩

theorem Db.exists_deleteItems (db : Db) (k : Id) : ∃ db', db.write (.deleteItems k) = .ok db' := by
  have done : db.toTables.write (.deleteItems k) =
      .ok { db.toTables with items := db.items.deleteMany (·.payrollSlipId = k) } := rfl
  obtain ⟨db', done, -⟩ := Db.exists_write done
  exact ⟨db', done⟩

theorem Db.exists_createItem (row : PayrollItem) (slip : db.slips.has (some row.payrollSlipId))
    (source : db.adjustments.has row.source) (fresh : row.id = db.items.fresh) :
    ∃ db', db.write (.createItem row) = .ok db' := by
  obtain ⟨items, inserted⟩ := db.items.insert_of_fresh row fresh fun _ _ => rfl
  have done : db.toTables.write (.createItem row) = .ok { db.toTables with items } := by
    simp only [Tables.write, do_eq_ok, referred_eq_ok, insertRow_eq_ok]
    exact ⟨(), slip, (), source, items, inserted, rfl⟩
  obtain ⟨db', done, -⟩ := Db.exists_write done
  exact ⟨db', done⟩

theorem Db.exists_linkAdjustment {id k : Id} {a : PayrollAdjustment}
    (slip : db.slips.has (some k)) (found : db.adjustments.find? id = some a) :
    ∃ db', db.write (.linkAdjustment id k) = .ok db' := by
  obtain ⟨adjustments, updated⟩ : ∃ adjustments, db.adjustments.update id
      (PayrollAdjustment.link k) (PayrollAdjustment.key_link k) = some adjustments :=
    update_isSome found fun _ _ => rfl
  have done : db.toTables.write (.linkAdjustment id k) = .ok { db.toTables with adjustments } := by
    simp only [Tables.write, do_eq_ok, referred_eq_ok, updateRow_eq_ok]
    exact ⟨(), slip, adjustments, updated, rfl⟩
  obtain ⟨db', done, -⟩ := Db.exists_write done
  exact ⟨db', done⟩

theorem Db.slipAt_eq_none_iff {key : SlipKey} :
    db.slipAt key = none ↔ ∀ s ∈ db.slips.rows, s.slipKey ≠ key := by
  unfold Db.slipAt Db.slipOf PayrollSlip.slipKey
  rw [List.find?_eq_none]
  refine forall₂_congr fun s mem => ?_
  rw [decide_eq_true_eq, ne_eq, SlipKey.mk.injEq]

/-- A slip is created when its number and its month are new. -/
theorem Db.exists_createSlip_iff {row : PayrollSlip} (fresh : row.id = db.slips.fresh)
    (new : db.slipAt row.slipKey = none) :
    (∃ db', db.write (.createSlip row) = .ok db') ↔
      ¬ db.book.taken row.tenantId row.slipNumber := by
  rw [Db.slipAt_eq_none_iff] at new
  have clash : ∀ s ∈ db.slips.rows, Record.clash s row = false ↔
      ¬ (s.tenantId = row.tenantId ∧ s.slipNumber = row.slipNumber) := by
    intro s mem
    have other := new s mem
    simp only [PayrollSlip.slipKey, ne_eq, SlipKey.mk.injEq] at other
    simp only [Record.clash, Bool.and_eq_false_iff, Bool.or_eq_false_iff, beq_eq_false_iff_ne]
    grind
  constructor
  · rintro ⟨db', done⟩ ⟨s, mem, same⟩
    exact (clash s mem).mp ((insert_spec.mp (Db.write_slips done)).2.2 s mem) same
  · intro free
    obtain ⟨slips, inserted⟩ := db.slips.insert_of_fresh row fresh fun s mem =>
      (clash s mem).mpr fun same => free ⟨s, mem, same⟩
    have done : db.toTables.write (.createSlip row) = .ok { db.toTables with slips } := by
      simp only [Tables.write, do_eq_ok, insertRow_eq_ok]
      exact ⟨slips, inserted, rfl⟩
    obtain ⟨db', done, -⟩ := Db.exists_write done
    exact ⟨db', done⟩

end

/-! ### Filling a slip -/

theorem Db.pending_eq (db : Db) (tenantId : Id) (userId : UserId) :
    db.pending tenantId userId = (db.adjustments.rows.map (·.unlinked)).filter fun a =>
      a.tenantId = tenantId ∧ a.teacherId = userId ∧ a.status = .pending := by
  rw [List.filter_map]
  rfl

/-- The items of slip `k` have come to these lines; every other item, the slips and the adjustments
are as they were, but for their links. -/
structure Filling (k : Id) (db₀ db : Db) (lines : List Line) : Prop where
  slips : db.slips = db₀.slips
  items : ∀ j, j ≠ k → db.itemsOf j = db₀.itemsOf j
  lines : db.linesOf k = lines
  adjustments : db.adjustments.rows.map (·.unlinked) = db₀.adjustments.rows.map (·.unlinked)

namespace Filling

variable {k : Id} {db₀ db : Db} {lines : List Line}

section

variable (filling : Filling k db₀ db lines)
include filling

theorem find?_adjustment {id : Id}
    (found : (db₀.adjustments.find? id).isSome) : ∃ a, db.adjustments.find? id = some a := by
  obtain ⟨a, here⟩ := Option.isSome_iff_exists.mp found
  have mem : a.unlinked ∈ db.adjustments.rows.map (·.unlinked) := by
    rw [filling.adjustments]
    exact List.mem_map_of_mem (mem_of_find? here)
  obtain ⟨a', mem', same⟩ := List.mem_map.mp mem
  have key : a'.id = id :=
    (congrArg PayrollAdjustment.id same).trans (key_of_find? here)
  exact ⟨a', key ▸ db.adjustments.find?_key mem'⟩

theorem createItem (tenantId : Id) (draft : ItemDraft)
    (slip : db₀.slips.has (some k)) (source : ∀ id ∈ draft.source,
      (db₀.adjustments.find? id).isSome) :
    Mirrors (Filling k db₀) (Payroll.createItem tenantId k db draft)
      ((lineOf draft).map (lines ++ [·])) := by
  unfold Payroll.createItem lineOf
  cases stored : column draft.amount with
  | error e => exact Mirrors.error e
  | ok amount =>
    have sourced : db.adjustments.has draft.source := by
      cases from' : draft.source with
      | none => rfl
      | some id =>
        rw [has_some_iff]
        exact filling.find?_adjustment (source id from')
    obtain ⟨db', done⟩ := Db.exists_createItem
      { id := db.items.fresh, tenantId, payrollSlipId := k, type := draft.type,
        title := draft.title, amount, multiplierOrHours := draft.multiplierOrHours,
        notes := draft.notes, source := draft.source }
      (filling.slips ▸ slip) sourced rfl
    have rows := (insert_spec.mp (Db.write_items done)).1
    change Mirrors (Filling k db₀) (db.write _) (some _)
    rw [done]
    refine Mirrors.ok ⟨(Db.write_slips done).trans filling.slips, fun j other => ?_, ?_, ?_⟩
    · rw [← filling.items j other, Db.itemsOf, rows, List.filter_append]
      simp [other.symm, Db.itemsOf]
    · rw [Db.linesOf, Db.itemsOf, rows, List.filter_append, List.map_append]
      have before := filling.lines
      unfold Db.linesOf Db.itemsOf at before
      rw [before]
      simp [PayrollItem.line]
    · rw [show db'.adjustments = db.adjustments from Db.write_adjustments done]
      exact filling.adjustments

theorem addAdjustment (tenantId : Id) {adj : PayrollAdjustment} (slip : db₀.slips.has (some k))
    (found : (db₀.adjustments.find? adj.id).isSome) :
    Mirrors (Filling k db₀) (Payroll.addAdjustment tenantId k db adj)
      ((lineOf adj.draft).map (lines ++ [·])) := by
  have item := filling.createItem tenantId adj.draft slip (by
    rintro id from'
    cases from'
    exact found)
  have linked := item.bind (S := Filling k db₀) (g := some)
    (f := fun db => db.write (.linkAdjustment adj.id k)) fun db lines filling => by
      obtain ⟨a, here⟩ := filling.find?_adjustment found
      obtain ⟨db', done⟩ := Db.exists_linkAdjustment (filling.slips ▸ slip) here
      obtain ⟨-, -, -, rows⟩ := Table.update_spec.mp (Db.write_adjustments done)
      have sameItems : db'.items = db.items := Db.write_items done
      rw [done]
      refine Mirrors.ok ⟨(Db.write_slips done).trans filling.slips, fun j other => ?_, ?_, ?_⟩
      · rw [Db.itemsOf, sameItems]
        exact filling.items j other
      · rw [Db.linesOf, Db.itemsOf, sameItems]
        exact filling.lines
      · rw [rows, List.map_map, ← filling.adjustments]
        refine List.map_congr_left fun a _ => ?_
        by_cases here : Record.key a = adj.id
        · simp [here, PayrollAdjustment.link, PayrollAdjustment.unlinked]
        · simp [here]
  rw [Option.bind_eq_bind, Option.bind_fun_some] at linked
  exact linked

end

end Filling

theorem foldlM_lineOf (drafts : List ItemDraft) (lines : List Line) :
    drafts.foldlM (fun lines draft => (lineOf draft).map (lines ++ [·])) lines =
      (linesOf drafts).map (lines ++ ·) := by
  induction drafts generalizing lines with
  | nil => simp [linesOf]
  | cons draft drafts ih =>
    rw [List.foldlM_cons, linesOf]
    cases lineOf draft with
    | none => rfl
    | some line =>
      simp only [Option.map_some, Option.bind_eq_bind, Option.bind_some, ih]
      cases linesOf drafts with
      | none => rfl
      | some rest => simp

theorem linesOf_append (drafts others : List ItemDraft) : linesOf (drafts ++ others) =
      (linesOf drafts).bind fun lines => (linesOf others).map (lines ++ ·) := by
  induction drafts with
  | nil => simp [linesOf]
  | cons draft drafts ih =>
    rw [List.cons_append, linesOf, linesOf, ih]
    cases lineOf draft with
    | none => rfl
    | some line =>
      cases linesOf drafts with
      | none => rfl
      | some lines => cases linesOf others <;> rfl

section

variable {k : Id} {db₀ db : Db} {drafts : List ItemDraft}

theorem mirrors_createItems (filling : Filling k db₀ db []) (tenantId : Id)
    (slip : db₀.slips.has (some k))
    (own : ∀ draft ∈ drafts, draft.source = none) :
    Mirrors (Filling k db₀) (inTurn (createItem tenantId k) db drafts) (linesOf drafts) := by
  have mirrors : Mirrors (Filling k db₀) (inTurn (createItem tenantId k) db drafts)
      (drafts.foldlM (fun lines draft => (lineOf draft).map (lines ++ [·])) []) :=
    Mirrors.inTurn (fun draft mem db lines filling =>
      filling.createItem tenantId draft slip (by simp [own draft mem])) filling
  rwa [foldlM_lineOf, show (linesOf drafts).map ([] ++ ·) = _ from Option.map_id' ..] at mirrors

theorem mirrors_fillSlip (filling : Filling k db₀ db []) (tenantId : Id)
    (slip : db₀.slips.has (some k))
    (own : ∀ draft ∈ drafts, draft.source = none) {pending : List PayrollAdjustment}
    (all : ∀ adj ∈ pending, (db₀.adjustments.find? adj.id).isSome) :
    Mirrors (Filling k db₀) (fillSlip tenantId k drafts pending db)
      (linesOf (drafts ++ pending.map (·.draft))) := by
  rw [linesOf_append]
  refine (mirrors_createItems filling tenantId slip own).bind fun db lines filling => ?_
  have mirrors : Mirrors (Filling k db₀) (inTurn (addAdjustment tenantId k) db pending)
      (pending.foldlM (fun lines adj => (lineOf adj.draft).map (lines ++ [·])) lines) :=
    Mirrors.inTurn (fun adj mem db lines filling =>
      filling.addAdjustment tenantId slip (all adj mem)) filling
  rw [← foldlM_lineOf, List.foldlM_map]
  exact mirrors

end

/-! ### Writing a sheet -/

section

variable {db db' : Db} {key : SlipKey}

theorem Db.slipAt_eq_some_iff {s : PayrollSlip} :
    db.slipAt key = some s ↔ db.slips.find? s.id = some s ∧ s.slipKey = key := by
  constructor
  · intro found
    obtain ⟨here, tenant, user, year, month⟩ := Db.slipOf_spec found
    exact ⟨here, by rw [PayrollSlip.slipKey, tenant, user, year, month]⟩
  · rintro ⟨here, rfl⟩
    have mem := mem_of_find? here
    cases found : db.slipAt s.slipKey with
    | none => exact absurd rfl (Db.slipAt_eq_none_iff.mp found s mem)
    | some s' =>
      obtain ⟨here', tenant, user, year, month⟩ := Db.slipOf_spec found
      by_contra differ
      have clash := db.slips.no_clash s' (mem_of_find? here') s mem fun same =>
        differ (congrArg some (db.slips.eq_of_key_eq (mem_of_find? here') mem same))
      simp [Record.clash, tenant, user, year, month, PayrollSlip.slipKey] at clash

/-- Every slip but that of the key stays, with its items. -/
structure Writes (k : Id) (key : SlipKey) (s : PayrollSlip) (db db' : Db) : Prop where
  slip : db'.slips.find? k = some s
  key : s.slipKey = key
  slips : ∀ j, j ≠ k → db'.slips.find? j = db.slips.find? j
  items : ∀ j, j ≠ k → db'.itemsOf j = db.itemsOf j

section

variable {k : Id} {s : PayrollSlip} (writes : Writes k key s db db')
include writes

theorem Writes.sheet (was : ∀ old, db.slips.find? k = some old → old.slipKey = key) :
    db'.book.sheet = Function.update db.book.sheet key (some (s.sheet (db'.linesOf s.id))) := by
  have id : s.id = k := key_of_find? writes.slip
  funext key'
  by_cases same : key' = key
  · subst same
    have here : db'.slipAt key' = some s :=
      Db.slipAt_eq_some_iff.mpr ⟨id ▸ writes.slip, writes.key⟩
    rw [Function.update_self, Db.book]
    simp only [here, Option.map_some]
  · rw [Function.update_of_ne same]
    have slips (x : PayrollSlip) : db'.slipAt key' = some x ↔ db.slipAt key' = some x := by
      rw [Db.slipAt_eq_some_iff, Db.slipAt_eq_some_iff]
      by_cases own : x.id = k
      · refine ⟨fun ⟨here, of⟩ => ?_, fun ⟨here, of⟩ => ?_⟩
        · rw [own, writes.slip] at here
          cases here
          exact absurd (of.symm.trans writes.key) same
        · rw [own] at here
          exact absurd (of.symm.trans (was x here)) same
      · rw [writes.slips _ own]
    simp only [Db.book]
    cases before : db.slipAt key' with
    | none =>
      have after : db'.slipAt key' = none := by
        cases after : db'.slipAt key' with
        | none => rfl
        | some x => exact absurd ((slips x).mp after) (by simp [before])
      rw [after]
      rfl
    | some x =>
      have here := Db.slipAt_eq_some_iff.mp before
      have own : x.id ≠ k := fun own =>
        same (here.2.symm.trans (was x (own ▸ here.1)))
      rw [(slips x).mpr before, Option.map_some, Option.map_some, Db.linesOf, writes.items _ own]
      rfl

theorem Writes.mem_iff
    {x : PayrollSlip} (other : x.id ≠ k) : x ∈ db.slips.rows ↔ x ∈ db'.slips.rows := by
  constructor
  · intro mem
    exact mem_of_find? ((writes.slips _ other).trans (db.slips.find?_key mem))
  · intro mem
    exact mem_of_find? ((writes.slips _ other).symm.trans (db'.slips.find?_key mem))

/-- Over a slip that exists. -/
theorem Writes.put_of_found {old : PayrollSlip}
    (found : db.slipAt key = some old) (here : old.id = k) (number : s.slipNumber = old.slipNumber)
    (n : String) : db.book.put key n (s.sheet (db'.linesOf s.id)) = some db'.book := by
  obtain ⟨before, ofKey⟩ := Db.slipAt_eq_some_iff.mp found
  rw [here] at before
  have was : ∀ x, db.slips.find? k = some x → x.slipKey = key := fun x same => by
    rw [before] at same
    cases same
    exact ofKey
  have sheet : db.book.sheet key ≠ none := by simp [Db.book, found]
  have tenant : s.tenantId = old.tenantId :=
    (congrArg SlipKey.tenantId writes.key).trans (congrArg SlipKey.tenantId ofKey).symm
  unfold Book.put
  rw [if_neg (fun none => sheet none.1)]
  congr 1
  ext1
  · exact (writes.sheet was).symm
  · funext tenantId number'
    simp only [sheet, false_and, or_false, eq_iff_iff]
    change (∃ x ∈ db.slips.rows, _) ↔ ∃ x ∈ db'.slips.rows, _
    constructor
    · rintro ⟨x, mem, rfl, rfl⟩
      by_cases own : x.id = k
      · have same : x = old := Option.some.inj
          ((own ▸ db.slips.find?_key mem : db.slips.find? k = some x).symm.trans before)
        subst same
        exact ⟨s, mem_of_find? writes.slip, tenant, number⟩
      · exact ⟨x, (writes.mem_iff own).mp mem, rfl, rfl⟩
    · rintro ⟨x, mem, rfl, rfl⟩
      by_cases own : x.id = k
      · have same : x = s := Option.some.inj
          ((own ▸ db'.slips.find?_key mem : db'.slips.find? k = some x).symm.trans writes.slip)
        subst same
        exact ⟨old, mem_of_find? before, tenant.symm, number.symm⟩
      · exact ⟨x, (writes.mem_iff own).mpr mem, rfl, rfl⟩

/-- Where there was no slip. -/
theorem Writes.put_of_new (new : db.slipAt key = none) (absent : db.slips.find? k = none)
    (free : ¬ db.book.taken key.tenantId s.slipNumber) :
    db.book.put key s.slipNumber (s.sheet (db'.linesOf s.id)) = some db'.book := by
  have was : ∀ x, db.slips.find? k = some x → x.slipKey = key := fun x same => by
    rw [absent] at same
    cases same
  have sheet : db.book.sheet key = none := by simp [Db.book, new]
  unfold Book.put
  rw [if_neg (fun taken => free taken.2)]
  congr 1
  ext1
  · exact (writes.sheet was).symm
  · funext tenantId number'
    simp only [sheet, true_and, eq_iff_iff]
    change (∃ x ∈ db.slips.rows, _) ∨ _ ↔ ∃ x ∈ db'.slips.rows, _
    have tenant : s.tenantId = key.tenantId := congrArg SlipKey.tenantId writes.key
    constructor
    · rintro (⟨x, mem, rfl, rfl⟩ | ⟨rfl, rfl⟩)
      · have own : x.id ≠ k := fun own => by
          have at' := db.slips.find?_key mem
          change db.slips.find? x.id = some x at at'
          rw [own, absent] at at'
          cases at'
        exact ⟨x, (writes.mem_iff own).mp mem, rfl, rfl⟩
      · exact ⟨s, mem_of_find? writes.slip, tenant, rfl⟩
    · rintro ⟨x, mem, rfl, rfl⟩
      by_cases own : x.id = k
      · have same : x = s := Option.some.inj
          ((own ▸ db'.slips.find?_key mem : db'.slips.find? k = some x).symm.trans writes.slip)
        subst same
        exact .inr ⟨tenant, rfl⟩
      · exact .inl ⟨x, (writes.mem_iff own).mpr mem, rfl, rfl⟩

end

/-- The database in which slip `k` has come to `s` and lost its items. -/
structure Cleared (k : Id) (key : SlipKey) (s : PayrollSlip) (db db' : Db) : Prop extends
    Writes k key s db db' where
  none : db'.itemsOf k = []
  adjustments : db'.adjustments = db.adjustments

section

variable {k : Id} {s : PayrollSlip} (cleared : Cleared k key s db db')
include cleared

theorem Cleared.filling : Filling k db' db' [] :=
  ⟨rfl, fun _ _ => rfl, by rw [Db.linesOf, cleared.none]; rfl, rfl⟩

theorem Cleared.has : db'.slips.has (some k) :=
  has_some_iff.mpr ⟨s, cleared.slip⟩

/-- What fills a cleared slip writes the sheet. -/
theorem Cleared.mirrors {n : String}
    {x : Result Db} {lines : Option (List Line)} (fill : Mirrors (Filling k db') x lines)
    (put : ∀ db₁, Writes k key s db db₁ →
      db.book.put key n (s.sheet (db₁.linesOf s.id)) = some db₁.book) :
    Mirrors (fun db₁ book => db₁.book = book ∧ db₁.pending = db.pending) x
      (lines.bind fun lines => db.book.put key n (s.sheet lines)) := by
  cases x with
  | error e =>
    cases lines with
    | none => exact Mirrors.error e
    | some lines =>
      obtain ⟨_, failed, -⟩ := fill.of_some rfl
      cases failed
  | ok db₁ =>
    obtain ⟨lines, rfl, filling⟩ := fill.of_ok rfl
    have id : s.id = k := key_of_find? cleared.slip
    have writes : Writes k key s db db₁ :=
      { slip := by rw [filling.slips]; exact cleared.slip
        key := cleared.key
        slips := fun j other => by rw [filling.slips]; exact cleared.slips j other
        items := fun j other => (filling.items j other).trans (cleared.items j other) }
    rw [Option.bind_some, ← filling.lines, ← id, put db₁ writes]
    refine Mirrors.ok ⟨rfl, ?_⟩
    funext tenantId userId
    rw [Db.pending_eq, Db.pending_eq, filling.adjustments, cleared.adjustments]

end

theorem itemsOf_deleteItems {k : Id} (deleted : db.write (.deleteItems k) = .ok db') :
    db'.itemsOf k = [] := by
  have rows : db'.items = db.items.deleteMany (·.payrollSlipId = k) := Db.write_items deleted
  rw [Db.itemsOf, rows, List.filter_eq_nil_iff]
  intro i mem of
  have kept := (Table.mem_deleteMany.mp mem).2
  rw [of] at kept
  cases kept

theorem cleared_of_updated {db₁ : Db} {data : SlipUpdate} {old : PayrollSlip}
    (found : db.slipAt key = some old) (stays : (data.set old).slipKey = old.slipKey)
    (updated : db.write (.updateSlip old.id data) = .ok db₁)
    (deleted : db₁.write (.deleteItems old.id) = .ok db') :
    Cleared old.id key (data.set old) db db' := by
  obtain ⟨here, ofKey⟩ := Db.slipAt_eq_some_iff.mp found
  have on := (OnSlip.of_updateSlip updated).trans (OnSlip.of_deleteItems deleted)
  exact
    { slip := by
        rw [show db'.slips = db₁.slips from Db.write_slips deleted]
        exact find?_update_self (Db.write_slips updated) here
      key := stays.trans ofKey
      slips := on.slips
      items := on.items
      none := itemsOf_deleteItems deleted
      adjustments := (Db.write_adjustments deleted).trans (Db.write_adjustments updated) }

theorem cleared_of_deleted {db₁ : Db} {data : SlipUpdate} {old : PayrollSlip}
    (found : db.slipAt key = some old) (stays : (data.set old).slipKey = old.slipKey)
    (deleted : db.write (.deleteItems old.id) = .ok db₁)
    (updated : db₁.write (.updateSlip old.id data) = .ok db') :
    Cleared old.id key (data.set old) db db' := by
  obtain ⟨here, ofKey⟩ := Db.slipAt_eq_some_iff.mp found
  rw [← show db₁.slips = db.slips from Db.write_slips deleted] at here
  have on := (OnSlip.of_deleteItems deleted).trans (OnSlip.of_updateSlip updated)
  exact
    { slip := find?_update_self (Db.write_slips updated) here
      key := stays.trans ofKey
      slips := on.slips
      items := on.items
      none := by
        rw [Db.itemsOf, show db'.items = db₁.items from Db.write_items updated]
        exact itemsOf_deleteItems deleted
      adjustments := (Db.write_adjustments updated).trans (Db.write_adjustments deleted) }

theorem itemsOf_fresh (db : Db) : db.itemsOf db.slips.fresh = [] := by
  rw [Db.itemsOf, List.filter_eq_nil_iff]
  intro i mem of
  obtain ⟨s, found⟩ := has_some_iff.mp (db.foreignKeys.item_slip i mem)
  rw [of_decide_eq_true of, find?_fresh] at found
  cases found

theorem cleared_of_created {row : PayrollSlip} (fresh : row.id = db.slips.fresh)
    (ofKey : row.slipKey = key) (created : db.write (.createSlip row) = .ok db') :
    Cleared row.id key row db db' := by
  have on := OnSlip.of_createSlip created
  exact
    { slip := by
        rw [Table.find?_insert (Db.write_slips created)]
        exact if_pos rfl
      key := ofKey
      slips := on.slips
      items := on.items
      none := by
        rw [Db.itemsOf, show db'.items = db.items from Db.write_items created, fresh]
        exact itemsOf_fresh db
      adjustments := Db.write_adjustments created }

/-- A slip is created and filled, unless its number is taken. -/
theorem mirrors_created {row : PayrollSlip} (fresh : row.id = db.slips.fresh)
    (new : db.slipAt row.slipKey = none) {fill : Db → Result Db}
    {lines : Option (List Line)}
    (fills : ∀ db₁, Cleared row.id row.slipKey row db db₁ →
      Mirrors (Filling row.id db₁) (fill db₁) lines) :
    Mirrors (fun db₁ book => db₁.book = book ∧ db₁.pending = db.pending)
      (db.write (.createSlip row) >>= fill)
      (lines.bind fun lines => db.book.put row.slipKey row.slipNumber (row.sheet lines)) := by
  have created_iff := Db.exists_createSlip_iff fresh new
  have absent : db.book.sheet row.slipKey = none := by simp [Db.book, new]
  cases created : db.write (.createSlip row) with
  | error e =>
    have taken : db.book.taken row.tenantId row.slipNumber := by
      by_contra free
      obtain ⟨db₁, done⟩ := created_iff.mpr free
      rw [created] at done
      cases done
    have refused (lines : List Line) :
        db.book.put row.slipKey row.slipNumber (row.sheet lines) = none := by
      unfold Book.put
      exact if_pos ⟨absent, taken⟩
    simp only [refused, Option.bind_fun_none]
    exact Mirrors.error e
  | ok db₁ =>
    have free := created_iff.mp ⟨db₁, created⟩
    have cleared := cleared_of_created fresh rfl created
    rw [ok_bind]
    refine cleared.mirrors (fills db₁ cleared) fun db₂ writes => writes.put_of_new new ?_ free
    rw [fresh, find?_fresh]

/-- A slip is written over and filled. -/
theorem mirrors_rewritten {k : Id} {s old : PayrollSlip} (found : db.slipAt key = some old)
    (here : old.id = k) (cleared : Cleared k key s db db') (number : s.slipNumber = old.slipNumber)
    {x : Result Db} {lines : Option (List Line)} (fill : Mirrors (Filling k db') x lines)
    (n : String) : Mirrors (fun db₁ book => db₁.book = book ∧ db₁.pending = db.pending) x
      (lines.bind fun lines => db.book.put key n (s.sheet lines)) :=
  cleared.mirrors fill fun _ writes => writes.put_of_found found here number n

end

/-! ### The two calls -/

theorem calculatedSheet_unlinked (contract : TeacherContract) (sessions month : ℕ)
    (pending : List PayrollAdjustment) :
    calculatedSheet contract sessions month (pending.map (·.unlinked)) =
      calculatedSheet contract sessions month pending := by
  unfold calculatedSheet slipColumns
  rw [List.foldl_map, List.map_map]
  rfl

/-- One contract, on the book. -/
noncomputable def postContract (range : MonthRange) (staff : Staff) (tenantId : Id)
    (year month : ℕ) (pending : Id → UserId → List PayrollAdjustment) (book : Book)
    (contract : TeacherContract) : Option Book :=
  let key : SlipKey := ⟨tenantId, contract.teacher.id, year, month⟩
  if (book.sheet key).any (·.status.isIssued) then some book
  else do
    let sheet ← calculatedSheet contract
      (countSessions staff tenantId range contract.teacher.teacherProfileId) month
      (pending tenantId contract.teacher.id)
    book.put key (slipNumber year month contract.teacher.id) sheet

/-- A slip generated from the payroll profile, on the book. -/
noncomputable def postGenerated (staff : Staff) (tenantId : Id) (dto : GeneratePayrollSlipDto)
    (book : Book) : Option Book := do
  let profile ← staff.profiles.find? fun p => p.tenantId = tenantId ∧ p.user.id = dto.userId
  let sheet ← generatedSheet (payOf profile dto)
  book.put ⟨tenantId, dto.userId, dto.year, dto.month⟩
    (slipNumber dto.year dto.month profile.user.id) sheet

section

variable {db : Db} {tenantId : Id}

theorem found_of_pending {db' : Db} (same : db'.adjustments = db.adjustments) (tenantId : Id)
    (userId : UserId) :
    ∀ adj ∈ pendingAdjustments db tenantId userId, (db'.adjustments.find? adj.id).isSome := by
  intro adj mem
  rw [same, show db.adjustments.find? adj.id = some adj from
    db.adjustments.find?_key (List.mem_filter.mp mem).1]
  rfl

theorem source_of_teachingItems (contract : TeacherContract) (month : ℕ) (worked : Calculation) :
    ∀ draft ∈ teachingItems contract month worked, draft.source = none := by
  intro draft mem
  unfold teachingItems at mem
  dsimp only at mem
  split_ifs at mem
  all_goals simp only [List.mem_append, List.mem_singleton, List.not_mem_nil, or_false,
    false_or] at mem
  · rcases mem with rfl | rfl <;> rfl
  · rw [mem]
  · rw [mem]

/-- A calculation for a contract writes its sheet, unless the slip is issued. -/
theorem mirrors_calculateContract (range : MonthRange) (staff : Staff) (year month : ℕ)
    (ids : List Id) (contract : TeacherContract) :
    Mirrors (fun acc book => acc.1.book = book ∧ acc.1.pending = db.pending)
      (calculateContract range staff tenantId year month (db, ids) contract)
      (postContract range staff tenantId year month db.pending db.book contract) := by
  unfold calculateContract postContract
  dsimp only
  rw [show db.pending tenantId contract.teacher.id =
    (pendingAdjustments db tenantId contract.teacher.id).map (·.unlinked) from rfl,
    calculatedSheet_unlinked]
  cases slip : db.slipOf tenantId contract.teacher.id year month with
  | some existing =>
    obtain ⟨found, -⟩ := Db.slipOf_spec slip
    have sheet : db.book.sheet ⟨tenantId, contract.teacher.id, year, month⟩ =
        some (existing.sheet (db.linesOf existing.id)) := congrArg (Option.map _) slip
    rw [sheet, Option.any_some]
    change Mirrors _ (if existing.status.isIssued = true then _ else _)
      (if existing.status.isIssued = true then _ else _)
    split_ifs with issued
    · exact Mirrors.ok ⟨rfl, rfl⟩
    unfold calculatedSheet
    dsimp only
    generalize calculation contract
      (countSessions staff tenantId range contract.teacher.teacherProfileId) = worked
    cases columns : slipColumns worked
        (pendingAdjustments db tenantId contract.teacher.id) with
    | error e => exact Mirrors.error e
    | ok cols =>
      obtain ⟨db₁, updated⟩ := Db.exists_updateSlip found (recalculated cols worked)
      obtain ⟨db₂, deleted⟩ := db₁.exists_deleteItems existing.id
      have at' : db.slipAt ⟨tenantId, contract.teacher.id, year, month⟩ = some existing := slip
      have cleared := cleared_of_updated at' rfl updated deleted
      have fill := mirrors_fillSlip cleared.filling tenantId cleared.has
        (source_of_teachingItems contract month worked)
        (found_of_pending cleared.adjustments tenantId contract.teacher.id)
      have all := mirrors_rewritten at' rfl cleared rfl fill
        (slipNumber year month contract.teacher.id)
      rw [ok_bind, updated, ok_bind, deleted, ok_bind]
      generalize linesOf _ = lines at all ⊢
      cases lines with
      | none => exact all.returning fun _ _ same => same
      | some lines => exact all.returning fun _ _ same => same
  | none =>
    have sheet : db.book.sheet ⟨tenantId, contract.teacher.id, year, month⟩ = none :=
      congrArg (Option.map _) slip
    rw [sheet, Option.any_none, if_neg (by decide)]
    unfold calculatedSheet
    dsimp only
    generalize calculation contract
      (countSessions staff tenantId range contract.teacher.teacherProfileId) = worked
    cases columns : slipColumns worked
        (pendingAdjustments db tenantId contract.teacher.id) with
    | error e => exact Mirrors.error e
    | ok cols =>
      obtain ⟨row, isRow⟩ : ∃ row, calculatedSlip db.slips.fresh tenantId
          contract.teacher.id year month cols worked = row := ⟨_, rfl⟩
      have new : db.slipAt row.slipKey = none := by
        rw [← isRow]
        exact slip
      have all := mirrors_created (by rw [← isRow]; rfl) new fun db₁ cleared =>
        mirrors_fillSlip cleared.filling tenantId cleared.has
          (source_of_teachingItems contract month worked)
          (found_of_pending cleared.adjustments tenantId contract.teacher.id)
      rw [ok_bind, isRow]
      have split := Mirrors.returning
        (S := fun (acc : Db × List Id) book => acc.1.book = book ∧ acc.1.pending = db.pending)
        (f := fun db₁ => (db₁, ids ++ [row.id])) all fun _ _ same => same
      rw [bind_assoc] at split
      generalize linesOf _ = lines at split ⊢
      subst isRow
      cases lines with
      | none => exact split
      | some lines => exact split

theorem source_of_payOf (profile : StaffPayrollProfile) (dto : GeneratePayrollSlipDto) :
    ∀ draft ∈ (payOf profile dto).items, draft.source = none := by
  intro draft mem
  unfold payOf at mem
  split at mem
  · obtain ⟨item, -, rfl⟩ := List.mem_map.mp mem
    rfl
  · unfold profilePay at mem
    simp only [List.mem_append, List.mem_singleton, or_assoc] at mem
    rcases mem with rfl | mem | mem
    · rfl
    · split_ifs at mem
      · rw [List.mem_singleton.mp mem]
      · cases mem
    · split_ifs at mem
      all_goals first
        | rw [List.mem_singleton.mp mem]
        | cases mem

/-- The generation of a slip writes its sheet, whatever slip there was. -/
theorem mirrors_generateSlipForUser (staff : Staff) (dto : GeneratePayrollSlipDto) :
    Mirrors (fun out book => out.1.book = book ∧ out.1.pending = db.pending)
      (generateSlipForUser staff db tenantId dto) (postGenerated staff tenantId dto db.book) := by
  unfold generateSlipForUser postGenerated
  cases staff.profiles.find? fun p => p.tenantId = tenantId ∧ p.user.id = dto.userId with
  | none => exact Mirrors.error _
  | some profile =>
    have sources := source_of_payOf profile dto
    dsimp only [orFail]
    rw [ok_bind, Option.bind_eq_bind, Option.bind_some]
    generalize payOf profile dto = pay at sources ⊢
    unfold generatedSheet
    cases columns : payColumns pay with
    | error e => exact Mirrors.error e
    | ok cols =>
      rw [ok_bind]
      cases slip : db.slipOf tenantId dto.userId dto.year dto.month with
      | some existing =>
        obtain ⟨found, -⟩ := Db.slipOf_spec slip
        have at' : db.slipAt ⟨tenantId, dto.userId, dto.year, dto.month⟩ = some existing := slip
        obtain ⟨db₁, deleted⟩ := db.exists_deleteItems existing.id
        rw [← show db₁.slips = db.slips from Db.write_slips deleted] at found
        obtain ⟨db₂, updated⟩ := Db.exists_updateSlip found (regenerated cols)
        have cleared := cleared_of_deleted at' rfl deleted updated
        have fill := mirrors_createItems cleared.filling tenantId cleared.has sources
        have all := mirrors_rewritten at' rfl cleared rfl fill
          (slipNumber dto.year dto.month profile.user.id)
        dsimp only
        rw [deleted, ok_bind, updated, ok_bind]
        generalize linesOf _ = lines at all ⊢
        cases lines with
        | none => exact all.returning fun _ _ same => same
        | some lines => exact all.returning fun _ _ same => same
      | none =>
        obtain ⟨row, isRow⟩ : ∃ row, generatedSlip db.slips.fresh tenantId
            (slipNumber dto.year dto.month profile.user.id) dto cols = row := ⟨_, rfl⟩
        have new : db.slipAt row.slipKey = none := by
          rw [← isRow]
          exact slip
        have all := mirrors_created (by rw [← isRow]; rfl) new fun db₁ cleared =>
          mirrors_createItems cleared.filling tenantId cleared.has sources
        have split := Mirrors.returning
          (S := fun (out : Db × Id) book => out.1.book = book ∧ out.1.pending = db.pending)
          (f := fun db₁ => (db₁, row.id)) all fun _ _ same => same
        rw [bind_assoc] at split
        dsimp only
        rw [isRow]
        generalize linesOf _ = lines at split ⊢
        subst isRow
        cases lines with
        | none => exact split
        | some lines => exact split

variable {jalaali : Jalaali} {staff : Staff} {dto : CalculateMonthlyPayrollDto}

theorem inForce_of_done {db' : Db} {reply : CalculationReply}
    (done : calculateMonthlyPayroll jalaali staff db tenantId dto = .ok (db', reply)) :
    ∃ range, monthRange jalaali dto.year dto.month = .ok range ∧
      contractsInForce staff tenantId range ≠ [] := by
  simp only [calculateMonthlyPayroll, do_eq_ok] at done
  obtain ⟨range, inMonth, -, inForce, -⟩ := done
  exact ⟨range, inMonth, inForce⟩

/-- A monthly calculation posts the contracts in force, in turn. -/
theorem mirrors_calculateMonthlyPayroll {range : MonthRange}
    (inMonth : monthRange jalaali dto.year dto.month = .ok range)
    (inForce : contractsInForce staff tenantId range ≠ []) :
    Mirrors (fun out book => out.1.book = book ∧ out.1.pending = db.pending)
      (calculateMonthlyPayroll jalaali staff db tenantId dto)
      ((contractsInForce staff tenantId range).foldlM
        (postContract range staff tenantId dto.year dto.month db.pending) db.book) := by
  have run : Mirrors (fun acc book => acc.1.book = book ∧ acc.1.pending = db.pending)
      (inTurn (calculateContract range staff tenantId dto.year dto.month) (db, [])
        (contractsInForce staff tenantId range))
      ((contractsInForce staff tenantId range).foldlM
        (postContract range staff tenantId dto.year dto.month db.pending) db.book) :=
    Mirrors.inTurn (fun c _ acc book ⟨same, pending⟩ => by
      rw [← same, ← pending]
      exact mirrors_calculateContract range staff dto.year dto.month acc.2 c) ⟨rfl, rfl⟩
  unfold calculateMonthlyPayroll require
  dsimp only
  rw [inMonth, ok_bind, if_pos inForce, ok_bind]
  exact run.returning fun _ _ same => same

/-- A monthly calculation, on the book. -/
noncomputable def postMonth (jalaali : Jalaali) (staff : Staff) (tenantId : Id)
    (dto : CalculateMonthlyPayrollDto) (pending : Id → UserId → List PayrollAdjustment)
    (book : Book) : Option Book := do
  let range ← (monthRange jalaali dto.year dto.month).toOption
  let contracts := contractsInForce staff tenantId range
  if contracts = [] then none
  else contracts.foldlM (postContract range staff tenantId dto.year dto.month pending) book

theorem mirrors_postMonth : Mirrors (fun out book => out.1.book = book ∧ out.1.pending = db.pending)
    (calculateMonthlyPayroll jalaali staff db tenantId dto)
    (postMonth jalaali staff tenantId dto db.pending db.book) := by
  unfold postMonth
  cases inMonth : monthRange jalaali dto.year dto.month with
  | error e =>
    unfold calculateMonthlyPayroll
    rw [inMonth]
    exact Mirrors.error e
  | ok range =>
    change Mirrors _ _ (if contractsInForce staff tenantId range = [] then _ else _)
    split_ifs with inForce
    · unfold calculateMonthlyPayroll require
      dsimp only
      rw [inMonth, ok_bind, if_neg (not_not.mpr inForce)]
      exact Mirrors.error _
    · exact mirrors_calculateMonthlyPayroll inMonth inForce

end

/-! ### Runs of calculations -/

/-- A call that draws up slips. -/
structure Drawing where
  tenantId : Id
  staff : Staff
  dto : CalculateMonthlyPayrollDto ⊕ GeneratePayrollSlipDto

def Drawing.request (d : Drawing) : Request where
  tenantId := d.tenantId
  staff := d.staff
  call := d.dto.elim .calculateMonthlyPayroll .generateSlipForUser

/-- What the call makes of the book; where it fails it leaves it. -/
noncomputable def Drawing.post (jalaali : Jalaali)
    (pending : Id → UserId → List PayrollAdjustment) (book : Book) (d : Drawing) : Book :=
  (d.dto.elim (postMonth jalaali d.staff d.tenantId · pending book)
    (postGenerated d.staff d.tenantId · book)).getD book

theorem exec_of_mirrors {α : Type} {jalaali : Jalaali} {db : Db} {r : Request}
    {x : Result (Db × α)} {y : Option Book} (replies : reply jalaali db r = x.map (·.1))
    (mirrors : Mirrors (fun out book => out.1.book = book ∧ out.1.pending = db.pending) x y) :
    (exec jalaali db r).book = y.getD db.book ∧ (exec jalaali db r).pending = db.pending := by
  unfold exec
  rw [replies]
  cases x with
  | ok out =>
    obtain ⟨book, rfl, same⟩ := mirrors.of_ok rfl
    exact same
  | error e =>
    cases y with
    | none => exact ⟨rfl, rfl⟩
    | some book =>
      obtain ⟨_, failed, -⟩ := mirrors.of_some rfl
      cases failed

/-- **Refinement.** Read as books, runs of monthly calculations and of generated slips are runs of
what these calls make of the book. -/
theorem books_refined (jalaali : Jalaali) (db : Db) (ds : List Drawing) :
    (run (exec jalaali) db (ds.map Drawing.request)).book =
      run (Drawing.post jalaali db.pending) db.book ds := by
  induction ds generalizing db with
  | nil => rfl
  | cons d ds ih =>
    have one : (exec jalaali db d.request).book = d.post jalaali db.pending db.book ∧
        (exec jalaali db d.request).pending = db.pending := by
      obtain ⟨tenantId, staff, month | slip⟩ := d
      · exact exec_of_mirrors rfl mirrors_postMonth
      · exact exec_of_mirrors rfl (mirrors_generateSlipForUser staff slip)
    rw [List.map_cons, run_cons, run_cons, ← one.1, ← one.2]
    exact ih _

end Rokad.Payroll
