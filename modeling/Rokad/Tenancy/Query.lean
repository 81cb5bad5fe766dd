import Rokad.Common.Jalali

/-!
# Queries on tables with a tenant

A database is a table of rows for each model; a row carries the tenant it belongs to. A query
is a model, an operation and its arguments. `query` says what the database engine does with it;
a query that names no tenant where it creates a row is not valid and does nothing.

`Isolated` is noninterference of a query for one tenant: its reply depends on the rows of the
tenant alone, and the rows of the others stay as they are. `isolated_iff_confined` says, for the
queries that go through no relation, which ones have it.
-/

namespace Rokad.Tenancy

open Rokad.Base Rokad.Common

abbrev Model := String

abbrev TenantId := String

structure Row where
  id : String := ""
  tenantId : TenantId
  deletedAt : Option Instant := none
  columns : List (String × String) := []
deriving DecidableEq

abbrev Db := Model → List Row

/-! ### Arguments -/

/-- A filter: the keys `tenantId` and `deletedAt` where they are given, the other keys as far as
they look at the row, and the conditions on related rows. -/
structure Where where
  tenantId : Option (TenantId → Bool) := none
  deletedAt : Option (Option Instant → Bool) := none
  others : Row → Bool := fun _ => true
  related : Option (Db → Row → Bool) := none

/-- What is written: the key `tenantId` where it is given, the other columns, and the writes to
related rows. -/
structure Data where
  tenantId : Option TenantId := none
  set : Row → Row := id
  nested : Option (Db → Db) := none

/-- `beside` is what is read beside the rows that match: related rows that are included, and the
row of a cursor. Order, pagination and selection of columns are applied to the rows. -/
structure Args where
  filter : Where := {}
  data : List Data := []
  (create update : Option Data := none)
  beside : Option (Db → List Row → String) := none

/-- The row by its own columns. -/
def Where.selects (f : Where) (row : Row) : Bool :=
  f.tenantId.elim true (· row.tenantId) && f.deletedAt.elim true (· row.deletedAt) && f.others row

def Where.matches (f : Where) (db : Db) (row : Row) : Bool :=
  f.selects row && f.related.elim true (· db row)

def Data.apply (d : Data) (row : Row) : Row :=
  { d.set row with tenantId := d.tenantId.getD row.tenantId }

/-- A new row, when the tenant is named. -/
def Data.new (d : Data) : Option Row :=
  d.tenantId.map fun tenantId => d.apply { tenantId }

/-! ### Operations -/

inductive Operation where
  | findUnique | findUniqueOrThrow | findFirst | findFirstOrThrow | findMany
  | count | aggregate | groupBy
  | create | createMany | createManyAndReturn
  | update | updateMany | upsert
  | delete | deleteMany
deriving DecidableEq

inductive Kind where
  | read | create | update | upsert | delete

def Operation.kind : Operation → Kind
  | .findUnique | .findUniqueOrThrow | .findFirst | .findFirstOrThrow | .findMany
  | .count | .aggregate | .groupBy => .read
  | .create | .createMany | .createManyAndReturn => .create
  | .update | .updateMany => .update
  | .upsert => .upsert
  | .delete | .deleteMany => .delete

/-- The rows found, written or removed, and what was read beside them. -/
inductive Reply where
  | invalid
  | rows (rows : List Row) (beside : Option String)
deriving DecidableEq

namespace Db

def setTable (db : Db) (model : Model) (rows : List Row) : Db := Function.update db model rows

def nested (db : Db) (data : List Data) : Db :=
  data.foldl (fun db d => d.nested.elim db (· db)) db

end Db

/-- The query answers with these rows. -/
def Args.reply (args : Args) (db : Db) (rows : List Row) : Db × Reply :=
  (db, .rows rows (args.beside.map (· db rows)))

def insertRows (args : Args) (model : Model) (data : List Data) (rows : List Row) (db : Db) :
    Db × Reply :=
  args.reply ((db.setTable model (db model ++ rows)).nested data) rows

/-- The rows that match are written. A `where` on a unique column matches one at most. -/
def updateRows (args : Args) (model : Model) (d : Data) (db : Db) : Db × Reply :=
  let hit := args.filter.matches db
  args.reply
    ((db.setTable model ((db model).map fun row => if hit row then d.apply row else row)).nested
      [d])
    (((db model).filter hit).map d.apply)

def query (model : Model) (operation : Operation) (args : Args) (db : Db) : Db × Reply :=
  let hit := args.filter.matches db
  match operation.kind with
  | .read => args.reply db ((db model).filter hit)
  | .create =>
    match args.data.mapM Data.new with
    | none => (db, .invalid)
    | some rows => insertRows args model args.data rows db
  | .update =>
    match args.data.head? with
    | none => (db, .invalid)
    | some d => updateRows args model d db
  | .upsert =>
    match args.create, args.create.bind Data.new, args.update with
    | some c, some row, some d =>
      if (db model).filter hit = [] then insertRows args model [c] [row] db
      else updateRows args model d db
    | _, _, _ => (db, .invalid)
  | .delete =>
    args.reply (db.setTable model ((db model).filter fun row => ¬ hit row))
      ((db model).filter hit)

/-! ### Noninterference -/

/-- The databases have the same rows of the tenant. -/
def Agree (t : TenantId) (db db' : Db) : Prop :=
  ∀ model, (db model).filter (·.tenantId = t) = (db' model).filter (·.tenantId = t)

/-- What one tenant asks says nothing about the others and changes nothing of theirs. -/
structure Isolated (t : TenantId) (ask : Db → Db × Reply) : Prop where
  result : ∀ db db', Agree t db db' → (ask db).2 = (ask db').2
  others : ∀ db model,
    ((ask db).1 model).filter (·.tenantId ≠ t) = (db model).filter (·.tenantId ≠ t)

/-- The arguments go through no relation. -/
structure Args.Plain (args : Args) : Prop where
  filter : args.filter.related = none
  data : ∀ d ∈ args.data ++ args.create.toList ++ args.update.toList, d.nested = none
  beside : args.beside = none

/-- The filter finds rows of the tenant alone. -/
def Where.Own (t : TenantId) (f : Where) : Prop := ∀ row, f.selects row = true → row.tenantId = t

/-- What is found stays with the tenant. -/
def Data.Keeps (t : TenantId) (f : Where) (d : Data) : Prop :=
  ∀ row, f.selects row = true → (d.apply row).tenantId = t

/-- The query finds rows of the tenant alone, leaves them with it and creates none for others. -/
def Confined (t : TenantId) (operation : Operation) (args : Args) : Prop :=
  match operation.kind with
  | .read | .delete => args.filter.Own t
  | .create => ∀ rows, args.data.mapM Data.new = some rows → ∀ row ∈ rows, row.tenantId = t
  | .update => ∀ d ∈ args.data.head?, args.filter.Own t ∧ d.Keeps t args.filter
  | .upsert => ∀ row ∈ args.create.bind Data.new, ∀ d ∈ args.update,
      row.tenantId = t ∧ args.filter.Own t ∧ d.Keeps t args.filter

/-! ### Queries that go through no relation -/

variable {t : TenantId} {model : Model} {operation : Operation} {args : Args} {f : Where}
  {db db' : Db}

theorem Where.matches_of_none (plain : f.related = none) (db : Db) : f.matches db = f.selects := by
  funext row
  simp [Where.matches, plain]

theorem Db.nested_of_none {data : List Data} (plain : ∀ d ∈ data, d.nested = none) (db : Db) :
    db.nested data = db := by
  induction data with
  | nil => rfl
  | cons d rest ih =>
    have first := plain d List.mem_cons_self
    rw [Db.nested, List.foldl_cons, first]
    exact ih fun d mem => plain d (List.mem_cons_of_mem _ mem)

theorem Args.Plain.reply (plain : args.Plain) (db : Db) (rows : List Row) :
    args.reply db rows = (db, .rows rows none) := by
  rw [Args.reply, plain.beside, Option.map_none]

/-- A filter for the tenant finds the same in databases that agree on it. -/
theorem filter_selects_of_agree (own : f.Own t) (agree : Agree t db db') :
    (db model).filter f.selects = (db' model).filter f.selects := by
  have through : ∀ rows : List Row,
      rows.filter f.selects = (rows.filter (·.tenantId = t)).filter f.selects := by
    intro rows
    rw [List.filter_filter]
    refine List.filter_congr fun row _ => ?_
    cases selected : f.selects row with
    | true => simp [own row selected]
    | false => simp
  rw [through, through (db' model), agree model]

/-- Rows of the others are the same after a change of rows that are, and stay, the tenant's. -/
theorem filter_map_others {g : Row → Row} {rows : List Row}
    (others : ∀ row ∈ rows, row.tenantId ≠ t → g row = row)
    (stay : ∀ row ∈ rows, row.tenantId = t → (g row).tenantId = t) :
    (rows.map g).filter (·.tenantId ≠ t) = rows.filter (·.tenantId ≠ t) := by
  induction rows with
  | nil => rfl
  | cons row rest ih =>
    have tail := ih (fun r mem => others r (List.mem_cons_of_mem _ mem))
      fun r mem => stay r (List.mem_cons_of_mem _ mem)
    by_cases own : row.tenantId = t
    · have kept := stay row List.mem_cons_self own
      simpa [own, kept] using tail
    · have kept := others row List.mem_cons_self own
      simpa [own, kept] using tail

theorem setTable_others {rows : List Row}
    (same : rows.filter (·.tenantId ≠ t) = (db model).filter (·.tenantId ≠ t)) (m : Model) :
    (db.setTable model rows m).filter (·.tenantId ≠ t) = (db m).filter (·.tenantId ≠ t) := by
  unfold Db.setTable
  by_cases this : m = model
  · subst this
    rw [Function.update_self, same]
  · rw [Function.update_of_ne this]

theorem Args.Plain.insertRows (plain : args.Plain) {data : List Data}
    (among : ∀ d ∈ data, d.nested = none) (rows : List Row) (db : Db) :
    insertRows args model data rows db =
      (db.setTable model (db model ++ rows), .rows rows none) := by
  rw [Tenancy.insertRows, Db.nested_of_none among, plain.reply]

theorem Args.Plain.updateRows (plain : args.Plain) {d : Data} (among : d.nested = none) (db : Db) :
    updateRows args model d db = (db.setTable model ((db model).map fun row =>
        if args.filter.selects row then d.apply row else row),
      .rows (((db model).filter args.filter.selects).map d.apply) none) := by
  have nested : ∀ d' ∈ [d], d'.nested = none := by simpa using among
  rw [Tenancy.updateRows, Where.matches_of_none plain.filter, Db.nested_of_none nested, plain.reply]

/-! ### Confined queries are isolated -/

theorem insertRows_others {rows : List Row} (own : ∀ row ∈ rows, row.tenantId = t) :
    (db model ++ rows).filter (·.tenantId ≠ t) = (db model).filter (·.tenantId ≠ t) := by
  have none : rows.filter (·.tenantId ≠ t) = [] := by simpa using own
  rw [List.filter_append, none, List.append_nil]

theorem updateRows_others {d : Data} (own : f.Own t) (keeps : d.Keeps t f) :
    ((db model).map fun row => if f.selects row then d.apply row else row).filter
      (·.tenantId ≠ t) = (db model).filter (·.tenantId ≠ t) := by
  refine filter_map_others (fun row _ other => ?_) fun row _ is => ?_
  · rw [if_neg fun selected => other (own row selected)]
  · split
    · exact keeps row ‹_›
    · exact is

theorem deleteRows_others (own : f.Own t) :
    ((db model).filter fun row => ¬ f.selects row).filter (·.tenantId ≠ t) =
      (db model).filter (·.tenantId ≠ t) := by
  rw [List.filter_filter]
  refine List.filter_congr fun row _ => ?_
  by_cases is : row.tenantId = t
  · simp [is]
  · have spared : f.selects row ≠ true := fun selected => is (own row selected)
    simp [is, spared]

theorem isolated_of_confined (plain : args.Plain) (confined : Confined t operation args) :
    Isolated t (query model operation args) := by
  have mine : ∀ d ∈ args.data ++ args.create.toList ++ args.update.toList, d.nested = none :=
    plain.data
  simp only [List.mem_append, Option.mem_toList] at mine
  unfold Confined at confined
  unfold query
  simp only [Where.matches_of_none plain.filter, plain.reply]
  generalize operation.kind = kind at confined
  cases kind with
  | read =>
    refine ⟨fun db db' agree => ?_, fun db m => rfl⟩
    exact congrArg (Reply.rows · none) (filter_selects_of_agree confined agree)
  | delete =>
    refine ⟨fun db db' agree => ?_, fun db m => setTable_others (deleteRows_others confined) m⟩
    exact congrArg (Reply.rows · none) (filter_selects_of_agree confined agree)
  | create =>
    cases created : args.data.mapM Data.new with
    | none => exact ⟨fun _ _ _ => rfl, fun _ _ => rfl⟩
    | some rows =>
      simp only [plain.insertRows fun d mem => mine d (Or.inl (Or.inl mem))]
      exact ⟨fun _ _ _ => rfl, fun db m =>
        setTable_others (insertRows_others (confined rows created)) m⟩
  | update =>
    cases first : args.data.head? with
    | none => exact ⟨fun _ _ _ => rfl, fun _ _ => rfl⟩
    | some d =>
      obtain ⟨own, keeps⟩ := confined d first
      simp only [plain.updateRows (mine d (Or.inl (Or.inl (List.mem_of_head? first))))]
      refine ⟨fun db db' agree => ?_, fun db m =>
        setTable_others (updateRows_others own keeps) m⟩
      exact congrArg (fun rows => Reply.rows (rows.map d.apply) none)
        (filter_selects_of_agree own agree)
  | upsert =>
    cases create : args.create with
    | none => exact ⟨fun _ _ _ => rfl, fun _ _ => rfl⟩
    | some c =>
      cases new : c.new with
      | none =>
        simp only [Option.bind_some, new]
        exact ⟨fun _ _ _ => rfl, fun _ _ => rfl⟩
      | some row =>
        cases update : args.update with
        | none =>
          simp only [Option.bind_some, new]
          exact ⟨fun _ _ _ => rfl, fun _ _ => rfl⟩
        | some d =>
          rw [create, update, Option.bind_some, new] at confined
          obtain ⟨named, own, keeps⟩ := confined row rfl d rfl
          have nested : ∀ c' ∈ [c], c'.nested = none := by
            simpa using mine c (Or.inl (Or.inr create))
          simp only [Option.bind_some, new, plain.insertRows nested,
            plain.updateRows (mine d (Or.inr update))]
          refine ⟨fun db db' agree => ?_, fun db m => ?_⟩
          · rw [filter_selects_of_agree own agree]
            split
            · rfl
            · rfl
          · split
            · exact setTable_others (insertRows_others (by simpa using named)) m
            · exact setTable_others (updateRows_others own keeps) m

/-! ### Isolated queries are confined -/

/-- A database whose only rows are these, of one model. -/
def Db.only (model : Model) (rows : List Row) : Db := fun m => if m = model then rows else []

@[simp] theorem Db.only_self (model : Model) (rows : List Row) :
    Db.only model rows model = rows := if_pos rfl

@[simp] theorem Db.setTable_self (db : Db) (model : Model) (rows : List Row) :
    db.setTable model rows model = rows := Function.update_self ..

/-- A row of another tenant is as good as none. -/
theorem agree_only (model : Model) (row : Row) (other : row.tenantId ≠ t) :
    Agree t (Db.only model [row]) (Db.only model []) := by
  intro m
  unfold Db.only
  split <;> simp [other]

theorem confined_of_isolated (plain : args.Plain)
    (isolated : Isolated t (query model operation args)) : Confined t operation args := by
  have mine : ∀ d ∈ args.data ++ args.create.toList ++ args.update.toList, d.nested = none :=
    plain.data
  simp only [List.mem_append, Option.mem_toList] at mine
  unfold query at isolated
  simp only [Where.matches_of_none plain.filter, plain.reply] at isolated
  unfold Confined
  generalize operation.kind = kind at isolated
  cases kind with
  | read | delete =>
    intro row selected
    by_contra other
    have same := isolated.result _ _ (agree_only model _ other)
    simp [selected] at same
  | create =>
    intro rows created row mem
    by_contra other
    simp only [created, plain.insertRows fun d mem => mine d (Or.inl (Or.inl mem))] at isolated
    have same := isolated.others (Db.only model []) model
    simp only [Db.setTable_self, Db.only_self, List.nil_append, List.filter_nil,
      List.filter_eq_nil_iff, decide_eq_true_eq, not_not] at same
    exact other (same row mem)
  | update =>
    intro d first
    rw [Option.mem_def] at first
    simp only [first, plain.updateRows (mine d (Or.inl (Or.inl (List.mem_of_head? first))))]
      at isolated
    have own : args.filter.Own t := by
      intro row selected
      by_contra other
      have same := isolated.result _ _ (agree_only model _ other)
      simp [selected] at same
    refine ⟨own, fun row selected => ?_⟩
    have same := isolated.others (Db.only model [row]) model
    simpa [selected, own row selected] using same
  | upsert =>
    intro row named d given
    rw [Option.mem_def] at named given
    obtain ⟨c, create, new⟩ := Option.bind_eq_some_iff.mp named
    have nested : ∀ c' ∈ [c], c'.nested = none := by
      simpa using mine c (Or.inl (Or.inr create))
    simp only [create, Option.bind_some, new, given, plain.insertRows nested,
      plain.updateRows (mine d (Or.inr given))] at isolated
    have mineRow : row.tenantId = t := by
      have same := isolated.others (Db.only model []) model
      simpa using same
    have own : args.filter.Own t := by
      intro found selected
      by_contra other
      have same := isolated.result _ _ (agree_only model _ other)
      have kept := isolated.others (Db.only model [found]) model
      simp only [Db.only_self, List.filter_cons, selected, if_true, List.filter_nil] at same kept
      simp at same kept
      rw [if_pos selected, same, if_neg other] at kept
      simp [mineRow] at kept
    refine ⟨mineRow, own, fun found selected => ?_⟩
    have same := isolated.others (Db.only model [found]) model
    simpa [selected, own found selected] using same

/-- **Noninterference of a query.** -/
theorem isolated_iff_confined (plain : args.Plain) :
    Isolated t (query model operation args) ↔ Confined t operation args :=
  ⟨confined_of_isolated plain, isolated_of_confined plain⟩

end Rokad.Tenancy
