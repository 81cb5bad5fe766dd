import Rokad.Audit.Chain
import Rokad.Base.Run

/-!
# Handlers in progress

Any number of `audit.log` events, interleaved at will. The handler of each reads the latest row, later
inserts its own, and sets the anchor when the insert has returned; a handler whose process dies, or
whose anchor is lost, does not move again.

* `Honest`: what holds of every table they write. Each row is a written one, and names the genesis or
  a row that was there before it.
* `honest_run`: every interleaving keeps it.
* `anchored_of_inOrder`: the anchor is that of the row inserted last, where no older anchor comes
  after it.
-/

namespace Rokad.Audit

open Rokad.Base Rokad.Common

/-! ### The machine -/

inductive Handler where
  | waiting
  | holding (previous : Option AuditLog) (row : AuditLog)
  | anchoring (row : AuditLog)
  | done

/-- What a handler takes from the host when it reads. -/
structure Clock where
  logId : String
  now : Instant

abbrev Handlers (ι : Type) := Threads Db Handler ι

section

variable {ι : Type} (host : Host) (events : ι → CreateAuditLogDto)

def handlerAct (i : ι) (db : Db) (stage : Handler) (clock : Clock) : Db × Handler :=
  match stage with
  | .waiting =>
    match handleAuditLogEvent.read host clock.logId clock.now (events i) db with
    | none => (db, .done)
    | some row => (db, .holding (db.latest? (events i).tenantId) row)
  | .holding _ row =>
    match db.create row with
    | none => (db, .done)
    | some next => (next, .anchoring row)
  | .anchoring row => (handleAuditLogEvent.anchor row db, .done)
  | .done => (db, .done)

abbrev handlerStep [DecidableEq ι] : Handlers ι → Move ι Clock Empty → Handlers ι :=
  Threads.step (handlerAct host events) fun db _ => db

/-- Tenants and users, and nothing logged yet. -/
def Handlers.begin (tenants users : List String) : Handlers ι := ⟨{ tenants, users }, fun _ => .waiting⟩

end

/-! ### Rows of a tenant -/

/-- The rows of a tenant, in the order they were inserted. -/
def Db.rowsOf (db : Db) (tenantId : String) : List AuditLog :=
  db.logs.filter (·.tenantId = tenantId)

section

variable {db : Db} {t : String}

theorem Db.perm_logsOf (db : Db) (t : String) : (db.logsOf t).Perm (db.rowsOf t) :=
  List.perm_insertionSort _ _

theorem Db.mem_logsOf {log : AuditLog} : log ∈ db.logsOf t ↔ log ∈ db.rowsOf t :=
  (db.perm_logsOf t).mem_iff

/-- Rows of increasing times are read in the order they were inserted. -/
theorem Db.logsOf_eq_rowsOf (increasing : (db.rowsOf t).Pairwise (·.createdAt < ·.createdAt)) :
    db.logsOf t = db.rowsOf t :=
  List.Pairwise.insertionSort_eq (increasing.imp (·.le))

theorem Db.latest?_mem {log : AuditLog} (latest : db.latest? t = some log) : log ∈ db.rowsOf t :=
  (List.mem_insertionSort _).mp (List.mem_of_mem_head? latest)

/-- Of rows of increasing times the latest is the last. -/
theorem Db.latest?_eq_getLast? (increasing : (db.rowsOf t).Pairwise (·.createdAt < ·.createdAt)) :
    db.latest? t = (db.rowsOf t).getLast? := by
  have sorted := List.pairwise_insertionSort (fun a b : AuditLog => b.createdAt ≤ a.createdAt)
    (db.rowsOf t)
  have perm := List.perm_insertionSort (fun a b : AuditLog => b.createdAt ≤ a.createdAt)
    (db.rowsOf t)
  unfold Db.latest?
  change ((db.rowsOf t).insertionSort _).head? = _
  cases descending : (db.rowsOf t).insertionSort fun a b => b.createdAt ≤ a.createdAt with
  | nil =>
    rw [descending] at perm
    rw [← List.Perm.nil_eq perm]
    rfl
  | cons top rest =>
    rw [descending] at perm sorted
    rcases List.eq_nil_or_concat (db.rowsOf t) with empty | ⟨front, last, split⟩
    · rw [empty] at perm
      simp at perm
    · rw [split] at perm increasing ⊢
      have inRows := perm.mem_iff.mp List.mem_cons_self
      have isLast : last ∈ top :: rest := perm.mem_iff.mpr (by simp)
      rw [List.concat_eq_append, List.pairwise_append] at increasing
      have above : last.createdAt ≤ top.createdAt := by
        rcases List.mem_cons.mp isLast with rfl | later
        · exact le_rfl
        · exact (List.pairwise_cons.mp sorted).1 last later
      rw [List.concat_eq_append] at inRows ⊢
      rcases List.mem_append.mp inRows with inFront | isTop
      · exact absurd (increasing.2.2 top inFront last (by simp)) (not_lt.mpr above)
      · simp [List.mem_singleton.mp isTop]

end

/-! ### What an insert does -/

section

variable {host : Host} {t : String}

theorem create_some {db next : Db} {row : AuditLog} (created : db.create row = some next) :
    next = { db with logs := db.logs ++ [row] } ∧ ∀ log ∈ db.logs, log.id ≠ row.id := by
  unfold Db.create at created
  split at created
  · rename_i admitted
    cases created
    exact ⟨rfl, admitted.2.2⟩
  · cases created

theorem rowsOf_create {db next : Db} {row : AuditLog} (created : db.create row = some next) :
    next.rowsOf t = db.rowsOf t ++ if row.tenantId = t then [row] else [] := by
  obtain ⟨rfl, -⟩ := create_some created
  by_cases same : row.tenantId = t <;> simp [Db.rowsOf, same]

/-- The three steps of a handler that nothing interrupts. -/
theorem handleAuditLogEvent_eq (logId : String) (now : Instant) (payload : CreateAuditLogDto)
    (db : Db) :
    handleAuditLogEvent host logId now payload db = db ∨
      ∃ next, db.create (handleAuditLogEvent.row host (db.latest? payload.tenantId) logId now
          payload) = some next ∧
        handleAuditLogEvent host logId now payload db = handleAuditLogEvent.anchor
          (handleAuditLogEvent.row host (db.latest? payload.tenantId) logId now payload) next := by
  unfold handleAuditLogEvent handleAuditLogEvent.read
  split
  · exact .inl rfl
  · rename_i row read
    split at read <;> cases read
    cases created : db.create (handleAuditLogEvent.row host (db.latest? payload.tenantId) logId now
      payload) with
    | none => exact .inl rfl
    | some next => exact .inr ⟨next, rfl, rfl⟩

/-- The name a handler writes is that of the row it has read. -/
theorem row_previousHash {previous : Option AuditLog} {logId : String} {now : Instant}
    {payload : CreateAuditLogDto} (written : ∀ o ∈ previous, Written host o) :
    (handleAuditLogEvent.row host previous logId now payload).previousHash =
        previous.elim (some genesis) (·.hash) ∧
      Written host (handleAuditLogEvent.row host previous logId now payload) := by
  cases previous with
  | none => exact ⟨rfl, ⟨genesis, _, rfl, rfl, .inl rfl, rfl⟩⟩
  | some o =>
    obtain ⟨_, data, -, -, -, hash⟩ := (written o rfl).names
    have name : (truthy ((some o).bind (·.hash))).getD genesis = computeAuditHash host data := by
      have link : IsLink host (computeAuditHash host data) := .inr ⟨_, rfl⟩
      rw [Option.bind_some, hash, link.truthy_eq, Option.getD_some]
    have names : (handleAuditLogEvent.row host (some o) logId now payload).previousHash =
        some (computeAuditHash host data) := congrArg some name
    exact ⟨names.trans hash.symm, ⟨_, _, names, congrArg some name, .inr ⟨_, rfl⟩, rfl⟩⟩

end

/-! ### Every interleaving -/

/-- Each row names the genesis or a row before it. -/
def Grounded (rows : List AuditLog) : Prop :=
  ∀ front log rest, rows = front ++ log :: rest →
    log.previousHash = some genesis ∨ ∃ o ∈ front, log.previousHash = o.hash

theorem Grounded.append {rows : List AuditLog} (grounded : Grounded rows) {log : AuditLog}
    (names : log.previousHash = some genesis ∨ ∃ o ∈ rows, log.previousHash = o.hash) :
    Grounded (rows ++ [log]) := by
  intro front other rest split
  rcases List.eq_nil_or_concat rest with rfl | ⟨rest, last, rfl⟩
  · obtain ⟨rfl, same⟩ := List.append_inj' split rfl
    cases same
    exact names
  · rw [List.concat_eq_append, ← List.cons_append, ← List.append_assoc] at split
    obtain ⟨rfl, -⟩ := List.append_inj' split rfl
    exact grounded front other rest rfl

structure Honest (host : Host) (db : Db) : Prop where
  ids : (db.logs.map (·.id)).Nodup
  written : ∀ log ∈ db.logs, Written host log
  grounded : ∀ t, Grounded (db.rowsOf t)

section

variable {ι : Type} [DecidableEq ι] {host : Host} {events : ι → CreateAuditLogDto}

/-- What a handler in progress has read, or inserted, is a row of the table. -/
def HandlerOwn (host : Host) (events : ι → CreateAuditLogDto) (db : Db) (i : ι) : Handler → Prop
  | .holding previous row => (∀ o ∈ previous, o ∈ db.rowsOf (events i).tenantId) ∧
      ∃ logId now, row = handleAuditLogEvent.row host previous logId now (events i)
  | .anchoring row => row ∈ db.rowsOf row.tenantId
  | _ => True

omit [DecidableEq ι] in
theorem HandlerOwn.create {db next : Db} {i : ι} {stage : Handler} {row : AuditLog}
    (own : HandlerOwn host events db i stage) (created : db.create row = some next) :
    HandlerOwn host events next i stage := by
  have more {t : String} {log : AuditLog} (mem : log ∈ db.rowsOf t) : log ∈ next.rowsOf t := by
    rw [rowsOf_create created]
    exact List.mem_append_left _ mem
  cases stage with
  | waiting | done => trivial
  | holding previous held =>
    obtain ⟨read, made⟩ := own
    exact ⟨fun o isPrevious => more (read o isPrevious), made⟩
  | anchoring held => exact more own

omit [DecidableEq ι] in
theorem HandlerOwn.anchor {db : Db} {i : ι} {stage : Handler}
    (own : HandlerOwn host events db i stage) (row : AuditLog) :
    HandlerOwn host events (handleAuditLogEvent.anchor row db) i stage := by
  cases stage <;> exact own

theorem Honest.create {db next : Db} (honest : Honest host db) {previous : Option AuditLog}
    {logId : String} {now : Instant} {payload : CreateAuditLogDto}
    (read : ∀ o ∈ previous, o ∈ db.rowsOf payload.tenantId)
    (created : db.create (handleAuditLogEvent.row host previous logId now payload) = some next) :
    Honest host next := by
  have fromDb : ∀ o ∈ previous, Written host o := fun o isPrevious =>
    honest.written o (List.mem_of_mem_filter (read o isPrevious))
  obtain ⟨names, written⟩ := @row_previousHash _ _ logId now payload fromDb
  generalize made : handleAuditLogEvent.row host previous logId now payload = row
    at names written created
  have tenant : row.tenantId = payload.tenantId := by rw [← made]; rfl
  obtain ⟨inserted, new⟩ := create_some created
  refine ⟨?_, ?_, fun t => ?_⟩
  · rw [inserted]
    simp only [List.map_append, List.map_cons, List.map_nil]
    refine List.nodup_append.mpr ⟨honest.ids, by simp, ?_⟩
    rintro _ mem _ isRow rfl
    obtain ⟨log, inLogs, id⟩ := List.mem_map.mp mem
    exact new log inLogs (id.trans (List.mem_singleton.mp isRow))
  · rw [inserted]
    intro log mem
    rcases List.mem_append.mp mem with old | isRow
    · exact honest.written log old
    · rw [List.mem_singleton.mp isRow]
      exact written
  · rw [rowsOf_create created]
    split
    · rename_i same
      refine (honest.grounded t).append ?_
      cases previous with
      | none => exact .inl names
      | some o => exact .inr ⟨o, same ▸ tenant ▸ read o rfl, names⟩
    · rw [List.append_nil]
      exact honest.grounded t

/-- The state of handlers that have done nothing but their steps. -/
structure HonestRun (host : Host) (events : ι → CreateAuditLogDto) (p : Handlers ι) : Prop where
  shared : Honest host p.shared
  own : ∀ i, HandlerOwn host events p.shared i (p.own i)

omit [DecidableEq ι] in
theorem HonestRun.act {p : Handlers ι} (honest : HonestRun host events p) (i : ι) (clock : Clock) :
    Honest host (handlerAct host events i p.shared (p.own i) clock).1 ∧
      HandlerOwn host events (handlerAct host events i p.shared (p.own i) clock).1 i
        (handlerAct host events i p.shared (p.own i) clock).2 ∧
      ∀ j, j ≠ i →
        HandlerOwn host events (handlerAct host events i p.shared (p.own i) clock).1 j (p.own j) := by
  obtain ⟨shared, own⟩ := honest
  cases stands : p.own i with
  | done => exact ⟨shared, trivial, fun j _ => own j⟩
  | waiting =>
    unfold handlerAct
    dsimp only
    split
    · exact ⟨shared, trivial, fun j _ => own j⟩
    · rename_i row read
      refine ⟨shared, ⟨fun o latest => Db.latest?_mem latest, clock.logId, clock.now, ?_⟩,
        fun j _ => own j⟩
      unfold handleAuditLogEvent.read at read
      split at read <;> cases read
      rfl
  | holding previous row =>
    have ownI := own i
    rw [stands] at ownI
    obtain ⟨read, logId, now, rfl⟩ := ownI
    unfold handlerAct
    dsimp only
    split
    · exact ⟨shared, trivial, fun j _ => own j⟩
    · rename_i next created
      refine ⟨shared.create read created, ?_, fun j _ => (own j).create created⟩
      change _ ∈ next.rowsOf _
      simp [rowsOf_create created]
  | anchoring row =>
    exact ⟨⟨shared.ids, shared.written, shared.grounded⟩, trivial, fun j _ => (own j).anchor row⟩

theorem HonestRun.keeps {p : Handlers ι} (start : HonestRun host events p)
    (moves : List (Move ι Clock Empty)) :
    HonestRun host events (run (handlerStep host events) p moves) := by
  have along : Along (handlerStep host events) (fun _ _ => True) p moves :=
    along_of_forall fun _ _ => trivial
  obtain ⟨shared, own⟩ := Threads.invariant (Honest host) (HandlerOwn host events)
    (fun p i clock _ honest own => HonestRun.act ⟨honest, own⟩ i clock) (fun _ e => e.elim)
    ⟨start.shared, start.own⟩ along
  exact ⟨shared, own⟩

omit [DecidableEq ι] in
theorem honestRun_begin (tenants users : List String) :
    HonestRun host events (.begin tenants users) where
  shared :=
    { ids := by simp [Handlers.begin]
      written := by simp [Handlers.begin]
      grounded := fun t front log rest split => by simp [Handlers.begin, Db.rowsOf] at split }
  own _ := trivial

/-- **Honest tables.** Whatever the order of the handlers' steps. -/
theorem honest_run (tenants users : List String) (moves : List (Move ι Clock Empty)) :
    HonestRun host events (run (handlerStep host events) (.begin tenants users) moves) :=
  (honestRun_begin tenants users).keeps moves

/-! ### The anchor -/

/-- An anchor of the tenant is set while that of its newest row is still to come: no older one
replaces it. -/
def InsertOrder (t : String) (p : Handlers ι) : Move ι Clock Empty → Prop
  | .thread i _ => ∀ row newest, p.own i = .anchoring row → row.tenantId = t →
      (p.shared.rowsOf t).getLast? = some newest → ∃ j, p.own j = .anchoring newest
  | .world e => e.elim

/-- The anchor is that of the row inserted last, or that one is still to come. -/
def Anchored (t : String) (p : Handlers ι) : Prop :=
  p.shared.anchors.lookup t = (p.shared.rowsOf t).getLast?.bind (·.hash) ∨
    ∃ i newest, (p.shared.rowsOf t).getLast? = some newest ∧ p.own i = .anchoring newest

theorem Anchored.move {t : String} {p : Handlers ι} {move : Move ι Clock Empty}
    (honest : HonestRun host events p) (anchored : Anchored t p) (inOrder : InsertOrder t p move) :
    Anchored t (handlerStep host events p move) := by
  cases move with
  | world e => exact e.elim
  | thread i clock =>
  -- A step that leaves the rows and the anchors of the tenant, of a handler that anchors none.
  have kept {db : Db} {stage : Handler}
      (acts : handlerAct host events i p.shared (p.own i) clock = (db, stage))
      (anchors : db.anchors.lookup t = p.shared.anchors.lookup t)
      (rows : db.rowsOf t = p.shared.rowsOf t)
      (other : ∀ newest, (p.shared.rowsOf t).getLast? = some newest → p.own i ≠ .anchoring newest) :
      Anchored t (handlerStep host events p (.thread i clock)) := by
    simp only [Anchored, Threads.step, acts, anchors, rows]
    refine anchored.imp id ?_
    rintro ⟨j, newest, isNewest, anchors⟩
    have differ : j ≠ i := by
      rintro rfl
      exact other newest isNewest anchors
    exact ⟨j, newest, isNewest, (Function.update_of_ne differ _ _).trans anchors⟩
  cases stands : p.own i with
  | waiting =>
    cases read : handleAuditLogEvent.read host clock.logId clock.now (events i) p.shared <;>
      exact kept (by rw [stands, handlerAct, read]) rfl rfl (by simp [stands])
  | done => exact kept (by rw [stands, handlerAct]) rfl rfl (by simp [stands])
  | holding previous row =>
    cases created : p.shared.create row with
    | none => exact kept (by rw [stands, handlerAct, created]) rfl rfl (by simp [stands])
    | some next =>
      have acts : handlerAct host events i p.shared (p.own i) clock = (next, .anchoring row) := by
        rw [stands, handlerAct, created]
      by_cases same : row.tenantId = t
      · refine .inr ⟨i, row, ?_, ?_⟩ <;> simp [Threads.step, acts, rowsOf_create created, same]
      · exact kept acts (by rw [(create_some created).1]) (by simp [rowsOf_create created, same])
          (by simp [stands])
  | anchoring row =>
    have acts : handlerAct host events i p.shared (p.own i) clock =
        (handleAuditLogEvent.anchor row p.shared, .done) := by
      rw [stands, handlerAct]
    have mem : row ∈ p.shared.rowsOf row.tenantId := by
      simpa only [stands, HandlerOwn] using honest.own i
    by_cases same : row.tenantId = t
    · obtain ⟨newest, isNewest⟩ : ∃ newest, (p.shared.rowsOf t).getLast? = some newest :=
        Option.isSome_iff_exists.mp (List.getLast?_isSome.mpr (List.ne_nil_of_mem (same ▸ mem)))
      obtain ⟨j, anchors⟩ := inOrder row newest stands same isNewest
      by_cases other : j = i
      · subst other
        rw [stands] at anchors
        cases anchors
        obtain ⟨_, data, -, -, -, hash⟩ :=
          (honest.shared.written row (List.mem_of_mem_filter mem)).names
        left
        simp only [Threads.step, acts]
        change ((row.tenantId, row.hash.getD "") :: p.shared.anchors).lookup t =
          (p.shared.rowsOf t).getLast?.bind (·.hash)
        simp [same, isNewest, hash]
      · refine .inr ⟨j, newest, ?_, (Function.update_of_ne other _ _).trans anchors⟩
        simp only [Threads.step, acts]
        exact isNewest
    · have differ : (t == row.tenantId) = false := by simpa using Ne.symm same
      refine kept acts (by simp [handleAuditLogEvent.anchor, List.lookup_cons, differ]) rfl ?_
      rintro newest isNewest anchors
      rw [stands] at anchors
      cases anchors
      have ofTenant := (List.mem_filter.mp (List.mem_of_getLast? isNewest)).2
      exact same (of_decide_eq_true ofTenant)

/-- **The anchor is the newest.** No older anchor has come after it, and it has come. -/
theorem anchored_of_inOrder {t : String} (tenants users : List String)
    {moves : List (Move ι Clock Empty)}
    (inOrder : Along (handlerStep host events) (InsertOrder t) (.begin tenants users) moves)
    (settled : ∀ i row, (run (handlerStep host events) (.begin tenants users) moves).own i =
      .anchoring row → row.tenantId ≠ t) :
    let original := (run (handlerStep host events) (.begin tenants users) moves).shared
    original.anchors.lookup t = (original.rowsOf t).getLast?.bind (·.hash) := by
  obtain ⟨honest, anchored⟩ := run_invariant
    (I := fun p => HonestRun host events p ∧ Anchored t p)
    (fun p move inOrder ⟨honest, anchored⟩ =>
      ⟨honest.keeps [move], anchored.move honest inOrder⟩)
    ⟨honestRun_begin tenants users, .inl rfl⟩ inOrder
  rcases anchored with same | ⟨i, newest, isNewest, anchors⟩
  · exact same
  · have ofTenant := (List.mem_filter.mp (List.mem_of_getLast? isNewest)).2
    exact absurd (of_decide_eq_true ofTenant) (settled i newest anchors)

end

/-! ### Two logins -/

namespace School

def login : Bool → CreateAuditLogDto := fun _ =>
  { tenantId := "school", action := "LOGIN", entity := "User" }

def first : Move Bool Clock Empty := .thread false ⟨"a", 1⟩

def second : Move Bool Clock Empty := .thread true ⟨"b", 2⟩

/-- The second handler reads and inserts before the first has set its anchor. -/
def overlapping : List (Move Bool Clock Empty) := [first, first, second, second, first, second]

end School

end Rokad.Audit
