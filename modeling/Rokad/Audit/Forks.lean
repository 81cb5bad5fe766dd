import Rokad.Audit.Handlers

/-!
# Forks of the chain

A handler names the row that was latest when it read. If each insert still finds that row the
latest, and no row of its time or a later one, the rows are one chain in the order of `createdAt`
(`linear_of_inTurn`). Two handlers that read one after the other and insert afterwards name one row
twice.
-/

namespace Rokad.Audit

open Rokad.Base Rokad.Common

/-- In the order of their times each row names the one before it, and no two name the same. -/
def Linear (t : String) (db : Db) : Prop :=
  Linked genesis (db.logsOf t) ∧ ((db.logsOf t).map (·.previousHash)).Nodup

/-- A handler that inserts a row of the tenant finds the row it has read still the latest, and all
rows of earlier times. -/
def InTurn {ι : Type} (t : String) (p : Handlers ι) : Move ι Clock Empty → Prop
  | .thread i _ => match p.own i with
      | .holding previous row => row.tenantId = t →
          p.shared.latest? t = previous ∧ ∀ log ∈ p.shared.rowsOf t, log.createdAt < row.createdAt
      | _ => True
  | .world e => e.elim

section

variable {host : Host} {t : String} {logs : List AuditLog} {expected : String}

theorem Linked.map_previousHash (linked : Linked expected logs) :
    logs.map (·.previousHash) = (keys expected logs).dropLast := by
  induction logs generalizing expected with
  | nil => rfl
  | cons log logs ih =>
    obtain ⟨names, h, hash, rest⟩ := linked
    rw [List.map_cons, ih rest, names]
    simp [keys, hash]

theorem linear_of_linked {db : Db} (collisionless : host.sha.Collisionless)
    (linked : Linked genesis (db.logsOf t)) (written : ∀ log ∈ db.logsOf t, Written host log) :
    Linear t db := by
  refine ⟨linked, ?_⟩
  rw [linked.map_previousHash]
  exact (linked.keys_nodup collisionless written).sublist (List.dropLast_sublist _)

variable {ι : Type} [DecidableEq ι] {events : ι → CreateAuditLogDto}

/-- The rows of the tenant, in the order they were inserted, are one chain of increasing times. -/
structure InOrder (t : String) (db : Db) : Prop where
  increasing : (db.rowsOf t).Pairwise (·.createdAt < ·.createdAt)
  linked : Linked genesis (db.rowsOf t)

theorem InOrder.create {db next : Db} (order : InOrder t db) {row : AuditLog}
    (written : Written host row)
    (names : row.tenantId = t → row.previousHash =
      (db.rowsOf t).getLast?.elim (some genesis) (·.hash))
    (later : row.tenantId = t → ∀ log ∈ db.rowsOf t, log.createdAt < row.createdAt)
    (created : db.create row = some next) : InOrder t next := by
  have rows := rowsOf_create (t := t) created
  by_cases same : row.tenantId = t
  · rw [if_pos same] at rows
    obtain ⟨name, data, named, -, -, hash⟩ := written.names
    refine ⟨?_, ?_⟩
    · rw [rows]
      refine List.pairwise_append.mpr ⟨order.increasing, by simp, fun log mem other isRow => ?_⟩
      rw [List.mem_singleton.mp isRow]
      exact later same log mem
    · rw [rows, Linked.append]
      refine ⟨order.linked, name, ?_, named, _, hash, trivial⟩
      rw [keys_getLast?, ← names same, named]
  · rw [if_neg same, List.append_nil] at rows
    exact ⟨by rw [rows]; exact order.increasing, by rw [rows]; exact order.linked⟩

theorem InOrder.move {p : Handlers ι} {move : Move ι Clock Empty} (honest : HonestRun host events p)
    (order : InOrder t p.shared) (inTurn : InTurn t p move) :
    InOrder t (handlerStep host events p move).shared := by
  cases move with
  | world e => exact e.elim
  | thread i clock =>
  change InOrder t (handlerAct host events i p.shared (p.own i) clock).1
  cases stands : p.own i with
  | waiting =>
    unfold handlerAct
    dsimp only
    split <;> exact order
  | done => exact order
  | anchoring row => exact ⟨order.increasing, order.linked⟩
  | holding previous row =>
    have own := honest.own i
    simp only [stands, HandlerOwn] at own
    obtain ⟨read, logId, now, rfl⟩ := own
    have fromDb : ∀ o ∈ previous, Written host o := fun o isPrevious =>
      honest.shared.written o (List.mem_of_mem_filter (read o isPrevious))
    obtain ⟨names, written⟩ := @row_previousHash _ _ logId now (events i) fromDb
    simp only [InTurn, stands] at inTurn
    unfold handlerAct
    dsimp only
    split
    · exact order
    · rename_i next created
      refine order.create written (fun same => ?_) (fun same => (inTurn same).2) created
      rw [names, ← Db.latest?_eq_getLast? order.increasing, (inTurn same).1]

/-- **No forks.** Handlers whose inserts are all in turn leave one chain. -/
theorem linear_of_inTurn (collisionless : host.sha.Collisionless) (tenants users : List String)
    (moves : List (Move ι Clock Empty))
    (inTurn : Along (handlerStep host events) (InTurn t) (.begin tenants users) moves) :
    Linear t (run (handlerStep host events) (.begin tenants users) moves).shared := by
  obtain ⟨honest, order⟩ := run_invariant
    (I := fun p => HonestRun host events p ∧ InOrder t p.shared)
    (fun p move inTurn ⟨honest, order⟩ => ⟨honest.keeps [move], order.move honest inTurn⟩)
    ⟨honestRun_begin tenants users,
      ⟨by simp [Handlers.begin, Db.rowsOf], by simp [Handlers.begin, Db.rowsOf, Linked]⟩⟩ inTurn
  have rows := Db.logsOf_eq_rowsOf order.increasing
  refine linear_of_linked collisionless (rows ▸ order.linked) fun log mem => ?_
  exact honest.shared.written log (List.mem_of_mem_filter (rows ▸ mem))

end

theorem linear_of_inTurn_twoLogins : Linear "school" (run (handlerStep .ideal School.login)
    (.begin ["school"] []) School.overlapping).shared := by
  refine linear_of_inTurn Sha256.ideal_collisionless _ _ _
    ⟨trivial, fun _ => ⟨rfl, ?_⟩, trivial, fun _ => ⟨rfl, ?_⟩, trivial, trivial, trivial⟩
  · decide +kernel
  · decide +kernel

/-- Both handlers read before either inserts: both rows name the genesis. -/
theorem not_linear : ¬ ∀ {ι : Type} [DecidableEq ι] {host : Host}
    {events : ι → CreateAuditLogDto} {t : String}, host.sha.Collisionless →
    ∀ (tenants users : List String) (moves : List (Move ι Clock Empty)),
    Linear t (run (handlerStep host events) (.begin tenants users) moves).shared := by
  intro claim
  have linear := @claim Bool _ .ideal School.login "school" Sha256.ideal_collisionless ["school"] []
    [School.first, School.second, School.first, School.second]
  exact absurd linear.2 (by decide +kernel)

end Rokad.Audit
