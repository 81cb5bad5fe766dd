import Rokad.Audit.Handlers

/-!
# An honest log

Events handled one at a time, among rows that other services write without hashes. The verifier
replays the table with what is stored, so it accepts every state of a run in which each event finds
the latest row hashed and stores what prints as what it hashed (`valid_of_replays`). An event with an
app version, with a value that is no object, or after a row without a hash is taken for tampering.
-/

namespace Rokad.Audit

open Rokad.Base Rokad.Common

/-! ### Runs -/

/-- What `RbacService.recordAuditLog` is called with. -/
structure PermissionRecord where
  (tenantId userId action entity entityId : String)
  (oldValues newValues : Option Json := none)

inductive Entry where
  | event (logId : String) (now : Instant) (payload : CreateAuditLogDto)
  | permission (id : String) (now : Instant) (record : PermissionRecord)
  | reveal (id : String) (now : Instant) (reveal : RevealedPassword)

def Entry.now : Entry → Instant
  | .event _ now _ | .permission _ now _ | .reveal _ now _ => now

def enter (host : Host) (db : Db) : Entry → Db
  | .event logId now payload => handleAuditLogEvent host logId now payload db
  | .permission id now r => recordAuditLog host id now r.tenantId r.userId r.action r.entity
      r.entityId r.oldValues r.newValues db
  | .reveal id now reveal => revealAuditLog host id now reveal db

/-- One at a time: every row of the tenant is of an earlier time. -/
def Later (t : String) (db : Db) (entry : Entry) : Prop :=
  ∀ log ∈ db.rowsOf t, log.createdAt < entry.now

/-- What the column gives back prints as the value that was hashed. -/
def Kept (host : Host) (payload : CreateAuditLogDto) : Prop :=
  rawPayload ((newValuesData payload).map host.column.store) = rawPayload payload.newValues
deriving Decidable

/-- An event of the tenant finds the latest row hashed, and its value is kept. -/
def Replays (host : Host) (t : String) (db : Db) : Entry → Prop
  | .event _ _ payload => payload.tenantId = t →
      (∀ log ∈ db.latest? t, (truthy log.hash).isSome) ∧ Kept host payload
  | _ => True

/-! ### What the verifier replays -/

/-- The name that the verifier expects after the rows. -/
def expectedAfter (host : Host) (expected : String) (logs : List AuditLog) : String :=
  logs.foldl (fun _ log => (truthy log.hash).getD (computeAuditHash host log.hashData)) expected

section

variable {host : Host} {t expected : String} {logs : List AuditLog} {db : Db}

theorem checkChain_append {logs' : List AuditLog} :
    checkChain host expected (logs ++ logs') = none ↔ checkChain host expected logs = none ∧
        checkChain host (expectedAfter host expected logs) logs' = none := by
  induction logs generalizing expected with
  | nil => simp [checkChain, expectedAfter]
  | cons log logs ih =>
    rw [List.cons_append, checkChain_cons_eq_none, checkChain_cons_eq_none, ih]
    simp only [expectedAfter, List.foldl_cons, and_assoc]

theorem expectedAfter_of_getLast? :
    expectedAfter host expected logs = logs.getLast?.elim expected fun log =>
      (truthy log.hash).getD (computeAuditHash host log.hashData) := by
  rcases List.eq_nil_or_concat logs with rfl | ⟨front, last, rfl⟩
  · rfl
  · simp [expectedAfter]

/-- The rows of the tenant verify, in the order they were inserted. -/
structure Replayed (host : Host) (t : String) (db : Db) : Prop where
  increasing : (db.rowsOf t).Pairwise (·.createdAt < ·.createdAt)
  checked : checkChain host genesis (db.rowsOf t) = none

section

variable (replayed : Replayed host t db)
include replayed

theorem Replayed.isValid :
    (verifyAuditLogIntegrity host t db).isValid = true := by
  rw [isValid_iff, Db.logsOf_eq_rowsOf replayed.increasing]
  exact replayed.checked

theorem Replayed.append {next : Db} {row : AuditLog}
    (rows : next.rowsOf t = db.rowsOf t ++ [row])
    (later : ∀ log ∈ db.rowsOf t, log.createdAt < row.createdAt)
    (fits : checkChain host (expectedAfter host genesis (db.rowsOf t)) [row] = none) :
    Replayed host t next := by
  refine ⟨?_, ?_⟩
  · rw [rows]
    refine List.pairwise_append.mpr ⟨replayed.increasing, by simp, fun log mem other isRow => ?_⟩
    rw [List.mem_singleton.mp isRow]
    exact later log mem
  · rw [rows, checkChain_append]
    exact ⟨replayed.checked, fits⟩

/-- A row of the tenant is at its end; a row of another changes nothing. -/
theorem Replayed.create {row : AuditLog} {next : Db}
    (created : db.create row = some next)
    (later : ∀ log ∈ db.rowsOf t, log.createdAt < row.createdAt)
    (fits : row.tenantId = t →
      checkChain host (expectedAfter host genesis (db.rowsOf t)) [row] = none) :
    Replayed host t next := by
  have rows := rowsOf_create (t := t) created
  by_cases same : row.tenantId = t
  · exact replayed.append (by rw [rows, if_pos same]) later (fits same)
  · rw [if_neg same, List.append_nil] at rows
    exact ⟨by rw [rows]; exact replayed.increasing, by rw [rows]; exact replayed.checked⟩

end

/-- A row without hash and predecessor is skipped. -/
theorem checkChain_unhashed {row : AuditLog} (noHash : row.hash = none)
    (noName : row.previousHash = none) : checkChain host expected [row] = none := by
  rw [checkChain_cons_eq_none, noHash, noName]
  exact ⟨by simp [truthy], by simp [truthy], rfl⟩

/-- The verifier hashes of a kept row what the handler hashed. -/
theorem chainContent_row {previous : Option AuditLog} {logId : String} {now : Instant}
    {payload : CreateAuditLogDto} (kept : Kept host payload) :
    chainContent host (handleAuditLogEvent.row host previous logId now payload).hashData =
      chainContent host (handleAuditLogEvent.hashData previous logId now payload) := by
  unfold chainContent
  have payloads : rawPayload
      (handleAuditLogEvent.row host previous logId now payload).hashData.payload =
        rawPayload (handleAuditLogEvent.hashData previous logId now payload).payload := kept
  rw [payloads]
  rfl

theorem enter_replayed (replayed : Replayed host t db) {entry : Entry} (later : Later t db entry)
    (replays : Replays host t db entry) : Replayed host t (enter host db entry) := by
  cases entry with
  | event logId now payload =>
    unfold enter
    dsimp only
    rcases @handleAuditLogEvent_eq host logId now payload db with same | ⟨next, created, written⟩
    · rwa [same]
    · rw [written]
      have anchored : Replayed host t next := by
        refine replayed.create created (fun log mem => later log mem) fun same => ?_
        have tenant : payload.tenantId = t := same
        obtain ⟨hashed, kept⟩ := replays tenant
        rw [checkChain_cons_eq_none]
        refine ⟨fun name isName => ?_, fun h isHash => ?_, rfl⟩
        · -- The handler names the row that the verifier expects.
          obtain ⟨named, -⟩ := truthy_eq_some_iff.mp isName
          rw [expectedAfter_of_getLast?, ← Db.latest?_eq_getLast? replayed.increasing]
          cases latest : db.latest? t with
          | none =>
            rw [tenant, latest] at named
            cases named
            rfl
          | some log =>
            obtain ⟨h, isHash⟩ := Option.isSome_iff_exists.mp (hashed log latest)
            rw [tenant, latest] at named
            have eq : (truthy ((some log).bind (·.hash))).getD genesis = name :=
              Option.some.inj named
            rw [Option.bind_some, isHash, Option.getD_some] at eq
            rw [Option.elim_some, isHash, Option.getD_some, eq]
        · obtain ⟨hash, -⟩ := truthy_eq_some_iff.mp isHash
          cases hash
          exact congrArg host.sha.digest (chainContent_row kept).symm
      exact ⟨anchored.increasing, anchored.checked⟩
  | permission id now r =>
    unfold enter recordAuditLog
    dsimp only
    cases created : db.create _ with
    | none => exact replayed
    | some next =>
      exact replayed.create created (fun log mem => later log mem) fun _ =>
        checkChain_unhashed rfl rfl
  | reveal id now reveal =>
    unfold enter revealAuditLog
    dsimp only
    cases created : db.create _ with
    | none => exact replayed
    | some next =>
      exact replayed.create created (fun log mem => later log mem) fun _ =>
        checkChain_unhashed rfl rfl

/-- **An honest log verifies**, as long as its events replay. -/
theorem valid_of_replays (host : Host) (t : String) (tenants users : List String)
    (entries : List Entry)
    (later : Along (enter host) (Later t) { tenants, users } entries)
    (replays : Along (enter host) (Replays host t) { tenants, users } entries) :
    (verifyAuditLogIntegrity host t (run (enter host) { tenants, users } entries)).isValid = true := by
  have both : Along (enter host) (fun db entry => Later t db entry ∧ Replays host t db entry)
      { tenants, users } entries := later.and replays
  exact (run_invariant (I := Replayed host t)
    (fun db entry meets replayed => enter_replayed replayed meets.1 meets.2)
    ⟨by simp [Db.rowsOf], rfl⟩ both).isValid

end

/-! ### A day of a school -/

namespace School

def passed : Json := .obj [("passed", .bool true)]

def graded (now : Instant) (appVersion : Option String) : Entry :=
  .event "g" now
    { tenantId := "school", action := "GRADE", entity := "Exam", newValues := some passed, appVersion }

def loggedOut : Entry := .event "o" 2 { tenantId := "school", action := "LOGOUT", entity := "User" }

def roleChanged : Entry := .permission "r" 3
  { tenantId := "school", userId := "u", action := "UPDATE", entity := "Role", entityId := "1" }

def day : List Entry := [graded 1 none, loggedOut, roleChanged]

end School

theorem valid_of_replays_day : (verifyAuditLogIntegrity .ideal "school"
    (run (enter .ideal) { tenants := ["school"], users := ["u"] } School.day)).isValid = true := by
  refine valid_of_replays _ _ _ _ _ ⟨?_, ?_, ?_, trivial⟩
    ⟨fun _ => ⟨?_, ?_⟩, fun _ => ⟨?_, ?_⟩, trivial, trivial⟩
  · unfold Later
    decide +kernel
  · unfold Later
    decide +kernel
  · unfold Later
    decide +kernel
  · decide +kernel
  · decide +kernel
  · decide +kernel
  · decide +kernel

/-- The text that is hashed lacks the version that the row keeps. -/
theorem School.logsOf_graded : ∃ event, (run (enter .ideal) { tenants := ["school"], users := [] }
      [School.graded 1 (some "1.4")]).logsOf "school" =
        [handleAuditLogEvent.row .ideal none "g" 1 event] ∧
      chainContent .ideal (handleAuditLogEvent.hashData none "g" 1 event) ≠
        chainContent .ideal (handleAuditLogEvent.row .ideal none "g" 1 event).hashData :=
  ⟨_, rfl, by decide +kernel⟩

/-- An app version is stored with the value and not hashed: the row is taken for tampered. -/
theorem not_valid : ¬ ∀ (host : Host) (t : String) (tenants users : List String)
    (entries : List Entry), Along (enter host) (Later t) { tenants, users } entries →
    (verifyAuditLogIntegrity host t (run (enter host) { tenants, users } entries)).isValid =
      true := by
  intro claim
  have valid := claim .ideal "school" ["school"] [] [School.graded 1 (some "1.4")]
    ⟨by unfold Later; decide +kernel, trivial⟩
  obtain ⟨event, rows, differ⟩ := School.logsOf_graded
  have hashed : (handleAuditLogEvent.row .ideal none "g" 1 event).hash =
      some (computeAuditHash .ideal (handleAuditLogEvent.hashData none "g" 1 event)) := rfl
  have link : IsLink .ideal (computeAuditHash .ideal
      (handleAuditLogEvent.hashData none "g" 1 event)) := .inr ⟨_, rfl⟩
  rw [isValid_iff] at valid
  have checked := checkChain_cons_eq_none.mp (rows ▸ valid)
  have same := checked.2.1 _ (by rw [hashed, link.truthy_eq])
  exact differ (Sha256.ideal_collisionless same)

end Rokad.Audit
