import Mathlib.Data.List.Sort
import Rokad.Base.Json
import Rokad.Common.Jalali

/-!
# The audit log

`AuditLogService` with `computeAuditHash` of `EncryptionService`, and the rows that `RbacService` and
`PasswordVaultService` write beside it. A handler reads the latest row of the tenant and inserts a
row that names its hash; the verifier recomputes the hashes in the order of `createdAt`. Rows of one
instant come in the order of the table.

The digest and the way the database keeps JSON are parameters.
-/

namespace Rokad.Audit

open Rokad.Base Rokad.Common

/-! ### Parameters -/

def isHexDigit (c : Char) : Bool := c.isDigit || ('a' ≤ c && c ≤ 'f')

/-- `createHash('sha256').update(s).digest('hex')` -/
structure Sha256 where
  digest : String → String
  hex : ∀ s, (digest s).toList.all isHexDigit = true
  nonempty : ∀ s, digest s ≠ ""

/-- A `jsonb` column: an equal value comes back, its keys in any order. -/
structure JsonColumn where
  store : Json → Json
  same : ∀ v, (store v).sorted = v.sorted

structure Host where
  sha : Sha256
  auditPepper : String
  column : JsonColumn

/-! ### Tables -/

structure AuditLog where
  (id tenantId : String)
  userId : Option String := none
  (action entity : String)
  entityId : Option String := none
  (oldValues newValues : Option Json := none)
  (ipAddress userAgent previousHash hash : Option String := none)
  createdAt : Instant

structure Db where
  (tenants users : List String := [])
  logs : List AuditLog := []
  /-- The hash last anchored for a tenant, the newest first. -/
  anchors : List (String × String) := []

/-- `auditLog.create`, refused for a key that is taken or a reference to nothing. -/
def Db.create (db : Db) (row : AuditLog) : Option Db :=
  if row.tenantId ∈ db.tenants ∧ (∀ u ∈ row.userId, u ∈ db.users) ∧
      ∀ log ∈ db.logs, log.id ≠ row.id then
    some { db with logs := db.logs ++ [row] }
  else none

/-- `findMany({ where: { tenantId }, orderBy: { createdAt: 'asc' } })` -/
def Db.logsOf (db : Db) (tenantId : String) : List AuditLog :=
  (db.logs.filter (·.tenantId = tenantId)).insertionSort fun a b => a.createdAt ≤ b.createdAt

/-- `findFirst({ where: { tenantId }, orderBy: { createdAt: 'desc' } })` -/
def Db.latest? (db : Db) (tenantId : String) : Option AuditLog :=
  ((db.logs.filter (·.tenantId = tenantId)).insertionSort
    fun a b => b.createdAt ≤ a.createdAt).head?

/-! ### Hashes -/

def genesis : String := "GENESIS_BLOCK_ROKAD_2026"

structure AuditHashData where
  (id tenantId : String)
  userId : Option String
  (action entity : String)
  entityId : Option String
  timestamp : String
  previousHash : Option String
  payload : Option Json

/-- `data.payload ? JSON.stringify(data.payload) : ''` -/
def rawPayload (payload : Option Json) : String :=
  match payload.filter Json.truthy with
  | some value => value.stringify
  | none => ""

def chainContent (host : Host) (data : AuditHashData) : String :=
  "|".intercalate
    [data.id, data.tenantId, (truthy data.userId).getD "SYSTEM", data.action, data.entity,
      (truthy data.entityId).getD "", data.timestamp, (truthy data.previousHash).getD genesis,
      rawPayload data.payload, host.auditPepper]

def computeAuditHash (host : Host) (data : AuditHashData) : String :=
  host.sha.digest (chainContent host data)

/-! ### Writing -/

structure CreateAuditLogDto where
  tenantId : String
  userId : Option String := none
  (action entity : String)
  entityId : Option String := none
  (oldValues newValues : Option Json := none)
  (ipAddress userAgent appVersion : Option String := none)

/-- An entry set in an object: in its place, or after the others. -/
def setEntry (entries : List (String × Json)) (key : String) (value : Json) :
    List (String × Json) :=
  if entries.any (·.1 = key) then entries.map fun e => if e.1 = key then (key, value) else e
  else entries ++ [(key, value)]

/-- `typeof newValues === 'object' && newValues !== null ? newValues : { value: newValues }`,
spread; an entry that is undefined is not printed. -/
def newValuesEntries : Option Json → List (String × Json)
  | none => []
  | some value =>
    match value with
    | .obj _ | .arr _ => value.spread
    | _ => [("value", value)]

def newValuesData (payload : CreateAuditLogDto) : Option Json :=
  if payload.newValues.any Json.truthy ∨ (truthy payload.appVersion).isSome then
    some (.obj (match truthy payload.appVersion with
      | some version => setEntry (newValuesEntries payload.newValues) "_appVersion" (.str version)
      | none => newValuesEntries payload.newValues))
  else none

namespace handleAuditLogEvent

/-- What the handler hashes. -/
def hashData (previous : Option AuditLog) (logId : String) (now : Instant)
    (payload : CreateAuditLogDto) : AuditHashData :=
  { id := logId, tenantId := payload.tenantId, userId := payload.userId, action := payload.action,
    entity := payload.entity, entityId := payload.entityId, timestamp := toISOString now,
    previousHash := some ((truthy (previous.bind (·.hash))).getD genesis),
    payload := payload.newValues }

def row (host : Host) (previous : Option AuditLog) (logId : String) (now : Instant)
    (payload : CreateAuditLogDto) : AuditLog :=
  { id := logId, tenantId := payload.tenantId, userId := payload.userId, action := payload.action,
    entity := payload.entity, entityId := payload.entityId,
    oldValues := (payload.oldValues.filter Json.truthy).map host.column.store,
    newValues := (newValuesData payload).map host.column.store,
    ipAddress := payload.ipAddress, userAgent := payload.userAgent,
    previousHash := (hashData previous logId now payload).previousHash,
    hash := some (computeAuditHash host (hashData previous logId now payload)), createdAt := now }

/-- The row a handler makes of what it reads; an event without a tenant is dropped. -/
def read (host : Host) (logId : String) (now : Instant) (payload : CreateAuditLogDto) (db : Db) :
    Option AuditLog :=
  if payload.tenantId = "" then none
  else some (row host (db.latest? payload.tenantId) logId now payload)

/-- `appendExternalAnchor`, when the insert has returned. -/
def anchor (row : AuditLog) (db : Db) : Db :=
  { db with anchors := (row.tenantId, row.hash.getD "") :: db.anchors }

end handleAuditLogEvent

/-- A handler that nothing else interrupts. A failure is logged and swallowed. -/
def handleAuditLogEvent (host : Host) (logId : String) (now : Instant)
    (payload : CreateAuditLogDto) (db : Db) : Db :=
  match handleAuditLogEvent.read host logId now payload db with
  | none => db
  | some row => (db.create row).elim db (handleAuditLogEvent.anchor row)

/-- `RbacService.recordAuditLog`: no hash and no predecessor. -/
def recordAuditLog (host : Host) (id : String) (now : Instant) (tenantId userId action entity
    entityId : String) (oldValues newValues : Option Json) (db : Db) : Db :=
  (db.create
    { id, tenantId, userId := some userId, action, entity, entityId := some entityId,
      oldValues := (oldValues.filter Json.truthy).map host.column.store,
      newValues := (newValues.filter Json.truthy).map host.column.store,
      createdAt := now }).getD db

/-- What the row of a revealed password tells. -/
structure RevealedPassword where
  (tenantId adminUserId targetUserId targetUserName targetUserRole targetUsername : String)
  (reason ipAddress userAgent : Option String := none)

/-- The row that `PasswordVaultService.revealPassword` writes. -/
def revealAuditLog (host : Host) (id : String) (now : Instant) (reveal : RevealedPassword)
    (db : Db) : Db :=
  (db.create
    { id, tenantId := reveal.tenantId, userId := some reveal.adminUserId,
      action := "PASSWORD_VAULT_REVEAL", entity := "User", entityId := some reveal.targetUserId,
      newValues := some (host.column.store (.obj
        [("targetUserName", .str reveal.targetUserName),
         ("targetUserRole", .str reveal.targetUserRole),
         ("targetUsername", .str reveal.targetUsername),
         ("reason", .str ((truthy reveal.reason).getD
            "مشاهده مستقیم توسط مدیر مدرسه در پنل کاربری"))])),
      ipAddress := truthy reveal.ipAddress, userAgent := truthy reveal.userAgent,
      createdAt := now }).getD db

/-! ### Verifying -/

inductive Verdict where
  | noLogs
  | brokenChainLink (brokenAtLogId expectedPreviousHash actualPreviousHash : String)
  | hashMismatch (tamperedLogId expectedHash recordedHash : String)
  | verified (totalVerified : ℕ) (lastRecordHash : Option String) (externalAnchorVerified : Bool)

namespace Verdict

def isValid : Verdict → Bool
  | .noLogs | .verified _ _ _ => true
  | .brokenChainLink _ _ _ | .hashMismatch _ _ _ => false

def externalAnchorVerified : Verdict → Bool
  | .verified _ _ anchored => anchored
  | _ => false

def message : Verdict → String
  | .noLogs => "هیچ لاگ ممیزی برای این مدرسه ثبت نشده است"
  | .brokenChainLink id _ _ => "هشدار امنیتی: پیوند زنجیره هش در رکورد " ++ id ++ " مخدوش شده است!"
  | .hashMismatch id _ _ =>
    "هشدار امنیتی: محتوای لاگ ممیزی رکورد " ++ id ++ " پس از ثبت دستکاری شده است!"
  | .verified _ _ _ => "زنجیره هش لاگ ممیزی و لنگر خارجی ۱۰۰٪ معتبر و سالم است"

end Verdict

/-- What the verifier hashes of a row. -/
def AuditLog.hashData (log : AuditLog) : AuditHashData :=
  { id := log.id, tenantId := log.tenantId, userId := log.userId, action := log.action,
    entity := log.entity, entityId := log.entityId, timestamp := toISOString log.createdAt,
    previousHash := log.previousHash, payload := log.newValues }

/-- The loop over the rows, up to the first that does not fit. -/
def checkChain (host : Host) (expectedPrevHash : String) : List AuditLog → Option Verdict
  | [] => none
  | log :: logs =>
    match (truthy log.previousHash).filter (· ≠ expectedPrevHash) with
    | some actual => some (.brokenChainLink log.id expectedPrevHash actual)
    | none =>
      let computedHash := computeAuditHash host log.hashData
      match (truthy log.hash).filter (· ≠ computedHash) with
      | some recorded => some (.hashMismatch log.id computedHash recorded)
      | none => checkChain host ((truthy log.hash).getD computedHash) logs

def verifyAuditLogIntegrity (host : Host) (tenantId : String) (db : Db) : Verdict :=
  match (db.logsOf tenantId).getLast? with
  | none => .noLogs
  | some last =>
    match checkChain host genesis (db.logsOf tenantId) with
    | some broken => broken
    | none =>
      .verified (db.logsOf tenantId).length last.hash
        (match truthy (db.anchors.lookup tenantId) with
          | none => true
          | some anchor => last.hash = some anchor)

end Rokad.Audit
