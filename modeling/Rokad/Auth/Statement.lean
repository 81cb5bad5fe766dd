import Rokad.Auth.Schema

/-!
# Statements

What the services write to users, families, tokens and sessions. Each statement keeps the foreign
keys; it fails as PostgreSQL would when a constraint or a missing row is in its way. The `_ok`
lemmas say everything a statement that went through did.
-/

namespace Rokad.Auth

open Rokad.Base Rokad.Common

export Rokad.Common (Failure Result)

/-! ### Users -/

/-- The columns an update of a user sets; an absent one keeps its value. -/
structure UserUpdate where
  (phone username nationalId firstName lastName passwordHash : Option String := none)
  status : Option UserStatus := none
  twoFactorRecoveryCodes : Option (List String) := none
  twoFactorLastStepUpAt : Option Instant := none

def UserUpdate.apply (data : UserUpdate) (u : User) : User :=
  { u with
    phone := data.phone <|> u.phone
    username := data.username <|> u.username
    nationalId := data.nationalId <|> u.nationalId
    firstName := data.firstName.getD u.firstName
    lastName := data.lastName.getD u.lastName
    passwordHash := data.passwordHash.getD u.passwordHash
    status := data.status.getD u.status
    twoFactorRecoveryCodes := data.twoFactorRecoveryCodes.getD u.twoFactorRecoveryCodes
    twoFactorLastStepUpAt := data.twoFactorLastStepUpAt <|> u.twoFactorLastStepUpAt }

theorem UserUpdate.key_apply (data : UserUpdate) (u : User) :
    Record.key (data.apply u) = Record.key u := rfl

namespace Db

def updateUser (db : Db) (id : Id) (data : UserUpdate) : Result Db :=
  match updated : db.users.update id data.apply data.key_apply with
  | none => .error (.database
      (if db.users.has (some id) then .uniqueConstraint else .recordNotFound))
  | some users => .ok
      { db with
        users
        foreignKeys :=
          { db.foreignKeys with
            user_tenant := db.foreignKeys.user_tenant.update_child updated fun _ found => found
            family_user := db.foreignKeys.family_user.update_parent updated
            session_user := db.foreignKeys.session_user.update_parent updated
            student_user := db.foreignKeys.student_user.update_parent updated
            teacher_user := db.foreignKeys.teacher_user.update_parent updated
            coach_user := db.foreignKeys.coach_user.update_parent updated
            staff_user := db.foreignKeys.staff_user.update_parent updated
            parent_user := db.foreignKeys.parent_user.update_parent updated } }

/-! ### Families -/

def revoke (reason : String) (f : RefreshTokenFamily) : RefreshTokenFamily :=
  { f with isRevoked := true, revokedReason := some reason }

theorem key_revoke (reason : String) (f : RefreshTokenFamily) :
    Record.key (revoke reason f) = Record.key f := rfl

def createFamily (db : Db) (userId tenantId : Id) : Result Db :=
  if present : db.users.has (some userId) = true then
    match inserted : db.families.insert { id := db.families.fresh, userId, tenantId } with
    | none => .error (.database .uniqueConstraint)
    | some families => .ok
        { db with
          families
          foreignKeys :=
            { db.foreignKeys with
              family_user := db.foreignKeys.family_user.insert_child inserted present
              token_family := db.foreignKeys.token_family.insert_parent inserted } }
  else .error (.database .foreignKey)

def revokeFamily (db : Db) (id : Id) (reason : String) : Result Db :=
  match updated : db.families.update id (revoke reason) (key_revoke reason) with
  | none => .error (.database .recordNotFound)
  | some families => .ok
      { db with
        families
        foreignKeys :=
          { db.foreignKeys with
            family_user := db.foreignKeys.family_user.update_child updated fun _ found => found
            token_family := db.foreignKeys.token_family.update_parent updated } }

/-- The families of a user are revoked: all, or those that are not yet. -/
def revokeFamilies (db : Db) (userId : Id) (activeOnly : Bool) (reason : String) : Db :=
  { db with
    families := db.families.updateMany
      (fun f => f.userId = userId && !(activeOnly && f.isRevoked)) (revoke reason)
      (key_revoke reason) fun _ _ => rfl
    foreignKeys :=
      { db.foreignKeys with
        family_user := db.foreignKeys.family_user.updateMany_child (key_revoke reason)
          (fun _ _ => rfl) fun _ found => found
        token_family := db.foreignKeys.token_family.updateMany_parent (key_revoke reason)
          fun _ _ => rfl } }

/-! ### Tokens -/

def use (k : RefreshToken) : RefreshToken := { k with isUsed := true }

theorem key_use (k : RefreshToken) : Record.key (use k) = Record.key k := rfl

def createToken (db : Db) (familyId : Id) (tokenHash : String) (expiresAt : Instant)
    (ipAddress userAgent : Option String) : Result Db :=
  if present : db.families.has (some familyId) = true then
    match inserted : db.tokens.insert
        { id := db.tokens.fresh, familyId, tokenHash, expiresAt, ipAddress, userAgent } with
    | none => .error (.database .uniqueConstraint)
    | some tokens => .ok
        { db with
          tokens
          foreignKeys :=
            { db.foreignKeys with
              token_family := db.foreignKeys.token_family.insert_child inserted present } }
  else .error (.database .foreignKey)

def useToken (db : Db) (id : Id) : Result Db :=
  match updated : db.tokens.update id use key_use with
  | none => .error (.database .recordNotFound)
  | some tokens => .ok
      { db with
        tokens
        foreignKeys :=
          { db.foreignKeys with
            token_family := db.foreignKeys.token_family.update_child updated fun _ found => found } }

/-- One transaction: the token is marked and its successor inserted, or neither. -/
def rotate (db : Db) (id familyId : Id) (tokenHash : String) (expiresAt : Instant)
    (ipAddress userAgent : Option String) : Result Db := do
  let db ← db.useToken id
  db.createToken familyId tokenHash expiresAt ipAddress userAgent

/-! ### Sessions -/

def endSession (s : UserSession) : UserSession := { s with isRevoked := true }

theorem key_endSession (s : UserSession) : Record.key (endSession s) = Record.key s := rfl

def createSession (db : Db) (row : UserSession) : Result Db :=
  if present : db.users.has (some row.userId) = true then
    match inserted : db.sessions.insert { row with id := db.sessions.fresh } with
    | none => .error (.database .uniqueConstraint)
    | some sessions => .ok
        { db with
          sessions
          foreignKeys :=
            { db.foreignKeys with
              session_user := db.foreignKeys.session_user.insert_child inserted present } }
  else .error (.database .foreignKey)

def findSession (db : Db) (id userId : Id) : Option UserSession :=
  db.sessions.rows.find? fun s => s.id = id ∧ s.userId = userId

def revokeSession (db : Db) (id : Id) : Result Db :=
  match updated : db.sessions.update id endSession key_endSession with
  | none => .error (.database .recordNotFound)
  | some sessions => .ok
      { db with
        sessions
        foreignKeys :=
          { db.foreignKeys with
            session_user := db.foreignKeys.session_user.update_child updated fun _ found => found } }

/-- What `revokeSessions` takes: an active session of the user, other than the one kept. -/
def isOther (userId : Id) (kept : Option String) (s : UserSession) : Bool :=
  s.userId = userId && !s.isRevoked && !(some s.sessionTokenHash = kept : Bool)

def revokeSessions (db : Db) (userId : Id) (kept : Option String) : Db :=
  { db with
    sessions := db.sessions.updateMany (isOther userId kept) endSession key_endSession
      fun _ _ => rfl
    foreignKeys :=
      { db.foreignKeys with
        session_user := db.foreignKeys.session_user.updateMany_child key_endSession
          (fun _ _ => rfl) fun _ found => found } }

/-! ### What they did -/

section

variable {db db' : Db}

theorem updateUser_ok {id : Id} {data : UserUpdate} (done : db.updateUser id data = .ok db') :
    db.users.update id data.apply data.key_apply = some db'.users ∧
      db'.toTables = { db.toTables with users := db'.users } := by
  unfold updateUser at done
  split at done
  · cases done
  · rename_i users updated
    cases done
    exact ⟨updated, rfl⟩

theorem createFamily_ok {userId tenantId : Id} (done : db.createFamily userId tenantId = .ok db') :
    db.families.insert { id := db.families.fresh, userId, tenantId } = some db'.families ∧
      db'.toTables = { db.toTables with families := db'.families } := by
  unfold createFamily at done
  split at done
  · split at done
    · cases done
    · rename_i families inserted
      cases done
      exact ⟨inserted, rfl⟩
  · cases done

theorem revokeFamily_ok {id : Id} {reason : String} (done : db.revokeFamily id reason = .ok db') :
    db.families.update id (revoke reason) (key_revoke reason) = some db'.families ∧
      db'.toTables = { db.toTables with families := db'.families } := by
  unfold revokeFamily at done
  split at done
  · cases done
  · rename_i families updated
    cases done
    exact ⟨updated, rfl⟩

theorem createToken_ok {familyId : Id} {tokenHash : String} {expiresAt : Instant}
    {ipAddress userAgent : Option String}
    (done : db.createToken familyId tokenHash expiresAt ipAddress userAgent = .ok db') :
    db.tokens.insert
        { id := db.tokens.fresh, familyId, tokenHash, expiresAt, ipAddress, userAgent } =
          some db'.tokens ∧
      db'.toTables = { db.toTables with tokens := db'.tokens } := by
  unfold createToken at done
  split at done
  · split at done
    · cases done
    · rename_i tokens inserted
      cases done
      exact ⟨inserted, rfl⟩
  · cases done

theorem useToken_ok {id : Id} (done : db.useToken id = .ok db') :
    db.tokens.update id use key_use = some db'.tokens ∧
      db'.toTables = { db.toTables with tokens := db'.tokens } := by
  unfold useToken at done
  split at done
  · cases done
  · rename_i tokens updated
    cases done
    exact ⟨updated, rfl⟩

theorem createSession_ok {row : UserSession} (done : db.createSession row = .ok db') :
    db.sessions.insert { row with id := db.sessions.fresh } = some db'.sessions ∧
      db'.toTables = { db.toTables with sessions := db'.sessions } := by
  unfold createSession at done
  split at done
  · split at done
    · cases done
    · rename_i sessions inserted
      cases done
      exact ⟨inserted, rfl⟩
  · cases done

theorem revokeSession_ok {id : Id} (done : db.revokeSession id = .ok db') :
    db.sessions.update id endSession key_endSession = some db'.sessions ∧
      db'.toTables = { db.toTables with sessions := db'.sessions } := by
  unfold revokeSession at done
  split at done
  · cases done
  · rename_i sessions updated
    cases done
    exact ⟨updated, rfl⟩

/-- A rotation marks one token and adds one row; nothing else changes. -/
theorem rotate_ok {id familyId : Id} {tokenHash : String} {expiresAt : Instant}
    {ipAddress userAgent : Option String}
    (done : db.rotate id familyId tokenHash expiresAt ipAddress userAgent = .ok db') :
    ∃ used new, db.tokens.update id use key_use = some used ∧
      used.insert new = some db'.tokens ∧ new.familyId = familyId ∧ new.tokenHash = tokenHash ∧
      new.isUsed = false ∧ new.expiresAt = expiresAt ∧
      db'.toTables = { db.toTables with tokens := db'.tokens } := by
  obtain ⟨mid, marked, created⟩ := bind_eq_ok.mp done
  obtain ⟨updated, only⟩ := useToken_ok marked
  obtain ⟨inserted, rest⟩ := createToken_ok created
  refine ⟨mid.tokens, _, updated, inserted, rfl, rfl, rfl, rfl, ?_⟩
  rw [rest, only]

end

/-! ### What they fail with -/

variable {db : Db} {e : Failure}

theorem createFamily_error {userId tenantId : Id}
    (failed : db.createFamily userId tenantId = .error e) : ∃ problem, e = .database problem := by
  unfold createFamily at failed
  split at failed
  · split at failed
    · cases failed
      exact ⟨_, rfl⟩
    · cases failed
  · cases failed
    exact ⟨_, rfl⟩

theorem createToken_error {familyId : Id} {tokenHash : String} {expiresAt : Instant}
    {ipAddress userAgent : Option String}
    (failed : db.createToken familyId tokenHash expiresAt ipAddress userAgent = .error e) :
    ∃ problem, e = .database problem := by
  unfold createToken at failed
  split at failed
  · split at failed
    · cases failed
      exact ⟨_, rfl⟩
    · cases failed
  · cases failed
    exact ⟨_, rfl⟩

theorem useToken_error {id : Id} (failed : db.useToken id = .error e) :
    ∃ problem, e = .database problem := by
  unfold useToken at failed
  split at failed
  · cases failed
    exact ⟨_, rfl⟩
  · cases failed

theorem rotate_error {id familyId : Id} {tokenHash : String} {expiresAt : Instant}
    {ipAddress userAgent : Option String}
    (failed : db.rotate id familyId tokenHash expiresAt ipAddress userAgent = .error e) :
    ∃ problem, e = .database problem := by
  unfold rotate at failed
  cases marked : db.useToken id with
  | error e' =>
    rw [marked] at failed
    cases failed
    exact useToken_error marked
  | ok mid =>
    rw [marked] at failed
    exact createToken_error failed

theorem createSession_error {row : UserSession} (failed : db.createSession row = .error e) :
    ∃ problem, e = .database problem := by
  unfold createSession at failed
  split at failed
  · split at failed
    · cases failed
      exact ⟨_, rfl⟩
    · cases failed
  · cases failed
    exact ⟨_, rfl⟩

end Db

end Rokad.Auth
